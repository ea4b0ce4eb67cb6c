import XelisWallet.MultisigFinalize

/-!
The multisig requests of a wallet handle of the package (`NativeXelisWallet`).

A native preparation stores the request in the wallet, where one can be pending, and its reply makes
a request object, which the handle accepts from then on; the one before is given up. The object
names the native request in every further call, with a signing hash that survives its text form.
Native calls run and reply in any order; a cancellation is synchronous. Objects are compared by
identity: a request object that the handle has made is named by its place in `registered`, a share
by its place in `shares`.
-/

namespace XelisWallet.DartMultisig

open Runs NativeError PendingMultisig PreparedStore
open Multisig (mapPendingMultisigError)
open MultisigFinalize (preparedTransactionError)

/-! ### Native results -/

/-- What the handle reads of a signing request, over the hashes `H` and the rest `M`. -/
structure NativeMultisigSigningRequest (H M : Type) where
  requestId : Option ℕ
  signingHash : H
  content : M

structure XelisWalletMultisigSigningRequest (H D : Type) where
  signingHash : H
  details : D

variable {H T M D X : Type}

/-- `_multisigRequestFromGenerated`, with what it does with the rest. -/
def multisigRequestFromGenerated (detailsFromGenerated : M → Except X D)
    (native : NativeMultisigSigningRequest H M) :
    Except X (XelisWalletMultisigSigningRequest H D) := do
  let details ← detailsFromGenerated native.content
  .ok ⟨native.signingHash, details⟩

/-- The code of an error of these calls. What they wrap is never an error of the wallet or of a
JSON-RPC call, so nothing but the fallback classifies it. -/
def errorCode : NativeXelisError → NativeXelisErrorCode
  | .flutter code .. | .wallet code .. => code
  | .walletOperation _ fallbackCode _ | .upstreamOperation fallbackCode _ => fallbackCode
  | .storageOperation _ => .storage

/-- The codes with which `finalize_multisig_transaction` ends before it looks for the request. -/
inductive Refusal : NativeXelisErrorCode → Prop
  /-- The signing hash or a share is malformed. -/
  | arguments (error kind : String) :
      Refusal (errorCode (.walletOperation error .invalidInput kind))
  /-- The slot for prepared transactions, in whatever state it is, allows no preparation. -/
  | slot {H' T' : Type} (slot : PreparedTransactionStore H' T') (error : PreparedTransactionError)
      (h : slot.beginPreparation.1 = .error error) :
      Refusal (errorCode (preparedTransactionError error))
  | panic : Refusal .internal

/-! ### The handle -/

structure NativePendingMultisigRequestCapability where
  requestId : ℕ
  active : Bool
  deriving DecidableEq, Repr

structure NativeMultisigShareCapability where
  request : ℕ
  active : Bool
  deriving DecidableEq, Repr

/-- Where a call of the handle is. -/
inductive Call (H M : Type)
  | idle
  | preparing
  /-- The reply that announces a stored request is on its way. -/
  | prepared (native : NativeMultisigSigningRequest H M)
  | inspecting (request requestId : ℕ) (signingHash : H)
  /-- The share was verified for the request, and the reply is on its way. -/
  | inspected (request : ℕ)
  | finalizing (request requestId : ℕ) (signingHash : H)
  /-- The native call has taken the request, and has to commit the transaction. -/
  | taken (request : ℕ)
  | finalized (request : ℕ) (result : Except NativeXelisErrorCode Unit)
  /-- The reply is an error that changes nothing in Dart. -/
  | failed
  /-- An inspection has returned the share. -/
  | shared (share : ℕ)
  | ended

structure Handle (H T M D : Type) where
  registered : List (XelisWalletMultisigSigningRequest H D × NativePendingMultisigRequestCapability)
  activePendingMultisigRequest : Option ℕ
  shares : List NativeMultisigShareCapability
  native : PendingMultisigStore H T
  calls : ℕ → Call H M
  -- the native ids that have been announced to the handle
  delivered : List ℕ

namespace Handle

def init : Handle H T M D := ⟨[], none, [], .default, fun _ => .idle, []⟩

variable (s : Handle H T M D)

def goto (i : ℕ) (call : Call H M) : Handle H T M D :=
  { s with calls := Function.update s.calls i call }

/-- `_pendingMultisigRequestCapability`, or `none` for `MULTISIG_REQUEST_CAPABILITY_INVALID`. -/
def pendingMultisigRequestCapability (request : ℕ) :
    Option (XelisWalletMultisigSigningRequest H D × NativePendingMultisigRequestCapability) :=
  match s.registered[request]? with
  | some r =>
    if r.2.active && s.activePendingMultisigRequest = some request then some r else none
  | none => none

def deactivate (request : ℕ) : Handle H T M D :=
  { s with
    registered := s.registered.modify request fun r => (r.1, { r.2 with active := false }) }

def invalidatePendingMultisigRequest (request : ℕ) : Handle H T M D :=
  { s.deactivate request with
    activePendingMultisigRequest :=
      if s.activePendingMultisigRequest = some request then none
      else s.activePendingMultisigRequest }

/-- The object becomes the accepted one, and the one before is deactivated. -/
def register (request : XelisWalletMultisigSigningRequest H D) (requestId : ℕ) :
    Handle H T M D :=
  let registered := match s.activePendingMultisigRequest with
    | some previous => (s.deactivate previous).registered
    | none => s.registered
  { s with
    registered := registered ++ [(request, ⟨requestId, true⟩)]
    activePendingMultisigRequest := some registered.length }

/-- The check of a share by `finalizeMultisigTransaction`. -/
def acceptsShare (request share : ℕ) : Bool :=
  match s.shares[share]? with
  | some capability => capability.active && capability.request = request
  | none => false

def inspectMultisigSignatureShare (i request : ℕ) : Handle H T M D :=
  match s.pendingMultisigRequestCapability request with
  | some (r, capability) => s.goto i (.inspecting request capability.requestId r.signingHash)
  | none => s.goto i .ended

def finalizeMultisigTransaction (i request : ℕ) (shares : List ℕ) : Handle H T M D :=
  match s.pendingMultisigRequestCapability request with
  | some (r, capability) =>
    if shares.all (s.acceptsShare request) then
      s.goto i (.finalizing request capability.requestId r.signingHash)
    else s.goto i .ended
  | none => s.goto i .ended

/-- The reply of `inspect_multisig_signature_share`. -/
def shareReply (i request : ℕ) : Handle H T M D :=
  { s.goto i (.shared s.shares.length) with shares := s.shares ++ [⟨request, true⟩] }

/-- The reply of `finalize_multisig_transaction`. -/
def finalizeReply (i request : ℕ) : Except NativeXelisErrorCode Unit → Handle H T M D
  | .ok () | .error .notFound => (s.goto i .ended).invalidatePendingMultisigRequest request
  | .error _ => s.goto i .ended

variable [DecidableEq H]

/-- `_adaptAndRegisterPendingMultisigRequest`. A malformed request is cancelled. -/
def adaptAndRegister (detailsFromGenerated : M → Except X D) (i : ℕ)
    (native : NativeMultisigSigningRequest H M) : Handle H T M D :=
  let s := s.goto i .ended
  match native.requestId with
  | none => s
  | some requestId =>
    let s := { s with delivered := s.delivered ++ [requestId] }
    match multisigRequestFromGenerated detailsFromGenerated native with
    | .ok request => s.register request requestId
    | .error _ =>
      { s with native := (s.native.cancel (E := String) requestId native.signingHash).2 }

/-- `cancelMultisigSigningRequest`, with the native call. -/
def cancelMultisigSigningRequest (request : ℕ) : Handle H T M D :=
  match s.pendingMultisigRequestCapability request with
  | none => s
  | some (r, capability) =>
    match s.native.cancel capability.requestId r.signingHash with
    | (.ok (), native) => { s with native }.invalidatePendingMultisigRequest request
    | (.error error, native) =>
      let error := mapPendingMultisigError error .notFound "MULTISIG_REQUEST_CANCELLATION_FAILED"
      if errorCode error = .notFound then
        { s with native }.invalidatePendingMultisigRequest request
      else { s with native }

end Handle

/-! ### The system -/

inductive Action
  | prepare (i : ℕ)
  | inspect (i request : ℕ)
  | finalize (i request : ℕ) (shares : List ℕ)
  | cancel (request : ℕ)
  /-- The native part of a call goes on. -/
  | native (i : ℕ)
  | reply (i : ℕ)

/-- The calls of the handle, on both sides. The native part of a call may also fail at any time,
with an error that its reply brings to Dart. -/
inductive Step [DecidableEq H] (detailsFromGenerated : M → Except X D) (s : Handle H T M D) :
    Action → Handle H T M D → Prop
  | prepare {i} (hi : s.calls i = .idle) :
      Step detailsFromGenerated s (.prepare i) (s.goto i .preparing)
  /-- `store_pending_multisig_transaction`. -/
  | store {i} (signingHash : H) (payload : T) (content : M) (hi : s.calls i = .preparing) :
      Step detailsFromGenerated s (.native i)
        ({ s with native := (s.native.insert (E := String) signingHash payload).2 }.goto i
          (match (s.native.insert (E := String) signingHash payload).1 with
            | .ok requestId => .prepared ⟨some requestId, signingHash, content⟩
            | .error _ => .failed))
  | announce {i} {native : NativeMultisigSigningRequest H M} (hi : s.calls i = .prepared native) :
      Step detailsFromGenerated s (.reply i) (s.adaptAndRegister detailsFromGenerated i native)
  | inspect {i} (request : ℕ) (hi : s.calls i = .idle) :
      Step detailsFromGenerated s (.inspect i request) (s.inspectMultisigSignatureShare i request)
  | verify {i request requestId} {signingHash : H} {R : Type} (validate : T → Except String R)
      (hi : s.calls i = .inspecting request requestId signingHash)
      (hok : (s.native.validate requestId signingHash validate).isOk) :
      Step detailsFromGenerated s (.native i) (s.goto i (.inspected request))
  | share {i request} (hi : s.calls i = .inspected request) :
      Step detailsFromGenerated s (.reply i) (s.shareReply i request)
  | finalize {i} (request : ℕ) (shares : List ℕ) (hi : s.calls i = .idle) :
      Step detailsFromGenerated s (.finalize i request shares)
        (s.finalizeMultisigTransaction i request shares)
  | refuse {i request requestId} {signingHash : H} {code : NativeXelisErrorCode}
      (hcode : Refusal code) (hi : s.calls i = .finalizing request requestId signingHash) :
      Step detailsFromGenerated s (.native i) (s.goto i (.finalized request (.error code)))
  /-- The native call takes the request, if the signatures verify. -/
  | take {i request requestId} {signingHash : H} {R : Type} (validate : T → Except String R)
      (hi : s.calls i = .finalizing request requestId signingHash) :
      Step detailsFromGenerated s (.native i)
        ({ s with native := (s.native.takeValidated requestId signingHash validate).2 }.goto i
          (match (s.native.takeValidated requestId signingHash validate).1 with
            | .ok _ => .taken request
            | .error error => .finalized request (.error (errorCode
                (mapPendingMultisigError error .invalidInput "MULTISIG_FINALIZATION_INVALID")))))
  /-- The transaction is committed to its slot, or the call fails there. -/
  | commit {i request} (result : Except NativeXelisErrorCode Unit)
      (hi : s.calls i = .taken request) :
      Step detailsFromGenerated s (.native i) (s.goto i (.finalized request result))
  | finalized {i request} {result : Except NativeXelisErrorCode Unit}
      (hi : s.calls i = .finalized request result) :
      Step detailsFromGenerated s (.reply i) (s.finalizeReply i request result)
  | cancel (request : ℕ) :
      Step detailsFromGenerated s (.cancel request) (s.cancelMultisigSigningRequest request)
  /-- A preparation or an inspection fails. -/
  | fail {i} (hi : s.calls i = .preparing ∨ ∃ request requestId signingHash,
        s.calls i = .inspecting request requestId signingHash) :
      Step detailsFromGenerated s (.native i) (s.goto i .failed)
  /-- The reply is an error, or the share that it brings is malformed. -/
  | failed {i} (hi : s.calls i = .failed ∨ ∃ request, s.calls i = .inspected request) :
      Step detailsFromGenerated s (.reply i) (s.goto i .ended)

def handles [DecidableEq H] (T : Type) (detailsFromGenerated : M → Except X D) :
    System (Handle H T M D) Action where
  init s := s = .init
  step := Step detailsFromGenerated

end XelisWallet.DartMultisig
