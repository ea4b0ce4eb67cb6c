import XelisWallet.Broadcast
import XelisWallet.MultisigFinalize

/-!
The prepared transactions of a wallet handle of the package (`NativeXelisWallet`).

A call that prepares a transaction runs on the native side, and what it returns is registered when
the reply reaches Dart. The handle accepts one transaction at a time, the one registered last; to
broadcast or discard it passes its generation and hash on. Native calls and their replies may come
in any order. `finalizeMultisigTransaction` is a call that prepares, as far as the slot goes.

A call of the handle has a number, which is also the variable of its native guard. A native task
that panics drops its guard, and the reply is an error of the bridge.
-/

namespace XelisWallet.DartPrepared

open Runs NativeError PreparedStore PreparedGuards Broadcast
open MultisigFinalize (preparedTransactionError)

/-! ### Native results -/

/-- The result of a native preparation, over the kinds `K` of transactions. -/
structure NativePreparedTransaction (H K : Type) where
  hash : H
  preparationId : ℕ
  fee : UInt64
  transaction : K

structure XelisWalletPreparedTransaction (H D : Type) where
  hash : H
  feeAtomic : UInt64
  details : D

variable {H T K D X : Type}

/-- `_preparedTransactionFromGenerated`, with what it does with the kind. -/
def preparedTransactionFromGenerated (detailsFromGenerated : K → Except X D)
    (native : NativePreparedTransaction H K) : Except X (XelisWalletPreparedTransaction H D) := do
  let details ← detailsFromGenerated native.transaction
  .ok ⟨native.hash, native.fee, details⟩

/-- The code of an error, with the one that a wrapped error is classified by. -/
def errorCode (classified : NativeXelisErrorCode) : NativeXelisError → NativeXelisErrorCode
  | .flutter code .. | .wallet code .. => code
  | .walletOperation .. | .upstreamOperation .. | .storageOperation .. => classified

/-- The error of `broadcast_prepared_transaction`. -/
def broadcastError : CallError → NativeXelisError
  | .offline => .upstreamOperation .offline CallError.offline.nativeKind
  | .storage read => .storageOperation (CallError.storage read).nativeKind
  | .invalidHash => .flutter .invalidInput CallError.invalidHash.nativeKind
      "Prepared transaction hash is not valid hexadecimal data"
  | .prepared error => preparedTransactionError error

/-- What `broadcastPreparedTransaction` invalidates the transaction for: a result that is not
retryable, or an error with the code `notFound`. -/
def invalidates (classified : NativeXelisErrorCode) : Told → Bool
  | .submitted | .submittedNeedsResync | .rejected _ | .localFailure _ => true
  | .retryable _ => false
  | .error error => errorCode classified (broadcastError error) = .notFound
  | .dropped _ => false

/-! ### The handle -/

structure NativePreparedTransactionCapability where
  preparationId : ℕ
  active : Bool
  deriving DecidableEq, Repr

/-- Where a call of the handle is. -/
inductive Call (H K : Type)
  | idle
  /-- The native call has not begun its preparation. -/
  | preparing
  /-- The native call holds its preparation guard. -/
  | building
  /-- The native call could not commit, and drops its guard. -/
  | unwinding
  /-- The reply of a preparation is on its way. -/
  | prepared (native : NativePreparedTransaction H K)
  | failed
  /-- The result was malformed, and the native side is asked to cancel it. -/
  | cleaning (preparationId : ℕ) (hash : H)
  | broadcasting (transaction preparationId : ℕ) (hash : H)
  | discarding (transaction preparationId : ℕ) (hash : H)
  /-- The reply of a cancellation is on its way. -/
  | discarded (transaction preparationId : ℕ) (result : PreparedResult Unit)
  /-- A preparation has returned the transaction. -/
  | returned (transaction : ℕ)
  | ended

/-- The handle and the native wallet. A transaction that was registered is named by its place in
`registered`; one made by the consumer has none. -/
structure Handle (H T K D : Type) where
  terminal : Bool
  registered : List (XelisWalletPreparedTransaction H D × NativePreparedTransactionCapability)
  activePreparedTransaction : Option ℕ
  native : Wallet H T
  calls : ℕ → Call H K
  -- the calls whose prepared transactions have reached the handle, oldest first, and the
  -- transactions of the broadcasts that failed to read the storage with the code `notFound`
  delivered : List ℕ
  misread : List ℕ

namespace Handle

def init : Handle H T K D where
  terminal := false
  registered := []
  activePreparedTransaction := none
  native := .init
  calls _ := .idle
  delivered := []
  misread := []

variable (s : Handle H T K D)

def goto (i : ℕ) (call : Call H K) : Handle H T K D :=
  { s with calls := Function.update s.calls i call }

def deactivate (transaction : ℕ) : Handle H T K D :=
  { s with
    registered := s.registered.modify transaction fun r => (r.1, { r.2 with active := false }) }

def invalidatePreparedTransaction (transaction : ℕ) : Handle H T K D :=
  { s.deactivate transaction with
    activePreparedTransaction :=
      if s.activePreparedTransaction = some transaction then none
      else s.activePreparedTransaction }

def invalidateActivePreparedTransaction : Handle H T K D :=
  match s.activePreparedTransaction with
  | some transaction => { s.deactivate transaction with activePreparedTransaction := none }
  | none => s

/-- `_preparedCapability`, or `none` for `PREPARED_TRANSACTION_CAPABILITY_INVALID`. -/
def preparedCapability (transaction : ℕ) :
    Option (XelisWalletPreparedTransaction H D × NativePreparedTransactionCapability) :=
  match s.registered[transaction]? with
  | some r =>
    if r.2.active && s.activePreparedTransaction = some transaction then some r else none
  | none => none

/-- `_adaptAndRegisterPreparedTransaction`. -/
def adaptAndRegister (detailsFromGenerated : K → Except X D) (i : ℕ)
    (native : NativePreparedTransaction H K) : Handle H T K D :=
  let s := { s.invalidateActivePreparedTransaction with delivered := s.delivered ++ [i] }
  match preparedTransactionFromGenerated detailsFromGenerated native with
  | .ok transaction =>
    let capability : NativePreparedTransactionCapability := ⟨native.preparationId, true⟩
    { s with
      registered := s.registered ++ [(transaction, capability)]
      activePreparedTransaction := some s.registered.length }.goto i
        (.returned s.registered.length)
  | .error _ => s.goto i (.cleaning native.preparationId native.hash)

/-- The reply of a broadcast. -/
def broadcastReply (i transaction : ℕ) (classified : NativeXelisErrorCode) (told : Told) :
    Handle H T K D :=
  let s := s.goto i .ended
  if invalidates classified told then
    { s.invalidatePreparedTransaction transaction with
      misread := match told with
        | .error (.storage _) => s.misread ++ [transaction]
        | _ => s.misread }
  else s

/-- The reply of `cancel_prepared_transaction` to `discardPreparedTransaction`. -/
def discardReply (i transaction : ℕ) (classified : NativeXelisErrorCode) :
    PreparedResult Unit → Handle H T K D
  | .ok () => (s.goto i .ended).invalidatePreparedTransaction transaction
  | .error error =>
    if errorCode classified (preparedTransactionError error) = .notFound then
      (s.goto i .ended).invalidatePreparedTransaction transaction
    else s.goto i .ended

end Handle

/-! ### The system -/

inductive Action (H T K : Type)
  | prepare (i : ℕ)
  /-- The arguments are refused, by either side. -/
  | refuse (i : ℕ)
  | begin (i : ℕ)
  | commit (i : ℕ) (hash : H) (transaction : T) (fee : UInt64) (kind : K)
  /-- The native preparation ends without a transaction, and drops its guard. -/
  | abandon (i : ℕ)
  | broadcast (i transaction : ℕ)
  | discard (i transaction : ℕ)
  /-- A native broadcast goes on. -/
  | native (action : Broadcast.Action H T)
  /-- The native `cancel_prepared_transaction` runs. -/
  | cancel (i : ℕ)
  | reply (i : ℕ) (classified : NativeXelisErrorCode)
  | close

/-- The steps of a native broadcast that has started. -/
def goesOn : Broadcast.Action H T → Bool
  | .start .. | .other _ => false
  | _ => true

namespace Handle

variable [DecidableEq H] (s : Handle H T K D)

/-- A step on the native store, by call `i`. -/
def operate (i : ℕ) (op : Op H T) (next : Outcome T → Call H K) : Option (Handle H T K D) :=
  (PreparedGuards.step s.native.world op).map fun r =>
    { s with native := { s.native with world := r.1 } }.goto i (next r.2)

/-- The native side cancels, and the result goes to `next`. -/
def cancelExact (i preparationId : ℕ) (hash : H) (next : PreparedResult Unit → Call H K) :
    Option (Handle H T K D) :=
  s.operate i (.cancelExact preparationId hash) fun
    | .transaction result => next (result.map fun _ => ())
    | _ => .ended

def step (detailsFromGenerated : K → Except X D) : Action H T K → Option (Handle H T K D)
  | .prepare i =>
    match s.calls i with
    | .idle => some (s.goto i (if s.terminal then .ended else .preparing))
    | _ => none
  | .refuse i =>
    match s.calls i with
    | .preparing => some (s.goto i .failed)
    | _ => none
  | .begin i =>
    match s.calls i with
    | .preparing => s.operate i (.begin i) fun
      | .generation (.ok _) => .building
      | _ => .failed
    | _ => none
  | .commit i hash transaction fee kind =>
    match s.calls i with
    | .building => s.operate i (.commit i hash transaction) fun
      | .generation (.ok generation) => .prepared ⟨hash, generation, fee, kind⟩
      | _ => .unwinding
    | _ => none
  | .abandon i =>
    match s.calls i with
    | .building | .unwinding => s.operate i (.dropPreparation i) fun _ => .failed
    | _ => none
  | .broadcast i transaction =>
    match s.calls i, s.terminal, s.preparedCapability transaction with
    | .idle, false, some (review, capability) =>
      (Broadcast.step s.native (.start i (.exact capability.preparationId (some review.hash)))).map
        fun native => { s with native }.goto i
          (.broadcasting transaction capability.preparationId review.hash)
    | .idle, _, _ => some (s.goto i .ended)
    | _, _, _ => none
  | .discard i transaction =>
    match s.calls i, s.terminal, s.preparedCapability transaction with
    | .idle, false, some (review, capability) =>
      some (s.goto i (.discarding transaction capability.preparationId review.hash))
    | .idle, _, _ => some (s.goto i .ended)
    | _, _, _ => none
  | .native action =>
    if goesOn action then
      (Broadcast.step s.native action).map fun native => { s with native }
    else none
  | .cancel i =>
    match s.calls i with
    | .discarding transaction preparationId hash =>
      s.cancelExact i preparationId hash (.discarded transaction preparationId)
    | .cleaning preparationId hash => s.cancelExact i preparationId hash fun _ => .ended
    | _ => none
  | .reply i classified =>
    match s.calls i with
    | .prepared native => some (s.adaptAndRegister detailsFromGenerated i native)
    | .failed => some (s.goto i .ended)
    | .broadcasting transaction _ _ =>
      match (s.native.calls i).phase with
      | .done told => some (s.broadcastReply i transaction classified told)
      | _ => none
    | .discarded transaction _ result => some (s.discardReply i transaction classified result)
    | _ => none
  | .close =>
    if s.terminal then none
    else some { s.invalidateActivePreparedTransaction with terminal := true }

end Handle

def handles [DecidableEq H] (T : Type) (detailsFromGenerated : K → Except X D) :
    System (Handle H T K D) (Action H T K) where
  init s := s = .init
  step s a s' := s.step detailsFromGenerated a = some s'

end XelisWallet.DartPrepared
