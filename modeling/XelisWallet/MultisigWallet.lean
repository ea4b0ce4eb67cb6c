import XelisWallet.MultisigQuorum
import XelisWallet.MultisigRequests
import XelisWallet.NativeError
import XelisWallet.PendingMultisig

/-!
Multisig requests between wallets (`multisig.rs`).

The source wallet keeps the request that it made and reads the shares it gets for it. A participant
asks the node for the configuration of the source, finds its own index there and signs. The source
counts the participants of its own configuration: the two counts agree when the node and the source
know the same keys in the same order.
-/

namespace XelisWallet.Multisig

open Fallible JsonText Text NativeError PendingMultisig

variable {T : Types}

structure PendingMultisigTransaction (T : Types) where
  unsigned : UnsignedTransaction T
  state : T.BuilderState
  configuration : MultiSigPayload T
  transactionPreview : NativeMultisigSigningTransaction

/-- What the node says of the multisig of an address. -/
inductive MultisigState (T : Types)
  | active (participants : IndexSet T.Address) (threshold : UInt8)
  | deleted

structure ResolvedMultisigSigningConfiguration where
  threshold : UInt8
  participants : List NativeMultisigParticipant
  signerId : Option UInt8

/-- An opened wallet. While it is online its network handler asks the node for the multisig of an
address. -/
structure Wallet (T : Types) where
  network : Network
  keypair : T.KeyPair
  networkHandler : Option (T.Address → Option (MultisigState T))

def mapPendingMultisigError (error : Failure String) (fallbackCode : NativeXelisErrorCode)
    (fallbackKind : String) : NativeXelisError :=
  match error with
  | .pending error =>
    let (code, kind) := match error with
      | .alreadyPending => (.conflict, "MULTISIG_REQUEST_ALREADY_PENDING")
      | .generationOverflow =>
        (NativeXelisErrorCode.internal, "MULTISIG_REQUEST_GENERATION_OVERFLOW")
      | .notFound => (.notFound, "MULTISIG_REQUEST_NOT_FOUND")
      | .requestMismatch => (.conflict, "MULTISIG_REQUEST_MISMATCH")
    .flutter code kind error.toText
  | .invalid error => .walletOperation error fallbackCode fallbackKind

def parseMultisigSigningHash (S : Suite T) (value : String) : Except NativeXelisError T.Hash :=
  context (S.hashHex.ofText value)
    (.upstreamOperation .invalidInput "MULTISIG_SIGNING_HASH_INVALID")

/-- The loop over the participants remembers the last one that has the key of the wallet. -/
def resolveSignerId (S : Suite T) (walletPublicKey : T.Key) (participants : List T.Address) :
    Option UInt8 :=
  participants.zipIdx.foldl (fun signerId p =>
    if S.addressGetPublicKey p.1 = walletPublicKey then some (UInt8.ofNat p.2) else signerId) none

def resolveActiveMultisigConfiguration (S : Suite T) (state : MultisigState T)
    (walletPublicKey : T.Key) : Except String ResolvedMultisigSigningConfiguration :=
  match state with
  | .deleted => .error "The multisig configuration was not active for this request"
  | .active participants threshold => do
    validateMultisigSetup threshold participants.items.length
    return {
      threshold
      participants := participants.items.mapIdx fun id participant =>
        { id := UInt8.ofNat id, address := S.addressText.toText participant }
      signerId := resolveSignerId S walletPublicKey participants.items }

def createAuthorizedMultisigSignatureShare (S : Suite T) (signingHash : T.Hash)
    (signerId : Option UInt8) (sign : ByteArray → T.Signature) :
    Except String NativeMultisigSignatureShare := do
  let signerId ← context signerId
    "The opened wallet is not an authorized participant for this multisig request"
  let signature := sign (S.hashAsBytes signingHash)
  createMultisigSignatureShare S signingHash signerId signature

def resolveMultisigSigningConfiguration (S : Suite T) (wallet : Wallet T)
    (request : ParsedMultisigSigningRequest T) :
    Except NativeXelisError ResolvedMultisigSigningConfiguration := do
  let source ← context (S.addressText.ofText request.source)
    (.upstreamOperation .invalidInput "MULTISIG_SIGNING_REQUEST_SOURCE_INVALID")
  let getMultisig ← context wallet.networkHandler
    (.flutter .offline "MULTISIG_CONFIGURATION_REQUIRES_ONLINE_WALLET"
      "The wallet must be online to verify a multisig signing request")
  let state ← context (getMultisig source)
    (.upstreamOperation .network "MULTISIG_CONFIGURATION_LOOKUP_FAILED")
  (resolveActiveMultisigConfiguration S state (S.getPublicKey wallet.keypair)).mapError fun error =>
    .walletOperation error .remoteRejected "MULTISIG_CONFIGURATION_INVALID"

def inspectMultisigSigningRequest (S : Suite T) (wallet : Wallet T) (ephemeral : T.KeyPair)
    (encoded : String) : Except NativeXelisError NativeMultisigSigningRequest := do
  let parsed ← (parseMultisigSigningRequest S ephemeral encoded wallet.network).mapError
    fun error => .walletOperation error .invalidInput "MULTISIG_SIGNING_REQUEST_INVALID"
  let configuration ← resolveMultisigSigningConfiguration S wallet parsed
  return parsed.intoRequest S none configuration.threshold configuration.participants
    configuration.signerId

def signMultisigSigningRequest (S : Suite T) (wallet : Wallet T) (ephemeral : T.KeyPair)
    (encoded : String) : Except NativeXelisError NativeMultisigSignatureShare := do
  let parsed ← (parseMultisigSigningRequest S ephemeral encoded wallet.network).mapError
    fun error => .walletOperation error .invalidInput "MULTISIG_SIGNING_REQUEST_INVALID"
  let configuration ← resolveMultisigSigningConfiguration S wallet parsed
  (createAuthorizedMultisigSignatureShare S parsed.signingHash configuration.signerId
    (S.sign wallet.keypair)).mapError fun error =>
      .walletOperation error .invalidInput "MULTISIG_PARTICIPANT_UNAUTHORIZED"

/-- The pending request of a source wallet. -/
abbrev PendingStore (T : Types) := PendingMultisigStore T.Hash (PendingMultisigTransaction T)

def inspectMultisigSignatureShare (S : Suite T) (pendingMultisig : PendingStore T) (requestId : ℕ)
    (signingHash encoded : String) : Except NativeXelisError NativeMultisigSignatureShare := do
  let expectedSigningHash ← parseMultisigSigningHash S signingHash
  let signature ← (parseMultisigSignatureShare S encoded expectedSigningHash).mapError fun error =>
    .walletOperation error .invalidInput "MULTISIG_SIGNATURE_SHARE_INVALID"
  let _ ← (pendingMultisig.validate requestId expectedSigningHash fun pending =>
    verifyMultisigSignature S expectedSigningHash pending.configuration signature).mapError
      fun error => mapPendingMultisigError error .invalidInput
        "MULTISIG_SIGNATURE_SHARE_VERIFICATION_FAILED"
  return {
    encoded := trim encoded
    signingHash := S.hashHex.toText expectedSigningHash
    signerId := signature.id
    signature := signature.signature }

/-- The request that is made for a transaction, and the store that keeps it. -/
def storePendingMultisigTransaction (S : Suite T) (wallet : Wallet T) (ephemeral : T.KeyPair)
    (pendingMultisig : PendingStore T) (unsigned : UnsignedTransaction T) (state : T.BuilderState)
    (transactionType : TransactionTypeBuilder T) (configuration : MultiSigPayload T)
    (targetFee : UInt64) : Except NativeXelisError NativeMultisigSigningRequest × PendingStore T :=
  let signingHash := S.getHashForMultisig unsigned
  match createMultisigSigningRequest S ephemeral unsigned transactionType configuration
      wallet.network wallet.keypair with
  | .error error =>
    (.error (.walletOperation error .serialization "MULTISIG_SIGNING_REQUEST_CREATION_FAILED"),
      pendingMultisig)
  | .ok request =>
    if request.fee ≠ targetFee then
      (.error (.flutter .internal "MULTISIG_TRANSACTION_FEE_MISMATCH"
        s!"Prepared multisig fee {request.fee} differs from requested fixed fee {targetFee}"),
        pendingMultisig)
    else
      let pending := ⟨unsigned, state, configuration, request.transaction⟩
      match pendingMultisig.insert (E := String) signingHash pending with
      | (.error error, pendingMultisig) =>
        (.error (mapPendingMultisigError error .conflict "MULTISIG_REQUEST_STORE_FAILED"),
          pendingMultisig)
      | (.ok requestId, pendingMultisig) =>
        (.ok { request with requestId := some requestId }, pendingMultisig)

/-! ### The index of a participant -/

variable {S : Suite T}

section Index

variable {α β : Type} {P : α → Prop} [DecidablePred P] {f : ℕ → β}

lemma foldl_zipIdx_of_forall_not {as : List α} (h : ∀ a ∈ as, ¬P a) (k : ℕ) (init : Option β) :
    (as.zipIdx k).foldl (fun acc p => if P p.1 then some (f p.2) else acc) init = init := by
  induction as generalizing k with
  | nil => rfl
  | cons a as ih =>
    rw [List.zipIdx_cons, List.foldl_cons, if_neg (h a List.mem_cons_self),
      ih fun a ha => h a (List.mem_cons_of_mem _ ha)]

lemma foldl_zipIdx_of_unique {as : List α} {i : ℕ} {a : α} (hi : as[i]? = some a) (ha : P a)
    (h : ∀ (j : ℕ) b, as[j]? = some b → P b → j = i) (k : ℕ) (init : Option β) : (as.zipIdx k).foldl
    (fun acc p => if P p.1 then some (f p.2) else acc) init = some (f (k + i)) := by
  induction as generalizing k i init with
  | nil => simp at hi
  | cons b as ih =>
    rw [List.zipIdx_cons, List.foldl_cons]
    cases i with
    | zero =>
      obtain rfl : b = a := by simpa using hi
      rw [if_pos ha, foldl_zipIdx_of_forall_not]
      · rfl
      intro c hc hP
      obtain ⟨j, hj⟩ := List.getElem?_of_mem hc
      exact absurd (h (j + 1) c (by simpa using hj) hP) (Nat.succ_ne_zero j)
    | succ i =>
      have hb : ¬P b := fun hb => absurd (h 0 b rfl hb).symm (Nat.succ_ne_zero i)
      rw [if_neg hb, ih (by simpa using hi) fun j c hj hc => Nat.succ.inj (h (j + 1) c (by
        simpa using hj) hc)]
      rw [Nat.add_assoc, Nat.add_comm 1 i]

end Index

lemma resolveSignerId_eq {addresses : List T.Address} {key : T.Key} {i : ℕ}
    (hn : (addresses.map S.addressGetPublicKey).Nodup)
    (hi : (addresses.map S.addressGetPublicKey)[i]? = some key) :
    resolveSignerId S key addresses = some (UInt8.ofNat i) := by
  rw [List.getElem?_map, Option.map_eq_some_iff] at hi
  obtain ⟨a, ha, hkey⟩ := hi
  have hu : ∀ (j : ℕ) b, addresses[j]? = some b → S.addressGetPublicKey b = key → j = i := by
    intro j b hj hb
    have hlt : i < (addresses.map S.addressGetPublicKey).length := by
      rw [List.length_map]
      exact (List.getElem?_eq_some_iff.mp ha).1
    refine ((List.getElem?_inj hlt hn).mp ?_).symm
    rw [List.getElem?_map, List.getElem?_map, ha, hj, Option.map_some, Option.map_some, hkey, hb]
  rw [resolveSignerId, foldl_zipIdx_of_unique ha hkey hu, Nat.zero_add]

lemma resolveSignerId_eq_none {addresses : List T.Address} {key : T.Key}
    (h : key ∉ addresses.map S.addressGetPublicKey) : resolveSignerId S key addresses = none := by
  refine foldl_zipIdx_of_forall_not (P := fun a => S.addressGetPublicKey a = key)
    (f := UInt8.ofNat) ?_ 0 none
  rintro a ha rfl
  exact h (List.mem_map_of_mem ha)

/-! ### From the participant to the source -/

/-- What the wallets need of the suite: shares are read back, and a signature made with a key
verifies under that key. -/
structure SigningLaws (S : Suite T) : Prop extends ShareLaws S where
  verify_sign : ∀ keypair message key, S.decompress (S.getPublicKey keypair) = some key →
    S.verify (S.sign keypair message) message key

/-- An active configuration: at most 255 valid keys, which are different as the elements of a set,
and a threshold between one and their number. -/
structure ActiveConfiguration (S : Suite T) (configuration : MultiSigPayload T) : Prop where
  participants_le : configuration.participants.items.length ≤ maxMultisigParticipants
  valid : ∀ key ∈ configuration.participants.items, ∃ publicKey, S.decompress key = some publicKey
  threshold_pos : 1 ≤ configuration.threshold.toNat
  threshold_le : configuration.threshold.toNat ≤ configuration.participants.items.length

/-- The node of a wallet knows the configuration for the source of a request, in the same order. -/
def NodeKnows (S : Suite T) (configuration : MultiSigPayload T) (wallet : Wallet T)
    (request : ParsedMultisigSigningRequest T) : Prop :=
  ∃ getMultisig source addresses, wallet.networkHandler = some getMultisig ∧
    S.addressText.ofText request.source = some source ∧
    getMultisig source = some (.active addresses configuration.threshold) ∧
    addresses.items.map S.addressGetPublicKey = configuration.participants.items

/-- The participant with index `i` made the share for the hash `h` through
`sign_multisig_signing_request`. -/
def SharedBy (S : Suite T) (configuration : MultiSigPayload T) (h : T.Hash) (i : ℕ)
    (share : NativeMultisigSignatureShare) : Prop :=
  ∃ (wallet : Wallet T) (ephemeral : T.KeyPair) (encoded : String)
    (request : ParsedMultisigSigningRequest T),
    configuration.participants.items[i]? = some (S.getPublicKey wallet.keypair) ∧
    parseMultisigSigningRequest S ephemeral encoded wallet.network = .ok request ∧
    request.signingHash = h ∧ NodeKnows S configuration wallet request ∧
    signMultisigSigningRequest S wallet ephemeral encoded = .ok share

section Share

variable {configuration : MultiSigPayload T} {wallet : Wallet T} {ephemeral : T.KeyPair}
  {encoded : String} {request : ParsedMultisigSigningRequest T} {h : T.Hash} {i : ℕ}
  {share : NativeMultisigSignatureShare}

lemma validateMultisigSetup_eq_ok (hc : ActiveConfiguration S configuration) : validateMultisigSetup
    configuration.threshold configuration.participants.items.length = .ok () := by
  have hpos := hc.threshold_pos
  have hle := hc.threshold_le
  have hne : configuration.threshold ≠ 0 := by
    rintro h0
    rw [h0] at hpos
    exact absurd hpos (by decide)
  simp only [validateMultisigSetup, bind_eq_ok, ensure_eq_ok, exists_const]
  exact ⟨by omega, hc.participants_le, hne, hle⟩

lemma resolve_of_nodeKnows (hc : ActiveConfiguration S configuration)
    (hk : NodeKnows S configuration wallet request) :
    ∃ resolved addresses, resolveMultisigSigningConfiguration S wallet request = .ok resolved ∧
      addresses.map S.addressGetPublicKey = configuration.participants.items ∧
      resolved.signerId = resolveSignerId S (S.getPublicKey wallet.keypair) addresses := by
  obtain ⟨getMultisig, source, addresses, hhandler, hsource, hstate, hmap⟩ := hk
  have hlen : addresses.items.length = configuration.participants.items.length := by
    rw [← hmap, List.length_map]
  refine ⟨⟨configuration.threshold, addresses.items.mapIdx fun id participant =>
    ⟨UInt8.ofNat id, S.addressText.toText participant⟩,
    resolveSignerId S (S.getPublicKey wallet.keypair) addresses.items⟩, addresses.items, ?_, hmap,
    rfl⟩
  simp only [resolveMultisigSigningConfiguration, bind_eq_ok, context_eq_ok]
  refine ⟨source, hsource, getMultisig, hhandler, _, hstate, ?_⟩
  simp only [resolveActiveMultisigConfiguration, hlen, validateMultisigSetup_eq_ok hc]
  rfl

/-- The share of the participant with index `i`. -/
def participantShare (S : Suite T) (h : T.Hash) (i : ℕ) (keypair : T.KeyPair) :
    NativeMultisigSignatureShare :=
  let signature := S.sign keypair (S.hashAsBytes h)
  ⟨(shareEnvelope S h (UInt8.ofNat i) signature).toDoc.text, S.hashHex.toText h, UInt8.ofNat i,
    S.signatureHex.toText signature⟩

/-- **A wallet signs what it shows**, whatever key pairs are made on the way. -/
theorem signed_as_inspected
    (h : signMultisigSigningRequest S wallet ephemeral encoded = .ok share) (other : T.KeyPair) :
    ∃ request, inspectMultisigSigningRequest S wallet other encoded = .ok request ∧
      request.signingHash = share.signingHash ∧ request.signerId = some share.signerId := by
  simp only [signMultisigSigningRequest, createAuthorizedMultisigSignatureShare, bind_eq_ok,
    mapError_eq_ok, context_eq_ok, createMultisigSignatureShare_eq, Except.ok.injEq] at h
  obtain ⟨parsed, hp, resolved, hr, id, hid, rfl⟩ := h
  have hother : parseMultisigSigningRequest S other encoded wallet.network = .ok parsed :=
    parseMultisigSigningRequest_eq_ok.mpr (parseMultisigSigningRequest_eq_ok.mp hp)
  refine ⟨parsed.intoRequest S none resolved.threshold resolved.participants resolved.signerId, ?_,
    rfl, hid⟩
  simp only [inspectMultisigSigningRequest, bind_eq_ok, mapError_eq_ok]
  exact ⟨parsed, hother, resolved, hr, rfl⟩

variable (hc : ActiveConfiguration S configuration)
include hc

lemma sign_of_participant
    (hi : configuration.participants.items[i]? = some (S.getPublicKey wallet.keypair))
    (hp : parseMultisigSigningRequest S ephemeral encoded wallet.network = .ok request)
    (hk : NodeKnows S configuration wallet request) : signMultisigSigningRequest S wallet ephemeral
    encoded = .ok (participantShare S request.signingHash i wallet.keypair) := by
  obtain ⟨resolved, addresses, hr, hmap, hid⟩ := resolve_of_nodeKnows hc hk
  rw [resolveSignerId_eq (by rw [hmap]; exact configuration.participants.nodup)
    (by rw [hmap]; exact hi)] at hid
  simp only [signMultisigSigningRequest, hp, hr, hid, createAuthorizedMultisigSignatureShare,
    context, createMultisigSignatureShare_eq, Except.mapError, bind, Except.bind]
  rfl

lemma sign_of_stranger
    (hi : S.getPublicKey wallet.keypair ∉ configuration.participants.items)
    (hk : ∀ request, parseMultisigSigningRequest S ephemeral encoded wallet.network = .ok request →
      NodeKnows S configuration wallet request) :
    ∃ e, signMultisigSigningRequest S wallet ephemeral encoded = .error e := by
  cases hp : parseMultisigSigningRequest S ephemeral encoded wallet.network with
  | error => simp [signMultisigSigningRequest, hp, Except.mapError, bind, Except.bind]
  | ok request =>
    obtain ⟨resolved, addresses, hr, hmap, hid⟩ := resolve_of_nodeKnows hc (hk request hp)
    rw [resolveSignerId_eq_none (by rwa [hmap])] at hid
    simp [signMultisigSigningRequest, hp, hr, hid, createAuthorizedMultisigSignatureShare, context,
      Except.mapError, bind, Except.bind]

lemma SharedBy.eq (hs : SharedBy S configuration h i share) : ∃ keypair,
    configuration.participants.items[i]? = some (S.getPublicKey keypair) ∧ share = participantShare
    S h i keypair := by
  obtain ⟨wallet, ephemeral, encoded, request, hi, hp, rfl, hk, hsign⟩ := hs
  rw [sign_of_participant hc hi hp hk, Except.ok.injEq] at hsign
  exact ⟨wallet.keypair, hi, hsign.symm⟩

lemma ActiveConfiguration.toNat_ofNat {key : T.Key}
    (hi : configuration.participants.items[i]? = some key) : (UInt8.ofNat i).toNat = i := by
  have hlt : i < configuration.participants.items.length := (List.getElem?_eq_some_iff.mp hi).1
  have hle := hc.participants_le
  unfold maxMultisigParticipants at hle
  rw [UInt8.toNat_ofNat']
  omega

omit hc

lemma verify_of_participant (hS : SigningLaws S) (hc : ActiveConfiguration S configuration)
    {keypair : T.KeyPair}
    (hi : configuration.participants.items[i]? = some (S.getPublicKey keypair)) :
    verifyMultisigSignature S h configuration
      ⟨UInt8.ofNat i, S.signatureHex.toText (S.sign keypair (S.hashAsBytes h))⟩ =
      .ok ⟨UInt8.ofNat i, S.sign keypair (S.hashAsBytes h)⟩ := by
  obtain ⟨key, hkey⟩ := hc.valid _ (List.mem_of_getElem? hi)
  simp only [verifyMultisigSignature, bind_eq_ok, ensure_eq_ok, context_eq_ok, exists_const,
    pure_eq_ok, hc.toNat_ofNat hi]
  exact ⟨_, hi, key, hkey, _, hS.signatureHex _, rfl, hS.verify_sign _ _ _ hkey, rfl⟩

lemma parse_participantShare (hS : ShareLaws S) (h : T.Hash) (i : ℕ) (keypair : T.KeyPair) :
    parseMultisigSignatureShare S (participantShare S h i keypair).encoded h =
      .ok ⟨UInt8.ofNat i, S.signatureHex.toText (S.sign keypair (S.hashAsBytes h))⟩ :=
  parse_shareEnvelope hS h _ _

variable (hS : SigningLaws S)
include hS

lemma inspect_participantShare (hc : ActiveConfiguration S configuration) {keypair : T.KeyPair}
    (hi : configuration.participants.items[i]? = some (S.getPublicKey keypair))
    {store : PendingStore T} {requestId : ℕ} {pending : PendingMultisigTransaction T}
    (hr : store.request = some (requestId, h, pending)) (hp : pending.configuration = configuration)
    : inspectMultisigSignatureShare S store requestId (S.hashHex.toText h)
    (participantShare S h i keypair).encoded = .ok (participantShare S h i keypair) := by
  have hhash : parseMultisigSigningHash S (S.hashHex.toText h) = .ok h :=
    context_eq_ok.mpr (hS.hashHex h)
  have hvalid := store.validate_of_pending (f := fun pending =>
    verifyMultisigSignature S h pending.configuration _) hr
    (by rw [hp]; exact verify_of_participant hS hc hi)
  have htrim : trim (participantShare S h i keypair).encoded =
    (participantShare S h i keypair).encoded := trim_text_obj _
  simp only [inspectMultisigSignatureShare, hhash, parse_participantShare hS.toShareLaws, hvalid,
    htrim, Except.mapError, bind, Except.bind]
  rfl

lemma hash_of_inspect {keypair : T.KeyPair} {store : PendingStore T}
    {requestId : ℕ} {signingHash : String} {accepted : NativeMultisigSignatureShare}
    (ha : inspectMultisigSignatureShare S store requestId signingHash
      (participantShare S h i keypair).encoded = .ok accepted) :
    ∃ id pending, store.request = some (id, h, pending) := by
  simp only [inspectMultisigSignatureShare, bind_eq_ok, mapError_eq_ok] at ha
  obtain ⟨h', -, signature, hp, verified, hv, -⟩ := ha
  obtain rfl : h' = h := hash_of_parse_shareEnvelope hS.toShareLaws hp
  obtain ⟨e, he⟩ | ⟨pending, -, hr, -⟩ := store.validate_cases requestId h' fun pending =>
    verifyMultisigSignature S h' pending.configuration signature
  · rw [hv] at he
    cases he
  · exact ⟨requestId, pending, hr⟩

lemma SharedBy.verified (hc : ActiveConfiguration S configuration)
    (hs : SharedBy S configuration h i share) : ∃ v : SignatureId T, v.id.toNat = i ∧
    parseMultisigSignatureShare S share.encoded h = .ok ⟨v.id, S.signatureHex.toText v.signature⟩ ∧
    verifyMultisigSignature S h configuration ⟨v.id, S.signatureHex.toText v.signature⟩ = .ok v :=
    by
  obtain ⟨keypair, hi, rfl⟩ := hs.eq hc
  exact ⟨⟨UInt8.ofNat i, S.sign keypair (S.hashAsBytes h)⟩, hc.toNat_ofNat hi,
    parse_participantShare hS.toShareLaws h i keypair, verify_of_participant hS hc hi⟩

/-- Threshold many shares of different participants are enough. -/
lemma build_of_shares (hc : ActiveConfiguration S configuration)
    {shares : List (ℕ × NativeMultisigSignatureShare)}
    (hs : ∀ p ∈ shares, SharedBy S configuration h p.1 p.2) (hn : (shares.map Prod.fst).Nodup)
    (hlen : shares.length = configuration.threshold.toNat) : ∃ signatures multisig, shares.mapM
    (fun p => parseMultisigSignatureShare S p.2.encoded h) = .ok signatures ∧ buildVerifiedMultisig
    S h configuration signatures = .ok multisig ∧ multisig.signatures.map (·.id.toNat) = shares.map
    Prod.fst := by
  obtain ⟨verified, hall⟩ := exists_forall₂ fun p hp => (hs p hp).verified hS hc
  have hids : verified.map (·.id.toNat) = shares.map Prod.fst := by
    rw [← List.forall₂_eq_eq_eq, List.forall₂_map_left_iff, List.forall₂_map_right_iff]
    exact hall.flip.imp fun _ _ h => h.1
  have hnodup : (verified.map (·.id)).Nodup := by
    apply List.Nodup.of_map UInt8.toNat
    rw [List.map_map]
    exact hids ▸ hn
  set signatures := verified.map fun v =>
    (⟨v.id, S.signatureHex.toText v.signature⟩ : MultisigSignature) with hsignatures
  have hverified : List.Forall₂ (fun s v => verifyMultisigSignature S h configuration s = .ok v)
      signatures verified := by
    rw [List.forall₂_map_left_iff, List.forall₂_same]
    exact forall_of_forall₂ (hall.imp fun _ _ h => h.2.2)
  refine ⟨signatures, ⟨verified, hnodup⟩, ?_, ?_, hids⟩
  · rw [mapM_eq_ok, List.forall₂_map_right_iff]
    exact hall.imp fun _ _ h => h.2.1
  have hcount : signatures.length = configuration.threshold.toNat := by
    rw [hverified.length_eq, ← hall.length_eq, hlen]
  simp only [buildVerifiedMultisig, bind_eq_ok, ensure_eq_ok, exists_const]
  exact ⟨hcount, foldlM_addVerified.mpr ⟨verified, hverified, hnodup, rfl⟩⟩

omit hS

end Share

/-- **A share reaches the source.** A participant's share carries its index and is accepted by the
source for the request with its hash; threshold many shares of different participants are enough; a
wallet that is no participant makes no share; and a share is accepted for no other hash. -/
theorem participant_shares_accepted (hS : SigningLaws S) {configuration : MultiSigPayload T}
    (hc : ActiveConfiguration S configuration) :
    (∀ i wallet ephemeral encoded request,
      configuration.participants.items[i]? = some (S.getPublicKey wallet.keypair) →
      parseMultisigSigningRequest S ephemeral encoded wallet.network = .ok request →
      NodeKnows S configuration wallet request →
      ∃ share, signMultisigSigningRequest S wallet ephemeral encoded = .ok share ∧
        share.signerId.toNat = i ∧
        ∀ (store : PendingStore T) requestId pending,
          store.request = some (requestId, request.signingHash, pending) →
          pending.configuration = configuration →
          inspectMultisigSignatureShare S store requestId share.signingHash share.encoded =
            .ok share) ∧
    (∀ h (shares : List (ℕ × NativeMultisigSignatureShare)),
      (∀ p ∈ shares, SharedBy S configuration h p.1 p.2) → (shares.map Prod.fst).Nodup →
      shares.length = configuration.threshold.toNat →
      ∃ signatures multisig,
        shares.mapM (fun p => parseMultisigSignatureShare S p.2.encoded h) = .ok signatures ∧
        buildVerifiedMultisig S h configuration signatures = .ok multisig ∧
        multisig.signatures.map (·.id.toNat) = shares.map Prod.fst) ∧
    (∀ wallet ephemeral encoded,
      S.getPublicKey wallet.keypair ∉ configuration.participants.items →
      (∀ request, parseMultisigSigningRequest S ephemeral encoded wallet.network = .ok request →
        NodeKnows S configuration wallet request) →
      ∃ e, signMultisigSigningRequest S wallet ephemeral encoded = .error e) ∧
    ∀ h i share, SharedBy S configuration h i share → ∀ h' ≠ h,
      (∃ e, parseMultisigSignatureShare S share.encoded h' = .error e) ∧
      ∀ (store : PendingStore T) id pending requestId signingHash,
        store.request = some (id, h', pending) →
        ∃ e, inspectMultisigSignatureShare S store requestId signingHash share.encoded =
          .error e := by
  refine ⟨fun i wallet ephemeral encoded request hi hp hk => ?_, fun h shares hs hn hlen =>
    build_of_shares hS hc hs hn hlen,
    fun wallet ephemeral encoded hi hk => sign_of_stranger hc hi hk,
    fun h i share hs h' hne => ?_⟩
  · exact ⟨_, sign_of_participant hc hi hp hk, hc.toNat_ofNat hi,
      fun store requestId pending hr hp =>
      inspect_participantShare hS hc hi hr hp⟩
  · obtain ⟨keypair, -, rfl⟩ := hs.eq hc
    constructor
    · cases hp : parseMultisigSignatureShare S (participantShare S h i keypair).encoded h' with
      | error e => exact ⟨e, rfl⟩
      | ok => exact absurd (hash_of_parse_shareEnvelope hS.toShareLaws hp) hne
    · intro store id pending requestId signingHash hr
      cases hp : inspectMultisigSignatureShare S store requestId signingHash
          (participantShare S h i keypair).encoded with
      | error e => exact ⟨e, rfl⟩
      | ok =>
        obtain ⟨id', pending', hr'⟩ := hash_of_inspect hS hp
        rw [hr] at hr'
        cases hr'
        exact absurd rfl hne

def flagPair : IndexSet Bool := ⟨[false, true], by decide⟩

/-- The second participant of a configuration that needs both, and its node. -/
def flagWallet : Wallet flagTypes := ⟨.testnet, true, some fun _ => some (.active flagPair 2)⟩

def flagConfiguration : MultiSigPayload flagTypes := ⟨2, ⟨[some false, some true], by decide⟩⟩

lemma flagRequests_signingLaws : SigningLaws flagRequests :=
  ⟨⟨flagSuite_shareLaws.hashHex, flagSuite_shareLaws.isHex_hash, flagSuite_shareLaws.signatureHex,
    flagSuite_shareLaws.isHex_signature, flagSuite_shareLaws.shareFromStr⟩,
    flagRequests_laws.verify_sign⟩

lemma flagConfiguration_active : ActiveConfiguration flagRequests flagConfiguration := by
  refine ⟨by decide, fun key h => ?_, by decide, by decide⟩
  obtain rfl | h := List.mem_cons.mp h
  · exact ⟨false, rfl⟩
  · exact ⟨true, List.mem_singleton.mp h⟩

/-- The participant signs the request for the transfer as the second one. -/
theorem flag_participant_signs : ∃ share,
    signMultisigSigningRequest flagRequests flagWallet true flagEncoded = .ok share ∧
      share.signerId.toNat = 1 := by
  obtain ⟨r, hr⟩ := parse_flagEncoded true
  obtain ⟨_, unsigned, _, ha⟩ := parseMultisigSigningRequest_eq_ok.mp hr
  have hsource : flagRequests.addressText.ofText r.source = some (unsigned.source.getD false) := by
    rw [ha.result]
    exact flagHex_roundTrips (by decide) _
  obtain ⟨share, hshare, hid, -⟩ :=
    (participant_shares_accepted flagRequests_signingLaws flagConfiguration_active).1 1 flagWallet
      true flagEncoded r rfl hr ⟨_, _, flagPair, rfl, hsource, rfl, rfl⟩
  exact ⟨share, hshare, hid⟩

end XelisWallet.Multisig
