import XelisWallet.MultisigShares

/-!
Signing requests: the preview of an accepted request describes the transaction that is signed, a
request has one encoding, and a source wallet can make a request for every transaction that
requests support.
-/

namespace XelisWallet.Multisig

open Fallible JsonText Text

variable {T : Types} {S : Suite T}

/-! ### What a preview says -/

/-- The preview `shown` describes the transfer `actual`. Its amount is the one of the proof that
`declared` carries, which verifies against the transfer under the source of the transaction. -/
structure TransferShown (S : Suite T) (network : Network) (source : T.PublicKey)
    (declared : MultisigSigningRequestTransfer) (actual : TransferPayload T)
    (shown : NativeMultisigSigningTransfer) : Prop where
  destination : shown.destination =
    S.addressText.toText (S.toAddress actual.destination network.isMainnet)
  asset : shown.asset = S.hashHex.toText actual.asset
  hasExtraData : shown.hasExtraData = actual.extraData.isSome
  amount : ∃ proof ciphertext, S.proofHex.ofText declared.amountProof = some proof ∧
    S.decompressCiphertext actual.senderCiphertext = some ciphertext ∧
    S.proofAmount proof = shown.amount ∧ S.proofVerify proof source ciphertext

/-- The preview `shown` of a request describes the data of a transaction. -/
def Shown (S : Suite T) (network : Network) (source : T.PublicKey) :
    MultisigSigningRequestTransaction → TransactionType T → NativeMultisigSigningTransaction → Prop
  | .transfers declared, .transfers actual, .transfers shown =>
    declared.length = actual.length ∧ shown.length = actual.length ∧
      ∀ (i : ℕ) d a s, declared[i]? = some d → actual[i]? = some a → shown[i]? = some s →
        TransferShown S network source d a s
  | .burn _ _, .burn actual, .burn asset amount =>
    asset = S.hashHex.toText actual.asset ∧ amount = actual.amount
  | .deleteMultisig, .multiSig actual, .deleteMultisig =>
    actual.threshold = 0 ∧ actual.participants.items = []
  | _, _, _ => False

variable {network : Network} {source : T.PublicKey} {r : ParsedMultisigSigningRequest T}

lemma transferShown_of_validate {declared : MultisigSigningRequestTransfer}
    {actual : TransferPayload T} {shown : NativeMultisigSigningTransfer}
    (h : validateAndBuildTransferPreview S network source declared actual = .ok shown) :
    TransferShown S network source declared actual shown := by
  simp only [validateAndBuildTransferPreview, bind_eq_ok, ensure_eq_ok, context_eq_ok, exists_const,
    pure_eq_ok] at h
  obtain ⟨hd, ha, he, proof, hproof, -, hamount, ciphertext, hc, hv, rfl⟩ := h
  exact ⟨hd, ha, he, proof, ciphertext, hproof, hc, hamount, hv⟩

lemma isDelete_iff {m : MultiSigPayload T} :
    m.isDelete = true ↔ m.threshold = 0 ∧ m.participants.items = [] := by
  simp [MultiSigPayload.isDelete]

lemma shown_of_validate {declared : MultisigSigningRequestTransaction} {actual : TransactionType T}
    {shown : NativeMultisigSigningTransaction}
    (h : validateAndBuildTransactionPreview S declared actual network source = .ok shown) :
    Shown S network source declared actual shown := by
  unfold validateAndBuildTransactionPreview at h
  split at h
  case h_1 declared actual =>
    simp only [bind_eq_ok, ensure_eq_ok, exists_const, pure_eq_ok, mapM_eq_ok] at h
    obtain ⟨hlen, transfers, hall, rfl⟩ := h
    have hshown := hall.length_eq
    rw [List.length_zip, hlen, Nat.min_self] at hshown
    refine ⟨hlen, hshown.symm, fun i d a s hd ha hs => ?_⟩
    have hzip : (declared.zip actual)[i]? = some (d, a) := List.getElem?_zip_eq_some.mpr ⟨hd, ha⟩
    have hvalidate := forall₂_getElem? hall hzip hs
    exact transferShown_of_validate hvalidate
  case h_2 =>
    simp only [bind_eq_ok, ensure_eq_ok, exists_const, pure_eq_ok] at h
    obtain ⟨-, rfl⟩ := h
    exact ⟨rfl, rfl⟩
  case h_3 =>
    simp only [bind_eq_ok, ensure_eq_ok, exists_const, pure_eq_ok] at h
    obtain ⟨hdelete, rfl⟩ := h
    exact isDelete_iff.mp hdelete
  case h_4 => cases h

/-- What a participant is shown of a transaction. -/
def acceptedRequest (S : Suite T) (encoded : String) (network : Network)
    (unsigned : UnsignedTransaction T) (shown : NativeMultisigSigningTransaction) :
    ParsedMultisigSigningRequest T where
  encoded := encoded
  signingHash := S.getHashForMultisig unsigned
  source := S.addressText.toText (S.toAddress unsigned.source network.isMainnet)
  network := network
  fee := unsigned.fee
  feeLimit := unsigned.feeLimit
  nonce := unsigned.nonce
  referenceTopoheight := unsigned.reference.topoheight
  transaction := shown

/-- What is known of an accepted request: `unsigned` is the transaction that is signed, `source` its
source, and `envelope` what the text was read as. -/
structure Accepted (S : Suite T) (encoded : String) (network : Network)
    (r : ParsedMultisigSigningRequest T) (envelope : MultisigSigningRequestEnvelope)
    (unsigned : UnsignedTransaction T) (source : T.PublicKey) : Prop where
  size : encoded.utf8ByteSize ≤ maxMultisigSigningRequestSize S
  read : S.requestFromStr (trim encoded) = some envelope
  written : (envelope.toDoc S).text = trim encoded
  version : envelope.payload.version = multisigSigningRequestVersion
  network_eq : envelope.payload.network = network
  unsigned_read : S.unsignedHex.ofText envelope.payload.unsignedTransaction = some unsigned
  unsigned_canonical : S.unsignedHex.toText unsigned = envelope.payload.unsignedTransaction
  unsigned_size : S.unsignedSize unsigned ≤ S.maxTransactionSize
  no_signatures : unsigned.multisig = none
  source_read : S.decompress unsigned.source = some source
  attested : ∃ signature, S.signatureHex.ofText envelope.sourceSignature = some signature ∧
    S.signatureHex.toText signature = envelope.sourceSignature ∧
    S.verify signature (multisigRequestSigningBytes S envelope.payload) source
  preview : validateAndBuildTransactionPreview S envelope.payload.transaction unsigned.data network
    source = .ok r.transaction
  result : r = acceptedRequest S (trim encoded) network unsigned r.transaction

/-- **What is accepted as a request**, whatever key pair a copy is finalized with. -/
lemma parseMultisigSigningRequest_eq_ok {ephemeral : T.KeyPair} {encoded : String} :
    parseMultisigSigningRequest S ephemeral encoded network = .ok r ↔
      ∃ envelope unsigned source, Accepted S encoded network r envelope unsigned source := by
  simp only [parseMultisigSigningRequest, bind_eq_ok, ensure_eq_ok, context_eq_ok,
    exists_const, pure_eq_ok]
  constructor
  · rintro ⟨hsize, envelope, hread, hversion, hnetwork, unsigned, hunsigned, husize, hucanon, hnone,
      signature, hsig, hsigcanon, source, hsource, hverify, hwritten, shown, hpreview, rfl⟩
    exact ⟨envelope, unsigned, source, hsize, hread, hwritten, hversion, hnetwork, hunsigned,
      hucanon, husize, Option.isNone_iff_eq_none.mp hnone, hsource,
      ⟨signature, hsig, hsigcanon, hverify⟩, hpreview, by rw [← hwritten]; rfl⟩
  · rintro ⟨envelope, unsigned, source, h⟩
    obtain ⟨signature, hsig, hsigcanon, hverify⟩ := h.attested
    refine ⟨h.size, envelope, h.read, h.version, h.network_eq, unsigned, h.unsigned_read,
      h.unsigned_size, h.unsigned_canonical, by rw [h.no_signatures]; rfl, signature, hsig,
      hsigcanon, source, h.source_read, hverify, h.written, r.transaction, h.preview, ?_⟩
    rw [h.written]
    exact h.result.symm

/-- **A participant signs what was shown.** The preview of an accepted request describes the
transaction whose hash is returned, field by field and transfer by transfer; that transaction has no
signatures yet, and its source attested exactly the payload that was read. -/
theorem preview_describes_signed_transaction {ephemeral : T.KeyPair} {encoded : String}
    {network : Network} {r : ParsedMultisigSigningRequest T}
    (h : parseMultisigSigningRequest S ephemeral encoded network = .ok r) :
    ∃ (envelope : MultisigSigningRequestEnvelope) (unsigned : UnsignedTransaction T)
      (source : T.PublicKey) (attestation : T.Signature),
      S.requestFromStr (trim encoded) = some envelope ∧
      S.unsignedHex.ofText envelope.payload.unsignedTransaction = some unsigned ∧
      S.unsignedHex.toText unsigned = envelope.payload.unsignedTransaction ∧
      r.signingHash = S.getHashForMultisig unsigned ∧
      S.decompress unsigned.source = some source ∧
      Shown S network source envelope.payload.transaction unsigned.data r.transaction ∧
      r.source = S.addressText.toText (S.toAddress unsigned.source network.isMainnet) ∧
      r.fee = unsigned.fee ∧ r.feeLimit = unsigned.feeLimit ∧ r.nonce = unsigned.nonce ∧
      r.referenceTopoheight = unsigned.reference.topoheight ∧
      r.network = network ∧ envelope.payload.network = network ∧
      envelope.payload.version = multisigSigningRequestVersion ∧
      unsigned.multisig = none ∧
      S.signatureHex.ofText envelope.sourceSignature = some attestation ∧
      S.verify attestation (multisigRequestSigningBytes S envelope.payload) source = true := by
  obtain ⟨envelope, unsigned, source, ha⟩ := parseMultisigSigningRequest_eq_ok.mp h
  obtain ⟨attestation, hsig, -, hverify⟩ := ha.attested
  refine ⟨envelope, unsigned, source, attestation, ha.read, ha.unsigned_read,
    ha.unsigned_canonical, ?_, ha.source_read, shown_of_validate ha.preview, ?_, ?_, ?_, ?_, ?_, ?_,
    ha.network_eq, ha.version, ha.no_signatures, hsig, hverify⟩ <;> rw [ha.result] <;> rfl

/-! ### A request has one encoding -/

lemma Accepted.encoded {encoded : String} {envelope : MultisigSigningRequestEnvelope}
    {unsigned : UnsignedTransaction T} (h : Accepted S encoded network r envelope unsigned source) :
    r.encoded = trim encoded := by
  rw [h.result]
  rfl

lemma Accepted.trim {encoded : String} {envelope : MultisigSigningRequestEnvelope}
    {unsigned : UnsignedTransaction T} (h : Accepted S encoded network r envelope unsigned source) :
    Accepted S (Text.trim encoded) network r envelope unsigned source :=
  { h with
    size := Nat.le_trans (utf8ByteSize_trim_le encoded) h.size
    read := by rw [trim_trim, h.read]
    written := by rw [trim_trim, h.written]
    result := by rw [trim_trim]; exact h.result }

/-! ### Every supported transaction has a request -/

/-- What requests need of the suite. `Encrypts keypair amount ciphertext` says that a ciphertext
made by a key pair holds an amount: then a proof that this key pair makes of the amount verifies. -/
structure RequestLaws (S : Suite T) (Encrypts : T.KeyPair → UInt64 → T.Ciphertext → Prop) : Prop
    where
  signatureHex : S.signatureHex.RoundTrips
  proofHex : S.proofHex.RoundTrips
  requestFromStr : ∀ e : MultisigSigningRequestEnvelope, S.requestFromStr (e.toDoc S).text = some e
  decompress : ∀ keypair, ∃ key, S.decompress (S.getPublicKey keypair) = some key
  verify_sign : ∀ keypair message key, S.decompress (S.getPublicKey keypair) = some key →
    S.verify (S.sign keypair message) message key
  proofAmount : ∀ keypair amount ciphertext, Encrypts keypair amount ciphertext →
    S.proofAmount (S.newProof keypair amount ciphertext) = amount
  proofVerify : ∀ keypair amount ciphertext key, Encrypts keypair amount ciphertext →
    S.decompress (S.getPublicKey keypair) = some key →
    S.proofVerify (S.newProof keypair amount ciphertext) key ciphertext

/-- The preview of a transfer as it was declared. -/
def declaredTransfer (S : Suite T) (network : Network) (declared : TransferBuilder T) :
    NativeMultisigSigningTransfer where
  amount := declared.amount
  asset := S.hashHex.toText declared.asset
  destination := S.addressText.toText
    (S.toAddress (S.addressGetPublicKey declared.destination) network.isMainnet)
  hasExtraData := declared.extraData.isSome || (S.addressGetExtraData declared.destination).isSome

/-- The preview of a transaction as it was declared, if requests support it. -/
def declaredPreview (S : Suite T) (network : Network) :
    TransactionTypeBuilder T → Option NativeMultisigSigningTransaction
  | .transfers declared => some (.transfers (declared.map (declaredTransfer S network)))
  | .burn declared => some (.burn (S.hashHex.toText declared.asset) declared.amount)
  | .multiSig declared =>
    if declared.threshold = 0 ∧ declared.participants.items = [] then some .deleteMultisig else none
  | .unsupported _ => none

/-- The transfer `actual` is the one that was declared. -/
structure TransferMatches (S : Suite T) (Encrypts : T.KeyPair → UInt64 → T.Ciphertext → Prop)
    (network : Network) (keypair : T.KeyPair) (declared : TransferBuilder T)
    (actual : TransferPayload T) : Prop where
  network_eq : S.addressIsMainnet declared.destination = network.isMainnet
  destination : S.addressGetPublicKey declared.destination = actual.destination
  asset : declared.asset = actual.asset
  hasExtraData :
    (declared.extraData.isSome || (S.addressGetExtraData declared.destination).isSome) =
      actual.extraData.isSome
  amount : ∃ ciphertext, S.decompressCiphertext actual.senderCiphertext = some ciphertext ∧
    Encrypts keypair declared.amount ciphertext

/-- A transaction has the data that was declared, and requests support it. -/
def DeclaredMatches (S : Suite T) (Encrypts : T.KeyPair → UInt64 → T.Ciphertext → Prop)
    (network : Network) (keypair : T.KeyPair) : TransactionTypeBuilder T → TransactionType T → Prop
  | .transfers declared, .transfers actual =>
    List.Forall₂ (TransferMatches S Encrypts network keypair) declared actual
  | .burn declared, .burn actual =>
    declared.asset = actual.asset ∧ declared.amount = actual.amount
  | .multiSig declared, .multiSig actual =>
    declared.threshold = 0 ∧ declared.participants.items = [] ∧
      actual.threshold = 0 ∧ actual.participants.items = []
  | _, _ => False

section Complete

variable {Encrypts : T.KeyPair → UInt64 → T.Ciphertext → Prop} {network : Network}
  {keypair : T.KeyPair} {key : T.PublicKey}

variable (hS : RequestLaws S Encrypts)
include hS

variable (hkey : S.decompress (S.getPublicKey keypair) = some key)
include hkey

lemma transfer_complete {declared : TransferBuilder T}
    {actual : TransferPayload T} (h : TransferMatches S Encrypts network keypair declared actual) :
    ∃ t, buildSigningRequestTransfer S network keypair declared actual = .ok t ∧
      validateAndBuildTransferPreview S network key t actual =
        .ok (declaredTransfer S network declared) := by
  obtain ⟨ciphertext, hc, henc⟩ := h.amount
  have hvalid : validateTransferPublicDetails S declared actual network = .ok () := by
    simp [validateTransferPublicDetails, ensure, h.network_eq, h.destination, h.asset,
      h.hasExtraData, bind, Except.bind]
  refine ⟨⟨declared.amount, S.hashHex.toText actual.asset,
    S.addressText.toText (S.toAddress actual.destination network.isMainnet),
    actual.extraData.isSome, S.proofHex.toText (S.newProof keypair declared.amount ciphertext)⟩,
    ?_, ?_⟩
  · simp only [buildSigningRequestTransfer, bind_eq_ok, context_eq_ok, pure_eq_ok]
    exact ⟨(), hvalid, ciphertext, hc, rfl⟩
  simp only [validateAndBuildTransferPreview, bind_eq_ok, ensure_eq_ok, context_eq_ok,
    exists_const, pure_eq_ok, declaredTransfer, h.destination, h.asset, h.hasExtraData]
  exact ⟨trivial, trivial, trivial, _, hS.proofHex _, rfl, hS.proofAmount _ _ _ henc,
    ciphertext, hc, hS.proofVerify _ _ _ _ henc hkey, trivial⟩

lemma transfers_complete {declared : List (TransferBuilder T)} {actual : List (TransferPayload T)}
    (h : List.Forall₂ (TransferMatches S Encrypts network keypair) declared actual) : ∃ ts,
    ((declared.zip actual).mapM fun p => buildSigningRequestTransfer S network keypair p.1 p.2) =
    .ok ts ∧ ts.length = actual.length ∧
    ((ts.zip actual).mapM fun p => validateAndBuildTransferPreview S network key p.1 p.2) = .ok
    (declared.map (declaredTransfer S network)) := by
  simp only [mapM_eq_ok]
  induction h with
  | nil => exact ⟨[], .nil, rfl, .nil⟩
  | cons h _ ih =>
    obtain ⟨t, ht, hp⟩ := transfer_complete hS hkey h
    obtain ⟨ts, hts, hlen, hps⟩ := ih
    exact ⟨t :: ts, .cons ht hts, congrArg (· + 1) hlen, .cons hp hps⟩

lemma transaction_complete {declared : TransactionTypeBuilder T}
    {actual : TransactionType T} (h : DeclaredMatches S Encrypts network keypair declared actual) :
    ∃ t shown, buildSigningRequestTransaction S declared actual network keypair = .ok t ∧
      validateAndBuildTransactionPreview S t actual network key = .ok shown ∧
      declaredPreview S network declared = some shown := by
  cases declared with
  | transfers =>
    cases actual with
    | transfers =>
      obtain ⟨ts, hts, hlen, hps⟩ := transfers_complete hS hkey h
      refine ⟨.transfers ts, _, ?_, ?_, rfl⟩
      · simp only [buildSigningRequestTransaction, bind_eq_ok, ensure_eq_ok, exists_const,
          pure_eq_ok]
        exact ⟨h.length_eq, ts, hts, rfl⟩
      · simp only [validateAndBuildTransactionPreview, bind_eq_ok, ensure_eq_ok, exists_const,
          pure_eq_ok]
        exact ⟨hlen, _, hps, rfl⟩
    | burn | multiSig | unsupported => exact h.elim
  | burn =>
    cases actual with
    | burn actual =>
      refine ⟨.burn (S.hashHex.toText actual.asset) actual.amount, _, ?_, ?_, rfl⟩
      · simp only [buildSigningRequestTransaction, bind_eq_ok, ensure_eq_ok, exists_const,
          pure_eq_ok]
        exact ⟨h, trivial⟩
      · simp only [validateAndBuildTransactionPreview, bind_eq_ok, ensure_eq_ok, exists_const,
          pure_eq_ok, h.1, h.2]
        exact ⟨⟨trivial, trivial⟩, trivial⟩
    | transfers | multiSig | unsupported => exact h.elim
  | multiSig =>
    cases actual with
    | multiSig actual =>
      obtain ⟨hd, hds, ha, has⟩ := h
      have hdelete : actual.isDelete = true := isDelete_iff.mpr ⟨ha, has⟩
      refine ⟨.deleteMultisig, .deleteMultisig, ?_, ?_, if_pos ⟨hd, hds⟩⟩
      · simp only [buildSigningRequestTransaction, bind_eq_ok, ensure_eq_ok, exists_const,
          pure_eq_ok]
        exact ⟨hd.trans ha.symm, ⟨by simp [hds, has], by simp [hds]⟩, hdelete, trivial⟩
      · simp only [validateAndBuildTransactionPreview, bind_eq_ok, ensure_eq_ok, exists_const,
          pure_eq_ok]
        exact ⟨hdelete, trivial⟩
    | transfers | burn | unsupported => exact h.elim
  | unsupported => cases actual <;> exact h.elim

omit hkey

/-- The text of a request that was made is accepted, unless it exceeds a limit. -/
lemma request_complete (ephemeral : T.KeyPair)
    {unsigned : UnsignedTransaction T} {declared : TransactionTypeBuilder T}
    (hhex : S.unsignedHex.ofText (S.unsignedHex.toText unsigned) = some unsigned)
    (hsource : unsigned.source = S.getPublicKey keypair) (hnone : unsigned.multisig = none)
    (h : DeclaredMatches S Encrypts network keypair declared unsigned.data) :
    ∃ encoded, encodeMultisigSigningRequest S unsigned declared network keypair = .ok encoded ∧
      (parseMultisigSigningRequest S ephemeral encoded network =
          .error "The multisig signing request is too large" ∧
          maxMultisigSigningRequestSize S < encoded.utf8ByteSize ∨
        parseMultisigSigningRequest S ephemeral encoded network =
          .error "The unsigned transaction is too large" ∧
          S.maxTransactionSize < S.unsignedSize unsigned ∨
        ∃ r, parseMultisigSigningRequest S ephemeral encoded network = .ok r ∧
          declaredPreview S network declared = some r.transaction) := by
  obtain ⟨key, hkey⟩ := hS.decompress keypair
  obtain ⟨t, shown, ht, hp, hshown⟩ := transaction_complete hS hkey h
  set payload : MultisigSigningRequestPayload :=
    ⟨multisigSigningRequestVersion, network, S.unsignedHex.toText unsigned, t⟩ with hpayload
  set envelope : MultisigSigningRequestEnvelope := ⟨payload,
    S.signatureHex.toText (S.sign keypair (multisigRequestSigningBytes S payload))⟩ with henvelope
  have htrim : trim (envelope.toDoc S).text = (envelope.toDoc S).text := trim_text_obj _
  have hread : S.requestFromStr (trim (envelope.toDoc S).text) = some envelope := by
    rw [htrim, hS.requestFromStr]
  refine ⟨(envelope.toDoc S).text, ?_, ?_⟩
  · simp only [encodeMultisigSigningRequest, bind_eq_ok, pure_eq_ok]
    exact ⟨t, ht, rfl⟩
  by_cases hsize : (envelope.toDoc S).text.utf8ByteSize ≤ maxMultisigSigningRequestSize S
  swap
  · refine .inl ⟨?_, Nat.lt_of_not_le hsize⟩
    simp [parseMultisigSigningRequest, ensure, hsize, bind, Except.bind]
  right
  by_cases husize : S.unsignedSize unsigned ≤ S.maxTransactionSize
  swap
  · refine .inl ⟨?_, Nat.lt_of_not_le husize⟩
    have hversion : envelope.payload.version = multisigSigningRequestVersion := rfl
    have hnetwork : envelope.payload.network = network := rfl
    have hunsigned : S.unsignedHex.ofText envelope.payload.unsignedTransaction = some unsigned :=
      hhex
    simp [parseMultisigSigningRequest, ensure, context, hsize, hread, hversion, hnetwork, hunsigned,
      husize, bind, Except.bind]
  refine .inr ⟨acceptedRequest S (envelope.toDoc S).text network unsigned shown,
    parseMultisigSigningRequest_eq_ok.mpr ⟨envelope, unsigned, key, {
    size := hsize
    read := hread
    written := htrim.symm
    version := rfl
    network_eq := rfl
    unsigned_read := hhex
    unsigned_canonical := rfl
    unsigned_size := husize
    no_signatures := hnone
    source_read := by rw [hsource, hkey]
    attested := ⟨_, hS.signatureHex _, rfl, hS.verify_sign _ _ _ hkey⟩
    preview := hp
    result := by rw [htrim]; rfl }⟩, hshown⟩

omit hS

end Complete

/-- **Requests are canonical and complete.** An accepted text is, without the white space around it,
the text that is returned, and is accepted again; two accepted texts with the same payload and
attestation differ only in white space. A transaction without signatures that has the transfers, the
burn or the deletion that was declared has a request with the preview of what was declared, unless
the request or the transaction exceeds its limit. -/
theorem signing_requests_canonical_complete (S : Suite T) :
    (∀ ephemeral encoded network r,
      parseMultisigSigningRequest S ephemeral encoded network = .ok r →
      r.encoded = trim encoded ∧
      ∀ ephemeral', parseMultisigSigningRequest S ephemeral' r.encoded network = .ok r) ∧
    (∀ ephemeral ephemeral' encoded encoded' network network' r r' envelope,
      parseMultisigSigningRequest S ephemeral encoded network = .ok r →
      parseMultisigSigningRequest S ephemeral' encoded' network' = .ok r' →
      S.requestFromStr (trim encoded) = some envelope →
      S.requestFromStr (trim encoded') = some envelope → trim encoded = trim encoded') ∧
    ∀ Encrypts, RequestLaws S Encrypts →
      ∀ ephemeral unsigned declared configuration network keypair,
      S.unsignedHex.ofText (S.unsignedHex.toText unsigned) = some unsigned →
      unsigned.source = S.getPublicKey keypair → unsigned.multisig = none →
      DeclaredMatches S Encrypts network keypair declared unsigned.data →
      (∃ request, createMultisigSigningRequest S ephemeral unsigned declared configuration network
          keypair = .ok request ∧ declaredPreview S network declared = some request.transaction) ∨
      (∃ encoded, encodeMultisigSigningRequest S unsigned declared network keypair = .ok encoded ∧
        maxMultisigSigningRequestSize S < encoded.utf8ByteSize ∧
        createMultisigSigningRequest S ephemeral unsigned declared configuration network keypair =
          .error "The multisig signing request is too large") ∨
      (S.maxTransactionSize < S.unsignedSize unsigned ∧
        createMultisigSigningRequest S ephemeral unsigned declared configuration network keypair =
          .error "The unsigned transaction is too large") := by
  refine ⟨fun ephemeral encoded network r h => ?_,
    fun _ _ encoded encoded' _ _ r r' envelope h h' he he' => ?_,
    fun Encrypts hS ephemeral unsigned declared configuration network keypair hhex hsource hnone
      h =>
      ?_⟩
  · obtain ⟨envelope, unsigned, source, ha⟩ := parseMultisigSigningRequest_eq_ok.mp h
    refine ⟨ha.encoded, fun ephemeral' => ?_⟩
    rw [ha.encoded]
    exact parseMultisigSigningRequest_eq_ok.mpr ⟨envelope, unsigned, source, ha.trim⟩
  · obtain ⟨envelope₁, _, _, ha⟩ := parseMultisigSigningRequest_eq_ok.mp h
    obtain ⟨envelope₂, _, _, ha'⟩ := parseMultisigSigningRequest_eq_ok.mp h'
    obtain rfl : envelope = envelope₁ := Option.some.inj (he.symm.trans ha.read)
    obtain rfl : envelope = envelope₂ := Option.some.inj (he'.symm.trans ha'.read)
    rw [← ha.written, ← ha'.written]
  · obtain ⟨encoded, henc, hlarge | hlarge | ⟨r, hr, hshown⟩⟩ :=
      request_complete hS ephemeral hhex hsource hnone h
    · refine .inr (.inl ⟨encoded, henc, hlarge.2, ?_⟩)
      rw [createMultisigSigningRequest, henc]
      simp only [bind, Except.bind, hlarge.1]
    · refine .inr (.inr ⟨hlarge.2, ?_⟩)
      rw [createMultisigSigningRequest, henc]
      simp only [bind, Except.bind, hlarge.1]
    · left
      simp only [createMultisigSigningRequest, henc, bind, Except.bind, hr, pure, Except.pure]
      exact ⟨_, rfl, hshown⟩

/-! ### The small suite -/

def amountOfNat (n : ℕ) : Option UInt64 := if n < 2 ^ 64 then some (.ofNat n) else none

@[simp] lemma amountOfNat_toNat (amount : UInt64) : amountOfNat amount.toNat = some amount := by
  simp [amountOfNat, amount.toNat_lt]

def MultisigSigningRequestTransfer.ofDoc : Doc → Option MultisigSigningRequestTransfer
  | .obj [("amount", .nat amount), ("asset", .str asset), ("destination", .str destination),
      ("has_extra_data", .bool hasExtraData), ("amount_proof", .str amountProof)] =>
    (amountOfNat amount).map (⟨·, asset, destination, hasExtraData, amountProof⟩)
  | _ => none

def MultisigSigningRequestTransaction.ofDoc : Doc → Option MultisigSigningRequestTransaction
  | .obj [("type", .str "transfers"), ("details", .obj [("transfers", .arr values)])] =>
    (values.mapM MultisigSigningRequestTransfer.ofDoc).map .transfers
  | .obj [("type", .str "burn"),
      ("details", .obj [("asset", .str asset), ("amount", .nat amount)])] =>
    (amountOfNat amount).map (.burn asset)
  | .obj [("type", .str "delete_multisig")] => some .deleteMultisig
  | _ => none

def flagNetworkOf : String → Option Network
  | "mainnet" => some .mainnet
  | "testnet" => some .testnet
  | "stagenet" => some .stagenet
  | "devnet" => some .devnet
  | _ => none

/-- The envelope of a document in its canonical form. -/
def MultisigSigningRequestEnvelope.ofDoc : Doc → Option MultisigSigningRequestEnvelope
  | .obj [("payload", .obj [("version", .nat version), ("network", .str network),
      ("unsigned_transaction", .str unsignedTransaction), ("transaction", transaction)]),
      ("source_signature", .str sourceSignature)] => do
    let network ← flagNetworkOf network
    let transaction ← MultisigSigningRequestTransaction.ofDoc transaction
    if version < 256 then
      some ⟨⟨.ofNat version, network, unsignedTransaction, transaction⟩, sourceSignature⟩
    else none
  | _ => none

lemma MultisigSigningRequestTransaction.ofDoc_toDoc (t : MultisigSigningRequestTransaction) :
    ofDoc t.toDoc = some t := by
  have hts : ∀ ts : List MultisigSigningRequestTransfer,
      (ts.map (·.toDoc)).mapM MultisigSigningRequestTransfer.ofDoc = some ts := by
    intro ts
    induction ts with
    | nil => rfl
    | cons t ts ih =>
      rw [List.map_cons, List.mapM_cons, ih]
      simp [MultisigSigningRequestTransfer.ofDoc, MultisigSigningRequestTransfer.toDoc]
  cases t with
  | transfers => simp [ofDoc, toDoc, hts]
  | burn | deleteMultisig => simp [ofDoc, toDoc]

/-- A transfer of one unit of an asset, from one key to the other. -/
def flagUnsigned : UnsignedTransaction flagTypes where
  source := some false
  data := .transfers [⟨true, some true, none, true⟩]
  fee := 2
  feeLimit := 3
  nonce := 1
  reference := ⟨false, 5⟩
  multisig := none
  proofs := ()

/-- The small suite with one transaction. -/
def flagRequests : Suite flagTypes :=
  { flagSuite with
    unsignedHex := ⟨fun _ => "00", fun _ => some flagUnsigned⟩
    requestFromStr := fun s => (parse s).bind MultisigSigningRequestEnvelope.ofDoc }

lemma MultisigSigningRequestEnvelope.ofDoc_toDoc (e : MultisigSigningRequestEnvelope) :
    ofDoc (e.toDoc flagRequests) = some e := by
  have hversion : e.payload.version.toNat < 256 := e.payload.version.toNat_lt
  have hnetwork : flagNetworkOf (flagNetwork e.payload.network) = some e.payload.network := by
    cases e.payload.network <;> rfl
  simp [ofDoc, toDoc, MultisigSigningRequestPayload.toDoc, flagRequests, flagSuite, hnetwork,
    MultisigSigningRequestTransaction.ofDoc_toDoc, hversion]

lemma flagRequests_laws :
    RequestLaws flagRequests fun _ amount ciphertext => amount = flagAmount ciphertext where
  signatureHex := flagHex_roundTrips (by decide)
  proofHex := flagHex_roundTrips (by decide)
  requestFromStr e := by
    simp only [flagRequests, parse_text, Option.bind_some]
    exact e.ofDoc_toDoc
  decompress keypair := ⟨keypair, rfl⟩
  verify_sign := fun (keypair : Bool) _ (key : Bool) h => by
    obtain rfl : keypair = key := Option.some.inj h
    exact beq_self_eq_true keypair
  proofAmount _ _ _ h := h.symm
  proofVerify := fun _ _ (ciphertext : Bool) _ _ _ => beq_self_eq_true ciphertext

/-- The transfer as the source declares it. -/
def flagDeclared : TransactionTypeBuilder flagTypes := .transfers [⟨true, 1, true, none⟩]

lemma flagDeclared_matches : DeclaredMatches flagRequests
    (fun _ amount ciphertext => amount = flagAmount ciphertext) .testnet false flagDeclared
    flagUnsigned.data :=
  .cons ⟨rfl, rfl, rfl, rfl, true, rfl, rfl⟩ .nil

/-- The text of the request for the transfer. -/
def flagEncoded : String :=
  let payload : MultisigSigningRequestPayload := ⟨1, .testnet, "00", .transfers
    [⟨1, (flagHex 64).toText true, (flagHex 1).toText true, false, (flagHex 1).toText true⟩]⟩
  MultisigSigningRequestEnvelope.toDoc flagRequests ⟨payload, (flagHex 128).toText false⟩ |>.text

lemma encode_flagUnsigned : encodeMultisigSigningRequest flagRequests flagUnsigned flagDeclared
    .testnet false = .ok flagEncoded := rfl

lemma flagEncoded_size : flagEncoded.utf8ByteSize ≤ maxMultisigSigningRequestSize flagRequests := by
  rw [flagEncoded, utf8ByteSize_text]
  decide +kernel

lemma parse_flagEncoded (ephemeral : Bool) :
    ∃ r, parseMultisigSigningRequest flagRequests ephemeral flagEncoded .testnet = .ok r := by
  obtain ⟨encoded, henc, h⟩ := request_complete flagRequests_laws ephemeral rfl rfl rfl
    flagDeclared_matches
  obtain rfl : flagEncoded = encoded := Except.ok.inj (encode_flagUnsigned.symm.trans henc)
  obtain h | h | ⟨r, hr, -⟩ := h
  · exact absurd flagEncoded_size (Nat.not_le_of_lt h.2)
  · exact absurd h.2 (by decide)
  · exact ⟨r, hr⟩

/-- The request for the transfer is accepted, and what it shows is what is signed. -/
theorem flag_preview_describes : ∃ r unsigned,
    parseMultisigSigningRequest flagRequests true flagEncoded .testnet = .ok r ∧
      r.signingHash = flagRequests.getHashForMultisig unsigned ∧ r.nonce = unsigned.nonce := by
  obtain ⟨r, hr⟩ := parse_flagEncoded true
  obtain ⟨_, unsigned, _, _, -, -, -, hhash, -, -, -, -, -, hnonce, -⟩ :=
    preview_describes_signed_transaction hr
  exact ⟨r, unsigned, hr, hhash, hnonce⟩

/-- The request for the transfer is made, with the preview that was declared. -/
theorem flag_request_complete : ∃ request,
    createMultisigSigningRequest flagRequests true flagUnsigned flagDeclared
      ⟨1, ⟨[some true], by decide⟩⟩ .testnet false = .ok request ∧
    declaredPreview flagRequests .testnet flagDeclared = some request.transaction := by
  obtain h | ⟨encoded, henc, hlarge, -⟩ | ⟨hlarge, -⟩ :=
    (signing_requests_canonical_complete flagRequests).2.2 _ flagRequests_laws true flagUnsigned
      flagDeclared ⟨1, ⟨[some true], by decide⟩⟩ .testnet false rfl rfl rfl flagDeclared_matches
  · exact h
  · obtain rfl : flagEncoded = encoded := Except.ok.inj (encode_flagUnsigned.symm.trans henc)
    exact absurd flagEncoded_size (Nat.not_le_of_lt hlarge)
  · exact absurd hlarge (by decide)

end XelisWallet.Multisig
