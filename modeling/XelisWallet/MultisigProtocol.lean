import Mathlib.Data.List.Nodup
import XelisWallet.Fallible
import XelisWallet.JsonText

/-!
The canonical multisig request and signature-share protocol (`multisig/protocol.rs`).

A source wallet sends a signing request to the participants, who look at the preview of the
transaction and answer with a signature share. The cryptography, the hex codecs, the transaction
serializer and the reader of JSON are functions the protocol is given; the JSON text that it writes
is spelled out, since the protocol compares it and measures it.
-/

namespace XelisWallet.Multisig

open Fallible JsonText Text

/-! ### What the protocol is given -/

/-- The types of the cryptography and of the parts of a transaction that are only passed on. -/
structure Types where
  Hash : Type
  Signature : Type
  /-- A compressed public key. -/
  Key : Type
  PublicKey : Type
  KeyPair : Type
  BalanceProof : Type
  CompressedCiphertext : Type
  Ciphertext : Type
  Address : Type
  ExtraData : Type
  /-- The data of the transactions that multisig requests do not support. -/
  Unsupported : Type
  /-- The proofs and commitments of a transaction. -/
  Proofs : Type
  /-- The state with which a transaction was built. -/
  BuilderState : Type
  [hashEq : DecidableEq Hash]
  [keyEq : DecidableEq Key]

attribute [instance] Types.hashEq Types.keyEq

inductive Network
  | mainnet
  | testnet
  | stagenet
  | devnet
  deriving DecidableEq, Repr

def Network.isMainnet : Network → Bool
  | .mainnet => true
  | _ => false

/-- An `IndexSet`: different elements, in the order of their insertion. -/
structure IndexSet (α : Type) where
  items : List α
  nodup : items.Nodup

def IndexSet.getIndex {α : Type} (s : IndexSet α) (index : ℕ) : Option α := s.items[index]?

variable {T : Types}

/-- A signature with the index of its participant, which is its identity in a set. -/
structure SignatureId (T : Types) where
  id : UInt8
  signature : T.Signature

structure MultiSig (T : Types) where
  signatures : List (SignatureId T)
  nodup : (signatures.map (·.id)).Nodup

def MultiSig.new : MultiSig T := ⟨[], List.nodup_nil⟩

/-- Whether the signature was added, and the set after it. -/
def MultiSig.addSignature (m : MultiSig T) (s : SignatureId T) : Bool × MultiSig T :=
  if h : s.id ∈ m.signatures.map (·.id) then (false, m)
  else (true, ⟨m.signatures ++ [s], by
    rw [List.map_append]
    exact m.nodup.append (List.nodup_singleton _) (by simpa using h)⟩)

structure TransferPayload (T : Types) where
  asset : T.Hash
  destination : T.Key
  extraData : Option T.ExtraData
  /-- `get_ciphertext(Role::Sender)`. -/
  senderCiphertext : T.CompressedCiphertext

structure BurnPayload (T : Types) where
  asset : T.Hash
  amount : UInt64

structure MultiSigPayload (T : Types) where
  threshold : UInt8
  participants : IndexSet T.Key

def MultiSigPayload.isDelete (m : MultiSigPayload T) : Bool :=
  m.threshold == 0 && m.participants.items.isEmpty

inductive TransactionType (T : Types)
  | transfers (transfers : List (TransferPayload T))
  | burn (burn : BurnPayload T)
  | multiSig (multisig : MultiSigPayload T)
  | unsupported (data : T.Unsupported)

structure TransferBuilder (T : Types) where
  asset : T.Hash
  amount : UInt64
  destination : T.Address
  extraData : Option T.ExtraData

structure MultiSigBuilder (T : Types) where
  participants : IndexSet T.Address
  threshold : UInt8

inductive TransactionTypeBuilder (T : Types)
  | transfers (transfers : List (TransferBuilder T))
  | burn (burn : BurnPayload T)
  | multiSig (multisig : MultiSigBuilder T)
  | unsupported (data : T.Unsupported)

structure Reference (T : Types) where
  hash : T.Hash
  topoheight : UInt64

structure UnsignedTransaction (T : Types) where
  source : T.Key
  data : TransactionType T
  fee : UInt64
  feeLimit : UInt64
  nonce : UInt64
  reference : Reference T
  multisig : Option (MultiSig T)
  proofs : T.Proofs

/-- A finalized transaction is the unsigned one with the signature of a key pair. -/
structure Transaction (T : Types) extends UnsignedTransaction T where
  signature : T.Signature

/-! ### The messages of the protocol -/

structure MultisigSigningRequestTransfer where
  amount : UInt64
  asset : String
  destination : String
  hasExtraData : Bool
  amountProof : String

inductive MultisigSigningRequestTransaction
  | transfers (transfers : List MultisigSigningRequestTransfer)
  | burn (asset : String) (amount : UInt64)
  | deleteMultisig

structure MultisigSigningRequestPayload where
  version : UInt8
  network : Network
  unsignedTransaction : String
  transaction : MultisigSigningRequestTransaction

structure MultisigSigningRequestEnvelope where
  payload : MultisigSigningRequestPayload
  sourceSignature : String

structure MultisigSignatureShareEnvelope where
  version : UInt8
  signingHash : String
  signerId : UInt8
  signature : String

/-- A canonically decoded signature share. -/
structure MultisigSignature where
  id : UInt8
  signature : String

structure NativeMultisigParticipant where
  id : UInt8
  address : String

structure NativeMultisigSigningTransfer where
  amount : UInt64
  asset : String
  destination : String
  hasExtraData : Bool

inductive NativeMultisigSigningTransaction
  | transfers (transfers : List NativeMultisigSigningTransfer)
  | burn (asset : String) (amount : UInt64)
  | deleteMultisig

structure NativeMultisigSigningRequest where
  requestId : Option ℕ
  encoded : String
  signingHash : String
  source : String
  network : String
  fee : UInt64
  feeLimit : UInt64
  nonce : UInt64
  referenceTopoheight : UInt64
  threshold : UInt8
  participants : List NativeMultisigParticipant
  signerId : Option UInt8
  transaction : NativeMultisigSigningTransaction

structure NativeMultisigSignatureShare where
  encoded : String
  signingHash : String
  signerId : UInt8
  signature : String

structure ParsedMultisigSigningRequest (T : Types) where
  encoded : String
  signingHash : T.Hash
  source : String
  network : Network
  fee : UInt64
  feeLimit : UInt64
  nonce : UInt64
  referenceTopoheight : UInt64
  transaction : NativeMultisigSigningTransaction

/-- The functions the protocol is given. -/
structure Suite (T : Types) where
  hashHex : Codec T.Hash
  hashAsBytes : T.Hash → ByteArray
  signatureHex : Codec T.Signature
  proofHex : Codec T.BalanceProof
  unsignedHex : Codec (UnsignedTransaction T)
  unsignedSize : UnsignedTransaction T → ℕ
  getHashForMultisig : UnsignedTransaction T → T.Hash
  transactionHash : Transaction T → T.Hash
  addressText : Codec T.Address
  addressIsMainnet : T.Address → Bool
  addressGetPublicKey : T.Address → T.Key
  addressGetExtraData : T.Address → Option T.ExtraData
  toAddress : T.Key → Bool → T.Address
  decompress : T.Key → Option T.PublicKey
  decompressCiphertext : T.CompressedCiphertext → Option T.Ciphertext
  /-- The compressed public key of a key pair. -/
  getPublicKey : T.KeyPair → T.Key
  sign : T.KeyPair → ByteArray → T.Signature
  verify : T.Signature → ByteArray → T.PublicKey → Bool
  /-- The signature with which `finalize` completes a transaction. -/
  signTransaction : T.KeyPair → UnsignedTransaction T → T.Signature
  newProof : T.KeyPair → UInt64 → T.Ciphertext → T.BalanceProof
  proofAmount : T.BalanceProof → UInt64
  proofVerify : T.BalanceProof → T.PublicKey → T.Ciphertext → Bool
  networkToString : Network → String
  /-- A network inside a JSON document. -/
  networkDoc : Network → Doc
  /-- `serde_json::from_str` at the two envelopes. -/
  requestFromStr : String → Option MultisigSigningRequestEnvelope
  shareFromStr : String → Option MultisigSignatureShareEnvelope
  /-- `MAX_TRANSACTION_SIZE`. -/
  maxTransactionSize : ℕ

/-! ### The JSON text of the messages -/

def MultisigSigningRequestTransfer.toDoc (t : MultisigSigningRequestTransfer) : Doc :=
  .obj [("amount", .nat t.amount.toNat), ("asset", .str t.asset),
    ("destination", .str t.destination), ("has_extra_data", .bool t.hasExtraData),
    ("amount_proof", .str t.amountProof)]

def MultisigSigningRequestTransaction.toDoc : MultisigSigningRequestTransaction → Doc
  | .transfers ts =>
    .obj [("type", .str "transfers"), ("details", .obj [("transfers", .arr (ts.map (·.toDoc)))])]
  | .burn asset amount =>
    .obj [("type", .str "burn"),
      ("details", .obj [("asset", .str asset), ("amount", .nat amount.toNat)])]
  | .deleteMultisig => .obj [("type", .str "delete_multisig")]

def MultisigSigningRequestPayload.toDoc (S : Suite T) (p : MultisigSigningRequestPayload) : Doc :=
  .obj [("version", .nat p.version.toNat), ("network", S.networkDoc p.network),
    ("unsigned_transaction", .str p.unsignedTransaction), ("transaction", p.transaction.toDoc)]

def MultisigSigningRequestEnvelope.toDoc (S : Suite T) (e : MultisigSigningRequestEnvelope) : Doc :=
  .obj [("payload", e.payload.toDoc S), ("source_signature", .str e.sourceSignature)]

def MultisigSignatureShareEnvelope.toDoc (e : MultisigSignatureShareEnvelope) : Doc :=
  .obj [("version", .nat e.version.toNat), ("signing_hash", .str e.signingHash),
    ("signer_id", .nat e.signerId.toNat), ("signature", .str e.signature)]

/-! ### The protocol -/

def multisigSigningRequestVersion : UInt8 := 1

def multisigSignatureShareVersion : UInt8 := 1

def multisigSigningRequestDomain : ByteArray :=
  "xelis:wallet:multisig-signing-request:v1\x00".toUTF8

def maxMultisigSigningRequestSize (S : Suite T) : ℕ := S.maxTransactionSize * 3

def maxMultisigSignatureShareSize : ℕ := 1024

def maxMultisigParticipants : ℕ := 255

def UnsignedTransaction.finalize (S : Suite T) (unsigned : UnsignedTransaction T)
    (keypair : T.KeyPair) : Transaction T :=
  { unsigned with signature := S.signTransaction keypair unsigned }

def ParsedMultisigSigningRequest.intoRequest (S : Suite T) (r : ParsedMultisigSigningRequest T)
    (requestId : Option ℕ) (threshold : UInt8) (participants : List NativeMultisigParticipant)
    (signerId : Option UInt8) : NativeMultisigSigningRequest where
  requestId := requestId
  encoded := r.encoded
  signingHash := S.hashHex.toText r.signingHash
  source := r.source
  network := (S.networkToString r.network).toLower
  fee := r.fee
  feeLimit := r.feeLimit
  nonce := r.nonce
  referenceTopoheight := r.referenceTopoheight
  threshold := threshold
  participants := participants
  signerId := signerId
  transaction := r.transaction

def validateMultisigSetup (threshold : UInt8) (participants : ℕ) : Except String Unit := do
  ensure (participants ≠ 0) "At least one multisig participant is required"
  ensure (participants ≤ maxMultisigParticipants) "Too many multisig participants"
  ensure (threshold ≠ 0 ∧ threshold.toNat ≤ participants) "Invalid multisig threshold"

def verifyMultisigSignature (S : Suite T) (expectedSigningHash : T.Hash)
    (configuration : MultiSigPayload T) (signature : MultisigSignature) :
    Except String (SignatureId T) := do
  let participant ← context (configuration.participants.getIndex signature.id.toNat)
    "The multisig participant id is invalid"
  let participant ← context (S.decompress participant) "The multisig participant key is invalid"
  let parsedSignature ← context (S.signatureHex.ofText signature.signature)
    "The multisig signature encoding is invalid"
  ensure (S.signatureHex.toText parsedSignature = signature.signature)
    "The multisig signature encoding is not canonical"
  ensure (S.verify parsedSignature (S.hashAsBytes expectedSigningHash) participant)
    "The multisig signature is invalid for this transaction"
  return ⟨signature.id, parsedSignature⟩

/-- One turn of the loop that collects the signatures. -/
def addVerified (S : Suite T) (expectedSigningHash : T.Hash) (configuration : MultiSigPayload T)
    (multisig : MultiSig T) (signature : MultisigSignature) : Except String (MultiSig T) := do
  let verified ← verifyMultisigSignature S expectedSigningHash configuration signature
  match multisig.addSignature verified with
  | (true, multisig) => return multisig
  | (false, _) => .error "A multisig participant was provided more than once"

def buildVerifiedMultisig (S : Suite T) (expectedSigningHash : T.Hash)
    (configuration : MultiSigPayload T) (signatures : List MultisigSignature) :
    Except String (MultiSig T) := do
  ensure (signatures.length = configuration.threshold.toNat)
    "The multisig signature count does not match the configured threshold"
  signatures.foldlM (addVerified S expectedSigningHash configuration) .new

def multisigRequestSigningBytes (S : Suite T) (payload : MultisigSigningRequestPayload) :
    ByteArray :=
  multisigSigningRequestDomain ++ (payload.toDoc S).text.toUTF8

def validateTransferPublicDetails (S : Suite T) (declared : TransferBuilder T)
    (actual : TransferPayload T) (network : Network) : Except String Unit := do
  ensure (S.addressIsMainnet declared.destination = network.isMainnet)
    "A transfer destination belongs to another network"
  ensure (S.addressGetPublicKey declared.destination = actual.destination)
    "A transfer destination does not match the unsigned transaction"
  ensure (declared.asset = actual.asset) "A transfer asset does not match the unsigned transaction"
  let declaredHasExtraData :=
    declared.extraData.isSome || (S.addressGetExtraData declared.destination).isSome
  ensure (declaredHasExtraData = actual.extraData.isSome)
    "Transfer extra data does not match the unsigned transaction"

/-- One turn of the loop over the transfers of a request that is made. -/
def buildSigningRequestTransfer (S : Suite T) (network : Network) (sourceKeypair : T.KeyPair)
    (declared : TransferBuilder T) (actual : TransferPayload T) :
    Except String MultisigSigningRequestTransfer := do
  validateTransferPublicDetails S declared actual network
  let senderCiphertext ← context (S.decompressCiphertext actual.senderCiphertext)
    "The transfer sender ciphertext is invalid"
  let amountProof := S.newProof sourceKeypair declared.amount senderCiphertext
  return {
    amount := declared.amount
    asset := S.hashHex.toText actual.asset
    destination := S.addressText.toText (S.toAddress actual.destination network.isMainnet)
    hasExtraData := actual.extraData.isSome
    amountProof := S.proofHex.toText amountProof }

def buildSigningRequestTransaction (S : Suite T) (declared : TransactionTypeBuilder T)
    (actual : TransactionType T) (network : Network) (sourceKeypair : T.KeyPair) :
    Except String MultisigSigningRequestTransaction :=
  match declared, actual with
  | .transfers declared, .transfers actual => do
    ensure (declared.length = actual.length)
      "The transfer count does not match the unsigned transaction"
    let transfers ← (declared.zip actual).mapM fun p =>
      buildSigningRequestTransfer S network sourceKeypair p.1 p.2
    return .transfers transfers
  | .burn declared, .burn actual => do
    ensure (declared.asset = actual.asset ∧ declared.amount = actual.amount)
      "The burn details do not match the unsigned transaction"
    return .burn (S.hashHex.toText actual.asset) actual.amount
  | .multiSig declared, .multiSig actual => do
    ensure (declared.threshold = actual.threshold)
      "The multisig threshold does not match the unsigned transaction"
    ensure (declared.participants.items.length = actual.participants.items.length ∧
        ∀ p ∈ declared.participants.items.zip actual.participants.items,
          S.addressGetPublicKey p.1 = p.2)
      "The multisig participants do not match the unsigned transaction"
    ensure actual.isDelete "Only multisig deletion requests are supported"
    return .deleteMultisig
  | _, _ => .error "The declared transaction type does not match the unsigned transaction"

/-- One turn of the loop over the transfers of a request that is read. -/
def validateAndBuildTransferPreview (S : Suite T) (network : Network) (source : T.PublicKey)
    (declared : MultisigSigningRequestTransfer) (actual : TransferPayload T) :
    Except String NativeMultisigSigningTransfer := do
  ensure (declared.destination =
      S.addressText.toText (S.toAddress actual.destination network.isMainnet))
    "A transfer destination does not match the unsigned transaction"
  ensure (declared.asset = S.hashHex.toText actual.asset)
    "A transfer asset does not match the unsigned transaction"
  ensure (declared.hasExtraData = actual.extraData.isSome)
    "Transfer extra data does not match the unsigned transaction"
  let amountProof ← context (S.proofHex.ofText declared.amountProof)
    "The transfer amount proof is invalid"
  ensure (S.proofHex.toText amountProof = declared.amountProof)
    "The transfer amount proof encoding is not canonical"
  ensure (S.proofAmount amountProof = declared.amount)
    "The transfer amount does not match its proof"
  let senderCiphertext ← context (S.decompressCiphertext actual.senderCiphertext)
    "The transfer sender ciphertext is invalid"
  ensure (S.proofVerify amountProof source senderCiphertext)
    "The transfer amount proof does not match the unsigned transaction"
  return {
    amount := declared.amount
    asset := declared.asset
    destination := declared.destination
    hasExtraData := declared.hasExtraData }

def validateAndBuildTransactionPreview (S : Suite T) (declared : MultisigSigningRequestTransaction)
    (actual : TransactionType T) (network : Network) (source : T.PublicKey) :
    Except String NativeMultisigSigningTransaction :=
  match declared, actual with
  | .transfers declared, .transfers actual => do
    ensure (declared.length = actual.length)
      "The transfer count does not match the unsigned transaction"
    let transfers ← (declared.zip actual).mapM fun p =>
      validateAndBuildTransferPreview S network source p.1 p.2
    return .transfers transfers
  | .burn asset amount, .burn actual => do
    ensure (asset = S.hashHex.toText actual.asset ∧ amount = actual.amount)
      "The burn details do not match the unsigned transaction"
    return .burn (S.hashHex.toText actual.asset) actual.amount
  | .deleteMultisig, .multiSig actual => do
    ensure actual.isDelete "Only multisig deletion requests are supported"
    return .deleteMultisig
  | _, _ => .error "The declared transaction type does not match the unsigned transaction"

/-- `ephemeral` is the key pair made inside, with which a copy is finalized to read its fields. -/
def parseMultisigSigningRequest (S : Suite T) (ephemeral : T.KeyPair) (encoded : String)
    (expectedNetwork : Network) : Except String (ParsedMultisigSigningRequest T) := do
  ensure (encoded.utf8ByteSize ≤ maxMultisigSigningRequestSize S)
    "The multisig signing request is too large"
  let envelope ← context (S.requestFromStr (trim encoded)) "Invalid multisig signing request"
  ensure (envelope.payload.version = multisigSigningRequestVersion)
    "Unsupported multisig signing request version"
  ensure (envelope.payload.network = expectedNetwork)
    "The multisig signing request belongs to another network"
  let unsigned ← context (S.unsignedHex.ofText envelope.payload.unsignedTransaction)
    "Invalid unsigned transaction in multisig signing request"
  ensure (S.unsignedSize unsigned ≤ S.maxTransactionSize) "The unsigned transaction is too large"
  ensure (S.unsignedHex.toText unsigned = envelope.payload.unsignedTransaction)
    "The unsigned transaction encoding is not canonical"
  ensure unsigned.multisig.isNone "The multisig signing request already contains signatures"
  let sourceSignature ← context (S.signatureHex.ofText envelope.sourceSignature)
    "Invalid multisig signing request attestation"
  ensure (S.signatureHex.toText sourceSignature = envelope.sourceSignature)
    "The multisig signing request attestation encoding is not canonical"
  let source ← context (S.decompress unsigned.source) "Invalid multisig signing request source"
  ensure (S.verify sourceSignature (multisigRequestSigningBytes S envelope.payload) source)
    "The multisig signing request attestation is invalid"
  let canonicalEncoded := (envelope.toDoc S).text
  ensure (canonicalEncoded = trim encoded)
    "The multisig signing request encoding is not canonical"
  let transaction := unsigned.finalize S ephemeral
  let transactionPreview ← validateAndBuildTransactionPreview S envelope.payload.transaction
    transaction.data expectedNetwork source
  return {
    encoded := canonicalEncoded
    signingHash := S.getHashForMultisig unsigned
    source := S.addressText.toText (S.toAddress transaction.source expectedNetwork.isMainnet)
    network := expectedNetwork
    fee := transaction.fee
    feeLimit := transaction.feeLimit
    nonce := transaction.nonce
    referenceTopoheight := transaction.reference.topoheight
    transaction := transactionPreview }

/-- The first half of `create_multisig_signing_request`: the text of the request. -/
def encodeMultisigSigningRequest (S : Suite T) (unsigned : UnsignedTransaction T)
    (transactionType : TransactionTypeBuilder T) (network : Network) (sourceKeypair : T.KeyPair) :
    Except String String := do
  let finalized := unsigned.finalize S sourceKeypair
  let transaction ← buildSigningRequestTransaction S transactionType finalized.data network
    sourceKeypair
  let payload : MultisigSigningRequestPayload := {
    version := multisigSigningRequestVersion
    network
    unsignedTransaction := S.unsignedHex.toText unsigned
    transaction }
  let sourceSignature := S.sign sourceKeypair (multisigRequestSigningBytes S payload)
  let envelope : MultisigSigningRequestEnvelope := {
    payload
    sourceSignature := S.signatureHex.toText sourceSignature }
  return (envelope.toDoc S).text

/-- `ephemeral` is the key pair made when the request is read again. -/
def createMultisigSigningRequest (S : Suite T) (ephemeral : T.KeyPair)
    (unsigned : UnsignedTransaction T) (transactionType : TransactionTypeBuilder T)
    (configuration : MultiSigPayload T) (network : Network) (sourceKeypair : T.KeyPair) :
    Except String NativeMultisigSigningRequest := do
  let encoded ← encodeMultisigSigningRequest S unsigned transactionType network sourceKeypair
  let parsed ← parseMultisigSigningRequest S ephemeral encoded network
  let participants := configuration.participants.items.mapIdx fun id participant =>
    { id := UInt8.ofNat id
      address := S.addressText.toText (S.toAddress participant network.isMainnet) }
  return parsed.intoRequest S none configuration.threshold participants none

def createMultisigSignatureShare (S : Suite T) (signingHash : T.Hash) (signerId : UInt8)
    (signature : T.Signature) : Except String NativeMultisigSignatureShare :=
  let envelope : MultisigSignatureShareEnvelope := {
    version := multisigSignatureShareVersion
    signingHash := S.hashHex.toText signingHash
    signerId
    signature := S.signatureHex.toText signature }
  let encoded := envelope.toDoc.text
  .ok { encoded
        signingHash := envelope.signingHash
        signerId
        signature := envelope.signature }

def parseMultisigSignatureShare (S : Suite T) (encoded : String) (expectedSigningHash : T.Hash) :
    Except String MultisigSignature := do
  ensure (encoded.utf8ByteSize ≤ maxMultisigSignatureShareSize)
    "The multisig signature share is too large"
  let envelope ← context (S.shareFromStr (trim encoded)) "Invalid multisig signature share"
  ensure (envelope.version = multisigSignatureShareVersion)
    "Unsupported multisig signature share version"
  ensure (envelope.signingHash = S.hashHex.toText expectedSigningHash)
    "The signature share belongs to another multisig request"
  ensure (envelope.toDoc.text = trim encoded)
    "The multisig signature share encoding is not canonical"
  let signature ← context (S.signatureHex.ofText envelope.signature)
    "Invalid signature share encoding"
  ensure (S.signatureHex.toText signature = envelope.signature)
    "The signature share encoding is not canonical"
  return { id := envelope.signerId, signature := envelope.signature }

end XelisWallet.Multisig
