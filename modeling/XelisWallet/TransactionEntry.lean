import XelisWallet.DataWire

/-!
Transactions of a wallet and what is shown of them (`business_events.rs`, and the Dart adapter of
business events).

A transaction has extra data in its transfers, with a key shared with the other party. It is turned
into an entry of the bridge by a projection that says how much of the extra data is shown, and the
adapter turns that entry into one of the package. Hashes are their hexadecimal text; the parties are
public keys in the storage and addresses outside of it.
-/

namespace XelisWallet.Transactions

open AddressBook DataWire

/-! ### Transactions of the wallet -/

inductive PlaintextFlag
  | «private»
  | «public»
  | proprietary
  | failed

structure PlaintextExtraData where
  sharedKey : Option (List UInt8)
  data : Option DataElement
  flag : PlaintextFlag

structure TransferIn where
  asset : String
  amount : UInt64
  extraData : Option PlaintextExtraData

structure TransferOut (P : Type) where
  destination : P
  asset : String
  amount : UInt64
  extraData : Option PlaintextExtraData

structure DeployInvoke where
  maxGas : UInt64
  deposits : List (String × UInt64)

/-- The kinds of entries, over the type of the parties. -/
inductive EntryType (P : Type)
  | coinbase (reward : UInt64)
  | burn (asset : String) (amount fee nonce : UInt64)
  | incoming («from» : P) (transfers : List TransferIn)
  | outgoing (transfers : List (TransferOut P)) (fee nonce : UInt64)
  | multiSig (participants : List P) (threshold : UInt8) (fee nonce : UInt64)
  | invokeContract (contract : String) (deposits : List (String × UInt64))
      (received : List (String × List (String × UInt64))) (chunkId : UInt16)
      (fee maxGas nonce : UInt64)
  | deployContract (fee nonce : UInt64) (invoke : Option DeployInvoke)
  | incomingContract (transfers : List (String × List (String × UInt64)))
  | outgoingBlob (destinations : List P) (fee nonce : UInt64) (data : PlaintextExtraData)
  | incomingBlob («from» : P) (destinations : List P) (data : PlaintextExtraData)

structure TransactionEntry (P : Type) where
  hash : String
  topoheight : UInt64
  timestamp : UInt64
  entry : EntryType P

structure TransactionPending (P : Type) where
  hash : String
  timestamp : UInt64
  entry : EntryType P

section Serializable

variable {P Q : Type} (f : P → Q)

def TransferOut.mapParty (value : TransferOut P) : TransferOut Q :=
  ⟨f value.destination, value.asset, value.amount, value.extraData⟩

def EntryType.mapParty : EntryType P → EntryType Q
  | .coinbase reward => .coinbase reward
  | .burn asset amount fee nonce => .burn asset amount fee nonce
  | .incoming «from» transfers => .incoming (f «from») transfers
  | .outgoing transfers fee nonce => .outgoing (transfers.map (·.mapParty f)) fee nonce
  | .multiSig participants threshold fee nonce =>
    .multiSig (participants.map f) threshold fee nonce
  | .invokeContract contract deposits received chunkId fee maxGas nonce =>
    .invokeContract contract deposits received chunkId fee maxGas nonce
  | .deployContract fee nonce invoke => .deployContract fee nonce invoke
  | .incomingContract transfers => .incomingContract transfers
  | .outgoingBlob destinations fee nonce data =>
    .outgoingBlob (destinations.map f) fee nonce data
  | .incomingBlob «from» destinations data => .incomingBlob (f «from») (destinations.map f) data

/-- `serializable`: the public keys of a stored entry become addresses. -/
def TransactionEntry.serializable (value : TransactionEntry P) : TransactionEntry Q :=
  ⟨value.hash, value.topoheight, value.timestamp, value.entry.mapParty f⟩

def TransactionPending.serializable (value : TransactionPending P) : TransactionPending Q :=
  ⟨value.hash, value.timestamp, value.entry.mapParty f⟩

end Serializable

/-! ### Entries of the bridge -/

inductive NativeWalletExtraDataDisclosure
  | redacted
  | metadata
  | detailed
  deriving DecidableEq

inductive NativeWalletExtraDataFlag
  | «private»
  | «public»
  | proprietary
  | failed

inductive NativeWalletExtraDataPayloadKind
  | boolValue
  | string
  | u8
  | u16
  | u32
  | u64
  | u128
  | hash
  | blob
  | array
  | fields
  | unknown

structure NativeWalletExtraData where
  flag : NativeWalletExtraDataFlag
  hasPayload : Bool
  payload : Option NativeXelisDataElement
  payloadKind : Option NativeWalletExtraDataPayloadKind

structure NativeWalletTransferIn where
  asset : String
  amount : UInt64
  extraData : Option NativeWalletExtraData

structure NativeWalletTransferOut where
  destination : String
  asset : String
  amount : UInt64
  extraData : Option NativeWalletExtraData

structure NativeWalletAssetAmount where
  asset : String
  amount : UInt64

structure NativeWalletContractTransferGroup where
  contract : String
  transfers : List NativeWalletAssetAmount

structure NativeWalletDeployInvoke where
  maxGas : UInt64
  deposits : List NativeWalletAssetAmount

inductive NativeWalletTransactionEntryData
  | coinbase (reward : UInt64)
  | burn (asset : String) (amount fee nonce : UInt64)
  | incoming («from» : String) (transfers : List NativeWalletTransferIn)
  | outgoing (transfers : List NativeWalletTransferOut) (fee nonce : UInt64)
  | multisig (participants : List String) (threshold : UInt8) (fee nonce : UInt64)
  | invokeContract (contract : String) (deposits : List NativeWalletAssetAmount)
      (received : List NativeWalletContractTransferGroup) (chunkId : UInt16)
      (fee maxGas nonce : UInt64)
  | deployContract (fee nonce : UInt64) (invoke : Option NativeWalletDeployInvoke)
  | incomingContract (transfers : List NativeWalletContractTransferGroup)
  | outgoingBlob (destinations : List String) (fee nonce : UInt64) (data : NativeWalletExtraData)
  | incomingBlob («from» : String) (destinations : List String) (data : NativeWalletExtraData)

structure NativeWalletTransactionEntry where
  hash : String
  topoheight : UInt64
  timestampMillis : UInt64
  entry : NativeWalletTransactionEntryData

structure NativeWalletPendingTransaction where
  hash : String
  timestampMillis : UInt64
  entry : NativeWalletTransactionEntryData

inductive ExtraDataProjection
  | redacted
  | metadata
  | detailed
  deriving DecidableEq

def ExtraDataProjection.fromDisclosure : NativeWalletExtraDataDisclosure → ExtraDataProjection
  | .redacted => .redacted
  | .metadata => .metadata
  | .detailed => .detailed

def extraDataPayloadKind : DataElement → NativeWalletExtraDataPayloadKind
  | .value (.bool _) => .boolValue
  | .value (.string _) => .string
  | .value (.u8 _) => .u8
  | .value (.u16 _) => .u16
  | .value (.u32 _) => .u32
  | .value (.u64 _) => .u64
  | .value (.u128 _) => .u128
  | .value (.hash _) => .hash
  | .value (.blob _) => .blob
  | .array _ => .array
  | .fields _ => .fields

/-- The functions of this file return a `Result`, and never an error. -/
def extraData (value : PlaintextExtraData) (projection : ExtraDataProjection) :
    NativeWalletExtraData :=
  let (payload, payloadKind) := match projection, value.data with
    | .redacted, _ => (none, none)
    | _, none => (none, none)
    | .metadata, some payload => (none, some (extraDataPayloadKind payload))
    | .detailed, some payload => (some (.fromXelis payload), some (extraDataPayloadKind payload))
  { flag := match value.flag with
      | .private => .private
      | .public => .public
      | .proprietary => .proprietary
      | .failed => .failed
    hasPayload := value.data.isSome
    payload
    payloadKind }

def assetAmounts (values : List (String × UInt64)) : List NativeWalletAssetAmount :=
  values.map fun value => ⟨value.1, value.2⟩

def contractTransferGroups (values : List (String × List (String × UInt64))) :
    List NativeWalletContractTransferGroup :=
  values.map fun value => ⟨value.1, assetAmounts value.2⟩

def transferIn (value : TransferIn) (projection : ExtraDataProjection) : NativeWalletTransferIn :=
  ⟨value.asset, value.amount, value.extraData.map (extraData · projection)⟩

section Projection

variable {P : Type} (toText : P → String)

def transferOut (value : TransferOut P) (projection : ExtraDataProjection) :
    NativeWalletTransferOut :=
  ⟨toText value.destination, value.asset, value.amount,
    value.extraData.map (extraData · projection)⟩

def transactionEntryData (value : EntryType P) (projection : ExtraDataProjection) :
    NativeWalletTransactionEntryData :=
  match value with
  | .coinbase reward => .coinbase reward
  | .burn asset amount fee nonce => .burn asset amount fee nonce
  | .incoming «from» transfers =>
    .incoming (toText «from») (transfers.map (transferIn · projection))
  | .outgoing transfers fee nonce =>
    .outgoing (transfers.map (transferOut toText · projection)) fee nonce
  | .multiSig participants threshold fee nonce =>
    .multisig (participants.map toText) threshold fee nonce
  | .invokeContract contract deposits received chunkId fee maxGas nonce =>
    .invokeContract contract (assetAmounts deposits) (contractTransferGroups received) chunkId fee
      maxGas nonce
  | .deployContract fee nonce invoke =>
    .deployContract fee nonce (invoke.map fun invoke =>
      ⟨invoke.maxGas, assetAmounts invoke.deposits⟩)
  | .incomingContract transfers => .incomingContract (contractTransferGroups transfers)
  | .outgoingBlob destinations fee nonce data =>
    .outgoingBlob (destinations.map toText) fee nonce (extraData data projection)
  | .incomingBlob «from» destinations data =>
    .incomingBlob (toText «from») (destinations.map toText) (extraData data projection)

def transactionEntry (value : TransactionEntry P) (projection : ExtraDataProjection) :
    NativeWalletTransactionEntry where
  hash := value.hash
  topoheight := value.topoheight
  timestampMillis := value.timestamp
  entry := transactionEntryData toText value.entry projection

def pendingTransaction (value : TransactionPending P) (projection : ExtraDataProjection) :
    NativeWalletPendingTransaction where
  hash := value.hash
  timestampMillis := value.timestamp
  entry := transactionEntryData toText value.entry projection

end Projection

/-! ### Entries of the package -/

inductive XelisWalletExtraDataDisclosure
  | redacted
  | metadata
  | detailed
  deriving DecidableEq

inductive XelisWalletExtraDataFlag
  | «private»
  | «public»
  | proprietary
  | failed

inductive XelisWalletExtraDataPayloadKind
  | boolValue
  | string
  | u8
  | u16
  | u32
  | u64
  | u128
  | hash
  | blob
  | array
  | fields
  | unknown

/-- Extra data of the package, over its type `D` of data elements. -/
structure XelisWalletExtraData (D : Type) where
  flag : XelisWalletExtraDataFlag
  hasPayload : Bool
  payload : Option D
  payloadKind : Option XelisWalletExtraDataPayloadKind

structure XelisWalletTransferIn (D : Type) where
  asset : String
  amount : UInt64
  extraData : Option (XelisWalletExtraData D)

structure XelisWalletTransferOut (D : Type) where
  destination : String
  asset : String
  amount : UInt64
  extraData : Option (XelisWalletExtraData D)

structure XelisWalletAssetAmount where
  asset : String
  amount : UInt64

structure XelisWalletContractTransferGroup where
  contract : String
  transfers : List XelisWalletAssetAmount

structure XelisWalletDeployInvoke where
  maxGas : UInt64
  deposits : List XelisWalletAssetAmount

inductive XelisWalletTransactionEntryData (D : Type)
  | coinbase (reward : UInt64)
  | burn (asset : String) (amount fee nonce : UInt64)
  | incoming («from» : String) (transfers : List (XelisWalletTransferIn D))
  | outgoing (transfers : List (XelisWalletTransferOut D)) (fee nonce : UInt64)
  | multisig (participants : List String) (threshold : UInt8) (fee nonce : UInt64)
  | invokeContract (contract : String) (deposits : List XelisWalletAssetAmount)
      (received : List XelisWalletContractTransferGroup) (chunkId : UInt16)
      (fee maxGas nonce : UInt64)
  | deployContract (fee nonce : UInt64) (invoke : Option XelisWalletDeployInvoke)
  | incomingContract (transfers : List XelisWalletContractTransferGroup)
  | outgoingBlob (destinations : List String) (fee nonce : UInt64) (data : XelisWalletExtraData D)
  | incomingBlob («from» : String) (destinations : List String) (data : XelisWalletExtraData D)

structure XelisWalletTransactionEntry (D : Type) where
  hash : String
  topoheight : UInt64
  timestampMillis : UInt64
  entry : XelisWalletTransactionEntryData D

structure XelisWalletPendingTransaction (D : Type) where
  hash : String
  timestampMillis : UInt64
  entry : XelisWalletTransactionEntryData D

def adaptPayloadKind : NativeWalletExtraDataPayloadKind → XelisWalletExtraDataPayloadKind
  | .boolValue => .boolValue
  | .string => .string
  | .u8 => .u8
  | .u16 => .u16
  | .u32 => .u32
  | .u64 => .u64
  | .u128 => .u128
  | .hash => .hash
  | .blob => .blob
  | .array => .array
  | .fields => .fields
  | .unknown => .unknown

def adaptAssetAmount (value : NativeWalletAssetAmount) : XelisWalletAssetAmount :=
  ⟨value.asset, value.amount⟩

def adaptContractTransferGroup (value : NativeWalletContractTransferGroup) :
    XelisWalletContractTransferGroup :=
  ⟨value.contract, value.transfers.map adaptAssetAmount⟩

def adaptDeployInvoke (value : NativeWalletDeployInvoke) : XelisWalletDeployInvoke :=
  ⟨value.maxGas, value.deposits.map adaptAssetAmount⟩

section Adapter

-- `xelisDataElementFromGenerated`
variable {D : Type} (dataElementFromGenerated : NativeXelisDataElement → D)
  (extraDataDisclosure : XelisWalletExtraDataDisclosure)

def adaptExtraData (value : NativeWalletExtraData) : XelisWalletExtraData D where
  flag := match value.flag with
    | .private => .private
    | .public => .public
    | .proprietary => .proprietary
    | .failed => .failed
  hasPayload := value.hasPayload
  payload :=
    if extraDataDisclosure = .detailed then value.payload.map dataElementFromGenerated else none
  payloadKind :=
    if extraDataDisclosure ≠ .redacted then value.payloadKind.map adaptPayloadKind else none

def adaptTransferIn (value : NativeWalletTransferIn) : XelisWalletTransferIn D :=
  ⟨value.asset, value.amount,
    value.extraData.map (adaptExtraData dataElementFromGenerated extraDataDisclosure)⟩

def adaptTransferOut (value : NativeWalletTransferOut) : XelisWalletTransferOut D :=
  ⟨value.destination, value.asset, value.amount,
    value.extraData.map (adaptExtraData dataElementFromGenerated extraDataDisclosure)⟩

def adaptTransactionEntry :
    NativeWalletTransactionEntryData → XelisWalletTransactionEntryData D
  | .coinbase reward => .coinbase reward
  | .burn asset amount fee nonce => .burn asset amount fee nonce
  | .incoming «from» transfers =>
    .incoming «from» (transfers.map (adaptTransferIn dataElementFromGenerated extraDataDisclosure))
  | .outgoing transfers fee nonce =>
    .outgoing (transfers.map (adaptTransferOut dataElementFromGenerated extraDataDisclosure)) fee
      nonce
  | .multisig participants threshold fee nonce => .multisig participants threshold fee nonce
  | .invokeContract contract deposits received chunkId fee maxGas nonce =>
    .invokeContract contract (deposits.map adaptAssetAmount)
      (received.map adaptContractTransferGroup) chunkId fee maxGas nonce
  | .deployContract fee nonce invoke => .deployContract fee nonce (invoke.map adaptDeployInvoke)
  | .incomingContract transfers => .incomingContract (transfers.map adaptContractTransferGroup)
  | .outgoingBlob destinations fee nonce data =>
    .outgoingBlob destinations fee nonce
      (adaptExtraData dataElementFromGenerated extraDataDisclosure data)
  | .incomingBlob «from» destinations data =>
    .incomingBlob «from» destinations
      (adaptExtraData dataElementFromGenerated extraDataDisclosure data)

def xelisWalletTransactionFromGenerated (value : NativeWalletTransactionEntry) :
    XelisWalletTransactionEntry D where
  hash := value.hash
  topoheight := value.topoheight
  timestampMillis := value.timestampMillis
  entry := adaptTransactionEntry dataElementFromGenerated extraDataDisclosure value.entry

def xelisWalletPendingTransactionFromGenerated (value : NativeWalletPendingTransaction) :
    XelisWalletPendingTransaction D where
  hash := value.hash
  timestampMillis := value.timestampMillis
  entry := adaptTransactionEntry dataElementFromGenerated extraDataDisclosure value.entry

end Adapter

end XelisWallet.Transactions
