import XelisWallet.Checked
import XelisWallet.DataWire
import XelisWallet.MultisigProtocol

/-!
What transactions are built from (`transactions/builders.rs`).

A request of the bridge is checked and turned into the builder of a transaction, into the projection
that is shown for review, and into the extra data that can be looked at until the transaction is
sent. The fee is the estimated one after the policy of the request.
-/

namespace XelisWallet.Builders

open Fallible Checked NativeError Multisig DataWire

variable {T : Types}

/-- The functions that building is given, besides those of the signing protocol. -/
structure BuilderSuite (T : Types) extends Suite T where
  /-- `XELIS_ASSET`. -/
  xelisAsset : T.Hash
  isNormal : T.Address → Bool
  /-- The data of an integrated address, and the address without it. -/
  extractData : T.Address → Option T.ExtraData × T.Address
  /-- The data element of a text. -/
  stringElement : String → T.ExtraData
  fromXelis : T.ExtraData → NativeXelisDataElement

/-! ### The fee -/

inductive NativeTransactionFeePolicy
  | automatic
  | fixed (fee : UInt64)
  | tip (tip : UInt64)
  | multiplier (basisPoints : UInt64)
  deriving DecidableEq, Repr

/-- `u128::MAX`. -/
def u128Max : ℕ := 2 ^ 128 - 1

def feeBasisPointsScale : ℕ := 10000

/-- `u64::try_from`. -/
def u64TryFrom (n : ℕ) : Option UInt64 := if n ≤ u64Max then some (UInt64.ofNat n) else none

def invalidTransactionInput (nativeKind diagnosticMessage : String) : NativeXelisError :=
  .flutter .invalidInput nativeKind diagnosticMessage

def feeOverflow : NativeXelisError :=
  invalidTransactionInput "TRANSACTION_FEE_OVERFLOW"
    "Adjusted transaction fee exceeds the supported range"

def feePolicyInvalid : NativeXelisError :=
  invalidTransactionInput "TRANSACTION_FEE_POLICY_INVALID"
    "Fee multiplier basis points must be positive"

def applyFeePolicy (baseFee : UInt64) :
    NativeTransactionFeePolicy → Except NativeXelisError UInt64
  | .automatic => .ok baseFee
  | .fixed fee => .ok fee
  | .tip tip => context ((checkedAdd u64Max baseFee.toNat tip.toNat).map UInt64.ofNat) feeOverflow
  | .multiplier basisPoints => do
    ensure (basisPoints ≠ 0) feePolicyInvalid
    let numerator ← context ((checkedMul u128Max baseFee.toNat basisPoints.toNat).bind fun value =>
      checkedAdd u128Max value (feeBasisPointsScale - 1)) feeOverflow
    let adjusted := numerator / feeBasisPointsScale
    context (u64TryFrom adjusted) feeOverflow

/-! ### Builders -/

structure TransferBuilder (T : Types) where
  destination : T.Address
  amount : UInt64
  asset : T.Hash
  extraData : Option T.ExtraData
  encryptExtraData : Bool

inductive TransactionTypeBuilder (T : Types)
  | transfers (transfers : List (TransferBuilder T))
  | burn (amount : UInt64) (asset : T.Hash)
  | multiSig (multisig : MultiSigBuilder T)

/-- What the signing protocol reads of a builder: everything but the choice of encryption. -/
def TransferBuilder.declared (t : TransferBuilder T) : Multisig.TransferBuilder T where
  asset := t.asset
  amount := t.amount
  destination := t.destination
  extraData := t.extraData

def TransactionTypeBuilder.declared :
    TransactionTypeBuilder T → Multisig.TransactionTypeBuilder T
  | .transfers builders => .transfers (builders.map (·.declared))
  | .burn amount asset => .burn ⟨asset, amount⟩
  | .multiSig multisig => .multiSig multisig

/-! ### Requests and projections -/

structure NativeTransactionTransferRequest where
  amount : UInt64
  destination : String
  asset : String
  extraData : Option String
  encryptExtraData : Bool

structure NativePreparedTransfer where
  amount : UInt64
  destination : String
  asset : String
  hasExtraData : Bool
  encryptExtraData : Bool

inductive NativePreparedExtraDataSource
  | integratedAddress
  | explicit

structure NativePreparedTransferExtraData where
  data : NativeXelisDataElement
  source : NativePreparedExtraDataSource
  encrypted : Bool

inductive NativePreparedTransactionKind
  | transfers (transfers : List NativePreparedTransfer)
  | burn (asset : String) (amount : UInt64)
  | multisigSetup (threshold : UInt8) (participants : List NativeMultisigParticipant)
  | multisigFinalized (transaction : NativeMultisigSigningTransaction)

structure NativePreparedTransaction where
  hash : String
  preparationId : ℕ
  fee : UInt64
  transaction : NativePreparedTransactionKind

/-- What is kept in the slot. -/
structure PreparedWalletTransaction (T : Types) where
  transaction : Transaction T
  state : T.BuilderState
  reviewExtraData : List (Option NativePreparedTransferExtraData)

section Building

variable (S : BuilderSuite T)

def parseTransactionAsset (asset : String) : Except NativeXelisError T.Hash :=
  context (S.hashHex.ofText asset)
    (invalidTransactionInput "TRANSACTION_ASSET_INVALID" "Transaction asset is not a valid hash")

def parseTransactionDestination (destination : String) : Except NativeXelisError T.Address :=
  context (S.addressText.ofText destination)
    (invalidTransactionInput "TRANSACTION_DESTINATION_INVALID"
      "Transaction destination is not a valid address")

def extraDataConflict : NativeXelisError :=
  invalidTransactionInput "TRANSACTION_EXTRA_DATA_CONFLICT"
    "Explicit extra data cannot be combined with an integrated address"

def projectPreparedTransfer (destination : T.Address) (asset : T.Hash) (amount : UInt64)
    (explicitExtraData : Option String) (encryptExtraData : Bool) :
    Except NativeXelisError
      (NativePreparedTransfer × Option NativePreparedTransferExtraData) := do
  let (integratedExtraData, publicDestination) := S.extractData destination
  ensure (¬ (explicitExtraData.isSome ∧ integratedExtraData.isSome)) extraDataConflict
  let effectiveExtraData :=
    ((explicitExtraData.map fun value =>
        (S.stringElement value, NativePreparedExtraDataSource.explicit)).or
      (integratedExtraData.map fun value => (value, .integratedAddress))).map
      fun (data, source) =>
        (⟨S.fromXelis data, source, encryptExtraData⟩ : NativePreparedTransferExtraData)
  return ({
    amount
    destination := S.addressText.toText publicDestination
    asset := S.hashHex.toText asset
    hasExtraData := effectiveExtraData.isSome
    encryptExtraData }, effectiveExtraData)

def encryptExtraDataOrDefault (value : Option Bool) : Bool := value.getD true

def buildTransfer (destination : T.Address) (amount : UInt64) (asset : T.Hash)
    (extraData : Option String) (encryptExtraData : Option Bool) : TransferBuilder T where
  destination := destination
  amount := amount
  asset := asset
  extraData := extraData.map S.stringElement
  encryptExtraData := encryptExtraDataOrDefault encryptExtraData

/-- The three lists that the loop over the transfers fills. -/
structure AtomicTransfers (T : Types) where
  builders : List (TransferBuilder T)
  projection : List NativePreparedTransfer
  reviewExtraData : List (Option NativePreparedTransferExtraData)

/-- One turn of the loop. -/
def pushTransfer (built : AtomicTransfers T) (p : NativeTransactionTransferRequest × ℕ) :
    Except NativeXelisError (AtomicTransfers T) := do
  let (transfer, index) := p
  ensure (transfer.amount ≠ 0) (invalidTransactionInput "TRANSACTION_AMOUNT_INVALID"
    s!"Transfer amount at index {index} must be greater than zero")
  let asset ← parseTransactionAsset S transfer.asset
  let destination ← parseTransactionDestination S transfer.destination
  let (preparedTransfer, preparedExtraData) ← projectPreparedTransfer S destination asset
    transfer.amount transfer.extraData transfer.encryptExtraData
  return {
    builders := built.builders ++ [buildTransfer S destination transfer.amount asset
      transfer.extraData (some transfer.encryptExtraData)]
    projection := built.projection ++ [preparedTransfer]
    reviewExtraData := built.reviewExtraData ++ [preparedExtraData] }

def buildAtomicTransfers (transfers : List NativeTransactionTransferRequest) :
    Except NativeXelisError (TransactionTypeBuilder T × NativePreparedTransactionKind ×
      List (Option NativePreparedTransferExtraData)) := do
  ensure (transfers.length ≠ 0) (invalidTransactionInput "TRANSACTION_TRANSFERS_EMPTY"
    "At least one transfer is required")
  let built ← transfers.zipIdx.foldlM (pushTransfer S) ⟨[], [], []⟩
  return (.transfers built.builders, .transfers built.projection, built.reviewExtraData)

/-! ### The whole balance -/

/-- `checked_sub`. -/
def checkedSub (a b : UInt64) : Option UInt64 := if b ≤ a then some (a - b) else none

def amountAfterFee (amount fee : UInt64) (asset : T.Hash) (insufficientFundsContext : String) :
    Except String UInt64 := do
  let amount ← if asset = S.xelisAsset then context (checkedSub amount fee) insufficientFundsContext
    else pure amount
  context (if 0 < amount then some amount else none) insufficientFundsContext

def buildTransferAllType (destination : T.Address) (balance fee : UInt64) (asset : T.Hash)
    (extraData : Option String) (encryptExtraData : Option Bool) :
    Except String (TransactionTypeBuilder T) := do
  let amount ← amountAfterFee S balance fee asset "Insufficient balance for fees"
  return .transfers [buildTransfer S destination amount asset extraData encryptExtraData]

def buildBurnType (asset : T.Hash) (amount : UInt64) : TransactionTypeBuilder T :=
  .burn amount asset

def buildBurnAllType (asset : T.Hash) (balance fee : UInt64) :
    Except String (TransactionTypeBuilder T) := do
  let amount ← amountAfterFee S balance fee asset
    "Insufficient balance to pay burn transaction fees"
  return buildBurnType asset amount

end Building

end XelisWallet.Builders
