import XelisWallet.Flows
import XelisWallet.MultisigFinalize

/-!
Preparing transactions (`transactions.rs`, `multisig.rs`).

The functions that make a transaction from a request are asynchronous: they read the storage, have
the fee estimated and the transaction created, and each of these can fail. A prepared transaction is
committed to the slot of the wallet under a guard that was taken before; one for several signers is
stored with the request for their signatures. Each function is a flow, whose questions are what it
waits for and what it does under a lock.
-/

namespace XelisWallet.Prepare

open Fallible NativeError Builders PreparedStore Flows Flow
open Multisig hiding TransferBuilder TransactionTypeBuilder
open MultisigFinalize (preparedTransactionError)

variable {T : Types}

/-! ### Questions -/

/-- What the functions ask for. A fee is a fixed one, `FeeBuilder::Fixed`. -/
inductive Question (T : Types)
  /-- `PreparedTransactionPreparationGuard::begin`. -/
  | begin
  /-- `commit` of the guard. -/
  | commit (hash : T.Hash) (transaction : PreparedWalletTransaction T)
  | balance (asset : T.Hash)
  | multisigState
  /-- `estimate_fees`. -/
  | estimateFees (transactionType : TransactionTypeBuilder T)
  /-- `create_transaction_with_storage`. -/
  | createTransaction (transactionType : TransactionTypeBuilder T) (fee : UInt64)
  /-- Whether a request for signatures is pending. -/
  | requestPending
  /-- `create_transaction_state_with_storage`. -/
  | createState (transactionType : TransactionTypeBuilder T) (fee : UInt64)
  | txVersion
  /-- `create_unsigned_transaction`. -/
  | createUnsigned (state : T.BuilderState) (threshold : UInt8)
      (transactionType : TransactionTypeBuilder T) (fee : UInt64) (version : ℕ)
  /-- `store_pending_multisig_transaction`. -/
  | storePending (unsigned : UnsignedTransaction T) (state : T.BuilderState)
      (transactionType : TransactionTypeBuilder T) (configuration : MultiSigPayload T)
      (targetFee : UInt64)

/-- The answers; `none` is an error of the storage or of the library. -/
@[reducible] def Answer : Question T → Type
  | .begin => PreparedResult ℕ
  | .commit _ _ => PreparedResult ℕ
  | .balance _ => Option UInt64
  | .multisigState => Option (Option (MultiSigPayload T))
  | .estimateFees _ => Option UInt64
  | .createTransaction _ _ => Option (Transaction T × T.BuilderState)
  | .requestPending => Bool
  | .createState _ _ => Option T.BuilderState
  | .txVersion => Option ℕ
  | .createUnsigned .. => Option (UnsignedTransaction T × T.BuilderState)
  | .storePending .. => Except NativeXelisError NativeMultisigSigningRequest

abbrev WalletFlow (T : Types) := Flow NativeXelisError (Question T) Answer

/-- `map_err(prepared_transaction_error)`. -/
def orPreparedError {α : Type} (result : PreparedResult α) : Except NativeXelisError α :=
  result.mapError preparedTransactionError

/-- The guard of a preparation is known by its generation. -/
def beginPreparation : WalletFlow T ℕ := do
  let guard ← request .begin
  lift (orPreparedError guard)

def readBalance (asset : T.Hash) (nativeKind : String) : WalletFlow T UInt64 := do
  let balance ← request (.balance asset)
  lift (context balance (.storageOperation nativeKind))

def estimateTargetFee (transactionType : TransactionTypeBuilder T)
    (feePolicy : NativeTransactionFeePolicy) : WalletFlow T UInt64 := do
  let baseFee ← request (.estimateFees transactionType)
  let baseFee ← lift (context baseFee
    (.upstreamOperation .operationFailed "TRANSACTION_FEE_ESTIMATION_FAILED"))
  lift (applyFeePolicy baseFee feePolicy)

/-- The error of a balance that does not pay for the fee. -/
def insufficient {α : Type} (nativeKind : String) (result : Except String α) :
    Except NativeXelisError α :=
  result.mapError fun error => .walletOperation error .insufficientFunds nativeKind

section Single

variable (S : BuilderSuite T)

def createAndCommitPreparedTransaction (transactionType : TransactionTypeBuilder T)
    (transaction : NativePreparedTransactionKind)
    (reviewExtraData : List (Option NativePreparedTransferExtraData)) (targetFee : UInt64) :
    WalletFlow T NativePreparedTransaction := do
  let created ← request (.createTransaction transactionType targetFee)
  let (tx, state) ← lift (context created
    (.upstreamOperation .operationFailed "PREPARED_TRANSACTION_CREATION_FAILED"))
  let hash := S.transactionHash tx
  let fee := tx.fee
  lift (ensure (fee = targetFee) (.flutter .internal "PREPARED_TRANSACTION_FEE_MISMATCH"
    s!"Prepared fee {fee} differs from requested fixed fee {targetFee}"))
  let committed ← request (.commit hash ⟨tx, state, reviewExtraData⟩)
  let preparationId ← lift (orPreparedError committed)
  return { hash := S.hashHex.toText hash, preparationId, fee, transaction }

def estimateTransferFeesAtomic (transfers : List NativeTransactionTransferRequest)
    (feePolicy : NativeTransactionFeePolicy) : WalletFlow T UInt64 := do
  let _ ← lift (applyFeePolicy 0 feePolicy)
  let (transactionType, _, _) ← lift (buildAtomicTransfers S transfers)
  estimateTargetFee transactionType feePolicy

def prepareTransfersTransaction (transfers : List NativeTransactionTransferRequest)
    (feePolicy : NativeTransactionFeePolicy) : WalletFlow T NativePreparedTransaction := do
  let _ ← lift (applyFeePolicy 0 feePolicy)
  let _preparation ← beginPreparation
  let (transactionType, transaction, reviewExtraData) ← lift (buildAtomicTransfers S transfers)
  let targetFee ← estimateTargetFee transactionType feePolicy
  createAndCommitPreparedTransaction S transactionType transaction reviewExtraData targetFee

def prepareTransferAllTransaction (destination asset : String) (extraData : Option String)
    (encryptExtraData : Bool) (feePolicy : NativeTransactionFeePolicy) :
    WalletFlow T NativePreparedTransaction := do
  let _ ← lift (applyFeePolicy 0 feePolicy)
  let _preparation ← beginPreparation
  let asset ← lift (parseTransactionAsset S asset)
  let destination ← lift (parseTransactionDestination S destination)
  let balance ← readBalance asset "TRANSFER_ALL_BALANCE_READ_FAILED"
  let estimatedTransaction ← lift (insufficient "TRANSFER_ALL_BALANCE_INSUFFICIENT"
    (buildTransferAllType S destination balance 0 asset extraData (some encryptExtraData)))
  let targetFee ← estimateTargetFee estimatedTransaction feePolicy
  let amount ← lift (insufficient "TRANSFER_ALL_BALANCE_INSUFFICIENT"
    (amountAfterFee S balance targetFee asset "Insufficient balance for fees"))
  let transactionType ← lift (insufficient "TRANSFER_ALL_BALANCE_INSUFFICIENT"
    (buildTransferAllType S destination balance targetFee asset extraData (some encryptExtraData)))
  let (preparedTransfer, preparedExtraData) ← lift
    (projectPreparedTransfer S destination asset amount extraData encryptExtraData)
  createAndCommitPreparedTransaction S transactionType (.transfers [preparedTransfer])
    [preparedExtraData] targetFee

def prepareBurnTransaction (amount : UInt64) (asset : String)
    (feePolicy : NativeTransactionFeePolicy) : WalletFlow T NativePreparedTransaction := do
  let _ ← lift (applyFeePolicy 0 feePolicy)
  let _preparation ← beginPreparation
  lift (ensure (amount ≠ 0) (.flutter .invalidInput "TRANSACTION_AMOUNT_INVALID"
    "Burn amount must be greater than zero"))
  let asset ← lift (parseTransactionAsset S asset)
  let transactionType := buildBurnType asset amount
  let targetFee ← estimateTargetFee transactionType feePolicy
  createAndCommitPreparedTransaction S transactionType (.burn (S.hashHex.toText asset) amount) []
    targetFee

def prepareBurnAllTransaction (asset : String) (feePolicy : NativeTransactionFeePolicy) :
    WalletFlow T NativePreparedTransaction := do
  let _ ← lift (applyFeePolicy 0 feePolicy)
  let _preparation ← beginPreparation
  let asset ← lift (parseTransactionAsset S asset)
  let balance ← readBalance asset "BURN_ALL_BALANCE_READ_FAILED"
  let estimatedTransaction ← lift (insufficient "BURN_ALL_BALANCE_INSUFFICIENT"
    (buildBurnAllType S asset balance 0))
  let targetFee ← estimateTargetFee estimatedTransaction feePolicy
  let amount ← lift (insufficient "BURN_ALL_BALANCE_INSUFFICIENT"
    (amountAfterFee S balance targetFee asset "Insufficient balance to pay burn transaction fees"))
  let transactionType ← lift (insufficient "BURN_ALL_BALANCE_INSUFFICIENT"
    (buildBurnAllType S asset balance targetFee))
  createAndCommitPreparedTransaction S transactionType (.burn (S.hashHex.toText asset) amount) []
    targetFee

/-- `inspect_prepared_transfer_extra_data`; on the targets an index is a `usize`. -/
def inspectPreparedTransferExtraData
    (store : PreparedTransactionStore T.Hash (PreparedWalletTransaction T)) (preparationId : ℕ)
    (txHash : String) (transferIndex : UInt32) :
    Except NativeXelisError NativePreparedTransferExtraData := do
  let hash ← context (S.hashHex.ofText txHash)
    (.flutter .invalidInput "PREPARED_TRANSACTION_HASH_INVALID"
      "Prepared transaction hash is not valid hexadecimal data")
  let prepared ← orPreparedError (store.readyExact preparationId hash)
  let transferCount := prepared.reviewExtraData.length
  ensure (transferIndex.toNat < transferCount)
    (.flutter .invalidInput "PREPARED_TRANSFER_INDEX_INVALID"
      (s!"Prepared transfer index {transferIndex} is outside the transaction transfer count " ++
        s!"{transferCount}"))
  context (prepared.reviewExtraData[transferIndex.toNat]?.bind id)
    (.flutter .notFound "PREPARED_TRANSFER_EXTRA_DATA_NOT_FOUND"
      "The selected prepared transfer does not contain extra data")

/-! ### Setting up a multisig -/

section Setup

variable [DecidableEq T.Address]

/-- Whether the element was new, and the set with it. -/
def insertIndex {α : Type} [DecidableEq α] (s : IndexSet α) (a : α) : Bool × IndexSet α :=
  if h : a ∈ s.items then (false, s)
  else (true, ⟨s.items ++ [a], s.nodup.append (List.nodup_singleton a) (by simpa using h)⟩)

def isMultisigParticipantAddressValid (address : T.Address) (mainnet : Bool)
    (walletPublicKey : T.Key) : Bool :=
  S.isNormal address && S.addressIsMainnet address = mainnet &&
    S.addressGetPublicKey address ≠ walletPublicKey

/-- One turn of the loop over the participants. -/
def addParticipant (mainnet : Bool) (walletPublicKey : T.Key) (addresses : IndexSet T.Address)
    (participant : String) : Except String (IndexSet T.Address) := do
  let address ← context (S.addressText.ofText participant) "Invalid multisig participant address"
  ensure (isMultisigParticipantAddressValid S address mainnet walletPublicKey)
    "Invalid multisig participant address"
  match insertIndex addresses address with
  | (true, addresses) => return addresses
  | (false, _) => .error "A multisig participant was provided more than once"

def parseMultisigParticipants (participants : List String) (mainnet : Bool)
    (walletPublicKey : T.Key) : Except String (IndexSet T.Address) :=
  participants.foldlM (addParticipant S mainnet walletPublicKey) ⟨[], List.nodup_nil⟩

/-- The participants for review, with their indices as ids. -/
def preparedParticipants (addresses : IndexSet T.Address) : List NativeMultisigParticipant :=
  addresses.items.mapIdx fun id participant =>
    ⟨UInt8.ofNat id, S.addressText.toText participant⟩

/-- `multisig_setup` of a wallet with the public key. -/
def multisigSetup (mainnet : Bool) (walletPublicKey : T.Key) (threshold : UInt8)
    (participants : List String) (feePolicy : NativeTransactionFeePolicy) :
    WalletFlow T NativePreparedTransaction := do
  let _ ← lift (applyFeePolicy 0 feePolicy)
  lift ((validateMultisigSetup threshold participants.length).mapError fun error =>
    .walletOperation error .invalidInput "MULTISIG_SETUP_INVALID")
  let participantAddresses ← lift
    ((parseMultisigParticipants S participants mainnet walletPublicKey).mapError fun error =>
      .walletOperation error .invalidInput "MULTISIG_SETUP_PARTICIPANTS_INVALID")
  let state ← request .multisigState
  let state ← lift (context state (.storageOperation "MULTISIG_SETUP_STATE_READ_FAILED"))
  lift (ensure state.isNone (.flutter .conflict "MULTISIG_ALREADY_CONFIGURED"
    "Multisig is already configured"))
  let transactionType := .multiSig ⟨participantAddresses, threshold⟩
  -- only now the slot is taken
  let _preparation ← beginPreparation
  let targetFee ← estimateTargetFee transactionType feePolicy
  createAndCommitPreparedTransaction S transactionType
    (.multisigSetup threshold (preparedParticipants S participantAddresses)) [] targetFee

end Setup

/-! ### Transactions for several signers -/

def activeMultisigConfiguration : WalletFlow T (MultiSigPayload T) := do
  let state ← request .multisigState
  let state ← lift (context state (.storageOperation "MULTISIG_CONFIGURATION_READ_FAILED"))
  lift (context state (.flutter .notFound "MULTISIG_CONFIGURATION_NOT_FOUND"
    "No multisig configuration is active"))

def buildUnsignedTransaction (txType : TransactionTypeBuilder T) (fee : UInt64)
    (threshold : UInt8) : WalletFlow T (UnsignedTransaction T × T.BuilderState) := do
  let state ← request (.createState txType fee)
  let state ← lift (context state
    (.upstreamOperation .operationFailed "MULTISIG_TRANSACTION_STATE_CREATION_FAILED"))
  let version ← request .txVersion
  let version ← lift (context version
    (.storageOperation "MULTISIG_TRANSACTION_VERSION_READ_FAILED"))
  let unsigned ← request (.createUnsigned state threshold txType fee version)
  lift (context unsigned
    (.upstreamOperation .operationFailed "MULTISIG_UNSIGNED_TRANSACTION_CREATION_FAILED"))

def preparePendingMultisigTransactionWithFee (transactionType : TransactionTypeBuilder T)
    (targetFee : UInt64) : WalletFlow T NativeMultisigSigningRequest := do
  let pending ← request .requestPending
  lift (ensure (pending = false) (.flutter .conflict "MULTISIG_REQUEST_ALREADY_PENDING"
    "Another multisig request is already pending"))
  let configuration ← activeMultisigConfiguration
  let (unsigned, state) ←
    buildUnsignedTransaction transactionType targetFee configuration.threshold
  let stored ← request (.storePending unsigned state transactionType configuration targetFee)
  lift stored

def preparePendingMultisigTransaction (transactionType : TransactionTypeBuilder T)
    (feePolicy : NativeTransactionFeePolicy) : WalletFlow T NativeMultisigSigningRequest := do
  let targetFee ← estimateTargetFee transactionType feePolicy
  preparePendingMultisigTransactionWithFee transactionType targetFee

def createMultisigTransfersTransaction (transfers : List NativeTransactionTransferRequest)
    (feePolicy : NativeTransactionFeePolicy) : WalletFlow T NativeMultisigSigningRequest := do
  let _ ← lift (applyFeePolicy 0 feePolicy)
  let (transactionType, _, _) ← lift (buildAtomicTransfers S transfers)
  preparePendingMultisigTransaction transactionType feePolicy

/-- The asset of a request, XELIS if it names none. -/
def parseOptionalAsset (assetHash : Option String) : Except NativeXelisError T.Hash :=
  match assetHash with
  | none => .ok S.xelisAsset
  | some value => parseTransactionAsset S value

def createMultisigTransferAllTransaction (strAddress : String) (assetHash : Option String)
    (extraData : Option String) (encryptExtraData : Option Bool)
    (feePolicy : NativeTransactionFeePolicy) : WalletFlow T NativeMultisigSigningRequest := do
  let _ ← lift (applyFeePolicy 0 feePolicy)
  let asset ← lift (parseOptionalAsset S assetHash)
  let destination ← lift (parseTransactionDestination S strAddress)
  let balance ← readBalance asset "MULTISIG_TRANSFER_ALL_BALANCE_READ_FAILED"
  let estimatedType ← lift (insufficient "MULTISIG_TRANSFER_ALL_BALANCE_INSUFFICIENT"
    (buildTransferAllType S destination balance 0 asset extraData encryptExtraData))
  let targetFee ← estimateTargetFee estimatedType feePolicy
  let amount ← lift (insufficient "MULTISIG_TRANSFER_ALL_BALANCE_INSUFFICIENT"
    (amountAfterFee S balance targetFee asset "Insufficient balance for fees"))
  -- unlike in the other transfers, the extra data is not projected here
  let transactionType := .transfers
    [buildTransfer S destination amount asset extraData encryptExtraData]
  preparePendingMultisigTransactionWithFee transactionType targetFee

def createMultisigBurnTransaction (amount : UInt64) (assetHash : String)
    (feePolicy : NativeTransactionFeePolicy) : WalletFlow T NativeMultisigSigningRequest := do
  let _ ← lift (applyFeePolicy 0 feePolicy)
  lift (ensure (amount ≠ 0) (.flutter .invalidInput "MULTISIG_TRANSACTION_AMOUNT_INVALID"
    "Burn amount must be greater than zero"))
  let asset ← lift (parseTransactionAsset S assetHash)
  preparePendingMultisigTransaction (buildBurnType asset amount) feePolicy

def createMultisigBurnAllTransaction (assetHash : String)
    (feePolicy : NativeTransactionFeePolicy) : WalletFlow T NativeMultisigSigningRequest := do
  let _ ← lift (applyFeePolicy 0 feePolicy)
  let asset ← lift (parseTransactionAsset S assetHash)
  let balance ← readBalance asset "MULTISIG_BURN_ALL_BALANCE_READ_FAILED"
  let estimatedType ← lift (insufficient "MULTISIG_BURN_ALL_BALANCE_INSUFFICIENT"
    (buildBurnAllType S asset balance 0))
  let targetFee ← estimateTargetFee estimatedType feePolicy
  let transactionType ← lift (insufficient "MULTISIG_BURN_ALL_BALANCE_INSUFFICIENT"
    (buildBurnAllType S asset balance targetFee))
  preparePendingMultisigTransactionWithFee transactionType targetFee

end Single

end XelisWallet.Prepare
