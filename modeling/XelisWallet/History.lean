import XelisWallet.Checked
import XelisWallet.TransactionEntry

/-!
Reading the transactions of a wallet (`history.rs`, and the filter of `wallet_dtos.rs`).

The storage of the wallet filters the transactions by everything but the data of an integrated
address. A page is cut out of what it returns, after the exact destination was compared if there is
one. The export to CSV selects the transactions in the same way.
-/

namespace XelisWallet.Transactions

open Fallible Checked NativeError AddressBook

/-! ### The filter -/

structure HistoryPageFilter where
  page : ℕ
  limit : Option ℕ
  assetHash : Option String
  address : Option String
  minTopoheight : Option UInt64
  maxTopoheight : Option UInt64
  acceptIncoming : Bool
  acceptOutgoing : Bool
  acceptCoinbase : Bool
  acceptBurn : Bool
  acceptBlob : Bool
  minTimestamp : Option UInt64
  maxTimestamp : Option UInt64

/-- What the storage of the wallet filters by. -/
structure TransactionFilterOptions (K : Type) where
  address : Option K
  asset : Option String
  contract : Option String
  minTopoheight : Option UInt64
  maxTopoheight : Option UInt64
  acceptIncoming : Bool
  acceptOutgoing : Bool
  acceptCoinbase : Bool
  acceptBurn : Bool
  acceptBlob : Bool
  minTimestamp : Option UInt64
  maxTimestamp : Option UInt64
  skip : Option ℕ
  limit : Option ℕ

structure ExactIntegratedHistoryDestination (K : Type) where
  publicKey : K
  serializedData : List UInt8

structure PreparedHistoryFilter (K : Type) where
  options : TransactionFilterOptions K
  exactIntegratedDestination : Option (ExactIntegratedHistoryDestination K)

/-- What reading is given, over addresses `A` and public keys `K`. -/
structure ReadSuite (A K : Type) where
  addressFromString : String → Option A
  addressToString : A → String
  extractData : A → Option DataElement × A
  toPublicKey : A → K
  toAddress : Bool → K → A
  hashFromHex : String → Option String
  toBytes : DataElement → List UInt8
  usizeMax : ℕ

variable {A K : Type}

/-- The part of `prepare` for the address: the public key for the storage, or the exact
destination. -/
def prepareAddress (R : ReadSuite A K) (address : Option String) :
    Except String (Option K × Option (ExactIntegratedHistoryDestination K)) :=
  match address with
  | some address => do
    let address ← context (R.addressFromString address) "Invalid address"
    let (integratedData, baseAddress) := R.extractData address
    let publicKey := R.toPublicKey baseAddress
    match integratedData with
    | some data => return (none, some ⟨publicKey, R.toBytes data⟩)
    | none => return (some publicKey, none)
  | none => return (none, none)

def prepareAsset (R : ReadSuite A K) (assetHash : Option String) :
    Except String (Option String) :=
  match assetHash with
  | some assetHash => do
    let hash ← context (R.hashFromHex assetHash) "Invalid asset"
    return some hash
  | none => return none

/-- The number of transactions before the page. -/
def prepareSkip (R : ReadSuite A K) (page : ℕ) (limit : Option ℕ) :
    Except String (Option ℕ) :=
  match limit with
  | some limit => do
    let skip ← context (if 1 ≤ page then checkedMul R.usizeMax (page - 1) limit else none)
      "Pagination offset is too large"
    return some skip
  | none => return none

/-- The options of a filter whose address, asset and page are prepared. -/
def HistoryPageFilter.options (filter : HistoryPageFilter) (address : Option K)
    (asset : Option String) (skip : Option ℕ) : TransactionFilterOptions K where
  address := address
  asset := asset
  contract := none
  minTopoheight := filter.minTopoheight
  -- the storage adds one to the bound, so the largest number is no bound
  maxTopoheight := filter.maxTopoheight.filter (· ≠ UInt64.ofNat u64Max)
  acceptIncoming := filter.acceptIncoming
  acceptOutgoing := filter.acceptOutgoing
  acceptCoinbase := if filter.address.isSome then false else filter.acceptCoinbase
  acceptBurn := if filter.address.isSome then false else filter.acceptBurn
  acceptBlob := filter.acceptBlob && filter.address.isNone && filter.assetHash.isNone
  minTimestamp := filter.minTimestamp
  maxTimestamp := filter.maxTimestamp
  skip := skip
  limit := filter.limit

def HistoryPageFilter.prepare (R : ReadSuite A K) (filter : HistoryPageFilter) :
    Except String (PreparedHistoryFilter K) := do
  ensure (0 < filter.page) "Page must be at least 1"
  ensure (∀ limit ∈ filter.limit, 0 < limit) "Limit cannot be 0"
  let (address, exactIntegratedDestination) ← prepareAddress R filter.address
  let asset ← prepareAsset R filter.assetHash
  let skip ← prepareSkip R filter.page filter.limit
  return ⟨filter.options address asset skip, exactIntegratedDestination⟩

/-! ### Pages -/

structure FilteredPagination where
  offset : ℕ
  limit : Option ℕ

/-- The page, and the options that ask the storage for everything up to its end. -/
def FilteredPagination.prepare (R : ReadSuite A K) (options : TransactionFilterOptions K) :
    Except String (FilteredPagination × TransactionFilterOptions K) := do
  let offset := options.skip.getD 0
  let limit ← match options.limit with
    | some limit => do
      let limit ← context (checkedAdd R.usizeMax offset limit) "Pagination range is too large"
      pure (some limit)
    | none => pure none
  return (⟨offset, options.limit⟩, { options with skip := none, limit })

def FilteredPagination.apply {α : Type} (pagination : FilteredPagination) (values : List α) :
    List α :=
  match pagination.limit with
  | some limit => (values.drop pagination.offset).take limit
  | none => values

/-! ### The exact destination -/

/-- `Vec::retain_mut`: the elements for which the function says so, as it leaves them. -/
def retainMut {α : Type} (f : α → Bool × α) (values : List α) : List α :=
  values.filterMap fun value => if (f value).1 then some (f value).2 else none

section Exact

variable [DecidableEq K] (R : ReadSuite A K)

def ExactIntegratedHistoryDestination.matches (destination : ExactIntegratedHistoryDestination K)
    (publicKey : K) (data : Option DataElement) : Bool :=
  publicKey = destination.publicKey && data.any fun data =>
    R.toBytes data = destination.serializedData

def ExactIntegratedHistoryDestination.matchesWallet
    (destination : ExactIntegratedHistoryDestination K) (walletPublicKey : K) : Bool :=
  walletPublicKey = destination.publicKey

/-- The function of `retain_mut`. -/
def retainExact (destination : ExactIntegratedHistoryDestination K) (walletPublicKey : K)
    (transaction : TransactionEntry K) : Bool × TransactionEntry K :=
  match transaction.entry with
  | .incoming «from» transfers =>
    if destination.matchesWallet walletPublicKey then
      let transfers := transfers.filter fun transfer =>
        destination.matches R walletPublicKey (transfer.extraData.bind (·.data))
      (!transfers.isEmpty, { transaction with entry := .incoming «from» transfers })
    else (false, transaction)
  | .outgoing transfers fee nonce =>
    let transfers := transfers.filter fun transfer =>
      destination.matches R transfer.destination (transfer.extraData.bind (·.data))
    (!transfers.isEmpty, { transaction with entry := .outgoing transfers fee nonce })
  | _ => (false, transaction)

def applyExactIntegratedDestination (transactions : List (TransactionEntry K))
    (destination : ExactIntegratedHistoryDestination K) (walletPublicKey : K) :
    List (TransactionEntry K) :=
  retainMut (retainExact R destination walletPublicKey) transactions

end Exact

/-! ### Reading -/

/-- The storage of a wallet, as far as it is read here. -/
structure WalletStorage (K : Type) where
  getFilteredTransactions :
    TransactionFilterOptions K → Except String (List (TransactionEntry K))
  getTransaction : String → Except String (TransactionEntry K)
  pendingTxs : List (TransactionPending K)

/-- An open wallet. -/
structure WalletView (K : Type) where
  publicKey : K
  mainnet : Bool
  storage : WalletStorage K

def classifyHistoryError {α : Type} (fallbackCode : NativeXelisErrorCode) (fallbackKind : String)
    (result : Except String α) : Except NativeXelisError α :=
  result.mapError fun error => .walletOperation error fallbackCode fallbackKind

section Reads

variable [DecidableEq K] (R : ReadSuite A K) (wallet : WalletView K)

/-- The transactions of a page, with the kinds of the errors. -/
def selectTransactions (filterKind readKind : String) (filter : HistoryPageFilter) :
    Except NativeXelisError (List (TransactionEntry K)) := do
  let prepared ← classifyHistoryError .invalidInput filterKind (filter.prepare R)
  let (pagination, options) ←
    classifyHistoryError .invalidInput filterKind (FilteredPagination.prepare R prepared.options)
  -- a limit here would be used up by transactions with other data
  let options := if prepared.exactIntegratedDestination.isSome then { options with limit := none }
    else options
  let transactions ←
    classifyHistoryError .storage readKind (wallet.storage.getFilteredTransactions options)
  let transactions := match prepared.exactIntegratedDestination with
    | some destination =>
      applyExactIntegratedDestination R transactions destination wallet.publicKey
    | none => transactions
  return pagination.apply transactions

/-- The entry of the bridge of a stored transaction. -/
def readEntry (disclosure : NativeWalletExtraDataDisclosure) (transaction : TransactionEntry K) :
    NativeWalletTransactionEntry :=
  transactionEntry R.addressToString (transaction.serializable (R.toAddress wallet.mainnet))
    (.fromDisclosure disclosure)

def readPending (disclosure : NativeWalletExtraDataDisclosure)
    (transaction : TransactionPending K) : NativeWalletPendingTransaction :=
  pendingTransaction R.addressToString (transaction.serializable (R.toAddress wallet.mainnet))
    (.fromDisclosure disclosure)

def history (filter : HistoryPageFilter) (disclosure : NativeWalletExtraDataDisclosure) :
    Except NativeXelisError (List NativeWalletTransactionEntry) := do
  let transactions ← selectTransactions R wallet "WALLET_HISTORY_FILTER_INVALID"
    "WALLET_HISTORY_READ_FAILED" filter
  return transactions.map (readEntry R wallet disclosure)

def getPendingTransactions (disclosure : NativeWalletExtraDataDisclosure) :
    List NativeWalletPendingTransaction :=
  wallet.storage.pendingTxs.map (readPending R wallet disclosure)

def getTransactionByHash (hash : String) (disclosure : NativeWalletExtraDataDisclosure) :
    Except NativeXelisError NativeWalletTransactionEntry := do
  let hash ← context (R.hashFromHex hash)
    (.upstreamOperation .invalidInput "WALLET_TRANSACTION_HASH_INVALID")
  let transaction ← classifyHistoryError .notFound "WALLET_TRANSACTION_NOT_FOUND"
    (wallet.storage.getTransaction hash)
  return readEntry R wallet disclosure transaction

def getPendingTransactionByHash (hash : String) (disclosure : NativeWalletExtraDataDisclosure) :
    Except NativeXelisError NativeWalletPendingTransaction := do
  let hash ← context (R.hashFromHex hash)
    (.upstreamOperation .invalidInput "WALLET_TRANSACTION_HASH_INVALID")
  let transaction ← context (wallet.storage.pendingTxs.find? (·.hash = hash))
    (.flutter .notFound "WALLET_PENDING_TRANSACTION_NOT_FOUND"
      "Pending transaction was not found in wallet storage")
  return readPending R wallet disclosure transaction

def ensureTransactionsToExport (transactionCount : ℕ) : Except NativeXelisError Unit :=
  ensure (transactionCount ≠ 0)
    (.flutter .notFound "WALLET_HISTORY_CSV_EMPTY"
      "No matching transactions are available for CSV export")

/-- The export, with the function of the wallet that writes transactions. -/
def exportCsvTransactions
    (exportTransactionsInCsv : List (TransactionEntry K) → Except String (List UInt8))
    (filter : HistoryPageFilter) : Except NativeXelisError (List UInt8) := do
  let transactions ← selectTransactions R wallet "WALLET_HISTORY_CSV_FILTER_INVALID"
    "WALLET_HISTORY_CSV_READ_FAILED" filter
  ensureTransactionsToExport transactions.length
  classifyHistoryError .serialization "WALLET_HISTORY_CSV_SERIALIZATION_FAILED"
    (exportTransactionsInCsv transactions)

end Reads

end XelisWallet.Transactions
