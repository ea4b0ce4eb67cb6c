import XelisWallet.TransactionEntry

/-!
The events of a wallet, and the two channels that report them (`runtime_events.rs` and
`business_events.rs`).

Every event belongs to one channel: the runtime channel reports the connection and the
synchronization, the business channel transactions, balances and assets.
-/

namespace XelisWallet.Events

open NativeError Transactions

/-! ### Events of the wallet -/

inductive MaxSupplyMode
  | none
  | fixed (maxSupply : UInt64)
  | mintable (maxSupply : UInt64)

inductive AssetOwner
  | none
  | creator (contract : String) (id : UInt64)
  | owner (origin : String) (originId : UInt64) (owner : String)

structure AssetData where
  name : String
  ticker : String
  decimals : UInt8
  maxSupply : MaxSupplyMode
  owner : AssetOwner

/-- An asset with the topoheight at which it was made. -/
structure RPCAssetData where
  asset : String
  topoheight : UInt64
  inner : AssetData

/-- The events the wallet broadcasts, over the type of the parties of transactions. -/
inductive Event (P : Type)
  | newTopoHeight (topoheight : UInt64)
  | newAsset (asset : RPCAssetData)
  | newTransaction (transaction : TransactionEntry P)
  | newPendingTransaction (transaction : TransactionPending P)
  | balanceChanged (asset : String) (balance : UInt64)
  | rescan (startTopoheight : UInt64)
  | historySynced (topoheight : UInt64)
  | online
  | offline
  | syncError (message : String)
  | trackAsset (asset : String)
  | untrackAsset (asset : String)

/-! ### The runtime channel -/

inductive NativeWalletRuntimeStreamCloseReason
  | nativeChannelClosed

inductive NativeWalletRuntimeEvent
  | online
  | offline
  | syncIssue (failure : NativeXelisError)
  | newTopoHeight (topoheight : UInt64)
  | rescan (startTopoheight : UInt64)
  | historySynced (topoheight : UInt64)
  | degraded (skippedEvents : ℕ) (failure : NativeXelisError)
  | closed (reason : NativeWalletRuntimeStreamCloseReason) (failure : NativeXelisError)

variable {P : Type}

def runtimeEventFromWalletEvent : Event P → Option NativeWalletRuntimeEvent
  | .newTopoHeight topoheight => some (.newTopoHeight topoheight)
  | .rescan startTopoheight => some (.rescan startTopoheight)
  | .historySynced topoheight => some (.historySynced topoheight)
  | .online => some .online
  | .offline => some .offline
  | .syncError message =>
    some (.syncIssue (.wallet .operationFailed "WALLET_SYNC_ERROR" message))
  | .newTransaction _ | .newPendingTransaction _ | .balanceChanged .. | .newAsset _
  | .trackAsset _ | .untrackAsset _ => none

/-! ### The business channel -/

inductive XelisMaxSupplyMode
  | none
  | fixed (maxSupply : UInt64)
  | mintable (maxSupply : UInt64)

inductive XelisAssetOwner
  | none
  | creator (contract : String) (id : UInt64)
  | owner (origin : String) (originId : UInt64) (owner : String)

structure XelisAssetMetadata where
  name : String
  ticker : String
  decimals : UInt8
  maxSupply : XelisMaxSupplyMode
  owner : XelisAssetOwner

structure NativeWalletAsset where
  assetHash : String
  topoheight : UInt64
  metadata : XelisAssetMetadata

inductive NativeWalletBusinessStreamCloseReason
  | nativeChannelClosed

inductive NativeWalletBusinessEvent
  | newTransaction (transaction : NativeWalletTransactionEntry)
  | newPendingTransaction (transaction : NativeWalletPendingTransaction)
  | balanceChanged (asset : String) (balance : UInt64)
  | newAsset (asset : NativeWalletAsset)
  | assetTracked (asset : String)
  | assetUntracked (asset : String)
  | degraded (skippedEvents : ℕ) (failure : NativeXelisError)
  | closed (reason : NativeWalletBusinessStreamCloseReason) (failure : NativeXelisError)

def assetMetadata (assetData : AssetData) : XelisAssetMetadata where
  name := assetData.name
  ticker := assetData.ticker
  decimals := assetData.decimals
  maxSupply := match assetData.maxSupply with
    | .none => .none
    | .fixed maxSupply => .fixed maxSupply
    | .mintable maxSupply => .mintable maxSupply
  owner := match assetData.owner with
    | .none => .none
    | .creator contract id => .creator contract id
    | .owner origin originId owner => .owner origin originId owner

/-- Its `Result` is never an error, because a projection is none. -/
def businessEventFromWalletEventWithProjection (toText : P → String) (event : Event P)
    (extraDataProjection : ExtraDataProjection) : Option NativeWalletBusinessEvent :=
  match event with
  | .newTransaction transaction =>
    some (.newTransaction (transactionEntry toText transaction extraDataProjection))
  | .newPendingTransaction transaction =>
    some (.newPendingTransaction (pendingTransaction toText transaction extraDataProjection))
  | .balanceChanged asset balance => some (.balanceChanged asset balance)
  | .newAsset asset => some (.newAsset ⟨asset.asset, asset.topoheight, assetMetadata asset.inner⟩)
  | .trackAsset asset => some (.assetTracked asset)
  | .untrackAsset asset => some (.assetUntracked asset)
  | .newTopoHeight _ | .rescan _ | .historySynced _ | .online | .offline | .syncError _ => none

/-- **Every event belongs to one channel**, whatever the projection. -/
theorem reported_by_one_channel (toText : P → String) (projection : ExtraDataProjection)
    (event : Event P) :
    ((runtimeEventFromWalletEvent event).isSome ∧
      businessEventFromWalletEventWithProjection toText event projection = none) ∨
    (runtimeEventFromWalletEvent event = none ∧
      (businessEventFromWalletEventWithProjection toText event projection).isSome) := by
  cases event with
  | newTopoHeight | rescan | historySynced | online | offline | syncError => exact .inl ⟨rfl, rfl⟩
  | newTransaction | newPendingTransaction | balanceChanged | newAsset | trackAsset
  | untrackAsset => exact .inr ⟨rfl, rfl⟩

/-! ### Business events of the package -/

inductive XelisWalletBusinessStreamCloseReason
  | nativeChannelClosed

/-- The business events of the package, over its types of data elements and failures. -/
inductive XelisWalletBusinessEvent (D X : Type)
  | newTransaction (transaction : XelisWalletTransactionEntry D)
  | newPendingTransaction (transaction : XelisWalletPendingTransaction D)
  | balanceChanged (asset : String) (balance : UInt64)
  | newAsset (asset : NativeWalletAsset)
  | assetTracked (asset : String)
  | assetUntracked (asset : String)
  | degraded (skippedEvents : ℕ) (failure : X)
  | closed (reason : XelisWalletBusinessStreamCloseReason) (failure : X)

/-- The adapter of business events; the asset of the package has the same fields. -/
def adaptBusinessEvent {D X : Type}
    (dataElementFromGenerated : DataWire.NativeXelisDataElement → D)
    (adaptEventFailure : NativeXelisError → X)
    (extraDataDisclosure : XelisWalletExtraDataDisclosure) :
    NativeWalletBusinessEvent → XelisWalletBusinessEvent D X
  | .newTransaction transaction => .newTransaction
      (xelisWalletTransactionFromGenerated dataElementFromGenerated extraDataDisclosure transaction)
  | .newPendingTransaction transaction => .newPendingTransaction
      (xelisWalletPendingTransactionFromGenerated dataElementFromGenerated extraDataDisclosure
        transaction)
  | .balanceChanged asset balance => .balanceChanged asset balance
  | .newAsset asset => .newAsset asset
  | .assetTracked asset => .assetTracked asset
  | .assetUntracked asset => .assetUntracked asset
  | .degraded skippedEvents failure => .degraded skippedEvents (adaptEventFailure failure)
  | .closed .nativeChannelClosed failure =>
    .closed .nativeChannelClosed (adaptEventFailure failure)

end XelisWallet.Events
