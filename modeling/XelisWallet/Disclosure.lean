import XelisWallet.HistoryPages
import XelisWallet.WalletEvents

/-!
What the disclosure of extra data hides.

Two transactions may differ in the payloads and the shared keys of their extra data. What is shown
of them depends on the disclosure only through one function on extra data, so a relation that this
function does not see is not seen in an entry of any kind, and not in a list of them.
-/

namespace XelisWallet.Transactions

open Fallible NativeError AddressBook DataWire Events

/-! ### Transactions that differ in their extra data -/

/-- The same presence of a payload and the same flag. -/
def SamePresence (x y : PlaintextExtraData) : Prop :=
  x.flag = y.flag ∧ x.data.isSome = y.data.isSome

/-- Also the same kind of payload at the top. -/
def SameKind (x y : PlaintextExtraData) : Prop :=
  x.flag = y.flag ∧ x.data.map extraDataPayloadKind = y.data.map extraDataPayloadKind

/-- Everything is the same but the shared key. -/
def SameData (x y : PlaintextExtraData) : Prop := x.flag = y.flag ∧ x.data = y.data

section Relations

variable {P : Type} (Rel : PlaintextExtraData → PlaintextExtraData → Prop)

structure TransferInRel (x y : TransferIn) : Prop where
  asset : x.asset = y.asset
  amount : x.amount = y.amount
  extraData : Option.Rel Rel x.extraData y.extraData

structure TransferOutRel (x y : TransferOut P) : Prop where
  destination : x.destination = y.destination
  asset : x.asset = y.asset
  amount : x.amount = y.amount
  extraData : Option.Rel Rel x.extraData y.extraData

/-- Entries that are the same but for extra data that is related. -/
inductive EntryRel : EntryType P → EntryType P → Prop
  | coinbase (reward : UInt64) : EntryRel (.coinbase reward) (.coinbase reward)
  | burn (asset : String) (amount fee nonce : UInt64) :
      EntryRel (.burn asset amount fee nonce) (.burn asset amount fee nonce)
  | incoming (sender : P) {transfers transfers' : List TransferIn}
      (h : List.Forall₂ (TransferInRel Rel) transfers transfers') :
      EntryRel (.incoming sender transfers) (.incoming sender transfers')
  | outgoing {transfers transfers' : List (TransferOut P)} (fee nonce : UInt64)
      (h : List.Forall₂ (TransferOutRel Rel) transfers transfers') :
      EntryRel (.outgoing transfers fee nonce) (.outgoing transfers' fee nonce)
  | multiSig (participants : List P) (threshold : UInt8) (fee nonce : UInt64) :
      EntryRel (.multiSig participants threshold fee nonce)
        (.multiSig participants threshold fee nonce)
  | invokeContract (contract : String) (deposits : List (String × UInt64))
      (received : List (String × List (String × UInt64))) (chunkId : UInt16)
      (fee maxGas nonce : UInt64) :
      EntryRel (.invokeContract contract deposits received chunkId fee maxGas nonce)
        (.invokeContract contract deposits received chunkId fee maxGas nonce)
  | deployContract (fee nonce : UInt64) (invoke : Option DeployInvoke) :
      EntryRel (.deployContract fee nonce invoke) (.deployContract fee nonce invoke)
  | incomingContract (transfers : List (String × List (String × UInt64))) :
      EntryRel (.incomingContract transfers) (.incomingContract transfers)
  | outgoingBlob (destinations : List P) (fee nonce : UInt64) {data data' : PlaintextExtraData}
      (h : Rel data data') :
      EntryRel (.outgoingBlob destinations fee nonce data)
        (.outgoingBlob destinations fee nonce data')
  | incomingBlob (sender : P) (destinations : List P) {data data' : PlaintextExtraData}
      (h : Rel data data') :
      EntryRel (.incomingBlob sender destinations data) (.incomingBlob sender destinations data')

structure TransactionRel (x y : TransactionEntry P) : Prop where
  hash : x.hash = y.hash
  topoheight : x.topoheight = y.topoheight
  timestamp : x.timestamp = y.timestamp
  entry : EntryRel Rel x.entry y.entry

structure PendingRel (x y : TransactionPending P) : Prop where
  hash : x.hash = y.hash
  timestamp : x.timestamp = y.timestamp
  entry : EntryRel Rel x.entry y.entry

/-- Events that are the same but for extra data that is related. -/
inductive EventRel : Event P → Event P → Prop
  | newTransaction {x y : TransactionEntry P} (h : TransactionRel Rel x y) :
      EventRel (.newTransaction x) (.newTransaction y)
  | newPendingTransaction {x y : TransactionPending P} (h : PendingRel Rel x y) :
      EventRel (.newPendingTransaction x) (.newPendingTransaction y)
  | same (e : Event P) : EventRel e e

/-- Results with the same error, or with related values. -/
inductive ResultRel {ε α : Type} (r : α → α → Prop) : Except ε α → Except ε α → Prop
  | error (e : ε) : ResultRel r (.error e) (.error e)
  | ok {a b : α} (h : r a b) : ResultRel r (.ok a) (.ok b)

/-- Wallets with the same key and network, whose storages return related transactions. -/
structure WalletRel (w w' : WalletView P) : Prop where
  publicKey : w.publicKey = w'.publicKey
  mainnet : w.mainnet = w'.mainnet
  filtered : ∀ options, ResultRel (List.Forall₂ (TransactionRel Rel))
    (w.storage.getFilteredTransactions options) (w'.storage.getFilteredTransactions options)
  transaction : ∀ hash, ResultRel (TransactionRel Rel) (w.storage.getTransaction hash)
    (w'.storage.getTransaction hash)
  pending : List.Forall₂ (PendingRel Rel) w.storage.pendingTxs w'.storage.pendingTxs

end Relations

/-! ### One entry -/

lemma map_eq_of_forall₂ {α β : Type} {r : α → α → Prop} {f g : α → β} {as bs : List α}
    (h : List.Forall₂ r as bs) (hfg : ∀ a b, r a b → f a = g b) : as.map f = bs.map g := by
  induction h with
  | nil => rfl
  | cons hab _ ih => rw [List.map_cons, List.map_cons, hfg _ _ hab, ih]

lemma map_eq_of_optionRel {α β : Type} {r : α → α → Prop} {f : α → β}
    (hf : ∀ a b, r a b → f a = f b) {x y : Option α} (h : Option.Rel r x y) :
    x.map f = y.map f := by
  cases h with
  | none => rfl
  | some hab => rw [Option.map_some, Option.map_some, hf _ _ hab]

section Entry

variable {P Q : Type} {Rel : PlaintextExtraData → PlaintextExtraData → Prop}

variable {e e' : EntryType P}

lemma EntryRel.mapParty (h : EntryRel Rel e e') (f : P → Q) :
    EntryRel Rel (e.mapParty f) (e'.mapParty f) := by
  cases h with
  | outgoing fee nonce h =>
    refine .outgoing fee nonce ?_
    rw [List.forall₂_map_left_iff, List.forall₂_map_right_iff]
    exact h.imp fun x y hxy => ⟨congrArg f hxy.destination, hxy.asset, hxy.amount, hxy.extraData⟩
  | incoming sender h => exact .incoming (f sender) h
  | outgoingBlob destinations fee nonce h => exact .outgoingBlob _ fee nonce h
  | incomingBlob sender destinations h => exact .incomingBlob _ _ h
  | coinbase | burn | multiSig | invokeContract | deployContract | incomingContract => constructor

variable {toText : P → String} {projection : ExtraDataProjection}

lemma EntryRel.transactionEntryData_eq (h : EntryRel Rel e e')
    (hRel : ∀ x y, Rel x y → extraData x projection = extraData y projection) :
    transactionEntryData toText e projection = transactionEntryData toText e' projection := by
  cases h with
  | incoming sender h =>
    refine congrArg (NativeWalletTransactionEntryData.incoming (toText sender)) ?_
    refine map_eq_of_forall₂ h fun x y hxy => ?_
    rw [transferIn, transferIn, hxy.asset, hxy.amount, map_eq_of_optionRel hRel hxy.extraData]
  | outgoing fee nonce h =>
    refine congrArg (NativeWalletTransactionEntryData.outgoing · fee nonce) ?_
    refine map_eq_of_forall₂ h fun x y hxy => ?_
    rw [transferOut, transferOut, hxy.destination, hxy.asset, hxy.amount,
      map_eq_of_optionRel hRel hxy.extraData]
  | outgoingBlob _ _ _ h | incomingBlob _ _ h => simp [transactionEntryData, hRel _ _ h]
  | coinbase | burn | multiSig | invokeContract | deployContract | incomingContract => rfl

variable {D : Type} {fromGenerated : NativeXelisDataElement → D}
  {disclosure : XelisWalletExtraDataDisclosure}

lemma EntryRel.adaptTransactionEntry_eq (h : EntryRel Rel e e')
    (hRel : ∀ x y, Rel x y → adaptExtraData fromGenerated disclosure (extraData x projection) =
      adaptExtraData fromGenerated disclosure (extraData y projection)) :
    adaptTransactionEntry fromGenerated disclosure (transactionEntryData toText e projection) =
      adaptTransactionEntry fromGenerated disclosure
        (transactionEntryData toText e' projection) := by
  have hoption : ∀ x y : Option PlaintextExtraData, Option.Rel Rel x y →
      (x.map (extraData · projection)).map (adaptExtraData fromGenerated disclosure) =
        (y.map (extraData · projection)).map (adaptExtraData fromGenerated disclosure) := by
    intro x y hxy
    rw [Option.map_map, Option.map_map]
    exact map_eq_of_optionRel hRel hxy
  cases h with
  | incoming sender h =>
    simp only [transactionEntryData, adaptTransactionEntry, List.map_map]
    refine congrArg (XelisWalletTransactionEntryData.incoming (toText sender)) ?_
    refine map_eq_of_forall₂ h fun x y hxy => ?_
    simp [transferIn, adaptTransferIn, hxy.asset, hxy.amount, hoption _ _ hxy.extraData]
  | outgoing fee nonce h =>
    simp only [transactionEntryData, adaptTransactionEntry, List.map_map]
    refine congrArg (XelisWalletTransactionEntryData.outgoing · fee nonce) ?_
    refine map_eq_of_forall₂ h fun x y hxy => ?_
    simp [transferOut, adaptTransferOut, hxy.destination, hxy.asset, hxy.amount, hoption _ _
      hxy.extraData]
  | outgoingBlob _ _ _ h | incomingBlob _ _ h =>
    simp [transactionEntryData, adaptTransactionEntry, hRel _ _ h]
  | coinbase | burn | multiSig | invokeContract | deployContract | incomingContract => rfl

end Entry

/-! ### What each disclosure does not show -/

/-- `_generatedExtraDataDisclosure`. -/
def generatedExtraDataDisclosure :
    XelisWalletExtraDataDisclosure → NativeWalletExtraDataDisclosure
  | .redacted => .redacted
  | .metadata => .metadata
  | .detailed => .detailed

/-- The differences a disclosure hides. -/
inductive Hides :
    (PlaintextExtraData → PlaintextExtraData → Prop) → XelisWalletExtraDataDisclosure → Prop
  | redacted : Hides SamePresence .redacted
  | metadata : Hides SameKind .metadata
  | sharedKey (disclosure : XelisWalletExtraDataDisclosure) : Hides SameData disclosure

section Hides

variable {Rel : PlaintextExtraData → PlaintextExtraData → Prop}
  {disclosure : XelisWalletExtraDataDisclosure}

variable {x y : PlaintextExtraData}

lemma extraData_eq_of_sameData (h : SameData x y) (projection : ExtraDataProjection) :
    extraData x projection = extraData y projection := by
  simp [extraData, h.1, h.2]

lemma Hides.extraData_eq (h : Hides Rel disclosure) (hxy : Rel x y) :
    extraData x (.fromDisclosure (generatedExtraDataDisclosure disclosure)) =
      extraData y (.fromDisclosure (generatedExtraDataDisclosure disclosure)) := by
  obtain ⟨xkey, xdata, xflag⟩ := x
  obtain ⟨ykey, ydata, yflag⟩ := y
  cases h with
  | sharedKey => exact extraData_eq_of_sameData hxy _
  | redacted =>
    obtain ⟨hflag, hdata⟩ := hxy
    dsimp only at hflag hdata
    simp [extraData, generatedExtraDataDisclosure, ExtraDataProjection.fromDisclosure, hflag, hdata]
  | metadata =>
    obtain ⟨hflag, hdata⟩ := hxy
    dsimp only at hflag hdata
    cases xdata <;> cases ydata <;>
      simp_all [extraData, generatedExtraDataDisclosure, ExtraDataProjection.fromDisclosure]

lemma Hides.adaptExtraData_eq (h : Hides Rel disclosure) (hxy : Rel x y) {D : Type}
    (fromGenerated : NativeXelisDataElement → D) (projection : ExtraDataProjection) :
    adaptExtraData fromGenerated disclosure (extraData x projection) =
      adaptExtraData fromGenerated disclosure (extraData y projection) := by
  obtain ⟨xkey, xdata, xflag⟩ := x
  obtain ⟨ykey, ydata, yflag⟩ := y
  cases h with
  | sharedKey => rw [extraData_eq_of_sameData hxy]
  | redacted =>
    obtain ⟨hflag, hdata⟩ := hxy
    dsimp only at hflag hdata
    simp [adaptExtraData, extraData, hflag, hdata]
  | metadata =>
    obtain ⟨hflag, hdata⟩ := hxy
    dsimp only at hflag hdata
    cases xdata <;> cases ydata <;> cases projection <;> simp_all [adaptExtraData, extraData]

end Hides

/-! ### Whole reads -/

section Results

variable {ε α β : Type} {r : α → α → Prop}

lemma ResultRel.bind {x y : Except ε α} (h : ResultRel r x y) {s : β → β → Prop}
    {f g : α → Except ε β} (hfg : ∀ a b, r a b → ResultRel s (f a) (g b)) :
    ResultRel s (x >>= f) (y >>= g) := by
  cases h with
  | error e => exact .error e
  | ok h => exact hfg _ _ h

lemma ResultRel.bind_eq {x y : Except ε α} (h : ResultRel r x y) {f g : α → Except ε β}
    (hfg : ∀ a b, r a b → f a = g b) : x >>= f = y >>= g := by
  cases h with
  | error => rfl
  | ok h => exact hfg _ _ h

lemma ResultRel.classify {x y : Except String α} (h : ResultRel r x y)
    (code : NativeXelisErrorCode) (kind : String) :
    ResultRel r (classifyHistoryError code kind x) (classifyHistoryError code kind y) := by
  cases h with
  | error => exact .error _
  | ok h => exact .ok h

end Results

section Reads

variable {A K : Type} {Rel : PlaintextExtraData → PlaintextExtraData → Prop}
  {disclosure : XelisWalletExtraDataDisclosure}

variable {x y : TransactionEntry K} {α : Type}

lemma TransactionRel.serializable (h : TransactionRel Rel x y) (f : K → A) :
    TransactionRel Rel (x.serializable f) (y.serializable f) :=
  ⟨h.hash, h.topoheight, h.timestamp, h.entry.mapParty f⟩

lemma PendingRel.serializable {x y : TransactionPending K} (h : PendingRel Rel x y)
    (f : K → A) : PendingRel Rel (x.serializable f) (y.serializable f) :=
  ⟨h.hash, h.timestamp, h.entry.mapParty f⟩

section Shown

variable {toText : A → String}

lemma Hides.transactionEntry_eq (h : Hides Rel disclosure) {x y : TransactionEntry A}
    (hxy : TransactionRel Rel x y) :
    transactionEntry toText x (.fromDisclosure (generatedExtraDataDisclosure disclosure)) =
      transactionEntry toText y (.fromDisclosure (generatedExtraDataDisclosure disclosure)) := by
  rw [transactionEntry, transactionEntry, hxy.hash, hxy.topoheight, hxy.timestamp,
    hxy.entry.transactionEntryData_eq fun _ _ => h.extraData_eq]

lemma Hides.pendingTransaction_eq (h : Hides Rel disclosure) {x y : TransactionPending A}
    (hxy : PendingRel Rel x y) :
    pendingTransaction toText x (.fromDisclosure (generatedExtraDataDisclosure disclosure)) =
      pendingTransaction toText y (.fromDisclosure (generatedExtraDataDisclosure disclosure)) := by
  rw [pendingTransaction, pendingTransaction, hxy.hash, hxy.timestamp,
    hxy.entry.transactionEntryData_eq fun _ _ => h.extraData_eq]

variable {D X : Type} (fromGenerated : NativeXelisDataElement → D)
  (adaptFailure : NativeXelisError → X) (projection : ExtraDataProjection)

variable (h : Hides Rel disclosure)
include h

lemma Hides.adaptTransaction_eq {x y : TransactionEntry A}
    (hxy : TransactionRel Rel x y) : xelisWalletTransactionFromGenerated fromGenerated disclosure
    (transactionEntry toText x projection) = xelisWalletTransactionFromGenerated fromGenerated
    disclosure (transactionEntry toText y projection) := by
  simp [xelisWalletTransactionFromGenerated, transactionEntry, hxy.hash, hxy.topoheight,
    hxy.timestamp, hxy.entry.adaptTransactionEntry_eq fun _ _ hdata => h.adaptExtraData_eq hdata _
    _]

lemma Hides.adaptPending_eq {x y : TransactionPending A}
    (hxy : PendingRel Rel x y) : xelisWalletPendingTransactionFromGenerated fromGenerated disclosure
    (pendingTransaction toText x projection) = xelisWalletPendingTransactionFromGenerated
    fromGenerated disclosure (pendingTransaction toText y projection) := by
  simp [xelisWalletPendingTransactionFromGenerated, pendingTransaction, hxy.hash, hxy.timestamp,
    hxy.entry.adaptTransactionEntry_eq fun _ _ hdata => h.adaptExtraData_eq hdata _ _]

lemma Hides.businessEvent_eq {x y : Event A} (hxy : EventRel Rel x y) :
    businessEventFromWalletEventWithProjection toText x
        (.fromDisclosure (generatedExtraDataDisclosure disclosure)) =
      businessEventFromWalletEventWithProjection toText y
        (.fromDisclosure (generatedExtraDataDisclosure disclosure)) := by
  cases hxy with
  | newTransaction hxy =>
    rw [businessEventFromWalletEventWithProjection, businessEventFromWalletEventWithProjection,
      h.transactionEntry_eq hxy]
  | newPendingTransaction hxy =>
    rw [businessEventFromWalletEventWithProjection, businessEventFromWalletEventWithProjection,
      h.pendingTransaction_eq hxy]
  | same => rfl

lemma Hides.adaptBusinessEvent_eq {x y : Event A}
    (hxy : EventRel Rel x y) : (businessEventFromWalletEventWithProjection toText x projection).map
    (adaptBusinessEvent fromGenerated adaptFailure disclosure) =
    (businessEventFromWalletEventWithProjection toText y projection).map
    (adaptBusinessEvent fromGenerated adaptFailure disclosure) := by
  cases hxy with
  | newTransaction hxy =>
    simp [businessEventFromWalletEventWithProjection, adaptBusinessEvent, h.adaptTransaction_eq
      fromGenerated projection hxy]
  | newPendingTransaction hxy =>
    simp [businessEventFromWalletEventWithProjection, adaptBusinessEvent, h.adaptPending_eq
      fromGenerated projection hxy]
  | same => rfl

omit h

end Shown

variable {R : ReadSuite A K} {w w' : WalletView K}

variable (h : Hides Rel disclosure)
include h

variable (hw : WalletRel Rel w w')
include hw

lemma Hides.readEntry_eq (hxy : TransactionRel Rel x y) : readEntry R w
    (generatedExtraDataDisclosure disclosure) x = readEntry R w'
    (generatedExtraDataDisclosure disclosure) y := by
  rw [readEntry, readEntry, hw.mainnet, h.transactionEntry_eq (hxy.serializable _)]

lemma Hides.readPending_eq {x y : TransactionPending K}
    (hxy : PendingRel Rel x y) : readPending R w (generatedExtraDataDisclosure disclosure) x =
    readPending R w' (generatedExtraDataDisclosure disclosure) y := by
  rw [readPending, readPending, hw.mainnet, h.pendingTransaction_eq (hxy.serializable _)]

lemma Hides.getPendingTransactions_eq :
    getPendingTransactions R w (generatedExtraDataDisclosure disclosure) =
      getPendingTransactions R w' (generatedExtraDataDisclosure disclosure) := by
  exact map_eq_of_forall₂ hw.pending fun _ _ => h.readPending_eq hw

lemma Hides.getTransactionByHash_eq (hash : String) : getTransactionByHash
    R w hash (generatedExtraDataDisclosure disclosure) = getTransactionByHash R w' hash
    (generatedExtraDataDisclosure disclosure) := by
  rw [getTransactionByHash, getTransactionByHash]
  refine congrArg (context (R.hashFromHex hash) _ >>= ·) (funext fun hash => ?_)
  refine ((hw.transaction hash).classify _ _).bind_eq fun x y hxy => ?_
  rw [h.readEntry_eq hw hxy]

omit hw

omit h

variable {r : α → α → Prop} {as bs : List α}

lemma find?_rel {p : α → Bool} (hp : ∀ a b, r a b → p a = p b) (h : List.Forall₂ r as bs) :
    Option.Rel r (as.find? p) (bs.find? p) := by
  induction h with
  | nil => exact .none
  | @cons a b as bs hab _ ih =>
    rw [List.find?_cons, List.find?_cons, ← hp a b hab]
    cases p a with
    | true => exact .some hab
    | false => exact ih

lemma Hides.getPendingTransactionByHash_eq (h : Hides Rel disclosure) (hw : WalletRel Rel w w')
    (hash : String) : getPendingTransactionByHash R w hash (generatedExtraDataDisclosure disclosure)
    = getPendingTransactionByHash R w' hash (generatedExtraDataDisclosure disclosure) := by
  rw [getPendingTransactionByHash, getPendingTransactionByHash]
  refine congrArg (context (R.hashFromHex hash) _ >>= ·) (funext fun hash => ?_)
  have hfind := find?_rel (p := (·.hash = hash)) (fun x y (hxy : PendingRel Rel x y) => by
    rw [hxy.hash]) hw.pending
  generalize w.storage.pendingTxs.find? (·.hash = hash) = x at hfind
  generalize w'.storage.pendingTxs.find? (·.hash = hash) = y at hfind
  cases hfind with
  | none => rfl
  | some hxy => simp only [context, ok_bind, h.readPending_eq hw hxy]

/-! ### The history -/

variable [DecidableEq K]

lemma forall₂_filter {p : α → Bool} (hp : ∀ a b, r a b → p a = p b) (h : List.Forall₂ r as bs) :
    List.Forall₂ r (as.filter p) (bs.filter p) :=
  List.rel_filter (fun a b hab => by simp only [hp a b hab]) h

lemma isEmpty_eq_of_forall₂ (h : List.Forall₂ r as bs) : as.isEmpty = bs.isEmpty := by
  cases h <;> rfl

/-- The exact destination is compared with the data, never with the key. -/
lemma retainExact_rel (hdata : ∀ x y, Rel x y → x.data = y.data)
    (destination : ExactIntegratedHistoryDestination K) (publicKey : K)
    (hxy : TransactionRel Rel x y) : (retainExact R destination publicKey x).1 =
    (retainExact R destination publicKey y).1 ∧ TransactionRel Rel
    (retainExact R destination publicKey x).2 (retainExact R destination publicKey y).2 := by
  have hoption : ∀ a b : Option PlaintextExtraData, Option.Rel Rel a b →
      a.bind (·.data) = b.bind (·.data) := by
    intro a b hab
    cases hab with
    | none => rfl
    | some hab => exact hdata _ _ hab
  obtain ⟨hash, topoheight, timestamp, entry⟩ := x
  obtain ⟨hash', topoheight', timestamp', entry'⟩ := y
  obtain ⟨rfl, rfl, rfl, hentry⟩ := hxy
  cases hentry with
  | incoming sender hin =>
    by_cases hown : destination.matchesWallet publicKey
    · simp only [retainExact, hown, if_true]
      have hkept := forall₂_filter
        (fun a b hab => congrArg (destination.matches R publicKey) (hoption _ _ hab.extraData)) hin
      exact ⟨congrArg (!·) (isEmpty_eq_of_forall₂ hkept), rfl, rfl, rfl, .incoming sender hkept⟩
    · simp only [retainExact, hown]
      exact ⟨rfl, rfl, rfl, rfl, .incoming sender hin⟩
  | outgoing fee nonce hout =>
    have hkept := forall₂_filter (p := fun transfer =>
      destination.matches R transfer.destination (transfer.extraData.bind (·.data)))
      (fun a b hab => by rw [hab.destination, hoption _ _ hab.extraData]) hout
    exact ⟨congrArg (!·) (isEmpty_eq_of_forall₂ hkept), rfl, rfl, rfl, .outgoing fee nonce hkept⟩
  | coinbase | burn | multiSig | invokeContract | deployContract | incomingContract =>
    exact ⟨rfl, rfl, rfl, rfl, by constructor⟩
  | outgoingBlob destinations fee nonce hblob =>
    exact ⟨rfl, rfl, rfl, rfl, .outgoingBlob _ _ _ hblob⟩
  | incomingBlob sender destinations hblob => exact ⟨rfl, rfl, rfl, rfl, .incomingBlob _ _ hblob⟩

lemma applyExactIntegratedDestination_rel (hdata : ∀ x y, Rel x y → x.data = y.data)
    (destination : ExactIntegratedHistoryDestination K) (publicKey : K)
    {xs ys : List (TransactionEntry K)} (h : List.Forall₂ (TransactionRel Rel) xs ys) :
    List.Forall₂ (TransactionRel Rel) (applyExactIntegratedDestination R xs destination publicKey)
      (applyExactIntegratedDestination R ys destination publicKey) := by
  refine List.rel_filterMap (fun x y hxy => ?_) h
  obtain ⟨hkept, hrel⟩ := retainExact_rel (R := R) hdata destination publicKey hxy
  rw [hkept]
  split
  · exact .some hrel
  · exact .none

lemma FilteredPagination.apply_rel (pagination : FilteredPagination) {xs ys : List α}
    (h : List.Forall₂ r xs ys) : List.Forall₂ r (pagination.apply xs) (pagination.apply ys) := by
  rw [FilteredPagination.apply, FilteredPagination.apply]
  cases pagination.limit with
  | none => exact h
  | some limit => exact List.forall₂_take limit (List.forall₂_drop _ h)

/-- The filter names no integrated address. -/
def HistoryPageFilter.WithoutData (R : ReadSuite A K) (filter : HistoryPageFilter) : Prop :=
  ∀ prepared, filter.prepare R = .ok prepared → prepared.exactIntegratedDestination = none

lemma WalletRel.selectTransactions (hw : WalletRel Rel w w') {filter : HistoryPageFilter}
    (hfilter : filter.WithoutData R ∨ ∀ x y, Rel x y → x.data = y.data)
    (filterKind readKind : String) : ResultRel (List.Forall₂ (TransactionRel Rel))
    (selectTransactions R w filterKind readKind filter)
    (selectTransactions R w' filterKind readKind filter) := by
  cases hprepared : filter.prepare R with
  | error error =>
    rw [Transactions.selectTransactions, Transactions.selectTransactions, hprepared]
    exact .error _
  | ok prepared =>
    cases hpagination : FilteredPagination.prepare R prepared.options with
    | error error =>
      simp only [Transactions.selectTransactions, hprepared, hpagination, classifyHistoryError_ok,
        ok_bind]
      exact .error _
    | ok page =>
      simp only [Transactions.selectTransactions, hprepared, hpagination, classifyHistoryError_ok,
        ok_bind, hw.publicKey]
      refine ((hw.filtered _).classify _ _).bind fun xs ys hxy => .ok (page.1.apply_rel ?_)
      cases hexact : prepared.exactIntegratedDestination with
      | none => exact hxy
      | some destination =>
        obtain hfilter | hdata := hfilter
        · rw [hfilter prepared hprepared] at hexact
          cases hexact
        · exact applyExactIntegratedDestination_rel hdata destination _ hxy

lemma Hides.history_eq (h : Hides Rel disclosure) (hw : WalletRel Rel w w')
    {filter : HistoryPageFilter} (hfilter : filter.WithoutData R ∨ ∀ x y, Rel x y → x.data = y.data)
    : history R w filter (generatedExtraDataDisclosure disclosure) = history R w' filter
    (generatedExtraDataDisclosure disclosure) := by
  rw [history, history]
  refine (hw.selectTransactions hfilter _ _).bind_eq fun xs ys hxy => ?_
  rw [map_eq_of_forall₂ hxy fun _ _ => h.readEntry_eq hw]

/-- **What a disclosure hides is not shown.** Take two wallets whose transactions differ in what the
disclosure hides. A transaction, a pending transaction and an event are projected to the same, and
the reads return the same; the history does if its filter names no integrated address, and with any
filter if only the shared keys differ. The package shows the same even of a projection that shows
more. -/
theorem hidden_data_is_not_shown (h : Hides Rel disclosure) (hw : WalletRel Rel w w') {D X : Type}
    (fromGenerated : NativeXelisDataElement → D) (adaptFailure : NativeXelisError → X) :
    ((∀ x y, TransactionRel Rel x y →
        readEntry R w (generatedExtraDataDisclosure disclosure) x =
          readEntry R w' (generatedExtraDataDisclosure disclosure) y) ∧
      (∀ x y, PendingRel Rel x y →
        readPending R w (generatedExtraDataDisclosure disclosure) x =
          readPending R w' (generatedExtraDataDisclosure disclosure) y) ∧
      ∀ x y, EventRel Rel x y →
        businessEventFromWalletEventWithProjection R.addressToString x
            (.fromDisclosure (generatedExtraDataDisclosure disclosure)) =
          businessEventFromWalletEventWithProjection R.addressToString y
            (.fromDisclosure (generatedExtraDataDisclosure disclosure))) ∧
    (getPendingTransactions R w (generatedExtraDataDisclosure disclosure) =
        getPendingTransactions R w' (generatedExtraDataDisclosure disclosure) ∧
      (∀ hash, getTransactionByHash R w hash (generatedExtraDataDisclosure disclosure) =
        getTransactionByHash R w' hash (generatedExtraDataDisclosure disclosure)) ∧
      (∀ hash, getPendingTransactionByHash R w hash (generatedExtraDataDisclosure disclosure) =
        getPendingTransactionByHash R w' hash (generatedExtraDataDisclosure disclosure)) ∧
      ∀ filter : HistoryPageFilter, filter.WithoutData R ∨ Rel = SameData →
        history R w filter (generatedExtraDataDisclosure disclosure) =
          history R w' filter (generatedExtraDataDisclosure disclosure)) ∧
    ∀ projection,
      (∀ x y, TransactionRel Rel x y →
        xelisWalletTransactionFromGenerated fromGenerated disclosure
            (transactionEntry R.addressToString x projection) =
          xelisWalletTransactionFromGenerated fromGenerated disclosure
            (transactionEntry R.addressToString y projection)) ∧
      (∀ x y, PendingRel Rel x y →
        xelisWalletPendingTransactionFromGenerated fromGenerated disclosure
            (pendingTransaction R.addressToString x projection) =
          xelisWalletPendingTransactionFromGenerated fromGenerated disclosure
            (pendingTransaction R.addressToString y projection)) ∧
      ∀ x y, EventRel Rel x y →
        (businessEventFromWalletEventWithProjection R.addressToString x projection).map
            (adaptBusinessEvent fromGenerated adaptFailure disclosure) =
          (businessEventFromWalletEventWithProjection R.addressToString y projection).map
            (adaptBusinessEvent fromGenerated adaptFailure disclosure) := by
  refine ⟨⟨fun x y hxy => h.readEntry_eq hw hxy, fun x y hxy => h.readPending_eq hw hxy,
      fun x y hxy => h.businessEvent_eq hxy⟩,
    ⟨h.getPendingTransactions_eq hw, h.getTransactionByHash_eq hw,
      h.getPendingTransactionByHash_eq hw, fun filter hfilter => ?_⟩,
    fun projection => ⟨fun x y hxy => h.adaptTransaction_eq fromGenerated projection hxy,
      fun x y hxy => h.adaptPending_eq fromGenerated projection hxy,
      fun x y hxy => h.adaptBusinessEvent_eq fromGenerated adaptFailure projection hxy⟩⟩
  refine h.history_eq hw (hfilter.imp_right ?_)
  rintro rfl x y hxy
  exact hxy.2

end Reads

/-! ### An integrated address selects by the payload -/

/-- Two transfers that differ in the amount, with one byte of data each. -/
def notedTransfers (a b : UInt8) : TransactionEntry Bool :=
  ⟨"1", 1, 1, .outgoing [⟨true, "x", 5, some ⟨none, some (.value (.u8 a)), .private⟩⟩,
    ⟨true, "x", 6, some ⟨none, some (.value (.u8 b)), .private⟩⟩] 1 1⟩

def notedWallet (a b : UInt8) : WalletView Bool where
  publicKey := true
  mainnet := true
  storage :=
    { getFilteredTransactions := fun _ => .ok [notedTransfers a b]
      getTransaction := fun _ => .ok (notedTransfers a b)
      pendingTxs := [] }

/-- Everything for the integrated address `w7`. -/
def integratedFilter : HistoryPageFilter :=
  ⟨1, none, none, some "w7", none, none, true, true, true, true, true, none, none⟩

/-- Two bytes are of the same kind, so no disclosure but the detailed one shows which they are. -/
lemma notedWallet_rel {Rel : PlaintextExtraData → PlaintextExtraData → Prop}
    (hRel : ∀ a b, Rel ⟨none, some (.value (.u8 a)), .private⟩
      ⟨none, some (.value (.u8 b)), .private⟩) (a b c d : UInt8) :
    WalletRel Rel (notedWallet a b) (notedWallet c d) := by
  have htransaction : TransactionRel Rel (notedTransfers a b) (notedTransfers c d) :=
    ⟨rfl, rfl, rfl, .outgoing 1 1 (.cons ⟨rfl, rfl, rfl, .some (hRel a c)⟩
      (.cons ⟨rfl, rfl, rfl, .some (hRel b d)⟩ .nil))⟩
  exact ⟨rfl, rfl, fun _ => .ok (.cons htransaction .nil), fun _ => .ok htransaction, .nil⟩

theorem noted_transfers_look_alike :
    WalletRel SamePresence (notedWallet 7 8) (notedWallet 8 7) ∧
      getTransactionByHash letterRead (notedWallet 7 8) "1" .redacted =
        getTransactionByHash letterRead (notedWallet 8 7) "1" .redacted :=
  have hw := notedWallet_rel (fun _ _ => ⟨rfl, rfl⟩) 7 8 8 7
  ⟨hw, (hidden_data_is_not_shown (R := letterRead) Hides.redacted hw id id).2.1.2.1 "1"⟩

/-- **An integrated address selects by the payload.** In two wallets whose transaction differs in
the payloads of its transfers, and not in their kinds, the history of an integrated address has
the transfer of five in one and that of six in the other, whatever the disclosure. -/
theorem integrated_address_selects_by_payload :
    WalletRel SameKind (notedWallet 7 8) (notedWallet 8 7) ∧
    WalletRel SamePresence (notedWallet 7 8) (notedWallet 8 7) ∧
    ∀ disclosure,
      history letterRead (notedWallet 7 8) integratedFilter disclosure ≠
        history letterRead (notedWallet 8 7) integratedFilter disclosure := by
  refine ⟨notedWallet_rel (fun _ _ => ⟨rfl, rfl⟩) 7 8 8 7,
    notedWallet_rel (fun _ _ => ⟨rfl, rfl⟩) 7 8 8 7, fun disclosure heq => ?_⟩
  have hfive : history letterRead (notedWallet 7 8) integratedFilter disclosure =
      .ok [readEntry letterRead (notedWallet 7 8) disclosure ⟨"1", 1, 1,
        .outgoing [⟨true, "x", 5, some ⟨none, some (.value (.u8 7)), .private⟩⟩] 1 1⟩] := rfl
  have hsix : history letterRead (notedWallet 8 7) integratedFilter disclosure =
      .ok [readEntry letterRead (notedWallet 8 7) disclosure ⟨"1", 1, 1,
        .outgoing [⟨true, "x", 6, some ⟨none, some (.value (.u8 7)), .private⟩⟩] 1 1⟩] := rfl
  rw [hfive, hsix] at heq
  injection heq with hentries
  injection hentries with hentry
  injection hentry with _ _ _ hdata
  injection hdata with htransfers
  injection htransfers with htransfer
  injection htransfer with _ _ hamount
  exact absurd hamount (by decide)

end XelisWallet.Transactions
