import XelisWallet.PrepareSpec

/-!
What is shown of a list of transfers is what is built of it.

The builders, the projection and the extra data are three lists that one loop fills. They have the
length of the request and agree at every index, and the extra data of a transfer is looked up by
its index as long as the preparation is in the slot.
-/

namespace XelisWallet.Prepare

open Fallible NativeError Builders PreparedStore Flows Flow
open Multisig hiding TransferBuilder TransactionTypeBuilder

variable {T : Types} {S : BuilderSuite T}

/-- What is known of the data of addresses. -/
structure AddressDataLaws (S : BuilderSuite T) : Prop where
  data : ∀ address, (S.extractData address).1 = S.addressGetExtraData address
  key : ∀ address,
    S.addressGetPublicKey (S.extractData address).2 = S.addressGetPublicKey address
  network : ∀ address, S.addressIsMainnet (S.extractData address).2 = S.addressIsMainnet address
  plain : ∀ address, S.addressGetExtraData (S.extractData address).2 = none

/-- What was built of a transfer, what is shown of it and its extra data belong together. -/
structure Agrees (S : BuilderSuite T) (transfer : NativeTransactionTransferRequest)
    (builder : TransferBuilder T) (shown : NativePreparedTransfer)
    (extraData : Option NativePreparedTransferExtraData) : Prop where
  amount : builder.amount = transfer.amount ∧ shown.amount = transfer.amount
  asset : S.hashHex.ofText transfer.asset = some builder.asset ∧
    shown.asset = S.hashHex.toText builder.asset
  encryption : builder.encryptExtraData = transfer.encryptExtraData ∧
    shown.encryptExtraData = transfer.encryptExtraData
  destination : S.addressText.ofText transfer.destination = some builder.destination
  /-- The address that is shown has the key of the destination and no data. -/
  shownDestination : ∃ address, shown.destination = S.addressText.toText address ∧
    S.addressGetPublicKey address = S.addressGetPublicKey builder.destination ∧
    S.addressIsMainnet address = S.addressIsMainnet builder.destination ∧
    S.addressGetExtraData address = none
  data : extraData = effectiveExtraData S builder.destination transfer.extraData
    transfer.encryptExtraData
  hasExtraData : shown.hasExtraData = extraData.isSome
  /-- The signing protocol finds data in the built transfer exactly if it is shown to have some. -/
  protocol : ∀ actual network,
    validateTransferPublicDetails S.toSuite builder.declared actual network = .ok () ↔
      S.addressIsMainnet builder.destination = network.isMainnet ∧
      S.addressGetPublicKey builder.destination = actual.destination ∧
      builder.asset = actual.asset ∧ shown.hasExtraData = actual.extraData.isSome

lemma effectiveExtraData_isSome (hS : AddressDataLaws S) (destination : T.Address)
    (extraData : Option String) (encrypted : Bool) :
    (effectiveExtraData S destination extraData encrypted).isSome =
      (extraData.isSome || (S.addressGetExtraData destination).isSome) := by
  rw [← hS.data]
  unfold effectiveExtraData
  cases extraData with
  | some => rfl
  | none => cases (S.extractData destination).1 <;> rfl

lemma agrees_of_makes (hS : AddressDataLaws S) {transfer : NativeTransactionTransferRequest}
    {made : AtomicTransfer T} (h : Makes S transfer made) :
    Agrees S transfer made.builder made.shown made.extraData := by
  obtain ⟨asset, destination, haccepted, rfl⟩ := h
  have hrule : (transfer.extraData.map S.stringElement).isSome = transfer.extraData.isSome :=
    Option.isSome_map
  refine {
    amount := ⟨rfl, rfl⟩
    asset := ⟨haccepted.asset_eq, rfl⟩
    encryption := ⟨rfl, rfl⟩
    destination := haccepted.destination_eq
    shownDestination := ⟨(S.extractData destination).2, rfl, hS.key _, hS.network _, hS.plain _⟩
    data := rfl
    hasExtraData := rfl
    protocol := fun actual network => ?_ }
  simp only [validateTransferPublicDetails, bind_eq_ok, ensure_eq_ok, exists_const,
    TransferBuilder.declared, atomicTransfer, buildTransfer, shownTransfer, hrule,
    effectiveExtraData_isSome hS]

/-- Three lists that agree with a request at every index. -/
structure Reviews (S : BuilderSuite T) (transfers : List NativeTransactionTransferRequest)
    (builders : List (TransferBuilder T)) (shown : List NativePreparedTransfer)
    (reviewExtraData : List (Option NativePreparedTransferExtraData)) : Prop where
  builders_length : builders.length = transfers.length
  shown_length : shown.length = transfers.length
  extraData_length : reviewExtraData.length = transfers.length
  agrees : ∀ (i : ℕ) (transfer : NativeTransactionTransferRequest) (builder : TransferBuilder T)
    (prepared : NativePreparedTransfer) (extraData : Option NativePreparedTransferExtraData),
    transfers[i]? = some transfer → builders[i]? = some builder → shown[i]? = some prepared →
    reviewExtraData[i]? = some extraData → Agrees S transfer builder prepared extraData

variable {transfers : List NativeTransactionTransferRequest}

lemma reviews_of_makes (hS : AddressDataLaws S) {made : List (AtomicTransfer T)}
    (h : List.Forall₂ (Makes S) transfers made) :
    Reviews S transfers (made.map (·.builder)) (made.map (·.shown)) (made.map (·.extraData)) where
  builders_length := by rw [List.length_map, h.length_eq]
  shown_length := by rw [List.length_map, h.length_eq]
  extraData_length := by rw [List.length_map, h.length_eq]
  agrees i transfer builder prepared extraData htransfer hbuilder hprepared hextraData := by
    rw [List.getElem?_map, Option.map_eq_some_iff] at hbuilder hprepared hextraData
    obtain ⟨a, ha, rfl⟩ := hbuilder
    obtain ⟨b, hb, rfl⟩ := hprepared
    obtain ⟨c, hc, rfl⟩ := hextraData
    -- one turn of the loop made all three
    obtain rfl : a = b := Option.some.inj (ha.symm.trans hb)
    obtain rfl : a = c := Option.some.inj (ha.symm.trans hc)
    exact agrees_of_makes hS (forall₂_getElem? h htransfer ha)

lemma buildAtomicTransfers_ok_iff :
    (∃ built, buildAtomicTransfers S transfers = .ok built) ↔
      transfers ≠ [] ∧ ∀ transfer ∈ transfers, ∃ asset destination,
        Accepted S transfer asset destination := by
  constructor
  · rintro ⟨⟨transactionType, transaction, reviewExtraData⟩, h⟩
    obtain ⟨hne, made, hmade, -⟩ := buildAtomicTransfers_eq_ok.mp h
    refine ⟨hne, fun transfer hmem => ?_⟩
    obtain ⟨i, hi, rfl⟩ := List.mem_iff_getElem.mp hmem
    obtain ⟨asset, destination, haccepted, -⟩ := hmade.get hi (hmade.length_eq ▸ hi)
    exact ⟨asset, destination, haccepted⟩
  · rintro ⟨hne, hall⟩
    have hmakes : ∀ transfer ∈ transfers, ∃ made, Makes S transfer made := by
      intro transfer hmem
      obtain ⟨asset, destination, haccepted⟩ := hall transfer hmem
      exact ⟨_, asset, destination, haccepted, rfl⟩
    obtain ⟨made, hmade⟩ := exists_forall₂ hmakes
    exact ⟨_, buildAtomicTransfers_eq_ok.mpr ⟨hne, made, hmade, rfl, rfl, rfl⟩⟩

/-! ### Looking at the extra data -/

/-- The error of an index outside the list. -/
def transferIndexInvalid (transferIndex : UInt32) (transferCount : ℕ) : NativeXelisError :=
  .flutter .invalidInput "PREPARED_TRANSFER_INDEX_INVALID"
    (s!"Prepared transfer index {transferIndex} is outside the transaction transfer count " ++
      s!"{transferCount}")

/-- The error of a transfer without data. -/
def transferExtraDataNotFound : NativeXelisError :=
  .flutter .notFound "PREPARED_TRANSFER_EXTRA_DATA_NOT_FOUND"
    "The selected prepared transfer does not contain extra data"

lemma inspect_eq {store : PreparedTransactionStore T.Hash (PreparedWalletTransaction T)}
    {preparationId : ℕ} {txHash : String} {hash : T.Hash} {stored : PreparedWalletTransaction T}
    (hhash : S.hashHex.ofText txHash = some hash)
    (hready : store.readyExact preparationId hash = .ok stored) (transferIndex : UInt32) :
    inspectPreparedTransferExtraData S store preparationId txHash transferIndex =
      match stored.reviewExtraData[transferIndex.toNat]? with
      | none => .error (transferIndexInvalid transferIndex stored.reviewExtraData.length)
      | some none => .error transferExtraDataNotFound
      | some (some extraData) => .ok extraData := by
  simp only [inspectPreparedTransferExtraData, hhash, hready, context, orPreparedError,
    Except.mapError, Fallible.ok_bind, ensure]
  by_cases hindex : transferIndex.toNat < stored.reviewExtraData.length
  · rw [if_pos hindex, List.getElem?_eq_getElem hindex]
    cases stored.reviewExtraData[transferIndex.toNat] <;> rfl
  · rw [if_neg hindex, List.getElem?_eq_none (Nat.le_of_not_lt hindex)]
    rfl

lemma run_prepareTransfers_eq_ok {env : ∀ q : Question T, Answer q}
    {feePolicy : NativeTransactionFeePolicy} {prepared : NativePreparedTransaction}
    (h : (prepareTransfersTransaction S transfers feePolicy).run env = .ok prepared) :
    ∃ transactionType transaction reviewExtraData,
      buildAtomicTransfers S transfers = .ok (transactionType, transaction, reviewExtraData) ∧
      ∃ fee tx state, env (.createTransaction transactionType fee) = some (tx, state) ∧
        tx.fee = fee ∧ ∃ preparationId,
          env (.commit (S.transactionHash tx) ⟨tx, state, reviewExtraData⟩) = .ok preparationId ∧
          prepared = ⟨S.hashHex.toText (S.transactionHash tx), preparationId, tx.fee,
            transaction⟩ := by
  simp only [prepareTransfersTransaction, run_bind, run_lift, bind_eq_ok] at h
  obtain ⟨-, -, -, -, ⟨transactionType, transaction, reviewExtraData⟩, hbuilt, fee, -, h⟩ := h
  obtain ⟨tx, state, hcreated, hfee, h⟩ := run_createAndCommit_eq_ok.mp h
  exact ⟨transactionType, transaction, reviewExtraData, hbuilt, fee, tx, state, hcreated, hfee, h⟩

/-- **Transfers are reviewed as they are built.** A list of requests is accepted exactly if it is
not empty and each of them is accepted. The three lists that are then made agree with the request at
every index; a preparation of the request stores the list of the extra data; and as long as it is
in the slot, looking at a transfer gives the entry of the list at its index. -/
theorem transfers_reviewed_as_built (hS : AddressDataLaws S)
    (transfers : List NativeTransactionTransferRequest) :
    ((∃ built, buildAtomicTransfers S transfers = .ok built) ↔
      transfers ≠ [] ∧ ∀ transfer ∈ transfers, ∃ asset destination,
        Accepted S transfer asset destination) ∧
    ∀ transactionType transaction reviewExtraData,
      buildAtomicTransfers S transfers = .ok (transactionType, transaction, reviewExtraData) →
      (∃ builders shown, transactionType = .transfers builders ∧ transaction = .transfers shown ∧
        Reviews S transfers builders shown reviewExtraData) ∧
      (∀ (env : ∀ q : Question T, Answer q) feePolicy prepared,
        (prepareTransfersTransaction S transfers feePolicy).run env = .ok prepared →
        ∃ hash stored, env (.commit hash stored) = .ok prepared.preparationId ∧
          stored.reviewExtraData = reviewExtraData ∧ hash = S.transactionHash stored.transaction ∧
          prepared.hash = S.hashHex.toText hash ∧ prepared.transaction = transaction) ∧
      ∀ (store : PreparedTransactionStore T.Hash (PreparedWalletTransaction T)) preparationId hash
        stored txHash, S.hashHex.ofText txHash = some hash →
        store.readyExact preparationId hash = .ok stored →
        stored.reviewExtraData = reviewExtraData → ∀ transferIndex : UInt32,
        inspectPreparedTransferExtraData S store preparationId txHash transferIndex =
          match reviewExtraData[transferIndex.toNat]? with
          | none => .error (transferIndexInvalid transferIndex transfers.length)
          | some none => .error transferExtraDataNotFound
          | some (some extraData) => .ok extraData := by
  refine ⟨buildAtomicTransfers_ok_iff, fun transactionType transaction reviewExtraData h => ?_⟩
  obtain ⟨hne, made, hmade, rfl, rfl, rfl⟩ := buildAtomicTransfers_eq_ok.mp h
  have hreviews := reviews_of_makes hS hmade
  refine ⟨⟨_, _, rfl, rfl, hreviews⟩, ?_, ?_⟩
  · intro env feePolicy prepared hrun
    obtain ⟨_, _, _, hbuilt, _, tx, state, -, -, preparationId, hcommit, rfl⟩ :=
      run_prepareTransfers_eq_ok hrun
    cases h.symm.trans hbuilt
    exact ⟨S.transactionHash tx, _, hcommit, rfl, rfl, rfl, rfl⟩
  · intro store preparationId hash stored txHash hhash hready hstored transferIndex
    rw [inspect_eq hhash hready, hstored, hreviews.extraData_length]

/-! ### A small suite -/

/-- Two addresses of one key, of which `true` has data. -/
def taggedBuilders : BuilderSuite flagTypes where
  toSuite :=
    { flagRequests with
      addressGetPublicKey := fun _ => none
      addressGetExtraData := fun (address : Bool) => if address then some () else none }
  xelisAsset := false
  isNormal := fun (address : Bool) => !address
  extractData := fun (address : Bool) => (if address then some () else none, false)
  stringElement _ := ()
  fromXelis _ := .array []

lemma taggedBuilders_laws : AddressDataLaws taggedBuilders where
  data _ := rfl
  key _ := rfl
  network _ := rfl
  plain _ := rfl

/-- A transfer to an integrated address and one to a normal one. -/
def taggedTransfers : List NativeTransactionTransferRequest :=
  [⟨1, "1", (flagHex 64).toText true, none, true⟩, ⟨2, "0", (flagHex 64).toText true, none, true⟩]

lemma taggedTransfers_make : List.Forall₂ (Makes taggedBuilders) taggedTransfers
    [atomicTransfer taggedBuilders taggedTransfers[0] true true,
      atomicTransfer taggedBuilders taggedTransfers[1] true false] :=
  .cons ⟨true, true, ⟨by decide, rfl, rfl, fun h => nomatch h.1⟩, rfl⟩
    (.cons ⟨true, false, ⟨by decide, rfl, rfl, fun h => nomatch h.1⟩, rfl⟩ .nil)

/-- A slot in which the transfers are ready. -/
def taggedStore : PreparedTransactionStore Bool (PreparedWalletTransaction flagTypes) where
  state := .ready 1 true
    ⟨⟨flagUnsigned, true⟩, (), [some ⟨.array [], .integratedAddress, true⟩, none]⟩
  nextGeneration := 1
  activePreparation := none

/-- The first transfer has data, the second has none, and there is no third. -/
theorem tagged_transfers_inspected :
    inspectPreparedTransferExtraData taggedBuilders taggedStore 1 ((flagHex 64).toText true) 0 =
      .ok ⟨.array [], .integratedAddress, true⟩ ∧
    inspectPreparedTransferExtraData taggedBuilders taggedStore 1 ((flagHex 64).toText true) 1 =
      .error transferExtraDataNotFound ∧
    inspectPreparedTransferExtraData taggedBuilders taggedStore 1 ((flagHex 64).toText true) 2 =
      .error (transferIndexInvalid 2 2) := by
  obtain ⟨-, -, hinspect⟩ :=
    (transfers_reviewed_as_built taggedBuilders_laws taggedTransfers).2 _ _ _
      (buildAtomicTransfers_eq_ok.mpr
        ⟨List.cons_ne_nil _ _, _, taggedTransfers_make, rfl, rfl, rfl⟩)
  have h := hinspect taggedStore 1 true _ ((flagHex 64).toText true) (by decide) rfl rfl
  exact ⟨h 0, h 1, h 2⟩

end XelisWallet.Prepare
