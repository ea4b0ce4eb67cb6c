import XelisWallet.TransferReview

/-!
Transfers with explicit extra data to an integrated address.

There are four functions that make transfers of exact amounts. Three of them project the transfers
for review, and the projection refuses such a transfer; the transfer of a whole balance for several
signers does not project it and hands it on.
-/

namespace XelisWallet.Prepare

open Fallible Checked NativeError Builders PreparedStore Flows Flow
open Multisig hiding TransferBuilder TransactionTypeBuilder
open MultisigFinalize (preparedTransactionError)

variable {T : Types} {S : BuilderSuite T}

/-- The type that the library is given to create a transaction of. -/
def Question.created : Question T → Option (TransactionTypeBuilder T)
  | .createTransaction transactionType _ => some transactionType
  | .createState transactionType _ => some transactionType
  | .createUnsigned _ _ transactionType _ _ => some transactionType
  | .storePending _ _ transactionType _ _ => some transactionType
  | _ => none

/-! ### The parts of the flows -/

section Rules

variable {α : Type} {P : Question T → Prop} {E : Except NativeXelisError α → Prop}
  {feePolicy : NativeTransactionFeePolicy}

lemma always_beginPreparation {f : ℕ → WalletFlow T α} (hquestion : P .begin)
    (hok : ∀ guard, (f guard).Always P E)
    (herror : ∀ e, E (.error (preparedTransactionError e))) :
    (beginPreparation >>= f).Always P E := by
  refine ⟨hquestion, fun guard => ?_⟩
  cases guard with
  | ok guard => exact hok guard
  | error e => exact herror e

variable {f : UInt64 → WalletFlow T α}

lemma always_readBalance {asset : T.Hash} {nativeKind : String} (hquestion : P (.balance asset))
    (hok : ∀ balance, (f balance).Always P E) (herror : E (.error (.storageOperation nativeKind))) :
    (readBalance asset nativeKind >>= f).Always P E := by
  refine ⟨hquestion, fun balance => ?_⟩
  cases balance with
  | some balance => exact hok balance
  | none => exact herror

lemma always_estimateTargetFee {transactionType : TransactionTypeBuilder T}
    (hquestion : P (.estimateFees transactionType))
    (hok : ∀ baseFee fee, applyFeePolicy baseFee feePolicy = .ok fee → (f fee).Always P E)
    (hpolicy : ∀ baseFee e, applyFeePolicy baseFee feePolicy = .error e → E (.error e))
    (herror :
      E (.error (.upstreamOperation .operationFailed "TRANSACTION_FEE_ESTIMATION_FAILED"))) :
    (estimateTargetFee transactionType feePolicy >>= f).Always P E := by
  refine ⟨hquestion, fun baseFee => ?_⟩
  cases baseFee with
  | none => exact herror
  | some baseFee => exact Always.lift_bind (f := f) (hok baseFee) (hpolicy baseFee)

variable {q : Question T}

lemma asks_readBalance {asset : T.Hash} {nativeKind : String} (balance : UInt64)
    (h : (f balance).Asks q) : (readBalance asset nativeKind >>= f).Asks q :=
  .later (some balance) h

lemma asks_lift {β : Type} {x : Except NativeXelisError β} {b : β} {f : β → WalletFlow T α}
    (hx : x = .ok b) (h : (f b).Asks q) : ((lift x : WalletFlow T β) >>= f).Asks q := by
  rwa [hx, Flow.ok_bind]

lemma asks_estimateTargetFee {transactionType : TransactionTypeBuilder T} (baseFee : UInt64)
    {fee : UInt64} (hfee : applyFeePolicy baseFee feePolicy = .ok fee) (h : (f fee).Asks q) :
    (estimateTargetFee transactionType feePolicy >>= f).Asks q :=
  .later (some baseFee) (asks_lift (f := f) hfee h)

lemma asks_createState (transactionType : TransactionTypeBuilder T) (fee : UInt64) :
    (preparePendingMultisigTransactionWithFee transactionType fee).Asks
      (.createState transactionType fee) :=
  .later false (.later (some (some ⟨0, ⟨[], List.nodup_nil⟩⟩)) (.here _ _))

end Rules

/-! ### The four functions -/

/-- A request for transfers of exact amounts. -/
inductive TransferEntry
  | prepareTransfers (transfers : List NativeTransactionTransferRequest)
      (feePolicy : NativeTransactionFeePolicy)
  | prepareTransferAll (destination asset : String) (extraData : Option String)
      (encryptExtraData : Bool) (feePolicy : NativeTransactionFeePolicy)
  | multisigTransfers (transfers : List NativeTransactionTransferRequest)
      (feePolicy : NativeTransactionFeePolicy)
  | multisigTransferAll (strAddress : String) (assetHash : Option String)
      (extraData : Option String) (encryptExtraData : Option Bool)
      (feePolicy : NativeTransactionFeePolicy)

namespace TransferEntry

/-- One of the transfers has both explicit data and an integrated destination. -/
def HasConflict (S : BuilderSuite T) : TransferEntry → Prop
  | prepareTransfers transfers _ | multisigTransfers transfers _ =>
    ∃ transfer ∈ transfers, ∃ destination,
      S.addressText.ofText transfer.destination = some destination ∧
      Conflicts S destination transfer.extraData
  | prepareTransferAll destination _ extraData _ _
  | multisigTransferAll destination _ extraData _ _ =>
    ∃ address, S.addressText.ofText destination = some address ∧ Conflicts S address extraData

/-- The errors of a transfer of a whole balance that come before its data is looked at, but for
those of the asset. -/
def BalanceError (nativeKind balanceKind : String) (feePolicy : NativeTransactionFeePolicy)
    (e : NativeXelisError) : Prop :=
  (∃ baseFee, applyFeePolicy baseFee feePolicy = .error e) ∨
  e = .storageOperation balanceKind ∨
  e = .walletOperation "Insufficient balance for fees" .insufficientFunds nativeKind ∨
  e = .upstreamOperation .operationFailed "TRANSACTION_FEE_ESTIMATION_FAILED"

/-- The error of the conflict, or one that came first. -/
def Refusal (S : BuilderSuite T) : TransferEntry → NativeXelisError → Prop
  | prepareTransfers transfers feePolicy, e =>
    applyFeePolicy 0 feePolicy = .error e ∨ (∃ prepared, e = preparedTransactionError prepared) ∨
      FirstRefusal S transfers e
  | multisigTransfers transfers feePolicy, e =>
    applyFeePolicy 0 feePolicy = .error e ∨ FirstRefusal S transfers e
  | prepareTransferAll _ asset _ _ feePolicy, e =>
    e = extraDataConflict ∨ (∃ prepared, e = preparedTransactionError prepared) ∨
      parseTransactionAsset S asset = .error e ∨
      BalanceError "TRANSFER_ALL_BALANCE_INSUFFICIENT" "TRANSFER_ALL_BALANCE_READ_FAILED"
        feePolicy e
  | multisigTransferAll _ assetHash _ _ feePolicy, e =>
    e = extraDataConflict ∨ parseOptionalAsset S assetHash = .error e ∨
      BalanceError "MULTISIG_TRANSFER_ALL_BALANCE_INSUFFICIENT"
        "MULTISIG_TRANSFER_ALL_BALANCE_READ_FAILED" feePolicy e

/-- Whatever is answered, no transaction is created and the result is an error in `R`. -/
def Refuses {α : Type} (m : WalletFlow T α) (R : NativeXelisError → Prop) : Prop :=
  m.Always (fun q => q.created = none) fun result => ∃ e, result = .error e ∧ R e

/-- The request is refused before a transaction is created for it. -/
def Refused (S : BuilderSuite T) (entry : TransferEntry) : Prop :=
  match entry with
  | prepareTransfers transfers feePolicy =>
    Refuses (prepareTransfersTransaction S transfers feePolicy) (entry.Refusal S)
  | prepareTransferAll destination asset extraData encryptExtraData feePolicy =>
    Refuses (prepareTransferAllTransaction S destination asset extraData encryptExtraData
      feePolicy) (entry.Refusal S)
  | multisigTransfers transfers feePolicy =>
    Refuses (createMultisigTransfersTransaction S transfers feePolicy) (entry.Refusal S)
  | multisigTransferAll strAddress assetHash extraData encryptExtraData feePolicy =>
    Refuses (createMultisigTransferAllTransaction S strAddress assetHash extraData
      encryptExtraData feePolicy) (entry.Refusal S)

/-- A transfer of a whole balance for several signers that some balance pays for. -/
def Escapes (S : BuilderSuite T) : TransferEntry → Prop
  | multisigTransferAll _ assetHash _ _ feePolicy =>
    ∃ fee asset, applyFeePolicy 0 feePolicy = .ok fee ∧ parseOptionalAsset S assetHash = .ok asset ∧
      (asset = S.xelisAsset → fee.toNat < u64Max)
  | _ => False

/-! ### Lists of transfers -/

variable {transfers : List NativeTransactionTransferRequest}
  {feePolicy : NativeTransactionFeePolicy}

/-- A list with a conflict is refused at its first transfer that is not accepted. -/
lemma buildAtomicTransfers_of_conflict (hconflict : ∃ transfer ∈ transfers, ∃ destination,
      S.addressText.ofText transfer.destination = some destination ∧
      Conflicts S destination transfer.extraData) :
    ∃ e, buildAtomicTransfers S transfers = .error e ∧ FirstRefusal S transfers e := by
  obtain ⟨transfer, hmem, destination, hdestination, hconflict⟩ := hconflict
  cases hbuilt : buildAtomicTransfers S transfers with
  | error e => exact ⟨e, rfl, buildAtomicTransfers_eq_error (List.ne_nil_of_mem hmem) hbuilt⟩
  | ok built =>
    obtain ⟨asset, address, haccepted⟩ :=
      (buildAtomicTransfers_ok_iff.mp ⟨built, hbuilt⟩).2 transfer hmem
    obtain rfl : destination = address :=
      Option.some.inj (hdestination.symm.trans haccepted.destination_eq)
    exact absurd hconflict haccepted.not_conflicts

lemma prepareTransfers_refused (h : (prepareTransfers transfers feePolicy).HasConflict S) :
    (prepareTransfers transfers feePolicy).Refused S := by
  obtain ⟨e, hbuilt, hfirst⟩ := buildAtomicTransfers_of_conflict h
  refine Always.lift_bind (fun _ _ => ?_) (fun e he => ⟨e, rfl, .inl he⟩)
  refine always_beginPreparation rfl (fun _ => ?_) (fun e => ⟨_, rfl, .inr (.inl ⟨e, rfl⟩)⟩)
  rw [hbuilt, Flow.error_bind]
  exact ⟨e, rfl, .inr (.inr hfirst)⟩

lemma multisigTransfers_refused (h : (multisigTransfers transfers feePolicy).HasConflict S) :
    (multisigTransfers transfers feePolicy).Refused S := by
  obtain ⟨e, hbuilt, hfirst⟩ := buildAtomicTransfers_of_conflict h
  refine Always.lift_bind (fun _ _ => ?_) (fun e he => ⟨e, rfl, .inl he⟩)
  rw [hbuilt, Flow.error_bind]
  exact ⟨e, rfl, .inr hfirst⟩

/-! ### Whole balances -/

lemma insufficient_eq_error {α : Type} {nativeKind : String} {result : Except String α}
    {e : NativeXelisError} (h : insufficient nativeKind result = .error e) :
    ∃ text, result = .error text ∧ e = .walletOperation text .insufficientFunds nativeKind := by
  cases result with
  | ok => cases h
  | error text =>
    cases h
    exact ⟨text, rfl, rfl⟩

variable {balance fee : UInt64} {encryptExtraData : Option Bool}

lemma amountAfterFee_eq_error {asset : T.Hash} {text e : String}
    (h : amountAfterFee S balance fee asset text = .error e) : e = text := by
  obtain ⟨-, hresult⟩ | ⟨_, -, hresult⟩ := amountAfterFee_cases S balance fee asset text
  all_goals cases hresult.symm.trans h
  rfl

lemma buildTransferAllType_eq_error {destination : T.Address} {asset : T.Hash}
    {extraData : Option String} {e : String}
    (h : buildTransferAllType S destination balance fee asset extraData encryptExtraData =
      .error e) : e = "Insufficient balance for fees" := by
  rw [buildTransferAllType, bind_eq_error] at h
  obtain h | ⟨_, -, h⟩ := h
  · exact amountAfterFee_eq_error h
  · cases h

lemma balanceError_of_insufficient {α : Type} {nativeKind balanceKind : String}
    {result : Except String α} {e : NativeXelisError}
    (hresult : ∀ text, result = .error text → text = "Insufficient balance for fees")
    (h : insufficient nativeKind result = .error e) :
    BalanceError nativeKind balanceKind feePolicy e := by
  obtain ⟨text, htext, rfl⟩ := insufficient_eq_error h
  rw [hresult text htext]
  exact .inr (.inr (.inl rfl))

variable {address asset : String} {assetHash extraData : Option String}

lemma prepareTransferAll_refused {encryptExtraData : Bool}
    (h : (prepareTransferAll address asset extraData encryptExtraData feePolicy).HasConflict S) :
    (prepareTransferAll address asset extraData encryptExtraData feePolicy).Refused S := by
  obtain ⟨destination, hdestination, hconflict⟩ := h
  have hparse : parseTransactionDestination S address = .ok destination :=
    context_eq_ok.mpr hdestination
  -- every check before the projection may fail with an error of its own
  refine Always.lift_bind (fun _ _ => ?_) (fun e he => ⟨e, rfl, .inr (.inr (.inr (.inl ⟨0, he⟩)))⟩)
  refine always_beginPreparation rfl (fun _ => ?_) (fun e => ⟨_, rfl, .inr (.inl ⟨e, rfl⟩)⟩)
  refine Always.lift_bind (fun asset _ => ?_) (fun e he => ⟨e, rfl, .inr (.inr (.inl he))⟩)
  rw [hparse, Flow.ok_bind]
  refine always_readBalance rfl (fun balance => ?_) ⟨_, rfl, .inr (.inr (.inr (.inr (.inl rfl))))⟩
  refine Always.lift_bind (fun _ _ => ?_) (fun e he => ⟨e, rfl, .inr (.inr (.inr
    (balanceError_of_insufficient (fun _ => buildTransferAllType_eq_error) he)))⟩)
  refine always_estimateTargetFee rfl (fun _ fee _ => ?_)
    (fun base e he => ⟨e, rfl, .inr (.inr (.inr (.inl ⟨base, he⟩)))⟩)
    ⟨_, rfl, .inr (.inr (.inr (.inr (.inr (.inr rfl)))))⟩
  refine Always.lift_bind (fun amount _ => ?_) (fun e he => ⟨e, rfl, .inr (.inr (.inr
    (balanceError_of_insufficient (fun _ => amountAfterFee_eq_error) he)))⟩)
  refine Always.lift_bind (fun _ _ => ?_) (fun e he => ⟨e, rfl, .inr (.inr (.inr
    (balanceError_of_insufficient (fun _ => buildTransferAllType_eq_error) he)))⟩)
  -- the projection refuses the data
  rw [projectPreparedTransfer_eq, if_pos hconflict, Flow.error_bind]
  exact ⟨_, rfl, .inl rfl⟩

/-- The largest fee leaves nothing of any balance of XELIS. -/
lemma lacks_of_not_escapes {fee₀ baseFee : UInt64} {asset : T.Hash}
    (h : ¬ (multisigTransferAll address assetHash extraData encryptExtraData feePolicy).Escapes S)
    (hfee₀ : applyFeePolicy 0 feePolicy = .ok fee₀)
    (hasset : parseOptionalAsset S assetHash = .ok asset)
    (hfee : applyFeePolicy baseFee feePolicy = .ok fee) : Lacks S asset balance fee := by
  by_contra hpays
  refine h ⟨fee₀, asset, hfee₀, hasset, fun hxelis => ?_⟩
  have hle := applyFeePolicy_zero_le hfee₀ hfee
  have hbalance := balance.toNat_lt
  rw [Lacks, if_pos hxelis, UInt64.le_iff_toNat_le] at hpays
  unfold u64Max
  omega

lemma multisigTransferAll_refused
    (hconflict : (multisigTransferAll address assetHash extraData encryptExtraData
      feePolicy).HasConflict S)
    (h : ¬ (multisigTransferAll address assetHash extraData encryptExtraData feePolicy).Escapes S) :
    (multisigTransferAll address assetHash extraData encryptExtraData feePolicy).Refused S := by
  obtain ⟨destination, hdestination, -⟩ := hconflict
  have hparse : parseTransactionDestination S address = .ok destination :=
    context_eq_ok.mpr hdestination
  refine Always.lift_bind (fun _ hfee₀ => ?_) (fun e he => ⟨e, rfl, .inr (.inr (.inl ⟨0, he⟩))⟩)
  refine Always.lift_bind (fun asset hasset => ?_) (fun e he => ⟨e, rfl, .inr (.inl he)⟩)
  rw [hparse, Flow.ok_bind]
  refine always_readBalance rfl (fun balance => ?_) ⟨_, rfl, .inr (.inr (.inr (.inl rfl)))⟩
  refine Always.lift_bind (fun _ _ => ?_) (fun e he => ⟨e, rfl, .inr (.inr
    (balanceError_of_insufficient (fun _ => buildTransferAllType_eq_error) he))⟩)
  refine always_estimateTargetFee rfl (fun base fee hfee => ?_)
    (fun base e he => ⟨e, rfl, .inr (.inr (.inl ⟨base, he⟩))⟩)
    ⟨_, rfl, .inr (.inr (.inr (.inr (.inr rfl))))⟩
  refine Always.lift_bind (fun amount hamount => ?_) (fun e he => ⟨e, rfl, .inr (.inr
    (balanceError_of_insufficient (fun _ => amountAfterFee_eq_error) he))⟩)
  -- nothing is left for a transfer
  have hlacks : Lacks S asset balance fee := lacks_of_not_escapes h hfee₀ hasset hfee
  obtain ⟨-, herror⟩ | ⟨_, hleft, -⟩ :=
    amountAfterFee_cases S balance fee asset "Insufficient balance for fees"
  · rw [insufficient_eq_ok, herror] at hamount
    cases hamount
  · exact absurd hlacks hleft.not_lacks

lemma asks_of_escapes {destination : T.Address}
    (hdestination : S.addressText.ofText address = some destination)
    (h : (multisigTransferAll address assetHash extraData encryptExtraData feePolicy).Escapes S) :
    ∃ amount asset fee,
      (createMultisigTransferAllTransaction S address assetHash extraData encryptExtraData
        feePolicy).Asks (.createState
          (.transfers [buildTransfer S destination amount asset extraData encryptExtraData])
          fee) := by
  obtain ⟨fee, asset, hfee, hasset, hxelis⟩ := h
  have hparse : parseTransactionDestination S address = .ok destination :=
    context_eq_ok.mpr hdestination
  -- the largest balance pays for the fee
  have hpays : ∀ fee' : UInt64, fee'.toNat ≤ fee.toNat →
      ¬ Lacks S asset (UInt64.ofNat u64Max) fee' := by
    intro fee' hle hlacks
    have hmax : (UInt64.ofNat u64Max).toNat = u64Max := rfl
    unfold Lacks at hlacks
    split_ifs at hlacks with hx
    · rw [UInt64.le_iff_toNat_le, hmax] at hlacks
      have := hxelis hx
      omega
    · exact absurd hlacks (by decide)
  have hamount : ∀ fee' : UInt64, fee'.toNat ≤ fee.toNat → ∃ amount,
      amountAfterFee S (UInt64.ofNat u64Max) fee' asset "Insufficient balance for fees" =
        .ok amount := by
    intro fee' hle
    obtain ⟨hlacks, -⟩ | ⟨amount, -, hamount⟩ := amountAfterFee_cases S (UInt64.ofNat u64Max) fee'
      asset "Insufficient balance for fees"
    · exact absurd hlacks (hpays fee' hle)
    · exact ⟨amount, hamount⟩
  obtain ⟨estimated, hestimated⟩ := hamount 0 (Nat.zero_le _)
  obtain ⟨amount, hleft⟩ := hamount fee le_rfl
  have htype : buildTransferAllType S destination (UInt64.ofNat u64Max) 0 asset extraData
      encryptExtraData = .ok (.transfers
        [buildTransfer S destination estimated asset extraData encryptExtraData]) :=
    bind_eq_ok.mpr ⟨estimated, hestimated, rfl⟩
  refine ⟨amount, asset, fee, ?_⟩
  refine asks_lift hfee (asks_lift hasset (asks_lift hparse ?_))
  refine asks_readBalance (UInt64.ofNat u64Max) ?_
  refine asks_lift (insufficient_eq_ok.mpr htype) (asks_estimateTargetFee 0 hfee ?_)
  exact asks_lift (insufficient_eq_ok.mpr hleft) (asks_createState _ fee)

end TransferEntry

/-- **Conflicting extra data is refused** before a transaction is created, with the error of the
conflict or one that came first, by all the functions for transfers of exact amounts but one: the
transfer of a whole balance for several signers refuses it only if no balance pays for it or an
earlier check fails. -/
theorem conflict_refused_iff (entry : TransferEntry) (hconflict : entry.HasConflict S) :
    entry.Refused S ↔ ¬ entry.Escapes S := by
  cases entry with
  | prepareTransfers =>
    exact iff_of_true (TransferEntry.prepareTransfers_refused hconflict) id
  | prepareTransferAll =>
    exact iff_of_true (TransferEntry.prepareTransferAll_refused hconflict) id
  | multisigTransfers =>
    exact iff_of_true (TransferEntry.multisigTransfers_refused hconflict) id
  | multisigTransferAll =>
    refine ⟨fun hrefused hescapes => ?_, TransferEntry.multisigTransferAll_refused hconflict⟩
    obtain ⟨destination, hdestination, -⟩ := hconflict
    obtain ⟨amount, asset, fee, hasks⟩ := TransferEntry.asks_of_escapes hdestination hescapes
    cases hrefused.asks hasks

/-- Data is given for a transfer to an integrated address, and the transfer is created. -/
theorem tagged_transfer_all_created :
    (TransferEntry.multisigTransferAll "1" none (some "note") none .automatic).HasConflict
      taggedBuilders ∧
    (createMultisigTransferAllTransaction taggedBuilders "1" none (some "note") none
      .automatic).Asks (.createState (.transfers [⟨true, 5, false, some (), true⟩]) 0) := by
  refine ⟨⟨true, rfl, rfl, rfl⟩, ?_⟩
  refine asks_lift rfl (asks_lift rfl (asks_lift rfl (asks_readBalance 5 ?_)))
  refine asks_lift rfl (asks_estimateTargetFee 0 rfl (asks_lift rfl ?_))
  exact asks_createState _ 0

/-- The same data is refused in a list of transfers. -/
theorem tagged_conflict_refused :
    (TransferEntry.prepareTransfers
      [⟨1, "1", (flagHex 64).toText true, some "note", true⟩] .automatic).Refused
      taggedBuilders := by
  refine (conflict_refused_iff _ ?_).mpr id
  exact ⟨_, List.mem_singleton_self _, true, rfl, rfl, rfl⟩

end XelisWallet.Prepare
