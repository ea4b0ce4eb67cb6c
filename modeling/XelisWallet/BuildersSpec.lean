import Mathlib.Algebra.Order.Floor.Div
import XelisWallet.Builders

/-!
What the functions that build transactions compute: the fee of a policy, the amount that a fee
leaves of a balance, and the lists that are made of a list of transfers.
-/

namespace XelisWallet.Builders

open Fallible Checked NativeError DataWire
open Multisig hiding TransferBuilder TransactionTypeBuilder

variable {T : Types}

/-! ### The fee of a policy -/

lemma u64TryFrom_eq_some {n : ℕ} {x : UInt64} : u64TryFrom n = some x ↔ x.toNat = n := by
  unfold u64TryFrom u64Max
  constructor
  · intro h
    split at h <;> cases h
    rw [UInt64.toNat_ofNat']
    omega
  · rintro rfl
    have hlt := x.toNat_lt
    rw [if_pos (by omega), UInt64.ofNat_toNat]

lemma u64TryFrom_eq_none {n : ℕ} : u64TryFrom n = none ↔ u64Max < n := by
  unfold u64TryFrom
  split_ifs with h <;> simp <;> omega

/-- The fee of a policy, as a number of any size. -/
def policyFee (baseFee : UInt64) : NativeTransactionFeePolicy → ℕ
  | .automatic => baseFee.toNat
  | .fixed fee => fee.toNat
  | .tip tip => baseFee.toNat + tip.toNat
  | .multiplier basisPoints => (baseFee.toNat * basisPoints.toNat) ⌈/⌉ feeBasisPointsScale

/-- Nothing overflows in `u128`: the product of two numbers of 64 bits leaves room. -/
lemma numerator_fits (a b : UInt64) :
    (checkedMul u128Max a.toNat b.toNat).bind (fun value =>
      checkedAdd u128Max value (feeBasisPointsScale - 1)) =
      some (a.toNat * b.toNat + (feeBasisPointsScale - 1)) := by
  have ha : a.toNat ≤ 2 ^ 64 - 1 := Nat.le_pred_of_lt a.toNat_lt
  have hb : b.toNat ≤ 2 ^ 64 - 1 := Nat.le_pred_of_lt b.toNat_lt
  have hproduct : a.toNat * b.toNat ≤ (2 ^ 64 - 1) * (2 ^ 64 - 1) := Nat.mul_le_mul ha hb
  have hmul : a.toNat * b.toNat ≤ u128Max := by
    unfold u128Max
    omega
  have hadd : a.toNat * b.toNat + (feeBasisPointsScale - 1) ≤ u128Max := by
    unfold u128Max feeBasisPointsScale
    omega
  rw [checkedMul, if_pos hmul, Option.bind_some, checkedAdd, if_pos hadd]

/-- **The fee** is that of the policy, if it fits. -/
lemma applyFeePolicy_eq (baseFee : UInt64) (policy : NativeTransactionFeePolicy) :
    applyFeePolicy baseFee policy =
      if policy = .multiplier 0 then .error feePolicyInvalid
      else context (u64TryFrom (policyFee baseFee policy)) feeOverflow := by
  cases policy with
  | automatic | fixed =>
    rw [if_neg (by simp), policyFee, u64TryFrom_eq_some.mpr rfl]
    rfl
  | tip =>
    rw [if_neg (by simp), applyFeePolicy, policyFee, checkedAdd, u64TryFrom]
    split <;> rfl
  | multiplier basisPoints =>
    by_cases hzero : basisPoints = 0
    · subst hzero
      rfl
    have hne : NativeTransactionFeePolicy.multiplier basisPoints ≠ .multiplier 0 :=
      fun h => hzero (NativeTransactionFeePolicy.multiplier.inj h)
    rw [if_neg hne, applyFeePolicy, ensure, if_pos hzero, numerator_fits, policyFee,
      Nat.ceilDiv_eq_add_pred_div]
    rfl

variable {baseFee : UInt64} {policy : NativeTransactionFeePolicy}

lemma applyFeePolicy_eq_ok {fee : UInt64} :
    applyFeePolicy baseFee policy = .ok fee ↔
      policy ≠ .multiplier 0 ∧ fee.toNat = policyFee baseFee policy := by
  rw [applyFeePolicy_eq]
  split_ifs with h
  · simp [h]
  · rw [context_eq_ok, u64TryFrom_eq_some]
    simp [h]

lemma applyFeePolicy_eq_error :
    (∃ e, applyFeePolicy baseFee policy = .error e) ↔
      policy = .multiplier 0 ∨ u64Max < policyFee baseFee policy := by
  rw [applyFeePolicy_eq]
  split_ifs with h
  · simp [h]
  · simp only [context_eq_error, u64TryFrom_eq_none, h, false_or]
    simp

lemma policyFee_multiplier_isLeast (baseFee basisPoints : UInt64) :
    IsLeast {n | baseFee.toNat * basisPoints.toNat ≤ n * feeBasisPointsScale}
      (policyFee baseFee (.multiplier basisPoints)) := by
  have hscale : 0 < feeBasisPointsScale := by decide
  have hle : ∀ n, policyFee baseFee (.multiplier basisPoints) ≤ n ↔
      baseFee.toNat * basisPoints.toNat ≤ n * feeBasisPointsScale := by
    intro n
    rw [Nat.mul_comm n]
    exact ceilDiv_le_iff_le_mul hscale
  exact ⟨(hle _).mp le_rfl, fun n hn => (hle n).mpr hn⟩

lemma applyFeePolicy_zero_le {fee₀ fee : UInt64} (h₀ : applyFeePolicy 0 policy = .ok fee₀)
    (h : applyFeePolicy baseFee policy = .ok fee) : fee₀.toNat ≤ fee.toNat := by
  rw [(applyFeePolicy_eq_ok.mp h₀).2, (applyFeePolicy_eq_ok.mp h).2]
  have hzero : (0 : UInt64).toNat = 0 := rfl
  cases policy with
  | automatic => exact Nat.zero_le _
  | fixed => exact le_rfl
  | tip => exact Nat.add_le_add_right (Nat.zero_le _) _
  | multiplier =>
    rw [policyFee, hzero, Nat.zero_mul, zero_ceilDiv]
    exact Nat.zero_le _

/-! ### What a fee leaves -/

section Amount

variable {S : BuilderSuite T} {balance fee amount : UInt64} {asset : T.Hash}

/-- The balance does not pay for the fee, or there is nothing of another asset. -/
def Lacks (S : BuilderSuite T) (asset : T.Hash) (balance fee : UInt64) : Prop :=
  if asset = S.xelisAsset then balance ≤ fee else balance = 0

/-- The amount is all that the fee leaves, and not nothing. -/
def LeftOver (S : BuilderSuite T) (asset : T.Hash) (balance fee amount : UInt64) : Prop :=
  0 < amount ∧ if asset = S.xelisAsset then amount.toNat + fee.toNat = balance.toNat
    else amount = balance

lemma amountAfterFee_cases (S : BuilderSuite T) (balance fee : UInt64) (asset : T.Hash)
    (insufficientFundsContext : String) :
    (Lacks S asset balance fee ∧ amountAfterFee S balance fee asset insufficientFundsContext =
        .error insufficientFundsContext) ∨
    ∃ amount, LeftOver S asset balance fee amount ∧
      amountAfterFee S balance fee asset insufficientFundsContext = .ok amount := by
  have hpositive : ∀ a : UInt64, context (if 0 < a then some a else none)
      insufficientFundsContext = if 0 < a then .ok a else .error insufficientFundsContext := by
    intro a
    split <;> rfl
  by_cases hasset : asset = S.xelisAsset
  · obtain hless | hle := lt_or_ge balance.toNat fee.toNat
    · have hnone : checkedSub balance fee = none := if_neg (by rw [UInt64.le_iff_toNat_le]; omega)
      refine .inl ⟨?_, ?_⟩
      · rw [Lacks, if_pos hasset, UInt64.le_iff_toNat_le]
        exact hless.le
      · rw [amountAfterFee, if_pos hasset, hnone]
        rfl
    · have hfee : fee ≤ balance := UInt64.le_iff_toNat_le.mpr hle
      have hsub : (balance - fee).toNat = balance.toNat - fee.toNat :=
        UInt64.toNat_sub_of_le _ _ hfee
      have hsome : checkedSub balance fee = some (balance - fee) := if_pos hfee
      have hresult : amountAfterFee S balance fee asset insufficientFundsContext =
          if 0 < balance - fee then .ok (balance - fee) else .error insufficientFundsContext := by
        rw [amountAfterFee, if_pos hasset, hsome]
        exact hpositive _
      by_cases hleft : 0 < balance - fee
      · refine .inr ⟨balance - fee, ⟨hleft, ?_⟩, by rw [hresult, if_pos hleft]⟩
        rw [if_pos hasset, hsub]
        omega
      · refine .inl ⟨?_, by rw [hresult, if_neg hleft]⟩
        rw [UInt64.lt_iff_toNat_lt, hsub] at hleft
        rw [Lacks, if_pos hasset, UInt64.le_iff_toNat_le]
        have hzero : (0 : UInt64).toNat = 0 := rfl
        omega
  · have hresult : amountAfterFee S balance fee asset insufficientFundsContext =
        if 0 < balance then .ok balance else .error insufficientFundsContext := by
      rw [amountAfterFee, if_neg hasset]
      exact hpositive _
    by_cases hleft : 0 < balance
    · exact .inr ⟨balance, ⟨hleft, by rw [if_neg hasset]⟩, by rw [hresult, if_pos hleft]⟩
    refine .inl ⟨?_, by rw [hresult, if_neg hleft]⟩
    rw [Lacks, if_neg hasset]
    rw [UInt64.lt_iff_toNat_lt] at hleft
    have hzero : (0 : UInt64).toNat = 0 := rfl
    exact UInt64.toNat_inj.mp (by omega)

lemma LeftOver.not_lacks (h : LeftOver S asset balance fee amount) :
    ¬ Lacks S asset balance fee := by
  obtain ⟨hpos, hamount⟩ := h
  rw [UInt64.lt_iff_toNat_lt] at hpos
  unfold Lacks
  split_ifs at hamount ⊢ with hasset
  · rw [UInt64.le_iff_toNat_le]
    omega
  rintro rfl
  subst hamount
  exact absurd hpos (lt_irrefl _)

lemma LeftOver.unique {amount' : UInt64} (h : LeftOver S asset balance fee amount)
    (h' : LeftOver S asset balance fee amount') : amount' = amount := by
  obtain ⟨-, h⟩ := h
  obtain ⟨-, h'⟩ := h'
  split_ifs at h h' with hasset
  · exact UInt64.toNat_inj.mp (by omega)
  · rw [h, h']

lemma lacks_of_lacks_zero (h : Lacks S asset balance 0) : Lacks S asset balance fee := by
  unfold Lacks at h ⊢
  split_ifs at h ⊢ with hasset
  · rw [UInt64.le_iff_toNat_le] at h ⊢
    have hzero : (0 : UInt64).toNat = 0 := rfl
    omega
  · exact h

end Amount

/-! ### Lists of transfers -/

section Transfers

variable {S : BuilderSuite T}

/-- A transfer with both explicit data and an integrated destination. -/
def Conflicts (S : BuilderSuite T) (destination : T.Address) (extraData : Option String) : Prop :=
  extraData.isSome ∧ (S.extractData destination).1.isSome

instance (destination : T.Address) (extraData : Option String) :
    Decidable (Conflicts S destination extraData) :=
  inferInstanceAs (Decidable (_ ∧ _))

/-- The data of a transfer without a conflict, explicit or of the address. -/
def effectiveExtraData (S : BuilderSuite T) (destination : T.Address) (extraData : Option String)
    (encrypted : Bool) : Option NativePreparedTransferExtraData :=
  match extraData, (S.extractData destination).1 with
  | some value, _ => some ⟨S.fromXelis (S.stringElement value), .explicit, encrypted⟩
  | none, some data => some ⟨S.fromXelis data, .integratedAddress, encrypted⟩
  | none, none => none

/-- What is shown of a transfer. -/
def shownTransfer (S : BuilderSuite T) (destination : T.Address) (asset : T.Hash)
    (amount : UInt64) (extraData : Option String) (encryptExtraData : Bool) :
    NativePreparedTransfer where
  amount := amount
  destination := S.addressText.toText (S.extractData destination).2
  asset := S.hashHex.toText asset
  hasExtraData := (effectiveExtraData S destination extraData encryptExtraData).isSome
  encryptExtraData := encryptExtraData

lemma projectPreparedTransfer_eq (destination : T.Address) (asset : T.Hash) (amount : UInt64)
    (extraData : Option String) (encryptExtraData : Bool) :
    projectPreparedTransfer S destination asset amount extraData encryptExtraData =
      if Conflicts S destination extraData then .error extraDataConflict
      else .ok (shownTransfer S destination asset amount extraData encryptExtraData,
        effectiveExtraData S destination extraData encryptExtraData) := by
  rcases h : S.extractData destination with ⟨data, base⟩
  cases extraData <;> cases data <;>
    simp only [projectPreparedTransfer, Conflicts, shownTransfer, effectiveExtraData, h] <;> rfl

/-- The request is accepted, with this asset and this destination. -/
structure Accepted (S : BuilderSuite T) (transfer : NativeTransactionTransferRequest)
    (asset : T.Hash) (destination : T.Address) : Prop where
  amount_ne : transfer.amount ≠ 0
  asset_eq : S.hashHex.ofText transfer.asset = some asset
  destination_eq : S.addressText.ofText transfer.destination = some destination
  not_conflicts : ¬ Conflicts S destination transfer.extraData

/-- What a turn of the loop makes of a request. -/
structure AtomicTransfer (T : Types) where
  builder : TransferBuilder T
  shown : NativePreparedTransfer
  extraData : Option NativePreparedTransferExtraData

def atomicTransfer (S : BuilderSuite T) (transfer : NativeTransactionTransferRequest)
    (asset : T.Hash) (destination : T.Address) : AtomicTransfer T where
  builder := buildTransfer S destination transfer.amount asset transfer.extraData
    (some transfer.encryptExtraData)
  shown := shownTransfer S destination asset transfer.amount transfer.extraData
    transfer.encryptExtraData
  extraData := effectiveExtraData S destination transfer.extraData transfer.encryptExtraData

/-- The request is accepted and makes this. -/
def Makes (S : BuilderSuite T) (transfer : NativeTransactionTransferRequest)
    (made : AtomicTransfer T) : Prop :=
  ∃ asset destination, Accepted S transfer asset destination ∧
    made = atomicTransfer S transfer asset destination

def AtomicTransfers.append (built : AtomicTransfers T) (made : List (AtomicTransfer T)) :
    AtomicTransfers T where
  builders := built.builders ++ made.map (·.builder)
  projection := built.projection ++ made.map (·.shown)
  reviewExtraData := built.reviewExtraData ++ made.map (·.extraData)

lemma AtomicTransfers.append_cons (built : AtomicTransfers T) (a : AtomicTransfer T)
    (made : List (AtomicTransfer T)) :
    built.append (a :: made) = (built.append [a]).append made := by
  simp [append]

variable {built : AtomicTransfers T} {index : ℕ} {e : NativeXelisError}
  {transfers : List NativeTransactionTransferRequest}

lemma pushTransfer_eq_ok {built' : AtomicTransfers T}
    {transfer : NativeTransactionTransferRequest} :
    pushTransfer S built (transfer, index) = .ok built' ↔
      ∃ made, Makes S transfer made ∧ built' = built.append [made] := by
  simp only [pushTransfer, parseTransactionAsset, parseTransactionDestination, bind_eq_ok,
    ensure_eq_ok, context_eq_ok, exists_const, projectPreparedTransfer_eq, pure_eq_ok]
  constructor
  · rintro ⟨hamount, asset, hasset, destination, hdestination, _, hproject, rfl⟩
    split_ifs at hproject with hconflict
    cases hproject
    exact ⟨_, ⟨asset, destination, ⟨hamount, hasset, hdestination, hconflict⟩, rfl⟩, rfl⟩
  · rintro ⟨_, ⟨asset, destination, h, rfl⟩, rfl⟩
    exact ⟨h.amount_ne, asset, h.asset_eq, destination, h.destination_eq, _,
      if_neg h.not_conflicts, rfl⟩

lemma pushTransfer_eq_error_of_eq_error {p : NativeTransactionTransferRequest × ℕ}
    (h : pushTransfer S built p = .error e) (built' : AtomicTransfers T) :
    pushTransfer S built' p = .error e := by
  simp only [pushTransfer, bind_eq_error] at h ⊢
  obtain h | ⟨_, hamount, h⟩ := h
  · exact .inl h
  refine .inr ⟨_, hamount, ?_⟩
  obtain h | ⟨asset, hasset, h⟩ := h
  · exact .inl h
  refine .inr ⟨asset, hasset, ?_⟩
  obtain h | ⟨destination, hdestination, h⟩ := h
  · exact .inl h
  refine .inr ⟨destination, hdestination, ?_⟩
  obtain h | ⟨_, -, h⟩ := h
  · exact .inl h
  · cases h

/-- **The loop** goes through exactly if every request is accepted. The induction is on the
requests; the lists so far and the index are arbitrary. -/
lemma foldlM_pushTransfer {built' : AtomicTransfers T} :
    (transfers.zipIdx index).foldlM (pushTransfer S) built = .ok built' ↔
      ∃ made, List.Forall₂ (Makes S) transfers made ∧ built' = built.append made := by
  induction transfers generalizing built index with
  | nil =>
    rw [List.zipIdx_nil, List.foldlM_nil, pure_eq_ok]
    constructor
    · rintro rfl
      exact ⟨[], .nil, by simp [AtomicTransfers.append]⟩
    · rintro ⟨_, ⟨⟩, rfl⟩
      simp [AtomicTransfers.append]
  | cons transfer transfers ih =>
    simp only [List.zipIdx_cons, List.foldlM_cons, bind_eq_ok, pushTransfer_eq_ok, ih]
    constructor
    · rintro ⟨_, ⟨a, ha, rfl⟩, made, hmade, rfl⟩
      exact ⟨a :: made, .cons ha hmade, (AtomicTransfers.append_cons built a made).symm⟩
    rintro ⟨_, hall, rfl⟩
    obtain ⟨a, made, ha, hmade, rfl⟩ := List.forall₂_cons_left_iff.mp hall
    exact ⟨_, ⟨a, ha, rfl⟩, made, hmade, AtomicTransfers.append_cons built a made⟩

/-- The error of the first request that is not accepted. -/
def FirstRefusal (S : BuilderSuite T) (transfers : List NativeTransactionTransferRequest)
    (e : NativeXelisError) : Prop :=
  ∃ before transfer after, transfers = before ++ transfer :: after ∧
    (∀ t ∈ before, ∃ asset destination, Accepted S t asset destination) ∧
    ∀ built, pushTransfer S built (transfer, before.length) = .error e

/-- The loop stops at the first request that is not accepted; the index counts from where it
started. -/
lemma foldlM_pushTransfer_eq_error
    (h : (transfers.zipIdx index).foldlM (pushTransfer S) built = .error e) :
    ∃ before transfer after, transfers = before ++ transfer :: after ∧
      (∀ t ∈ before, ∃ asset destination, Accepted S t asset destination) ∧
      ∀ built', pushTransfer S built' (transfer, index + before.length) = .error e := by
  induction transfers generalizing built index with
  | nil => cases h
  | cons transfer transfers ih =>
    rw [List.zipIdx_cons, List.foldlM_cons, bind_eq_error] at h
    obtain h | ⟨built', hmade, h⟩ := h
    · exact ⟨[], transfer, transfers, rfl, by simp, pushTransfer_eq_error_of_eq_error h⟩
    obtain ⟨before, t, after, rfl, haccepted, hrefused⟩ := ih h
    obtain ⟨_, ⟨asset, destination, hmade, -⟩, -⟩ := pushTransfer_eq_ok.mp hmade
    refine ⟨transfer :: before, t, after, rfl, ?_, ?_⟩
    · exact List.forall_mem_cons.mpr ⟨⟨asset, destination, hmade⟩, haccepted⟩
    · rwa [List.length_cons, Nat.add_comm before.length, ← Nat.add_assoc]

lemma buildAtomicTransfers_eq_error (hne : transfers ≠ [])
    (h : buildAtomicTransfers S transfers = .error e) : FirstRefusal S transfers e := by
  have hlength : transfers.length ≠ 0 := fun h => hne (List.length_eq_zero_iff.mp h)
  rw [buildAtomicTransfers, ensure, if_pos hlength, Fallible.ok_bind, bind_eq_error] at h
  obtain h | ⟨_, -, h⟩ := h
  · obtain ⟨before, transfer, after, hsplit, haccepted, hrefused⟩ := foldlM_pushTransfer_eq_error h
    exact ⟨before, transfer, after, hsplit, haccepted, by simpa using hrefused⟩
  · cases h

lemma buildAtomicTransfers_eq_ok {transactionType : TransactionTypeBuilder T}
    {transaction : NativePreparedTransactionKind}
    {reviewExtraData : List (Option NativePreparedTransferExtraData)} :
    buildAtomicTransfers S transfers = .ok (transactionType, transaction, reviewExtraData) ↔
      transfers ≠ [] ∧ ∃ made, List.Forall₂ (Makes S) transfers made ∧
        transactionType = .transfers (made.map (·.builder)) ∧
        transaction = .transfers (made.map (·.shown)) ∧
        reviewExtraData = made.map (·.extraData) := by
  simp only [buildAtomicTransfers, bind_eq_ok, ensure_eq_ok, exists_const, foldlM_pushTransfer,
    pure_eq_ok, Prod.mk.injEq, ne_eq, List.length_eq_zero_iff]
  refine and_congr_right fun _ => ?_
  constructor
  · rintro ⟨_, ⟨made, hmade, rfl⟩, rfl, rfl, rfl⟩
    exact ⟨made, hmade, rfl, rfl, rfl⟩
  · rintro ⟨made, hmade, rfl, rfl, rfl⟩
    exact ⟨_, ⟨made, hmade, rfl⟩, rfl, rfl, rfl⟩

end Transfers

end XelisWallet.Builders
