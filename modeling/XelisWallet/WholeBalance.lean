import XelisWallet.MultisigStored
import XelisWallet.PrepareSpec

/-!
Spending a whole balance.

A wallet can transfer or burn all it has of an asset, alone or with other signers. The four
functions estimate the fee for the whole balance, compute what the fee leaves and build the
transaction with that amount. What is shown has been computed apart from what is built; both are
the amount that the fee leaves.
-/

namespace XelisWallet.Prepare

open Fallible Checked NativeError Builders PreparedStore Flows Flow
open Multisig hiding TransferBuilder TransactionTypeBuilder
open MultisigFinalize (preparedTransactionError)

variable {T : Types} {S : BuilderSuite T} {α : Type}

/-- The error says that the balance does not suffice. -/
def LackOfFunds : NativeXelisError → Prop
  | .walletOperation _ .insufficientFunds _ => True
  | _ => False

/-! ### What the four functions have in common -/

section Common

variable {asset : T.Hash} {balance baseFee : UInt64} {feePolicy : NativeTransactionFeePolicy}
  {nativeKind insufficientFundsContext : String}
  {build : UInt64 → UInt64 → Except NativeXelisError α}

/-- The fee and the amount are computed, and the transaction is built with them. -/
def spendBalance (S : BuilderSuite T) (asset : T.Hash) (balance baseFee : UInt64)
    (feePolicy : NativeTransactionFeePolicy) (nativeKind insufficientFundsContext : String)
    (build : UInt64 → UInt64 → Except NativeXelisError α) : Except NativeXelisError α := do
  let _ ← applyFeePolicy 0 feePolicy
  let _ ← insufficient nativeKind (amountAfterFee S balance 0 asset insufficientFundsContext)
  let fee ← applyFeePolicy baseFee feePolicy
  let amount ← insufficient nativeKind
    (amountAfterFee S balance fee asset insufficientFundsContext)
  build amount fee

/-- The balance of the asset is spent. `Built amount fee` is what is known of a result that was
built with an amount and a fee. -/
structure SpendsBalance (S : BuilderSuite T) (asset : T.Hash) (balance baseFee : UInt64)
    (feePolicy : NativeTransactionFeePolicy) (Built : UInt64 → UInt64 → α → Prop)
    (result : Except NativeXelisError α) : Prop where
  lacks : ∀ fee, applyFeePolicy baseFee feePolicy = .ok fee →
    ((∃ e, result = .error e ∧ LackOfFunds e) ↔ Lacks S asset balance fee)
  /-- An error of the fee is the result, unless there is nothing to spend. -/
  feeError : ∀ e, applyFeePolicy baseFee feePolicy = .error e →
    (feePolicy = .multiplier 0 ∨ balance ≠ 0 → result = .error e) ∧
    (feePolicy ≠ .multiplier 0 ∧ balance = 0 → ∃ e, result = .error e ∧ LackOfFunds e)
  built : ∀ r, result = .ok r → ∃ fee amount, applyFeePolicy baseFee feePolicy = .ok fee ∧
    LeftOver S asset balance fee amount ∧ Built amount fee r

lemma lacks_zero_iff : Lacks S asset balance 0 ↔ balance = 0 := by
  unfold Lacks
  split_ifs with hasset
  · rw [UInt64.le_iff_toNat_le, ← UInt64.toNat_inj]
    have hzero : (0 : UInt64).toNat = 0 := rfl
    omega
  · rfl

lemma applyFeePolicy_zero_eq_error {e : NativeXelisError}
    (h : applyFeePolicy 0 feePolicy = .error e) :
    feePolicy = .multiplier 0 ∧ e = feePolicyInvalid := by
  rw [applyFeePolicy_eq] at h
  split_ifs at h with hpolicy
  · cases h
    exact ⟨hpolicy, rfl⟩
  obtain ⟨hlarge, -⟩ := context_eq_error.mp h
  rw [u64TryFrom_eq_none] at hlarge
  have hzero : (0 : UInt64).toNat = 0 := rfl
  have hle : policyFee 0 feePolicy ≤ u64Max := by
    cases feePolicy with
    | automatic => exact Nat.zero_le _
    | fixed fee => exact Nat.le_pred_of_lt fee.toNat_lt
    | tip tip =>
      rw [policyFee, hzero, Nat.zero_add]
      exact Nat.le_pred_of_lt tip.toNat_lt
    | multiplier =>
      rw [policyFee, hzero, Nat.zero_mul]
      exact Nat.zero_le _
  omega

lemma insufficient_cases (S : BuilderSuite T) (asset : T.Hash) (balance fee : UInt64)
    (nativeKind insufficientFundsContext : String) :
    (Lacks S asset balance fee ∧
      insufficient nativeKind (amountAfterFee S balance fee asset insufficientFundsContext) =
        .error (.walletOperation insufficientFundsContext .insufficientFunds nativeKind)) ∨
    ∃ amount, LeftOver S asset balance fee amount ∧
      insufficient nativeKind (amountAfterFee S balance fee asset insufficientFundsContext) =
        .ok amount := by
  obtain ⟨hlacks, h⟩ | ⟨amount, hleft, h⟩ :=
    amountAfterFee_cases S balance fee asset insufficientFundsContext
  · exact .inl ⟨hlacks, by rw [h]; rfl⟩
  · exact .inr ⟨amount, hleft, by rw [h]; rfl⟩

/-- A function of this kind spends the balance, if building does not lack funds either. The cases
follow its steps: the policy, the empty balance, the fee, and what the fee leaves. -/
lemma spendsBalance_of_build {Built : UInt64 → UInt64 → α → Prop}
    (herror : ∀ amount fee e, build amount fee = .error e → ¬ LackOfFunds e)
    (hbuilt : ∀ amount fee r, build amount fee = .ok r → Built amount fee r) : SpendsBalance S asset
    balance baseFee feePolicy Built
    (spendBalance S asset balance baseFee feePolicy nativeKind insufficientFundsContext build) := by
  unfold spendBalance
  cases hpolicy : applyFeePolicy 0 feePolicy with
  | error =>
    obtain ⟨hzero, rfl⟩ := applyFeePolicy_zero_eq_error hpolicy
    have hinvalid : applyFeePolicy baseFee feePolicy = .error feePolicyInvalid := by
      rw [applyFeePolicy_eq, if_pos hzero]
    refine ⟨fun fee h => ?_, fun e h => ?_, nofun⟩ <;> cases hinvalid.symm.trans h
    exact ⟨fun _ => rfl, fun h => absurd hzero h.1⟩
  | ok =>
    have hne : feePolicy ≠ .multiplier 0 := (applyFeePolicy_eq_ok.mp hpolicy).1
    rw [Fallible.ok_bind]
    obtain ⟨hempty, hzero⟩ | ⟨_, hsome, hzero⟩ :=
      insufficient_cases S asset balance 0 nativeKind insufficientFundsContext
    · rw [hzero]
      refine ⟨fun fee _ => iff_of_true ⟨_, rfl, trivial⟩ (lacks_of_lacks_zero hempty),
        fun e _ => ⟨fun h => ?_, fun _ => ⟨_, rfl, trivial⟩⟩, nofun⟩
      exact absurd (lacks_zero_iff.mp hempty) (h.resolve_left hne)
    rw [hzero, Fallible.ok_bind]
    have hbalance : balance ≠ 0 := fun h => hsome.not_lacks (lacks_zero_iff.mpr h)
    cases hfee : applyFeePolicy baseFee feePolicy with
    | error e =>
      refine ⟨fun fee h => ?_, fun e' h => ?_, nofun⟩ <;> cases hfee.symm.trans h
      exact ⟨fun _ => rfl, fun h => absurd h.2 hbalance⟩
    | ok fee =>
      rw [Fallible.ok_bind]
      refine ⟨fun fee' h => ?_, fun e h => ?_, fun r h => ?_⟩
      · cases hfee.symm.trans h
        obtain ⟨hlacks, h⟩ | ⟨amount, hleft, h⟩ :=
          insufficient_cases S asset balance fee nativeKind insufficientFundsContext
        · rw [h]
          exact iff_of_true ⟨_, rfl, trivial⟩ hlacks
        · rw [h]
          exact iff_of_false (fun ⟨e, he, hlack⟩ => herror amount fee e he hlack) hleft.not_lacks
      · cases hfee.symm.trans h
      · obtain ⟨_, h'⟩ | ⟨amount, hleft, h'⟩ :=
          insufficient_cases S asset balance fee nativeKind insufficientFundsContext
        · rw [h'] at h
          cases h
        · rw [h'] at h
          exact ⟨fee, amount, hfee, hleft, hbuilt amount fee r h⟩

end Common

/-! ### The functions -/

/-- What the environment answers about a balance. -/
structure Answers (env : ∀ q : Question T, Answer q) (asset : T.Hash) (balance baseFee : UInt64) :
    Prop where
  begin : ∃ guard, env .begin = .ok guard
  balance : env (.balance asset) = some balance
  estimateFees : ∀ transactionType, env (.estimateFees transactionType) = some baseFee

/-- Requests are stored by the store of a wallet. -/
def StoresPending (S : BuilderSuite T) (env : ∀ q : Question T, Answer q) : Prop :=
  ∀ unsigned state transactionType configuration targetFee, ∃ wallet ephemeral store,
    env (.storePending unsigned state transactionType configuration targetFee) =
      (storePendingMultisigTransaction S.toSuite wallet ephemeral store unsigned state
        transactionType.declared configuration targetFee).1

section Functions

variable {env : ∀ q : Question T, Answer q} {asset : T.Hash} {balance baseFee : UInt64}
  {feePolicy : NativeTransactionFeePolicy}

variable (h : Answers env asset balance baseFee)
include h

lemma run_beginPreparation : ∃ guard, (beginPreparation : WalletFlow T ℕ).run env = .ok guard := by
  obtain ⟨guard, hguard⟩ := h.begin
  exact ⟨guard, run_beginPreparation_eq_ok.mpr hguard⟩

lemma run_readBalance (nativeKind : String) :
    (readBalance asset nativeKind : WalletFlow T UInt64).run env = .ok balance :=
  run_readBalance_eq_ok.mpr h.balance

lemma run_estimateTargetFee (transactionType : TransactionTypeBuilder T) :
    (estimateTargetFee transactionType feePolicy).run env = applyFeePolicy baseFee feePolicy := by
  rw [estimateTargetFee, run_bind, run_request, Fallible.ok_bind, run_bind, run_lift,
    h.estimateFees transactionType]
  rfl

omit h

section Twice

variable {β γ : Type} {nativeKind : String} (x : Except String β)

lemma insufficient_build (f : β → γ) (g : γ → Except NativeXelisError α) :
    (insufficient nativeKind (x >>= fun b => pure (f b)) >>= g) =
      insufficient nativeKind x >>= fun b => g (f b) := by
  cases x <;> rfl

lemma insufficient_twice (g : β → β → Except NativeXelisError α) :
    (insufficient nativeKind x >>= fun b => insufficient nativeKind x >>= g b) =
      insufficient nativeKind x >>= fun b => g b b := by
  cases x <;> rfl

end Twice

variable {destination : T.Address} {destinationText assetText : String}
  {extraData : Option String}

/-- The transfer of the whole balance is of the common form: the second computation of the amount
gives the first one. -/
lemma run_prepareTransferAll (h : Answers env asset balance baseFee)
    (hasset : S.hashHex.ofText assetText = some asset)
    (hdestination : S.addressText.ofText destinationText = some destination)
    (encryptExtraData : Bool) :
    (prepareTransferAllTransaction S destinationText assetText extraData encryptExtraData
        feePolicy).run env =
      spendBalance S asset balance baseFee feePolicy "TRANSFER_ALL_BALANCE_INSUFFICIENT"
        "Insufficient balance for fees" fun amount fee =>
          projectPreparedTransfer S destination asset amount extraData encryptExtraData >>=
            fun projected => (createAndCommitPreparedTransaction S
              (.transfers [buildTransfer S destination amount asset extraData
                (some encryptExtraData)])
              (.transfers [projected.1]) [projected.2] fee).run env := by
  obtain ⟨guard, hguard⟩ := run_beginPreparation h
  simp only [prepareTransferAllTransaction, spendBalance, run_bind, run_lift, hguard,
    parseTransactionAsset, parseTransactionDestination, hasset, hdestination, context,
    Fallible.ok_bind, run_readBalance h, run_estimateTargetFee h, buildTransferAllType,
    insufficient_build, insufficient_twice]

lemma run_prepareBurnAll (h : Answers env asset balance baseFee)
    (hasset : S.hashHex.ofText assetText = some asset) :
    (prepareBurnAllTransaction S assetText feePolicy).run env =
      spendBalance S asset balance baseFee feePolicy "BURN_ALL_BALANCE_INSUFFICIENT"
        "Insufficient balance to pay burn transaction fees" fun amount fee =>
          (createAndCommitPreparedTransaction S (buildBurnType asset amount)
            (.burn (S.hashHex.toText asset) amount) [] fee).run env := by
  obtain ⟨guard, hguard⟩ := run_beginPreparation h
  simp only [prepareBurnAllTransaction, spendBalance, run_bind, run_lift, hguard,
    parseTransactionAsset, hasset, context, Fallible.ok_bind, run_readBalance h,
    run_estimateTargetFee h, buildBurnAllType, insufficient_build, insufficient_twice]

lemma run_createMultisigTransferAll (h : Answers env asset balance baseFee)
    {assetHash : Option String} (hasset : parseOptionalAsset S assetHash = .ok asset)
    (hdestination : S.addressText.ofText destinationText = some destination)
    (encryptExtraData : Option Bool) :
    (createMultisigTransferAllTransaction S destinationText assetHash extraData encryptExtraData
        feePolicy).run env =
      spendBalance S asset balance baseFee feePolicy "MULTISIG_TRANSFER_ALL_BALANCE_INSUFFICIENT"
        "Insufficient balance for fees" fun amount fee =>
          (preparePendingMultisigTransactionWithFee
            (.transfers [buildTransfer S destination amount asset extraData encryptExtraData])
            fee).run env := by
  simp only [createMultisigTransferAllTransaction, spendBalance, run_bind, run_lift, hasset,
    parseTransactionDestination, hdestination, context, Fallible.ok_bind, run_readBalance h,
    run_estimateTargetFee h, buildTransferAllType, insufficient_build]

lemma run_createMultisigBurnAll (h : Answers env asset balance baseFee)
    (hasset : S.hashHex.ofText assetText = some asset) :
    (createMultisigBurnAllTransaction S assetText feePolicy).run env =
      spendBalance S asset balance baseFee feePolicy "MULTISIG_BURN_ALL_BALANCE_INSUFFICIENT"
        "Insufficient balance to pay burn transaction fees" fun amount fee =>
          (preparePendingMultisigTransactionWithFee (buildBurnType asset amount) fee).run env := by
  simp only [createMultisigBurnAllTransaction, spendBalance, run_bind, run_lift,
    parseTransactionAsset, hasset, context, Fallible.ok_bind, run_readBalance h,
    run_estimateTargetFee h, buildBurnAllType, insufficient_build]

end Functions

/-! ### What is built -/

section Built

variable {env : ∀ q : Question T, Answer q} {transactionType : TransactionTypeBuilder T}
  {transaction : NativePreparedTransactionKind}
  {reviewExtraData : List (Option NativePreparedTransferExtraData)} {amount fee : UInt64}
  {e : NativeXelisError}

/-- The transaction was created with the amount and the fee, and they are shown. -/
def Prepared (S : BuilderSuite T) (env : ∀ q : Question T, Answer q)
    (transactionType : UInt64 → TransactionTypeBuilder T)
    (Shows : UInt64 → NativePreparedTransactionKind → Prop) (amount fee : UInt64)
    (prepared : NativePreparedTransaction) : Prop :=
  ∃ tx state, env (.createTransaction (transactionType amount) fee) = some (tx, state) ∧
    prepared.hash = S.hashHex.toText (S.transactionHash tx) ∧ tx.fee = fee ∧
    prepared.fee = fee ∧ Shows amount prepared.transaction

/-- The transaction that is to be signed was created with the amount and the fee, and they are
shown. -/
def Requested (env : ∀ q : Question T, Answer q)
    (transactionType : UInt64 → TransactionTypeBuilder T)
    (Shows : UInt64 → NativeMultisigSigningTransaction → Prop) (amount fee : UInt64)
    (request : NativeMultisigSigningRequest) : Prop :=
  ∃ state version configuration unsigned state',
    env (.createUnsigned state configuration.threshold (transactionType amount) fee version) =
      some (unsigned, state') ∧
    env (.storePending unsigned state' (transactionType amount) configuration fee) =
      .ok request ∧
    request.fee = fee ∧ Shows amount request.transaction

lemma not_lackOfFunds_of_create
    (h : (createAndCommitPreparedTransaction S transactionType transaction reviewExtraData fee).run
      env = .error e) : ¬ LackOfFunds e := by
  simp only [createAndCommitPreparedTransaction, run_bind, run_request, Fallible.ok_bind, run_lift,
    bind_eq_error, context_eq_error, ensure_eq_error, run_pure] at h
  obtain ⟨-, rfl⟩ | ⟨_, -, ⟨-, rfl⟩ | ⟨_, -, hcommit | ⟨_, -, h⟩⟩⟩ := h
  · exact id
  · exact id
  · cases hanswer : env (.commit _ _) with
    | ok =>
      rw [hanswer] at hcommit
      cases hcommit
    | error =>
      rw [hanswer] at hcommit
      cases hcommit
      exact id
  · cases h

lemma prepared_of_create {types : UInt64 → TransactionTypeBuilder T}
    {Shows : UInt64 → NativePreparedTransactionKind → Prop} {prepared : NativePreparedTransaction}
    (hshows : Shows amount transaction)
    (h : (createAndCommitPreparedTransaction S (types amount) transaction reviewExtraData fee).run
      env = .ok prepared) : Prepared S env types Shows amount fee prepared := by
  obtain ⟨tx, state, hcreated, hfee, _, -, rfl⟩ := run_createAndCommit_eq_ok.mp h
  exact ⟨tx, state, hcreated, rfl, hfee, hfee, hshows⟩

lemma run_preparePending_cases (env : ∀ q : Question T, Answer q)
    (transactionType : TransactionTypeBuilder T) (fee : UInt64) :
    (∃ e, (preparePendingMultisigTransactionWithFee transactionType fee).run env = .error e ∧
      ¬ LackOfFunds e) ∨
    ∃ state version configuration unsigned state',
      env (.createUnsigned state configuration.threshold transactionType fee version) =
        some (unsigned, state') ∧
      (preparePendingMultisigTransactionWithFee transactionType fee).run env =
        env (.storePending unsigned state' transactionType configuration fee) := by
  simp only [preparePendingMultisigTransactionWithFee, activeMultisigConfiguration,
    buildUnsignedTransaction, run_bind, run_request, Fallible.ok_bind, run_lift]
  cases env .requestPending with
  | true => exact .inl ⟨_, rfl, id⟩
  | false =>
    obtain _ | _ | configuration := env .multisigState
    · exact .inl ⟨_, rfl, id⟩
    · exact .inl ⟨_, rfl, id⟩
    cases env (.createState transactionType fee) with
    | none => exact .inl ⟨_, rfl, id⟩
    | some state =>
      cases env .txVersion with
      | none => exact .inl ⟨_, rfl, id⟩
      | some version =>
        rcases hunsigned : env (.createUnsigned state configuration.threshold transactionType fee
          version) with _ | ⟨unsigned, state'⟩
        · refine .inl ⟨.upstreamOperation .operationFailed
            "MULTISIG_UNSIGNED_TRANSACTION_CREATION_FAILED", ?_, id⟩
          change (context (env (.createUnsigned _ _ _ _ _)) _ >>= _) = _
          rw [hunsigned]
          rfl
        · refine .inr ⟨state, version, configuration, unsigned, state', hunsigned, ?_⟩
          change (context (env (.createUnsigned _ _ _ _ _)) _ >>= _) = _
          rw [hunsigned]
          rfl

lemma not_lackOfFunds_of_request (hstores : StoresPending S env)
    (h : (preparePendingMultisigTransactionWithFee transactionType fee).run env = .error e) :
    ¬ LackOfFunds e := by
  obtain ⟨_, hresult, hlack⟩ | ⟨_, _, configuration, unsigned, state, -, hresult⟩ :=
    run_preparePending_cases env transactionType fee
  · cases hresult.symm.trans h
    exact hlack
  obtain ⟨wallet, ephemeral, store, hstored⟩ :=
    hstores unsigned state transactionType configuration fee
  rw [hresult, hstored] at h
  obtain ⟨_, herror, hne⟩ | ⟨_, _, -, -, hok⟩ := storePending_cases S.toSuite wallet ephemeral
    store unsigned state transactionType.declared configuration fee
  · cases herror.symm.trans h
    intro hlack
    unfold LackOfFunds at hlack
    split at hlack
    · exact hne _ _ rfl
    · exact hlack
  · cases hok.symm.trans h

lemma requested_of_create (hstores : StoresPending S env)
    (hread : ∀ e : MultisigSigningRequestEnvelope,
      S.requestFromStr (e.toDoc S.toSuite).text = some e)
    {types : UInt64 → TransactionTypeBuilder T}
    {Shows : UInt64 → NativeMultisigSigningTransaction → Prop}
    {request : NativeMultisigSigningRequest}
    (hshows : ∀ network shown,
      declaredPreview S.toSuite network (types amount).declared = some shown → Shows amount shown)
    (h : (preparePendingMultisigTransactionWithFee (types amount) fee).run env = .ok request) :
    Requested env types Shows amount fee request := by
  obtain ⟨_, hresult, -⟩ | ⟨state, version, configuration, unsigned, state', hunsigned, hresult⟩ :=
    run_preparePending_cases env (types amount) fee
  · cases hresult.symm.trans h
  have hanswer := hresult.symm.trans h
  obtain ⟨wallet, ephemeral, store, hstored⟩ :=
    hstores unsigned state' (types amount) configuration fee
  obtain ⟨hfee, hpreview⟩ := storePending_eq_ok hread (hstored.symm.trans hanswer)
  exact ⟨state, version, configuration, unsigned, state', hunsigned, hanswer, hfee,
    hshows wallet.network _ hpreview⟩

end Built

/-- **A whole balance is spent exactly.** The fee of a policy is computed without wrapping: it is
an error exactly if the multiplier is zero or the exact fee does not fit. Each of the four functions
lacks funds exactly if the fee takes the balance, or there is none of another asset; what it
builds and shows is the fee and the amount that the fee leaves. -/
theorem whole_balance_spent (S : BuilderSuite T) :
    ((∀ baseFee feePolicy fee, applyFeePolicy baseFee feePolicy = .ok fee ↔
        feePolicy ≠ .multiplier 0 ∧ fee.toNat = policyFee baseFee feePolicy) ∧
      (∀ baseFee feePolicy, (∃ e, applyFeePolicy baseFee feePolicy = .error e) ↔
        feePolicy = .multiplier 0 ∨ u64Max < policyFee baseFee feePolicy) ∧
      (∀ baseFee basisPoints : UInt64,
        IsLeast {n | baseFee.toNat * basisPoints.toNat ≤ n * feeBasisPointsScale}
          (policyFee baseFee (.multiplier basisPoints))) ∧
      ∀ baseFee basisPoints : UInt64,
        (checkedMul u128Max baseFee.toNat basisPoints.toNat).bind (fun value =>
          checkedAdd u128Max value (feeBasisPointsScale - 1)) =
        some (baseFee.toNat * basisPoints.toNat + (feeBasisPointsScale - 1))) ∧
    ∀ (env : ∀ q : Question T, Answer q) asset balance baseFee feePolicy,
      Answers env asset balance baseFee →
      (∀ destinationText assetText extraData encryptExtraData destination,
        S.hashHex.ofText assetText = some asset →
        S.addressText.ofText destinationText = some destination →
        SpendsBalance S asset balance baseFee feePolicy
          (Prepared S env
            (fun amount => .transfers
              [buildTransfer S destination amount asset extraData (some encryptExtraData)])
            fun amount shown => ∃ transfer, shown = .transfers [transfer] ∧
              transfer.amount = amount ∧ transfer.asset = S.hashHex.toText asset)
          ((prepareTransferAllTransaction S destinationText assetText extraData encryptExtraData
            feePolicy).run env)) ∧
      (∀ assetText, S.hashHex.ofText assetText = some asset →
        SpendsBalance S asset balance baseFee feePolicy
          (Prepared S env (fun amount => .burn amount asset)
            fun amount shown => shown = .burn (S.hashHex.toText asset) amount)
          ((prepareBurnAllTransaction S assetText feePolicy).run env)) ∧
      (StoresPending S env →
        (∀ e : MultisigSigningRequestEnvelope,
          S.requestFromStr (e.toDoc S.toSuite).text = some e) →
        (∀ destinationText assetHash extraData encryptExtraData destination,
          parseOptionalAsset S assetHash = .ok asset →
          S.addressText.ofText destinationText = some destination →
          SpendsBalance S asset balance baseFee feePolicy
            (Requested env
              (fun amount => .transfers
                [buildTransfer S destination amount asset extraData encryptExtraData])
              fun amount shown => ∃ transfer, shown = .transfers [transfer] ∧
                transfer.amount = amount ∧ transfer.asset = S.hashHex.toText asset)
            ((createMultisigTransferAllTransaction S destinationText assetHash extraData
              encryptExtraData feePolicy).run env)) ∧
        ∀ assetText, S.hashHex.ofText assetText = some asset →
          SpendsBalance S asset balance baseFee feePolicy
            (Requested env (fun amount => .burn amount asset)
              fun amount shown => shown = .burn (S.hashHex.toText asset) amount)
            ((createMultisigBurnAllTransaction S assetText feePolicy).run env)) := by
  refine ⟨⟨fun _ _ _ => applyFeePolicy_eq_ok, fun _ _ => applyFeePolicy_eq_error,
    policyFee_multiplier_isLeast, numerator_fits⟩, ?_⟩
  intro env asset balance baseFee feePolicy henv
  refine ⟨?_, ?_, fun hstores hread => ⟨?_, ?_⟩⟩
  · intro destinationText assetText extraData encryptExtraData destination hasset hdestination
    rw [run_prepareTransferAll henv hasset hdestination]
    refine spendsBalance_of_build (fun amount fee e h => ?_) (fun amount fee r h => ?_)
    · rw [bind_eq_error, projectPreparedTransfer_eq] at h
      obtain h | ⟨_, -, h⟩ := h
      · split_ifs at h
        cases h
        exact id
      · exact not_lackOfFunds_of_create h
    · obtain ⟨_, hprojected, h⟩ := bind_eq_ok.mp h
      rw [projectPreparedTransfer_eq] at hprojected
      split_ifs at hprojected
      cases hprojected
      exact prepared_of_create ⟨_, rfl, rfl, rfl⟩ h
  · intro assetText hasset
    rw [run_prepareBurnAll henv hasset]
    refine spendsBalance_of_build (fun _ _ _ h => not_lackOfFunds_of_create h) (fun _ _ _ h => ?_)
    exact prepared_of_create rfl h
  · intro destinationText assetHash extraData encryptExtraData destination hasset hdestination
    rw [run_createMultisigTransferAll henv hasset hdestination]
    refine spendsBalance_of_build (fun _ _ _ h => not_lackOfFunds_of_request hstores h)
      (fun amount fee r h => requested_of_create hstores hread ?_ h)
    intro network shown hshown
    cases hshown
    exact ⟨_, rfl, rfl, rfl⟩
  · intro assetText hasset
    rw [run_createMultisigBurnAll henv hasset]
    refine spendsBalance_of_build (fun _ _ _ h => not_lackOfFunds_of_request hstores h)
      (fun amount fee r h => requested_of_create hstores hread ?_ h)
    intro network shown hshown
    cases hshown
    rfl

/-! ### A small wallet -/

/-- A wallet with three units, of which a transaction costs two. -/
def flagAnswers : ∀ q : Question flagTypes, Answer q
  | .begin => .ok 1
  | .commit _ _ => .ok 1
  | .balance _ => some 3
  | .multisigState => some (some flagConfiguration)
  | .estimateFees _ => some 2
  | .createTransaction _ _ => some (⟨flagUnsigned, true⟩, ())
  | .requestPending => false
  | .createState _ _ => some ()
  | .txVersion => some 2
  | .createUnsigned _ _ _ _ _ => some (flagUnsigned, ())
  | .storePending unsigned state transactionType configuration targetFee =>
    (storePendingMultisigTransaction flagRequests ⟨.testnet, false, none⟩ true .default unsigned
      state transactionType.declared configuration targetFee).1

lemma flagAnswers_answers : Answers flagAnswers true 3 2 :=
  ⟨⟨1, rfl⟩, rfl, fun _ => rfl⟩

/-- Burning all burns the third unit; with a fee of three, nothing is left for other signers. -/
theorem flag_balance_spent :
    (∃ prepared, (prepareBurnAllTransaction flagBuilders ((flagHex 64).toText true)
        .automatic).run flagAnswers = .ok prepared ∧
      prepared.transaction = .burn ((flagHex 64).toText true) 1 ∧ prepared.fee = 2) ∧
    ∃ e, (createMultisigBurnAllTransaction flagBuilders ((flagHex 64).toText true)
        (.tip 1)).run flagAnswers = .error e ∧ LackOfFunds e := by
  have hasset : flagBuilders.hashHex.ofText ((flagHex 64).toText true) = some true :=
    flagHex_roundTrips (by decide) true
  have hspent := (whole_balance_spent flagBuilders).2 flagAnswers true 3 2
  constructor
  · obtain ⟨prepared, hrun⟩ : ∃ prepared, (prepareBurnAllTransaction flagBuilders
        ((flagHex 64).toText true) .automatic).run flagAnswers = .ok prepared :=
      ⟨_, by rw [run_prepareBurnAll flagAnswers_answers hasset]; rfl⟩
    obtain ⟨fee, amount, hfee, hleft, _, _, -, -, -, hshown, hburn⟩ :=
      ((hspent .automatic flagAnswers_answers).2.1 _ hasset).built prepared hrun
    cases hfee
    have hone : LeftOver flagBuilders true 3 2 1 := ⟨by decide, (if_pos rfl).mpr rfl⟩
    obtain rfl : amount = 1 := hone.unique hleft
    exact ⟨prepared, hrun, hburn, hshown⟩
  · have hstores : StoresPending flagBuilders flagAnswers := fun _ _ _ _ _ => ⟨_, _, _, rfl⟩
    have hburn := ((hspent (.tip 1) flagAnswers_answers).2.2 hstores
      flagRequests_laws.requestFromStr).2 _ hasset
    have hlacks : Lacks flagBuilders true 3 3 := (if_pos rfl).mpr (by decide)
    exact (hburn.lacks 3 rfl).mpr hlacks

end XelisWallet.Prepare
