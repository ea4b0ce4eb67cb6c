import XelisWallet.BuildersSpec
import XelisWallet.PrepareFlows

/-!
When the parts of a preparation go through, in an environment that answers every question in
one way.
-/

namespace XelisWallet.Prepare

open Fallible NativeError Builders Flows Flow
open Multisig hiding TransferBuilder TransactionTypeBuilder

variable {T : Types} {S : BuilderSuite T} {env : ∀ q : Question T, Answer q}

lemma orPreparedError_eq_ok {α : Type} {result : PreparedStore.PreparedResult α} {a : α} :
    orPreparedError result = .ok a ↔ result = .ok a :=
  mapError_eq_ok

lemma insufficient_eq_ok {α : Type} {nativeKind : String} {result : Except String α} {a : α} :
    insufficient nativeKind result = .ok a ↔ result = .ok a :=
  mapError_eq_ok

lemma run_beginPreparation_eq_ok {guard : ℕ} :
    (beginPreparation : WalletFlow T ℕ).run env = .ok guard ↔ env .begin = .ok guard := by
  rw [beginPreparation, run_bind, run_request, Fallible.ok_bind, run_lift]
  exact orPreparedError_eq_ok

lemma run_readBalance_eq_ok {asset : T.Hash} {nativeKind : String} {balance : UInt64} :
    (readBalance asset nativeKind : WalletFlow T UInt64).run env = .ok balance ↔
      env (.balance asset) = some balance := by
  rw [readBalance, run_bind, run_request, Fallible.ok_bind, run_lift]
  exact context_eq_ok

lemma run_createAndCommit_eq_ok {transactionType : TransactionTypeBuilder T}
    {transaction : NativePreparedTransactionKind}
    {reviewExtraData : List (Option NativePreparedTransferExtraData)} {targetFee : UInt64}
    {prepared : NativePreparedTransaction} :
    (createAndCommitPreparedTransaction S transactionType transaction reviewExtraData
        targetFee).run env = .ok prepared ↔
      ∃ tx state, env (.createTransaction transactionType targetFee) = some (tx, state) ∧
        tx.fee = targetFee ∧
        ∃ preparationId,
          env (.commit (S.transactionHash tx) ⟨tx, state, reviewExtraData⟩) = .ok preparationId ∧
          prepared = ⟨S.hashHex.toText (S.transactionHash tx), preparationId, tx.fee,
            transaction⟩ := by
  simp only [createAndCommitPreparedTransaction, run_bind, run_request, Fallible.ok_bind, run_lift,
    bind_eq_ok, context_eq_ok, ensure_eq_ok, exists_const, orPreparedError_eq_ok, run_pure,
    Except.ok.injEq, Prod.exists]
  constructor
  all_goals
    rintro ⟨tx, state, hcreated, hfee, preparationId, hcommitted, rfl⟩
    exact ⟨tx, state, hcreated, hfee, preparationId, hcommitted, rfl⟩

/-! ### A small suite -/

/-- The small suite, with normal addresses only. -/
def flagBuilders : BuilderSuite flagTypes where
  toSuite := flagRequests
  xelisAsset := true
  isNormal _ := true
  extractData address := (none, address)
  stringElement _ := ()
  fromXelis _ := .array []

instance : DecidableEq flagTypes.Address := inferInstanceAs (DecidableEq Bool)

end XelisWallet.Prepare
