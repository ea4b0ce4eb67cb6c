import XelisWallet.PrepareSpec
import XelisWallet.PreparedLife

/-!
Preparations while they run.

Five functions prepare a transaction. Each takes the slot with a guard, waits for the storage and
the library, and commits; if it fails or its caller drops it while it waits, the guard gives the
slot back. Any number of them run beside each other and beside the other operations of the slot.
A running function is the rest of its flow; its guard is in the variable of its number.
-/

namespace XelisWallet.Prepare

open Runs Fallible NativeError Builders PreparedStore PreparedGuards PreparedInv Flows Flow
open Multisig hiding TransferBuilder TransactionTypeBuilder
open MultisigFinalize (preparationVariable)

variable {T : Types}

/-! ### The functions -/

inductive Preparation
  | transfers (transfers : List NativeTransactionTransferRequest)
      (feePolicy : NativeTransactionFeePolicy)
  | transferAll (destination asset : String) (extraData : Option String) (encryptExtraData : Bool)
      (feePolicy : NativeTransactionFeePolicy)
  | burn (amount : UInt64) (asset : String) (feePolicy : NativeTransactionFeePolicy)
  | burnAll (asset : String) (feePolicy : NativeTransactionFeePolicy)
  | multisigSetup (threshold : UInt8) (participants : List String)
      (feePolicy : NativeTransactionFeePolicy)

/-- The wallet that prepares. -/
structure Preparer (T : Types) where
  suite : BuilderSuite T
  mainnet : Bool
  publicKey : T.Key

def Preparation.flow [DecidableEq T.Address] (P : Preparer T) :
    Preparation → WalletFlow T NativePreparedTransaction
  | transfers requests feePolicy => prepareTransfersTransaction P.suite requests feePolicy
  | transferAll destination asset extraData encryptExtraData feePolicy =>
    prepareTransferAllTransaction P.suite destination asset extraData encryptExtraData feePolicy
  | burn amount asset feePolicy => prepareBurnTransaction P.suite amount asset feePolicy
  | burnAll asset feePolicy => prepareBurnAllTransaction P.suite asset feePolicy
  | multisigSetup threshold participants feePolicy =>
    Prepare.multisigSetup P.suite P.mainnet P.publicKey threshold participants feePolicy

/-- The questions at which a function waits; the others are methods of the guard. -/
def Question.awaits : Question T → Bool
  | .begin | .commit _ _ => false
  | _ => true

/-- What a function that waits is told. -/
inductive Reply (T : Types)
  | balance (balance : Option UInt64)
  | multisigState (state : Option (Option (MultiSigPayload T)))
  | fees (baseFee : Option UInt64)
  | created (created : Option (Transaction T × T.BuilderState))

def Reply.answer : (q : Question T) → Reply T → Option (Answer q)
  | .balance _, .balance r => some r
  | .multisigState, .multisigState r => some r
  | .estimateFees _, .fees r => some r
  | .createTransaction _ _, .created r => some r
  | _, _ => none

/-! ### The system -/

abbrev SlotWorld (T : Types) := World T.Hash (PreparedWalletTransaction T)

/-- The slot with its guards, and the functions that run. -/
structure Calls (T : Types) where
  world : SlotWorld T
  calls : ℕ → Option (WalletFlow T NativePreparedTransaction)

def Calls.init : Calls T := ⟨World.init, fun _ => none⟩

inductive Action (T : Types)
  | call (i : ℕ) (preparation : Preparation)
  | begin (i : ℕ)
  | commit (i : ℕ)
  | answer (i : ℕ) (reply : Reply T)
  /-- The function returns. -/
  | finish (i : ℕ)
  /-- The future is dropped at an await. -/
  | drop (i : ℕ)
  /-- Anything else that uses the slot. -/
  | other (op : Op T.Hash (PreparedWalletTransaction T))

namespace Calls

/-- The locals of a function are dropped, its guard among them. -/
def release (s : Calls T) (i : ℕ) : Calls T where
  world :=
    match PreparedGuards.step s.world (.dropPreparation i) with
    | some (world, _) => world
    | none => s.world
  calls := Function.update s.calls i none

def step [DecidableEq T.Address] (P : Preparer T) (s : Calls T) : Action T → Option (Calls T)
  | .call i preparation =>
    if (s.calls i).isSome ∨ (s.world.preparations i).isSome then none
    else some { s with calls := Function.update s.calls i (some (preparation.flow P)) }
  | .begin i =>
    match s.calls i with
    | some (.ask .begin k) =>
      match PreparedGuards.step s.world (.begin i) with
      | some (world, .generation result) =>
        some ⟨world, Function.update s.calls i (some (k result))⟩
      | _ => none
    | _ => none
  | .commit i =>
    match s.calls i with
    | some (.ask (.commit hash transaction) k) =>
      match PreparedGuards.step s.world (.commit i hash transaction) with
      | some (world, .generation result) =>
        some ⟨world, Function.update s.calls i (some (k result))⟩
      | _ => none
    | _ => none
  | .answer i reply =>
    match s.calls i with
    | some (.ask q k) =>
      (reply.answer q).map fun r => { s with calls := Function.update s.calls i (some (k r)) }
    | _ => none
  | .finish i =>
    match s.calls i with
    | some (.done _) => some (s.release i)
    | _ => none
  | .drop i =>
    match s.calls i with
    | some (.ask q _) => if q.awaits then some (s.release i) else none
    | _ => none
  | .other op =>
    if (preparationVariable op).any fun i => (s.calls i).isSome then none
    else (PreparedGuards.step s.world op).map fun r => { s with world := r.1 }

end Calls

/-- The preparations of a wallet as a transition system. -/
def preparing [DecidableEq T.Address] (P : Preparer T) : System (Calls T) (Action T) where
  init s := s = Calls.init
  step s a s' := s.step P a = some s'

/-! ### What a flow does with its guard -/

section Discipline

variable {α β : Type}

/-- The rest of a flow that has the guard: it only waits, fails, or ends with a commit. -/
inductive Holding : WalletFlow T α → Prop
  | failed (e : NativeXelisError) : Holding (.done (.error e))
  | commit {hash : T.Hash} {transaction : PreparedWalletTransaction T}
      {k : PreparedResult ℕ → WalletFlow T α} (hok : ∀ id, ∃ a, k (.ok id) = .done (.ok a))
      (herror : ∀ e, ∃ e', k (.error e) = .done (.error e')) :
      Holding (.ask (.commit hash transaction) k)
  | await {q : Question T} {k : Answer q → WalletFlow T α} (hq : q.awaits = true)
      (h : ∀ r, Holding (k r)) : Holding (.ask q k)

/-- The rest of a flow that does not have the guard yet: it waits, fails, or takes the guard. -/
inductive Starting : WalletFlow T α → Prop
  | failed (e : NativeXelisError) : Starting (.done (.error e))
  | begin {k : PreparedResult ℕ → WalletFlow T α} (hok : ∀ g, Holding (k (.ok g)))
      (herror : ∀ e, ∃ e', k (.error e) = .done (.error e')) : Starting (.ask .begin k)
  | await {q : Question T} {k : Answer q → WalletFlow T α} (hq : q.awaits = true)
      (h : ∀ r, Starting (k r)) : Starting (.ask q k)

lemma Holding.lift_bind {x : Except NativeXelisError β} {f : β → WalletFlow T α}
    (h : ∀ b, Holding (f b)) : Holding ((lift x : WalletFlow T β) >>= f) := by
  cases x with
  | ok b => exact h b
  | error e => exact .failed e

lemma Starting.lift_bind {x : Except NativeXelisError β} {f : β → WalletFlow T α}
    (h : ∀ b, Starting (f b)) : Starting ((lift x : WalletFlow T β) >>= f) := by
  cases x with
  | ok b => exact h b
  | error e => exact .failed e

lemma holding_request {q : Question T} {f : Answer q → WalletFlow T α} (hq : q.awaits = true)
    (h : ∀ r, Holding (f r)) : Holding (request q >>= f) :=
  .await hq h

lemma starting_request {q : Question T} {f : Answer q → WalletFlow T α} (hq : q.awaits = true)
    (h : ∀ r, Starting (f r)) : Starting (request q >>= f) :=
  .await hq h

lemma starting_beginPreparation {f : ℕ → WalletFlow T α} (h : ∀ g, Holding (f g)) :
    Starting (beginPreparation >>= f) :=
  .begin (k := fun guard => lift (orPreparedError guard) >>= f) h fun _ => ⟨_, rfl⟩

lemma holding_readBalance {asset : T.Hash} {nativeKind : String} {f : UInt64 → WalletFlow T α}
    (h : ∀ balance, Holding (f balance)) : Holding (readBalance asset nativeKind >>= f) :=
  holding_request rfl fun _ => Holding.lift_bind (f := f) h

lemma holding_estimateTargetFee {transactionType : TransactionTypeBuilder T}
    {feePolicy : NativeTransactionFeePolicy} {f : UInt64 → WalletFlow T α}
    (h : ∀ fee, Holding (f fee)) : Holding (estimateTargetFee transactionType feePolicy >>= f) := by
  refine holding_request rfl fun baseFee => ?_
  cases baseFee with
  | none => exact .failed _
  | some => exact Holding.lift_bind (f := f) h

lemma holding_createAndCommit {S : BuilderSuite T} {transactionType : TransactionTypeBuilder T}
    {transaction : NativePreparedTransactionKind}
    {reviewExtraData : List (Option NativePreparedTransferExtraData)} {targetFee : UInt64} :
    Holding (createAndCommitPreparedTransaction S transactionType transaction reviewExtraData
      targetFee) := by
  refine holding_request rfl fun _ => Holding.lift_bind fun _ => Holding.lift_bind fun _ => ?_
  rw [Flow.request_bind]
  exact .commit (fun _ => ⟨_, rfl⟩) fun _ => ⟨_, rfl⟩

/-- **Every preparation** takes the guard once, and a commit is the last it does with it. -/
lemma Preparation.starting [DecidableEq T.Address] (P : Preparer T) (preparation : Preparation) :
    Starting (preparation.flow P) := by
  cases preparation with
  | transfers =>
    refine Starting.lift_bind fun _ => starting_beginPreparation fun _ => ?_
    refine Holding.lift_bind fun _ => holding_estimateTargetFee fun _ => ?_
    exact holding_createAndCommit
  | transferAll =>
    refine Starting.lift_bind fun _ => starting_beginPreparation fun _ => ?_
    refine Holding.lift_bind fun _ => Holding.lift_bind fun _ => holding_readBalance fun _ => ?_
    refine Holding.lift_bind fun _ => holding_estimateTargetFee fun _ => ?_
    refine Holding.lift_bind fun _ => Holding.lift_bind fun _ => Holding.lift_bind fun _ => ?_
    exact holding_createAndCommit
  | burn =>
    refine Starting.lift_bind fun _ => starting_beginPreparation fun _ => ?_
    refine Holding.lift_bind fun _ => Holding.lift_bind fun _ => ?_
    exact holding_estimateTargetFee fun _ => holding_createAndCommit
  | burnAll =>
    refine Starting.lift_bind fun _ => starting_beginPreparation fun _ => ?_
    refine Holding.lift_bind fun _ => holding_readBalance fun _ => ?_
    refine Holding.lift_bind fun _ => holding_estimateTargetFee fun _ => ?_
    exact Holding.lift_bind fun _ => Holding.lift_bind fun _ => holding_createAndCommit
  | multisigSetup =>
    refine Starting.lift_bind fun _ => Starting.lift_bind fun _ => Starting.lift_bind fun _ => ?_
    -- the state is read before the guard is taken
    refine starting_request rfl fun _ => Starting.lift_bind fun _ => Starting.lift_bind fun _ => ?_
    refine starting_beginPreparation fun _ => ?_
    exact holding_estimateTargetFee fun _ => holding_createAndCommit

end Discipline

end XelisWallet.Prepare
