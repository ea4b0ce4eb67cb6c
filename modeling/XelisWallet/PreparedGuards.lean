import XelisWallet.PreparedStore
import XelisWallet.Runs

/-!
The guards over the prepared-transaction slot, and the system they form with it.

A preparation guard holds the generation of a preparation in progress, a submission guard
the transaction being submitted. Guards live in the tasks of their owners, here in numbered
variables, any number of them; every operation takes the store lock once, so it is one atomic
step of the system. A method that fails without consuming its guard leaves the guard live:
its `Drop` takes the lock again, and is a step of its own.
-/

namespace XelisWallet.PreparedGuards

open Runs PreparedStore

variable {H T : Type} [DecidableEq H]

/-- `PreparedTransactionPreparationGuard`. -/
structure PreparationGuard where
  generation : ℕ
  active : Bool
  deriving DecidableEq, Repr

/-- `PreparedTransactionGuard`. -/
structure SubmissionGuard (H T : Type) where
  generation : ℕ
  hash : H
  transaction : Option T
  deriving DecidableEq, Repr

namespace PreparationGuard

def begin (store : PreparedTransactionStore H T) :
    PreparedResult PreparationGuard × PreparedTransactionStore H T :=
  match store.beginPreparation with
  | (.error e, store) => (.error e, store)
  | (.ok generation, store) => (.ok ⟨generation, true⟩, store)

/-- The result, the store and what is left of the guard to drop. -/
def commit (guard : PreparationGuard) (store : PreparedTransactionStore H T) (hash : H)
    (transaction : T) : PreparedResult ℕ × PreparedTransactionStore H T × PreparationGuard :=
  match store.commitPreparation guard.generation hash transaction with
  | (.error e, store) => (.error e, store, guard)
  | (.ok (), store) => (.ok guard.generation, store, { guard with active := false })

/-- `Drop`, with `false` when it logs that the generation was not abandoned cleanly. -/
def drop (guard : PreparationGuard) (store : PreparedTransactionStore H T) :
    Bool × PreparedTransactionStore H T :=
  if guard.active then store.abandonPreparation guard.generation else (true, store)

end PreparationGuard

namespace SubmissionGuard

def take (store : PreparedTransactionStore H T) (hash : H) :
    PreparedResult (SubmissionGuard H T) × PreparedTransactionStore H T :=
  match store.takeForSubmission hash with
  | (.error e, store) => (.error e, store)
  | (.ok (generation, transaction), store) => (.ok ⟨generation, hash, some transaction⟩, store)

def takeExact (store : PreparedTransactionStore H T) (generation : ℕ) (hash : H) :
    PreparedResult (SubmissionGuard H T) × PreparedTransactionStore H T :=
  match store.takeForSubmissionExact generation hash with
  | (.error e, store) => (.error e, store)
  | (.ok transaction, store) => (.ok ⟨generation, hash, some transaction⟩, store)

/-- The method `transaction`, which borrows what the guard owns. -/
def borrow (guard : SubmissionGuard H T) : PreparedResult T :=
  match guard.transaction with
  | none => .error .emptyGuard
  | some transaction => .ok transaction

/-- The result, the store and what is left of the guard to drop. -/
def restore (guard : SubmissionGuard H T) (store : PreparedTransactionStore H T) :
    PreparedResult Unit × PreparedTransactionStore H T × SubmissionGuard H T :=
  match guard.transaction with
  | none => (.error .emptyGuard, store, guard)
  | some transaction =>
    match store.restoreAfterSubmission guard.generation guard.hash transaction with
    | (r, store) => (r, store, { guard with transaction := none })

/-- The result, the store and what is left of the guard to drop. -/
def finish (guard : SubmissionGuard H T) (store : PreparedTransactionStore H T) :
    PreparedResult T × PreparedTransactionStore H T × SubmissionGuard H T :=
  match guard.transaction with
  | none => (.error .emptyGuard, store, guard)
  | some transaction =>
    match store.finishSubmission guard.generation guard.hash with
    | (false, store) =>
        (.error .submissionStateInconsistent, store, { guard with transaction := some transaction })
    | (true, store) => (.ok transaction, store, { guard with transaction := none })

/-- `Drop`, with the error it logs, if any. -/
def drop (guard : SubmissionGuard H T) (store : PreparedTransactionStore H T) :
    PreparedResult Unit × PreparedTransactionStore H T :=
  match guard.transaction with
  | none => (.ok (), store)
  | some transaction => store.restoreAfterSubmission guard.generation guard.hash transaction

end SubmissionGuard

/-- The store and the guards that are alive, by the variable that holds them. -/
structure World (H T : Type) where
  store : PreparedTransactionStore H T
  preparations : ℕ → Option PreparationGuard
  submissions : ℕ → Option (SubmissionGuard H T)

def World.init : World H T := ⟨.default, fun _ => none, fun _ => none⟩

/-- The operations, each atomic under the store lock; `i` is the variable of a guard. -/
inductive Op (H T : Type)
  | replace (hash : H) (transaction : T)
  | begin (i : ℕ)
  | commit (i : ℕ) (hash : H) (transaction : T)
  | dropPreparation (i : ℕ)
  | cancel (hash : H)
  | cancelExact (generation : ℕ) (hash : H)
  | take (i : ℕ) (hash : H)
  | takeExact (i : ℕ) (generation : ℕ) (hash : H)
  | restore (i : ℕ)
  | finish (i : ℕ)
  | dropSubmission (i : ℕ)
  deriving DecidableEq, Repr

/-- What the caller of an operation sees, and for the `Drop`s what they log. -/
inductive Outcome (T : Type)
  | generation (result : PreparedResult ℕ)
  | transaction (result : PreparedResult T)
  | unit (result : PreparedResult Unit)
  | abandoned (clean : Bool)

/-- A guard that its `Drop` would no longer act on is gone. -/
def PreparationGuard.live (guard : PreparationGuard) : Option PreparationGuard :=
  if guard.active then some guard else none

def SubmissionGuard.live (guard : SubmissionGuard H T) : Option (SubmissionGuard H T) :=
  if guard.transaction.isSome then some guard else none

omit [DecidableEq H] in
@[simp] lemma SubmissionGuard.live_none (g : ℕ) (h : H) :
    (⟨g, h, none⟩ : SubmissionGuard H T).live = none := rfl

/-- One operation, unless its guard variable is not in the state it needs. -/
def step (w : World H T) : Op H T → Option (World H T × Outcome T)
  | .replace hash transaction =>
      let r := w.store.replace hash transaction
      some ({ w with store := r.2 }, .generation r.1)
  | .begin i =>
    match w.preparations i with
    | some _ => none
    | none =>
      match PreparationGuard.begin w.store with
      | (.error e, store) => some ({ w with store }, .generation (.error e))
      | (.ok guard, store) =>
          some ({ w with store, preparations := Function.update w.preparations i (some guard) },
            .generation (.ok guard.generation))
  | .commit i hash transaction =>
    match w.preparations i with
    | none => none
    | some guard =>
      let r := guard.commit w.store hash transaction
      some ({ w with
        store := r.2.1, preparations := Function.update w.preparations i r.2.2.live },
        .generation r.1)
  | .dropPreparation i =>
    match w.preparations i with
    | none => none
    | some guard =>
      let r := guard.drop w.store
      some ({ w with store := r.2, preparations := Function.update w.preparations i none },
        .abandoned r.1)
  | .cancel hash =>
      let r := w.store.cancel hash
      some ({ w with store := r.2 }, .transaction r.1)
  | .cancelExact generation hash =>
      let r := w.store.cancelExact generation hash
      some ({ w with store := r.2 }, .transaction r.1)
  | .take i hash =>
    match w.submissions i with
    | some _ => none
    | none =>
      match SubmissionGuard.take w.store hash with
      | (.error e, store) => some ({ w with store }, .unit (.error e))
      | (.ok guard, store) =>
          some ({ w with store, submissions := Function.update w.submissions i (some guard) },
            .unit (.ok ()))
  | .takeExact i generation hash =>
    match w.submissions i with
    | some _ => none
    | none =>
      match SubmissionGuard.takeExact w.store generation hash with
      | (.error e, store) => some ({ w with store }, .unit (.error e))
      | (.ok guard, store) =>
          some ({ w with store, submissions := Function.update w.submissions i (some guard) },
            .unit (.ok ()))
  | .restore i =>
    match w.submissions i with
    | none => none
    | some guard =>
      let r := guard.restore w.store
      some ({ w with store := r.2.1, submissions := Function.update w.submissions i r.2.2.live },
        .unit r.1)
  | .finish i =>
    match w.submissions i with
    | none => none
    | some guard =>
      let r := guard.finish w.store
      some ({ w with store := r.2.1, submissions := Function.update w.submissions i r.2.2.live },
        .transaction r.1)
  | .dropSubmission i =>
    match w.submissions i with
    | none => none
    | some guard =>
      let r := guard.drop w.store
      some ({ w with store := r.2, submissions := Function.update w.submissions i none },
        .unit r.1)

/-- The store with its guards as a transition system. -/
def prepared (H T : Type) [DecidableEq H] : System (World H T) (Op H T × Outcome T) where
  init w := w = World.init
  step w l w' := step w l.1 = some (w', l.2)

lemma reachable_step {w w' : World H T} (h : Reachable (prepared H T) w) (op : Op H T)
    {out : Outcome T} (hs : step w op = some (w', out)) : Reachable (prepared H T) w' :=
  h.step (l := (op, out)) hs

end XelisWallet.PreparedGuards
