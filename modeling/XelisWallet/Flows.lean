import Mathlib.Tactic.Common

/-!
Asynchronous computations that may stop with an error.

A flow returns, or asks its surroundings for something and waits; it goes on with the answer. Who
answers is not part of the flow: a property of a flow holds whatever the answers are, unless it
is about one environment that answers every question in one way.
-/

namespace XelisWallet.Flows

variable {ε Q : Type} {R : Q → Type} {α β : Type}

/-- A flow with errors `ε` that asks questions `q` and is answered with values of `R q`. -/
inductive Flow (ε Q : Type) (R : Q → Type) (α : Type)
  | done (result : Except ε α)
  | ask (q : Q) (k : R q → Flow ε Q R α)

namespace Flow

protected def bind : Flow ε Q R α → (α → Flow ε Q R β) → Flow ε Q R β
  | done (.ok a), f => f a
  | done (.error e), _ => done (.error e)
  | ask q k, f => ask q fun r => (k r).bind f

instance : Monad (Flow ε Q R) where
  pure a := done (.ok a)
  bind := Flow.bind

/-- A computation that asks for nothing. -/
def lift (x : Except ε α) : Flow ε Q R α := done x

/-- A question, as a flow that returns the answer. -/
def request (q : Q) : Flow ε Q R (R q) := ask q fun r => done (.ok r)

@[simp] lemma ok_bind (a : α) (f : α → Flow ε Q R β) : (lift (.ok a) >>= f) = f a := rfl

@[simp] lemma error_bind (e : ε) (f : α → Flow ε Q R β) :
    (lift (.error e) >>= f) = lift (.error e) := rfl

@[simp] lemma request_bind (q : Q) (f : R q → Flow ε Q R β) : (request q >>= f) = ask q f := rfl

/-! ### Whatever is answered -/

/-- Whatever is answered, every question is in `P` and every result in `E`. -/
def Always (P : Q → Prop) (E : Except ε α → Prop) : Flow ε Q R α → Prop
  | done r => E r
  | ask q k => P q ∧ ∀ r, (k r).Always P E

/-- With some answers the flow asks the question. -/
inductive Asks : Flow ε Q R α → Q → Prop
  | here (q : Q) (k : R q → Flow ε Q R α) : Asks (ask q k) q
  | later {q q' : Q} {k : R q → Flow ε Q R α} (r : R q) : Asks (k r) q' → Asks (ask q k) q'

section Always

variable {P : Q → Prop} {E : Except ε β → Prop} {m : Flow ε Q R α} {f : α → Flow ε Q R β}

lemma Always.asks {E : Except ε α → Prop} (h : m.Always P E) {q : Q} (hq : m.Asks q) : P q := by
  induction hq with
  | here => exact h.1
  | later r _ ih => exact ih (h.2 r)

lemma Always.lift_bind {x : Except ε α} (hok : ∀ a, x = .ok a → (f a).Always P E)
    (herror : ∀ e, x = .error e → E (.error e)) : (lift x >>= f).Always P E := by
  cases x with
  | ok a => exact hok a rfl
  | error e => exact herror e rfl

end Always

/-! ### One environment -/

section Environment

variable (env : ∀ q, R q)

/-- The result when every question is answered by the environment. -/
def run : Flow ε Q R α → Except ε α
  | done r => r
  | ask q k => (k (env q)).run

@[simp] lemma run_lift (x : Except ε α) : (lift x : Flow ε Q R α).run env = x := rfl

@[simp] lemma run_pure (a : α) : (pure a : Flow ε Q R α).run env = .ok a := rfl

@[simp] lemma run_request (q : Q) : (request q : Flow ε Q R (R q)).run env = .ok (env q) := rfl

@[simp] lemma run_bind (m : Flow ε Q R α) (f : α → Flow ε Q R β) :
    (m >>= f).run env = m.run env >>= fun a => (f a).run env := by
  induction m with
  | done r => cases r <;> rfl
  | ask q k ih => exact ih (env q)

end Environment

end Flow

end XelisWallet.Flows
