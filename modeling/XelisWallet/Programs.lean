import Mathlib.Tactic.Common

/-!
Computations on a state that may stop with an error, and rules for reasoning about them.

A computation that stops leaves the state it has reached. The rules have one postcondition, on the
result and the state, so a property of the state at every point where a computation can stop is
proved along with the property of its normal end.
-/

namespace XelisWallet.Programs

variable {ε σ α β : Type}

/-- A computation on states `σ` that returns a value or stops with an error. -/
def Program (ε σ α : Type) : Type := σ → Except ε α × σ

instance : Monad (Program ε σ) where
  pure a s := (.ok a, s)
  bind m f s :=
    match m s with
    | (.ok a, s) => f a s
    | (.error e, s) => (.error e, s)

/-- A computation that does not touch the state. -/
def lift (x : Except ε α) : Program ε σ α := fun s => (x, s)

/-- A value read from the state. -/
def reads (f : σ → α) : Program ε σ α := fun s => (.ok (f s), s)

def modifies (f : σ → σ) : Program ε σ Unit := fun s => (.ok (), f s)

/-- `for a in as { f(a)?; }`. -/
def forEach : List α → (α → Program ε σ Unit) → Program ε σ Unit
  | [], _ => pure ()
  | a :: as, f => do
    f a
    forEach as f

lemma bind_ok {m : Program ε σ α} {f : α → Program ε σ β} {s s' : σ} {a : α}
    (h : m s = (.ok a, s')) : (m >>= f) s = f a s' := by
  simp [bind, h]

lemma bind_error {m : Program ε σ α} {f : α → Program ε σ β} {s s' : σ} {e : ε}
    (h : m s = (.error e, s')) : (m >>= f) s = (.error e, s') := by
  simp [bind, h]

/-- Started in `P`, the computation ends with a result and a state in `Q`. -/
def Triple (P : σ → Prop) (m : Program ε σ α) (Q : Except ε α → σ → Prop) : Prop :=
  ∀ s, P s → Q (m s).1 (m s).2

/-- `R` after a value, and `E` after an error. -/
def OrStop (R : α → σ → Prop) (E : ε → σ → Prop) : Except ε α → σ → Prop
  | .ok a, s => R a s
  | .error e, s => E e s

namespace Triple

variable {P : σ → Prop} {m : Program ε σ α} {f : α → Program ε σ β} {Q : Except ε β → σ → Prop}
  {R : α → σ → Prop}

/-- **One after the other**: a stop of the first computation is a stop of both. -/
theorem bind (hm : Triple P m (OrStop R fun e => Q (.error e))) (hf : ∀ a, Triple (R a) (f a) Q) :
    Triple P (m >>= f) Q := by
  intro s hs
  have h := hm s hs
  rcases hr : m s with ⟨r, s'⟩
  rw [hr] at h
  cases r with
  | error => rwa [bind_error hr]
  | ok a =>
    rw [bind_ok hr]
    exact hf a s' h

theorem lift {x : Except ε β} (h : ∀ s, P s → Q x s) : Triple P (lift x) Q := h

theorem pure {b : β} (h : ∀ s, P s → Q (.ok b) s) : Triple P (pure b) Q := h

theorem mono {Q' : Except ε β → σ → Prop} {m : Program ε σ β} (hm : Triple P m Q)
    (h : ∀ r s, Q r s → Q' r s) : Triple P m Q' := fun s hs => h _ _ (hm s hs)

/-- **The loop rule.** The invariant speaks of the elements done so far. -/
theorem forEach {as : List α} {f : α → Program ε σ Unit} {Q : Except ε Unit → σ → Prop}
    (I : List α → σ → Prop)
    (hf : ∀ (done : List α) (a : α) (rest : List α), as = done ++ a :: rest →
      Triple (I done) (f a) (OrStop (fun _ => I (done ++ [a])) fun e => Q (.error e)))
    (hend : ∀ s, I as s → Q (.ok ()) s) : Triple (I []) (Programs.forEach as f) Q := by
  have key : ∀ rest done, as = done ++ rest → Triple (I done) (Programs.forEach rest f) Q := by
    intro rest
    induction rest with
    | nil =>
      rintro done h s hs
      rw [List.append_nil] at h
      exact hend s (h ▸ hs)
    | cons a rest ih =>
      intro done h
      exact bind (hf done a rest h) fun _ => ih (done ++ [a]) (by simp [h])
  exact key as [] rfl

end Triple

end XelisWallet.Programs
