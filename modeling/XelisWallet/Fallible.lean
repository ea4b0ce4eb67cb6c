import Mathlib.Data.List.Forall2

/-!
Computations that stop at their first error, in the style of `ensure!`, `context` and `?`.

The lemmas say when such a computation returns a value, so that a function written with them turns
into the conjunction of its checks.
-/

namespace XelisWallet.Fallible

variable {ε α β : Type}

/-- `ensure!`: goes on only under a condition. -/
def ensure (c : Prop) [Decidable c] (error : ε) : Except ε Unit :=
  if c then .ok () else .error error

/-- `context` and `ok_or`: goes on only with a value. -/
def context (a : Option α) (error : ε) : Except ε α :=
  match a with
  | some a => .ok a
  | none => .error error

variable {x : Except ε α} {b : β} {a : α} {error e : ε} {as : List α} {bs : List β}
  {R : α → β → Prop}

lemma bind_eq_ok {k : α → Except ε β} : x >>= k = .ok b ↔ ∃ a, x = .ok a ∧ k a = .ok b := by
  cases x with
  | error | ok => simp [bind, Except.bind]

lemma ok_bind (a : α) (k : α → Except ε β) : (Except.ok a >>= k) = k a := rfl

lemma error_bind (e : ε) (k : α → Except ε β) : (Except.error e >>= k) = .error e := rfl

lemma pure_eq_ok {b : α} : (pure a : Except ε α) = .ok b ↔ a = b := by
  simp [pure, Except.pure]

lemma ensure_eq_ok {c : Prop} [Decidable c] {u : Unit} : ensure c error = .ok u ↔ c := by
  unfold ensure
  split
  case isTrue hc => simp [hc]
  case isFalse hc => simp [hc]

lemma context_eq_ok {o : Option α} : context o error = .ok a ↔ o = some a := by
  cases o <;> simp [context]

lemma mapError_eq_ok {ε' : Type} {f : ε → ε'} : x.mapError f = .ok a ↔ x = .ok a := by
  cases x <;> simp [Except.mapError]

lemma toOption_eq_some : x.toOption = some a ↔ x = .ok a := by
  cases x <;> simp [Except.toOption]

lemma bind_eq_error {k : α → Except ε β} :
    x >>= k = .error e ↔ x = .error e ∨ ∃ a, x = .ok a ∧ k a = .error e := by
  cases x with
  | error | ok => simp [bind, Except.bind]

lemma ensure_eq_error {c : Prop} [Decidable c] : ensure c error = .error e ↔ ¬ c ∧ error = e := by
  unfold ensure
  split
  case isTrue hc => simp [hc]
  case isFalse hc => simp [hc]

lemma context_eq_error {o : Option α} : context o error = .error e ↔ o = none ∧ error = e := by
  cases o <;> simp [context]

lemma mapM_eq_ok {f : α → Except ε β} :
    as.mapM f = .ok bs ↔ List.Forall₂ (fun a b => f a = .ok b) as bs := by
  induction as generalizing bs with
  | nil =>
    rw [List.mapM_nil, pure_eq_ok, List.forall₂_nil_left_iff]
    exact eq_comm
  | cons a as ih =>
    simp only [List.mapM_cons, bind_eq_ok, pure_eq_ok, List.forall₂_cons_left_iff, ih]
    constructor
    · rintro ⟨b, hb, bs, hbs, rfl⟩
      exact ⟨b, bs, hb, hbs, rfl⟩
    · rintro ⟨b, bs, hb, hbs, rfl⟩
      exact ⟨b, hb, bs, hbs, rfl⟩

lemma forall₂_getElem? (h : List.Forall₂ R as bs) {i : ℕ} (ha : as[i]? = some a)
    (hb : bs[i]? = some b) : R a b := by
  obtain ⟨hi, rfl⟩ := List.getElem?_eq_some_iff.mp ha
  obtain ⟨hi', rfl⟩ := List.getElem?_eq_some_iff.mp hb
  exact h.get hi hi'

lemma exists_forall₂ (h : ∀ a ∈ as, ∃ b, R a b) : ∃ bs, List.Forall₂ R as bs := by
  induction as with
  | nil => exact ⟨[], .nil⟩
  | cons a as ih =>
    obtain ⟨b, hb⟩ := h a List.mem_cons_self
    obtain ⟨bs, hbs⟩ := ih fun a ha => h a (List.mem_cons_of_mem _ ha)
    exact ⟨b :: bs, .cons hb hbs⟩

lemma forall_of_forall₂ {P : β → Prop} (h : List.Forall₂ (fun _ b => P b) as bs) :
    ∀ b ∈ bs, P b := by
  induction h with
  | nil => simp
  | cons hb _ ih => exact List.forall_mem_cons.mpr ⟨hb, ih⟩

lemma mem_forall₂ (h : List.Forall₂ R as bs) (hR : ∀ a b b', R a b → R a b' → b = b') :
    b ∈ bs ↔ ∃ a ∈ as, R a b := by
  induction h with
  | nil => simp
  | @cons a b' as bs hab _ ih =>
    have hhead : R a b ↔ b = b' := ⟨fun h => hR a b b' h hab, fun h => h ▸ hab⟩
    simp only [List.mem_cons, ih, or_and_right, exists_or, exists_eq_left, hhead]

lemma nodup_of_forall₂ (h : List.Forall₂ R as bs) (hnodup : as.Nodup)
    (hR : ∀ a ∈ as, ∀ a' ∈ as, ∀ b, R a b → R a' b → a = a') : bs.Nodup := by
  induction h with
  | nil => exact List.nodup_nil
  | @cons a b as bs hab htail ih =>
    obtain ⟨hnew, hnodup⟩ := List.nodup_cons.mp hnodup
    refine List.nodup_cons.mpr ⟨fun hb => hnew ?_, ih hnodup fun x hx y hy =>
      hR x (List.mem_cons_of_mem _ hx) y (List.mem_cons_of_mem _ hy)⟩
    obtain ⟨i, hi, rfl⟩ := List.mem_iff_getElem.mp hb
    have hi' : i < as.length := by rwa [htail.length_eq]
    have hmem : as[i] ∈ as := List.getElem_mem hi'
    rwa [hR a List.mem_cons_self _ (List.mem_cons_of_mem _ hmem) _ hab (htail.get hi' hi)]

end XelisWallet.Fallible
