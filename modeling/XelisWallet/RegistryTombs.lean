import XelisWallet.RegistrySpec

/-!
States that a registry has shut out for good.

A state is shut when its entry is inactive, or when it has no entry and the counter is
exhausted so that it can never get one. Whatever the users of a registry do, a shut state stays
shut: it is never registered again and no reference resolves to it.
-/

namespace XelisWallet.RegistryTombs

open Checked Registry RegistrySpec

variable {α : Type} [DecidableEq α]

/-- What an operation on a registry, or another registry of the process, may do to it. -/
inductive Effect (alive : α → Bool) (reg : SessionRegistry α) (next : ℕ) :
    SessionRegistry α → ℕ → Prop
  | swept : Effect alive reg next (reg.removeDead alive) next
  | added (t : α) (b : Bool) (ht : alive t = true) (hv : view reg t = none)
      (hn : next + 1 ≤ u64Max) :
      Effect alive reg next ((reg.removeDead alive).insert next ⟨t, b⟩) (next + 1)
  | deactivated (p : α → Bool) : Effect alive reg next ((reg.removeDead alive).deactivate p) next
  | drawn (hn : next + 1 ≤ u64Max) : Effect alive reg next reg (next + 1)

/-- Any number of operations, one after the other. -/
inductive Effects (alive : α → Bool) (reg : SessionRegistry α) (next : ℕ) :
    SessionRegistry α → ℕ → Prop
  | refl : Effects alive reg next reg next
  | tail {reg₁ reg₂ : SessionRegistry α} {next₁ next₂ : ℕ} :
      Effects alive reg next reg₁ next₁ → Effect alive reg₁ next₁ reg₂ next₂ →
      Effects alive reg next reg₂ next₂

/-- A state that can have no active entry: it died, its entry is inactive, or it has none and
no reference is left. -/
def Shut (alive : α → Bool) (reg : SessionRegistry α) (next : ℕ) (s : α) : Prop :=
  alive s = false ∨ (∃ r, view reg s = some (r, false)) ∨
    (view reg s = none ∧ u64Max < next + 1)

variable {alive alive' : α → Bool} {reg reg' : SessionRegistry α} {next next' : ℕ} {s t : α}

lemma Effect.wf (h : Wf reg next) (he : Effect alive reg next reg' next') : Wf reg' next' := by
  have hw := wf_removeDead h alive
  cases he with
  | swept => exact hw
  | added t b ht hv =>
    refine wf_insert hw ?_ b
    rwa [view_removeDead h, if_pos ht]
  | deactivated p => exact wf_deactivate hw p
  | drawn => exact h.mono (Nat.le_succ _)

lemma Effect.next_le (he : Effect alive reg next reg' next') : next ≤ next' := by
  cases he <;> omega

/-- **A shut state stays shut**, whatever is done to the registry. -/
theorem Effect.shut (h : Wf reg next) (he : Effect alive reg next reg' next')
    (hs : Shut alive reg next s) : Shut alive reg' next' s := by
  have hw := wf_removeDead h alive
  by_cases ha : alive s = true
  · have hv : view (reg.removeDead alive) s = view reg s := by rw [view_removeDead h, if_pos ha]
    obtain hs | ⟨r, hr⟩ | ⟨hnone, hmax⟩ := hs
    · rw [ha] at hs
      cases hs
    · -- an inactive entry: a new one is for another state
      refine .inr (.inl ⟨r, ?_⟩)
      cases he with
      | swept => exact hv.trans hr
      | added t b ht hvt =>
        have hts : t ≠ s := by
          rintro rfl
          rw [hr] at hvt
          cases hvt
        rw [view_insert hw, if_neg hts]
        exact hv.trans hr
      | deactivated =>
        rw [view_deactivate, hv, hr]
        rfl
      | drawn => exact hr
    · -- no entry: nothing can be added any more
      refine .inr (.inr ?_)
      cases he with
      | swept => exact ⟨hv.trans hnone, hmax⟩
      | added | drawn => omega
      | deactivated =>
        rw [view_deactivate, hv, hnone]
        exact ⟨rfl, hmax⟩
  · exact .inl (by simpa using ha)

lemma Effect.effects (he : Effect alive reg next reg' next') : Effects alive reg next reg' next' :=
  .tail .refl he

lemma Effects.trans {reg₁ reg₂ : SessionRegistry α} {next₁ next₂ : ℕ}
    (h₁ : Effects alive reg next reg₁ next₁) (h₂ : Effects alive reg₁ next₁ reg₂ next₂) :
    Effects alive reg next reg₂ next₂ := by
  induction h₂ with
  | refl => exact h₁
  | tail _ he ih => exact ih.tail he

lemma Effects.wf (h : Wf reg next) (he : Effects alive reg next reg' next') : Wf reg' next' := by
  induction he with
  | refl => exact h
  | tail _ he ih => exact he.wf ih

lemma Effects.next_le (he : Effects alive reg next reg' next') : next ≤ next' := by
  induction he with
  | refl => exact Nat.le_refl _
  | tail _ he ih => exact Nat.le_trans ih he.next_le

lemma Effects.shut (h : Wf reg next) (he : Effects alive reg next reg' next')
    (hs : Shut alive reg next s) : Shut alive reg' next' s := by
  induction he with
  | refl => exact hs
  | tail hes he ih => exact he.shut (hes.wf h) ih

lemma Shut.mono (h : Shut alive reg next s) (ha : ∀ s, alive' s = true → alive s = true) :
    Shut alive' reg next s := by
  obtain h | h := h
  · left
    by_contra hne
    rw [ha s (by simpa using hne)] at h
    cases h
  · exact .inr h

/-! ### The operations -/

variable (h : Wf reg next)
include h

variable (hs : alive s = true)
include hs

lemma effect_project :
    Effect alive reg next (reg.project alive next s).2.1 (reg.project alive next s).2.2 := by
  rcases project_cases h hs with ⟨r, b, hv, hp⟩ | ⟨hv, hn, hp⟩ | ⟨hv, hn, hp⟩ <;> rw [hp]
  · exact .swept
  · exact .added s true hs hv hn
  · exact .swept

lemma effect_register :
    Effect alive reg next (reg.register alive next s).2.1 (reg.register alive next s).2.2 := by
  rcases register_cases h hs with ⟨r, hv, hp⟩ | ⟨r, hv, hp⟩ | ⟨hv, hn, hp⟩ | ⟨hv, hn, hp⟩ <;>
    rw [hp]
  · exact .swept
  · exact .swept
  · exact .added s true hs hv hn
  · exact .swept

lemma effect_invalidateState : Effect alive reg next
    (reg.invalidateState alive next s).1 (reg.invalidateState alive next s).2 := by
  rcases invalidateState_cases h hs with ⟨r, b, hv, hp⟩ | ⟨hv, hn, hp⟩ | ⟨hv, hn, hp⟩ <;> rw [hp]
  · exact .deactivated fun t => decide (t = s)
  · exact .added s false hs hv hn
  · exact .swept

/-- An invalidated state is shut. -/
theorem shut_invalidateState :
    Shut alive (reg.invalidateState alive next s).1 (reg.invalidateState alive next s).2 s := by
  have hw := wf_removeDead h alive
  have hdead : view (reg.removeDead alive) s = view reg s := by rw [view_removeDead h, if_pos hs]
  rcases invalidateState_cases h hs with ⟨r, b, hv, hp⟩ | ⟨hv, hn, hp⟩ | ⟨hv, hn, hp⟩ <;> rw [hp]
  · refine .inr (.inl ⟨r, ?_⟩)
    rw [view_deactivate, hdead, hv]
    simp
  · refine .inr (.inl ⟨next, ?_⟩)
    rw [view_insert hw, if_pos rfl]
  · exact .inr (.inr ⟨hdead.trans hv, hn⟩)

/-- A shut state is not registered. -/
theorem register_of_shut (hshut : Shut alive reg next s) :
    ∃ e, (reg.register alive next s).1 = .error e := by
  obtain hd | ⟨r, hr⟩ | ⟨hnone, hmax⟩ := hshut
  · rw [hs] at hd
    cases hd
  · obtain ⟨r', hv, hp⟩ | ⟨r', hv, hp⟩ | ⟨hv, hn, hp⟩ | ⟨hv, hn, hp⟩ := register_cases h hs
    · rw [hr] at hv
      cases hv
    · exact ⟨_, by rw [hp]⟩
    · rw [hr] at hv
      cases hv
    · exact ⟨_, by rw [hp]⟩
  · obtain ⟨r', hv, hp⟩ | ⟨r', hv, hp⟩ | ⟨hv, hn, hp⟩ | ⟨hv, hn, hp⟩ := register_cases h hs
    · rw [hnone] at hv
      cases hv
    · exact ⟨_, by rw [hp]⟩
    · omega
    · exact ⟨_, by rw [hp]⟩

omit hs

/-- A reference does not resolve to a shut state. -/
theorem resolve_ne_of_shut (hshut : Shut alive reg next s) (later : α → Bool)
    (r : ℕ) : (reg.resolve alive later r).1 ≠ some s := by
  intro hr
  obtain ⟨hv, ha, -⟩ := (resolve_eq_some h).mp hr
  obtain hd | ⟨r', hr'⟩ | ⟨hnone, -⟩ := hshut
  · rw [ha] at hd
    cases hd
  · rw [hr'] at hv
    cases hv
  · rw [hnone] at hv
    cases hv

/-- A live state has a reference as long as the counter is not exhausted. -/
theorem project_ok (hs : alive s = true) (hn : next + 1 ≤ u64Max) :
    ∃ r, (reg.project alive next s).1 = .ok r := by
  obtain ⟨r, b, hv, hp⟩ | ⟨hv, -, hp⟩ | ⟨hv, hmax, hp⟩ := project_cases h hs
  · exact ⟨r, by rw [hp]⟩
  · exact ⟨next, by rw [hp]⟩
  · omega

omit h

end XelisWallet.RegistryTombs
