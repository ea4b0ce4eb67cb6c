import Mathlib.Data.List.Nodup
import XelisWallet.Registry

/-!
What the operations of a session registry do, entry by entry.

A well-formed registry has one entry for a reference and one for a state, all references below
the counter. The view of a registry maps a state to its reference and whether it is active;
every operation is specified by its result and the view it leaves.
-/

namespace XelisWallet.RegistrySpec

open Checked Registry SessionRegistry

variable {α : Type}

lemma find?_eq_some_of_nodup {β κ : Type} [DecidableEq κ] {key : β → κ} {l : List β}
    (h : (l.map key).Nodup) (k : κ) (p : β) :
    l.find? (fun q => key q = k) = some p ↔ p ∈ l ∧ key p = k := by
  constructor
  · intro hf
    exact ⟨List.mem_of_find?_eq_some hf, by simpa using List.find?_some hf⟩
  rintro ⟨hp, rfl⟩
  rcases hf : l.find? (fun q => key q = key p) with _ | q
  · rw [List.find?_eq_none] at hf
    exact absurd (by simp) (hf p hp)
  · have hq : key q = key p := by simpa using List.find?_some hf
    rw [List.inj_on_of_nodup_map h (List.mem_of_find?_eq_some hf) hp hq]

/-- What a registry has for a state: its reference, and whether it is active. -/
def view [DecidableEq α] (reg : SessionRegistry α) (state : α) : Option (ℕ × Bool) :=
  (reg.sessions.find? (SessionRegistry.holds state)).map fun p => (p.1, p.2.active)

/-- One entry for a reference, one for a state, and every reference below the counter. -/
structure Wf (reg : SessionRegistry α) (next : ℕ) : Prop where
  keys : (reg.sessions.map (·.1)).Nodup
  states : (reg.sessions.map (·.2.state)).Nodup
  below : ∀ p ∈ reg.sessions, p.1 < next

variable {reg : SessionRegistry α} {next r : ℕ} {state s : α} {b : Bool}

lemma wf_default (next : ℕ) : Wf (SessionRegistry.default : SessionRegistry α) next := by
  refine ⟨?_, ?_, ?_⟩ <;> simp [SessionRegistry.default]

variable (h : Wf reg next)
include h

lemma Wf.mono {next' : ℕ} (hn : next ≤ next') : Wf reg next' :=
  ⟨h.keys, h.states, fun p hp => Nat.lt_of_lt_of_le (h.below p hp) hn⟩

lemma wf_removeDead (alive : α → Bool) : Wf (reg.removeDead alive) next := by
  have hsub : (reg.removeDead alive).sessions.Sublist reg.sessions := List.filter_sublist
  exact ⟨h.keys.sublist (hsub.map _), h.states.sublist (hsub.map _),
    fun p hp => h.below p (hsub.subset hp)⟩

lemma Wf.insert_next (e : SessionEntry α) : reg.insert next e = ⟨(next, e) :: reg.sessions⟩ := by
  have hfilter : reg.sessions.filter (fun p => p.1 ≠ next) = reg.sessions := by
    rw [List.filter_eq_self]
    intro p hp
    have := h.below p hp
    simp only [ne_eq, decide_not, Bool.not_eq_true', decide_eq_false_iff_not]
    omega
  rw [SessionRegistry.insert, hfilter]

lemma wf_deactivate (p : α → Bool) : Wf (reg.deactivate p) next := by
  have hkeys : (reg.deactivate p).sessions.map (·.1) = reg.sessions.map (·.1) := by
    simp only [deactivate, List.map_map]
    refine List.map_congr_left fun q _ => ?_
    simp only [Function.comp_apply]
    split <;> rfl
  have hstates : (reg.deactivate p).sessions.map (·.2.state) = reg.sessions.map (·.2.state) := by
    simp only [deactivate, List.map_map]
    refine List.map_congr_left fun q _ => ?_
    simp only [Function.comp_apply]
    split <;> rfl
  refine ⟨by rw [hkeys]; exact h.keys, by rw [hstates]; exact h.states, fun q hq => ?_⟩
  have hmem : q.1 ∈ (reg.deactivate p).sessions.map (·.1) := List.mem_map_of_mem hq
  rw [hkeys] at hmem
  obtain ⟨q', hq', he⟩ := List.mem_map.mp hmem
  rw [← he]
  exact h.below q' hq'

omit h

variable [DecidableEq α]

@[simp] lemma view_default (s : α) :
    view (default : SessionRegistry α) s = none := rfl

lemma Wf.view_eq_some (h : Wf reg next) :
    view reg s = some (r, b) ↔ (r, ⟨s, b⟩) ∈ reg.sessions := by
  have hfind := find?_eq_some_of_nodup h.states s
  constructor
  · intro hv
    obtain ⟨⟨r', s', b'⟩, hp, he⟩ := Option.map_eq_some_iff.mp hv
    obtain ⟨hm, rfl⟩ := (hfind _).mp hp
    cases he
    exact hm
  · intro hm
    exact Option.map_eq_some_iff.mpr ⟨_, (hfind _).mpr ⟨hm, rfl⟩, rfl⟩

lemma Wf.get_eq_some (h : Wf reg next) {e : SessionEntry α} :
    reg.get r = some e ↔ view reg e.state = some (r, e.active) := by
  have hfind := find?_eq_some_of_nodup h.keys r
  rw [h.view_eq_some]
  constructor
  · intro hg
    obtain ⟨⟨r', e'⟩, hp, rfl⟩ := Option.map_eq_some_iff.mp hg
    obtain ⟨hm, rfl⟩ := (hfind _).mp hp
    exact hm
  · intro hm
    exact Option.map_eq_some_iff.mpr ⟨_, (hfind _).mpr ⟨hm, rfl⟩, rfl⟩

/-! ### The parts the operations are made of -/

lemma view_removeDead (h : Wf reg next) (alive : α → Bool) (s : α) :
    view (reg.removeDead alive) s = if alive s then view reg s else none := by
  have hw := wf_removeDead h alive
  apply Option.ext
  rintro ⟨r, b⟩
  rw [hw.view_eq_some]
  split
  · next ha => simp [removeDead, h.view_eq_some, ha]
  · next ha => simp [removeDead, ha]

lemma wf_insert (h : Wf reg next) (hv : view reg s = none) (b : Bool) :
    Wf (reg.insert next ⟨s, b⟩) (next + 1) := by
  rw [h.insert_next]
  refine ⟨?_, ?_, ?_⟩ <;> simp only [List.map_cons, List.nodup_cons, List.mem_cons,
    forall_eq_or_imp]
  · refine ⟨fun hm => ?_, h.keys⟩
    obtain ⟨p, hp, he⟩ := List.mem_map.mp hm
    have := h.below p hp
    omega
  · refine ⟨fun hm => ?_, h.states⟩
    obtain ⟨⟨r, s', b'⟩, hp, rfl⟩ := List.mem_map.mp hm
    rw [h.view_eq_some.mpr hp] at hv
    cases hv
  · refine ⟨by omega, fun p hp => ?_⟩
    have := h.below p hp
    omega

lemma view_insert (h : Wf reg next) (s' : α) :
    view (reg.insert next ⟨s, b⟩) s' = if s = s' then some (next, b) else view reg s' := by
  rw [h.insert_next]
  by_cases hs : s = s' <;> simp [view, holds, hs]

lemma view_deactivate (p : α → Bool) (s : α) :
    view (reg.deactivate p) s = (view reg s).map fun v => (v.1, v.2 && !p s) := by
  obtain ⟨l⟩ := reg
  simp only [view, deactivate]
  induction l with
  | nil => rfl
  | cons q l ih =>
    obtain ⟨r, s', b⟩ := q
    by_cases hs : s' = s
    · subst hs
      cases hp : p s' <;> simp [holds, hp]
    have hne : holds s (r, ⟨s', b⟩) = false := by
      simp [holds, hs]
    have hne' : holds s (if p s' = true then (r, ⟨s', false⟩) else (r, ⟨s', b⟩)) = false := by
      split <;> simp [holds, hs]
    simp only [List.map_cons, List.find?_cons, hne, hne']
    exact ih

/-! ### The operations -/

variable {alive aliveLater : α → Bool}

variable (h : Wf reg next)
include h

/-- **What `project` does** for a live state: it finds the reference of the state or takes a
new one, unless the counter is exhausted. -/
theorem project_cases (hs : alive s = true) :
    (∃ r b, view reg s = some (r, b) ∧
      reg.project alive next s = (.ok r, reg.removeDead alive, next)) ∨
    (view reg s = none ∧ next + 1 ≤ u64Max ∧ reg.project alive next s
        = (.ok next, (reg.removeDead alive).insert next ⟨s, true⟩, next + 1)) ∨
    (view reg s = none ∧ u64Max < next + 1 ∧
      reg.project alive next s = (.error .exhausted, reg.removeDead alive, next)) := by
  have hv : view (reg.removeDead alive) s = view reg s := by simp [view_removeDead h, hs]
  unfold view at hv
  rcases hf : (reg.removeDead alive).sessions.find? (holds s) with _ | ⟨r, e⟩ <;> rw [hf] at hv
  · right
    rcases hn : fetchNext next with _ | next'
    · exact .inr ⟨hv.symm, checkedAdd_eq_none.mp hn, by simp only [project, hf, hn]⟩
    · obtain ⟨hle, rfl⟩ := checkedAdd_eq_some.mp hn
      exact .inl ⟨hv.symm, hle, by simp only [project, hf, hn]⟩
  · exact .inl ⟨r, e.active, hv.symm, by simp only [project, hf]⟩

/-- **What `register` does** for a live state. -/
theorem register_cases (hs : alive s = true) :
    (∃ r, view reg s = some (r, true) ∧
      reg.register alive next s = (.ok r, reg.removeDead alive, next)) ∨
    (∃ r, view reg s = some (r, false) ∧
      reg.register alive next s = (.error .invalid, reg.removeDead alive, next)) ∨
    (view reg s = none ∧ next + 1 ≤ u64Max ∧ reg.register alive next s
        = (.ok next, (reg.removeDead alive).insert next ⟨s, true⟩, next + 1)) ∨
    (view reg s = none ∧ u64Max < next + 1 ∧
      reg.register alive next s = (.error .exhausted, reg.removeDead alive, next)) := by
  have hw := wf_removeDead h alive
  have hdead : view (reg.removeDead alive) s = view reg s := by simp [view_removeDead h, hs]
  obtain ⟨r, b, hv, hp⟩ | ⟨hv, hle, hp⟩ | ⟨hv, hlt, hp⟩ := project_cases h hs
  · have hget : (reg.removeDead alive).get r = some ⟨s, b⟩ := hw.get_eq_some.mpr (hdead.trans hv)
    cases b with
    | true => exact .inl ⟨r, hv, by simp [register, hp, hget]⟩
    | false => exact .inr (.inl ⟨r, hv, by simp [register, hp, hget]⟩)
  · have hw' := wf_insert hw (hdead.trans hv) true
    have hget : ((reg.removeDead alive).insert next ⟨s, true⟩).get next = some ⟨s, true⟩ := by
      rw [hw'.get_eq_some, view_insert hw]
      simp
    exact .inr (.inr (.inl ⟨hv, hle, by simp [register, hp, hget]⟩))
  · exact .inr (.inr (.inr ⟨hv, hlt, by simp [register, hp]⟩))

/-- **What `invalidate_state` does** for a live state. -/
theorem invalidateState_cases (hs : alive s = true) :
    (∃ r b, view reg s = some (r, b) ∧ reg.invalidateState alive next s
        = ((reg.removeDead alive).deactivate (· = s), next)) ∨
    (view reg s = none ∧ next + 1 ≤ u64Max ∧ reg.invalidateState alive next s
        = ((reg.removeDead alive).insert next ⟨s, false⟩, next + 1)) ∨
    (view reg s = none ∧ u64Max < next + 1 ∧
      reg.invalidateState alive next s = (reg.removeDead alive, next)) := by
  have hv : view (reg.removeDead alive) s = view reg s := by simp [view_removeDead h, hs]
  unfold view at hv
  rcases hf : (reg.removeDead alive).sessions.find? (holds s) with _ | ⟨r, e⟩
  · rw [hf] at hv
    have hany : (reg.removeDead alive).sessions.any (holds s) = false := by
      simpa using hf
    right
    rcases hn : fetchNext next with _ | next'
    · exact .inr ⟨hv.symm, checkedAdd_eq_none.mp hn, by simp [invalidateState, hany, hn]⟩
    · obtain ⟨hle, rfl⟩ := checkedAdd_eq_some.mp hn
      exact .inl ⟨hv.symm, hle, by simp [invalidateState, hany, hn]⟩
  · have hany : (reg.removeDead alive).sessions.any (holds s) = true :=
      List.any_eq_true.mpr ⟨_, List.mem_of_find?_eq_some hf, List.find?_some hf⟩
    rw [hf] at hv
    exact .inl ⟨r, e.active, hv.symm, by simp [invalidateState, hany]⟩

/-- **What `resolve` returns**: the live state of an active entry. -/
theorem resolve_eq_some : (reg.resolve alive aliveLater r).1 = some s ↔ view reg s = some (r, true)
    ∧ alive s = true ∧ aliveLater s = true := by
  have hw := wf_removeDead h alive
  have hdead := view_removeDead h alive s
  simp only [resolve, Option.filter_eq_some_iff, Option.map_eq_some_iff]
  constructor
  · rintro ⟨⟨e, ⟨hg, ha⟩, rfl⟩, hl⟩
    rw [hw.get_eq_some, hdead, ha] at hg
    split at hg
    · next hs => exact ⟨hg, hs, hl⟩
    · cases hg
  · rintro ⟨hv, hs, hl⟩
    refine ⟨⟨⟨s, true⟩, ⟨?_, rfl⟩, rfl⟩, hl⟩
    rwa [hw.get_eq_some, hdead, if_pos hs]

omit h

end XelisWallet.RegistrySpec
