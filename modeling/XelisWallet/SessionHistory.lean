import XelisWallet.SessionLedger

/-!
What the history of a session ledger says about it.

A reference has one owner, the registry and the state it was made for. As long as a state
lives, its registry keeps the reference it gave out for it; once the state was invalidated,
what the registry keeps is inactive; and an active entry goes back to the event that gave its
reference out, with no clearing of the registry since.
-/

namespace XelisWallet.SessionHistory

open Checked Runs Registry SessionLedger

variable {l l' : Ledger} {e : Event} {ls : List Event} {k i r : ℕ} {b : Bool}

/-- The registry `k` gave the reference `r` out for the state `i`. -/
def Given (ls : List Event) (k i r : ℕ) : Prop := ∃ e ∈ ls, given e = some (k, i, r)

/-- The reference `r` was first given out for the state `i`, and the registry was not cleared
since. -/
def GivenSince (ls : List Event) (k i r : ℕ) : Prop :=
  ∃ pre e post, ls = pre ++ e :: post ∧ given e = some (k, i, r) ∧
    (∀ k' i', ¬ Given pre k' i' r) ∧ Event.cleared k ∉ post

/-- The ledger agrees with its history. -/
structure Faithful (ls : List Event) (l : Ledger) : Prop where
  live : ∀ i, l.live i = true → i < l.born
  below : ∀ r p, l.owner r = some p → r < l.next
  owned : ∀ k i r b, l.book k i = some (r, b) → l.owner r = some (k, i)
  known : ∀ k i r, Given ls k i r → i < l.born ∧ l.owner r = some (k, i) ∧
    (l.live i = true → ∃ b, l.book k i = some (r, b))
  invalid : ∀ k i, Event.invalidated k i ∈ ls → i < l.born ∧
    (l.live i = true → (∃ r, l.book k i = some (r, false)) ∨
      (l.book k i = none ∧ u64Max < l.next + 1))
  active : ∀ k i r, l.book k i = some (r, true) → GivenSince ls k i r

lemma faithful_init : Faithful [] Ledger.init := by
  refine ⟨?_, ?_, ?_, ?_, ?_, ?_⟩ <;> simp [Ledger.init, Given]

lemma given_append : Given (ls ++ [e]) k i r ↔ Given ls k i r ∨ given e = some (k, i, r) := by
  simp [Given, or_and_right, exists_or]

lemma owned_step (hf : Faithful ls l) (h : Step l e l') (hb : l'.book k i = some (r, b)) :
    l'.owner r = some (k, i) := by
  obtain ⟨-, hkeep, -⟩ := step_owner h
  have hold : ∀ b, l.book k i = some (r, b) → l'.owner r = some (k, i) := by
    intro b hb
    have ho := hf.owned k i r b hb
    rwa [hkeep r (hf.below r _ ho)]
  cases step_change h k i with
  | same hs => exact hold b (hs ▸ hb)
  | purged _ hs =>
    rw [hs] at hb
    cases hb
  | deactivated r' b' h₁ h₂ =>
    rw [h₂] at hb
    cases hb
    exact hold b' h₁
  | minted b' _ _ _ h₂ _ ho =>
    rw [h₂] at hb
    cases hb
    exact ho

lemma kept_step (h : Step l e l') (hi : l.live i = true) (hb : l.book k i = some (r, b)) :
    ∃ b', l'.book k i = some (r, b') ∧ (b = false → b' = false) := by
  cases step_change h k i with
  | same hs => exact ⟨b, hs.trans hb, fun h => h⟩
  | purged hd =>
    rw [hi] at hd
    cases hd
  | deactivated r' b' h₁ h₂ =>
    rw [hb] at h₁
    cases h₁
    exact ⟨false, h₂, fun _ => rfl⟩
  | minted _ _ h₁ =>
    rw [hb] at h₁
    cases h₁

lemma known_step (hf : Faithful ls l) (h : Step l e l') (hg : Given (ls ++ [e]) k i r) : i < l'.born
    ∧ l'.owner r = some (k, i) ∧ (l'.live i = true → ∃ b, l'.book k i = some (r, b)) := by
  obtain ⟨hborn, hlive, -⟩ := step_live h
  obtain ⟨-, hkeep, -⟩ := step_owner h
  obtain hg | hg := given_append.mp hg
  · obtain ⟨hi, ho, hb⟩ := hf.known k i r hg
    refine ⟨by omega, ?_, fun hl => ?_⟩
    · rwa [hkeep r (hf.below r _ ho)]
    have hl' := hlive i hi hl
    obtain ⟨b, hb⟩ := hb hl'
    obtain ⟨b', hb', -⟩ := kept_step h hl' hb
    exact ⟨b', hb'⟩
  · obtain ⟨hl, b, hb⟩ := step_given h hg
    have hi := hf.live i hl
    exact ⟨by omega, owned_step hf h hb, fun _ => ⟨b, hb⟩⟩

lemma invalid_step (hf : Faithful ls l) (h : Step l e l')
    (hm : Event.invalidated k i ∈ ls ++ [e]) :
    i < l'.born ∧ (l'.live i = true → (∃ r, l'.book k i = some (r, false)) ∨
      (l'.book k i = none ∧ u64Max < l'.next + 1)) := by
  obtain ⟨hborn, hlive, -⟩ := step_live h
  obtain ⟨hnext, -, -⟩ := step_owner h
  obtain hm | hm := List.mem_append.mp hm
  · obtain ⟨hi, hb⟩ := hf.invalid k i hm
    refine ⟨by omega, fun hl => ?_⟩
    have hl' := hlive i hi hl
    obtain ⟨r, hb⟩ | ⟨hb, hn⟩ := hb hl'
    · obtain ⟨b', hb', himp⟩ := kept_step h hl' hb
      rw [himp rfl] at hb'
      exact .inl ⟨r, hb'⟩
    · -- nothing is recorded, and nothing can be recorded any more
      refine .inr ⟨?_, by omega⟩
      cases step_change h k i with
      | same hs => exact hs.trans hb
      | purged _ hs => exact hs
      | deactivated r b h₁ =>
        rw [hb] at h₁
        cases h₁
      | minted => omega
  · obtain ⟨hl, hb⟩ := step_invalidated h (List.mem_singleton.mp hm).symm
    have hi := hf.live i hl
    exact ⟨by omega, fun _ => hb⟩

lemma active_step (hf : Faithful ls l) (h : Step l e l') (hb : l'.book k i = some (r, true)) :
    GivenSince (ls ++ [e]) k i r := by
  cases step_change h k i with
  | same hs =>
    obtain ⟨pre, e', post, rfl, hg, hpre, hc⟩ := hf.active k i r (hs ▸ hb)
    refine ⟨pre, e', post ++ [e], by simp, hg, hpre, fun hm => ?_⟩
    obtain hm | hm := List.mem_append.mp hm
    · exact hc hm
    · exact step_cleared h (List.mem_singleton.mp hm).symm hb
  | purged _ hs | deactivated _ _ _ hs =>
    rw [hs] at hb
    cases hb
  | minted b _ _ _ hs _ _ he =>
    rw [hs] at hb
    cases hb
    refine ⟨ls, e, [], rfl, he rfl, fun k' i' hg => ?_, List.not_mem_nil⟩
    have := hf.below l.next _ (hf.known k' i' l.next hg).2.1
    omega

lemma faithful_step (hf : Faithful ls l) (h : Step l e l') : Faithful (ls ++ [e]) l' where
  live := (step_live h).2.2 hf.live
  below := (step_owner h).2.2 hf.below
  owned _ _ _ _ hb := owned_step hf h hb
  known _ _ _ hg := known_step hf h hg
  invalid _ _ hm := invalid_step hf h hm
  active _ _ _ hb := active_step hf h hb

lemma run_faithful (h : Run ledger Ledger.init ls l) : Faithful ls l :=
  h.history (P := Faithful) faithful_init fun _ _ _ _ _ hf hst => faithful_step hf hst

/-! ### What follows -/

variable (hf : Faithful ls l)
include hf

lemma Faithful.given_unique {k' i' : ℕ} (h : Given ls k i r)
    (h' : Given ls k' i' r) : k = k' ∧ i = i' := by
  obtain ⟨-, ho, -⟩ := hf.known k i r h
  obtain ⟨-, ho', -⟩ := hf.known k' i' r h'
  rw [ho] at ho'
  cases ho'
  exact ⟨rfl, rfl⟩

lemma Faithful.projected {result : Except SessionReferenceError ℕ}
    (hg : Given ls k i r) (h : Step l (.projected k i result) l') : result = .ok r := by
  obtain ⟨-, -, hb⟩ := hf.known k i r hg
  cases h with
  | found _ _ r' b _ hi hb' he =>
    obtain ⟨b', hb⟩ := hb (by rcases he with h | h <;> cases h; exact hi)
    rcases he with h | h <;> cases h
    rw [hb] at hb'
    cases hb'
    rfl
  | minted _ _ _ hi hb' hn he | exhausted _ _ _ hi hb' hn he =>
    rcases he with h | h <;> cases h
    obtain ⟨b', hb⟩ := hb hi
    rw [hb] at hb'
    cases hb'

lemma Faithful.registered {result : Except SessionReferenceError ℕ}
    (hm : Event.invalidated k i ∈ ls) (h : Step l (.registered k i result) l') :
    ∃ error, result = .error error := by
  obtain ⟨-, hb⟩ := hf.invalid k i hm
  cases h with
  | found _ _ r' b _ hi hb' he =>
    rcases he with h | h <;> cases h
    rcases hb hi with ⟨r, hb⟩ | ⟨hb, -⟩ <;> rw [hb] at hb' <;> cases hb'
    exact ⟨.invalid, rfl⟩
  | minted _ _ _ hi hb' hn he =>
    rcases he with h | h <;> cases h
    obtain ⟨r, hb⟩ | ⟨-, hn'⟩ := hb hi
    · rw [hb] at hb'
      cases hb'
    · omega
  | exhausted _ _ _ hi hb' hn he =>
    rcases he with h | h <;> cases h
    exact ⟨.exhausted, rfl⟩

/-- A reference resolves only to the living state it was given for, which was not invalidated
and not cleared since. -/
lemma Faithful.resolved (h : Step l (.resolved k r (some i)) l') :
    l'.live i = true ∧ GivenSince ls k i r ∧ Event.invalidated k i ∉ ls := by
  cases h with
  | resolved _ _ _ live hlive hres =>
    obtain ⟨hl, hb⟩ := hres i rfl
    have hl' := hlive i hl
    refine ⟨hl, hf.active k i r hb, fun hm => ?_⟩
    rcases (hf.invalid k i hm).2 hl' with ⟨r', hb'⟩ | ⟨hb', -⟩ <;> rw [hb] at hb' <;> cases hb'
  | found _ _ _ _ _ _ _ he | minted _ _ _ _ _ _ he | exhausted _ _ _ _ _ _ he =>
    rcases he with h | h <;> cases h

omit hf

lemma run_inactive {ms : List Event} (h : Run ledger Ledger.init ls l) (hr : Run ledger l ms l')
    (hb : l.book k i = some (r, false)) (i' : ℕ) : l'.book k i' ≠ some (r, true) := by
  have hf := run_faithful h
  have ho := hf.owned k i r false hb
  have hstart : r < l.next ∧ ∀ j, l.book k j ≠ some (r, true) := by
    refine ⟨hf.below r _ ho, fun j hj => ?_⟩
    have hj' := hf.owned k j r true hj
    rw [ho] at hj'
    cases hj'
    rw [hb] at hj
    cases hj
  refine (hr.preserves (P := fun l => r < l.next ∧ ∀ j, l.book k j ≠ some (r, true))
    (fun l e l' ⟨hlt, hne⟩ hst => ⟨?_, fun j hj => ?_⟩) hstart).2 i'
  · have := (step_owner hst).1
    omega
  cases step_change hst k j with
  | same hs => exact hne j (hs ▸ hj)
  | purged _ hs | deactivated _ _ _ hs =>
    rw [hs] at hj
    cases hj
  | minted _ _ _ _ hs =>
    rw [hs] at hj
    cases hj
    omega

end XelisWallet.SessionHistory
