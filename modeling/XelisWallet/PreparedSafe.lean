import XelisWallet.PreparedInv

/-!
Every reachable state of the prepared-transaction store is consistent, so the guards never
meet a slot they do not expect, and a transaction is in at most one place at a time: it
leaves only through a cancellation, a finished submission or its replacement.
-/

namespace XelisWallet.PreparedSafe

open Checked Runs PreparedStore PreparedGuards PreparedInv

variable {H T : Type} {w w' : World H T} {op : Op H T} {out : Outcome T}

lemma update_none_apply {α : Type} {f : ℕ → Option α} {i : ℕ} (h : ∀ j, j ≠ i → f j = none)
    (j : ℕ) : Function.update f i none j = none := by
  by_cases hj : j = i
  · simp [hj]
  · simpa [hj] using h j hj

lemma effect_consistent (hw : Consistent w) (h : Effect w op out w') : Consistent w' := by
  cases h with
  | refusedGeneration | refusedTransaction | refusedUnit => exact hw
  | replaced h t ha hf hle =>
    have hsub := hw.no_submission hf
    have hprep := hw.no_preparation ha
    constructor <;> simp [hsub, hprep]
  | began i ha hf hle =>
    have hsub := hw.no_submission hf
    have hprep := hw.no_preparation ha
    constructor <;> simp only [hsub, hprep, Function.update_apply, reduceCtorEq, false_implies,
      implies_true, Option.some.injEq]
    · intro g _; exact hf
    · intro g h hs; rw [hs] at hf; simp [PreparedTransactionState.isInFlight] at hf
    · intro j guard hj
      split_ifs at hj
      cases hj; exact ⟨rfl, rfl⟩
    · intro j k a b hj hk
      split_ifs at hj hk with h₁ h₂
      rw [h₁, h₂]
    · rintro g rfl; exact ⟨i, by simp⟩
  | committed i g h t hi ha hf =>
    have hsub := hw.no_submission hf
    have hprep := update_none_apply fun j => hw.preparation_none_of_ne hi (j := j)
    constructor <;> simp [hsub, hprep]
  | abandoned i g hi ha =>
    have hsub := hw.no_submission (hw.exclusive g ha)
    have hprep := update_none_apply fun j => hw.preparation_none_of_ne hi (j := j)
    constructor <;> simp only [hsub, hprep, reduceCtorEq, false_implies, implies_true]
    intro g' h' hs
    have := hw.inFlight g' h' hs
    simp [hsub] at this
  | cancelled op g h t hop ha hs =>
    have hsub := hw.no_submission (by rw [hs]; rfl)
    have hprep := hw.no_preparation ha
    constructor <;> simp [hsub, hprep]
  | taken op i g h t hop ha hs =>
    have hsub := hw.no_submission (by rw [hs]; rfl)
    have hprep := hw.no_preparation ha
    constructor <;> simp only [hsub, hprep, Function.update_apply, reduceCtorEq, false_implies,
      implies_true]
    · intro j guard hj
      split_ifs at hj
      cases hj; exact ⟨t, rfl, rfl⟩
    · intro j k a b hj hk
      split_ifs at hj hk with h₁ h₂
      rw [h₁, h₂]
    · intro g' h' hs'
      cases hs'
      exact ⟨i, t, by simp⟩
  | restored _ _ _ _ _ _ hi ha | finished _ _ _ _ hi ha =>
    have hprep := hw.no_preparation ha
    have hsub := update_none_apply fun j => hw.submission_none_of_ne hi (j := j)
    constructor <;> simp [hsub, hprep]

/-- Where a transaction is: in the slot, or in the submission guard of a variable. -/
def Located (w : World H T) (g : ℕ) (h : H) (t : T) : Option ℕ → Prop
  | none => w.store.state = .ready g h t
  | some i => w.submissions i = some ⟨g, h, some t⟩

/-- The operations that end the life of a guard. -/
def endsGuard : Op H T → Bool
  | .commit _ _ _ | .dropPreparation _ | .restore _ | .finish _ | .dropSubmission _ => true
  | _ => false

/-- The outcome of an operation that did not take an error branch. -/
def succeeded : Outcome T → Bool
  | .generation (.ok _) | .transaction (.ok _) | .unit (.ok _) | .abandoned true => true
  | _ => false

/-- The operation returned the transaction `t` out of the slot or of its guard. -/
def Releases (op : Op H T) (out : Outcome T) (t : T) : Prop :=
  out = .transaction (.ok t) ∧
    ((∃ h, op = .cancel h) ∨ (∃ g h, op = .cancelExact g h) ∨ ∃ i, op = .finish i)

/-- The operation put `t` in the slot as generation `g` with hash `h`. -/
def Puts (op : Op H T) (out : Outcome T) (g : ℕ) (h : H) (t : T) : Prop :=
  out = .generation (.ok g) ∧ (op = .replace h t ∨ ∃ i, op = .commit i h t)

lemma located_unique (hw : Consistent w) {g g' : ℕ} {h h' : H} {t t' : T} {l m : Option ℕ}
    (h₁ : Located w g h t l) (h₂ : Located w g' h' t' m) :
    l = m ∧ g = g' ∧ h = h' ∧ t = t' := by
  have hready : ∀ {g h t i guard}, w.store.state = .ready g h t →
      w.submissions i = some guard → False := by
    intro g h t i guard hs hi
    have hnone := hw.no_submission (by rw [hs]; rfl) i
    rw [hnone] at hi
    cases hi
  rcases l with _ | i <;> rcases m with _ | j <;> simp only [Located] at h₁ h₂
  · rw [h₁] at h₂
    cases h₂; simp
  · exact (hready h₁ h₂).elim
  · exact (hready h₂ h₁).elim
  have hij := hw.submission_unique i j _ _ h₁ h₂
  subst hij
  rw [h₁] at h₂
  cases h₂; simp

lemma located_kept (hw : Consistent w) (he : Effect w op out w') {g : ℕ} {h : H} {t : T}
    {l : Option ℕ} (hl : Located w g h t l) :
    (∃ l', Located w' g h t l') ∨ Releases op out t ∨ ∃ g' h' t', Puts op out g' h' t' := by
  cases he with
  | refusedGeneration | refusedTransaction | refusedUnit => exact .inl ⟨l, hl⟩
  | replaced h' t' => exact .inr (.inr ⟨_, h', t', rfl, .inl rfl⟩)
  | committed i g' h' t' => exact .inr (.inr ⟨_, h', t', rfl, .inr ⟨i, rfl⟩⟩)
  | began | abandoned => exact .inl ⟨l, by cases l <;> exact hl⟩
  | cancelled op g' h' t' hop ha hs =>
    obtain ⟨-, -, -, rfl⟩ := located_unique hw hl (m := none) hs
    refine .inr (.inl ⟨rfl, ?_⟩)
    obtain rfl | rfl := hop
    · exact .inl ⟨_, rfl⟩
    · exact .inr (.inl ⟨_, _, rfl⟩)
  | taken op i g' h' t' hop ha hs =>
    obtain ⟨-, rfl, rfl, rfl⟩ := located_unique hw hl (m := none) hs
    exact .inl ⟨some i, by simp [Located]⟩
  | restored op i g' h' t' hop hi ha hs =>
    obtain ⟨-, rfl, rfl, rfl⟩ := located_unique hw hl (m := some i) hi
    exact .inl ⟨none, rfl⟩
  | finished i g' h' t' hi ha hs =>
    obtain ⟨-, -, -, rfl⟩ := located_unique hw hl (m := some i) hi
    exact .inr (.inl ⟨rfl, .inr (.inr ⟨i, rfl⟩)⟩)

lemma located_source (hw : Consistent w) (he : Effect w op out w') {g : ℕ} {h : H} {t : T}
    {l : Option ℕ} (hl : Located w' g h t l) :
    (∃ l', Located w g h t l') ∨ Puts op out g h t := by
  have hw' := effect_consistent hw he
  cases he with
  | refusedGeneration | refusedTransaction | refusedUnit => exact .inl ⟨l, hl⟩
  | replaced h' t' =>
    obtain ⟨-, rfl, rfl, rfl⟩ := located_unique hw' hl (m := none) rfl
    exact .inr ⟨rfl, .inl rfl⟩
  | committed i g' h' t' =>
    obtain ⟨-, rfl, rfl, rfl⟩ := located_unique hw' hl (m := none) rfl
    exact .inr ⟨rfl, .inr ⟨i, rfl⟩⟩
  | began | abandoned => exact .inl ⟨l, by cases l <;> exact hl⟩
  | cancelled op g' h' t' hop ha hs =>
    obtain _ | j := l
    · simp [Located] at hl
    · exact .inl ⟨some j, hl⟩
  | taken op i g' h' t' hop ha hs =>
    obtain ⟨-, rfl, rfl, rfl⟩ := located_unique hw' hl (m := some i) (Function.update_self ..)
    exact .inl ⟨none, hs⟩
  | restored op i g' h' t' hop hi ha hs =>
    obtain ⟨-, rfl, rfl, rfl⟩ := located_unique hw' hl (m := none) rfl
    exact .inl ⟨some i, hi⟩
  | finished i g' h' t' hi ha hs =>
    obtain _ | j := l
    · simp [Located] at hl
    · have hj : j ≠ i := by rintro rfl; simp [Located] at hl
      exact .inl ⟨some j, by simpa [Located, hj] using hl⟩

lemma effect_succeeded (he : Effect w op out w') (hop : endsGuard op = true) :
    succeeded out = true := by
  cases he with
  | refusedGeneration op e hop' =>
    rcases hop' with ⟨h, t, rfl⟩ | ⟨i, rfl⟩ <;> simp [endsGuard] at hop
  | refusedTransaction op e hop' =>
    rcases hop' with ⟨h, rfl⟩ | ⟨g, h, rfl⟩ <;> simp [endsGuard] at hop
  | refusedUnit op e hop' =>
    rcases hop' with ⟨i, h, rfl⟩ | ⟨i, g, h, rfl⟩ <;> simp [endsGuard] at hop
  | _ => rfl

variable [DecidableEq H]

lemma reachable_consistent (hw : Reachable (prepared H T) w) : Consistent w := by
  refine hw.invariant (P := Consistent) (fun w h => ?_) fun w l w' _ hc hst => ?_
  · rw [h]; exact consistent_init
  · exact effect_consistent hc (step_effect hc hst)

lemma reachable_effect (hw : Reachable (prepared H T) w) (h : step w op = some (w', out)) :
    Effect w op out w' := step_effect (reachable_consistent hw) h

/-- **The slot and its guards agree in every reachable state.** A preparation and a submission
never coexist; the slot is in flight exactly while one submission guard is alive, which
carries its generation and hash and owns the transaction; a preparation is active exactly
while one preparation guard of its generation is alive. The methods and the `Drop`s of the
guards never take an error branch, and a transaction is never in two places, never appears
unless it was put in the slot, and leaves only when it is cancelled, finished or replaced. -/
theorem reachable_guards_agree (hw : Reachable (prepared H T) w) :
    ¬ (w.store.activePreparation.isSome ∧ w.store.state.isInFlight) ∧
    (∀ g h, w.store.state = .inFlight g h ↔
      ∃ i t, w.submissions i = some ⟨g, h, some t⟩ ∧ ∀ j, j ≠ i → w.submissions j = none) ∧
    (w.store.state.isInFlight = false → ∀ i, w.submissions i = none) ∧
    (∀ g, w.store.activePreparation = some g ↔
      ∃ i, w.preparations i = some ⟨g, true⟩ ∧ ∀ j, j ≠ i → w.preparations j = none) ∧
    (w.store.activePreparation = none → ∀ i, w.preparations i = none) ∧
    (∀ g h t g' h' t' l l', Located w g h t l → Located w g' h' t' l' →
      l = l' ∧ g = g' ∧ h = h' ∧ t = t') ∧
    ∀ op out w', step w op = some (w', out) →
      (endsGuard op = true → succeeded out = true) ∧
      (∀ g h t l, Located w g h t l → (∃ l', Located w' g h t l') ∨ Releases op out t ∨
        ∃ g' h' t', Puts op out g' h' t') ∧
      (∀ g h t l, Located w' g h t l → (∃ l', Located w g h t l') ∨ Puts op out g h t) := by
  have hc := reachable_consistent hw
  refine ⟨?_, fun g h => ⟨fun hs => ?_, ?_⟩, hc.no_submission, fun g => ⟨fun ha => ?_, ?_⟩,
    hc.no_preparation, fun g h t g' h' t' l l' => located_unique hc, fun op out w' hst => ?_⟩
  · rintro ⟨ha, hf⟩
    obtain ⟨g, hg⟩ := Option.isSome_iff_exists.mp ha
    rw [hc.exclusive g hg] at hf
    cases hf
  · obtain ⟨i, t, hi⟩ := hc.inFlight g h hs
    exact ⟨i, t, hi, fun j hj => hc.submission_none_of_ne hi hj⟩
  · rintro ⟨i, t, hi, -⟩
    obtain ⟨_, -, hs⟩ := hc.submission i _ hi
    exact hs
  · obtain ⟨i, hi⟩ := hc.preparing g ha
    exact ⟨i, hi, fun j hj => hc.preparation_none_of_ne hi hj⟩
  · rintro ⟨i, hi, -⟩
    exact (hc.preparation i _ hi).2
  · have he := step_effect hc hst
    exact ⟨effect_succeeded he, fun g h t l => located_kept hc he,
      fun g h t l => located_source hc he⟩

/-- A transaction taken for submission, with its guard in variable `0`. -/
theorem guards_agree_in_flight :
    ∃ w : World ℕ ℕ, Reachable (prepared ℕ ℕ) w ∧ w.store.state = .inFlight 1 7 ∧
      ∃ i t, w.submissions i = some ⟨1, 7, some t⟩ ∧ ∀ j, j ≠ i → w.submissions j = none := by
  have h₁ : Reachable (prepared ℕ ℕ) ⟨⟨.ready 1 7 42, 1, none⟩, fun _ => none, fun _ => none⟩ :=
    reachable_step (.of_init (s := World.init) rfl) (.replace 7 42) rfl
  have h₂ := reachable_step h₁ (.take 0 7) rfl
  exact ⟨_, h₂, rfl, ((reachable_guards_agree h₂).2.1 1 7).mp rfl⟩

end XelisWallet.PreparedSafe
