import XelisWallet.PreparedSpec
import XelisWallet.PreparedGuards

/-!
The invariant that ties the slot to the guards, and what a step of a consistent world does.

A world is consistent when the slot is in flight exactly while one submission guard is alive,
which then owns the transaction, and a preparation is active exactly while one preparation
guard is alive. From a consistent world an operation either refuses and changes nothing or
has one of eight effects; the branches of the guards that report an inconsistency are gone.
-/

namespace XelisWallet.PreparedInv

open Checked Runs PreparedStore PreparedGuards PreparedTransactionStore

variable {H T : Type}

/-- The slot and the guards agree. -/
structure Consistent (w : World H T) : Prop where
  exclusive : ∀ g, w.store.activePreparation = some g → w.store.state.isInFlight = false
  submission : ∀ i guard, w.submissions i = some guard →
    ∃ t, guard = ⟨guard.generation, guard.hash, some t⟩ ∧
      w.store.state = .inFlight guard.generation guard.hash
  submission_unique : ∀ i j a b, w.submissions i = some a → w.submissions j = some b → i = j
  inFlight : ∀ g h, w.store.state = .inFlight g h → ∃ i t, w.submissions i = some ⟨g, h, some t⟩
  preparation : ∀ i guard, w.preparations i = some guard →
    guard = ⟨guard.generation, true⟩ ∧ w.store.activePreparation = some guard.generation
  preparation_unique : ∀ i j a b, w.preparations i = some a → w.preparations j = some b → i = j
  preparing : ∀ g, w.store.activePreparation = some g → ∃ i, w.preparations i = some ⟨g, true⟩

lemma consistent_init : Consistent (World.init : World H T) := by
  constructor <;> simp [World.init, PreparedTransactionStore.default]

namespace Consistent

variable {w : World H T} (hw : Consistent w)

include hw

lemma no_submission (hf : w.store.state.isInFlight = false) (i : ℕ) : w.submissions i = none := by
  rcases hi : w.submissions i with _ | guard
  · rfl
  obtain ⟨t, -, hs⟩ := hw.submission i guard hi
  rw [hs] at hf
  simp [PreparedTransactionState.isInFlight] at hf

lemma no_preparation (ha : w.store.activePreparation = none) (i : ℕ) : w.preparations i = none := by
  rcases hi : w.preparations i with _ | guard
  · rfl
  have := (hw.preparation i guard hi).2
  rw [ha] at this
  cases this

lemma submission_none_of_ne {i j : ℕ} {guard : SubmissionGuard H T}
    (hi : w.submissions i = some guard) (hj : j ≠ i) : w.submissions j = none := by
  rcases h : w.submissions j with _ | b
  · rfl
  · exact absurd (hw.submission_unique j i b guard h hi) hj

lemma preparation_none_of_ne {i j : ℕ} {guard : PreparationGuard}
    (hi : w.preparations i = some guard) (hj : j ≠ i) : w.preparations j = none := by
  rcases h : w.preparations j with _ | b
  · rfl
  · exact absurd (hw.preparation_unique j i b guard h hi) hj

lemma not_preparing {g : ℕ} {h : H} (hs : w.store.state = .inFlight g h) :
    w.store.activePreparation = none := by
  rcases ha : w.store.activePreparation with _ | g'
  · rfl
  have := hw.exclusive g' ha
  rw [hs] at this
  simp [PreparedTransactionState.isInFlight] at this

end Consistent

/-- What an operation can do to a consistent world. -/
inductive Effect (w : World H T) : Op H T → Outcome T → World H T → Prop
  | refusedGeneration (op : Op H T) (e : PreparedTransactionError)
      (hop : (∃ h t, op = .replace h t) ∨ ∃ i, op = .begin i) :
      Effect w op (.generation (.error e)) w
  | refusedTransaction (op : Op H T) (e : PreparedTransactionError)
      (hop : (∃ h, op = .cancel h) ∨ ∃ g h, op = .cancelExact g h) :
      Effect w op (.transaction (.error e)) w
  | refusedUnit (op : Op H T) (e : PreparedTransactionError)
      (hop : (∃ i h, op = .take i h) ∨ ∃ i g h, op = .takeExact i g h) :
      Effect w op (.unit (.error e)) w
  | replaced (h : H) (t : T) (ha : w.store.activePreparation = none)
      (hf : w.store.state.isInFlight = false) (hle : w.store.nextGeneration + 1 ≤ u64Max) :
      Effect w (.replace h t) (.generation (.ok (w.store.nextGeneration + 1)))
        { w with store := ⟨.ready (w.store.nextGeneration + 1) h t,
          w.store.nextGeneration + 1, none⟩ }
  | began (i : ℕ) (ha : w.store.activePreparation = none) (hf : w.store.state.isInFlight = false)
      (hle : w.store.nextGeneration + 1 ≤ u64Max) :
      Effect w (.begin i) (.generation (.ok (w.store.nextGeneration + 1)))
        { w with
          store := ⟨w.store.state, w.store.nextGeneration + 1, some (w.store.nextGeneration + 1)⟩
          preparations :=
            Function.update w.preparations i (some ⟨w.store.nextGeneration + 1, true⟩) }
  | committed (i g : ℕ) (h : H) (t : T) (hi : w.preparations i = some ⟨g, true⟩)
      (ha : w.store.activePreparation = some g) (hf : w.store.state.isInFlight = false) :
      Effect w (.commit i h t) (.generation (.ok g))
        { w with
          store := ⟨.ready g h t, w.store.nextGeneration, none⟩
          preparations := Function.update w.preparations i none }
  | abandoned (i g : ℕ) (hi : w.preparations i = some ⟨g, true⟩)
      (ha : w.store.activePreparation = some g) :
      Effect w (.dropPreparation i) (.abandoned true)
        { w with
          store := ⟨w.store.state, w.store.nextGeneration, none⟩
          preparations := Function.update w.preparations i none }
  | cancelled (op : Op H T) (g : ℕ) (h : H) (t : T)
      (hop : op = .cancel h ∨ op = .cancelExact g h) (ha : w.store.activePreparation = none)
      (hs : w.store.state = .ready g h t) :
      Effect w op (.transaction (.ok t)) { w with store := ⟨.empty, w.store.nextGeneration, none⟩ }
  | taken (op : Op H T) (i g : ℕ) (h : H) (t : T)
      (hop : op = .take i h ∨ op = .takeExact i g h) (ha : w.store.activePreparation = none)
      (hs : w.store.state = .ready g h t) :
      Effect w op (.unit (.ok ()))
        { w with
          store := ⟨.inFlight g h, w.store.nextGeneration, none⟩
          submissions := Function.update w.submissions i (some ⟨g, h, some t⟩) }
  | restored (op : Op H T) (i g : ℕ) (h : H) (t : T)
      (hop : op = .restore i ∨ op = .dropSubmission i)
      (hi : w.submissions i = some ⟨g, h, some t⟩) (ha : w.store.activePreparation = none)
      (hs : w.store.state = .inFlight g h) :
      Effect w op (.unit (.ok ()))
        { w with
          store := ⟨.ready g h t, w.store.nextGeneration, none⟩
          submissions := Function.update w.submissions i none }
  | finished (i g : ℕ) (h : H) (t : T) (hi : w.submissions i = some ⟨g, h, some t⟩)
      (ha : w.store.activePreparation = none) (hs : w.store.state = .inFlight g h) :
      Effect w (.finish i) (.transaction (.ok t))
        { w with
          store := ⟨.empty, w.store.nextGeneration, none⟩
          submissions := Function.update w.submissions i none }

variable [DecidableEq H] {w w' : World H T} {op : Op H T} {out : Outcome T}

/-- **What a step of a consistent world does.** -/
theorem step_effect (hw : Consistent w) (h : step w op = some (w', out)) :
    Effect w op out w' := by
  cases op <;> simp only [step] at h
  case replace hash t =>
    cases h
    obtain ⟨e, he⟩ | ⟨ha, hf, hle, he⟩ := w.store.replace_cases hash t <;> rw [he]
    · exact .refusedGeneration _ e (.inl ⟨hash, t, rfl⟩)
    · exact .replaced hash t ha hf hle
  case begin i =>
    split at h
    · cases h
    obtain ⟨e, he⟩ | ⟨ha, hf, hle, he⟩ := w.store.beginPreparation_cases <;>
      rw [PreparationGuard.begin, he] at h <;> cases h
    · exact .refusedGeneration _ e (.inr ⟨i, rfl⟩)
    · exact .began i ha hf hle
  case commit i hash t =>
    split at h
    · cases h
    next guard hi =>
    obtain ⟨hg, ha⟩ := hw.preparation i guard hi
    have hf := hw.exclusive _ ha
    rw [PreparationGuard.commit, w.store.commitPreparation_of_active ha hf hash t] at h
    cases h
    rw [hg] at hi
    exact .committed i guard.generation hash t hi ha hf
  case dropPreparation i =>
    split at h
    · cases h
    next guard hi =>
    obtain ⟨hg, ha⟩ := hw.preparation i guard hi
    rw [PreparationGuard.drop, if_pos (by rw [hg]), w.store.abandonPreparation_of_active ha] at h
    cases h
    rw [hg] at hi
    exact .abandoned i guard.generation hi ha
  case cancel hash =>
    cases h
    obtain ⟨e, he⟩ | ⟨g, t, ha, hs, he⟩ := w.store.cancel_cases hash <;> rw [he]
    · exact .refusedTransaction _ e (.inl ⟨hash, rfl⟩)
    · exact .cancelled _ g hash t (.inl rfl) ha hs
  case cancelExact g hash =>
    cases h
    obtain ⟨e, he⟩ | ⟨t, ha, hs, he⟩ := w.store.cancelExact_cases g hash <;> rw [he]
    · exact .refusedTransaction _ e (.inr ⟨g, hash, rfl⟩)
    · exact .cancelled _ g hash t (.inr rfl) ha hs
  case take i hash =>
    split at h
    · cases h
    obtain ⟨e, he⟩ | ⟨g, t, ha, hs, he⟩ := w.store.takeForSubmission_cases hash <;>
      rw [SubmissionGuard.take, he] at h <;> cases h
    · exact .refusedUnit _ e (.inl ⟨i, hash, rfl⟩)
    · exact .taken _ i g hash t (.inl rfl) ha hs
  case takeExact i g hash =>
    split at h
    · cases h
    obtain ⟨e, he⟩ | ⟨t, ha, hs, he⟩ := w.store.takeForSubmissionExact_cases g hash <;>
      rw [SubmissionGuard.takeExact, he] at h <;> cases h
    · exact .refusedUnit _ e (.inr ⟨i, g, hash, rfl⟩)
    · exact .taken _ i g hash t (.inr rfl) ha hs
  case restore i | finish i | dropSubmission i =>
    split at h
    · cases h
    next guard hi =>
    obtain ⟨t, ht, hs⟩ := hw.submission i guard hi
    have ha := hw.not_preparing hs
    rw [ht] at h hi
    simp only [SubmissionGuard.restore, SubmissionGuard.finish, SubmissionGuard.drop,
      w.store.restoreAfterSubmission_of_inFlight hs t,
      w.store.finishSubmission_of_inFlight hs] at h
    cases h
    first
    | simpa [ha] using Effect.restored _ i _ _ t (.inl rfl) hi ha hs
    | simpa [ha] using Effect.restored _ i _ _ t (.inr rfl) hi ha hs
    | simpa [ha] using Effect.finished i _ _ t hi ha hs

end XelisWallet.PreparedInv
