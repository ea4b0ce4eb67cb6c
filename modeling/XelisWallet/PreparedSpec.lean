import XelisWallet.PreparedStore

/-!
What each operation of the prepared-transaction store does: either it refuses and leaves the
store as it was, or its preconditions held and the store is the one stated.
-/

namespace XelisWallet.PreparedStore.PreparedTransactionStore

open Checked

variable {H T : Type} (s : Store H T)

lemma allocateGeneration_cases :
    (u64Max < s.nextGeneration + 1 ∧ s.allocateGeneration = (.error .generationOverflow, s)) ∨
    (s.nextGeneration + 1 ≤ u64Max ∧ s.allocateGeneration =
      (.ok (s.nextGeneration + 1), { s with nextGeneration := s.nextGeneration + 1 })) := by
  unfold allocateGeneration
  rcases hc : checkedAdd u64Max s.nextGeneration 1 with _ | g
  · exact .inl ⟨checkedAdd_eq_none.mp hc, rfl⟩
  · obtain ⟨hle, rfl⟩ := checkedAdd_eq_some.mp hc
    exact .inr ⟨hle, rfl⟩

lemma ensureReplaceable_cases :
    (∃ e, s.ensureReplaceable = .error e) ∨
    (s.activePreparation = none ∧ s.state.isInFlight = false ∧ s.ensureReplaceable = .ok ()) := by
  unfold ensureReplaceable
  split_ifs with h₁ h₂
  · exact .inl ⟨_, rfl⟩
  · exact .inl ⟨_, rfl⟩
  · exact .inr ⟨by simpa using h₁, by simpa using h₂, rfl⟩

lemma ensureSlotOperationAvailable_cases :
    (∃ e, s.ensureSlotOperationAvailable = .error e) ∨
    (s.activePreparation = none ∧ s.ensureSlotOperationAvailable = .ok ()) := by
  unfold ensureSlotOperationAvailable
  split_ifs with h
  · exact .inl ⟨_, rfl⟩
  · exact .inr ⟨by simpa using h, rfl⟩

lemma allocate_cases (f : ℕ → Store H T → Store H T) :
    (∃ e, (match s.ensureReplaceable with
      | .error e => (Except.error e, s)
      | .ok () => match s.allocateGeneration with
        | (.error e, s) => (.error e, s)
        | (.ok g, s) => (.ok g, f g s)) = ((.error e : PreparedResult ℕ), s)) ∨
    (s.activePreparation = none ∧ s.state.isInFlight = false ∧ s.nextGeneration + 1 ≤ u64Max ∧
      (match s.ensureReplaceable with
      | .error e => (Except.error e, s)
      | .ok () => match s.allocateGeneration with
        | (.error e, s) => (.error e, s)
        | (.ok g, s) => (.ok g, f g s)) = ((.ok (s.nextGeneration + 1) : PreparedResult ℕ),
          f (s.nextGeneration + 1) { s with nextGeneration := s.nextGeneration + 1 })) := by
  obtain ⟨e, he⟩ | ⟨ha, hf, he⟩ := s.ensureReplaceable_cases
  · exact .inl ⟨e, by rw [he]⟩
  obtain ⟨-, hg⟩ | ⟨hle, hg⟩ := s.allocateGeneration_cases
  · exact .inl ⟨_, by rw [he, hg]⟩
  · exact .inr ⟨ha, hf, hle, by rw [he, hg]⟩

lemma replace_cases (hash : H) (transaction : T) :
    (∃ e, s.replace hash transaction = (.error e, s)) ∨
    (s.activePreparation = none ∧ s.state.isInFlight = false ∧ s.nextGeneration + 1 ≤ u64Max ∧
      s.replace hash transaction = (.ok (s.nextGeneration + 1),
        ⟨.ready (s.nextGeneration + 1) hash transaction, s.nextGeneration + 1, none⟩)) := by
  rcases s.allocate_cases (fun g s => { s with state := .ready g hash transaction })
    with ⟨e, he⟩ | ⟨ha, hf, hle, he⟩
  · exact .inl ⟨e, he⟩
  · exact .inr ⟨ha, hf, hle, he.trans (by simp [ha])⟩

lemma beginPreparation_cases :
    (∃ e, s.beginPreparation = (.error e, s)) ∨
    (s.activePreparation = none ∧ s.state.isInFlight = false ∧ s.nextGeneration + 1 ≤ u64Max ∧
      s.beginPreparation = (.ok (s.nextGeneration + 1),
        ⟨s.state, s.nextGeneration + 1, some (s.nextGeneration + 1)⟩)) :=
  s.allocate_cases (fun g s => { s with activePreparation := some g })

variable {g : ℕ} {hash : H} {t : T}

lemma commitPreparation_of_active (ha : s.activePreparation = some g)
    (hf : s.state.isInFlight = false) (hash : H) (transaction : T) :
    s.commitPreparation g hash transaction =
      (.ok (), ⟨.ready g hash transaction, s.nextGeneration, none⟩) := by
  simp [commitPreparation, ha, hf]

lemma abandonPreparation_of_active (ha : s.activePreparation = some g) :
    s.abandonPreparation g = (true, ⟨s.state, s.nextGeneration, none⟩) := by
  simp [abandonPreparation, ha]

lemma commitPreparation_cases (g : ℕ) (hash : H) (t : T) :
    (∃ e, s.commitPreparation g hash t = (.error e, s)) ∨
    ∃ s', s.commitPreparation g hash t = (.ok (), s') := by
  unfold commitPreparation
  split_ifs
  · exact .inl ⟨_, rfl⟩
  · exact .inl ⟨_, rfl⟩
  · exact .inr ⟨_, rfl⟩

lemma takeReadyForSubmission_cases :
    (∃ e, s.takeReadyForSubmission = (.error e, s)) ∨
    ∃ r s', s.takeReadyForSubmission = (.ok r, s') := by
  unfold takeReadyForSubmission
  split
  · exact .inr ⟨_, _, rfl⟩
  · exact .inl ⟨_, rfl⟩

/-- What the operations on the prepared transaction share: nothing is being prepared, and the slot
has the transaction that is asked for. -/
def onSlot {R : Type} (P : ℕ → H → Prop) [∀ g h, Decidable (P g h)]
    (submitting refused : PreparedTransactionError) (taken : PreparedResult R × Store H T) :
    PreparedResult R × Store H T :=
  match s.ensureSlotOperationAvailable with
  | .error e => (.error e, s)
  | .ok () =>
    match s.state with
    | .inFlight g h => if P g h then (.error submitting, s) else (.error refused, s)
    | .ready g h _ => if P g h then taken else (.error refused, s)
    | .empty => (.error refused, s)

lemma onSlot_cases {R : Type} (P : ℕ → H → Prop) [∀ g h, Decidable (P g h)]
    (submitting refused : PreparedTransactionError) (taken : PreparedResult R × Store H T) :
    (∃ e, s.onSlot P submitting refused taken = (.error e, s)) ∨
    ∃ g h t, s.activePreparation = none ∧ s.state = .ready g h t ∧ P g h ∧
      s.onSlot P submitting refused taken = taken := by
  unfold onSlot
  rcases s.ensureSlotOperationAvailable_cases with ⟨e, he⟩ | ⟨ha, he⟩ <;> rw [he]
  · exact .inl ⟨e, rfl⟩
  dsimp only
  split
  case h_2 g h t hs =>
    split_ifs with hm
    · exact .inr ⟨g, h, t, ha, hs, hm, rfl⟩
    · exact .inl ⟨_, rfl⟩
  all_goals try split_ifs
  all_goals exact .inl ⟨_, rfl⟩

variable [DecidableEq H]

lemma ensureReadyExact_eq_ok :
    s.ensureReadyExact g hash = .ok () ↔
      s.activePreparation = none ∧ ∃ t, s.state = .ready g hash t := by
  unfold ensureReadyExact
  obtain ⟨e, he⟩ | ⟨ha, he⟩ := s.ensureSlotOperationAvailable_cases
  · have : s.activePreparation ≠ none := by
      intro hn; simp [ensureSlotOperationAvailable, hn] at he
    simp [he, this]
  · rw [he]
    obtain _ | ⟨g', h', t'⟩ | ⟨g', h'⟩ := s.state
    · simp
    · by_cases hm : g' = g ∧ h' = hash
      · simp [hm, ha]
      · simp [hm]
    · by_cases hm : g' = g ∧ h' = hash <;> simp [hm]

lemma readyExact_eq_ok :
    s.readyExact g hash = .ok t ↔ s.activePreparation = none ∧ s.state = .ready g hash t := by
  unfold readyExact
  rcases he : s.ensureReadyExact g hash with e | ⟨⟩
  · have hn : ¬ (s.activePreparation = none ∧ ∃ t, s.state = .ready g hash t) := by
      rw [← ensureReadyExact_eq_ok, he]; simp
    simp only [reduceCtorEq, false_iff]
    exact fun h => hn ⟨h.1, t, h.2⟩
  · obtain ⟨ha, t', hs⟩ := (s.ensureReadyExact_eq_ok).mp he
    simp [hs, ha]

lemma cancel_cases (hash : H) :
    (∃ e, s.cancel hash = (.error e, s)) ∨
    (∃ g t, s.activePreparation = none ∧ s.state = .ready g hash t ∧
      s.cancel hash = (.ok t, ⟨.empty, s.nextGeneration, none⟩)) := by
  obtain he | ⟨g, _, t, ha, hs, rfl, he⟩ := s.onSlot_cases (fun _ h => h = hash)
    .cancellationDuringSubmission .cannotDelete s.takeCancelled
  · exact .inl he
  · exact .inr ⟨g, t, ha, hs, he.trans (by simp [takeCancelled, hs, ha])⟩

lemma cancelExact_cases (g : ℕ) (hash : H) :
    (∃ e, s.cancelExact g hash = (.error e, s)) ∨
    (∃ t, s.activePreparation = none ∧ s.state = .ready g hash t ∧
      s.cancelExact g hash = (.ok t, ⟨.empty, s.nextGeneration, none⟩)) := by
  obtain he | ⟨_, _, t, ha, hs, ⟨rfl, rfl⟩, he⟩ := s.onSlot_cases (fun g' h => g' = g ∧ h = hash)
    .cancellationDuringSubmission .notFound s.takeCancelled
  · exact .inl he
  · exact .inr ⟨t, ha, hs, he.trans (by simp [takeCancelled, hs, ha])⟩

lemma takeForSubmission_cases (hash : H) :
    (∃ e, s.takeForSubmission hash = (.error e, s)) ∨
    (∃ g t, s.activePreparation = none ∧ s.state = .ready g hash t ∧
      s.takeForSubmission hash = (.ok (g, t), ⟨.inFlight g hash, s.nextGeneration, none⟩)) := by
  obtain he | ⟨g, _, t, ha, hs, rfl, he⟩ := s.onSlot_cases (fun _ h => h = hash)
    .alreadySubmitting .notFound s.takeReadyForSubmission
  · exact .inl he
  · exact .inr ⟨g, t, ha, hs, he.trans (by simp [takeReadyForSubmission, hs, ha])⟩

lemma takeForSubmissionExact_cases (g : ℕ) (hash : H) :
    (∃ e, s.takeForSubmissionExact g hash = (.error e, s)) ∨
    (∃ t, s.activePreparation = none ∧ s.state = .ready g hash t ∧
      s.takeForSubmissionExact g hash = (.ok t, ⟨.inFlight g hash, s.nextGeneration, none⟩)) := by
  obtain he | ⟨_, _, t, ha, hs, ⟨rfl, rfl⟩, he⟩ := s.onSlot_cases (fun g' h => g' = g ∧ h = hash)
    .alreadySubmitting .notFound _
  · exact .inl he
  · exact .inr ⟨t, ha, hs, he.trans (by simp [takeReadyForSubmission, hs, ha])⟩

lemma cancelExact_of_ready (ha : s.activePreparation = none) (hs : s.state = .ready g hash t) :
    (s.cancelExact g hash).1 = .ok t := by
  simp [cancelExact, ensureSlotOperationAvailable, ha, hs, takeCancelled]

lemma takeForSubmissionExact_of_ready (ha : s.activePreparation = none)
    (hs : s.state = .ready g hash t) : (s.takeForSubmissionExact g hash).1 = .ok t := by
  simp [takeForSubmissionExact, ensureSlotOperationAvailable, ha, hs, takeReadyForSubmission]

lemma restoreAfterSubmission_of_inFlight (hs : s.state = .inFlight g hash) (t : T) :
    s.restoreAfterSubmission g hash t = (.ok (), { s with state := .ready g hash t }) := by
  simp [restoreAfterSubmission, hs]

lemma finishSubmission_of_inFlight (hs : s.state = .inFlight g hash) :
    s.finishSubmission g hash = (true, { s with state := .empty }) := by
  simp [finishSubmission, hs]

/-! ### Refusals -/

lemma restoreAfterSubmission_cases (g : ℕ) (hash : H) (t : T) :
    (∃ e, s.restoreAfterSubmission g hash t = (.error e, s)) ∨
    ∃ s', s.restoreAfterSubmission g hash t = (.ok (), s') := by
  unfold restoreAfterSubmission
  split
  · split_ifs
    · exact .inr ⟨_, rfl⟩
    · exact .inl ⟨_, rfl⟩
  · exact .inl ⟨_, rfl⟩

/-- The methods of the store that return a `Result`. -/
inductive Method (H T : Type)
  | allocateGeneration
  | ensureReplaceable
  | ensureSlotOperationAvailable
  | ensureReadyExact (generation : ℕ) (hash : H)
  | readyExact (generation : ℕ) (hash : H)
  | replace (hash : H) (transaction : T)
  | beginPreparation
  | commitPreparation (generation : ℕ) (hash : H) (transaction : T)
  | cancel (hash : H)
  | cancelExact (generation : ℕ) (hash : H)
  | takeForSubmission (hash : H)
  | takeForSubmissionExact (generation : ℕ) (hash : H)
  | takeReadyForSubmission
  | restoreAfterSubmission (generation : ℕ) (hash : H) (transaction : T)

/-- The error of a result. -/
def refusal {α : Type} : PreparedResult α → Option PreparedTransactionError
  | .error e => some e
  | .ok _ => none

/-- The error of a method, if it returns one, and the store it leaves. -/
def Method.run (s : Store H T) : Method H T → Option PreparedTransactionError × Store H T
  | allocateGeneration => s.allocateGeneration.map refusal id
  | ensureReplaceable => (refusal s.ensureReplaceable, s)
  | ensureSlotOperationAvailable => (refusal s.ensureSlotOperationAvailable, s)
  | ensureReadyExact generation hash => (refusal (s.ensureReadyExact generation hash), s)
  | readyExact generation hash => (refusal (s.readyExact generation hash), s)
  | replace hash transaction => (s.replace hash transaction).map refusal id
  | beginPreparation => s.beginPreparation.map refusal id
  | commitPreparation generation hash transaction =>
    (s.commitPreparation generation hash transaction).map refusal id
  | cancel hash => (s.cancel hash).map refusal id
  | cancelExact generation hash => (s.cancelExact generation hash).map refusal id
  | takeForSubmission hash => (s.takeForSubmission hash).map refusal id
  | takeForSubmissionExact generation hash =>
    (s.takeForSubmissionExact generation hash).map refusal id
  | takeReadyForSubmission => s.takeReadyForSubmission.map refusal id
  | restoreAfterSubmission generation hash transaction =>
    (s.restoreAfterSubmission generation hash transaction).map refusal id

omit [DecidableEq H] in
lemma map_refusal {α : Type} {r : PreparedResult α × Store H T} {e : PreparedTransactionError}
    (hr : (∃ e, r = (.error e, s)) ∨ ∃ a s', r = (.ok a, s'))
    (h : (r.map refusal id).1 = some e) : (r.map refusal id).2 = s := by
  obtain ⟨_, rfl⟩ | ⟨_, _, rfl⟩ := hr
  · rfl
  · cases h

lemma Method.run_frame (m : Method H T) {e : PreparedTransactionError}
    (h : (m.run s).1 = some e) : (m.run s).2 = s := by
  cases m with
  | ensureReplaceable | ensureSlotOperationAvailable | ensureReadyExact | readyExact => rfl
  | allocateGeneration =>
    refine map_refusal s (s.allocateGeneration_cases.imp ?_ ?_) h
    · exact fun hr => ⟨_, hr.2⟩
    · exact fun hr => ⟨_, _, hr.2⟩
  | replace hash t =>
    exact map_refusal s ((s.replace_cases hash t).imp_right fun hr => ⟨_, _, hr.2.2.2⟩) h
  | beginPreparation =>
    exact map_refusal s (s.beginPreparation_cases.imp_right fun hr => ⟨_, _, hr.2.2.2⟩) h
  | commitPreparation g hash t =>
    exact map_refusal s ((s.commitPreparation_cases g hash t).imp_right fun hr => ⟨_, hr⟩) h
  | cancel hash =>
    refine map_refusal s ((s.cancel_cases hash).imp_right ?_) h
    exact fun ⟨_, _, _, _, hr⟩ => ⟨_, _, hr⟩
  | cancelExact g hash =>
    refine map_refusal s ((s.cancelExact_cases g hash).imp_right ?_) h
    exact fun ⟨_, _, _, hr⟩ => ⟨_, _, hr⟩
  | takeForSubmission hash =>
    refine map_refusal s ((s.takeForSubmission_cases hash).imp_right ?_) h
    exact fun ⟨_, _, _, _, hr⟩ => ⟨_, _, hr⟩
  | takeForSubmissionExact g hash =>
    refine map_refusal s ((s.takeForSubmissionExact_cases g hash).imp_right ?_) h
    exact fun ⟨_, _, _, hr⟩ => ⟨_, _, hr⟩
  | takeReadyForSubmission => exact map_refusal s s.takeReadyForSubmission_cases h
  | restoreAfterSubmission g hash t =>
    exact map_refusal s ((s.restoreAfterSubmission_cases g hash t).imp_right fun hr => ⟨_, hr⟩) h

end XelisWallet.PreparedStore.PreparedTransactionStore
