import XelisWallet.PreparedSafe

/-!
A preparation capability, a generation with a hash, has exactly one life.

Generations only grow, so the generation of a transaction that left the slot is below the
counter, is not the one a preparation in progress is waiting to publish, and is nowhere in
the system. Nothing brings such a dead generation back.
-/

namespace XelisWallet.PreparedLife

open Checked Runs PreparedStore PreparedGuards PreparedInv PreparedSafe

variable {H T : Type} {w w' : World H T} {op : Op H T} {out : Outcome T} {g : ℕ} {h : H} {t : T}
  {l : Option ℕ}

/-- The generation an operation gives out, if any. -/
def given : Op H T × Outcome T → Option ℕ
  | (.replace _ _, .generation (.ok g)) => some g
  | (.begin _, .generation (.ok g)) => some g
  | _ => none

/-- The generations given out in a run, oldest first. -/
def generations (ls : List (Op H T × Outcome T)) : List ℕ := ls.filterMap given

/-- The transaction of generation `g` leaves the system by this operation. -/
def Retires (w : World H T) (op : Op H T) (out : Outcome T) (g : ℕ) : Prop :=
  ∃ h t l, Located w g h t l ∧ (Releases op out t ∨ ∃ g' h' t', Puts op out g' h' t')

/-- Every generation in the system was given out, and a preparation in progress is newer than
the transaction it would replace. -/
structure Bounded (w : World H T) : Prop where
  located : ∀ g h t l, Located w g h t l → g ≤ w.store.nextGeneration
  active : ∀ g, w.store.activePreparation = some g → g ≤ w.store.nextGeneration
  newer : ∀ g h t l g', Located w g h t l → w.store.activePreparation = some g' → g < g'
  counter : w.store.nextGeneration ≤ u64Max

/-- A generation that was given out and is nowhere in the system. -/
structure Dead (w : World H T) (g : ℕ) : Prop where
  le : g ≤ w.store.nextGeneration
  active : w.store.activePreparation ≠ some g
  absent : ∀ h t l, ¬ Located w g h t l

lemma bounded_init : Bounded (World.init : World H T) := by
  refine ⟨?_, by simp [World.init, PreparedTransactionStore.default], ?_, Nat.zero_le _⟩
  · intro g h t l hl
    cases l <;> simp [Located, World.init, PreparedTransactionStore.default] at hl
  · intro g h t l g' _ ha
    simp [World.init, PreparedTransactionStore.default] at ha

variable (he : Effect w op out w')
include he

lemma effect_counter :
    (given (op, out) = none ∧ w'.store.nextGeneration = w.store.nextGeneration) ∨
    (given (op, out) = some (w.store.nextGeneration + 1) ∧ w.store.nextGeneration + 1 ≤ u64Max ∧
      w'.store.nextGeneration = w.store.nextGeneration + 1) := by
  cases he with
  | refusedGeneration op e hop => rcases hop with ⟨_, _, rfl⟩ | ⟨_, rfl⟩ <;> exact .inl ⟨rfl, rfl⟩
  | refusedTransaction op e hop => rcases hop with ⟨_, rfl⟩ | ⟨_, _, rfl⟩ <;> exact .inl ⟨rfl, rfl⟩
  | refusedUnit op e hop => rcases hop with ⟨_, _, rfl⟩ | ⟨_, _, _, rfl⟩ <;> exact .inl ⟨rfl, rfl⟩
  | replaced _ _ _ _ hle | began _ _ _ hle => exact .inr ⟨rfl, hle, rfl⟩
  | cancelled _ _ _ _ hop | taken _ _ _ _ _ hop | restored _ _ _ _ _ hop =>
    rcases hop with rfl | rfl <;> exact .inl ⟨rfl, rfl⟩
  | committed | abandoned | finished => exact .inl ⟨rfl, rfl⟩

lemma effect_active (ha : w'.store.activePreparation = some g) : w.store.activePreparation = some g
    ∨ (g = w.store.nextGeneration + 1 ∧ w'.store.nextGeneration = g) := by
  cases he with
  | refusedGeneration | refusedTransaction | refusedUnit => exact .inl ha
  | began =>
    obtain rfl := Option.some.inj ha
    exact .inr ⟨rfl, rfl⟩
  | replaced | committed | abandoned | cancelled | taken | restored | finished => cases ha

lemma effect_puts (hp : Puts op out g h t) :
    ((g = w.store.nextGeneration + 1 ∧ w'.store.nextGeneration = g) ∨
      w.store.activePreparation = some g) ∧
      w'.store.activePreparation = none ∧ w'.store.state = .ready g h t := by
  obtain ⟨rfl, hop⟩ := hp
  cases he with
  | replaced =>
    rcases hop with hop | ⟨i, hop⟩ <;> cases hop
    exact ⟨.inl ⟨rfl, rfl⟩, rfl, rfl⟩
  | began => rcases hop with hop | ⟨i, hop⟩ <;> cases hop
  | committed i g' h' t' hi ha =>
    rcases hop with hop | ⟨j, hop⟩ <;> cases hop
    exact ⟨.inr ha, rfl, rfl⟩

omit he

variable (hw : Consistent w)
include hw

lemma effect_releases (he : Effect w op out w') (hr : Releases op out t) :
    w'.store.activePreparation = none ∧ ∀ g h t l, ¬ Located w' g h t l := by
  have hw' := effect_consistent hw he
  obtain ⟨rfl, hop⟩ := hr
  have hempty : ∀ {w : World H T}, Consistent w → w.store.state = .empty →
      ∀ g h t l, ¬ Located w g h t l := by
    intro w hc hs g h t l hl
    obtain _ | i := l
    · simp [Located, hs] at hl
    · simp [Located, hc.no_submission (by rw [hs]; rfl) i] at hl
  cases he with
  | cancelled | finished => exact ⟨rfl, hempty hw' rfl⟩

lemma effect_bounded (hb : Bounded w) (he : Effect w op out w') : Bounded w' := by
  have hc := effect_counter he
  refine ⟨?_, ?_, ?_, ?_⟩
  · intro g h t l hl
    obtain ⟨l', hl'⟩ | hp := located_source hw he hl
    · have := hb.located g h t l' hl'; omega
    obtain ⟨-, hn⟩ | ha := (effect_puts he hp).1
    · omega
    · have := hb.active g ha; omega
  · intro g ha
    obtain ha' | ⟨-, hn⟩ := effect_active he ha
    · have := hb.active g ha'; omega
    · omega
  · intro g h t l g' hl ha
    obtain ⟨l', hl'⟩ | hp := located_source hw he hl
    · obtain ha' | ⟨rfl, -⟩ := effect_active he ha
      · exact hb.newer g h t l' g' hl' ha'
      · have := hb.located g h t l' hl'; omega
    · rw [(effect_puts he hp).2.1] at ha; cases ha
  · have := hb.counter; omega

lemma dead_step (he : Effect w op out w') (hd : Dead w g) : Dead w' g := by
  have hle := hd.le
  refine ⟨?_, ?_, ?_⟩
  · have := effect_counter he; omega
  · intro ha
    obtain ha' | ⟨rfl, -⟩ := effect_active he ha
    · exact hd.active ha'
    · omega
  · intro h t l hl
    obtain ⟨l', hl'⟩ | hp := located_source hw he hl
    · exact hd.absent h t l' hl'
    obtain ⟨rfl, -⟩ | ha := (effect_puts he hp).1
    · omega
    · exact hd.active ha

lemma retires_dead (hb : Bounded w) (he : Effect w op out w')
    (hr : Retires w op out g) : Dead w' g := by
  obtain ⟨h, t, l, hl, hr⟩ := hr
  have hle := hb.located g h t l hl
  have hcount := effect_counter he
  obtain hr | ⟨g', h', t', hp⟩ := hr
  · obtain ⟨ha, hempty⟩ := effect_releases hw he hr
    exact ⟨by omega, by simp [ha], hempty g⟩
  obtain ⟨hg', ha, hs⟩ := effect_puts he hp
  refine ⟨by omega, by simp [ha], fun h₂ t₂ l₂ hl₂ => ?_⟩
  obtain ⟨-, rfl, -, -⟩ := located_unique (effect_consistent hw he) hl₂ (m := none) hs
  -- the newcomer is strictly newer than what it replaces
  obtain ⟨rfl, -⟩ | ha' := hg'
  · omega
  · have := hb.newer g h t l g hl ha'; omega

omit hw

lemma exhausted {s : PreparedTransactionStore H T} (hs : s.nextGeneration = u64Max) :
    s.allocateGeneration = (.error .generationOverflow, s) ∧
    (∀ h t, ∃ e, s.replace h t = (.error e, s)) ∧ ∃ e, s.beginPreparation = (.error e, s) := by
  refine ⟨?_, fun h t => ?_, ?_⟩
  · obtain ⟨-, he⟩ | ⟨hle, -⟩ := s.allocateGeneration_cases
    · exact he
    · omega
  · obtain he | ⟨-, -, hle, -⟩ := s.replace_cases h t
    · exact he
    · omega
  · obtain he | ⟨-, -, hle, -⟩ := s.beginPreparation_cases
    · exact he
    · omega

section Runs

variable [DecidableEq H]

lemma reachable_bounded (hw : Reachable (prepared H T) w) : Bounded w := by
  refine hw.invariant (P := Bounded) (fun w h => ?_) fun w l w' hr hb hst => ?_
  · rw [h]; exact bounded_init
  · exact effect_bounded (reachable_consistent hr) hb (reachable_effect hr hst)

variable {ls : List (Op H T × Outcome T)}

lemma run_dead (hw : Reachable (prepared H T) w) (hr : Run (prepared H T) w ls w') (hd : Dead w g) :
    Dead w' g := by
  refine hr.history (P := fun _ w => Dead w g) hd fun ls v op u hv hd hst => ?_
  have hreach := hw.run hv
  exact dead_step (reachable_consistent hreach) (reachable_effect hreach hst) hd

/-- Along a run a generation stands for one hash and one transaction, until it is dead. -/
lemma run_located (hw : Reachable (prepared H T) w) (hr : Run (prepared H T) w ls w')
    (hl : Located w g h t l) : (∃ l', Located w' g h t l') ∨ Dead w' g := by
  refine hr.history (P := fun _ w => (∃ l', Located w g h t l') ∨ Dead w g) (.inl ⟨l, hl⟩)
    fun ls v op u hv hlife hst => ?_
  have hreach := hw.run hv
  have hc := reachable_consistent hreach
  have he := reachable_effect hreach hst
  obtain ⟨l', hl'⟩ | hd := hlife
  · obtain hkept | hret := located_kept hc he hl'
    · exact .inl hkept
    · exact .inr (retires_dead hc (reachable_bounded hreach) he ⟨h, t, l', hl', hret⟩)
  · exact .inr (dead_step hc he hd)

lemma run_generations (hr : Run (prepared H T) World.init ls w) :
    (generations ls).Pairwise (· < ·) ∧ ∀ g ∈ generations ls, g ≤ w.store.nextGeneration := by
  refine hr.history (P := fun ls w => (generations ls).Pairwise (· < ·) ∧
    ∀ g ∈ generations ls, g ≤ w.store.nextGeneration) (by simp [generations])
    fun ls v op u hv ih hst => ?_
  have hreach : Reachable (prepared H T) v := ⟨_, _, rfl, hv⟩
  have hcount := effect_counter (reachable_effect hreach hst)
  obtain ⟨hpw, hle⟩ := ih
  have happ : generations (ls ++ [op]) = generations ls ++ (given op).toList := by
    rcases hg : given op with _ | g <;> simp [generations, hg]
  rw [happ]
  rcases hcount with ⟨hg, hn⟩ | ⟨hg, -, hn⟩ <;> rw [hg]
  · simp only [Option.toList_none, List.append_nil]
    exact ⟨hpw, fun g hg => by have := hle g hg; omega⟩
  simp only [Option.toList_some, List.pairwise_append, List.pairwise_cons, List.mem_singleton,
    List.mem_append]
  refine ⟨⟨hpw, by simp, ?_⟩, ?_⟩
  · rintro a ha b rfl
    have := hle a ha; omega
  rintro a (ha | rfl)
  · have := hle a ha; omega
  · omega

/-! ### What a capability can still do -/

/-- The capability `(g, h)` gives access to the transaction `t`. -/
def Usable (s : PreparedTransactionStore H T) (g : ℕ) (h : H) (t : T) : Prop :=
  s.ensureReadyExact g h = .ok () ∧ s.readyExact g h = .ok t ∧
    (s.cancelExact g h).1 = .ok t ∧ (s.takeForSubmissionExact g h).1 = .ok t

/-- The capability `(g, h)` gives access to nothing. -/
def Unusable (s : PreparedTransactionStore H T) (g : ℕ) (h : H) : Prop :=
  s.ensureReadyExact g h ≠ .ok () ∧ ∀ t, s.readyExact g h ≠ .ok t ∧
    (s.cancelExact g h).1 ≠ .ok t ∧ (s.takeForSubmissionExact g h).1 ≠ .ok t

lemma usable_of_ready {s : PreparedTransactionStore H T} (ha : s.activePreparation = none)
    (hs : s.state = .ready g h t) : Usable s g h t :=
  ⟨s.ensureReadyExact_eq_ok.mpr ⟨ha, t, hs⟩, s.readyExact_eq_ok.mpr ⟨ha, hs⟩,
    s.cancelExact_of_ready ha hs, s.takeForSubmissionExact_of_ready ha hs⟩

lemma unusable_of_not_ready {s : PreparedTransactionStore H T}
    (hs : ∀ t, s.state ≠ .ready g h t) : Unusable s g h := by
  refine ⟨?_, fun t => ⟨?_, ?_, ?_⟩⟩
  · intro he
    obtain ⟨-, t, ht⟩ := s.ensureReadyExact_eq_ok.mp he
    exact hs t ht
  · intro he
    exact hs t (s.readyExact_eq_ok.mp he).2
  · obtain ⟨e, he⟩ | ⟨t', -, ht', -⟩ := s.cancelExact_cases g h
    · rw [he]; simp
    · exact absurd ht' (hs t')
  · obtain ⟨e, he⟩ | ⟨t', -, ht', -⟩ := s.takeForSubmissionExact_cases g h
    · rw [he]; simp
    · exact absurd ht' (hs t')

lemma restore_usable {i : ℕ} {guard : SubmissionGuard H T} (hw : Reachable (prepared H T) w)
    (hi : w.submissions i = some guard) (hop : op = .restore i ∨ op = .dropSubmission i) : ∃ w' t,
    step w op = some (w', .unit (.ok ())) ∧ guard.transaction = some t ∧ w'.store.state = .ready
    guard.generation guard.hash t ∧ Usable w'.store guard.generation guard.hash t := by
  have hc := reachable_consistent hw
  obtain ⟨t, hguard, hs⟩ := hc.submission i guard hi
  have hrestore := w.store.restoreAfterSubmission_of_inFlight hs t
  rw [hguard] at hi
  -- both give the transaction of the guard back to the store
  obtain ⟨w', hst, hstore⟩ : ∃ w', step w op = some (w', .unit (.ok ())) ∧
      w'.store = { w.store with state := .ready guard.generation guard.hash t } := by
    obtain rfl | rfl := hop
    · simp only [step, hi, SubmissionGuard.restore, hrestore]
      exact ⟨_, rfl, rfl⟩
    · simp only [step, hi, SubmissionGuard.drop, hrestore]
      exact ⟨_, rfl, rfl⟩
  refine ⟨w', t, hst, congrArg SubmissionGuard.transaction hguard, ?_, ?_⟩ <;> rw [hstore]
  exact usable_of_ready (hc.not_preparing hs) rfl

/-- **A preparation capability has exactly one life.** Generations given out are strictly
increasing and at most `u64::MAX`, where every allocation fails and changes nothing. After
the transaction of a generation was cancelled, finished or replaced, no run makes the
generation usable with any hash. A restored submission makes the generation, hash and
transaction that were taken usable again. -/
theorem capability_one_life (H T : Type) [DecidableEq H] :
    (∀ ls (w : World H T), Run (prepared H T) World.init ls w →
      (generations ls).Pairwise (· < ·) ∧ ∀ g ∈ generations ls, g ≤ u64Max) ∧
    (∀ s : PreparedTransactionStore H T, s.nextGeneration = u64Max →
      s.allocateGeneration = (.error .generationOverflow, s) ∧
      (∀ h t, ∃ e, s.replace h t = (.error e, s)) ∧ ∃ e, s.beginPreparation = (.error e, s)) ∧
    (∀ (w : World H T) op out w' g, Reachable (prepared H T) w → step w op = some (w', out) →
      Retires w op out g → ∀ ls w'', Run (prepared H T) w' ls w'' → ∀ h, Unusable w''.store g h) ∧
    ∀ (w : World H T) op i w₁ g h t, Reachable (prepared H T) w → w.store.state = .ready g h t →
      op = .take i h ∨ op = .takeExact i g h → step w op = some (w₁, .unit (.ok ())) →
      ∀ ls w₂, Run (prepared H T) w₁ ls w₂ → ∀ j guard, w₂.submissions j = some guard →
      guard.generation = g → ∀ op', op' = .restore j ∨ op' = .dropSubmission j →
      ∃ w₃, step w₂ op' = some (w₃, .unit (.ok ())) ∧ w₃.store.state = .ready g h t ∧
        Usable w₃.store g h t := by
  refine ⟨fun ls w hr => ?_, fun s => exhausted, ?_, ?_⟩
  · have hb := (reachable_bounded ⟨_, _, rfl, hr⟩).counter
    obtain ⟨hpw, hle⟩ := run_generations hr
    exact ⟨hpw, fun g hg => Nat.le_trans (hle g hg) hb⟩
  · intro w op out w' g hw hst hret ls w'' hr h
    have hd := retires_dead (reachable_consistent hw) (reachable_bounded hw)
      (reachable_effect hw hst) hret
    have hd' := run_dead (reachable_step hw op hst) hr hd
    exact unusable_of_not_ready fun t ht => hd'.absent h t none ht
  · rintro w op i w₁ g h t hw hs - hst ls w₂ hr j guard hj rfl op' hop'
    have h₂ := (reachable_step hw op hst).run hr
    obtain ⟨w₃, t', hst₃, ht', hs₃, hu⟩ := restore_usable h₂ hj hop'
    -- the guard still stands for the hash and the transaction that were taken
    have hguard : Located w₂ guard.generation guard.hash t' (some j) := by
      rw [Located, hj, ← ht']
    have hrun : Run (prepared H T) w ((op, .unit (.ok ())) :: ls) w₂ :=
      (Run.single (M := prepared H T) (l := (op, Outcome.unit (.ok ()))) hst).append hr
    rcases run_located hw hrun (l := none) hs with ⟨l', hl'⟩ | hd
    · obtain ⟨-, -, rfl, rfl⟩ := located_unique (reachable_consistent h₂) hguard hl'
      exact ⟨w₃, hst₃, hs₃, hu⟩
    · exact absurd hguard (hd.absent _ _ _)

/-- Generation `1` is retired when a second transaction with the same hash replaces it. -/
theorem replaced_capability_is_dead :
    ∃ w w' : World ℕ ℕ, Reachable (prepared ℕ ℕ) w ∧
      step w (.replace 7 43) = some (w', .generation (.ok 2)) ∧
      Retires w (.replace 7 43) (.generation (.ok 2)) 1 ∧ Unusable w'.store 1 7 := by
  have h₁ : Reachable (prepared ℕ ℕ) ⟨⟨.ready 1 7 42, 1, none⟩, fun _ => none, fun _ => none⟩ :=
    reachable_step (.of_init (s := World.init) rfl) (.replace 7 42) rfl
  have hret : Retires (⟨⟨.ready 1 7 42, 1, none⟩, fun _ => none, fun _ => none⟩ : World ℕ ℕ)
      (.replace 7 43) (.generation (.ok 2)) 1 :=
    ⟨7, 42, none, rfl, .inr ⟨2, 7, 43, rfl, .inl rfl⟩⟩
  exact ⟨_, _, h₁, rfl, hret,
    (capability_one_life ℕ ℕ).2.2.1 _ _ _ _ 1 h₁ rfl hret [] _ (.nil _) 7⟩

end Runs

end XelisWallet.PreparedLife
