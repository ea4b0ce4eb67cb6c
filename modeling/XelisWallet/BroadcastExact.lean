import XelisWallet.BroadcastInv

/-!
What becomes of a transaction that is broadcast by its generation and hash.

A capability stands for a transaction until its generation is dead. A broadcast by capability that
tells that the transaction is gone, or that it was not found, tells it of a dead generation.
-/

namespace XelisWallet.BroadcastExact

open Runs PreparedStore PreparedInv PreparedSafe PreparedLife Submission Broadcast BroadcastInv
open PreparedGuards hiding step
open ErrorClassification (WalletError)

variable {H T : Type} [DecidableEq H] {s s' : Wallet H T} {i g : ℕ} {h : H}

/-! ### A step is local -/

/-- The call a step is about. -/
def callOf : Action H T → Option ℕ
  | .start i _ | .online i _ | .read i _ | .submit i _ | .settle i | .unwind i | .complete i _
  | .drop i => some i
  | .other _ => none

/-- Only call `j` and its guard are changed. -/
structure Local (j : Option ℕ) (s s' : Wallet H T) : Prop where
  run : ∃ ops, Run (prepared H T) s.world ops s'.world
  calls : ∀ i, j ≠ some i → s'.calls i = s.calls i
  submissions : ∀ i, j ≠ some i → s'.world.submissions i = s.world.submissions i

omit [DecidableEq H] in
lemma update_calls {calls : ℕ → Call H T} {c : Call H T} {k : ℕ} (hk : some i ≠ some k) :
    Function.update calls i c k = calls k :=
  Function.update_of_ne (fun hki => hk (by rw [hki])) _ _

lemma Local.move (phase : Phase H) : Local (some i) s (s.move i phase) :=
  ⟨⟨[], .nil _⟩, fun _ => update_calls, fun _ _ => rfl⟩

lemma Local.first (phase : Phase H) : Local (some i) s (s.first i s.world phase) :=
  ⟨⟨[], .nil _⟩, fun _ => update_calls, fun _ _ => rfl⟩

variable {w w' : World H T} {b : Bool}

lemma Local.operate (hs : Inv s) {op : Op H T} {out : Outcome T}
    (hst : PreparedGuards.step s.world op = some (w, out)) (hop : guardVar op = some i)
    (c : Call H T) :
    Local (some i) s { s with world := w, calls := Function.update s.calls i c } := by
  refine ⟨⟨[(op, out)], .single hst⟩, fun _ => update_calls, fun k hk => ?_⟩
  exact effect_frame (reachable_effect hs.world hst) (hop ▸ hk)

lemma Local.dropGuard (hs : Inv s) {told : Told} (hst : s.dropGuard i told = some s') :
    Local (some i) s s' := by
  unfold Wallet.dropGuard at hst
  split at hst <;> cases hst
  next world out hop => exact .operate hs hop rfl _

lemma Local.submitGuarded (hs : Inv s) (hst : s.submitGuarded i = some s') :
    Local (some i) s s' := by
  unfold Wallet.submitGuarded at hst
  split at hst
  · cases hst
  split at hst
  · exact .dropGuard hs hst
  · cases hst
    exact .move _

lemma Local.trans {j : Option ℕ} {s'' : Wallet H T} (h : Local j s s') (h' : Local j s' s'') :
    Local j s s'' := by
  obtain ⟨ops, hrun⟩ := h.run
  obtain ⟨ops', hrun'⟩ := h'.run
  exact ⟨⟨ops ++ ops', hrun.append hrun'⟩, fun i hi => (h'.calls i hi).trans (h.calls i hi),
    fun i hi => (h'.submissions i hi).trans (h.submissions i hi)⟩

lemma startStep_local {path : Path H} (hst : startStep s i path = some s') :
    Local (some i) s s' := by
  unfold startStep at hst
  split at hst <;> cases hst
  · exact .first _
  · exact .move _

variable (hs : Inv s)
include hs

lemma onlineStep_local (hst : onlineStep s i b = some s') : Local (some i) s s' := by
  unfold onlineStep at hst
  split at hst
  · split at hst <;> cases hst
    · exact .move _
    · exact .first _
  · split at hst
    · split at hst <;> cases hst
      · next hop => exact .operate hs hop rfl _
      · next hop => exact .operate hs hop rfl _
    · split at hst <;> cases hst <;> exact .first _
  · cases hst

lemma readStep_local {r : Except StorageRead Unit}
    (hst : readStep s i r = some s') : Local (some i) s s' := by
  have hcall := hs.call i
  unfold readStep at hst
  split at hst
  · cases hst; exact .first _
  · cases hst; exact .first _
  · next hash hp =>
    simp only [CallInv, hp] at hcall
    split at hst
    · next world hop =>
      have hlocal : Local (some i) s (s.first i world .reading) := .operate hs hop rfl _
      obtain ⟨-, hinv⟩ | ⟨e, he, -⟩ := take_inv hs (by simp [hp]) hcall (g := 0) (.inl rfl) hop
      · exact hlocal.trans (.submitGuarded hinv hst)
      · cases he
    · next hop => cases hst; exact .operate hs hop rfl _
    · cases hst
  · exact .dropGuard hs hst
  · exact .submitGuarded hs hst
  · cases hst

lemma settleStep_local (hst : settleStep s i = some s') : Local (some i) s s' := by
  unfold settleStep at hst
  split at hst
  case h_3 => cases hst
  all_goals
    split at hst <;> cases hst
    all_goals next hop => exact .operate hs hop rfl _

lemma dropStep_local (hst : dropStep s i = some s') : Local (some i) s s' := by
  unfold dropStep at hst
  split at hst
  · cases hst; exact .first _
  · cases hst; exact .first _
  · exact .dropGuard hs hst
  · exact .dropGuard hs hst
  · cases hst; exact .move _
  · cases hst

lemma step_local {a : Action H T} (hst : step s a = some s') : Local (callOf a) s s' := by
  cases a with
  | start => exact startStep_local hst
  | online => exact onlineStep_local hs hst
  | read => exact readStep_local hs hst
  | submit =>
    simp only [step, submitStep] at hst
    split at hst <;> cases hst
    exact ⟨⟨[], .nil _⟩, fun _ => update_calls, fun _ _ => rfl⟩
  | settle => exact settleStep_local hs hst
  | unwind =>
    simp only [step, unwindStep] at hst
    split at hst
    · split at hst
      · cases hst
        exact .move _
      · exact .dropGuard hs hst
    · cases hst
  | complete =>
    simp only [step, completeStep] at hst
    split at hst <;> cases hst
    exact .move _
  | drop => exact dropStep_local hs hst
  | other op =>
    simp only [step, otherStep] at hst
    split at hst
    · next hvar =>
      split at hst <;> cases hst
      next out hop =>
      refine ⟨⟨[(op, out)], .single hop⟩, fun _ _ => rfl, fun k _ => ?_⟩
      refine effect_frame (reachable_effect hs.world hop) ?_
      rw [Option.isNone_iff_eq_none.mp hvar]
      nofun
    · cases hst

omit hs

/-! ### The life of a capability -/

/-- The capability stands for a transaction, or for none ever again. -/
def Held (w : World H T) (g : ℕ) (h : H) : Prop := (∃ t l, Located w g h t l) ∨ Dead w g

lemma Held.run {ops : List (Op H T × Outcome T)} (hw : Reachable (prepared H T) w)
    (hrun : Run (prepared H T) w ops w') (hheld : Held w g h) : Held w' g h := by
  obtain ⟨t, l, hl⟩ | hdead := hheld
  · exact (run_located hw hrun hl).imp_left fun hkept => ⟨t, hkept⟩
  · exact .inr (run_dead hw hrun hdead)

omit [DecidableEq H] in
lemma state_of_located {t : T} {l : Option ℕ} (hw : Consistent w) (hl : Located w g h t l) :
    w.store.state = .ready g h t ∨ w.store.state = .inFlight g h := by
  cases l with
  | none => exact .inl hl
  | some k => exact .inr (hw.submission k _ hl).choose_spec.2

/-- The errors with the kind `PREPARED_TRANSACTION_NOT_FOUND`. -/
def gone : PreparedTransactionError → Bool
  | .cannotDelete | .notFound => true
  | _ => false

lemma Held.dead (hw : Consistent w) (hheld : Held w g h) {e : PreparedTransactionError}
    (hgone : gone e = true)
    (hnot : w.store.ensureReadyExact g h = .error e ∨
      (w.store.takeForSubmissionExact g h).1 = .error e ∨
      (w.store.cancelExact g h).1 = .error e) : Dead w g := by
  obtain ⟨t, l, hl⟩ | hdead := hheld
  · exfalso
    cases hactive : w.store.activePreparation <;> rcases state_of_located hw hl with hstate | hstate
      <;> simp [PreparedTransactionStore.ensureReadyExact,
        PreparedTransactionStore.takeForSubmissionExact, PreparedTransactionStore.cancelExact,
        PreparedTransactionStore.takeReadyForSubmission, PreparedTransactionStore.takeCancelled,
        PreparedTransactionStore.ensureSlotOperationAvailable, hactive, hstate] at hnot
      <;> rcases hnot with rfl | rfl <;> cases hgone
  · exact hdead

lemma Held.cancelled (hw : Reachable (prepared H T) w) (hheld : Held w g h)
    {result : PreparedResult T}
    (hst : PreparedGuards.step w (.cancelExact g h) = some (w', .transaction result))
    (hresult : ∀ e, result = .error e → gone e = true) : Dead w' g := by
  have hc := reachable_consistent hw
  have he := reachable_effect hw hst
  have hsame : (w.store.cancelExact g h).1 = result := by
    cases hst
    rfl
  cases he with
  | refusedTransaction _ e => exact hheld.dead hc (hresult e rfl) (.inr (.inr hsame))
  | cancelled _ g' h' t hop ha hs =>
    rcases hop with hop | hop <;> cases hop
    exact retires_dead hc (reachable_bounded hw) (.cancelled _ g h t (.inr rfl) ha hs)
      ⟨h, t, none, hs, .inl ⟨rfl, .inr (.inl ⟨g, h, rfl⟩)⟩⟩

/-- What a call knows of the generation it broadcasts. -/
def Exact (s : Wallet H T) (i g : ℕ) (h : H) : Prop :=
  match (s.calls i).phase with
  | .online path => path = .exact g (some h)
  | .reading | .submitting | .resolved _ => ∃ t, s.world.submissions i = some ⟨g, h, some t⟩
  | .settling r => r.isRetryable = false → Dead s.world g
  | .done told => told ≠ .error .offline ∧
    (consumes told = true ∨ (∃ e, told = .error (.prepared e) ∧ gone e = true) → Dead s.world g)
  | .idle | .storage _ | .unwinding _ => False

lemma Exact.frame {j : Option ℕ} (hs : Inv s) (hlocal : Local j s s') (hj : j ≠ some i)
    (hexact : Exact s i g h) : Exact s' i g h := by
  obtain ⟨ops, hrun⟩ := hlocal.run
  unfold Exact at hexact ⊢
  rw [hlocal.calls i hj, hlocal.submissions i hj]
  split <;> rename_i hp <;> simp only [hp] at hexact
  · exact hexact
  · exact hexact
  · exact hexact
  · exact hexact
  · exact fun hr => run_dead hs.world hrun (hexact hr)
  · exact ⟨hexact.1, fun htold => run_dead hs.world hrun (hexact.2 htold)⟩

lemma takeExact_taken (hw : Reachable (prepared H T) w)
    (hst : PreparedGuards.step w (.takeExact i g h) = some (w', .unit (.ok ()))) :
    ∃ t, w'.submissions i = some ⟨g, h, some t⟩ := by
  cases reachable_effect hw hst with
  | taken _ j g' h' t hop =>
    rcases hop with hop | hop <;> cases hop
    exact ⟨t, Function.update_self ..⟩
  | restored _ _ _ _ _ hop => rcases hop with hop | hop <;> cases hop

lemma takeExact_refused {e : PreparedTransactionError}
    (hst : PreparedGuards.step w (.takeExact i g h) = some (w', .unit (.error e))) :
    (w.store.takeForSubmissionExact g h).1 = .error e := by
  simp only [PreparedGuards.step, SubmissionGuard.takeExact] at hst
  split at hst
  · cases hst
  split at hst
  · next heq =>
    split at heq <;> cases heq
    next herror =>
    cases hst
    rw [herror]
  · cases hst

lemma Exact.online (hs : Inv s) (hheld : Held s.world g h) (hexact : Exact s i g h)
    (hst : onlineStep s i b = some s') : Exact s' i g h := by
  have hc := reachable_consistent hs.world
  unfold onlineStep at hst
  split at hst
  · next hp => simp [Exact, hp] at hexact
  · next g' h' hp =>
    simp only [Exact, hp, Path.exact.injEq, Option.some.injEq] at hexact
    obtain ⟨rfl, rfl⟩ := hexact
    split at hst
    · split at hst <;> cases hst
      · next world hop => simpa [Exact, Wallet.first] using takeExact_taken hs.world hop
      next world e hop =>
      simp only [Exact, Wallet.first, Function.update_self]
      refine ⟨by simp, ?_⟩
      rintro (htold | ⟨_, htold, hgone⟩) <;> cases htold
      obtain ⟨ops, hrun⟩ : ∃ ops, Run (prepared H T) s.world ops world :=
        ⟨[(_, _)], .single hop⟩
      exact run_dead hs.world hrun (hheld.dead hc hgone (.inr (.inl (takeExact_refused hop))))
    · split at hst <;> cases hst
      · next e he =>
        simp only [Exact, Wallet.first, Function.update_self]
        refine ⟨by simp, ?_⟩
        rintro (htold | ⟨_, htold, hgone⟩) <;> cases htold
        exact hheld.dead hc hgone (.inl he)
      · simp [Exact, Wallet.first, consumes]
  · cases hst

lemma Exact.dropGuard {told : Told} (hst : s.dropGuard i told = some s')
    (htold : consumes told = false) (hnot : ∀ e, told ≠ .error (.prepared e))
    (honline : told ≠ .error .offline) : Exact s' i g h := by
  unfold Wallet.dropGuard at hst
  split at hst <;> cases hst
  simp [Exact, Wallet.last, htold, hnot, honline]

lemma Exact.read (hexact : Exact s i g h) {r : Except StorageRead Unit}
    (hst : readStep s i r = some s') : Exact s' i g h := by
  unfold readStep at hst
  split at hst
  · next hp => simp [Exact, hp] at hexact
  · next hp => simp [Exact, hp] at hexact
  · next hp => simp [Exact, hp] at hexact
  · exact .dropGuard hst rfl nofun nofun
  · next hp =>
    simp only [Exact, hp] at hexact
    obtain ⟨t, hguard⟩ := hexact
    simp only [Wallet.submitGuarded, hguard, SubmissionGuard.borrow] at hst
    cases hst
    simp [Exact, Wallet.move, hguard]
  · cases hst

omit [DecidableEq H] in
lemma Exact.submit (hexact : Exact s i g h) {r : Except WalletError Unit}
    (hst : submitStep s i r = some s') : Exact s' i g h := by
  unfold submitStep at hst
  split at hst <;> cases hst
  next hp => simpa [Exact, Wallet.move, hp] using hexact

lemma Exact.settle (hs : Inv s) (hexact : Exact s i g h) (hst : settleStep s i = some s') :
    Exact s' i g h := by
  unfold settleStep at hst
  split at hst
  · next error hp =>
    simp only [Exact, hp] at hexact
    obtain ⟨t, hguard⟩ := hexact
    split at hst
    · cases hst
      simp [Exact, Wallet.last, SubmissionResolution.isRetryable]
    · next hop =>
      have hout := (effect_restore (reachable_effect hs.world hop) (.inl rfl) hguard).1
      cases hout
    · cases hst
  · next r hne hp =>
    simp only [Exact, hp] at hexact
    obtain ⟨t, hguard⟩ := hexact
    split at hst
    · next world t' hop =>
      cases hst
      have he := reachable_effect hs.world hop
      have hdead : Dead world g :=
        retires_dead (reachable_consistent hs.world) (reachable_bounded hs.world) he
          ⟨h, t, some i, hguard, .inl ⟨(effect_finish he hguard).1, .inr (.inr ⟨i, rfl⟩)⟩⟩
      simp [Exact, Wallet.last, hdead]
    · next hop =>
      have hout := (effect_finish (reachable_effect hs.world hop) hguard).1
      cases hout
    · cases hst
  · cases hst

omit [DecidableEq H] in
lemma Exact.complete (hexact : Exact s i g h) (hst : completeStep s i b = some s') :
    Exact s' i g h := by
  unfold completeStep at hst
  split at hst <;> cases hst
  next r hp =>
  simp only [Exact, hp] at hexact
  simp only [Exact, Wallet.move, Function.update_self]
  cases r with
  | retryable => simp [toldOf, consumes]
  | submitted => exact ⟨by cases b <;> simp [toldOf], fun _ => hexact rfl⟩
  | daemonRejected | localFailure => exact ⟨by simp [toldOf], fun _ => hexact rfl⟩

lemma Exact.drop (hst : dropStep s i = some s') : Exact s' i g h := by
  unfold dropStep at hst
  split at hst
  · cases hst
    simp [Exact, Wallet.first, consumes]
  · cases hst
    simp [Exact, Wallet.first, consumes]
  · exact .dropGuard hst rfl (by simp) (by simp)
  · exact .dropGuard hst rfl (by simp) (by simp)
  · cases hst
    simp [Exact, Wallet.move, consumes]
  · cases hst

/-- Every step of the native side keeps what a broadcast by capability knows. -/
lemma Exact.step (hs : Inv s) (hheld : Held s.world g h) (hexact : Exact s i g h)
    {a : Action H T} (hst : step s a = some s') : Exact s' i g h := by
  by_cases hcall : callOf a = some i
  · cases a with
    | start =>
      cases hcall
      simp only [Broadcast.step, startStep] at hst
      split at hst
      · next hp => simp [Exact, hp] at hexact
      · next hp _ => simp [Exact, hp] at hexact
      · cases hst
    | online => cases hcall; exact hexact.online hs hheld hst
    | read => cases hcall; exact hexact.read hst
    | submit => cases hcall; exact hexact.submit hst
    | settle => cases hcall; exact hexact.settle hs hst
    | unwind =>
      cases hcall
      simp only [Broadcast.step, unwindStep] at hst
      split at hst
      · next hp => simp [Exact, hp] at hexact
      · cases hst
    | complete => cases hcall; exact hexact.complete hst
    | drop => cases hcall; exact .drop hst
    | other => cases hcall
  · exact hexact.frame hs (step_local hs hst) hcall

lemma exact_start (hst : step s (.start i (.exact g (some h))) = some s') :
    Exact s' i g h ∧ s'.world = s.world := by
  simp only [step, startStep] at hst
  split at hst
  · next heq => cases heq
  · next heq =>
    cases hst
    simp [Exact, Wallet.move]
  · cases hst

end XelisWallet.BroadcastExact
