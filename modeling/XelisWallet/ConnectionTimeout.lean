import XelisWallet.ConnectionSafe

/-!
Whom a timeout cancels.

The timeout of a call cancels the attempt that is current when `cancel_current` takes its lock. A
failing worker releases its attempt before it sends its error, so the timer may fire in between,
and the attempt that is current by then is another call's.
-/

namespace XelisWallet.Connection

open Runs Sync

variable {i a : ℕ} {s s' : Shared} {c c' : Call} {w w' : Wallet} {act : Action}

/-! ### Who cancels -/

lemma onlineMode_cancelled {input : Call.CallerInput}
    (h : c.onlineMode i s input = some (s', c')) (hk : c'.attempt.cancelled = true) :
    c.attempt.cancelled = true := by
  have ht := onlineMode_touch h
  generalize c'.attempt = b at ht hk
  generalize c'.caller = p at ht
  cases ht with
  | new => cases hk
  | _ => exact hk

lemma work_cancelled {input : Call.WorkerInput} (h : c.work i s input = some (s', c'))
    (hk : c'.attempt.cancelled = true) : c.attempt.cancelled = true := by
  have ht := work_touch h
  generalize c'.attempt = b at ht hk
  generalize c'.worker = q at ht
  cases ht <;> exact hk

variable {t : Task} {p : CancelPc} {terminal : Bool}

lemma CancelTouch.flagged {b : ℕ} {att att' : Attempt} {p' : CancelPc}
    (h : CancelTouch t b att p att' p') (hk : att'.cancelled = true) :
    att.cancelled = true ∨ p = .flag b := by
  cases h with
  | flags => exact .inr rfl
  | _ => exact .inl hk

lemma CancelStep.flagged {q : Option CancelPc} (h : CancelStep w t terminal p w' q)
    (hk : (w'.calls a).attempt.cancelled = true) :
    (w.calls a).attempt.cancelled = true ∨ p = .flag a := by
  obtain ⟨att, he, rfl | ⟨p', -, ht⟩⟩ := h.call a <;> rw [he] at hk
  · exact .inl hk
  · exact ht.flagged hk

lemma setCall_cancelled (hk : ((w.setCall i s c).calls a).attempt.cancelled = true)
    (hc : c.attempt.cancelled = true → (w.calls i).attempt.cancelled = true) :
    (w.calls a).attempt.cancelled = true :=
  (setCall_forall (P := fun a c => c.attempt.cancelled = true →
    (w.calls a).attempt.cancelled = true)).mpr ⟨hc, fun _ _ => id⟩ a hk

lemma step_cancelled (h : w.step act = some w') (hk : (w'.calls a).attempt.cancelled = true) :
    (w.calls a).attempt.cancelled = true ∨ (∃ k, act = .canceller k .go) ∨ act = .drop ∨
      ∃ i, act = .caller i .go ∧ (w.calls i).caller = .cancelling (.flag a) := by
  cases step_acts h with
  | calls i input s c hm => exact .inl (setCall_cancelled hk (onlineMode_cancelled hm))
  | works i input s c hm => exact .inl (setCall_cancelled hk (work_cancelled hm))
  | timesOut i _ _ _ hp hc | timedOut i _ _ hp hc =>
    obtain hk | rfl := hc.flagged (setCall_cancelled hk id)
    · exact .inl hk
    · exact .inr (.inr (.inr ⟨i, rfl, hp⟩))
  | cancels k | cancelled k | takes k => exact .inr (.inl ⟨k, rfl⟩)
  | drops => exact .inr (.inr (.inl rfl))
  | starts | shuts => exact .inl hk

/-! ### What a timeout cancels -/

lemma work_caller {input : Call.WorkerInput} (h : c.work i s input = some (s', c')) :
    c'.caller = c.caller := by
  unfold Call.work at h
  split at h
  case h_19 p _ | h_20 p _ _ => cases p <;> cases h <;> rfl
  all_goals repeat' split at h
  all_goals cases h
  all_goals rfl

lemma CancelStep.caller {q : Option CancelPc} (h : CancelStep w t terminal p w' q) (i : ℕ) :
    (w'.calls i).caller = (w.calls i).caller := by
  obtain ⟨att, he, -⟩ := h.call i
  rw [he]

lemma step_caller (h : w.step act = some w') (hi : ∀ input, act ≠ .caller i input) :
    (w'.calls i).caller = (w.calls i).caller := by
  have other {j : ℕ} {input : Call.CallerInput} (hj : act = .caller j input) : i ≠ j := by
    rintro rfl
    exact hi input hj
  cases step_acts h with
  | calls => rw [setCall_of_ne (other rfl)]
  | works j input s c hm =>
    by_cases hj : i = j
    · subst hj
      rw [setCall_self, work_caller hm]
    · rw [setCall_of_ne hj]
  | timesOut _ _ _ _ _ hc | timedOut _ _ _ _ hc => rw [setCall_of_ne (other rfl), hc.caller]
  | cancels _ _ _ _ _ hc | cancelled _ _ _ _ hc | drops _ _ _ _ _ _ hc => exact hc.caller i
  | starts | takes | shuts => rfl

/-- A timed out caller is on its way to cancel its own attempt, or has returned. -/
def Wallet.Aims (w : Wallet) (i : ℕ) : Prop :=
  match (w.calls i).caller with
  | .cancelling p => p.target = some i
  | .returned => True
  | _ => False

lemma CancelStep.target {p' : CancelPc} (h : CancelStep w t terminal p w' (some p'))
    (hp : p.target = some a) : p'.target = some a := by
  generalize hq : some p' = q at h
  cases h with
  | starts => cases hp
  | touches b p p' att ht =>
    cases hq
    rw [ht.target.2, ← ht.target.1, hp]
  | waits =>
    obtain ⟨p₁, rfl, rfl⟩ := Option.map_eq_some_iff.mp hq.symm
    exact hp

lemma Wallet.Aims.step (ha : w.Aims i) (h : w.step act = some w') : w'.Aims i := by
  unfold Wallet.Aims at ha ⊢
  by_cases hi : ∃ input, act = .caller i input
  · obtain ⟨input, rfl⟩ := hi
    cases step_acts h with
    | calls i input s c hm =>
      unfold Call.onlineMode at hm
      split at hm <;> simp_all
    | timesOut i p p' w₁ hp hc =>
      rw [hp] at ha
      rw [setCall_self]
      exact hc.target ha
    | timedOut =>
      rw [setCall_self]
      trivial
  · rwa [step_caller h (not_exists.mp hi)]

lemma run_aims {acts : List Action} (hr : Run wallets w acts w') (ha : w.Aims i) : w'.Aims i :=
  hr.preserves (P := fun w => w.Aims i) (fun _ _ _ ha hs => Wallet.Aims.step ha hs) ha

lemma step_timeout (hp : (w.calls i).caller = .cancelling .start)
    (h : w.step (.caller i .go) = some w') :
    (w'.calls i).caller = match w.shared.current with
      | none => .returned
      | some a => .cancelling (.flag a) := by
  simp only [Wallet.step, Wallet.stepCaller, hp, Wallet.cancelConnectionAttempt] at h
  split at h
  · next h' => cases h'
  · next w₁ p' h' =>
    cases h
    rw [setCall_self]
    cases hc : w.shared.current <;> simp_all
  · next w₁ h' =>
    cases h
    rw [setCall_self]
    cases hc : w.shared.current <;> simp_all [Call.returns]

lemma step_flag (hp : (w.calls i).caller = .cancelling (.flag a)) :
    ∃ w', w.step (.caller i .go) = some w' ∧ (w'.calls a).attempt.cancelled = true := by
  simp only [Wallet.step, Wallet.stepCaller, hp, Wallet.cancelConnectionAttempt]
  refine ⟨_, rfl, ?_⟩
  by_cases ha : a = i
  · subst ha
    rw [setCall_self, Wallet.setAttempt, setCall_self]
  · rw [setCall_of_ne ha, Wallet.setAttempt, setCall_self]

/-- **What a timeout cancels.** An attempt is cancelled by `offline_mode`, `close`, the drop of the
wallet or the timeout of a call. The timeout of a call cancels no other attempt if and only if, when
it takes the lock, no other attempt is current: the call's own worker has not released its attempt,
or nobody acquired one since. -/
theorem timeout_cancels_own_iff (hw : Reachable wallets w) :
    (∀ act w' a, w.step act = some w' → (w.calls a).attempt.cancelled = false →
      (w'.calls a).attempt.cancelled = true →
      (∃ k, act = .canceller k .go) ∨ act = .drop ∨
        ∃ i, act = .caller i .go ∧ (w.calls i).caller = .cancelling (.flag a)) ∧
    (∀ i w₁, (w.calls i).caller = .cancelling .start → w.step (.caller i .go) = some w₁ →
      ((∀ acts u a u', Run wallets w₁ acts u → u.step (.caller i .go) = some u' →
          (u.calls i).caller = .cancelling (.flag a) → a = i) ↔
        ∀ j, (w.calls j).handshake.holds = true → j = i)) := by
  have hi := reachable_inv hw
  constructor
  · intro act w' a hs hn hk
    refine (step_cancelled hs hk).resolve_left ?_
    simp [hn]
  · intro i w₁ hp hs
    have hf := step_timeout hp hs
    constructor
    · intro hown j hj
      rw [(hi.guard j).mp hj] at hf
      obtain ⟨u', hs', -⟩ := step_flag hf
      exact hown [] w₁ j u' (.nil w₁) hs' hf
    · intro hown acts u a u' hr hs hp
      have ha : w₁.Aims i := by
        unfold Wallet.Aims
        rw [hf]
        cases hc : w.shared.current with
        | none => trivial
        | some j => exact congrArg some (hown j ((hi.guard j).mpr hc))
      have hu := run_aims hr ha
      simp only [Wallet.Aims, hp] at hu
      exact Option.some.inj hu

/-- A call that times out while its worker connects cancels its own attempt. -/
theorem own_timeout_cancels : ∃ w w₁, Reachable wallets w ∧
    (w.calls 0).caller = .cancelling .start ∧ w.step (.caller 0 .go) = some w₁ ∧
    ∀ acts u a u', Run wallets w₁ acts u → u.step (.caller 0 .go) = some u' →
      (u.calls 0).caller = .cancelling (.flag a) → a = 0 := by
  obtain ⟨w, hw, hp, hc, w₁, hs⟩ : ∃ w, Reachable wallets w ∧
      (w.calls 0).caller = .cancelling .start ∧ w.shared.current = some 0 ∧
      ∃ w₁, w.step (.caller 0 .go) = some w₁ :=
    ⟨_, reachable_initial.exec (fun _ _ _ h => h)
      [.caller 0 (.start 1000), .caller 0 (.online false), .caller 0 .go, .caller 0 .go,
        .caller 0 .timeout, .caller 0 .go, .caller 0 .go] rfl, rfl, rfl, _, rfl⟩
  refine ⟨w, w₁, hw, hp, hs, ((timeout_cancels_own_iff hw).2 0 w₁ hp hs).mpr fun j hj => ?_⟩
  have hj := ((reachable_inv hw).guard j).mp hj
  rw [hc] at hj
  exact (Option.some.inj hj).symm

/-- The worker of a call fails and releases its attempt; before it sends its error the call times
out and another call begins, whose attempt the timeout cancels. -/
theorem other_timeout_cancels : ∃ w w', Reachable wallets w ∧
    w.step (.caller 0 .go) = some w' ∧ (w.calls 0).history = [.completed false, .gaveUp] ∧
    (∀ k, (w.cancellers k).pc = .idle) ∧ (w.calls 1).attempt.cancelled = false ∧
    (w'.calls 1).attempt.cancelled = true := by
  refine ⟨_, _, reachable_initial.exec (fun _ _ _ h => h)
    [.caller 0 (.start 1000), .caller 0 (.online false), .caller 0 .go, .caller 0 .go,
      .worker 0 (.connected (.error .connectFailed)), .worker 0 .go, .worker 0 .go, .worker 0 .go,
      .caller 0 .timeout, .caller 0 .go, .caller 0 .go, .caller 1 (.start 1000), .caller 0 .go]
    rfl, rfl, rfl, ?_, rfl, rfl⟩
  intro k
  rfl

end XelisWallet.Connection
