import XelisWallet.ConnectionTimeout

/-!
Who can still be waited for.

A side of a call that waits for the other one waits for something that the other one still has to
send or to drop, every lock has a holder that is about to release it, and nobody waits for a
notification that came too early.
-/

namespace XelisWallet.Connection

open Runs Sync

variable {i a : ℕ} {s s' : Shared} {c c' : Call} {w w' : Wallet} {act : Action} {t : Task}

/-! ### The two sides of a call -/

namespace Caller

/-- The caller has the first acknowledgement still to send or to drop. -/
def accepts : Caller → Bool
  | .await | .accepting _ | .dropAccepted => true
  | _ => false

/-- The caller has the second acknowledgement still to send or to drop. -/
def finalizes : Caller → Bool
  | .await | .accepting _ | .checkAccepted _ | .lockActive _ | .checkLocked _ | .record _
  | .finalize | .abortLocked | .abort | .dropAccepted | .dropFinalized => true
  | _ => false

/-- The caller accepted, and is about to wait for the completion. -/
def answers : Caller → Bool
  | .unlock | .abort => true
  | _ => false

/-- The caller has the lock of the active connection. -/
def locks : Caller → Bool
  | .cleaning | .cleaned _ | .checkLocked _ | .record _ | .finalize | .unlock | .abortLocked => true
  | _ => false

end Caller

/-- What a step of `online_mode` leaves to the worker. -/
inductive CallerKeeps (i : ℕ) (s : Shared) (c : Call) (s' : Shared) (c' : Call) : Prop
  | spawns : c.caller = .check → c'.caller = .await → c'.worker = .connect → s' = s →
      CallerKeeps i s c s' c'
  | keeps : c'.worker = c.worker → c'.caller ≠ .await →
      (c'.accepted.sender = true →
        c.accepted.sender = true ∧ (c.caller.accepts = true → c'.caller.accepts = true)) →
      (c'.finalized.sender = true →
        c.finalized.sender = true ∧ (c.caller.finalizes = true → c'.caller.finalizes = true)) →
      (s'.activeLock = .free ∨ (s'.activeLock = .taken (.caller i) ∧ c'.caller.locks = true) ∨
        s'.activeLock = s.activeLock ∧ (c.caller.locks = true → c'.caller.locks = true)) →
      (∀ r p, c'.caller = .wait r p → (p = .check ∧ (c.caller = .unlock ∨ c.caller = .abort)) ∨
        ∃ p', c.caller = .wait r p' ∧ c.attempt.waitCompleted p' = some (some p)) →
      CallerKeeps i s c s' c'

/-- What a step of a worker leaves to the caller. -/
structure WorkerKeeps (s : Shared) (c : Call) (s' : Shared) (c' : Call) : Prop where
  activeLock : s'.activeLock = s.activeLock
  caller : c'.caller = c.caller
  spawned : c.worker ≠ .idle
  works : c'.worker ≠ .idle
  accepted : c'.accepted.sender = c.accepted.sender
  finalized : c'.finalized.sender = c.finalized.sender
  delivers : c'.worker = .awaitAccepted → c'.result.value ≠ none
  reports : c'.worker = .done → (c.result.receiver = true → c'.result.value ≠ none) ∨
    ∃ p, c.worker = .dropOk p
  settles : ∀ p, c'.worker = .dropOk p →
    (∃ p', c.worker = .dropOk p') ∨ c.worker.phase.unanswered = false

section

attribute [local simp] Caller.accepts Caller.finalizes Caller.locks Call.record Call.returns
  Call.dropChannels Call.dropReceivers Oneshot.dropSender Oneshot.dropReceiver Worker.phase
  WorkerPhase.unanswered

lemma onlineMode_keeps {input : Call.CallerInput} (h : c.onlineMode i s input = some (s', c')) :
    CallerKeeps i s c s' c' := by
  obtain ⟨caller, worker, attempt, result, accepted, finalized, history⟩ := c
  unfold Call.onlineMode at h
  dsimp only at h
  split at h
  case h_1 =>
    split at h
    on_goal 2 => split at h
    on_goal 3 => obtain ⟨-, -, rfl⟩ := acquire_eq_ok ‹_›
    all_goals
      cases h
      exact .keeps rfl nofun (by simp) (by simp) (by simp) nofun
  case h_2 b | h_5 b | h_7 b _ =>
    cases b <;> cases h <;> exact .keeps rfl nofun (by simp) (by simp) (by simp) nofun
  case h_6 =>
    split at h <;> cases h
    · exact .keeps rfl nofun (by simp) (by simp) (by simp) nofun
    · exact .spawns rfl rfl rfl rfl
  case h_10 | h_15 =>
    split at h <;> cases h <;> next hs =>
      first | rw [(Oneshot.send_eq_true hs).2] | rw [(Oneshot.send_eq_false hs).2]
      exact .keeps rfl nofun (by simp) (by simp) (by simp) nofun
  case h_16 | h_18 =>
    cases h
    refine .keeps rfl nofun (by simp) (by simp) (by simp) ?_
    rintro r p ⟨⟩
    exact .inl ⟨rfl, by simp⟩
  case h_19 =>
    split at h <;> cases h
    · next hw =>
      refine .keeps rfl nofun (by simp) (by simp) (by simp) ?_
      rintro r p ⟨⟩
      exact .inr ⟨_, rfl, hw⟩
    all_goals exact .keeps rfl nofun (by simp) (by simp) (by simp) nofun
  all_goals repeat' split at h
  all_goals cases h
  all_goals exact .keeps rfl nofun (by simp) (by simp) (by simp) nofun

lemma work_keeps {input : Call.WorkerInput} (h : c.work i s input = some (s', c')) :
    WorkerKeeps s c s' c' := by
  obtain ⟨caller, worker, attempt, result, accepted, finalized, history⟩ := c
  unfold Call.work at h
  dsimp only at h
  split at h
  case h_14 =>
    split at h <;> cases h
    · next hs =>
      rw [(Oneshot.send_eq_true hs).2]
      exact ⟨rfl, rfl, nofun, nofun, rfl, rfl, by simp, nofun, nofun⟩
    · exact ⟨rfl, rfl, nofun, nofun, rfl, rfl, nofun, nofun, nofun⟩
  case h_17 f =>
    cases h
    refine ⟨rfl, rfl, nofun, ?_, rfl, rfl, ?_, ?_, fun _ _ => .inr rfl⟩
    all_goals dsimp only
    all_goals split <;> nofun
  case h_18 =>
    cases h
    exact ⟨rfl, rfl, nofun, nofun, rfl, rfl, nofun, nofun, fun _ _ => .inr rfl⟩
  case h_19 p =>
    cases p <;> cases h <;>
      exact ⟨rfl, rfl, nofun, nofun, rfl, rfl, nofun, fun _ => .inr ⟨_, rfl⟩,
        fun _ _ => .inl ⟨_, rfl⟩⟩
  case h_20 p e =>
    cases p <;> cases h <;> exact ⟨rfl, rfl, nofun, nofun, rfl, rfl, nofun, nofun, nofun⟩
  case h_21 e =>
    cases h
    refine ⟨rfl, rfl, nofun, nofun, rfl, rfl, nofun, fun _ => .inl fun hr => ?_, nofun⟩
    simp only at hr ⊢
    simp [Oneshot.send_value, hr]
  all_goals repeat' split at h
  all_goals cases h
  all_goals refine ⟨rfl, rfl, nofun, nofun, rfl, rfl, ?_, ?_, ?_⟩
  all_goals dsimp only
  all_goals nofun

end

/-- Waiters are notified once, by whoever completes the attempt. -/
structure Attempt.Notified (att : Attempt) (notifying : Prop) : Prop where
  before : att.completed = false → att.completion.calls = 0
  after : att.completed = true → att.completion.calls = 0 → notifying

/-- The two sides of a call can still answer each other, and a completed attempt is notified. -/
structure Call.Lively (c : Call) : Prop where
  delivered : c.caller = .await → c.worker = .awaitAccepted → c.result.value ≠ none
  reported : c.caller = .await → c.worker = .done → c.result.value ≠ none
  unsettled : c.caller = .await → ∀ p, c.worker ≠ .dropOk p
  accepts : c.worker ≠ .idle → c.accepted.sender = true → c.caller.accepts = true
  finalizes : c.worker ≠ .idle → c.finalized.sender = true → c.caller.finalizes = true
  spawned : ∀ r p, c.caller = .wait r p → c.worker ≠ .idle
  notified : c.attempt.Notified (c.caller.notifies = true ∨ c.worker.notifies = true)

variable {q : Worker} {att att' : Attempt} {P : Prop} {input : Call.CallerInput} {p : CancelPc}
  {terminal : Bool}

lemma Worker.eq_idle (h : q.phase = .idle) : q = .idle := by
  unfold Worker.phase at h
  split at h <;> first | rfl | cases h

lemma Caller.phase_of_notifies {p : Caller} (h : p.notifies = true) : p.phase = .left := by
  unfold Caller.notifies at h
  split at h
  · rfl
  · cases h

lemma Worker.phase_of_notifies (h : q.notifies = true) : q.phase = .closing := by
  unfold Worker.notifies at h
  split at h <;> first | rfl | cases h

lemma CallerTouch.notified {p p' : Caller} (h : CallerTouch p att p' att')
    (hn : p.notifies = true → att.completed = true) (ha : att.Notified (p.notifies = true ∨ P)) :
    att'.Notified (p'.notifies = true ∨ P) := by
  cases h with
  | same _ hp => exact ⟨ha.before, fun hc h0 => .inr ((ha.after hc h0).resolve_left (by simp [hp]))⟩
  | new => exact ⟨fun _ => rfl, nofun⟩
  | completes => exact ⟨nofun, fun _ _ => .inl rfl⟩
  | notifies _ hp => exact ⟨fun hc => by simp [hn hp] at hc, nofun⟩

lemma WorkerTouch.notified {q' : Worker} (h : WorkerTouch i q att q' att')
    (hn : q.notifies = true → att.completed = true) (ha : att.Notified (P ∨ q.notifies = true)) :
    att'.Notified (P ∨ q'.notifies = true) := by
  have quiet (hq : q.notifies = false) : att.Notified (P ∨ q'.notifies = true) :=
    ⟨ha.before, fun hc h0 => .inl ((ha.after hc h0).resolve_right (by simp [hq]))⟩
  cases h with
  | same _ hq => exact quiet hq
  | publishes hq | locks hq =>
    have hq := quiet (by rw [hq]; rfl)
    exact ⟨hq.before, hq.after⟩
  | unlocks _ hq =>
    have hq := quiet (by cases q <;> first | rfl | cases hq)
    exact ⟨hq.before, hq.after⟩
  | completes _ _ hq => exact ⟨nofun, fun _ _ => .inr hq⟩
  | notifies _ hq => exact ⟨fun hc => by simp [hn hq] at hc, nofun⟩

lemma spawned_of_answers (hs : c.handshake.Sound i) (hp : c.caller.answers = true) :
    c.worker ≠ .idle := by
  intro hq
  have ha := hs.agrees
  simp only [Call.handshake, Handshake.Agrees, hq, Worker.phase] at ha
  generalize c.caller = p at hp ha
  cases p <;> cases hp <;> simp [Caller.phase, WorkerPhase.joined, WorkerPhase.finalizable] at ha

lemma onlineMode_lively (h : c.onlineMode i s input = some (s', c')) (hs : c.handshake.Sound i)
    (hd : c.handshake.Closed i) (hl : c.Lively) : c'.Lively := by
  have hn : c'.attempt.Notified (c'.caller.notifies = true ∨ c.worker.notifies = true) :=
    (onlineMode_touch h).notified
      (fun hp => hd.released (.inl (Caller.phase_of_notifies hp))) hl.notified
  cases onlineMode_keeps h with
  | spawns hp hp' hw =>
    have hi : c.worker = .idle := by
      have ha := hs.agrees
      simp only [Call.handshake, Handshake.Agrees, hp, Caller.phase] at ha
      exact Worker.eq_idle ha
    refine ⟨?_, ?_, ?_, ?_, ?_, ?_, hn.before, fun hc h0 => (hn.after hc h0).imp_right ?_⟩
    iterate 3 rw [hw]; simp
    iterate 2 rw [hp']; exact fun _ _ => rfl
    · rw [hp']; simp
    · simp [hi, Worker.notifies]
  | keeps hw hp ha hf hlock hwait =>
    refine ⟨fun h => (hp h).elim, fun h => (hp h).elim, fun h => (hp h).elim, ?_, ?_, ?_, ?_⟩
    · intro hq hsend
      exact (ha hsend).2 (hl.accepts (hw ▸ hq) (ha hsend).1)
    · intro hq hsend
      exact (hf hsend).2 (hl.finalizes (hw ▸ hq) (hf hsend).1)
    · intro r p hp'
      rw [hw]
      obtain ⟨-, hp'⟩ | ⟨p', hp', -⟩ := hwait r p hp'
      · exact spawned_of_answers hs (by obtain hp' | hp' := hp' <;> rw [hp'] <;> rfl)
      · exact hl.spawned r p' hp'
    · rwa [hw]

lemma work_lively {input : Call.WorkerInput} (h : c.work i s input = some (s', c'))
    (hs : c.handshake.Sound i) (hd : c.handshake.Closed i) (hl : c.Lively) : c'.Lively := by
  have hk := work_keeps h
  have hwait (hp : c.caller = .await) :
      c.worker.phase.unanswered = true ∧ c.result.receiver = true := by
    have ha := hs.agrees
    simp only [Call.handshake, Handshake.Agrees, hp, Caller.phase] at ha
    exact ⟨ha.1, ha.2.1⟩
  refine ⟨fun _ hq => hk.delivers hq, fun hp hq => ?_, fun hp p hq => ?_, ?_, ?_, ?_, ?_⟩
  · rw [hk.caller] at hp
    obtain hr | ⟨p, hr⟩ := hk.reports hq
    · exact hr (hwait hp).2
    · exact (hl.unsettled hp p hr).elim
  · rw [hk.caller] at hp
    obtain ⟨p', hr⟩ | hr := hk.settles p hq
    · exact hl.unsettled hp p' hr
    · rw [(hwait hp).1] at hr
      cases hr
  · intro _ hsend
    rw [hk.caller]
    exact hl.accepts hk.spawned (hk.accepted ▸ hsend)
  · intro _ hsend
    rw [hk.caller]
    exact hl.finalizes hk.spawned (hk.finalized ▸ hsend)
  · intro _ _ _
    exact hk.works
  · rw [hk.caller]
    exact (work_touch h).notified
      (fun hq => hd.released (.inr (.inl (Worker.phase_of_notifies hq)))) hl.notified

/-! ### Tasks -/

/-- The next step of a task that needs nothing from outside. -/
def Task.go : Task → Action
  | .caller i => .caller i .go
  | .worker i => .worker i .go
  | .canceller k => .canceller k .go

namespace Wallet

/-- Where a task stands in `cancel_connection_attempt`. -/
def cancelPc (w : Wallet) : Task → Option CancelPc
  | .caller i => match (w.calls i).caller with
    | .cancelling p => some p
    | _ => none
  | .worker _ => none
  | .canceller k => match (w.cancellers k).pc with
    | .cancelling p => some p
    | _ => none

end Wallet

lemma cancelPc_caller : w.cancelPc (.caller i) = some p ↔ (w.calls i).caller = .cancelling p := by
  simp only [Wallet.cancelPc]
  split <;> simp_all

lemma cancelPc_canceller {k : ℕ} :
    w.cancelPc (.canceller k) = some p ↔ (w.cancellers k).pc = .cancelling p := by
  simp only [Wallet.cancelPc]
  split <;> simp_all

lemma setCall_keeps (ha : c.attempt = (w.calls i).attempt) (hw : c.worker = (w.calls i).worker)
    (a : ℕ) : ((w.setCall i s c).calls a).attempt = (w.calls a).attempt ∧
      ((w.setCall i s c).calls a).worker = (w.calls a).worker :=
  (setCall_forall (P := fun a c => c.attempt = (w.calls a).attempt ∧
    c.worker = (w.calls a).worker)).mpr ⟨⟨ha, hw⟩, fun _ _ => ⟨rfl, rfl⟩⟩ a

lemma onlineMode_cancelling (h : c.onlineMode i s input = some (s', c')) (p : CancelPc) :
    c.caller ≠ .cancelling p ∧ (c'.caller = .cancelling p → p = .start) := by
  obtain ⟨caller, worker, attempt, result, accepted, finalized, history⟩ := c
  unfold Call.onlineMode at h
  dsimp only at h
  split at h
  case h_2 b | h_5 b | h_7 b _ => cases b <;> cases h <;> exact ⟨nofun, nofun⟩
  case h_22 =>
    cases h
    refine ⟨nofun, ?_⟩
    rintro ⟨⟩
    rfl
  all_goals repeat' split at h
  all_goals cases h
  all_goals exact ⟨nofun, nofun⟩

/-- What a step does to where a task stands in a cancellation. -/
inductive CancelMove (w w' : Wallet) (t : Task) : Prop
  | stays : w'.cancelPc t = w.cancelPc t → CancelMove w w' t
  | begins : w.cancelPc t = none → w'.cancelPc t = some .start → CancelMove w w' t
  | moves (terminal : Bool) (p : CancelPc) (w₁ : Wallet) (q : Option CancelPc) :
      w.cancelPc t = some p → CancelStep w t terminal p w₁ q → w'.cancelPc t = q →
      (∀ a, (w'.calls a).attempt = (w₁.calls a).attempt) → CancelMove w w' t

lemma step_cancelPc (h : w.step act = some w') (t : Task) : CancelMove w w' t := by
  cases t with
  | worker => exact .stays rfl
  | caller i =>
    by_cases hi : ∃ input, act = .caller i input
    · obtain ⟨input, rfl⟩ := hi
      cases step_acts h with
      | calls i input s c hm =>
        have hn : w.cancelPc (.caller i) = none := by
          rw [Option.eq_none_iff_forall_not_mem]
          exact fun p hp => (onlineMode_cancelling hm p).1 (cancelPc_caller.mp hp)
        cases hp : (w.setCall i s c).cancelPc (.caller i) with
        | none => exact .stays (hp.trans hn.symm)
        | some p =>
          have hp' := cancelPc_caller.mp hp
          rw [setCall_self] at hp'
          exact .begins hn (hp.trans (congrArg some ((onlineMode_cancelling hm p).2 hp')))
      | timesOut i p p' w₁ hp hc =>
        refine .moves false p w₁ _ (cancelPc_caller.mpr hp) hc ?_ fun a =>
          (setCall_keeps (by rfl) (by rfl) a).1
        rw [cancelPc_caller, setCall_self]
      | timedOut i p w₁ hp hc =>
        refine .moves false p w₁ _ (cancelPc_caller.mpr hp) hc ?_ fun a =>
          (setCall_keeps (by rfl) (by rfl) a).1
        simp only [Wallet.cancelPc, setCall_self]
        rfl
    · refine .stays ?_
      simp only [Wallet.cancelPc, step_caller h (not_exists.mp hi)]
  | canceller k =>
    by_cases hk : ∃ input, act = .canceller k input
    · obtain ⟨input, rfl⟩ := hk
      cases step_acts h with
      | starts k terminal hp =>
        refine .begins ?_ ?_
        · simp only [Wallet.cancelPc, hp]
        · simp only [Wallet.cancelPc, Function.update_self]
      | cancels k p p' w₁ hp hc =>
        refine .moves _ p w₁ _ (cancelPc_canceller.mpr hp) hc ?_ fun a => rfl
        rw [cancelPc_canceller, setCanceller_self]
      | cancelled k p w₁ hp hc =>
        refine .moves _ p w₁ _ (cancelPc_canceller.mpr hp) hc ?_ fun a => rfl
        simp only [Wallet.cancelPc, setCanceller_self]
      | takes _ hp | shuts _ _ _ _ hp =>
        refine .stays ?_
        simp only [Wallet.cancelPc, setCanceller_self, hp]
    · refine .stays ?_
      simp only [Wallet.cancelPc, step_cancellers h (not_exists.mp hk)]

/-- What a step does to an attempt, by who makes it. -/
inductive Touches (w w' : Wallet) (a : ℕ) : Prop
  | same (b : Bool) : (w'.calls a).attempt = { (w.calls a).attempt with cancelled := b } →
      (w'.calls a).worker = (w.calls a).worker → Touches w w' a
  | caller (input : Call.CallerInput) :
      (w.calls a).onlineMode a w.shared input = some (w'.shared, w'.calls a) → Touches w w' a
  | worker (input : Call.WorkerInput) :
      (w.calls a).work a w.shared input = some (w'.shared, w'.calls a) → Touches w w' a
  | canceller (t : Task) (p p' : CancelPc) : w.cancelPc t = some p → w'.cancelPc t = some p' →
      CancelTouch t a (w.calls a).attempt p (w'.calls a).attempt p' →
      (w'.calls a).worker = (w.calls a).worker → Touches w w' a

lemma step_touches (h : w.step act = some w') (a : ℕ) : Touches w w' a := by
  have cancels {t : Task} {terminal : Bool} {p : CancelPc} {w₁ : Wallet} {q : Option CancelPc}
      (hp : w.cancelPc t = some p) (hc : CancelStep w t terminal p w₁ q) (hq : w'.cancelPc t = q)
      (he : (w'.calls a).attempt = (w₁.calls a).attempt ∧
        (w'.calls a).worker = (w₁.calls a).worker) : Touches w w' a := by
    obtain ⟨att, hw, rfl | ⟨p', rfl, ht⟩⟩ := hc.call a <;> rw [hw] at he
    · exact .same _ he.1 he.2
    · exact .canceller t p p' hp hq (he.1 ▸ ht) he.2
  cases step_acts h with
  | calls i input =>
    by_cases ha : a = i
    · subst ha
      exact .caller input (by rwa [setCall_self])
    · exact .same _ (by rw [setCall_of_ne ha]) (by rw [setCall_of_ne ha])
  | works i input =>
    by_cases ha : a = i
    · subst ha
      exact .worker input (by rwa [setCall_self])
    · exact .same _ (by rw [setCall_of_ne ha]) (by rw [setCall_of_ne ha])
  | timesOut i p p' w₁ hp hc =>
    refine cancels (cancelPc_caller.mpr hp) hc ?_ (setCall_keeps (by rfl) (by rfl) a)
    rw [cancelPc_caller, setCall_self]
  | timedOut i p w₁ hp hc =>
    refine cancels (cancelPc_caller.mpr hp) hc ?_ (setCall_keeps (by rfl) (by rfl) a)
    simp only [Wallet.cancelPc, setCall_self]
    rfl
  | cancels k p p' w₁ hp hc =>
    refine cancels (cancelPc_canceller.mpr hp) hc ?_ ⟨rfl, rfl⟩
    rw [cancelPc_canceller, setCanceller_self]
  | cancelled k p w₁ hp hc =>
    refine cancels (cancelPc_canceller.mpr hp) hc ?_ ⟨rfl, rfl⟩
    simp only [Wallet.cancelPc, setCanceller_self]
  | starts | takes | shuts => exact .same _ rfl rfl
  | drops b p w₁ q d hp hc =>
    obtain ⟨att, hw, rfl | ⟨p', -, ht⟩⟩ := hc.call a
    · exact .same _ (congrArg Call.attempt hw) (congrArg Call.worker hw)
    · obtain rfl | rfl := hp <;> cases ht
      exact .same _ (congrArg Call.attempt hw :) (congrArg Call.worker hw :)

/-! ### The locks of an attempt -/

lemma onlineMode_locks (h : c.onlineMode i s input = some (s', c')) (hs : c.handshake.Sound i)
    (hw : c.worker.locks = true) : c'.worker.locks = true := by
  cases onlineMode_keeps h with
  | spawns hp =>
    have ha := hs.agrees
    simp only [Call.handshake, Handshake.Agrees, hp, Caller.phase] at ha
    rw [Worker.eq_idle ha] at hw
    cases hw
  | keeps hq => rwa [hq]

/-- Who has the activation lock had it before, or is the worker, or is lifting the barrier; who has
the lock of the API had it before, or is disconnecting. -/
lemma Touches.locks (h : Touches w w' a) (hs : (w.calls a).handshake.Sound a) :
    (∀ t, (w'.calls a).attempt.activation.holder = some t →
      (w.calls a).attempt.activation.holder = some t ∧
          ((w.calls a).worker.locks = true → (w'.calls a).worker.locks = true) ∨
        t = .worker a ∧ (w'.calls a).worker.locks = true ∨ w'.cancelPc t = some (.lift a)) ∧
    ∀ t, (w'.calls a).attempt.apiLock.holder = some t →
      (w.calls a).attempt.apiLock.holder = some t ∨ w'.cancelPc t = some (.disconnect a) := by
  cases h with
  | same b ha hw =>
    rw [ha, hw]
    exact ⟨fun t ht => .inl ⟨ht, id⟩, fun t => .inl⟩
  | caller input hm =>
    have hk := onlineMode_locks hm hs
    have htouch := onlineMode_touch hm
    generalize (w'.calls a).attempt = att' at htouch ⊢
    generalize (w'.calls a).caller = p' at htouch
    cases htouch with
    | new => exact ⟨nofun, nofun⟩
    | _ => exact ⟨fun t ht => .inl ⟨ht, hk⟩, fun t => .inl⟩
  | worker input hm =>
    have htouch := work_touch hm
    generalize (w'.calls a).attempt = att' at htouch ⊢
    generalize (w'.calls a).worker = q' at htouch ⊢
    refine ⟨fun t ht => ?_, fun t ht => .inl (by cases htouch <;> exact ht)⟩
    cases htouch with
    | same q' _ hq => exact .inl ⟨ht, hq⟩
    | publishes hq => exact .inl ⟨ht, by rw [hq]; nofun⟩
    | locks => cases ht; exact .inr (.inl ⟨rfl, rfl⟩)
    | unlocks => cases ht
    | completes q' hq => exact .inl ⟨ht, by simp [hq]⟩
    | notifies q' hq =>
      refine .inl ⟨ht, fun hl => ?_⟩
      generalize (w.calls a).worker = q at hq hl
      cases q <;> first | cases hq | cases hl
  | canceller t' p p' hp hp' htouch hw =>
    generalize (w'.calls a).attempt = att' at htouch ⊢
    rw [hw]
    cases htouch with
    | takes => exact ⟨fun t ht => by cases ht; exact .inr (.inr hp'), fun t => .inl⟩
    | frees => exact ⟨nofun, fun t => .inl⟩
    | takesApi => exact ⟨fun t ht => .inl ⟨ht, id⟩, fun t ht => by cases ht; exact .inr hp'⟩
    | freesApi => exact ⟨fun t ht => .inl ⟨ht, id⟩, nofun⟩
    | _ => exact ⟨fun t ht => .inl ⟨ht, id⟩, fun t => .inl⟩

/-! ### Acquired attempts -/

lemma Move.still_pending {v v' : Handshake} (h : Move i s v s' v') (hc : v.Sound i)
    (hp : v.pending = true) : v'.pending = true ∨ v'.completed = true := by
  obtain h | h := h
  · have ha := hc.agrees
    cases h
    case completes => exact .inr rfl
    case acquires => exact .inl rfl
    case fails hf _ _ _ _ =>
      cases hv : v.caller <;> simp_all [Handshake.pending, Handshake.record, CallerPhase.fails]
    all_goals simp_all [Handshake.pending, Handshake.record, Handshake.Agrees, WorkerPhase.pending]
  · obtain ⟨-, he, -⟩ := h.spawned hc
    cases h
    case completes => exact .inr rfl
    all_goals simp_all [Handshake.pending, Handshake.record, WorkerPhase.pending]

/-- An attempt that was acquired. -/
def Call.Acquired (c : Call) : Prop :=
  c.handshake.pending = true ∨ c.attempt.completed = true

lemma Evolves.completed (h : Evolves w act w') (hi : Inv w)
    (hd : (w.calls a).attempt.completed = true) : (w'.calls a).attempt.completed = true := by
  obtain hc | hm := h.each a
  · exact hc.completed.trans hd
  refine (hm.flags fun hf => ?_).2 hd
  obtain ⟨b, hb⟩ := (hi.closed a).completed hd
  rw [(hi.consistent a).caller.early (.inl hf)] at hb
  cases hb

lemma Evolves.acquired (h : Evolves w act w') (hi : Inv w) (ha : (w.calls a).Acquired) :
    (w'.calls a).Acquired := by
  obtain hp | hd := ha
  · obtain hc | hm := h.each a
    · exact .inl (hc.pending.trans hp)
    · exact hm.still_pending (hi.consistent a).sound hp
  · exact .inr (h.completed hi hd)

lemma Inv.acquired_of_current (hi : Inv w) (hc : w.shared.current = some a) :
    (w.calls a).Acquired := by
  have hh := (hi.guard a).mpr hc
  have hr := (hi.closed a).released
  simp only [Handshake.holds, Bool.or_eq_true, decide_eq_true_eq] at hh
  obtain (hp | hp) | hp := hh
  · exact .inl hp
  · exact .inr (hr (.inl hp))
  · exact .inr (hr (.inr (.inl hp)))

lemma Inv.acquired_of_worker (hi : Inv w) (hq : (w.calls a).worker ≠ .idle) :
    (w.calls a).Acquired := by
  have hr := (hi.closed a).released
  cases hw : (w.calls a).handshake.worker with
  | idle => exact (hq (Worker.eq_idle hw)).elim
  | closing => exact .inr (hr (.inr (.inl hw)))
  | finished => exact .inr (hr (.inr (.inr hw)))
  | _ => exact .inl (Handshake.pending_of_worker hw rfl)

/-! ### Waiting for a completion -/

/-- A task waits for the completion of an attempt. -/
def Wallet.Waits (w : Wallet) (t : Task) (a : ℕ) (p : WaitPc) : Prop :=
  w.cancelPc t = some (.wait a p) ∨ ∃ r, t = .caller a ∧ (w.calls a).caller = .wait r p

lemma step_waits (h : w.step act = some w') {p : WaitPc} (hp : w'.Waits t a p) : w.Waits t a p ∨ p =
    .check ∨ ∃ p', w.Waits t a p' ∧ (w.calls a).attempt.waitCompleted p' = some (some p) := by
  obtain hp | ⟨r, rfl, hp⟩ := hp
  · cases step_cancelPc h t with
    | stays he => exact .inl (.inl (he ▸ hp))
    | begins _ he =>
      rw [he] at hp
      cases hp
    | moves terminal q w₁ q' hq hc hq' =>
      rw [hq'] at hp
      subst hp
      generalize he : some (CancelPc.wait a p) = p₁ at hc
      cases hc with
      | starts => cases hcur : w.shared.current <;> simp [hcur] at he
      | touches b q q' att ht =>
        cases he
        cases ht
        exact .inr (.inl rfl)
      | waits b q q' hw =>
        obtain ⟨p', rfl, he⟩ := Option.map_eq_some_iff.mp he.symm
        cases he
        exact .inr (.inr ⟨q, .inl hq, hw⟩)
  · by_cases ha : ∃ input, act = .caller a input
    · obtain ⟨input, rfl⟩ := ha
      cases step_acts h with
      | calls a input s c hm =>
        rw [setCall_self] at hp
        cases onlineMode_keeps hm with
        | spawns _ hp' =>
          rw [hp'] at hp
          cases hp
        | keeps _ _ _ _ _ hwait =>
          obtain ⟨hp, -⟩ | ⟨p', hp', hw⟩ := hwait r p hp
          · exact .inr (.inl hp)
          · exact .inr (.inr ⟨p', .inr ⟨r, rfl, hp'⟩, hw⟩)
      | timesOut | timedOut =>
        rw [setCall_self] at hp
        cases hp
    · rw [step_caller h (not_exists.mp ha)] at hp
      exact .inl (.inr ⟨r, rfl, hp⟩)

/-- A waiter that goes to sleep was made before any notification. -/
def WaitPc.Timely (att : Attempt) : WaitPc → Prop
  | .check | .subscribe => True
  | .recheck seen => seen = 0 ∨ att.completed = true
  | .parked seen => seen = 0

lemma WaitPc.Timely.of_completed {p : WaitPc} (hp : p.Timely att)
    (h : att.completed = true → att'.completed = true) : p.Timely att' := by
  cases p with
  | recheck => exact hp.imp_right h
  | _ => exact hp

/-- The future is made before the second check, so what it has not seen wakes it. -/
lemma WaitPc.Timely.step {p p' : WaitPc} (hp : p.Timely att) (hn : att.Notified P)
    (h : att.waitCompleted p = some (some p')) (hd : att.completed = true → att'.completed = true) :
    p'.Timely att' := by
  cases p with
  | check =>
    simp only [Attempt.waitCompleted, Option.some.injEq] at h
    split at h <;> cases h
    trivial
  | subscribe =>
    cases h
    cases hk : att.completed with
    | false => exact .inl (hn.before hk)
    | true => exact .inr (hd hk)
  | recheck =>
    simp only [Attempt.waitCompleted, Option.some.injEq] at h
    split at h <;> cases h
    next hk => exact hp.resolve_right hk
  | parked =>
    simp only [Attempt.waitCompleted] at h
    split at h <;> cases h
    trivial

/-! ### Whole wallets -/

/-- Whatever is waited for is still to come. -/
structure Live (w : Wallet) : Prop where
  lively : ∀ i, (w.calls i).Lively
  activeLock : ∀ t, w.shared.activeLock.holder = some t →
    ∃ j, t = .caller j ∧ (w.calls j).caller.locks = true
  activation : ∀ a t, (w.calls a).attempt.activation.holder = some t →
    t = .worker a ∧ (w.calls a).worker.locks = true ∨ w.cancelPc t = some (.lift a)
  apiLock : ∀ a t, (w.calls a).attempt.apiLock.holder = some t →
    w.cancelPc t = some (.disconnect a)
  acquired : ∀ t p a, w.cancelPc t = some p → p.target = some a → (w.calls a).Acquired
  timely : ∀ t a p, w.Waits t a p → p.Timely (w.calls a).attempt

lemma live_initial : Live .initial where
  lively i := by
    constructor
    case notified => exact ⟨fun _ => rfl, nofun⟩
    all_goals nofun
  activeLock := nofun
  activation := nofun
  apiLock := nofun
  acquired t p a h := by cases t <;> cases h
  timely t a p h := by
    obtain h | ⟨r, -, h⟩ := h
    · cases t <;> cases h
    · cases h

lemma setCall_lively (hl : ∀ j, (w.calls j).Lively) (hc : c.Lively) (j : ℕ) :
    ((w.setCall i s c).calls j).Lively :=
  (setCall_forall (P := fun _ => Call.Lively)).mpr ⟨hc, fun j _ => hl j⟩ j

lemma CancelTouch.notified {p' : CancelPc} (h : CancelTouch t a att p att' p')
    (hn : att.Notified P) : att'.Notified P := by
  cases h <;> exact ⟨hn.before, hn.after⟩

lemma CancelStep.lively {q : Option CancelPc} (h : CancelStep w t terminal p w' q)
    (hl : ∀ j, (w.calls j).Lively) : ∀ j, (w'.calls j).Lively := by
  cases h with
  | touches a p p' att ht =>
    have hn := ht.notified (hl a).notified
    exact setCall_lively hl { hl a with notified := hn }
  | starts | waits => exact hl

lemma Call.Lively.cancels {p' : Caller} {history : List Event} (hl : c.Lively)
    (hp : c.caller = .cancelling p) (hp' : (∃ q, p' = .cancelling q) ∨ p' = .returned) :
    { c with caller := p', history := history }.Lively where
  delivered h := by obtain ⟨q, rfl⟩ | rfl := hp' <;> cases h
  reported h := by obtain ⟨q, rfl⟩ | rfl := hp' <;> cases h
  unsettled h := by obtain ⟨q, rfl⟩ | rfl := hp' <;> cases h
  accepts hq hs := by
    have h := hl.accepts hq hs
    rw [hp] at h
    cases h
  finalizes hq hs := by
    have h := hl.finalizes hq hs
    rw [hp] at h
    cases h
  spawned r p h := by obtain ⟨q, rfl⟩ | rfl := hp' <;> cases h
  notified := by
    refine ⟨hl.notified.before, fun hd h0 => (hl.notified.after hd h0).imp_left fun h => ?_⟩
    rw [hp] at h
    cases h

lemma step_lively (h : w.step act = some w') (hi : Inv w) (hl : ∀ j, (w.calls j).Lively) :
    ∀ j, (w'.calls j).Lively := by
  cases step_acts h with
  | calls i input s c hm =>
    exact setCall_lively hl (onlineMode_lively hm (hi.consistent i).sound (hi.closed i) (hl i))
  | works i input s c hm =>
    exact setCall_lively hl (work_lively hm (hi.consistent i).sound (hi.closed i) (hl i))
  | timesOut i p p' w₁ hp hc =>
    have hl₁ := hc.lively hl
    exact setCall_lively hl₁ ((hl₁ i).cancels ((hc.caller i).trans hp) (.inl ⟨p', rfl⟩))
  | timedOut i p w₁ hp hc =>
    have hl₁ := hc.lively hl
    exact setCall_lively hl₁ ((hl₁ i).cancels ((hc.caller i).trans hp) (.inr rfl))
  | cancels _ _ _ _ _ hc | cancelled _ _ _ _ hc | drops _ _ _ _ _ _ hc => exact hc.lively hl
  | starts | takes | shuts => exact hl

lemma CancelStep.activeLock {q : Option CancelPc} (h : CancelStep w t terminal p w' q) :
    w'.shared.activeLock = w.shared.activeLock := by
  cases h <;> rfl

variable (h : w.step act = some w')
include h

lemma step_activeLock
    (hl : ∀ t, w.shared.activeLock.holder = some t →
      ∃ j, t = .caller j ∧ (w.calls j).caller.locks = true)
    (ht : w'.shared.activeLock.holder = some t) :
    ∃ j, t = .caller j ∧ (w'.calls j).caller.locks = true := by
  -- Unless its own step releases it, who had the lock still has it.
  have kept (hs : w'.shared.activeLock = w.shared.activeLock)
      (hp : ∀ j, (w.calls j).caller.locks = true → (w'.calls j).caller.locks = true) :
      ∃ j, t = .caller j ∧ (w'.calls j).caller.locks = true := by
    obtain ⟨j, rfl, hj⟩ := hl t (hs ▸ ht)
    exact ⟨j, rfl, hp j hj⟩
  cases step_acts h with
  | calls i input s c hm =>
    have kept (hs : s.activeLock = w.shared.activeLock)
        (hp : (w.calls i).caller.locks = true → c.caller.locks = true) :
        ∃ j, t = .caller j ∧ ((w.setCall i s c).calls j).caller.locks = true := by
      refine kept hs fun j hj => ?_
      by_cases hji : j = i
      · subst hji
        rw [setCall_self]
        exact hp hj
      · rwa [setCall_of_ne hji]
    cases onlineMode_keeps hm with
    | spawns hp _ _ hs => exact kept (congrArg _ hs) (by rw [hp]; nofun)
    | keeps _ _ _ _ hlock =>
      obtain hf | ⟨hs, hp⟩ | ⟨hs, hp⟩ := hlock
      · rw [show (w.setCall i s c).shared = s from rfl, hf] at ht
        cases ht
      · rw [show (w.setCall i s c).shared = s from rfl, hs] at ht
        cases ht
        exact ⟨i, rfl, by rwa [setCall_self]⟩
      · exact kept hs hp
  | works i input s c hm =>
    have hk := work_keeps hm
    refine kept hk.activeLock fun j hj => ?_
    rwa [step_caller h nofun]
  | timesOut i _ _ _ hp hc | timedOut i _ _ hp hc =>
    refine kept hc.activeLock fun j hj => ?_
    by_cases hji : j = i
    · subst hji
      rw [hp] at hj
      cases hj
    · rwa [setCall_of_ne hji, hc.caller]
  | cancels _ _ _ _ _ hc | cancelled _ _ _ _ hc | drops _ _ _ _ _ _ hc =>
    refine kept hc.activeLock fun j hj => ?_
    rwa [step_caller h nofun]
  | starts | takes | shuts => exact kept rfl fun j hj => hj

lemma step_standing (hp : w.cancelPc t = some p) : w'.cancelPc t = some p ∨ ∃ terminal w₁ q,
    CancelStep w t terminal p w₁ q ∧ ∀ a, (w'.calls a).attempt = (w₁.calls a).attempt := by
  cases step_cancelPc h t with
  | stays he => exact .inl (he.trans hp)
  | begins hn => simp [hn] at hp
  | moves terminal q w₁ q' hq hc _ ha =>
    rw [hp] at hq
    cases hq
    exact .inr ⟨terminal, w₁, q', hc, ha⟩

lemma step_releases :
    (w.cancelPc t = some (.lift a) →
      w'.cancelPc t = some (.lift a) ∨ (w'.calls a).attempt.activation = .free) ∧
    (w.cancelPc t = some (.disconnect a) →
      w'.cancelPc t = some (.disconnect a) ∨ (w'.calls a).attempt.apiLock = .free) := by
  constructor
  all_goals
    intro hp
    obtain hs | ⟨terminal, w₁, q, hc, ha⟩ := step_standing h hp
    · exact .inl hs
    rw [ha]
    cases hc with
    | touches b p p' att ht =>
      cases ht
      rw [Wallet.setAttempt, setCall_self]
      exact .inr rfl

lemma step_target (hp : w'.cancelPc t = some p) (ha : p.target = some a) : w.shared.current = some a
    ∨ ∃ p', w.cancelPc t = some p' ∧ p'.target = some a := by
  cases step_cancelPc h t with
  | stays he => exact .inr ⟨p, he ▸ hp, ha⟩
  | begins _ he =>
    rw [he] at hp
    cases hp
    cases ha
  | moves terminal q w₁ q' hq hc hq' =>
    rw [hq'] at hp
    subst hp
    generalize he : some p = p₁ at hc
    cases hc with
    | starts =>
      obtain ⟨b, hb, rfl⟩ := Option.map_eq_some_iff.mp he.symm
      cases ha
      exact .inl hb
    | touches b q q' att ht =>
      cases he
      rw [ht.target.2] at ha
      exact .inr ⟨q, hq, ht.target.1.trans ha⟩
    | waits =>
      obtain ⟨p', rfl, rfl⟩ := Option.map_eq_some_iff.mp he.symm
      exact .inr ⟨_, hq, ha⟩

omit h

lemma Live.step (hl : Live w) (hi : Inv w) (h : w.step act = some w') : Live w' where
  lively := step_lively h hi hl.lively
  activeLock t := step_activeLock h hl.activeLock
  activation a t ht := by
    obtain ⟨hh, hk⟩ | hown | hp := ((step_touches h a).locks (hi.consistent a).sound).1 t ht
    · obtain ⟨rfl, hq⟩ | hp := hl.activation a t hh
      · exact .inl ⟨rfl, hk hq⟩
      refine .inr (((step_releases h).1 hp).resolve_right fun hf => ?_)
      rw [hf] at ht
      cases ht
    · exact .inl hown
    · exact .inr hp
  apiLock a t ht := by
    obtain hh | hp := ((step_touches h a).locks (hi.consistent a).sound).2 t ht
    · refine ((step_releases h).2 (hl.apiLock a t hh)).resolve_right fun hf => ?_
      rw [hf] at ht
      cases ht
    · exact hp
  acquired t p a hp ha := by
    refine (step_evolves h).acquired hi ?_
    obtain hc | ⟨p', hp', ha'⟩ := step_target h hp ha
    · exact hi.acquired_of_current hc
    · exact hl.acquired t p' a hp' ha'
  timely t a p hp := by
    have hd := (step_evolves h).completed (a := a) hi
    obtain hp | rfl | ⟨p', hp, hw⟩ := step_waits h hp
    · exact (hl.timely t a p hp).of_completed hd
    · trivial
    · exact (hl.timely t a p' hp).step (hl.lively a).notified hw hd

lemma reachable_live (hw : Reachable wallets w) : Live w := by
  refine hw.invariant (P := Live) ?_ fun w act w' hr hl hs => hl.step (reachable_inv hr) hs
  rintro w rfl
  exact live_initial

end XelisWallet.Connection
