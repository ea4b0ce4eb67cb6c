import XelisWallet.ConnectionLive

/-!
The connection handshake never deadlocks.

A task that cannot go on waits for a lock, an acknowledgement, a result or a completion. Who holds
the lock goes on, and an attempt that is not completed has a side that does; so as long as somebody
is not finished, and neither the daemon nor the upstream wallet has to answer, somebody goes on.
-/

namespace XelisWallet.Connection

open Runs Sync Wallet

variable {i a : ℕ} {s : Shared} {c : Call} {w : Wallet} {t : Task}

/-! ### Tasks that can go on -/

/-- The caller waits for the upstream wallet or the daemon. -/
def Caller.operates : Caller → Bool
  | .probe | .cleaning | .cancelling (.disconnect _) => true
  | _ => false

@[inherit_doc Caller.operates]
def Worker.operates : Worker → Bool
  | .connect | .info | .install | .rollbackLocked | .rollback => true
  | _ => false

@[inherit_doc Caller.operates]
def CancellerPc.operates : CancellerPc → Bool
  | .cancelling (.disconnect _) | .shut _ => true
  | _ => false

namespace Wallet

/-- An operation of the daemon or of the upstream wallet is outstanding for a task. -/
def operates (w : Wallet) : Task → Bool
  | .caller i => (w.calls i).caller.operates
  | .worker i => (w.calls i).worker.operates
  | .canceller k => (w.cancellers k).pc.operates

/-- A task that was started and has not finished. -/
def unfinished (w : Wallet) : Task → Bool
  | .caller i => match (w.calls i).caller with
    | .idle | .returned => false
    | _ => true
  | .worker i => match (w.calls i).worker with
    | .idle | .done => false
    | _ => true
  | .canceller k => match (w.cancellers k).pc with
    | .idle | .returned _ => false
    | _ => true

/-- A task can take a step by itself: without a new call, a timeout or an answer from outside. -/
def Enabled (w : Wallet) (t : Task) : Prop := ∃ w', w.step t.go = some w'

end Wallet

/-- A caller in one of these places goes on, whatever the others do. -/
def Caller.runs : Caller → Bool
  | .cleaned _ | .check | .leaving _ _ | .accepting _ | .checkAccepted _ | .checkLocked _
  | .record _ | .finalize | .unlock | .abortLocked | .abort | .checkFinal | .dropAccepted
  | .dropFinalized => true
  | _ => false

@[inherit_doc Caller.runs]
def Worker.runs : Worker → Bool
  | .checkPublished | .checkInfo | .checkLocked | .checkInstalled | .unlockErr _ | .unlock
  | .deliver | .decide _ | .dropOk _ | .dropErr _ _ | .sendErr _ => true
  | _ => false

lemma enabled_of_onlineMode (h : (w.calls i).onlineMode i w.shared .go ≠ none) :
    w.Enabled (.caller i) := by
  obtain ⟨r, hr⟩ := Option.ne_none_iff_exists'.mp h
  simp only [Wallet.Enabled, Task.go, step, stepCaller]
  split
  · next p hp _ => exact ((onlineMode_cancelling hr p).1 hp).elim
  · rw [hr]
    exact ⟨_, rfl⟩

lemma enabled_of_work (h : (w.calls i).work i w.shared .go ≠ none) : w.Enabled (.worker i) := by
  obtain ⟨r, hr⟩ := Option.ne_none_iff_exists'.mp h
  simp only [Wallet.Enabled, Task.go, step, hr]
  exact ⟨_, rfl⟩

lemma enabled_of_cancel {p : CancelPc} (hp : w.cancelPc t = some p)
    (h : ∀ terminal, w.cancelConnectionAttempt t terminal p ≠ none) : w.Enabled t := by
  cases t with
  | worker => cases hp
  | caller =>
    simp only [Wallet.Enabled, Task.go, step, stepCaller, cancelPc_caller.mp hp]
    split
    · next hn => exact (h _ hn).elim
    all_goals exact ⟨_, rfl⟩
  | canceller =>
    simp only [Wallet.Enabled, Task.go, step, stepCanceller, cancelPc_canceller.mp hp]
    split
    · next hn => exact (h _ hn).elim
    all_goals exact ⟨_, rfl⟩

lemma enabled_of_caller (h : (w.calls i).caller.runs = true) : w.Enabled (.caller i) := by
  refine enabled_of_onlineMode ?_
  generalize w.calls i = c at h ⊢
  obtain ⟨caller, worker, attempt, result, accepted, finalized, history⟩ := c
  cases caller
  case leaving p e => cases p <;> nofun
  case check | checkAccepted | checkLocked =>
    simp only [Call.onlineMode]
    split <;> nofun
  case accepting | finalize =>
    simp only [Call.onlineMode]
    split <;> nofun
  all_goals first | cases h; done | nofun

lemma enabled_of_worker (h : (w.calls i).worker.runs = true) : w.Enabled (.worker i) := by
  refine enabled_of_work ?_
  generalize w.calls i = c at h ⊢
  obtain ⟨caller, worker, attempt, result, accepted, finalized, history⟩ := c
  cases worker
  case dropOk p => cases p <;> nofun
  case dropErr p e => cases p <;> nofun
  case deliver =>
    simp only [Call.work]
    split <;> nofun
  all_goals first | cases h; done | nofun

lemma Caller.finalizes_of_accepts {p : Caller} (h : p.accepts = true) : p.finalizes = true := by
  cases p <;> first | rfl | cases h

lemma enabled_of_result (hp : (w.calls a).caller = .await) (hr : (w.calls a).result.value ≠ none) :
    w.Enabled (.caller a) := by
  obtain ⟨r, hr⟩ := Option.ne_none_iff_exists'.mp hr
  refine enabled_of_onlineMode ?_
  simp only [Call.onlineMode, hp, Oneshot.poll_eq_ready.mpr hr]
  cases r <;> nofun

/-! ### Who is waited for -/

lemma waitCompleted_or_unnotified {p : WaitPc} {att : Attempt} (hp : p.Timely att) :
    att.waitCompleted p ≠ none ∨ att.completion.calls = 0 := by
  cases p with
  | parked seen =>
    obtain rfl : seen = 0 := hp
    cases h0 : att.completion.calls with
    | zero => exact .inr rfl
    | succ =>
      refine .inl ?_
      simp [Attempt.waitCompleted, Notify.wakes, h0]
  | _ => exact .inl fun h => by cases h

section Waits

variable (hl : Live w) (hi : Inv w) (hq : ∀ t, w.operates t = false)

include hl

lemma exists_enabled_of_apiLock (h : (w.calls a).attempt.apiLock.holder = some t) :
    ∃ t, w.Enabled t :=
  ⟨t, enabled_of_cancel (hl.apiLock a t h) nofun⟩

include hq

lemma exists_enabled_of_activeLock
    (h : w.shared.activeLock.holder = some t) : ∃ t, w.Enabled t := by
  obtain ⟨j, rfl, hj⟩ := hl.activeLock t h
  have hn : (w.calls j).caller.operates = false := hq (.caller j)
  refine ⟨_, enabled_of_caller (i := j) ?_⟩
  generalize (w.calls j).caller = p at hj hn ⊢
  cases p <;> first | rfl | cases hn; done | cases hj

lemma exists_enabled_of_activation
    (h : (w.calls a).attempt.activation.holder = some t) : ∃ t, w.Enabled t := by
  obtain ⟨rfl, hk⟩ | hp := hl.activation a t h
  · have hn : (w.calls a).worker.operates = false := hq (.worker a)
    refine ⟨_, enabled_of_worker (i := a) ?_⟩
    generalize (w.calls a).worker = q at hk hn ⊢
    cases q <;> first | rfl | cases hn; done | cases hk
  · exact ⟨t, enabled_of_cancel hp nofun⟩

lemma exists_enabled_of_stale
    (hp : (w.calls i).caller = .stale ∨ ∃ api, (w.calls i).caller = .lockActive api) :
    ∃ t, w.Enabled t := by
  obtain hf | ⟨t, ht⟩ := w.shared.activeLock.isFree_or_holder
  · refine ⟨.caller i, enabled_of_onlineMode ?_⟩
    obtain hp | ⟨api, hp⟩ := hp <;> simp only [Call.onlineMode, hp, hf, if_true]
    · split <;> nofun
    · nofun
  · exact exists_enabled_of_activeLock hl hq ht

lemma exists_enabled_of_early
    (hp : (w.calls a).caller.phase = .early) : ∃ t, w.Enabled t := by
  have hn : (w.calls a).caller.operates = false := hq (.caller a)
  by_cases hs : (w.calls a).caller = .stale
  · exact exists_enabled_of_stale hl hq (.inl hs)
  refine ⟨_, enabled_of_caller (i := a) ?_⟩
  generalize (w.calls a).caller = p at hp hn hs ⊢
  cases p
  case stale => exact (hs rfl).elim
  case wait r p => cases r <;> cases hp
  all_goals first | rfl | cases hp; done | cases hn

lemma exists_enabled_of_finalizes
    (hf : (w.calls a).caller.finalizes = true)
    (hp : (w.calls a).caller ≠ .await) : ∃ t, w.Enabled t := by
  by_cases hs : ∃ api, (w.calls a).caller = .lockActive api
  · exact exists_enabled_of_stale hl hq (.inr hs)
  refine ⟨_, enabled_of_caller (i := a) ?_⟩
  generalize (w.calls a).caller = p at hf hp hs ⊢
  cases p
  case await => exact (hp rfl).elim
  case lockActive api => exact (hs ⟨api, rfl⟩).elim
  all_goals first | rfl | cases hf

include hi

/-- While an attempt is not completed, somebody goes on. -/
lemma exists_enabled_of_pending
    (hp : (w.calls a).handshake.pending = true) : ∃ t, w.Enabled t := by
  simp only [Handshake.pending, Bool.or_eq_true, decide_eq_true_eq] at hp
  obtain hp | hp := hp
  · exact exists_enabled_of_early hl hq hp
  have hn : (w.calls a).worker.operates = false := hq (.worker a)
  cases hw : (w.calls a).worker
  case publish =>
    obtain hf | ⟨t, ht⟩ := (w.calls a).attempt.apiLock.isFree_or_holder
    · refine ⟨.worker a, enabled_of_work ?_⟩
      simp [Call.work, hw, hf]
    · exact exists_enabled_of_apiLock hl ht
  case lock =>
    obtain hf | ⟨t, ht⟩ := (w.calls a).attempt.activation.isFree_or_holder
    · refine ⟨.worker a, enabled_of_work ?_⟩
      simp [Call.work, hw, hf]
    · exact exists_enabled_of_activation hl hq ht
  case awaitAccepted =>
    by_cases hr : (w.calls a).accepted.poll = .pending
    · have hc := (hl.lively a).accepts (by simp [hw]) (Oneshot.poll_eq_pending.mp hr).2
      by_cases hp : (w.calls a).caller = .await
      · exact ⟨_, enabled_of_result hp ((hl.lively a).delivered hp hw)⟩
      · exact exists_enabled_of_finalizes hl hq (Caller.finalizes_of_accepts hc) hp
    · refine ⟨.worker a, enabled_of_work ?_⟩
      simp only [Call.work, hw]
      split <;> simp_all
  case awaitFinalized =>
    by_cases hr : (w.calls a).finalized.poll = .pending
    · have hc := (hl.lively a).finalizes (by simp [hw]) (Oneshot.poll_eq_pending.mp hr).2
      refine exists_enabled_of_finalizes hl hq hc fun hp => ?_
      have ha := (hi.consistent a).sound.agrees
      simp [Handshake.Agrees, Call.handshake, hp, hw, Caller.phase, Worker.phase,
        WorkerPhase.unanswered] at ha
    · refine ⟨.worker a, enabled_of_work ?_⟩
      simp only [Call.work, hw]
      split <;> simp_all
  all_goals
    simp only [Call.handshake, hw, Worker.phase, WorkerPhase.pending] at hp hn
    first | exact ⟨_, enabled_of_worker (i := a) (by rw [hw]; rfl)⟩ | cases hp; done | cases hn

lemma exists_enabled_of_unnotified
    (ha : (w.calls a).Acquired) (h : (w.calls a).attempt.completion.calls = 0) :
    ∃ t, w.Enabled t := by
  obtain hp | hd := ha
  · exact exists_enabled_of_pending hl hi hq hp
  obtain hn | hn := (hl.lively a).notified.after hd h
  · refine ⟨_, enabled_of_caller (i := a) ?_⟩
    generalize (w.calls a).caller = p at hn ⊢
    cases p <;> first | rfl | cases hn
  · refine ⟨_, enabled_of_worker (i := a) ?_⟩
    generalize (w.calls a).worker = q at hn ⊢
    cases q <;> first | rfl | cases hn

lemma exists_enabled_of_cancel
    {p : CancelPc} (hp : w.cancelPc t = some p) : ∃ t, w.Enabled t := by
  cases p with
  | api a =>
    obtain hf | ⟨t', ht⟩ := (w.calls a).attempt.apiLock.isFree_or_holder
    · refine ⟨t, enabled_of_cancel hp fun terminal => ?_⟩
      simp only [cancelConnectionAttempt, hf, if_true]
      split <;> simp
    · exact exists_enabled_of_apiLock hl ht
  | barrier a =>
    obtain hf | ⟨t', ht⟩ := (w.calls a).attempt.activation.isFree_or_holder
    · refine ⟨t, enabled_of_cancel hp fun terminal => ?_⟩
      simp [cancelConnectionAttempt, hf]
    · exact exists_enabled_of_activation hl hq ht
  | wait a p =>
    obtain hc | h0 := waitCompleted_or_unnotified (hl.timely t a p (.inl hp))
    · refine ⟨t, enabled_of_cancel hp fun terminal hn => hc ?_⟩
      exact Option.map_eq_none_iff.mp hn
    · exact exists_enabled_of_unnotified hl hi hq (hl.acquired t _ a hp rfl) h0
  | _ => exact ⟨t, enabled_of_cancel hp fun _ h => by cases h⟩

lemma exists_enabled_of_caller
    (hu : w.unfinished (.caller i) = true) : ∃ t, w.Enabled t := by
  have hn : (w.calls i).caller.operates = false := hq (.caller i)
  cases hp : (w.calls i).caller
  case stale => exact exists_enabled_of_stale hl hq (.inl hp)
  case lockActive api => exact exists_enabled_of_stale hl hq (.inr ⟨api, hp⟩)
  case cancelling p => exact exists_enabled_of_cancel hl hi hq (cancelPc_caller.mpr hp)
  case wait r p =>
    obtain hc | h0 := waitCompleted_or_unnotified (hl.timely (.caller i) i p (.inr ⟨r, rfl, hp⟩))
    · refine ⟨.caller i, enabled_of_onlineMode ?_⟩
      obtain ⟨q, hc⟩ := Option.ne_none_iff_exists'.mp hc
      simp only [Call.onlineMode, hp, hc]
      cases q <;> cases r <;> nofun
    · have hs := (hl.lively i).spawned r p hp
      exact exists_enabled_of_unnotified hl hi hq (hi.acquired_of_worker hs) h0
  case await =>
    have ha := (hi.consistent i).sound.agrees
    simp only [Handshake.Agrees, Call.handshake, hp, Caller.phase] at ha
    by_cases hv : (w.calls i).result.value = none
    · cases hw : (w.calls i).worker.phase
      case closing =>
        refine ⟨_, enabled_of_worker (i := i) ?_⟩
        generalize (w.calls i).worker = q at hw ⊢
        cases q <;> first | rfl | cases hw
      case finished =>
        refine ⟨_, enabled_of_worker (i := i) ?_⟩
        have hd := (hl.lively i).reported hp
        generalize (w.calls i).worker = q at hw hd ⊢
        cases q
        case done => exact (hd rfl hv).elim
        case dropOk p => cases p <;> cases hw
        case dropErr p e => cases p <;> cases hw
        all_goals first | rfl | cases hw
      all_goals first
        | exact exists_enabled_of_pending hl hi hq
            (Handshake.pending_of_worker (v := (w.calls i).handshake) hw rfl)
        | (rw [hw] at ha; cases ha.1)
    · exact ⟨_, enabled_of_result hp hv⟩
  all_goals
    simp only [hp, unfinished] at hu hn
    first | exact ⟨_, enabled_of_caller (i := i) (by rw [hp]; rfl)⟩ | cases hn; done | cases hu

lemma exists_enabled_of_worker
    (hu : w.unfinished (.worker i) = true) : ∃ t, w.Enabled t := by
  by_cases hp : (w.calls i).worker.phase.pending = true
  · exact exists_enabled_of_pending hl hi hq
      (Handshake.pending_of_worker (v := (w.calls i).handshake) rfl hp)
  refine ⟨_, enabled_of_worker (i := i) ?_⟩
  simp only [unfinished] at hu
  generalize (w.calls i).worker = q at hp hu ⊢
  cases q <;> simp_all [Worker.phase, WorkerPhase.pending, Worker.runs]

lemma exists_enabled_of_canceller {k : ℕ} (hu : w.unfinished (.canceller k) = true) :
    ∃ t, w.Enabled t := by
  have hn : (w.cancellers k).pc.operates = false := hq (.canceller k)
  cases hp : (w.cancellers k).pc with
  | cancelling => exact exists_enabled_of_cancel hl hi hq (cancelPc_canceller.mpr hp)
  | take =>
    obtain hf | ⟨t, ht⟩ := w.shared.activeLock.isFree_or_holder
    · refine ⟨.canceller k, ?_⟩
      simp only [Wallet.Enabled, Task.go, step, stepCanceller, hp, hf, if_true]
      exact ⟨_, rfl⟩
    · exact exists_enabled_of_activeLock hl hq ht
  | shut =>
    rw [hp] at hn
    cases hn
  | idle | returned =>
    simp only [unfinished, hp] at hu
    cases hu

end Waits

/-! ### Deadlock freedom -/

lemma unfinished_of_enabled (h : w.Enabled t) : w.unfinished t = true := by
  obtain ⟨w', h⟩ := h
  cases t with
  | caller i =>
    simp only [Task.go, step, stepCaller] at h
    cases hp : (w.calls i).caller <;> simp_all [unfinished, Call.onlineMode]
  | worker i =>
    simp only [Task.go, step] at h
    cases hp : (w.calls i).worker <;> simp_all [unfinished, Call.work]
  | canceller k =>
    simp only [Task.go, step, stepCanceller] at h
    cases hp : (w.cancellers k).pc <;> simp_all [unfinished]

/-- **The connection handshake never deadlocks.** In every reachable state where a caller, a worker
or a canceller is unfinished and no operation of the daemon or of the upstream wallet is
outstanding, one of them can take a step. A worker waits for an acknowledgement only while its
caller has it to send or to drop, and one that sleeps until a completed attempt is notified is
woken, or whoever completed the attempt is about to notify it. -/
theorem handshake_never_deadlocks (hw : Reachable wallets w) :
    ((∃ t, w.unfinished t = true) → (∀ t, w.operates t = false) →
      ∃ t w', w.unfinished t = true ∧ w.step t.go = some w') ∧
    (∀ a,
      ((w.calls a).worker = .awaitAccepted → (w.calls a).accepted.poll = .pending →
        (w.calls a).caller.accepts = true) ∧
      ((w.calls a).worker = .awaitFinalized → (w.calls a).finalized.poll = .pending →
        (w.calls a).caller.finalizes = true)) ∧
    ∀ t a seen, w.Waits t a (.parked seen) → (w.calls a).attempt.completed = true →
      (w.calls a).attempt.completion.wakes seen = true ∨ (w.calls a).caller.notifies = true ∨
        (w.calls a).worker.notifies = true := by
  have hl := reachable_live hw
  have hi := reachable_inv hw
  refine ⟨?_, fun a => ⟨fun hp hr => ?_, fun hp hr => ?_⟩, fun t a seen hp hd => ?_⟩
  · rintro ⟨t, hu⟩ hq
    have he : ∃ t, w.Enabled t := by
      cases t with
      | caller => exact exists_enabled_of_caller hl hi hq hu
      | worker => exact exists_enabled_of_worker hl hi hq hu
      | canceller => exact exists_enabled_of_canceller hl hi hq hu
    obtain ⟨t, w', ht⟩ := he
    exact ⟨t, w', unfinished_of_enabled ⟨w', ht⟩, ht⟩
  · exact (hl.lively a).accepts (by simp [hp]) (Oneshot.poll_eq_pending.mp hr).2
  · exact (hl.lively a).finalizes (by simp [hp]) (Oneshot.poll_eq_pending.mp hr).2
  · obtain rfl : seen = 0 := hl.timely t a _ hp
    cases h0 : (w.calls a).attempt.completion.calls with
    | zero => exact .inr ((hl.lively a).notified.after hd h0)
    | succ => exact .inl (by simp [Notify.wakes, h0])

/-- A disconnection sleeps until the attempt of a call is completed whose worker waits for the
acceptance: the caller has it to send, and can take a step. -/
theorem sleeping_canceller_progresses : ∃ w, Reachable wallets w ∧
    w.Waits (.canceller 0) 0 (.parked 0) ∧ (w.calls 0).worker = .awaitAccepted ∧
    (w.calls 0).caller.accepts = true ∧ ∃ t w', w.unfinished t = true ∧ w.step t.go = some w' := by
  obtain ⟨w, hw, hp, hq, hr, hu, hn⟩ : ∃ w, Reachable wallets w ∧
      w.Waits (.canceller 0) 0 (.parked 0) ∧ (w.calls 0).worker = .awaitAccepted ∧
      (w.calls 0).accepted.poll = .pending ∧ w.unfinished (.canceller 0) = true ∧
      ∀ t, w.operates t = false := by
    refine ⟨_, reachable_initial.exec (fun _ _ _ h => h)
      [.caller 0 (.start 1000), .caller 0 (.online false), .caller 0 .go, .caller 0 .go,
        .worker 0 (.connected (.ok ())), .worker 0 .go, .worker 0 .go, .worker 0 (.info (.ok ())),
        .worker 0 .go, .worker 0 .go, .worker 0 .go, .worker 0 (.online (.ok ())), .worker 0 .go,
        .worker 0 .go, .worker 0 .go, .caller 0 .go, .canceller 0 (.start false), .canceller 0 .go,
        .canceller 0 .go, .canceller 0 .go, .canceller 0 .go, .canceller 0 .go, .canceller 0 .go,
        .canceller 0 .go, .canceller 0 .go, .canceller 0 .go] rfl, .inl rfl, rfl, rfl, rfl, ?_⟩
    rintro ((_ | i) | (_ | i) | (_ | k)) <;> rfl
  have h := handshake_never_deadlocks hw
  exact ⟨w, hw, hp, hq, (h.2.1 0).1 hq hr, h.1 ⟨_, hu⟩ hn⟩

end XelisWallet.Connection
