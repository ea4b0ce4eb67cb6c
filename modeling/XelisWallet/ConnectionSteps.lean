import XelisWallet.ConnectionMoves

/-!
Every step of the wallet is calm or a move.

The lemmas are proved by the cases of the step functions, once; what follows about runs never
looks at a program counter again.
-/

namespace XelisWallet.Connection

open Runs Sync
open ErrorClassification (WalletError)

/-! ### Steps of a call -/

variable {i : ℕ} {s s' : Shared} {c c' : Call}

lemma Calm.of_caller {p : Caller} (hp : p.phase = c.caller.phase) (ha : p.api = c.caller.api) :
    Calm c.handshake { c with caller := p }.handshake := by
  simp only [Call.handshake, hp, ha]
  exact .sees _ id

lemma Calm.of_worker {q : Worker} {a : Attempt} (hq : q.phase = c.worker.phase)
    (hd : a.completed = c.attempt.completed) (hk : c.attempt.cancelled = true → a.cancelled = true)
    : Calm c.handshake { c with worker := q, attempt := a }.handshake := by
  simp only [Call.handshake, hq, hd]
  exact .sees _ hk

lemma CallerMove.failed (e : ConnectionError) (h : c.caller.phase.fails = true) :
    CallerMove i s c.handshake s (c.returns (.error e)).handshake :=
  .fails e s c.result c.accepted c.finalized h (.refl s) rfl rfl rfl

lemma acquire_eq_ok (h : Call.acquire i s = .ok s') :
    s.closed = false ∧ s.current = none ∧ s' = { s with current := some i } := by
  unfold Call.acquire at h
  split at h
  · cases h
  next hk =>
  split at h <;> cases h
  next hn => exact ⟨by simpa using hk, by simpa using hn, rfl⟩

lemma Caller.phase_wait (reason : WaitFor) (p p' : WaitPc) :
    (Caller.wait reason p).phase = (Caller.wait reason p').phase := by
  cases reason <;> rfl

lemma waitCompleted_returns {a : Attempt} {p : WaitPc} (h : a.waitCompleted p = some none) :
    a.completed = true := by
  cases p <;> simp_all [Attempt.waitCompleted]

lemma onlineMode_move {input : Call.CallerInput} (h : c.onlineMode i s input = some (s', c')) :
    (Calm c.handshake c'.handshake ∧ s.Calm s') ∨ CallerMove i s c.handshake s' c'.handshake := by
  obtain ⟨caller, worker, attempt, result, accepted, finalized, history⟩ := c
  unfold Call.onlineMode at h
  dsimp only at h
  split at h
  · -- idle
    split at h
    · cases h
      exact .inr (.failed _ rfl)
    split at h <;> cases h
    · exact .inr (.failed _ rfl)
    next hs =>
    obtain ⟨hk, hn, rfl⟩ := acquire_eq_ok hs
    exact .inr (.acquires rfl hk hn)
  · -- probe
    next isOnline =>
    cases h
    cases isOnline
    all_goals exact .inl ⟨.of_caller rfl rfl, .refl s⟩
  · -- stale
    split at h
    · split at h <;> cases h
      · exact .inl ⟨.of_caller rfl rfl, .refl s⟩
      · exact .inl ⟨.of_caller rfl rfl, rfl, id, .inr rfl, .inl rfl⟩
    · cases h
  · -- cleaning
    cases h
    exact .inl ⟨.of_caller rfl rfl, rfl, id, .inl rfl, .inr rfl⟩
  · -- cleaned
    next r =>
    cases h
    cases r
    all_goals exact .inl ⟨.of_caller rfl rfl, rfl, id, .inl rfl, .inl rfl⟩
  · -- check
    split at h <;> cases h
    · exact .inl ⟨.of_caller rfl rfl, .refl s⟩
    · exact .inr (.spawns rfl)
  case h_7 p e =>
    -- leaving
    cases p with
    | store => cases h; exact .inr (.completes rfl)
    | notify => cases h; exact .inl ⟨.sees _ id, .refl s⟩
    | release => cases h; exact .inr (.releases e rfl)
  · -- await
    split at h
    · cases h
    · next api hr =>
      cases h
      exact .inr (.receives api rfl (Oneshot.poll_eq_ready.mp hr))
    all_goals
      cases h
      exact .inr (.fails _ s _ _ _ rfl (.refl s) rfl rfl rfl)
  · -- await, at the timeout
    cases h
    exact .inr (.timesOut rfl)
  case h_10 | h_15 =>
    -- accepting, finalize
    split at h <;> cases h
    · next hs =>
      rw [(Oneshot.send_eq_true hs).2]
      first | exact .inr (.accepts rfl) | exact .inr (.finalizes rfl)
    · next hs =>
      rw [(Oneshot.send_eq_false hs).2]
      exact .inr (.fails _ _ _ _ _ rfl ⟨rfl, id, .inl rfl, .inl rfl⟩ rfl rfl rfl)
  case h_11 | h_13 =>
    -- checkAccepted, checkLocked
    split at h <;> cases h
    · exact .inr (.aborts rfl)
    · exact .inl ⟨.of_caller rfl rfl, .refl s⟩
  · -- lockActive
    split at h <;> cases h
    exact .inl ⟨.of_caller rfl rfl, rfl, id, .inl rfl, .inl rfl⟩
  · -- record
    cases h
    exact .inr (.records _ rfl rfl)
  case h_16 | h_17 =>
    -- unlock, abortLocked
    cases h
    exact .inl ⟨.of_caller rfl rfl, rfl, id, .inl rfl, .inl rfl⟩
  · -- abort
    cases h
    exact .inr (.abandons rfl)
  · -- wait
    split at h <;> cases h
    · exact .inl ⟨.of_caller (Caller.phase_wait ..) rfl, .refl s⟩
    · exact .inr (.failed _ rfl)
    · next hw => exact .inr (.confirms rfl (waitCompleted_returns hw))
  · -- checkFinal
    cases h
    cases hk : attempt.cancelled with
    | true => exact .inr (.failed _ rfl)
    | false => exact .inr (.succeeds rfl hk)
  case h_21 | h_22 =>
    -- dropAccepted, dropFinalized
    cases h
    exact .inr (.drops _ _ rfl rfl rfl)
  · cases h

lemma work_move {input : Call.WorkerInput} (h : c.work i s input = some (s', c')) :
    (Calm c.handshake c'.handshake ∧ s.Calm s') ∨ WorkerMove i s c.handshake s' c'.handshake := by
  obtain ⟨caller, worker, attempt, result, accepted, finalized, history⟩ := c
  unfold Call.work at h
  dsimp only at h
  split at h
  case h_1 result | h_4 result =>
    -- connect, info
    cases h
    cases result with
    | ok => exact .inl ⟨.of_worker rfl rfl id, .refl s⟩
    | error => exact .inr (.fails rfl)
  case h_2 | h_6 =>
    -- publish, lock
    split at h <;> cases h
    exact .inl ⟨.of_worker rfl rfl id, .refl s⟩
  case h_3 | h_5 | h_7 =>
    -- checkPublished, checkInfo, checkLocked
    cases h
    split
    · exact .inr (.fails rfl)
    · exact .inl ⟨.of_worker rfl rfl id, .refl s⟩
  · -- install
    cases h
    exact .inr (.installs rfl)
  · -- install, refused
    cases h
    exact .inr (.fails rfl)
  · -- checkInstalled
    cases h
    split
    · next hk => exact .inr (.revokes rfl hk)
    · exact .inl ⟨.of_worker rfl rfl id, .refl s⟩
  · -- rollbackLocked
    cases h
    exact .inr (.revoked rfl)
  case h_12 | h_13 =>
    -- unlockErr, unlock
    cases h
    exact .inl ⟨.of_worker rfl rfl id, .refl s⟩
  · -- deliver
    split at h <;> cases h
    · next hs =>
      rw [(Oneshot.send_eq_true hs).2]
      exact .inr (.delivers rfl)
    · next hs =>
      rw [(Oneshot.send_eq_false hs).2]
      exact .inr (.undelivered rfl (Oneshot.send_eq_false hs).1)
  case h_15 | h_16 =>
    -- awaitAccepted, awaitFinalized
    split at h <;> cases h
    · next hr =>
      have hr := Oneshot.poll_eq_ready.mp hr
      first | exact .inr (.accepted rfl hr) | exact .inr (.finalized rfl hr)
    · next hr =>
      have hr := Oneshot.poll_eq_closed.mp hr
      exact .inr (.unacknowledged (by first | exact .inl ⟨rfl, hr⟩ | exact .inr ⟨rfl, hr⟩))
  · -- decide
    next f =>
    cases h
    split
    · next hk =>
      have hk : f = false ∨ attempt.cancelled = true := by simpa using hk
      exact .inr (.rolls f rfl hk)
    · next hk =>
      obtain rfl : f = true := by simp_all
      exact .inr (.keeps rfl)
  · -- rollback
    cases h
    exact .inr (.rolled rfl)
  case h_19 p | h_20 p _ =>
    -- dropOk, dropErr
    cases p <;> cases h
    · first | exact .inr (.completes (.inl rfl)) | exact .inr (.completes (.inr rfl))
    · exact .inl ⟨.of_worker rfl rfl id, .refl s⟩
    · exact .inr (.releases _ _ rfl rfl rfl rfl rfl)
  · -- sendErr
    next e =>
    cases h
    exact .inr (.reports e rfl)
  · cases h

/-! ### The attempt of a call -/

/-- The guard has completed the attempt and is about to notify the waiters. -/
def Caller.notifies : Caller → Bool
  | .leaving .notify _ => true
  | _ => false

@[inherit_doc Caller.notifies]
def Worker.notifies : Worker → Bool
  | .dropOk .notify | .dropErr .notify _ => true
  | _ => false

/-- The worker has the activation lock. -/
def Worker.locks : Worker → Bool
  | .checkLocked | .install | .checkInstalled | .rollbackLocked | .unlockErr _ | .unlock => true
  | _ => false

/-- What a step of `online_mode` does to the attempt. -/
inductive CallerTouch (p : Caller) (att : Attempt) : Caller → Attempt → Prop
  | same (p' : Caller) : p.notifies = false → CallerTouch p att p' att
  | new (p' : Caller) : p = .idle → CallerTouch p att p' .new
  | completes (e : ConnectionError) : p = .leaving .store e →
      CallerTouch p att (.leaving .notify e) { att with completed := true }
  | notifies (p' : Caller) : p.notifies = true →
      CallerTouch p att p' { att with completion := att.completion.notifyWaiters }

/-- What a step of a worker does to the attempt. -/
inductive WorkerTouch (i : ℕ) (q : Worker) (att : Attempt) : Worker → Attempt → Prop
  | same (q' : Worker) : q.notifies = false → (q.locks = true → q'.locks = true) →
      WorkerTouch i q att q' att
  | publishes : q = .publish → WorkerTouch i q att .checkPublished { att with api := some i }
  | locks : q = .lock →
      WorkerTouch i q att .checkLocked { att with activation := .taken (.worker i) }
  | unlocks (q' : Worker) : q.locks = true →
      WorkerTouch i q att q' { att with activation := .free }
  | completes (q' : Worker) : q.locks = false → q'.notifies = true →
      WorkerTouch i q att q' { att with completed := true }
  | notifies (q' : Worker) : q.notifies = true →
      WorkerTouch i q att q' { att with completion := att.completion.notifyWaiters }

lemma onlineMode_touch {input : Call.CallerInput} (h : c.onlineMode i s input = some (s', c')) :
    CallerTouch c.caller c.attempt c'.caller c'.attempt := by
  obtain ⟨caller, worker, attempt, result, accepted, finalized, history⟩ := c
  unfold Call.onlineMode at h
  dsimp only at h
  split at h
  case h_1 =>
    repeat' split at h
    all_goals cases h
    all_goals first | exact .same _ rfl | exact .new _ rfl
  case h_7 p e =>
    cases p with
    | store => cases h; exact .completes e rfl
    | notify => cases h; exact .notifies _ rfl
    | release => cases h; exact .same _ rfl
  all_goals repeat' split at h
  all_goals cases h
  all_goals exact .same _ rfl

lemma work_touch {input : Call.WorkerInput} (h : c.work i s input = some (s', c')) :
    WorkerTouch i c.worker c.attempt c'.worker c'.attempt := by
  obtain ⟨caller, worker, attempt, result, accepted, finalized, history⟩ := c
  unfold Call.work at h
  dsimp only at h
  split at h
  case h_7 | h_10 =>
    cases h
    split
    all_goals exact .same _ rfl fun _ => rfl
  case h_19 p | h_20 p _ =>
    cases p <;> cases h
    · exact .completes _ rfl rfl
    · exact .notifies _ rfl
    · exact .same _ rfl nofun
  all_goals repeat' split at h
  all_goals cases h
  all_goals first
    | exact .same _ rfl fun _ => rfl
    | exact .publishes rfl
    | exact .locks rfl
    | exact .unlocks _ rfl
    | exact .same _ rfl nofun

/-! ### Steps of the wallet -/

/-- The attempt that a cancellation found. -/
def CancelPc.target : CancelPc → Option ℕ
  | .start => none
  | .flag a | .api a | .disconnect a | .barrier a | .lift a | .wait a _ => some a

/-- What a cancellation does to the attempt that it found, and where it goes. -/
inductive CancelTouch (t : Task) (a : ℕ) (att : Attempt) : CancelPc → Attempt → CancelPc → Prop
  | flags : CancelTouch t a att (.flag a) { att with cancelled := true } (.api a)
  | skips : att.apiLock.isFree = true → CancelTouch t a att (.api a) att (.barrier a)
  | takesApi : att.apiLock.isFree = true →
      CancelTouch t a att (.api a) { att with apiLock := .taken t } (.disconnect a)
  | freesApi : CancelTouch t a att (.disconnect a) { att with apiLock := .free } (.barrier a)
  | takes : att.activation.isFree = true →
      CancelTouch t a att (.barrier a) { att with activation := .taken t } (.lift a)
  | frees : CancelTouch t a att (.lift a) { att with activation := .free } (.wait a .check)

/-- The steps of `cancel_connection_attempt`. -/
inductive CancelStep (w : Wallet) (t : Task) (terminal : Bool) :
    CancelPc → Wallet → Option CancelPc → Prop
  | starts : CancelStep w t terminal .start
      { w with shared := { w.shared with closed := w.shared.closed || terminal } }
      (w.shared.current.map .flag)
  | touches (a : ℕ) (p p' : CancelPc) (att : Attempt) :
      CancelTouch t a (w.calls a).attempt p att p' →
      CancelStep w t terminal p (w.setAttempt a att) (some p')
  | waits (a : ℕ) (p : WaitPc) (p' : Option WaitPc) :
      (w.calls a).attempt.waitCompleted p = some p' →
      CancelStep w t terminal (.wait a p) w (p'.map (.wait a))

variable {w w' : Wallet} {t : Task} {terminal : Bool} {p : CancelPc} {q : Option CancelPc}

lemma setAttempt_self (w : Wallet) (a : ℕ) : w.setAttempt a (w.calls a).attempt = w := by
  simp [Wallet.setAttempt, Wallet.setCall]

lemma cancelConnectionAttempt_step (h : w.cancelConnectionAttempt t terminal p = some (w', q)) :
    CancelStep w t terminal p w' q := by
  cases p with
  | start => cases h; exact .starts
  | flag => cases h; exact .touches _ _ _ _ .flags
  | api a =>
    simp only [Wallet.cancelConnectionAttempt] at h
    split at h
    · next hf =>
      split at h <;> cases h
      · have ht : CancelStep w t terminal (.api a) (w.setAttempt a (w.calls a).attempt)
          (some (.barrier a)) := .touches _ _ _ _ (.skips hf)
        rwa [setAttempt_self] at ht
      · exact .touches _ _ _ _ (.takesApi hf)
    · cases h
  | disconnect => cases h; exact .touches _ _ _ _ .freesApi
  | barrier =>
    simp only [Wallet.cancelConnectionAttempt] at h
    split at h <;> cases h
    next hf => exact .touches _ _ _ _ (.takes hf)
  | lift => cases h; exact .touches _ _ _ _ .frees
  | wait a p =>
    obtain ⟨p', hp', h⟩ := Option.map_eq_some_iff.mp h
    cases h
    exact .waits a p p' hp'

/-- The steps of the wallet, by who makes them. -/
inductive Acts (w : Wallet) : Action → Wallet → Prop
  | calls (i : ℕ) (input : Call.CallerInput) (s : Shared) (c : Call) :
      (w.calls i).onlineMode i w.shared input = some (s, c) →
      Acts w (.caller i input) (w.setCall i s c)
  | works (i : ℕ) (input : Call.WorkerInput) (s : Shared) (c : Call) :
      (w.calls i).work i w.shared input = some (s, c) →
      Acts w (.worker i input) (w.setCall i s c)
  | timesOut (i : ℕ) (p p' : CancelPc) (w₁ : Wallet) : (w.calls i).caller = .cancelling p →
      CancelStep w (.caller i) false p w₁ (some p') →
      Acts w (.caller i .go) (w₁.setCall i w₁.shared { w₁.calls i with caller := .cancelling p' })
  | timedOut (i : ℕ) (p : CancelPc) (w₁ : Wallet) : (w.calls i).caller = .cancelling p →
      CancelStep w (.caller i) false p w₁ none →
      Acts w (.caller i .go) (w₁.setCall i w₁.shared ((w₁.calls i).returns (.error .timeout)))
  | starts (k : ℕ) (terminal : Bool) : (w.cancellers k).pc = .idle →
      Acts w (.canceller k (.start terminal))
        { w with cancellers := Function.update w.cancellers k ⟨terminal, .cancelling .start⟩ }
  | cancels (k : ℕ) (p p' : CancelPc) (w₁ : Wallet) : (w.cancellers k).pc = .cancelling p →
      CancelStep w (.canceller k) (w.cancellers k).terminal p w₁ (some p') →
      Acts w (.canceller k .go) (w₁.setCanceller k (.cancelling p'))
  | cancelled (k : ℕ) (p : CancelPc) (w₁ : Wallet) : (w.cancellers k).pc = .cancelling p →
      CancelStep w (.canceller k) (w.cancellers k).terminal p w₁ none →
      Acts w (.canceller k .go) (w₁.setCanceller k .take)
  | takes (k : ℕ) : (w.cancellers k).pc = .take → w.shared.activeLock.isFree = true →
      Acts w (.canceller k .go) ({ w with shared := { w.shared with active := none } }.setCanceller
        k (.shut w.shared.active))
  | shuts (k : ℕ) (active : Option ℕ) (result r : Except WalletError Unit) :
      (w.cancellers k).pc = .shut active →
      Acts w (.canceller k (.offlined result))
        ({ w with shared := { w.shared with handler := none } }.setCanceller k (.returned r))
  | drops (a : ℕ) (p : CancelPc) (w₁ : Wallet) (q : Option CancelPc) (d : Option ℕ) :
      p = .start ∨ p = .flag a → CancelStep w (.canceller 0) true p w₁ q →
      Acts w .drop { w₁ with dropping := d }

lemma step_acts {act : Action} (h : w.step act = some w') : Acts w act w' := by
  cases act with
  | caller i input =>
    change w.stepCaller i input = some w' at h
    unfold Wallet.stepCaller at h
    split at h
    · next p hp =>
      split at h <;> cases h
      · next w₁ p' hc => exact .timesOut i p p' w₁ hp (cancelConnectionAttempt_step hc)
      · next w₁ hc => exact .timedOut i p w₁ hp (cancelConnectionAttempt_step hc)
    · obtain ⟨⟨s, c⟩, hm, rfl⟩ := Option.map_eq_some_iff.mp h
      exact .calls i _ s c hm
  | worker i input =>
    obtain ⟨⟨s, c⟩, hm, rfl⟩ := Option.map_eq_some_iff.mp h
    exact .works i input s c hm
  | canceller k input =>
    change w.stepCanceller k input = some w' at h
    unfold Wallet.stepCanceller at h
    split at h
    · next hp => cases h; exact .starts k _ hp
    · next p hp =>
      split at h <;> cases h
      · next w₁ p' hc => exact .cancels k p p' w₁ hp (cancelConnectionAttempt_step hc)
      · next w₁ hc => exact .cancelled k p w₁ hp (cancelConnectionAttempt_step hc)
    · next hp =>
      split at h <;> cases h
      next hf => exact .takes k hp hf
    · next active result hp => cases h; exact .shuts k active result _ hp
    · cases h
  | drop =>
    cases h
    unfold Wallet.stepDrop
    split
    · rw [← Bool.or_true w.shared.closed]
      exact .drops 0 .start _ _ _ (.inl rfl) .starts
    · next a _ => exact .drops a _ _ _ _ (.inr rfl) (.touches a _ _ _ .flags)

/-! ### What the calls see of a step -/

variable {a : ℕ} {att att' : Attempt} {p' : CancelPc}

lemma CancelTouch.target (h : CancelTouch t a att p att' p') :
    p.target = some a ∧ p'.target = some a := by
  cases h <;> exact ⟨rfl, rfl⟩

lemma CancelTouch.completed (h : CancelTouch t a att p att' p') :
    att'.completed = att.completed := by
  cases h <;> rfl

lemma CancelTouch.cancelled (h : CancelTouch t a att p att' p') (hk : att.cancelled = true) :
    att'.cancelled = true := by
  cases h <;> first | rfl | exact hk

lemma setCall_self (w : Wallet) (i : ℕ) (s : Shared) (c : Call) :
    (w.setCall i s c).calls i = c := by
  simp [Wallet.setCall]

lemma setCall_of_ne {j : ℕ} (hj : j ≠ i) (w : Wallet) (s : Shared) (c : Call) :
    (w.setCall i s c).calls j = w.calls j := by
  simp [Wallet.setCall, hj]

lemma setCall_forall {P : ℕ → Call → Prop} {s : Shared} {c : Call} :
    (∀ j, P j ((w.setCall i s c).calls j)) ↔ P i c ∧ ∀ j, j ≠ i → P j (w.calls j) :=
  Function.forall_update_iff _ P

variable (h : CancelStep w t terminal p w' q)
include h

lemma CancelStep.call (a : ℕ) :
    ∃ att, w'.calls a = { w.calls a with attempt := att } ∧ (att = (w.calls a).attempt ∨
      ∃ p', q = some p' ∧ CancelTouch t a (w.calls a).attempt p att p') := by
  cases h with
  | touches b p p' att ht =>
    by_cases hab : a = b
    · subst hab
      exact ⟨att, setCall_self .., .inr ⟨p', rfl, ht⟩⟩
    · exact ⟨_, setCall_of_ne hab .., .inl rfl⟩
  | starts | waits => exact ⟨_, rfl, .inl rfl⟩

lemma CancelStep.calm (j : ℕ) : Calm (w.calls j).handshake (w'.calls j).handshake := by
  obtain ⟨att, he, rfl | ⟨p', -, ht⟩⟩ := h.call j
  · rw [he]
  · simp only [he, Call.handshake, ht.completed]
    exact .sees _ ht.cancelled

lemma CancelStep.shared : w.shared.Calm w'.shared := by
  cases h with
  | starts => exact ⟨rfl, fun h => by simp [h], .inl rfl, .inl rfl⟩
  | touches | waits => exact .refl _

lemma CancelStep.cancellers : w'.cancellers = w.cancellers := by
  cases h <;> rfl

omit h

lemma CancelStep.calls_of_none (h : CancelStep w t terminal p w' none) : w'.calls = w.calls := by
  generalize hq : none = q at h
  cases h with
  | touches => cases hq
  | starts | waits => rfl

/-- A step of the wallet is calm for every call, or a move of one of them. -/
inductive Evolves (w : Wallet) : Action → Wallet → Prop
  | calm (act : Action) (w' : Wallet) :
      (∀ j, Calm (w.calls j).handshake (w'.calls j).handshake) → w.shared.Calm w'.shared →
      Evolves w act w'
  | caller (i : ℕ) (input : Call.CallerInput) (w' : Wallet) :
      CallerMove i w.shared (w.calls i).handshake w'.shared (w'.calls i).handshake →
      (∀ j, j ≠ i → w'.calls j = w.calls j) → Evolves w (.caller i input) w'
  | worker (i : ℕ) (input : Call.WorkerInput) (w' : Wallet) :
      WorkerMove i w.shared (w.calls i).handshake w'.shared (w'.calls i).handshake →
      (∀ j, j ≠ i → w'.calls j = w.calls j) → Evolves w (.worker i input) w'

lemma setCall_calm {s : Shared} {c : Call} (hc : Calm (w.calls i).handshake c.handshake) (j : ℕ) :
    Calm (w.calls j).handshake ((w.setCall i s c).calls j).handshake :=
  (setCall_forall (P := fun j c => Calm (w.calls j).handshake c.handshake)).mpr
    ⟨hc, fun _ _ => .refl _⟩ j

lemma timedOut_fails {s s' : Shared} {c : Call} (hp : c.caller = .cancelling p) (hs : s.Calm s') :
    CallerMove i s c.handshake s' (c.returns (.error .timeout)).handshake := by
  obtain ⟨caller, worker, attempt, result, accepted, finalized, history⟩ := c
  cases hp
  exact .fails _ _ _ _ _ rfl hs rfl rfl rfl

lemma step_evolves {act : Action} (h : w.step act = some w') : Evolves w act w' := by
  cases step_acts h with
  | calls i input s c hm =>
    obtain ⟨hc, hs⟩ | hm := onlineMode_move hm
    · exact .calm _ _ (setCall_calm hc) hs
    · refine .caller i input _ ?_ fun j hj => setCall_of_ne hj ..
      rwa [setCall_self]
  | works i input s c hm =>
    obtain ⟨hc, hs⟩ | hm := work_move hm
    · exact .calm _ _ (setCall_calm hc) hs
    · refine .worker i input _ ?_ fun j hj => setCall_of_ne hj ..
      rwa [setCall_self]
  | timesOut i p p' w₁ hp hc =>
    refine .calm _ _ (fun j => (hc.calm j).trans (setCall_calm (.of_caller ?_ ?_) j)) hc.shared
    · exact ((hc.calm i).caller.trans (congrArg Caller.phase hp)).symm
    · exact ((hc.calm i).api.trans (congrArg Caller.api hp)).symm
  | timedOut i p w₁ hp hc =>
    have he : ∀ j, w₁.calls j = w.calls j := congrFun hc.calls_of_none
    refine .caller i _ _ ?_ fun j hj => (setCall_of_ne hj ..).trans (he j)
    rw [setCall_self, he]
    exact timedOut_fails hp hc.shared
  | starts => exact .calm _ _ (fun j => .refl _) (.refl _)
  | cancels _ _ _ _ _ hc | cancelled _ _ _ _ hc | drops _ _ _ _ _ _ hc =>
    exact .calm _ _ hc.calm hc.shared
  | takes => exact .calm _ _ (fun j => .refl _) ⟨rfl, id, .inr rfl, .inl rfl⟩
  | shuts => exact .calm _ _ (fun j => .refl _) ⟨rfl, id, .inl rfl, .inr rfl⟩

end XelisWallet.Connection
