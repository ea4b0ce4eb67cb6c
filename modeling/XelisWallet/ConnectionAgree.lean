import XelisWallet.ConnectionSteps

/-!
The two sides of a connection agree.

What the caller of a call has done so far bounds where its worker can be and what their channels
hold. Both invariants are about one call, and kept by every move of it.
-/

namespace XelisWallet.Connection

open Runs Sync

namespace WorkerPhase

/-- Where the worker of a caller can be that still waits. -/
def unanswered : WorkerPhase → Bool
  | .connecting | .installed | .revoking | .acceptance | .failed | .closing | .finished => true
  | _ => false

/-- At the acknowledgements. -/
def joined : WorkerPhase → Bool
  | .acceptance | .finalization => true
  | _ => false

/-- Where the worker of a finalized connection can be. -/
def finalizable : WorkerPhase → Bool
  | .acceptance | .finalization | .deciding true | .rolling | .settled | .closing | .finished =>
    true
  | _ => false

lemma finalizable_of_joined {q : WorkerPhase} (h : q.joined = true) : q.finalizable = true := by
  cases q <;> first | rfl | cases h

end WorkerPhase

namespace Handshake

/-- What the phase of the caller says about the worker and the channels. -/
def Agrees (v : Handshake) : Prop :=
  match v.caller with
  | .fresh | .early | .left => v.worker = .idle
  | .waiting => v.worker.unanswered = true ∧ v.result.receiver = true ∧
      v.accepted.sender = true ∧ v.accepted.value = none ∧
      (∀ a, v.result.value = some (.ok a) → v.worker = .acceptance)
  | .accepting => v.worker = .acceptance ∧ v.accepted.sender = true ∧ v.accepted.value = none
  | .confirming | .recorded | .abandoning => v.worker.joined = true ∧ v.accepted.value = some ()
  | .finalized | .confirmed => v.worker.finalizable = true
  | .returned => v.finalized.value = none ∨ v.worker.finalizable = true
  | .stopped => True

/-- What the phase of the caller says about the second acknowledgement. -/
def Acknowledges (v : Handshake) : Prop :=
  match v.caller with
  | .waiting | .accepting | .confirming | .recorded | .abandoning =>
    v.finalized.value = none ∧ v.finalized.sender = true
  | .finalized | .confirmed => v.finalized.value = some ()
  | .fresh | .early | .left | .stopped => v.finalized.value = none
  | .returned => True

/-- The connection was not finalized and never will be. -/
def Undone (v : Handshake) : Prop :=
  (v.caller = .stopped ∨ v.caller = .returned) ∧ v.finalized.value = none

/-- How the two sides of call `i` and their channels agree. -/
structure Sound (i : ℕ) (v : Handshake) : Prop where
  agrees : v.Agrees
  acknowledges : v.Acknowledges
  second : v.finalized.value = none ∨ v.accepted.value = some ()
  decided : v.worker = .deciding true → v.finalized.value = some ()
  undone : v.worker = .deciding false → v.Undone
  rolls : v.worker = .revoking ∨ v.worker = .rolling → v.cancelled = true ∨ v.Undone
  sent : ∀ a, v.result.value = some (.ok a) → a = i
  api : ∀ a, v.api = some a → a = i

end Handshake

variable {i : ℕ} {s s' : Shared} {v v' : Handshake}

section

attribute [local simp] Handshake.Agrees Handshake.Acknowledges Handshake.Undone Handshake.record
  WorkerPhase.joined WorkerPhase.finalizable WorkerPhase.unanswered Oneshot.dropSender
  Oneshot.dropReceiver Oneshot.new

variable (h : CallerMove i s v s' v')
include h

lemma CallerMove.agrees (hc : v.Sound i) : v'.Agrees := by
  obtain ⟨caller, worker, api, cancelled, completed, result, accepted, finalized, history⟩ := v
  have ha := hc.agrees
  have hk := hc.acknowledges
  cases h with
  | releases e hp =>
    cases hp
    exact .inl hk
  | spawns hp => cases hp; simp
  | receives api hp hv =>
    cases hp
    obtain ⟨-, -, hs, hn, hd⟩ := ha
    exact ⟨hd api hv, hs, hn⟩
  | accepts hp =>
    cases hp
    obtain ⟨rfl, -, -⟩ : worker = _ ∧ _ := ha
    exact ⟨rfl, rfl⟩
  | timesOut | abandons => trivial
  | finalizes hp => cases hp; exact WorkerPhase.finalizable_of_joined ha.1
  | acquires hp | completes hp | aborts hp | records _ hp | confirms hp => cases hp; exact ha
  | succeeds hp => cases hp; exact .inr ha
  | fails => cases caller <;> simp_all [CallerPhase.fails]
  | drops a f hp => cases hp; trivial

lemma CallerMove.acknowledges (hc : v.Sound i) : v'.Acknowledges := by
  obtain ⟨caller, worker, api, cancelled, completed, result, accepted, finalized, history⟩ := v
  have hk := hc.acknowledges
  cases h with
  | spawns => exact ⟨rfl, rfl⟩
  | timesOut hp | abandons hp => cases hp; exact hk.1
  | finalizes => rfl
  | acquires hp | completes hp | receives _ hp | accepts hp | aborts hp | records _ hp
  | confirms hp => cases hp; exact hk
  | releases | succeeds | fails => trivial
  | drops a f hp ha hf => cases hp; exact hf.trans hk

lemma CallerMove.undone (hu : v.Undone) : v'.Undone := by
  obtain ⟨hp, hn⟩ := hu
  cases h
  case fails hf hs => exact ⟨.inr rfl, hf.trans hn⟩
  case drops hf => exact ⟨hp, hf.trans hn⟩
  all_goals obtain hp | hp := hp <;> simp_all

lemma CallerMove.worker : v'.worker = v.worker ∨ v.caller = .early ∧ v'.worker = .connecting := by
  cases h with
  | spawns hp => exact .inr ⟨hp, rfl⟩
  | _ => exact .inl rfl

lemma CallerMove.finalized_value (hc : v.Sound i)
    (hf : v.finalized.value = some ()) : v'.finalized.value = some () := by
  have hk := hc.acknowledges
  cases h
  case spawns hp => simp_all
  case fails hv _ => exact hv.trans hf
  case drops hv => exact hv.trans hf
  case finalizes => rfl
  all_goals exact hf

lemma CallerMove.cancelled (hc : v.Sound i)
    (hq : v.worker ≠ .idle) (hk : v.cancelled = true) : v'.cancelled = true := by
  have ha := hc.agrees
  cases h
  case acquires hp => simp_all
  all_goals exact hk

omit h

lemma CallerMove.sound (h : CallerMove i s v s' v') (hc : v.Sound i) : v'.Sound i where
  agrees := h.agrees hc
  acknowledges := h.acknowledges hc
  second := by
    have ha := hc.agrees
    have hs := hc.second
    cases h
    case fails ha hf _ => exact hs.imp hf.trans ha.trans
    case drops ha hf => exact hs.imp hf.trans ha.trans
    all_goals simp_all
  decided hq := by
    obtain hw | ⟨-, hw⟩ := h.worker
    · exact h.finalized_value hc (hc.decided (hw ▸ hq))
    · rw [hw] at hq
      cases hq
  undone hq := by
    obtain hw | ⟨-, hw⟩ := h.worker
    · exact h.undone (hc.undone (hw ▸ hq))
    · rw [hw] at hq
      cases hq
  rolls hq := by
    obtain hw | ⟨-, hw⟩ := h.worker
    · rw [hw] at hq
      refine (hc.rolls hq).imp (h.cancelled hc ?_) h.undone
      rintro hi
      simp [hi] at hq
    · simp [hw] at hq
  sent := by
    have hs := hc.sent
    cases h
    case fails hr ha hf _ => exact fun a h => hs a (hr.symm.trans h)
    all_goals simp_all
  api := by
    have hs := hc.sent
    have hv := hc.api
    cases h <;> simp_all

lemma WorkerMove.agrees (h : WorkerMove i s v s' v') (hc : v.Sound i) : v'.Agrees := by
  obtain ⟨caller, worker, api, cancelled, completed, result, accepted, finalized, history⟩ := v
  have ha := hc.agrees
  have hk := hc.acknowledges
  have hsec := hc.second
  cases h with
  | unacknowledged h =>
    obtain ⟨h, hv, hs⟩ | ⟨h, hv, hs⟩ := h
    all_goals cases h; cases caller <;> simp_all
  | completes h =>
    obtain h | h := h
    all_goals cases h; cases caller <;> simp_all
  | fails h | installs h | revokes h | revoked h | delivers h | accepted h | finalized h
  | undelivered h | keeps h | rolls _ h | rolled h | releases _ _ h =>
    cases h; cases caller <;> simp_all
  | reports e h => cases h; cases caller <;> simp_all [Oneshot.send_value]

lemma Handshake.Sound.undone_of_undelivered (hc : v.Sound i) (hq : v.worker = .installed)
    (hr : v.result.receiver = false) : v.Undone := by
  obtain ⟨caller, worker, api, cancelled, completed, result, accepted, finalized, history⟩ := v
  have ha := hc.agrees
  have hk := hc.acknowledges
  cases hq
  cases caller <;> simp_all

lemma Handshake.Sound.undone_of_unacknowledged (hc : v.Sound i)
    (h : v.worker = .acceptance ∧ v.accepted.value = none ∧ v.accepted.sender = false ∨
      v.worker = .finalization ∧ v.finalized.value = none ∧ v.finalized.sender = false) :
    v.Undone := by
  obtain ⟨caller, worker, api, cancelled, completed, result, accepted, finalized, history⟩ := v
  have ha := hc.agrees
  have hk := hc.acknowledges
  have hs := hc.second
  obtain ⟨hq, hn, hd⟩ | ⟨hq, hn, hd⟩ := h
  all_goals
    cases hq
    cases caller <;> simp_all

lemma WorkerMove.sound (h : WorkerMove i s v s' v') (hc : v.Sound i) : v'.Sound i where
  agrees := h.agrees hc
  acknowledges := by
    have hk := hc.acknowledges
    cases h
    case releases hv hs =>
      unfold Handshake.Acknowledges at hk ⊢
      rwa [hv, hs]
    all_goals exact hk
  second := by
    have hs := hc.second
    cases h <;> simp_all
  decided := by
    have hd := hc.decided
    cases h <;> simp_all
  undone := by
    have ha := hc.agrees
    have hk := hc.acknowledges
    have hu := hc.undone
    have hsec := hc.second
    cases h
    case undelivered hq hr => exact fun _ => hc.undone_of_undelivered hq hr
    case unacknowledged h => exact fun _ => hc.undone_of_unacknowledged h
    all_goals simp_all
  rolls := by
    have hu := hc.undone
    have hr := hc.rolls
    cases h
    case revokes _ hk => exact fun _ => .inl hk
    case rolls f hq hf =>
      rintro -
      obtain rfl | hk := hf
      · exact .inr (hu hq)
      · exact .inl hk
    all_goals simp_all
  sent := by
    have hs := hc.sent
    cases h
    case reports e _ =>
      intro a hv
      rw [Oneshot.send_value] at hv
      split at hv
      · cases hv
      · exact hs a hv
    all_goals simp_all
  api := by
    have hv := hc.api
    cases h <;> exact hv

lemma Calm.sound (h : Calm v v') (hc : v.Sound i) : v'.Sound i := by
  obtain ⟨k, hk⟩ := h
  exact ⟨hc.agrees, hc.acknowledges, hc.second, hc.decided, hc.undone,
    fun hq => (hc.rolls hq).imp_left hk, hc.sent, hc.api⟩

lemma sound_new (i : ℕ) : Call.new.handshake.Sound i := by
  constructor <;> simp [Call.handshake, Call.new, Caller.phase, Worker.phase, Caller.api]

end

end XelisWallet.Connection
