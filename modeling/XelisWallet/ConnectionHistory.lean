import XelisWallet.ConnectionAgree
import XelisWallet.Trace

/-!
What the history of a call tells about its connection.

The worker of a call installs its handler at most once, and has rolled it back when its attempt
completes, unless the caller finalized the connection.
-/

namespace XelisWallet.Connection

open Runs Sync Trace Handshake

namespace WorkerPhase

/-- The handler is installed and was not removed by the worker. -/
def owns : WorkerPhase → Bool
  | .installed | .revoking | .acceptance | .finalization | .deciding _ | .rolling => true
  | _ => false

lemma owns_of_joined {q : WorkerPhase} (h : q.joined = true) : q.owns = true := by
  cases q <;> first | rfl | cases h

end WorkerPhase

namespace Handshake

/-- What happened on the side of the caller. -/
structure CallerLogged (i : ℕ) (v : Handshake) : Prop where
  early : v.caller = .fresh ∨ v.caller = .early → v.history = []
  gaveUp : .gaveUp ∈ v.history →
    v.finalized.value = none ∧
      (v.caller = .abandoning ∨ v.caller = .stopped ∨ v.caller = .returned)
  recorded : v.caller = .recorded ∨ v.caller = .finalized ∨ v.caller = .confirmed →
    .recorded i ∈ v.history
  same : ∀ a, .recorded a ∈ v.history → a = i

/-- What happened on the side of the worker. -/
structure WorkerLogged (i : ℕ) (v : Handshake) : Prop where
  before : v.worker = .idle ∨ v.worker = .connecting →
    (∀ a, .installed a ∉ v.history) ∧ .rolledBack ∉ v.history
  owned : v.worker.owns = true → .installed i ∈ v.history ∧ .rolledBack ∉ v.history
  failed : v.worker = .failed → .installed i ∈ v.history → .rolledBack ∈ v.history
  settled : v.worker = .settled → .rolledBack ∈ v.history ∨ v.finalized.value = some ()
  final : v.finalized.value = some () → .installed i ∈ v.history
  rolledBack : .rolledBack ∈ v.history → v.cancelled = true ∨ v.Undone
  same : ∀ a, .installed a ∈ v.history → a = i

end Handshake

variable {i : ℕ} {s s' : Shared} {v v' : Handshake} {e : Event}

namespace Handshake

/-- The entry that the caller may make next. -/
def CallerWrites (v : Handshake) : Event → Prop
  | .completed b => v.caller = .early ∧ b = v.cancelled
  | .gaveUp => v.caller = .waiting ∨ v.caller = .confirming
  | .recorded a => v.caller = .confirming ∧ v.api = some a
  | .finalized => v.caller = .recorded
  | .returned (.ok ()) => v.caller = .confirmed ∧ v.cancelled = false
  | .returned (.error _) => v.caller ≠ .early
  | .installed _ | .rolledBack => False

/-- The entry that the worker of call `i` may make next. -/
def WorkerWrites (i : ℕ) (v : Handshake) : Event → Prop
  | .installed a => v.worker = .connecting ∧ a = i
  | .rolledBack => v.worker = .revoking ∨ v.worker = .rolling
  | .completed b => (v.worker = .settled ∨ v.worker = .failed) ∧ b = v.cancelled
  | _ => False

end Handshake

lemma CallerMove.history (h : CallerMove i s v s' v') :
    v'.history = v.history ∨ ∃ e, v'.history = v.history ++ [e] ∧ v.CallerWrites e := by
  cases h with
  | completes hp => exact .inr ⟨_, rfl, hp, rfl⟩
  | releases e hp => exact .inr ⟨_, rfl, by simp [Handshake.CallerWrites, hp]⟩
  | timesOut hp => exact .inr ⟨_, rfl, .inl hp⟩
  | aborts hp => exact .inr ⟨_, rfl, .inr hp⟩
  | finalizes hp => exact .inr ⟨_, rfl, hp⟩
  | records _ hp hk | succeeds hp hk => exact .inr ⟨_, rfl, hp, hk⟩
  | fails e s' r a f hp =>
    refine .inr ⟨_, rfl, fun he => ?_⟩
    rw [he] at hp
    cases hp
  | _ => exact .inl rfl

lemma WorkerMove.history (h : WorkerMove i s v s' v') :
    v'.history = v.history ∨ ∃ e, v'.history = v.history ++ [e] ∧ v.WorkerWrites i e := by
  cases h with
  | revoked hp => exact .inr ⟨_, rfl, .inl hp⟩
  | rolled hp => exact .inr ⟨_, rfl, .inr hp⟩
  | installs hp | completes hp => exact .inr ⟨_, rfl, hp, rfl⟩
  | _ => exact .inl rfl

lemma mem_of_written {W : Event → Prop}
    (h : v'.history = v.history ∨ ∃ e, v'.history = v.history ++ [e] ∧ W e) :
    (e ∈ v.history → e ∈ v'.history) ∧ (e ∈ v'.history → e ∈ v.history ∨ W e) := by
  obtain h | ⟨e', h, hw⟩ := h <;> rw [h]
  · exact ⟨id, .inl⟩
  refine ⟨List.mem_append_left _, fun he => ?_⟩
  obtain he | he := List.mem_append.mp he
  · exact .inl he
  · exact .inr (List.mem_singleton.mp he ▸ hw)

lemma CallerMove.mem (h : CallerMove i s v s' v') (he : e ∈ v.history) : e ∈ v'.history :=
  (mem_of_written h.history).1 he

lemma CallerMove.writes (h : CallerMove i s v s' v') (he : e ∈ v'.history) :
    e ∈ v.history ∨ v.CallerWrites e :=
  (mem_of_written h.history).2 he

lemma WorkerMove.mem (h : WorkerMove i s v s' v') (he : e ∈ v.history) : e ∈ v'.history :=
  (mem_of_written h.history).1 he

lemma WorkerMove.writes (h : WorkerMove i s v s' v') (he : e ∈ v'.history) :
    e ∈ v.history ∨ v.WorkerWrites i e :=
  (mem_of_written h.history).2 he

/-! ### The caller -/

lemma WorkerMove.caller (h : WorkerMove i s v s' v') : v'.caller = v.caller := by
  cases h <;> rfl

lemma WorkerMove.finalized_value (h : WorkerMove i s v s' v') :
    v'.finalized.value = v.finalized.value := by
  cases h with
  | releases a f _ _ _ hf => exact hf
  | _ => rfl

lemma WorkerMove.cancelled (h : WorkerMove i s v s' v') : v'.cancelled = v.cancelled := by
  cases h <;> rfl

lemma WorkerMove.undone (h : WorkerMove i s v s' v') (hu : v.Undone) : v'.Undone := by
  unfold Handshake.Undone
  rwa [h.caller, h.finalized_value]

lemma Handshake.Sound.spawned (hc : v.Sound i) (hq : v.worker ≠ .idle) :
    v.caller ≠ .fresh ∧ v.caller ≠ .early ∧ v.caller ≠ .left := by
  have ha := hc.agrees
  refine ⟨?_, ?_, ?_⟩ <;> intro hp <;> simp only [Handshake.Agrees, hp] at ha <;> exact hq ha

lemma WorkerMove.spawned (h : WorkerMove i s v s' v') (hc : v.Sound i) :
    v.caller ≠ .fresh ∧ v.caller ≠ .early ∧ v.caller ≠ .left := by
  refine hc.spawned fun hq => ?_
  cases h <;> simp_all

lemma CallerMove.callerLogged (h : CallerMove i s v s' v') (hc : v.Sound i)
    (hl : v.CallerLogged i) : v'.CallerLogged i where
  early := by
    have he := hl.early
    cases h <;> simp_all [record]
  gaveUp := by
    have he := hl.early
    have hg := hl.gaveUp
    have hk := hc.acknowledges
    cases h <;> simp_all [record, Handshake.Acknowledges, Oneshot.dropSender]
  recorded := by
    have hr := hl.recorded
    have ha := hc.api
    cases h <;> simp_all [record]
  same a hm := by
    obtain hm | ⟨-, hv⟩ := h.writes hm
    · exact hl.same a hm
    · exact hc.api a hv

lemma WorkerMove.callerLogged (h : WorkerMove i s v s' v') (hc : v.Sound i)
    (hl : v.CallerLogged i) : v'.CallerLogged i where
  early hp := by
    obtain ⟨hf, he, -⟩ := h.spawned hc
    rw [h.caller] at hp
    exact (hp.elim hf he).elim
  gaveUp hm := by
    obtain hm | hm := h.writes hm
    · rw [h.caller, h.finalized_value]
      exact hl.gaveUp hm
    · exact hm.elim
  recorded hp := by
    rw [h.caller] at hp
    exact h.mem (hl.recorded hp)
  same a hm := by
    obtain hm | hm := h.writes hm
    · exact hl.same a hm
    · exact hm.elim

/-! ### The worker -/

lemma CallerMove.workerLogged (h : CallerMove i s v s' v') (hc : v.Sound i)
    (he : v.CallerLogged i) (hl : v.WorkerLogged i) : v'.WorkerLogged i where
  before hq := by
    have hb : (∀ a, .installed a ∉ v.history) ∧ .rolledBack ∉ v.history := by
      obtain hw | ⟨hp, -⟩ := h.worker
      · exact hl.before (hw ▸ hq)
      · rw [he.early (.inr hp)]
        simp
    exact ⟨fun a hm => (h.writes hm).elim (hb.1 a) id, fun hm => (h.writes hm).elim hb.2 id⟩
  owned hq := by
    obtain hw | ⟨-, hw⟩ := h.worker
    · obtain ⟨hi, hr⟩ := hl.owned (hw ▸ hq)
      exact ⟨h.mem hi, fun hm => (h.writes hm).elim hr id⟩
    · rw [hw] at hq
      cases hq
  failed hq hm := by
    obtain hw | ⟨-, hw⟩ := h.worker
    · exact h.mem (hl.failed (hw ▸ hq) ((h.writes hm).elim id False.elim))
    · rw [hw] at hq
      cases hq
  settled hq := by
    obtain hw | ⟨-, hw⟩ := h.worker
    · exact (hl.settled (hw ▸ hq)).imp h.mem (h.finalized_value hc)
    · rw [hw] at hq
      cases hq
  final hf := by
    have hk := hc.acknowledges
    cases h
    case spawns => cases hf
    case finalizes hp =>
      have ha := hc.agrees
      simp only [Handshake.Agrees, hp] at ha
      exact List.mem_append_left _ (hl.owned (WorkerPhase.owns_of_joined ha.1)).1
    case fails hv _ => exact List.mem_append_left _ (hl.final (hv.symm.trans hf))
    case drops hv => exact hl.final (hv.symm.trans hf)
    all_goals simp [record, hl.final hf]
  rolledBack hm := by
    obtain hm | hm := h.writes hm
    · refine (hl.rolledBack hm).imp (h.cancelled hc fun hq => (hl.before (.inl hq)).2 hm) h.undone
    · exact hm.elim
  same a hm := (h.writes hm).elim (hl.same a) False.elim

lemma WorkerMove.workerLogged (h : WorkerMove i s v s' v') (hc : v.Sound i)
    (hl : v.WorkerLogged i) : v'.WorkerLogged i where
  before hq := by
    cases h <;> simp_all
  owned := by
    have ho := hl.owned
    have hb := hl.before
    cases h
    case unacknowledged h =>
      refine fun _ => ho ?_
      obtain ⟨hq, -⟩ | ⟨hq, -⟩ := h <;> rw [hq] <;> rfl
    all_goals simp_all [WorkerPhase.owns, record]
  failed := by
    have hb := hl.before
    cases h <;> simp_all [record]
  settled := by
    have hd := hc.decided
    cases h <;> simp_all [record, Oneshot.dropReceiver]
  final hf := h.mem (hl.final (h.finalized_value ▸ hf))
  rolledBack hm := by
    rw [h.cancelled]
    obtain hm | hm := h.writes hm
    · exact (hl.rolledBack hm).imp_right h.undone
    · exact (hc.rolls hm).imp_right h.undone
  same a hm := by
    obtain hm | ⟨-, rfl⟩ := h.writes hm
    · exact hl.same a hm
    · rfl

lemma Calm.callerLogged (h : Calm v v') (hl : v.CallerLogged i) : v'.CallerLogged i := by
  obtain ⟨k, hk⟩ := h
  exact ⟨hl.early, hl.gaveUp, hl.recorded, hl.same⟩

lemma Calm.workerLogged (h : Calm v v') (hl : v.WorkerLogged i) : v'.WorkerLogged i := by
  obtain ⟨k, hk⟩ := h
  exact ⟨hl.before, hl.owned, hl.failed, hl.settled, hl.final,
    fun hm => (hl.rolledBack hm).imp_left hk, hl.same⟩

/-! ### The completion -/

/-- A call is sound, and its history tells what it did. -/
structure Handshake.Consistent (i : ℕ) (v : Handshake) : Prop where
  sound : v.Sound i
  caller : v.CallerLogged i
  worker : v.WorkerLogged i

/-- A move of a call. -/
inductive Move (i : ℕ) (s : Shared) (v : Handshake) (s' : Shared) (v' : Handshake) : Prop
  | caller : CallerMove i s v s' v' → Move i s v s' v'
  | worker : WorkerMove i s v s' v' → Move i s v s' v'

lemma Move.consistent (h : Move i s v s' v') (hc : v.Consistent i) : v'.Consistent i := by
  cases h with
  | caller h => exact ⟨h.sound hc.sound, h.callerLogged hc.sound hc.caller,
      h.workerLogged hc.sound hc.caller hc.worker⟩
  | worker h => exact ⟨h.sound hc.sound, h.callerLogged hc.sound hc.caller,
      h.workerLogged hc.sound hc.worker⟩

lemma Calm.consistent (h : Calm v v') (hc : v.Consistent i) : v'.Consistent i :=
  ⟨h.sound hc.sound, h.callerLogged hc.caller, h.workerLogged hc.worker⟩

lemma consistent_new (i : ℕ) : Call.new.handshake.Consistent i where
  sound := sound_new i
  caller := by constructor <;> simp [Call.handshake, Call.new, Caller.phase]
  worker := by constructor <;> simp [Call.handshake, Call.new, Worker.phase, WorkerPhase.owns,
    Oneshot.new]

lemma Move.history (h : Move i s v s' v') : v'.history = v.history ∨ ∃ e, v'.history = v.history ++
    [e] ∧ (v.CallerWrites e ∨ v.WorkerWrites i e) := by
  cases h with
  | caller h => exact h.history.imp_right fun ⟨e, he, hw⟩ => ⟨e, he, .inl hw⟩
  | worker h => exact h.history.imp_right fun ⟨e, he, hw⟩ => ⟨e, he, .inr hw⟩

lemma Move.mem (h : Move i s v s' v') (he : e ∈ v.history) : e ∈ v'.history :=
  (mem_of_written h.history).1 he

lemma Move.writes (h : Move i s v s' v') (he : e ∈ v'.history) :
    e ∈ v.history ∨ v.CallerWrites e ∨ v.WorkerWrites i e :=
  (mem_of_written h.history).2 he

/-- An attempt is completed once, with its guard, and pending before. -/
structure Handshake.Closed (i : ℕ) (v : Handshake) : Prop where
  pending : v.pending = true → v.completed = false ∧ ∀ b, .completed b ∉ v.history
  once : ∀ b b', .completed b ∈ v.history → .completed b' ∈ v.history → b = b'
  completed : v.completed = true → ∃ b, .completed b ∈ v.history
  cancelled : .completed true ∈ v.history → v.cancelled = true
  confirmed : v.caller = .confirmed → v.completed = true
  released : v.caller = .left ∨ v.worker = .closing ∨ v.worker = .finished → v.completed = true
  settled : ∀ pre b post, v.history = pre ++ .completed b :: post → .installed i ∈ v.history →
    .rolledBack ∈ pre ∨ v.finalized.value = some ()
  succeeded : .returned (.ok ()) ∈ v.history → .installed i ∈ v.history ∧
    .recorded i ∈ v.history ∧ .rolledBack ∉ v.history ∧ .completed false ∈ v.history

lemma Handshake.pending_of_worker {q : WorkerPhase} (hw : v.worker = q) (hq : q.pending = true) :
    v.pending = true := by
  simp [pending, hw, hq]

lemma Handshake.pending_of_rolls (h : v.worker = .revoking ∨ v.worker = .rolling) :
    v.pending = true :=
  h.elim (pending_of_worker · rfl) (pending_of_worker · rfl)

variable (h : Move i s v s' v')
include h

lemma Move.was_pending (hc : v.Sound i) (hp : v'.pending = true) :
    (v.caller = .fresh ∧ v'.completed = false ∧ v'.history = v.history) ∨
      (v.pending = true ∧ v'.completed = v.completed ∧
        ∀ b, .completed b ∈ v'.history → .completed b ∈ v.history) := by
  obtain h | h := h
  · have ha := hc.agrees
    cases h
    case acquires hf _ _ => exact .inl ⟨hf, rfl, rfl⟩
    case drops hs _ _ => exact .inr ⟨hp, rfl, fun _ h => h⟩
    all_goals simp_all [pending, record, Handshake.Agrees, WorkerPhase.pending]
  · obtain ⟨-, hs, -⟩ := h.spawned hc
    have he : ¬v'.caller = .early := by rwa [h.caller]
    have hq : v'.worker.pending = true := by simpa [pending, he] using hp
    cases h
    case unacknowledged h =>
      obtain ⟨hw, -⟩ | ⟨hw, -⟩ := h
      all_goals exact .inr ⟨pending_of_worker hw rfl, rfl, fun _ h => h⟩
    case completes => cases hq
    case releases => cases hq
    all_goals simp_all [pending, record, WorkerPhase.pending]

lemma Move.flags (hf : v.caller ≠ .fresh) :
    (v.cancelled = true → v'.cancelled = true) ∧ (v.completed = true → v'.completed = true) := by
  obtain h | h := h
  · cases h
    case acquires hp _ _ => exact (hf hp).elim
    case completes => exact ⟨id, fun _ => rfl⟩
    all_goals exact ⟨id, id⟩
  · cases h
    case completes => exact ⟨id, fun _ => rfl⟩
    all_goals exact ⟨id, id⟩

lemma Move.completes (hd : v'.completed = true) :
    v.completed = true ∨ .completed v.cancelled ∈ v'.history := by
  obtain h | h := h
  · cases h
    case acquires => cases hd
    case completes => exact .inr (List.mem_append_right _ (List.mem_singleton_self _))
    all_goals exact .inl hd
  · cases h
    case completes => exact .inr (List.mem_append_right _ (List.mem_singleton_self _))
    all_goals exact .inl hd

lemma Move.confirms (hp : v'.caller = .confirmed) :
    v'.completed = true ∨ v.caller = .confirmed := by
  obtain h | h := h
  · cases h
    case confirms hd => exact .inl hd
    all_goals simp_all
  · exact .inr (h.caller ▸ hp)

lemma Move.releases (hc : v.Sound i)
    (hp : v'.caller = .left ∨ v'.worker = .closing ∨ v'.worker = .finished) : v'.completed = true ∨
    v.caller ≠ .fresh ∧ (v.caller = .left ∨ v.worker = .closing ∨ v.worker = .finished) := by
  obtain h | h := h
  · obtain hp | hq := hp
    · cases h
      case completes => exact .inl rfl
      all_goals simp_all
    · obtain hw | ⟨-, hw⟩ := h.worker
      · rw [hw] at hq
        exact .inr ⟨(hc.spawned fun hi => by simp [hi] at hq).1, .inr hq⟩
      · simp [hw] at hq
  · obtain ⟨hf, -, hl⟩ := h.spawned hc
    obtain hp | hq := hp
    · exact (hl (h.caller ▸ hp)).elim
    cases h
    case completes => exact .inl rfl
    all_goals simp_all

lemma Move.finalized_value (hc : v.Sound i)
    (hf : v.finalized.value = some ()) : v'.finalized.value = some () := by
  obtain h | h := h
  · exact h.finalized_value hc hf
  · rwa [h.finalized_value]

omit h

lemma Calm.closed (h : Calm v v') (hd : v.Closed i) : v'.Closed i := by
  obtain ⟨k, hk⟩ := h
  exact ⟨hd.pending, hd.once, hd.completed, fun hm => hk (hd.cancelled hm), hd.confirmed,
    hd.released, hd.settled, hd.succeeded⟩

lemma closed_new (i : ℕ) : Call.new.handshake.Closed i := by
  constructor <;> simp [Call.handshake, Call.new, Caller.phase, Worker.phase, Attempt.new]

lemma written_cancelled {b : Bool}
    (h : v.CallerWrites (.completed b) ∨ v.WorkerWrites i (.completed b)) : b = v.cancelled :=
  h.elim (·.2) (·.2)

lemma written_pending {b : Bool}
    (h : v.CallerWrites (.completed b) ∨ v.WorkerWrites i (.completed b)) : v.pending = true := by
  obtain ⟨hp, -⟩ | ⟨hq | hq, -⟩ := h
  · simp [pending, hp]
  all_goals exact pending_of_worker hq rfl

lemma Move.settled (h : Move i s v s' v') (hc : v.Consistent i) (hd : v.Closed i)
    {pre post : List Event} {b : Bool} (hs : v'.history = pre ++ .completed b :: post)
    (hi : .installed i ∈ v'.history) : .rolledBack ∈ pre ∨ v'.finalized.value = some () := by
  obtain hh | ⟨e, hh, hw⟩ := h.history <;> rw [hh] at hs hi
  · exact (hd.settled pre b post hs hi).imp_right (h.finalized_value hc.sound)
  obtain ⟨mid, hp, -⟩ | ⟨mid, rfl, he⟩ := split_append hs
  · -- the completion is an old entry, so nothing is installed any more
    refine (hd.settled pre b mid hp ?_).imp_right (h.finalized_value hc.sound)
    obtain hi | hi := List.mem_append.mp hi
    · exact hi
    obtain rfl := List.mem_singleton.mp hi
    obtain hw | ⟨hq, -⟩ := hw
    · exact hw.elim
    have hm : .completed b ∈ v.history := by
      rw [hp]
      exact List.mem_append_right _ List.mem_cons_self
    exact ((hd.pending (pending_of_worker hq rfl)).2 b hm).elim
  · obtain ⟨rfl, rfl⟩ : mid = [] ∧ e = .completed b := by
      obtain _ | ⟨x, mid⟩ := mid
      · exact ⟨rfl, (List.cons.inj he).1⟩
      · simp at he
    rw [List.append_nil]
    obtain hi | hi := List.mem_append.mp hi
    · obtain hw | hw := hw
      · rw [hc.caller.early (.inr hw.1)] at hi
        cases hi
      obtain hq | hq := hw.1
      · exact (hc.worker.settled hq).imp_right (h.finalized_value hc.sound)
      · exact .inl (hc.worker.failed hq hi)
    · cases List.mem_singleton.mp hi

/-- A call that succeeds is installed, recorded and completed, and nothing is rolled back. -/
lemma Move.succeeded (h : Move i s v s' v') (hc : v.Consistent i) (hd : v.Closed i)
    (hm : .returned (.ok ()) ∈ v'.history) : .installed i ∈ v'.history ∧
      .recorded i ∈ v'.history ∧ .rolledBack ∉ v'.history ∧ .completed false ∈ v'.history := by
  obtain hm | hw | hw := h.writes hm
  · obtain ⟨hi, hr, hb, hk⟩ := hd.succeeded hm
    refine ⟨h.mem hi, h.mem hr, fun hm => ?_, h.mem hk⟩
    obtain hm | hw | hw := h.writes hm
    · exact hb hm
    · exact hw
    · -- a worker that rolls back is pending
      exact (hd.pending (pending_of_rolls hw)).2 false hk
  · obtain ⟨hp, hk⟩ := hw
    have hf : v.finalized.value = some () := by
      have ha := hc.sound.acknowledges
      rwa [Handshake.Acknowledges, hp] at ha
    refine ⟨h.mem (hc.worker.final hf), h.mem (hc.caller.recorded (.inr (.inr hp))), ?_, ?_⟩
    · intro hm
      obtain hm | hw | hw := h.writes hm
      · obtain hk' | hu := hc.worker.rolledBack hm
        · rw [hk] at hk'
          cases hk'
        · rw [hu.2] at hf
          cases hf
      · exact hw
      · have hn := (hd.pending (pending_of_rolls hw)).1
        rw [hd.confirmed hp] at hn
        cases hn
    · obtain ⟨b, hm⟩ := hd.completed (hd.confirmed hp)
      cases b with
      | false => exact h.mem hm
      | true =>
        rw [hd.cancelled hm] at hk
        cases hk
  · exact hw.elim

lemma Move.closed (h : Move i s v s' v') (hc : v.Consistent i) (hd : v.Closed i) :
    v'.Closed i where
  pending hp := by
    obtain ⟨hf, hk, hh⟩ | ⟨hp, hk, hh⟩ := h.was_pending hc.sound hp
    · rw [hh, hc.caller.early (.inl hf)]
      exact ⟨hk, fun _ => List.not_mem_nil⟩
    · obtain ⟨hn, hb⟩ := hd.pending hp
      exact ⟨hk.trans hn, fun b hm => hb b (hh b hm)⟩
  once b b' hm hm' := by
    obtain hm | hw := h.writes hm
    · obtain hm' | hw' := h.writes hm'
      · exact hd.once b b' hm hm'
      · exact ((hd.pending (written_pending hw')).2 b hm).elim
    · obtain hm' | hw' := h.writes hm'
      · exact ((hd.pending (written_pending hw)).2 b' hm').elim
      · rw [written_cancelled hw, written_cancelled hw']
  completed hk := by
    obtain hk | hm := h.completes hk
    · obtain ⟨b, hm⟩ := hd.completed hk
      exact ⟨b, h.mem hm⟩
    · exact ⟨_, hm⟩
  cancelled hm := by
    obtain hm | ⟨hp, hk⟩ | ⟨hq, hk⟩ := h.writes hm
    · refine (h.flags fun hf => ?_).1 (hd.cancelled hm)
      rw [hc.caller.early (.inl hf)] at hm
      cases hm
    · exact (h.flags (by simp [hp])).1 hk.symm
    · refine (h.flags (hc.sound.spawned ?_).1).1 hk.symm
      intro hi
      simp [hi] at hq
  confirmed hp := by
    obtain hk | hp := h.confirms hp
    · exact hk
    · exact (h.flags (by simp [hp])).2 (hd.confirmed hp)
  released hp := by
    obtain hk | ⟨hf, hp⟩ := h.releases hc.sound hp
    · exact hk
    · exact (h.flags hf).2 (hd.released hp)
  settled _ _ _ := h.settled hc hd
  succeeded := h.succeeded hc hd

end XelisWallet.Connection
