import XelisWallet.Connection

/-!
What one step of a call can do, up to the phases of its caller and its worker.

A phase is what the other side can tell. A step that stays within the phases and touches no
channel is calm; every other step is one of the moves below, and invariants are proved by cases
on them.
-/

namespace XelisWallet.Connection

open Runs Sync

/-! ### Phases -/

inductive CallerPhase
  | fresh
  /-- With the guard, before the worker is spawned. -/
  | early
  /-- With the guard, after an early return completed the attempt. -/
  | left
  | waiting
  | accepting
  /-- Accepted; nothing is recorded yet. -/
  | confirming
  | recorded
  /-- Finalized; the completion is awaited. -/
  | finalized
  | confirmed
  /-- Gave up, with the second acknowledgement still to be dropped. -/
  | abandoning
  | stopped
  | returned
  deriving DecidableEq

def Caller.phase : Caller → CallerPhase
  | .idle => .fresh
  | .probe | .stale | .cleaning | .cleaned _ | .check | .leaving .store _ => .early
  | .leaving .notify _ | .leaving .release _ => .left
  | .await => .waiting
  | .accepting _ => .accepting
  | .checkAccepted _ | .lockActive _ | .checkLocked _ | .record _ => .confirming
  | .finalize => .recorded
  | .unlock | .wait .finalized _ => .finalized
  | .checkFinal => .confirmed
  | .abortLocked | .abort => .abandoning
  | .wait .aborted _ | .dropAccepted | .dropFinalized | .cancelling _ => .stopped
  | .returned => .returned

/-- The API that a caller received and did not record yet. -/
def Caller.api : Caller → Option ℕ
  | .accepting api | .checkAccepted api | .lockActive api | .checkLocked api | .record api =>
    some api
  | _ => none

inductive WorkerPhase
  | idle
  | connecting
  /-- The handler is installed, the result not delivered. -/
  | installed
  /-- At the roll back under the activation lock. -/
  | revoking
  | acceptance
  | finalization
  | deciding (finalized : Bool)
  | rolling
  /-- At the drop of the guard, after the handshake. -/
  | settled
  /-- On the way to the drop of the guard, with an error. -/
  | failed
  /-- Completed, with the guard. -/
  | closing
  | finished
  deriving DecidableEq

def Worker.phase : Worker → WorkerPhase
  | .idle => .idle
  | .connect | .publish | .checkPublished | .info | .checkInfo | .lock | .checkLocked
  | .install => .connecting
  | .checkInstalled | .unlock | .deliver => .installed
  | .rollbackLocked => .revoking
  | .awaitAccepted => .acceptance
  | .awaitFinalized => .finalization
  | .decide finalized => .deciding finalized
  | .rollback => .rolling
  | .dropOk .store => .settled
  | .unlockErr _ | .dropErr .store _ => .failed
  | .dropOk .notify | .dropOk .release | .dropErr .notify _ | .dropErr .release _ => .closing
  | .sendErr _ | .done => .finished

/-- A call up to the phases of its two sides. -/
structure Handshake where
  caller : CallerPhase
  worker : WorkerPhase
  /-- What the caller received and did not record yet. -/
  api : Option ℕ
  cancelled : Bool
  completed : Bool
  result : Oneshot (Except ConnectionError ℕ)
  accepted : Oneshot Unit
  finalized : Oneshot Unit
  history : List Event

def Call.handshake (c : Call) : Handshake :=
  ⟨c.caller.phase, c.worker.phase, c.caller.api, c.attempt.cancelled, c.attempt.completed,
    c.result, c.accepted, c.finalized, c.history⟩

/-- The worker owns the guard of an attempt that is not completed. -/
def WorkerPhase.pending : WorkerPhase → Bool
  | .idle | .closing | .finished => false
  | _ => true

/-- The guard of the attempt is there and has not completed it. -/
def Handshake.pending (v : Handshake) : Bool := v.caller = .early || v.worker.pending

/-- The guard of the attempt is there. -/
def Handshake.holds (v : Handshake) : Bool :=
  v.pending || v.caller = .left || v.worker = .closing

/-! ### Moves -/

/-- A call at most sees that its attempt is cancelled. -/
inductive Calm (v : Handshake) : Handshake → Prop
  | sees (k : Bool) : (v.cancelled = true → k = true) → Calm v { v with cancelled := k }

/-- Nothing is acquired, released, recorded or installed. -/
structure Shared.Calm (s s' : Shared) : Prop where
  current : s'.current = s.current
  closed : s.closed = true → s'.closed = true
  active : s'.active = s.active ∨ s'.active = none
  handler : s'.handler = s.handler ∨ s'.handler = none

@[refl] lemma Calm.refl (v : Handshake) : Calm v v := .sees v.cancelled id

lemma Calm.trans {v₁ v₂ v₃ : Handshake} (h : Calm v₁ v₂) (h' : Calm v₂ v₃) : Calm v₁ v₃ := by
  obtain ⟨k, hk⟩ := h
  obtain ⟨k', hk'⟩ := h'
  exact .sees k' (hk' ∘ hk)

lemma Calm.caller {v v' : Handshake} (h : Calm v v') : v'.caller = v.caller := by cases h; rfl

lemma Calm.completed {v v' : Handshake} (h : Calm v v') : v'.completed = v.completed := by
  cases h; rfl

lemma Calm.history {v v' : Handshake} (h : Calm v v') : v'.history = v.history := by cases h; rfl

lemma Calm.api {v v' : Handshake} (h : Calm v v') : v'.api = v.api := by cases h; rfl

@[refl] lemma Shared.Calm.refl (s : Shared) : s.Calm s := ⟨rfl, id, .inl rfl, .inl rfl⟩

/-- A caller in this phase may return an error. -/
def CallerPhase.fails : CallerPhase → Bool
  | .fresh | .waiting | .accepting | .recorded | .confirmed | .stopped => true
  | _ => false

def Handshake.record (e : Event) (v : Handshake) : Handshake :=
  { v with history := v.history ++ [e] }

/-- The steps of the caller of call `i` that are not calm. -/
inductive CallerMove (i : ℕ) (s : Shared) (v : Handshake) : Shared → Handshake → Prop
  | acquires : v.caller = .fresh → s.closed = false → s.current = none →
      CallerMove i s v { s with current := some i }
        { v with caller := .early, cancelled := false, completed := false }
  | completes : v.caller = .early →
      CallerMove i s v s { v.record (.completed v.cancelled) with
        caller := .left, completed := true }
  | releases (e : ConnectionError) : v.caller = .left →
      CallerMove i s v { s with current := if s.current = some i then none else s.current }
        { v.record (.returned (.error e)) with caller := .returned }
  | spawns : v.caller = .early →
      CallerMove i s v s { v with
        caller := .waiting
        worker := .connecting
        result := .new
        accepted := .new
        finalized := .new }
  | receives (api : ℕ) : v.caller = .waiting → v.result.value = some (.ok api) →
      CallerMove i s v s { v with
        caller := .accepting, api := some api, result := v.result.dropReceiver }
  | timesOut : v.caller = .waiting →
      CallerMove i s v s { v.record .gaveUp with
        caller := .stopped, result := v.result.dropReceiver }
  | accepts : v.caller = .accepting →
      CallerMove i s v s { v with
        caller := .confirming
        accepted := { v.accepted with value := some (), sender := false } }
  | aborts : v.caller = .confirming →
      CallerMove i s v s { v.record .gaveUp with caller := .abandoning, api := none }
  | abandons : v.caller = .abandoning →
      CallerMove i s v s { v with caller := .stopped, finalized := v.finalized.dropSender }
  | records (api : ℕ) : v.caller = .confirming → v.api = some api →
      CallerMove i s v { s with active := some api }
        { v.record (.recorded api) with caller := .recorded, api := none }
  | finalizes : v.caller = .recorded →
      CallerMove i s v s { v.record .finalized with
        caller := .finalized
        finalized := { v.finalized with value := some (), sender := false } }
  | confirms : v.caller = .finalized → v.completed = true →
      CallerMove i s v s { v with caller := .confirmed }
  | succeeds : v.caller = .confirmed → v.cancelled = false →
      CallerMove i s v s { v.record (.returned (.ok ())) with caller := .returned }
  | fails (e : ConnectionError) (s' : Shared) (result : Oneshot (Except ConnectionError ℕ))
      (accepted finalized : Oneshot Unit) :
      v.caller.fails = true → s.Calm s' → result.value = v.result.value →
      accepted.value = v.accepted.value → finalized.value = v.finalized.value →
      CallerMove i s v s' { v.record (.returned (.error e)) with
        caller := .returned
        api := none
        result := result
        accepted := accepted
        finalized := finalized }
  | drops (accepted finalized : Oneshot Unit) :
      v.caller = .stopped → accepted.value = v.accepted.value →
      finalized.value = v.finalized.value →
      CallerMove i s v s { v with accepted := accepted, finalized := finalized }

/-- The steps of the worker of call `i` that are not calm. -/
inductive WorkerMove (i : ℕ) (s : Shared) (v : Handshake) : Shared → Handshake → Prop
  | fails : v.worker = .connecting → WorkerMove i s v s { v with worker := .failed }
  | installs : v.worker = .connecting →
      WorkerMove i s v { s with handler := some i }
        { v.record (.installed i) with worker := .installed }
  | revokes : v.worker = .installed → v.cancelled = true →
      WorkerMove i s v s { v with worker := .revoking }
  | revoked : v.worker = .revoking →
      WorkerMove i s v { s with handler := none }
        { v.record .rolledBack with worker := .failed }
  | delivers : v.worker = .installed →
      WorkerMove i s v s { v with
        worker := .acceptance
        result := { v.result with value := some (.ok i), sender := false } }
  | accepted : v.worker = .acceptance → v.accepted.value = some () →
      WorkerMove i s v s { v with
        worker := .finalization, accepted := v.accepted.dropReceiver }
  | finalized : v.worker = .finalization → v.finalized.value = some () →
      WorkerMove i s v s { v with
        worker := .deciding true
        accepted := v.accepted.dropReceiver
        finalized := v.finalized.dropReceiver }
  | undelivered : v.worker = .installed → v.result.receiver = false →
      WorkerMove i s v s { v with
        worker := .deciding false, result := { v.result with sender := false } }
  | unacknowledged : v.worker = .acceptance ∧ v.accepted.value = none ∧ v.accepted.sender = false ∨
        v.worker = .finalization ∧ v.finalized.value = none ∧ v.finalized.sender = false →
      WorkerMove i s v s { v with
        worker := .deciding false
        accepted := v.accepted.dropReceiver
        finalized := v.finalized.dropReceiver }
  | keeps : v.worker = .deciding true → WorkerMove i s v s { v with worker := .settled }
  | rolls (finalized : Bool) : v.worker = .deciding finalized →
      finalized = false ∨ v.cancelled = true →
      WorkerMove i s v s { v with worker := .rolling }
  | rolled : v.worker = .rolling →
      WorkerMove i s v { s with handler := none }
        { v.record .rolledBack with worker := .settled }
  | completes : v.worker = .settled ∨ v.worker = .failed →
      WorkerMove i s v s { v.record (.completed v.cancelled) with
        worker := .closing, completed := true }
  | releases (accepted finalized : Oneshot Unit) : v.worker = .closing →
      accepted.value = v.accepted.value → accepted.sender = v.accepted.sender →
      finalized.value = v.finalized.value → finalized.sender = v.finalized.sender →
      WorkerMove i s v { s with current := if s.current = some i then none else s.current }
        { v with worker := .finished, accepted := accepted, finalized := finalized }
  | reports (e : ConnectionError) : v.worker = .finished →
      WorkerMove i s v s { v with
        result := (v.result.send (.error e)).1
        accepted := v.accepted.dropReceiver
        finalized := v.finalized.dropReceiver }

end XelisWallet.Connection
