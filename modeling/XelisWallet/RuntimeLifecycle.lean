import XelisWallet.Runs

/-!
The lifecycle of a runtime service that is configured once.

`initialize` is atomic: what it does before it returns runs to its end, and the initializer does
not call it back. An attempt goes on in continuations of its own. Its initializer comes to a
result; then, if that is a success, the first continuation records the configuration; and the last
one forgets the attempt, after which the future that the callers share has its outcome. Calls may
come between any two of these.
-/

namespace XelisWallet.RuntimeLifecycle

open Runs

variable {C E : Type}

/-! ### The service -/

/-- The fields of `ConfiguredRuntimeLifecycle`. A future is known by the attempt it tracks. -/
structure Lifecycle (C : Type) where
  initialization : Option ℕ
  pendingConfiguration : Option C
  configuration : Option C
  isInitialized : Bool

/-- How far an attempt is. -/
inductive Phase (E : Type)
  | initializing
  /-- The future of the initializer is complete. -/
  | returned (result : Except E Unit)
  /-- The callback of `then` has run. -/
  | recorded
  /-- The callback of `whenComplete` has run. -/
  | settled (result : Except E Unit)

/-- What the initializer came to. -/
def Phase.result : Phase E → Option (Except E Unit)
  | .initializing => none
  | .returned result | .settled result => some result
  | .recorded => some (.ok ())

/-- Whether the shared future is still open. -/
def Phase.Pending : Phase E → Prop
  | .settled _ => False
  | _ => True

structure Attempt (C E : Type) where
  configuration : C
  phase : Phase E

structure Service (C E : Type) where
  lifecycle : Lifecycle C
  attempts : ℕ → Option (Attempt C E)
  next : ℕ

def Service.init : Service C E := ⟨⟨none, none, none, false⟩, fun _ => none, 0⟩

/-- The future that `initialize` returns. -/
inductive Reply
  | value
  | stateError (message : String)
  /-- The tracked future of an attempt that was there. -/
  | shared (r : ℕ)
  /-- The tracked future of an attempt that the call started. -/
  | started (r : ℕ)
  deriving DecidableEq, Repr

namespace Service

def setPhase (s : Service C E) (r : ℕ) (c : C) (phase : Phase E) : Service C E :=
  { s with attempts := Function.update s.attempts r (some ⟨c, phase⟩) }

/-- A new attempt. -/
def start (s : Service C E) (configuration : C) : Service C E where
  lifecycle := { s.lifecycle with
    initialization := some s.next
    pendingConfiguration := some configuration }
  attempts := Function.update s.attempts s.next (some ⟨configuration, .initializing⟩)
  next := s.next + 1

/-- `initialize`. -/
def initializeConfigured [BEq C] (s : Service C E) (configuration : C) : Reply × Service C E :=
  if s.lifecycle.isInitialized then
    if s.lifecycle.configuration.any (· == configuration) then (.value, s)
    else (.stateError "The runtime service is already configured.", s)
  else
    match s.lifecycle.initialization with
    | some r =>
      if s.lifecycle.pendingConfiguration.any (· == configuration) then (.shared r, s)
      else (.stateError "The runtime service is being configured differently.", s)
    | none => (.started s.next, s.start configuration)

/-- The callback of `then`. -/
def record (s : Service C E) (configuration : C) : Service C E :=
  { s with lifecycle := { s.lifecycle with
      configuration := some configuration
      isInitialized := true } }

/-- The callback of `whenComplete`. -/
def forget (s : Service C E) (r : ℕ) : Service C E :=
  if s.lifecycle.initialization = some r then
    { s with lifecycle := { s.lifecycle with
        initialization := none
        pendingConfiguration := none } }
  else s

end Service

inductive Action (C E : Type)
  | call (configuration : C)
  | complete (r : ℕ) (result : Except E Unit)
  | thenCallback (r : ℕ)
  | whenComplete (r : ℕ)

inductive Event (C E : Type)
  | call (configuration : C) (reply : Reply)
  | completed (r : ℕ) (result : Except E Unit)
  | recorded (r : ℕ)
  | settled (r : ℕ)

namespace Service

def step [BEq C] (s : Service C E) : Action C E → Option (Service C E × Event C E)
  | .call configuration =>
    let p := s.initializeConfigured configuration
    some (p.2, .call configuration p.1)
  | .complete r result =>
    match s.attempts r with
    | some ⟨c, .initializing⟩ => some (s.setPhase r c (.returned result), .completed r result)
    | _ => none
  | .thenCallback r =>
    match s.attempts r with
    | some ⟨c, .returned (.ok ())⟩ => some ((s.record c).setPhase r c .recorded, .recorded r)
    | _ => none
  | .whenComplete r =>
    match s.attempts r with
    | some ⟨c, .recorded⟩ =>
      some ((s.forget r).setPhase r c (.settled (.ok ())), .settled r)
    | some ⟨c, .returned (.error e)⟩ =>
      some ((s.forget r).setPhase r c (.settled (.error e)), .settled r)
    | _ => none

end Service

/-- Why a future that `initialize` returned has failed. -/
inductive Failure (E : Type)
  | initializer (error : E)
  | stateError (message : String)

namespace Service

/-- What the tracked future of an attempt has completed with. -/
def tracked (s : Service C E) (r : ℕ) : Option (Except E Unit) :=
  match s.attempts r with
  | some ⟨_, .settled result⟩ => some result
  | _ => none

/-- What the future that a call returned has completed with. -/
def outcome (s : Service C E) : Reply → Option (Except (Failure E) Unit)
  | .value => some (.ok ())
  | .stateError message => some (.error (.stateError message))
  | .shared r | .started r => (s.tracked r).map (Except.mapError Failure.initializer)

end Service

/-- The service as a transition system. -/
def service [BEq C] : System (Service C E) (Event C E) where
  init s := s = .init
  step s event s' := ∃ action, s.step action = some (s', event)

/-! ### What a step can do -/

section Steps

variable [BEq C]

/-- A step as the facts it rests on. -/
inductive Moves (s : Service C E) : Event C E → Service C E → Prop
  | accept {c : C} (hinit : s.lifecycle.isInitialized = true)
      (hc : s.lifecycle.configuration.any (· == c) = true) : Moves s (.call c .value) s
  | refuse {c : C} {message : String} (hinit : s.lifecycle.isInitialized = true)
      (hc : s.lifecycle.configuration.any (· == c) = false) :
      Moves s (.call c (.stateError message)) s
  | share {c : C} {r : ℕ} (hinit : s.lifecycle.isInitialized = false)
      (hr : s.lifecycle.initialization = some r)
      (hc : s.lifecycle.pendingConfiguration.any (· == c) = true) : Moves s (.call c (.shared r)) s
  | differ {c : C} {r : ℕ} {message : String} (hinit : s.lifecycle.isInitialized = false)
      (hr : s.lifecycle.initialization = some r)
      (hc : s.lifecycle.pendingConfiguration.any (· == c) = false) :
      Moves s (.call c (.stateError message)) s
  | start {c : C} (hinit : s.lifecycle.isInitialized = false)
      (hr : s.lifecycle.initialization = none) : Moves s (.call c (.started s.next)) (s.start c)
  | complete {c : C} {r : ℕ} {result : Except E Unit}
      (hr : s.attempts r = some ⟨c, .initializing⟩) :
      Moves s (.completed r result) (s.setPhase r c (.returned result))
  | record {c : C} {r : ℕ} (hr : s.attempts r = some ⟨c, .returned (.ok ())⟩) :
      Moves s (.recorded r) ((s.record c).setPhase r c .recorded)
  | settle {c : C} {r : ℕ} {phase : Phase E} {result : Except E Unit}
      (hr : s.attempts r = some ⟨c, phase⟩)
      (hphase : phase = .recorded ∧ result = .ok () ∨
        ∃ e, phase = .returned (.error e) ∧ result = .error e) :
      Moves s (.settled r) ((s.forget r).setPhase r c (.settled result))

variable {s s' : Service C E} {event : Event C E} {events : List (Event C E)} {r : ℕ} {c : C}

lemma initializeConfigured_moves (s : Service C E) (c : C) :
    Moves s (.call c (s.initializeConfigured c).1) (s.initializeConfigured c).2 := by
  unfold Service.initializeConfigured
  split <;> rename_i hinit
  · split <;> rename_i hc
    · exact .accept hinit hc
    · exact .refuse hinit (by simpa using hc)
  · rw [Bool.not_eq_true] at hinit
    split
    · rename_i r hr
      split <;> rename_i hc
      · exact .share hinit hr hc
      · exact .differ hinit hr (by simpa using hc)
    · rename_i hr
      exact .start hinit hr

lemma step_moves (h : service.step s event s') : Moves s event s' := by
  obtain ⟨action, h⟩ := h
  cases action <;> simp only [Service.step] at h
  case call c =>
    cases h
    exact initializeConfigured_moves s c
  case complete =>
    split at h <;> cases h
    next hr => exact .complete hr
  case thenCallback =>
    split at h <;> cases h
    next hr => exact .record hr
  case whenComplete =>
    split at h <;> cases h
    · next hr => exact .settle hr (.inl ⟨rfl, rfl⟩)
    · next hr => exact .settle hr (.inr ⟨_, rfl, rfl⟩)

end Steps

end XelisWallet.RuntimeLifecycle
