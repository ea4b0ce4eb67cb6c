import XelisWallet.Runs
import XelisWallet.DispatcherTurns

/-!
A dispatcher among the other users of its session registry.

The registry is behind a lock that the dispatcher takes at some of its awaits; between any two
of its turns the other tasks of the wallet may use the registry, and other registries of the
process may draw from the counter. An application state lives as long as someone holds it: the
dispatcher holds the states of what it has queued, started or suspended, the others may drop
theirs at any time. A state that died never lives again.
-/

namespace XelisWallet.DispatcherWorld

open Json Runs Registry Xswd Dispatcher DispatcherTurns

variable {F : Type}

def Desk.initial : Desk F := ⟨[], none, 0, [], .loop, []⟩

/-- A dispatcher on its own: registry, channel and callbacks may do anything. -/
def desks [Double F] (cfg : Config) : System (Desk F) ((App → Bool) × Input F) where
  init d := d = Desk.initial
  step d l d' := d.step cfg l.1 l.2 = some d'

structure World (F : Type) where
  desk : Desk F
  sessions : SessionRegistry App
  next : ℕ
  alive : App → Bool

def deferredState : DeferredEvent F → App
  | .raw event => event.state
  | .notification n => n.state

/-- The states that an await holds. -/
def awaitStates : Await F → List App
  | .loop | .ended => []
  | .register x _ | .describe x _ _ => [x.state]
  | .invalidateIdle state | .invalidateCancel state _ _ | .invalidateDisconnect state _
  | .project state _ _ _ | .describeNotification state _ _ _ _ => [state]
  | .invalidateOverload state next => [state, next.state]
  | .close states _ => states

/-- The states that the dispatcher holds. -/
def heldStates (d : Desk F) : List App :=
  awaitStates d.await ++ (d.active.map (·.state)).toList ++ d.deferred.map deferredState

/-- What the dispatcher and the others do. -/
inductive Action (F : Type)
  | next
  | recv (event : Option (XSWDEvent F))
  | select (event : Option (Option (XSWDEvent F))) (outcome : Option ActiveOutcome)
  | described (permissions : List (String × Permission))
  /-- The dispatcher gets the lock of the registry that it waits for. -/
  | lock
  /-- Another user of the registry. -/
  | project (state : App)
  | register (state : App)
  | resolve (sessionRef : ℕ)
  | invalidateState (state : App)
  | clear
  /-- Another registry takes a reference. -/
  | fetchNext
  /-- The last holder outside of the dispatcher drops a state. -/
  | drop (state : App)

namespace World

/-- `invalidate_observed_xswd_states`, under one lock. -/
def invalidateStates (alive : App → Bool) (states : List App)
    (r : SessionRegistry App × ℕ) : SessionRegistry App × ℕ :=
  states.foldl (fun r state => r.1.invalidateState alive r.2 state) r

variable [Double F] (cfg : Config)

/-- The dispatcher goes on with an input that no registry is involved in. -/
def go (w : World F) (input : Input F) : Option (World F) :=
  (w.desk.step cfg w.alive input).map fun desk => { w with desk := desk }

/-- The dispatcher goes on with the result of an operation on the registry. -/
def goWith (w : World F) (input : Input F) (r : SessionRegistry App × ℕ) : Option (World F) :=
  (w.desk.step cfg w.alive input).map fun desk => ⟨desk, r.1, r.2, w.alive⟩

def lock (w : World F) : Option (World F) :=
  match w.desk.await with
  | .register x _ =>
    let r := w.sessions.register w.alive w.next x.state
    w.goWith cfg (.registered r.1) r.2
  | .project state _ _ _ =>
    let r := w.sessions.project w.alive w.next state
    w.goWith cfg (.projected r.1) r.2
  | .invalidateIdle state | .invalidateCancel state _ _ | .invalidateDisconnect state _
  | .invalidateOverload state _ =>
    w.goWith cfg .invalidated (w.sessions.invalidateState w.alive w.next state)
  | .close states _ =>
    w.goWith cfg .invalidated (invalidateStates w.alive states (w.sessions, w.next))
  | _ => none

/-- An event comes with a state, which lives. -/
def offers (w : World F) (event : Option (XSWDEvent F)) : Bool :=
  event.all fun event => w.alive event.state

def step (w : World F) : Action F → Option (World F)
  | .next => w.go cfg .next
  | .recv event => if w.offers event then w.go cfg (.recv event) else none
  | .select event outcome =>
    if w.offers (event.getD none) then w.go cfg (.select event outcome) else none
  | .described permissions => w.go cfg (.described permissions)
  | .lock => w.lock cfg
  | .project state =>
    if w.alive state then
      let r := w.sessions.project w.alive w.next state
      some { w with sessions := r.2.1, next := r.2.2 }
    else none
  | .register state =>
    if w.alive state then
      let r := w.sessions.register w.alive w.next state
      some { w with sessions := r.2.1, next := r.2.2 }
    else none
  | .resolve sessionRef =>
    some { w with sessions := (w.sessions.resolve w.alive w.alive sessionRef).2 }
  | .invalidateState state =>
    if w.alive state then
      let r := w.sessions.invalidateState w.alive w.next state
      some { w with sessions := r.1, next := r.2 }
    else none
  | .clear => some { w with sessions := w.sessions.clear w.alive }
  | .fetchNext => (Registry.fetchNext w.next).map fun next => { w with next := next }
  | .drop state =>
    if state ∈ heldStates w.desk then none
    else some { w with alive := fun s => w.alive s && s ≠ state }

end World

variable [Double F] {cfg : Config}

/-- A handler starts with an empty desk. What its registry holds by then, and how far the
counter is, is up to the other users. -/
def worlds (cfg : Config) : System (World F) (Action F) where
  init w := w.desk = Desk.initial ∧ w.sessions = SessionRegistry.default ∧
    w.next = firstReference
  step w a w' := w.step cfg a = some w'

/-- A handler on a 32-bit platform, with the same description for every state. -/
def plainConfig : Config :=
  ⟨⟨2 ^ 32 - 1, Nat.le_refl _⟩, .default, fun _ => ⟨"id", "name", "", none⟩⟩

/-- The world of a new wallet, with every state alive. -/
def World.initial : World F := ⟨Desk.initial, .default, firstReference, fun _ => true⟩

lemma reachable_initial : Reachable (worlds cfg) (World.initial : World F) :=
  .of_init ⟨rfl, rfl, rfl⟩

variable {w w' : World F} {a : Action F}

lemma go_desk {input : Input F} (h : w.go cfg input = some w') :
    w.desk.step cfg w.alive input = some w'.desk ∧ w'.sessions = w.sessions ∧
      w'.next = w.next ∧ w'.alive = w.alive := by
  obtain ⟨desk, hd, rfl⟩ := Option.map_eq_some_iff.mp h
  exact ⟨hd, rfl, rfl, rfl⟩

lemma goWith_desk {input : Input F} {r : SessionRegistry App × ℕ}
    (h : w.goWith cfg input r = some w') :
    w.desk.step cfg w.alive input = some w'.desk ∧ w'.sessions = r.1 ∧ w'.next = r.2 ∧
      w'.alive = w.alive := by
  obtain ⟨desk, hd, rfl⟩ := Option.map_eq_some_iff.mp h
  exact ⟨hd, rfl, rfl, rfl⟩

/-- An action is a step of the dispatcher or leaves it alone; what a select finds ready is what
the action brings. -/
lemma step_desk (h : w.step cfg a = some w') :
    (∃ input, w.desk.step cfg w.alive input = some w'.desk ∧
      ∀ event outcome, input = .select event outcome → a = .select event outcome) ∨
    w'.desk = w.desk := by
  cases a with
  | next | described permissions => exact .inl ⟨_, (go_desk h).1, by simp⟩
  | recv event =>
    obtain ⟨-, h⟩ := Option.ite_none_right_eq_some.mp h
    exact .inl ⟨_, (go_desk h).1, by simp⟩
  | select event outcome =>
    obtain ⟨-, h⟩ := Option.ite_none_right_eq_some.mp h
    refine .inl ⟨_, (go_desk h).1, ?_⟩
    rintro event outcome ⟨⟩
    rfl
  | lock =>
    change w.lock cfg = some w' at h
    unfold World.lock at h
    split at h
    case h_8 => cases h
    all_goals exact .inl ⟨_, (goWith_desk h).1, by simp⟩
  | project state | register state | invalidateState state =>
    obtain ⟨-, ⟨⟩⟩ := Option.ite_none_right_eq_some.mp h
    exact .inr rfl
  | resolve sessionRef | clear =>
    cases h
    exact .inr rfl
  | fetchNext =>
    obtain ⟨next, -, rfl⟩ := Option.map_eq_some_iff.mp h
    exact .inr rfl
  | drop state =>
    obtain ⟨-, ⟨⟩⟩ := Option.ite_none_left_eq_some.mp h
    exact .inr rfl

/-- **A dispatcher among others is a dispatcher on its own**, so what holds of the latter in
every run holds of the former. -/
theorem reachable_desk (h : Reachable (worlds cfg) w) : Reachable (desks cfg) w.desk := by
  refine h.simulate (N := desks cfg) (fun w : World F => w.desk) ?init ?steps
  case init =>
    intro w hw
    exact hw.1
  case steps =>
  intro w a w' _ hstep
  obtain ⟨input, hi, -⟩ | he := step_desk hstep
  · exact ⟨_, .single (l := (w.alive, input)) hi⟩
  · exact ⟨[], by rw [he]; exact .nil _⟩

end XelisWallet.DispatcherWorld
