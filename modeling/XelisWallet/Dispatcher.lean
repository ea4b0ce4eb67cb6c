import Mathlib.Tactic.Simps.Basic
import XelisWallet.Xswd

/-!
The XSWD dispatcher: one loop that owns the queue of deferred events and the active callback.

The loop is cut at its awaits. Between two of them nothing else of the dispatcher runs, so
what happens there is one function; at an await the dispatcher keeps in `Await` what it needs
to go on. An await ends with an input: what the channel or the callback yields, the result of
an operation on the session registry, the permissions read from an application state. What
the dispatcher does to the outside is recorded in its log, in order.
-/

namespace XelisWallet.Dispatcher

open Json Payload Registry Xswd

def maxDeferredEvents : ℕ := 64

def maxReceiveBurst : ℕ := 16

/-- What a handler is started with, and the application states that exist. -/
structure Config where
  platform : Platform
  projectionLimits : ProjectionLimits
  apps : App → AppState

inductive NotificationKind
  | cancelRequest
  | appDisconnect
  deriving DecidableEq, Repr

section Types

variable (F : Type)

structure PreparedNotification where
  state : App
  summary : RequestSummary F
  kind : NotificationKind
  cancelledApplicationAdmission : Bool

inductive DeferredEvent
  | raw (event : XSWDEvent F)
  | notification (notification : PreparedNotification F)

inductive PendingResponse
  | permission (callback : Sender)
  | prefetch (permissions : PrefetchPermissions F) (callback : Sender)

/-- A `PendingXswdDecision` without its future. -/
structure Decision where
  state : App
  response : PendingResponse F
  isApplicationAdmission : Bool

inductive ActiveKind
  | decision (response : PendingResponse F) (isApplicationAdmission : Bool)
  | notification (kind : NotificationKind)

/-- The future of an active callback: the call made for the request of a channel, wrapped to
yield a decision outcome, or the call of a notification, wrapped to yield the other kind. -/
inductive Future
  | decision (channel : Channel)
  | notification
  deriving DecidableEq, Repr

structure ActiveCallback where
  state : App
  kind : ActiveKind F
  future : Future

inductive ActiveOutcome
  | decision (outcome : DecisionCallbackOutcome)
  | notification (outcome : NotificationCallbackOutcome)
  deriving DecidableEq, Repr

/-- What the dispatcher takes from its channel, calls, and sends. -/
inductive Entry
  | received (event : XSWDEvent F)
  | closed
  | called (decision : Decision F) (summary : RequestSummary F)
  | notified (notification : PreparedNotification F)
  | returned (future : Future) (outcome : ActiveOutcome)
  | permission (callback : Sender) (result : Except FailureCode PermissionResult)
  | prefetch (callback : Sender) (result : Except FailureCode (List (String × Permission)))
  | acknowledged (callback : Sender)
  /-- A prepared notification is given up. -/
  | abandoned (notification : PreparedNotification F) (code : FailureCode)
  /-- The wait for an active notification is given up. -/
  | interrupted (kind : NotificationKind) (code : FailureCode)

/-- The branch of the loop that prepares a notification. -/
inductive Route
  | idle
  | cancel (cancelsActive : Bool)
  | disconnect (disconnectsActive : Bool)
  deriving DecidableEq, Repr

/-- Where the dispatcher is suspended, with the locals it still needs. -/
inductive Await
  /-- At the head of the loop. -/
  | loop
  /-- In `create_event_summary`, for the lock of the registry. -/
  | register (decision : Decision F) (eventType : RequestType F)
  /-- In `create_app_info_with_session_ref` of a decision. -/
  | describe (decision : Decision F) (eventType : RequestType F) (sessionRef : ℕ)
  /-- For the lock of the registry, to invalidate the state of a disconnect while idle. -/
  | invalidateIdle (state : App)
  /-- To invalidate the state of a cancelled admission. -/
  | invalidateCancel (state : App) (callback : Sender) (cancelsActive : Bool)
  /-- To invalidate the state of a disconnect. -/
  | invalidateDisconnect (state : App) (disconnectsActive : Bool)
  /-- To invalidate the state of the active admission before it is failed on overload. -/
  | invalidateOverload (state : App) (next : PreparedNotification F)
  /-- In `create_lifecycle_event_summary`, for the lock of the registry. -/
  | project (state : App) (kind : NotificationKind) (cancelledApplicationAdmission : Bool)
      (route : Route)
  /-- In `create_app_info_with_session_ref` of a notification. -/
  | describeNotification (state : App) (kind : NotificationKind)
      (cancelledApplicationAdmission : Bool) (route : Route) (sessionRef : ℕ)
  /-- In `invalidate_observed_xswd_states`, with the states that could be upgraded. -/
  | close (states : List App) (busy : Bool)
  | ended

structure Desk where
  deferred : List (DeferredEvent F)
  active : Option (ActiveCallback F)
  receiveBurst : ℕ
  observed : List App
  await : Await F
  log : List (Entry F)

end Types

variable {F : Type}

/-! ### Answers -/

def sendPermissionFailure (callback : Sender) (code : FailureCode) : Entry F :=
  .permission callback (.error code)

def sendPrefetchFailure (callback : Sender) (code : FailureCode) : Entry F :=
  .prefetch callback (.error code)

namespace PendingResponse

def channel : PendingResponse F → Channel
  | .permission callback => .permission callback
  | .prefetch _ callback => .prefetch callback

def complete (outcome : DecisionCallbackOutcome) : PendingResponse F → Entry F
  | .permission callback => .permission callback (permissionResultFromOutcome outcome)
  | .prefetch permissions callback =>
    .prefetch callback (prefetchResultFromOutcome outcome permissions)

def fail (code : FailureCode) : PendingResponse F → Entry F
  | .permission callback => sendPermissionFailure callback code
  | .prefetch _ callback => sendPrefetchFailure callback code

end PendingResponse

/-- The channel that a decision is to be answered on. -/
def Decision.channel (x : Decision F) : Channel := x.response.channel

/-- Whether a future can yield an outcome: each was wrapped when it was made. -/
def Future.yields : Future → ActiveOutcome → Bool
  | .decision _, .decision _ => true
  | .notification, .notification _ => true
  | _, _ => false

namespace ActiveCallback

def isDecisionFor (state : App) (a : ActiveCallback F) : Bool :=
  match a.kind with
  | .decision _ _ => a.state = state
  | .notification _ => false

def isApplicationAdmission (a : ActiveCallback F) : Bool :=
  match a.kind with
  | .decision _ admission => admission
  | .notification _ => false

def isDisconnectFor (state : App) (a : ActiveCallback F) : Bool :=
  match a.kind with
  | .notification .appDisconnect => a.state = state
  | _ => false

/-- `complete_kind`; an outcome of the other kind is dropped with the response. -/
def complete (outcome : ActiveOutcome) (a : ActiveCallback F) : List (Entry F) :=
  match a.kind, outcome with
  | .decision response _, .decision outcome => [response.complete outcome]
  | .notification _, .notification _ => []
  | _, _ => []

def fail (code : FailureCode) (a : ActiveCallback F) : List (Entry F) :=
  match a.kind with
  | .decision response _ => [response.fail code]
  | .notification kind => [.interrupted kind code]

def cancel (a : ActiveCallback F) : List (Entry F) :=
  match a.kind with
  | .decision response _ => [response.fail .requestCancelled]
  | .notification kind => [.interrupted kind .requestCancelled]

end ActiveCallback

/-! ### The queue of deferred events -/

/-- Whether an admission was cancelled, what is retained, and the answers sent. -/
def cancelDeferredDecisions (state : App) :
    List (DeferredEvent F) → Bool × List (DeferredEvent F) × List (Entry F)
  | [] => (false, [], [])
  | event :: rest =>
    let (admission, retained, sent) := cancelDeferredDecisions state rest
    match event with
    | .raw (.requestApplication eventState callback) =>
      if eventState = state then
        (true, retained, sendPermissionFailure callback .requestCancelled :: sent)
      else (admission, event :: retained, sent)
    | .raw (.requestPermission eventState _ callback) =>
      if eventState = state then
        (admission, retained, sendPermissionFailure callback .requestCancelled :: sent)
      else (admission, event :: retained, sent)
    | .raw (.prefetchPermissions eventState _ callback) =>
      if eventState = state then
        (admission, retained, sendPrefetchFailure callback .requestCancelled :: sent)
      else (admission, event :: retained, sent)
    | event => (admission, event :: retained, sent)

def deferDecision (deferred : List (DeferredEvent F)) (event : XSWDEvent F) :
    List (DeferredEvent F) × List (Entry F) :=
  if deferred.length < maxDeferredEvents then (deferred ++ [.raw event], [])
  else
    match event with
    | .requestApplication _ callback | .requestPermission _ _ callback =>
      (deferred, [sendPermissionFailure callback .requestQueueFull])
    | .prefetchPermissions _ _ callback =>
      (deferred, [sendPrefetchFailure callback .requestQueueFull])
    | .appDisconnect _ => (deferred, [])
    | .cancelRequest _ callback => (deferred, [.acknowledged callback])

def failDeferredEvent (code : FailureCode) : DeferredEvent F → List (Entry F)
  | .raw (.requestApplication _ callback) | .raw (.requestPermission _ _ callback) =>
    [sendPermissionFailure callback code]
  | .raw (.prefetchPermissions _ _ callback) => [sendPrefetchFailure callback code]
  | .raw (.cancelRequest _ callback) => [.acknowledged callback]
  | .raw (.appDisconnect _) => []
  | .notification notification => [.abandoned notification code]

def failDeferredEvents (code : FailureCode) (deferred : List (DeferredEvent F)) :
    List (Entry F) :=
  deferred.flatMap (failDeferredEvent code)

def isDecisionEvent : DeferredEvent F → Bool
  | .raw (.requestApplication _ _) | .raw (.requestPermission _ _ _)
  | .raw (.prefetchPermissions _ _ _) => true
  | _ => false

def isDeferredDisconnectFor (state : App) : DeferredEvent F → Bool
  | .notification ⟨eventState, _, .appDisconnect, _⟩ => eventState = state
  | _ => false

/-- The notification to start in place of the active callback, if any, the queue, and the
answers sent. -/
def deferDisconnect (deferred : List (DeferredEvent F)) (active : Option (ActiveCallback F))
    (notification : PreparedNotification F) :
    Option (PreparedNotification F) × List (DeferredEvent F) × List (Entry F) :=
  let alreadyDeferred := active.any (·.isDisconnectFor notification.state)
    || deferred.any (isDeferredDisconnectFor notification.state)
  if alreadyDeferred then (none, deferred, [])
  else if maxDeferredEvents ≤ deferred.length then
    match deferred.findIdx? isDecisionEvent with
    | some index =>
      let sent := ((deferred[index]?).map (failDeferredEvent .requestQueueFull)).getD []
      let deferred := deferred.eraseIdx index
      if deferred.length < maxDeferredEvents then
        (none, deferred ++ [.notification notification], sent)
      else (none, deferred, sent)
    | none =>
      match deferred with
      | .notification next :: deferred =>
        (some next, deferred ++ [.notification notification], [])
      | .raw _ :: deferred => (none, deferred ++ [.notification notification], [])
      | [] => (none, [.notification notification], [])
  else (none, deferred ++ [.notification notification], [])

/-- `track_xswd_state`: the states that died are forgotten. -/
def trackState (alive : App → Bool) (observed : List App) (state : App) : List App :=
  let observed := observed.filter alive
  if state ∈ observed then observed else observed ++ [state]

/-! ### The loop, from one await to the next -/

namespace Desk

@[simps] def emit (d : Desk F) (sent : List (Entry F)) : Desk F := { d with log := d.log ++ sent }

@[simps] def wait (d : Desk F) (await : Await F) : Desk F := { d with await := await }

/-- `PreparedXswdNotification::start`. -/
@[simps] def start (d : Desk F) (n : PreparedNotification F) : Desk F :=
  { d.emit [.notified n] with
    active := some ⟨n.state, .notification n.kind, .notification⟩
    receiveBurst := 0
    await := .loop }

/-- Call the callback of a decision, with `into_active`. -/
@[simps] def call (d : Desk F) (x : Decision F) (summary : RequestSummary F) : Desk F :=
  { d.emit [.called x summary] with
    active := some ⟨x.state, .decision x.response x.isApplicationAdmission, .decision x.channel⟩
    receiveBurst := 0
    await := .loop }

/-- The active callback is taken and its decision fails as cancelled. -/
def cancelActive (d : Desk F) : Desk F :=
  match d.active with
  | some a => { d.emit a.cancel with active := none }
  | none => d

/-- The active callback is taken and fails with a code. -/
def failActive (code : FailureCode) (d : Desk F) : Desk F :=
  match d.active with
  | some a => { d.emit (a.fail code) with active := none }
  | none => d

variable [Double F] (cfg : Config)

/-- A raw event while idle: `prepare_xswd_event` and what follows it, up to an await. -/
def prepare (d : Desk F) : XSWDEvent F → Desk F
  | .requestApplication state callback =>
    d.wait (.register ⟨state, .permission callback, true⟩ .application)
  | .requestPermission state request callback =>
    match project cfg.platform cfg.projectionLimits request with
    | .ok payload => d.wait (.register ⟨state, .permission callback, false⟩ (.permission payload))
    | .error _ => (d.emit [sendPermissionFailure callback .payloadProjectionFailed]).wait .loop
  | .prefetchPermissions state permissions callback =>
    match project cfg.platform cfg.projectionLimits permissions.serialized with
    | .ok payload =>
      d.wait (.register ⟨state, .prefetch permissions callback, false⟩
        (.prefetchPermissions payload))
    | .error _ => (d.emit [sendPrefetchFailure callback .payloadProjectionFailed]).wait .loop
  | .cancelRequest state callback =>
    (d.emit [.acknowledged callback]).wait (.project state .cancelRequest false .idle)
  | .appDisconnect state => d.wait (.invalidateIdle state)

def dispatch (d : Desk F) : DeferredEvent F → Desk F
  | .raw event => d.prepare cfg event
  | .notification notification => d.start notification

omit [Double F]

/-- The end of the branch of `CancelRequest`, after the state of an admission is invalidated:
the active decision is cancelled and upstream is acknowledged. -/
def acknowledgeCancel (d : Desk F) (state : App) (callback : Sender)
    (cancelsActive cancelledAdmission : Bool) : Desk F :=
  let d := if cancelsActive then d.cancelActive else d
  (d.emit [.acknowledged callback]).wait
    (.project state .cancelRequest cancelledAdmission (.cancel cancelsActive))

def cancelRequest (d : Desk F) (state : App) (callback : Sender) : Desk F :=
  let (cancelledDeferredAdmission, retained, sent) := cancelDeferredDecisions state d.deferred
  let d := { d.emit sent with deferred := retained }
  let cancelsActive := d.active.any (·.isDecisionFor state)
  let cancelledAdmission := cancelledDeferredAdmission
    || (cancelsActive && d.active.any (·.isApplicationAdmission))
  if cancelledAdmission then d.wait (.invalidateCancel state callback cancelsActive)
  else d.acknowledgeCancel state callback cancelsActive false

def appDisconnect (d : Desk F) (state : App) : Desk F :=
  let (_, retained, sent) := cancelDeferredDecisions state d.deferred
  let d := { d.emit sent with deferred := retained }
  d.wait (.invalidateDisconnect state (d.active.any (·.isDecisionFor state)))

/-- An event is taken from the channel. -/
@[simps] def receive (alive : App → Bool) (d : Desk F) (event : XSWDEvent F) : Desk F :=
  { d.emit [.received event] with observed := trackState alive d.observed event.state }

/-- The branches of an event received while a callback is active. -/
def busyEvent (d : Desk F) : XSWDEvent F → Desk F
  | .cancelRequest state callback => d.cancelRequest state callback
  | .appDisconnect state => d.appDisconnect state
  | event =>
    let (deferred, sent) := deferDecision d.deferred event
    { d.emit sent with deferred := deferred }

/-- The channel is closed: `invalidate_observed_xswd_states` upgrades what it can. -/
def closing (alive : App → Bool) (d : Desk F) (busy : Bool) : Desk F :=
  (d.emit [.closed]).wait (.close (d.observed.filter alive) busy)

/-- The active callback gives way to the oldest notification. -/
def overload (d : Desk F) (next : PreparedNotification F) : Desk F :=
  (d.failActive .handlerOverloaded).start next

/-- What each branch does with the notification it prepared. -/
def route (d : Desk F) : Route → Option (PreparedNotification F) → Desk F
  | _, none => d.wait .loop
  | .idle, some n | .cancel true, some n | .disconnect true, some n => d.start n
  | .cancel false, some n =>
    if d.deferred.length < maxDeferredEvents then
      { d with deferred := d.deferred ++ [.notification n], await := .loop }
    else (d.emit [.abandoned n .requestQueueFull]).wait .loop
  | .disconnect false, some n =>
    let (next, deferred, sent) := deferDisconnect d.deferred d.active n
    let d := { d.emit sent with deferred := deferred }
    match next with
    | none => d.wait .loop
    | some next =>
      match d.active.filter (·.isApplicationAdmission) with
      | some admission => d.wait (.invalidateOverload admission.state next)
      | none => d.overload next

/-- The end of the handler: everything that waits fails. -/
def finish (d : Desk F) (busy : Bool) : Desk F :=
  if busy then
    let d := d.failActive .handlerClosed
    { d.emit (failDeferredEvents .handlerClosed d.deferred) with deferred := [], await := .ended }
  else d.wait .ended

end Desk

/-! ### The inputs that end an await -/

inductive HandlerInput (F : Type)
  | callback (outcome : ActiveOutcome)
  | event (event : Option (XSWDEvent F))

/-- The two biased selects: what is polled first wins when both are ready. -/
def selectInput (receiveBurst : ℕ) (event : Option (Option (XSWDEvent F)))
    (outcome : Option ActiveOutcome) : Option (HandlerInput F) :=
  if maxReceiveBurst ≤ receiveBurst then
    (outcome.map .callback).or (event.map .event)
  else (event.map .event).or (outcome.map .callback)

inductive Input (F : Type)
  /-- The head of the loop, idle, with a deferred event. -/
  | next
  /-- The channel yields an event or is closed, while idle. -/
  | recv (event : Option (XSWDEvent F))
  /-- The select, with what is ready: an event or closing, an outcome. -/
  | select (event : Option (Option (XSWDEvent F))) (outcome : Option ActiveOutcome)
  | registered (result : Except SessionReferenceError ℕ)
  | projected (result : Except SessionReferenceError ℕ)
  | invalidated
  | described (permissions : List (String × Permission))

def Entry.event : Entry F → Option (XSWDEvent F)
  | .received event => some event
  | _ => none

/-- The events received so far, oldest first. -/
def receivedEvents (log : List (Entry F)) : List (XSWDEvent F) := log.filterMap Entry.event

namespace Desk

/-- A sender is owned by one event, so a received channel is new. -/
def fresh (d : Desk F) (event : XSWDEvent F) : Bool :=
  event.channels.all fun c => c ∉ (receivedEvents d.log).flatMap XSWDEvent.channels

variable [Double F] (cfg : Config) (alive : App → Bool)

def handle (d : Desk F) (a : ActiveCallback F) : HandlerInput F → Option (Desk F)
  | .callback outcome =>
    if a.future.yields outcome then
      some { d.emit (.returned a.future outcome :: a.complete outcome) with
        active := none, receiveBurst := 0 }
    else none
  | .event none => some (d.closing alive true)
  | .event (some event) =>
    if d.fresh event then
      some (({ d.receive alive event with receiveBurst := d.receiveBurst + 1 }).busyEvent event)
    else none

def step (d : Desk F) : Input F → Option (Desk F)
  | .next =>
    match d.await, d.active, d.deferred with
    | .loop, none, event :: deferred => some (({ d with deferred := deferred }).dispatch cfg event)
    | _, _, _ => none
  | .recv event =>
    match d.await, d.active, d.deferred, event with
    | .loop, none, [], none => some (d.closing alive false)
    | .loop, none, [], some event =>
      if d.fresh event then some ((d.receive alive event).prepare cfg event) else none
    | _, _, _, _ => none
  | .select event outcome =>
    match d.await, d.active, selectInput d.receiveBurst event outcome with
    | .loop, some a, some input =>
      -- the burst is over once the callback has been polled first
      let burst := if maxReceiveBurst ≤ d.receiveBurst then 0 else d.receiveBurst
      ({ d with receiveBurst := burst }).handle alive a input
    | _, _, _ => none
  | .registered result =>
    match d.await, result with
    | .register x eventType, .ok sessionRef => some (d.wait (.describe x eventType sessionRef))
    | .register x _, .error e =>
      some ((d.emit [x.response.fail (.sessionReference e)]).wait .loop)
    | _, _ => none
  | .projected result =>
    match d.await, result with
    | .project state kind admission route, .ok sessionRef =>
      some (d.wait (.describeNotification state kind admission route sessionRef))
    | .project _ _ _ route, .error _ => some (d.route route none)
    | _, _ => none
  | .invalidated =>
    match d.await with
    | .invalidateIdle state => some (d.wait (.project state .appDisconnect false .idle))
    | .invalidateCancel state callback cancelsActive =>
      some (d.acknowledgeCancel state callback cancelsActive true)
    | .invalidateDisconnect state disconnectsActive =>
      let d := if disconnectsActive then d.cancelActive else d
      some (d.wait (.project state .appDisconnect false (.disconnect disconnectsActive)))
    | .invalidateOverload _ next => some (d.overload next)
    | .close _ busy => some (d.finish busy)
    | _ => none
  | .described permissions =>
    match d.await with
    | .describe x eventType sessionRef =>
      some (d.call x ⟨eventType,
        createAppInfoWithSessionRef (cfg.apps x.state) permissions false sessionRef⟩)
    | .describeNotification state kind admission route sessionRef =>
      let eventType := match kind with
        | .cancelRequest => .cancelRequest
        | .appDisconnect => .appDisconnect
      let flag := match kind with
        | .cancelRequest => admission
        | .appDisconnect => false
      some (d.route route (some ⟨state, ⟨eventType,
        createAppInfoWithSessionRef (cfg.apps state) permissions false sessionRef⟩, kind, flag⟩))
    | _ => none

end Desk

end XelisWallet.Dispatcher
