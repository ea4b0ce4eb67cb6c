import XelisWallet.DartStream
import XelisWallet.NativeSubscription

/-!
The subscriptions of the package to the events of a wallet
(`xelis_wallet_runtime_event_adapter.dart` and `xelis_wallet_business_event_adapter.dart`).

Both classes are the same machine over an adapter of frames. `_pump` reads one frame at a time from
the native handle and adds it to the stream controller. It runs in pieces, from one `await` to the
next; a listener is called in the middle of a piece, and may pause, resume and cancel there. Between
the pieces anything else may run. The native side chooses when and how a read ends, and whether a
call of `cancel` or `dispose` fails.

A completer is kept only until it is completed, so a pump that waits for one waits for the one that
is kept.
-/

namespace XelisWallet.DartSubscription

open Fallible Runs NativeError DataWire Transactions Events NativeSubscription DartStream

/-! ### Frames -/

/-- What is thrown in `_pump`. -/
inductive Thrown (X : Type)
  /-- `xelisBridgeContractException`. -/
  | contract (nativeKind diagnosticMessage : String)
  | event (error : X)
  | native (error : X)
  /-- The controller is closed. -/
  | state

/-- What the two kinds of subscription differ in. -/
structure Adapter (F G X : Type) where
  currentVersion : ℕ
  kind : String
  word : String
  adaptEvent : F → Except X G
  isClosed : G → Bool

variable {F G X : Type}

def adaptEventFrame (A : Adapter F G X) (expectedGeneration expectedSequence : ℕ)
    (frame : EventFrame F) : Except (Thrown X) (EventFrame G) := do
  ensure (frame.version = A.currentVersion) (.contract
    ("NATIVE_" ++ A.kind ++ "_EVENT_CONTRACT_VERSION_" ++ toString frame.version)
    ("Unsupported native " ++ A.word ++ " event contract version " ++ toString frame.version ++
      "."))
  ensure (frame.generation = expectedGeneration) (.contract
    ("NATIVE_" ++ A.kind ++ "_EVENT_GENERATION_MISMATCH")
    ("Expected " ++ A.word ++ " event generation " ++ toString expectedGeneration ++
      " but received " ++ toString frame.generation ++ "."))
  ensure (frame.sequence = expectedSequence) (.contract
    ("NATIVE_" ++ A.kind ++ "_EVENT_SEQUENCE_MISMATCH")
    ("Expected " ++ A.word ++ " event sequence " ++ toString expectedSequence ++
      " but received " ++ toString frame.sequence ++ "."))
  let event ← (A.adaptEvent frame.event).mapError .event
  return ⟨frame.version, frame.generation, frame.sequence, event⟩

inductive XelisWalletOperation
  | walletSync
  | walletEventsStream
  deriving DecidableEq, Repr

inductive XelisWalletRuntimeStreamCloseReason
  | nativeChannelClosed

/-- The runtime events of the package, over its type of failures. -/
inductive XelisWalletRuntimeEvent (Y : Type)
  | online
  | offline
  | syncIssue (failure : Y)
  | topoheightChanged (topoheight : UInt64)
  | rescanStarted (startTopoheight : UInt64)
  | historySynced (topoheight : UInt64)
  | eventStreamDegraded (skippedEvents : ℕ) (failure : Y)
  | eventStreamClosed (reason : XelisWalletRuntimeStreamCloseReason) (failure : Y)

section Members

variable {Y D : Type}

def adaptRuntimeEvent (adaptEventFailure : NativeXelisError → XelisWalletOperation → Y) :
    NativeWalletRuntimeEvent → XelisWalletRuntimeEvent Y
  | .online => .online
  | .offline => .offline
  | .syncIssue failure => .syncIssue (adaptEventFailure failure .walletSync)
  | .newTopoHeight topoheight => .topoheightChanged topoheight
  | .rescan startTopoheight => .rescanStarted startTopoheight
  | .historySynced topoheight => .historySynced topoheight
  | .degraded skippedEvents failure =>
    .eventStreamDegraded skippedEvents (adaptEventFailure failure .walletEventsStream)
  | .closed .nativeChannelClosed failure =>
    .eventStreamClosed .nativeChannelClosed (adaptEventFailure failure .walletEventsStream)

/-- `adaptRuntimeEventFrame`, with `XelisWalletRuntimeEventContract.currentVersion`. -/
def runtimeAdapter (X : Type) (adaptEventFailure : NativeXelisError → XelisWalletOperation → Y) :
    Adapter NativeWalletRuntimeEvent (XelisWalletRuntimeEvent Y) X where
  currentVersion := 1
  kind := "RUNTIME"
  word := "runtime"
  adaptEvent event := .ok (adaptRuntimeEvent adaptEventFailure event)
  isClosed
    | .eventStreamClosed .. => true
    | _ => false

/-- `adaptBusinessEventFrame`, with `XelisWalletBusinessEventContract.currentVersion`. -/
def businessAdapter (X : Type) (dataElementFromGenerated : NativeXelisDataElement → D)
    (adaptEventFailure : NativeXelisError → Y)
    (extraDataDisclosure : XelisWalletExtraDataDisclosure) :
    Adapter NativeWalletBusinessEvent (XelisWalletBusinessEvent D Y) X where
  currentVersion := 1
  kind := "BUSINESS"
  word := "business"
  adaptEvent event := .ok
    (adaptBusinessEvent dataElementFromGenerated adaptEventFailure extraDataDisclosure event)
  isClosed
    | .closed .. => true
    | _ => false

end Members

/-! ### The subscription -/

/-- The two calls of `_waitWhilePaused`: before a read, and with a frame. -/
inductive Phase (F : Type)
  | before
  | holding (frame : EventFrame F)

/-- Where `_pump` is. -/
inductive Pump (F X : Type)
  | idle
  /-- `_waitWhilePaused` waits for the completer. -/
  | parked (phase : Phase F)
  /-- The completer is completed, and `_waitWhilePaused` will go on. -/
  | resumed (phase : Phase F)
  /-- `_waitWhilePaused` has returned, and `_pump` will go on. -/
  | waited (phase : Phase F)
  | reading
  /-- The read has ended, and `_pump` will go on. -/
  | replied (reply : Except X (Option (EventFrame F)))
  /-- In `_controller.add`. -/
  | adding (closed : Bool)
  /-- At the start of the `finally` block. -/
  | ending
  /-- Before `_finalize`. -/
  | finalizing
  /-- In `_finalize`, before the controller is closed. -/
  | closing
  | finished

/-- `_cancelFuture`; a failed attempt resets it in a microtask. -/
inductive CancelFuture
  | none
  | failing
  | kept
  deriving DecidableEq, Repr

structure EventSubscription (F G X : Type) where
  pumpFuture : Bool
  cancelFuture : CancelFuture
  resumeCompleter : Bool
  expectedSequence : ℕ
  paused : Bool
  cancelRequested : Bool
  nativeCancelRequested : Bool
  finalized : Bool
  pump : Pump F X
  -- the controller
  closed : Bool
  listener : Listener (EventFrame G)
  -- the native handle: the reads in flight, for each read the calls of `dispose` before it, for
  -- each call of `dispose` the reads in flight, and the frames returned
  inFlight : ℕ
  reads : List ℕ
  disposals : List ℕ
  returned : List (EventFrame F)
  -- the frames given to the controller, and what was thrown in `_pump`
  added : List (EventFrame G)
  raised : List (Thrown X)

/-- Whether a call of the native handle succeeds. -/
structure Native where
  cancelOk : Bool
  disposeOk : Bool
  deriving DecidableEq, Repr

def Pump.wake : Pump F X → Pump F X
  | .parked phase => .resumed phase
  | pump => pump

/-- Running, or in a call of the listener. -/
def Pump.busy : Pump F X → Bool
  | .adding _ | .ending | .finalizing | .closing => true
  | _ => false

namespace EventSubscription

def init : EventSubscription F G X where
  pumpFuture := false
  cancelFuture := .none
  resumeCompleter := false
  expectedSequence := 1
  paused := false
  cancelRequested := false
  nativeCancelRequested := false
  finalized := false
  pump := .idle
  closed := false
  listener := .init
  inFlight := 0
  reads := []
  disposals := []
  returned := []
  added := []
  raised := []

variable (s : EventSubscription F G X)

def resumePump : EventSubscription F G X :=
  { s with
    resumeCompleter := false
    pump := if s.resumeCompleter then s.pump.wake else s.pump }

def onPause : EventSubscription F G X :=
  if s.cancelRequested then s else { s with paused := true, resumeCompleter := true }

def onResume : EventSubscription F G X := { s with paused := false }.resumePump

/-- Calls the native `cancel` unless it has succeeded before; `false` if it throws. -/
def requestNativeCancel (native : Native) : Bool × EventSubscription F G X :=
  if s.nativeCancelRequested then (true, s)
  else if native.cancelOk then (true, { s with nativeCancelRequested := true })
  else (false, s)

/-- `_controller.addError`, unless the controller is closed. -/
def addError : EventSubscription F G X :=
  if s.closed then s else { s with listener := (s.listener.emit .error).1 }

/-- `_finalize` of a subscription that is not finalized, before the controller is closed. -/
def disposeHandle (native : Native) : EventSubscription F G X :=
  let s := { s with finalized := true }
  if s.disposals.isEmpty then
    let s := { s with disposals := s.disposals ++ [s.inFlight] }
    if native.disposeOk then s else s.addError
  else s

/-- `_controller.close`, and whether the listener is cancelled by it. -/
def closeController : EventSubscription F G X × Option Signal :=
  if s.closed then (s, none)
  else
    let (listener, signal) := s.listener.emit .done
    ({ s with closed := true, listener }, signal)

/-- `cancel`. Without a pump nobody listens, and closing the controller calls nobody. -/
def cancel (native : Native) : EventSubscription F G X :=
  match s.cancelFuture with
  | .none =>
    match ({ s with cancelRequested := true }.resumePump).requestNativeCancel native with
    | (false, s) => { s with cancelFuture := .failing }
    | (true, s) =>
      if s.pumpFuture || s.finalized then { s with cancelFuture := .kept }
      else { ((s.disposeHandle native).closeController).1 with cancelFuture := .kept }
  | _ => s

/-- Calls the callback of the controller that the listener asks for. -/
def obey (native : Native) : Option Signal → EventSubscription F G X
  | some .onPause => s.onPause
  | some .onResume => s.onResume
  | some .onCancel => s.cancel native
  | none => s

/-- Something is done with the listener. -/
def tell (native : Native)
    (f : Listener (EventFrame G) → Listener (EventFrame G) × Option Signal) :
    EventSubscription F G X :=
  { s with listener := (f s.listener).1 }.obey native (f s.listener).2

/-! ### The pump -/

/-- `_waitWhilePaused`, from its start or from the completer on. -/
def waitWhilePaused (phase : Phase F) : EventSubscription F G X :=
  if s.paused && !s.cancelRequested then
    { s with resumeCompleter := true, pump := .parked phase }
  else { s with pump := .waited phase }

/-- The `catch` block. -/
def catchError (thrown : Thrown X) : EventSubscription F G X :=
  let s := { s with raised := s.raised ++ [thrown], pump := .ending }
  if s.cancelRequested then s else s.addError

/-- The `finally` block until `_finalize`. -/
def endPump (native : Native) : EventSubscription F G X :=
  match ({ s with cancelRequested := true, pump := .finalizing }.resumePump).requestNativeCancel
      native with
  | (true, s) => s
  | (false, s) => s.addError

def finalizePump (native : Native) : EventSubscription F G X :=
  if s.finalized then { s with pump := .finished }
  else { s.disposeHandle native with pump := .closing }

def closePump (native : Native) : EventSubscription F G X :=
  let (s, signal) := { s with pump := .finished }.closeController
  s.obey native signal

/-- The frame is adapted and added. -/
def addFrame (A : Adapter F G X) (generation : ℕ) (native : Native) (frame : EventFrame F) :
    EventSubscription F G X :=
  match adaptEventFrame A generation s.expectedSequence frame with
  | .error thrown => s.catchError thrown
  | .ok frame =>
    let s := { s with expectedSequence := s.expectedSequence + 1 }
    if s.closed then s.catchError .state
    else { s with added := s.added ++ [frame], pump := .adding (A.isClosed frame.event) }.tell
      native (·.emit (.data frame))

/-- `_pump` goes on. -/
def runPump (A : Adapter F G X) (generation : ℕ) (native : Native) :
    Option (EventSubscription F G X) :=
  match s.pump with
  | .idle | .parked _ | .reading | .finished => none
  | .resumed phase => some (s.waitWhilePaused phase)
  | .waited .before => some
      (if s.cancelRequested then { s with pump := .ending }
      else { s with
        pump := .reading
        inFlight := s.inFlight + 1
        reads := s.reads ++ [s.disposals.length] })
  | .waited (.holding frame) => some
      (if s.cancelRequested then { s with pump := .ending }
      else s.addFrame A generation native frame)
  | .replied (.error error) => some (s.catchError (.native error))
  | .replied (.ok none) => some { s with pump := .ending }
  | .replied (.ok (some frame)) => some
      (if s.cancelRequested then { s with pump := .ending } else s.waitWhilePaused (.holding frame))
  | .adding closed => some
      (if closed || s.cancelRequested then { s with pump := .ending }
      else s.waitWhilePaused .before)
  | .ending => some (s.endPump native)
  | .finalizing => some (s.finalizePump native)
  | .closing => some (s.closePump native)

/-- `_onListen`. After a cancellation `_pump` runs to its end at once, in a callback of the
listener. -/
def onListen (native : Native) : EventSubscription F G X :=
  let s := { s with listener := s.listener.listen, pumpFuture := true }
  if s.cancelRequested then
    let s := { s with listener := { s.listener with callback := some s.listener.inputPaused } }
    let s := (s.endPump native).finalizePump native
    let s := match s.pump with
      | .closing => s.closePump native
      | _ => s
    s.tell native (·.finishCallback s.listener.inputPaused)
  else s.waitWhilePaused .before

end EventSubscription

/-! ### The system -/

inductive Action (F X : Type)
  | listen
  | pause
  | resume
  | cancelStream
  | cancel
  /-- A call of the listener returns. -/
  | return
  | pump
  | reply (reply : Except X (Option (EventFrame F)))
  | deliver
  /-- The microtask in which a failed attempt to cancel resets `_cancelFuture`. -/
  | cancelFailed

namespace EventSubscription

variable (s : EventSubscription F G X)

/-- Code of the application may run. -/
def mayCall : Bool := !s.pump.busy || s.listener.callback.isSome

/-- A new microtask or event may start. -/
def free : Bool := !s.pump.busy && s.listener.callback.isNone

/-- The native side ends the read. -/
def replied (reply : Except X (Option (EventFrame F))) : EventSubscription F G X :=
  { s with
    pump := .replied reply
    inFlight := s.inFlight - 1
    returned := s.returned ++ match reply with
      | .ok (some frame) => [frame]
      | _ => [] }

def step (A : Adapter F G X) (generation : ℕ) (native : Native) :
    Action F X → Option (EventSubscription F G X)
  | .listen => if s.mayCall && !s.listener.attached then some (s.onListen native) else none
  | .pause => if s.mayCall && s.listener.attached then some (s.tell native (·.pause)) else none
  | .resume => if s.mayCall && s.listener.attached then some (s.tell native (·.resume)) else none
  | .cancelStream =>
    if s.mayCall && s.listener.attached then some (s.tell native (·.cancel)) else none
  | .cancel => if s.mayCall then some (s.cancel native) else none
  | .return => s.listener.callback.map fun was => s.tell native (·.finishCallback was)
  | .pump => if s.listener.callback.isNone then s.runPump A generation native else none
  | .reply reply =>
    match s.free, s.pump with
    | true, .reading => some (s.replied reply)
    | _, _ => none
  | .deliver =>
    if s.free then s.listener.deliver.map fun r => { s with listener := r.1 }.obey native r.2
    else none
  | .cancelFailed =>
    if s.free && s.cancelFuture = .failing then some { s with cancelFuture := .none } else none

end EventSubscription

def eventSubscriptions (A : Adapter F G X) (generation : ℕ) :
    System (EventSubscription F G X) (Native × Action F X) where
  init s := s = .init
  step s a s' := s.step A generation a.1 a.2 = some s'

end XelisWallet.DartSubscription
