import XelisWallet.Runs
import XelisWallet.Xswd

/-!
The XSWD sessions of a wallet handle of the package (`xelis_wallet_xswd_state.dart` and the calls of
`NativeXelisWallet` that use it).

A session has a capability, made when its reference is first seen. The capability is admitted when a
state read lists the session, and inactive for good after a disconnect, a rejection, a close or a
stop, or when a state read does not list it. A state read waits for two native answers; it starts
again if a capability was given up meanwhile, which the revision tells.

Capabilities and applications are objects and compared by identity, here by their place. A call that
is refused changes nothing and is no step. The native list is read in two parts, so sessions may
come and go between them.
-/

namespace XelisWallet.DartXswd

open Runs Xswd

/-! ### Capabilities and applications -/

structure NativeXswdSessionCapability where
  sessionRef : ℕ
  active : Bool
  admitted : Bool
  pendingApplicationDecision : Bool
  deriving DecidableEq, Repr

/-- The identity of an application: adapted by the handle, or constructed by the consumer. -/
inductive Ref
  | adapted (index : ℕ)
  | constructed (index : ℕ)
  deriving DecidableEq, Repr

/-- An application; `sessionReference` is compared by the identity of the capability. -/
structure XelisXswdApplication where
  sessionReference : ℕ
  id : String
  name : String
  description : String
  url : Option String
  permissions : List (String × PermissionPolicy)
  isRelayer : Bool
  deriving DecidableEq, Repr

def xelisXswdApplicationFromGenerated (application : AppInfo) (sessionIdentity : ℕ) :
    XelisXswdApplication where
  sessionReference := sessionIdentity
  id := application.id
  name := application.name
  description := application.description
  url := application.url
  permissions := application.permissions
  isRelayer := application.isRelayer

structure NativeXswdState where
  -- every capability, by its identity
  heap : List NativeXswdSessionCapability
  capabilities : ℕ → Option ℕ
  -- every adapted application, with what it was adapted from
  applications : List (AppInfo × XelisXswdApplication)
  applicationCapabilities : Ref → Option ℕ
  revision : ℕ

namespace NativeXswdState

def init : NativeXswdState := ⟨[], fun _ => none, [], fun _ => none, 0⟩

variable (x : NativeXswdState)

def modify (c : ℕ) (f : NativeXswdSessionCapability → NativeXswdSessionCapability) :
    NativeXswdState := { x with heap := x.heap.modify c f }

/-- `_capabilityForNative`. -/
def capabilityForNative (native : AppInfo) : ℕ × NativeXswdState :=
  match x.capabilities native.sessionRef with
  | some c => (c, x)
  | none => (x.heap.length, { x with
      heap := x.heap ++ [⟨native.sessionRef, true, false, false⟩]
      capabilities := Function.update x.capabilities native.sessionRef (some x.heap.length) })

def adaptApplication (native : AppInfo) (observedInState : Bool) : NativeXswdState :=
  let (c, x) := x.capabilityForNative native
  let x := if observedInState then
      x.modify c fun capability =>
        { capability with admitted := true, pendingApplicationDecision := false }
    else x
  { x with
    applications := x.applications ++ [(native, xelisXswdApplicationFromGenerated native c)]
    applicationCapabilities :=
      Function.update x.applicationCapabilities (.adapted x.applications.length) (some c) }

/-- The applications of a native list, adapted in its order. -/
def adaptApplications (applications : List AppInfo) : NativeXswdState :=
  applications.foldl (fun x native => x.adaptApplication native true) x

/-- `_invalidate`. -/
def invalidate (c : ℕ) : NativeXswdState :=
  match x.heap[c]? with
  | none => x
  | some capability =>
    if !capability.active && x.capabilities capability.sessionRef ≠ some c then x
    else { x.modify c fun capability =>
        { capability with active := false, pendingApplicationDecision := false } with
      capabilities :=
        if x.capabilities capability.sessionRef = some c then
          Function.update x.capabilities capability.sessionRef none
        else x.capabilities
      revision := x.revision + 1 }

def tombstone (c : ℕ) : NativeXswdState :=
  match x.heap[c]? with
  | none => x
  | some capability =>
    if capability.active then
      { x.modify c fun capability =>
          { capability with active := false, pendingApplicationDecision := false } with
        revision := x.revision + 1 }
    else x

/-- The capabilities of the map, in the order in which they were put there. -/
def entries : List ℕ :=
  (List.range x.heap.length).filter fun c =>
    x.heap[c]?.any fun capability => x.capabilities capability.sessionRef = some c

def invalidateAll : NativeXswdState :=
  { x.entries.foldl (fun x c => x.modify c fun capability =>
      { capability with active := false, pendingApplicationDecision := false }) x with
    capabilities := fun _ => none
    revision := x.revision + 1 }

/-- The entries that a list of applications does not have, and that await no decision. -/
def stale (applications : List AppInfo) : List ℕ :=
  x.entries.filter fun c => x.heap[c]?.any fun capability =>
    !(applications.map AppInfo.sessionRef).contains capability.sessionRef &&
      !capability.pendingApplicationDecision

def reconcile (applications : List AppInfo) : NativeXswdState :=
  (x.stale applications).foldl invalidate x

/-- `_startXswdApplicationDecision`. -/
def startDecision (application : AppInfo) : NativeXswdState :=
  let (c, x) := x.capabilityForNative application
  x.modify c fun capability => { capability with pendingApplicationDecision := true }

/-- `_completeXswdApplicationDecision`. -/
def completeDecision (application : AppInfo) (outcome : DecisionCallbackOutcome) :
    NativeXswdState :=
  match x.capabilities application.sessionRef with
  | none => x
  | some c =>
    if x.heap[c]?.any NativeXswdSessionCapability.active then
      if outcome.grants then
        x.modify c fun capability => { capability with pendingApplicationDecision := true }
      else x.invalidate c
    else x

/-- `_startXswdRequestCancellation`. -/
def startRequestCancellation (application : AppInfo) (cancelledApplicationAdmission : Bool) :
    NativeXswdState :=
  if cancelledApplicationAdmission then
    let (c, x) := x.capabilityForNative application
    x.tombstone c
  else x

/-- `_startXswdApplicationDisconnect`. -/
def startApplicationDisconnect (application : AppInfo) : NativeXswdState :=
  let (c, x) := x.capabilityForNative application
  x.tombstone c

/-- `capability`, or `none` for `XSWD_SESSION_REFERENCE_INVALID`. -/
def capability (application : Ref) : Option (ℕ × NativeXswdSessionCapability) :=
  match x.applicationCapabilities application with
  | none => none
  | some c =>
    match x.heap[c]? with
    | none => none
    | some capability =>
      if capability.active && capability.admitted &&
          x.capabilities capability.sessionRef = some c then
        some (c, capability)
      else none

def isActive (c : ℕ) : Bool := x.heap[c]?.any NativeXswdSessionCapability.active

end NativeXswdState

/-! ### The handle -/

/-- Where a call of `getXswdState` is. It keeps the revision it has read and the number of
capabilities that had been given up then, and with a native answer the number of sessions that had
been admitted when it was taken. -/
inductive Read
  | idle
  /-- Waiting for `is_xswd_running`. -/
  | asking (revision since : ℕ)
  | asked (revision since taken : ℕ) (isRunning : Bool)
  /-- Waiting for `get_application_permissions`. -/
  | listing (revision since : ℕ)
  /-- The sessions of the server are read, those of the relayer are not. -/
  | half (revision since : ℕ) (applications : List AppInfo)
  | listed (revision since taken : ℕ) (applications : List AppInfo)
  | returned (isRunning : Bool) (applications : List Ref)
  | failed

/-- A native call of another operation is in progress. -/
inductive Operation
  | start
  | stop
  | relayer (id : String)
  | close (id : String) (capability : ℕ)

structure Handle where
  terminal : Bool
  xswd : NativeXswdState
  applicationOperations : List String
  lifecycleOperationInProgress : Bool
  reads : ℕ → Read
  decisions : ℕ → Option AppInfo
  operations : ℕ → Option Operation
  -- the native side: the sessions that are connected, and the references of all that ever were
  running : Bool
  connected : List AppInfo
  sessions : List ℕ
  -- the capabilities that state reads have listed, and those that were given up
  observed : List ℕ
  deactivated : List ℕ

namespace Handle

def init : Handle where
  terminal := false
  xswd := .init
  applicationOperations := []
  lifecycleOperationInProgress := false
  reads _ := .idle
  decisions _ := none
  operations _ := none
  running := false
  connected := []
  sessions := []
  observed := []
  deactivated := []

variable (s : Handle)

/-- The session state changes; the capabilities that are no longer active are noted. -/
def update (xswd : NativeXswdState) : Handle :=
  { s with
    xswd
    deactivated := s.deactivated ++ (List.range xswd.heap.length).filter fun c =>
      !xswd.isActive c && (s.xswd.isActive c || s.xswd.heap.length ≤ c) }

def setRead (k : ℕ) (read : Read) : Handle := { s with reads := Function.update s.reads k read }

/-- The loop of `getXswdState` starts, or starts again. -/
def startRead (k : ℕ) : Handle := s.setRead k (.asking s.xswd.revision s.deactivated.length)

/-- A list is applied, and the read returns. -/
def applyRead (k : ℕ) (isRunning : Bool) (applications : List AppInfo) : Handle :=
  let adapted := s.xswd.adaptApplications applications
  let authored := (List.range applications.length).map fun n =>
    Ref.adapted (s.xswd.applications.length + n)
  { s.update (adapted.reconcile applications) with
    observed := s.observed ++ applications.filterMap fun (native : AppInfo) =>
      adapted.capabilities native.sessionRef }.setRead k (.returned isRunning authored)

/-- An operation on an application is accepted: the capability, with its reference. -/
def accepts (application : Ref) : Option (ℕ × NativeXswdSessionCapability) :=
  if s.terminal then none else s.xswd.capability application

/-- An application of the handle, with what it was adapted from. -/
def application : Ref → Option (AppInfo × XelisXswdApplication)
  | .adapted n => s.xswd.applications[n]?
  | .constructed _ => none

def setOperation (j : ℕ) (operation : Option Operation) : Handle :=
  { s with operations := Function.update s.operations j operation }

end Handle

inductive Action
  -- callbacks
  | applicationRequest (d : ℕ) (application : AppInfo)
  | decided (d : ℕ) (outcome : DecisionCallbackOutcome)
  /-- A request for permissions with a valid payload. -/
  | permissionRequest (application : AppInfo)
  | cancelRequest (application : AppInfo) (cancelledApplicationAdmission : Bool)
  | applicationDisconnect (application : AppInfo)
  -- state reads
  | getXswdState (k : ℕ)
  | takeRunning (k : ℕ)
  | takeServer (k : ℕ)
  | takeRelayer (k : ℕ)
  /-- A native answer that was taken arrives. -/
  | reply (k : ℕ)
  | readFailed (k : ℕ)
  -- other calls of the handle
  | startXswd (j : ℕ)
  | stopXswd (j : ℕ)
  | addXswdRelayer (j : ℕ) (id : String)
  | closeXswdApplicationSession (j : ℕ) (application : Ref)
  | finished (j : ℕ) (ok : Bool)
  | close
  | dispose
  -- the native side
  | connect (application : AppInfo)
  | leave (sessionRef : ℕ)
  | setRunning (running : Bool)

namespace Handle

variable (s : Handle)

/-- `_runXswdLifecycleOperation` starts. -/
def startLifecycle (j : ℕ) (operation : Operation) : Option Handle :=
  if s.terminal || (s.operations j).isSome || s.lifecycleOperationInProgress ||
      !s.applicationOperations.isEmpty then none
  else some ({ s with lifecycleOperationInProgress := true }.setOperation j (some operation))

/-- `_runXswdApplicationOperation` starts. -/
def startApplication (j : ℕ) (id : String) (operation : Operation) : Option Handle :=
  if s.terminal || (s.operations j).isSome || s.lifecycleOperationInProgress ||
      s.applicationOperations.contains id then none
  else some ({ s with applicationOperations := id :: s.applicationOperations }.setOperation j
    (some operation))

/-- The native call of an operation returns. -/
def finish (j : ℕ) (ok : Bool) : Operation → Handle
  | .start => { s with lifecycleOperationInProgress := false }.setOperation j none
  | .stop =>
    let s := if ok then s.update s.xswd.invalidateAll else s
    { s with lifecycleOperationInProgress := false }.setOperation j none
  | .relayer id =>
    { s with applicationOperations := s.applicationOperations.erase id }.setOperation j none
  | .close id c =>
    let s := if ok then s.update (s.xswd.tombstone c) else s
    { s with applicationOperations := s.applicationOperations.erase id }.setOperation j none

def step : Action → Option Handle
  | .applicationRequest d application =>
    match s.decisions d with
    | none => some { s.update ((s.xswd.startDecision application).adaptApplication application
          false) with
        decisions := Function.update s.decisions d (some application) }
    | some _ => none
  | .decided d outcome =>
    match s.decisions d with
    | some application => some { s.update (s.xswd.completeDecision application outcome) with
        decisions := Function.update s.decisions d none }
    | none => none
  | .permissionRequest application => some (s.update (s.xswd.adaptApplication application false))
  | .cancelRequest application cancelledApplicationAdmission =>
    some (s.update ((s.xswd.startRequestCancellation application
      cancelledApplicationAdmission).adaptApplication application false))
  | .applicationDisconnect application =>
    some (s.update ((s.xswd.startApplicationDisconnect application).adaptApplication application
      false))
  | .getXswdState k =>
    match s.reads k, s.terminal with
    | .idle, false => some (s.startRead k)
    | _, _ => none
  | .takeRunning k =>
    match s.reads k with
    | .asking revision since =>
      some (s.setRead k (.asked revision since s.sessions.length s.running))
    | _ => none
  | .takeServer k =>
    match s.reads k with
    | .listing revision since =>
      some (s.setRead k (.half revision since (s.connected.filter fun native => !native.isRelayer)))
    | _ => none
  | .takeRelayer k =>
    match s.reads k with
    | .half revision since applications =>
      some (s.setRead k (.listed revision since s.sessions.length
        (applications ++ s.connected.filter AppInfo.isRelayer)))
    | _ => none
  | .reply k =>
    match s.reads k with
    | .asked revision since _ isRunning => some
        (if revision ≠ s.xswd.revision then s.startRead k
        else if isRunning then s.setRead k (.listing revision since)
        else s.applyRead k false [])
    | .listed revision _ _ applications => some
        (if revision ≠ s.xswd.revision then s.startRead k else s.applyRead k true applications)
    | _ => none
  | .readFailed k =>
    match s.reads k with
    | .asking .. | .listing .. | .half .. => some (s.setRead k .failed)
    | _ => none
  | .startXswd j => s.startLifecycle j .start
  | .stopXswd j => s.startLifecycle j .stop
  | .addXswdRelayer j id => s.startApplication j id (.relayer id)
  | .closeXswdApplicationSession j application =>
    match s.accepts application, s.application application with
    | some (c, _), some (_, object) => s.startApplication j object.id (.close object.id c)
    | _, _ => none
  | .finished j ok => (s.operations j).map (s.finish j ok)
  | .close =>
    if s.terminal then none else some { s.update s.xswd.invalidateAll with terminal := true }
  | .dispose => if s.terminal then some (s.update s.xswd.invalidateAll) else none
  | .connect application =>
    if application.sessionRef ∈ s.sessions then none
    else some { s with
      connected := s.connected ++ [application]
      sessions := s.sessions ++ [application.sessionRef] }
  | .leave sessionRef =>
    some { s with connected := s.connected.filter fun native => native.sessionRef ≠ sessionRef }
  | .setRunning running => some { s with running }

end Handle

def handles : System Handle Action where
  init s := s = .init
  step s a s' := s.step a = some s'

end XelisWallet.DartXswd
