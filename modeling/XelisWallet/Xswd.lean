import XelisWallet.Payload
import XelisWallet.Registry

/-!
The events that XSWD sends to the wallet, and what the wallet answers.

An application state is an `Arc` and is compared by the identity of its allocation, so it is
named by a number; two states may describe applications with the same id. A sender of a
one-shot channel is named by a number as well. Both are owned by the events that carry them.
-/

namespace XelisWallet.Xswd

open Json Payload Registry

/-- The identity of an `Arc<AppState>`. -/
abbrev App := ℕ

/-- The identity of the sending half of a one-shot channel. -/
abbrev Sender := ℕ

/-- A sender with the type of what it sends. -/
inductive Channel
  | permission (callback : Sender)
  | prefetch (callback : Sender)
  | cancel (callback : Sender)
  deriving DecidableEq, Repr

/-- The part of an `AppState` that does not change. -/
structure AppState where
  id : String
  name : String
  description : String
  url : Option String
  deriving DecidableEq, Repr

inductive Permission
  | ask
  | allow
  | reject
  deriving DecidableEq, Repr

inductive PermissionPolicy
  | ask
  | accept
  | reject
  deriving DecidableEq, Repr

inductive PermissionResult
  | accept
  | reject
  | alwaysAccept
  | alwaysReject
  deriving DecidableEq, Repr

inductive UserPermissionDecision
  | accept
  | reject
  | alwaysAccept
  | alwaysReject
  deriving DecidableEq, Repr

inductive DecisionCallbackOutcome
  | accept
  | reject
  | alwaysAccept
  | alwaysReject
  | invalidPayload
  | timeout
  | exception
  deriving DecidableEq, Repr

inductive NotificationCallbackOutcome
  | completed
  | invalidPayload
  | timeout
  | exception
  deriving DecidableEq, Repr

/-- The static codes that the dispatcher fails a request with. -/
inductive FailureCode
  | handlerClosed
  | handlerOverloaded
  | requestCancelled
  | requestQueueFull
  | payloadProjectionFailed
  | sessionReference (error : SessionReferenceError)
  | callbackPayloadInvalid
  | callbackTimeout
  | callbackException
  | callbackOutcomeInvalid
  deriving DecidableEq, Repr

def FailureCode.text : FailureCode → String
  | .handlerClosed => "XSWD_HANDLER_CLOSED"
  | .handlerOverloaded => "XSWD_HANDLER_OVERLOADED"
  | .requestCancelled => "XSWD_REQUEST_CANCELLED"
  | .requestQueueFull => "XSWD_REQUEST_QUEUE_FULL"
  | .payloadProjectionFailed => "XSWD_PAYLOAD_PROJECTION_FAILED"
  | .sessionReference error => error.code
  | .callbackPayloadInvalid => "XSWD_CALLBACK_PAYLOAD_INVALID"
  | .callbackTimeout => "XSWD_CALLBACK_TIMEOUT"
  | .callbackException => "XSWD_CALLBACK_EXCEPTION"
  | .callbackOutcomeInvalid => "XSWD_CALLBACK_OUTCOME_INVALID"

/-- The names of a prefetch request, and the object that the request serializes to. -/
structure PrefetchPermissions (F : Type) where
  permissions : List String
  serialized : Option (Value F)

/-- An event, each with the application state and, but for a disconnect, the sender of its
answer. A permission request is what it serializes to. -/
inductive XSWDEvent (F : Type)
  | requestApplication (state : App) (callback : Sender)
  | requestPermission (state : App) (request : Option (Value F)) (callback : Sender)
  | prefetchPermissions (state : App) (permissions : PrefetchPermissions F) (callback : Sender)
  | cancelRequest (state : App) (callback : Sender)
  | appDisconnect (state : App)

namespace XSWDEvent

variable {F : Type}

/-- `xswd_event_state`. -/
def state : XSWDEvent F → App
  | .requestApplication state _ | .requestPermission state _ _ | .prefetchPermissions state _ _
  | .cancelRequest state _ | .appDisconnect state => state

/-- The channels that an event is to be answered on, at most one. -/
def channels : XSWDEvent F → List Channel
  | .requestApplication _ callback | .requestPermission _ _ callback => [.permission callback]
  | .prefetchPermissions _ _ callback => [.prefetch callback]
  | .cancelRequest _ callback => [.cancel callback]
  | .appDisconnect _ => []

end XSWDEvent

inductive RequestType (F : Type)
  | application
  | permission (payload : List (Token F))
  | prefetchPermissions (payload : List (Token F))
  | cancelRequest
  | appDisconnect

structure AppInfo where
  sessionRef : ℕ
  id : String
  name : String
  description : String
  url : Option String
  permissions : List (String × PermissionPolicy)
  isRelayer : Bool
  deriving DecidableEq, Repr

structure RequestSummary (F : Type) where
  eventType : RequestType F
  applicationInfo : AppInfo

def Permission.policy : Permission → PermissionPolicy
  | .ask => .ask
  | .allow => .accept
  | .reject => .reject

/-- The permissions are those that the state has when its lock is taken. -/
def createAppInfoWithSessionRef (state : AppState) (permissions : List (String × Permission))
    (isRelayer : Bool) (sessionRef : ℕ) : AppInfo where
  sessionRef := sessionRef
  id := state.id
  name := state.name
  description := state.description
  url := state.url
  permissions := permissions.map fun p => (p.1, p.2.policy)
  isRelayer := isRelayer

/-! ### From the outcome of a callback to the answer -/

def decisionFailureCode : DecisionCallbackOutcome → FailureCode
  | .invalidPayload => .callbackPayloadInvalid
  | .timeout => .callbackTimeout
  | .exception => .callbackException
  | _ => .callbackOutcomeInvalid

def permissionResultFromOutcome : DecisionCallbackOutcome → Except FailureCode PermissionResult
  | .accept => .ok .accept
  | .reject => .ok .reject
  | .alwaysAccept => .ok .alwaysAccept
  | .alwaysReject => .ok .alwaysReject
  | failure => .error (decisionFailureCode failure)

/-- `IndexMap::insert`: a present key keeps its place. -/
def insertIndex (results : List (String × Permission)) (key : String) (value : Permission) :
    List (String × Permission) :=
  if results.any (fun p => p.1 = key) then
    results.map fun p => if p.1 = key then (key, value) else p
  else results ++ [(key, value)]

def UserPermissionDecision.accepted : UserPermissionDecision → Bool
  | .accept | .alwaysAccept => true
  | .reject | .alwaysReject => false

def prefetchPermissionsFromDecision {F : Type} (decision : UserPermissionDecision)
    (permissions : PrefetchPermissions F) : List (String × Permission) :=
  if decision.accepted then
    permissions.permissions.foldl (fun results p => insertIndex results p .allow) []
  else []

/-- What `handle_prefetch_permissions_outcome` sends. -/
def prefetchResultFromOutcome {F : Type} (outcome : DecisionCallbackOutcome)
    (permissions : PrefetchPermissions F) : Except FailureCode (List (String × Permission)) :=
  match outcome with
  | .accept | .alwaysAccept => .ok (prefetchPermissionsFromDecision .accept permissions)
  | .reject | .alwaysReject => .ok []
  | failure => .error (decisionFailureCode failure)

def DecisionCallbackOutcome.grants : DecisionCallbackOutcome → Bool
  | .accept | .alwaysAccept => true
  | _ => false

def PermissionResult.grants : PermissionResult → Bool
  | .accept | .alwaysAccept => true
  | .reject | .alwaysReject => false

lemma permissionResult_grants {o : DecisionCallbackOutcome} {r : PermissionResult}
    (h : permissionResultFromOutcome o = .ok r) : r.grants = o.grants := by
  cases o <;> cases h <;> rfl

lemma mem_insertIndex {results : List (String × Permission)} {key : String}
    (hall : ∀ p ∈ results, p.2 = .allow) (q : String × Permission) :
    q ∈ insertIndex results key .allow ↔ q ∈ results ∨ q = (key, .allow) := by
  unfold insertIndex
  split
  · next hany =>
    obtain ⟨p, hp, hk⟩ := List.any_eq_true.mp hany
    have hkey : (key, Permission.allow) ∈ results := by
      have he : p = (key, .allow) := Prod.ext (by simpa using hk) (hall p hp)
      exact he ▸ hp
    -- every value is already `allow`, so replacing one changes nothing
    have hid : ∀ p ∈ results, (if p.1 = key then (key, Permission.allow) else p) = p := by
      intro p hp
      split
      · next h => exact Prod.ext h.symm (hall p hp).symm
      · rfl
    rw [List.map_congr_left hid, List.map_id']
    constructor
    · exact .inl
    rintro (h | rfl)
    · exact h
    · exact hkey
  · simp

/-- **A granted prefetch** allows exactly the names of the request. -/
theorem mem_prefetchPermissions {F : Type} (permissions : PrefetchPermissions F)
    (q : String × Permission) :
    q ∈ prefetchPermissionsFromDecision .accept permissions ↔
      q.1 ∈ permissions.permissions ∧ q.2 = .allow := by
  obtain ⟨names, ser⟩ := permissions
  suffices h : ∀ results : List (String × Permission), (∀ p ∈ results, p.2 = .allow) →
      (q ∈ names.foldl (fun results p => insertIndex results p .allow) results ↔
        q ∈ results ∨ q.1 ∈ names ∧ q.2 = .allow) by
    simpa [prefetchPermissionsFromDecision, UserPermissionDecision.accepted] using h [] (by simp)
  induction names with
  | nil => simp
  | cons name names ih =>
    intro results hall
    have hall' : ∀ p ∈ insertIndex results name .allow, p.2 = .allow := by
      intro p hp
      obtain h | rfl := (mem_insertIndex hall p).mp hp
      · exact hall p h
      · rfl
    rw [List.foldl_cons, ih _ hall', mem_insertIndex hall, List.mem_cons]
    have hq : q = (name, .allow) ↔ q.1 = name ∧ q.2 = .allow := Prod.ext_iff
    rw [hq]
    tauto

end XelisWallet.Xswd
