import Mathlib.Data.List.Basic
import XelisWallet.Dispatcher

/-!
The requests that a dispatcher holds, and what its queue operations do to them.

Every decision that was received and not yet answered is in one place: with the await in
progress, in the active slot, or in the queue. Read in this order they are the pipeline. The
queue operations are specified by the decisions they keep and the answers they send.
-/

namespace XelisWallet.DispatcherQueue

open Json Xswd Dispatcher

variable {F : Type}

/-- The decision that an event asks for. -/
def eventDecision : XSWDEvent F → Option (Decision F)
  | .requestApplication state callback => some ⟨state, .permission callback, true⟩
  | .requestPermission state _ callback => some ⟨state, .permission callback, false⟩
  | .prefetchPermissions state permissions callback =>
    some ⟨state, .prefetch permissions callback, false⟩
  | .cancelRequest _ _ | .appDisconnect _ => none

def deferredDecision : DeferredEvent F → Option (Decision F)
  | .raw event => eventDecision event
  | .notification _ => none

def activeDecision (a : ActiveCallback F) : Option (Decision F) :=
  match a.kind with
  | .decision response admission => some ⟨a.state, response, admission⟩
  | .notification _ => none

def awaitDecision : Await F → Option (Decision F)
  | .register x _ | .describe x _ _ => some x
  | _ => none

/-- The channel of a cancellation that is not yet acknowledged. -/
def awaitChannel : Await F → List Channel
  | .invalidateCancel _ callback _ => [.cancel callback]
  | _ => []

def queuedDecisions (deferred : List (DeferredEvent F)) : List (Decision F) :=
  deferred.filterMap deferredDecision

/-- The unanswered decisions, oldest first. -/
def pipeline (d : Desk F) : List (Decision F) :=
  (awaitDecision d.await).toList ++ (d.active.bind activeDecision).toList
    ++ queuedDecisions d.deferred

/-- The channels that the dispatcher owes an answer. -/
def held (d : Desk F) : List Channel :=
  awaitChannel d.await ++ (pipeline d).map Decision.channel

/-- The channels that an entry answers on. -/
def answers : Entry F → List Channel
  | .permission callback _ => [.permission callback]
  | .prefetch callback _ => [.prefetch callback]
  | .acknowledged callback => [.cancel callback]
  | _ => []

/-- An element of the queue is a decision request or a prepared notification. -/
def Deferrable (e : DeferredEvent F) : Prop :=
  (∃ n, e = .notification n) ∨ ∃ event x, e = .raw event ∧ eventDecision event = some x

@[simp] lemma queuedDecisions_nil : queuedDecisions ([] : List (DeferredEvent F)) = [] := rfl

@[simp] lemma queuedDecisions_append (l₁ l₂ : List (DeferredEvent F)) :
    queuedDecisions (l₁ ++ l₂) = queuedDecisions l₁ ++ queuedDecisions l₂ :=
  List.filterMap_append ..

lemma queuedDecisions_cons (e : DeferredEvent F) (l : List (DeferredEvent F)) :
    queuedDecisions (e :: l) = (deferredDecision e).toList ++ queuedDecisions l := by
  simp only [queuedDecisions, List.filterMap_cons]
  cases deferredDecision e <;> rfl

@[simp] lemma deferredDecision_notification (n : PreparedNotification F) :
    deferredDecision (.notification n) = none := rfl

@[simp] lemma deferredDecision_raw (event : XSWDEvent F) :
    deferredDecision (.raw event) = eventDecision event := rfl

/-! ### Answers -/

@[simp] lemma answers_fail (code : FailureCode) (r : PendingResponse F) :
    answers (r.fail code) = [r.channel] := by
  cases r <;> rfl

@[simp] lemma answers_complete (o : DecisionCallbackOutcome) (r : PendingResponse F) :
    answers (r.complete o) = [r.channel] := by
  cases r <;> rfl

@[simp] lemma event_complete (o : DecisionCallbackOutcome) (r : PendingResponse F) :
    (r.complete o).event = none := by
  cases r <;> rfl

variable {event : XSWDEvent F} {x : Decision F} {q : List (DeferredEvent F)}

lemma channels_of_eventDecision (h : eventDecision event = some x) :
    event.channels = [x.channel] := by
  cases event <;> cases h <;> rfl

lemma state_of_eventDecision (h : eventDecision event = some x) : event.state = x.state := by
  cases event <;> cases h <;> rfl

lemma failDeferredEvent_decision {e : DeferredEvent F} (h : deferredDecision e = some x)
    (code : FailureCode) : failDeferredEvent code e = [x.response.fail code] := by
  rcases e with (_ | _ | _ | _ | _) | _ <;> cases h <;> rfl

/-! ### Cancelling the decisions of a state -/

/-- The queue without the decisions of a state. -/
def kept (state : App) (q : List (DeferredEvent F)) : List (DeferredEvent F) :=
  q.filter fun e => (deferredDecision e).all (fun x => x.state ≠ state)

/-- The answers to the queued decisions of a state when they are cancelled. -/
def cancelledAnswers (state : App) (q : List (DeferredEvent F)) : List (Entry F) :=
  ((queuedDecisions q).filter (fun x => x.state = state)).map
    fun x => x.response.fail .requestCancelled

/-- Whether an admission of a state is queued. -/
def queuesAdmission (state : App) (q : List (DeferredEvent F)) : Bool :=
  (queuedDecisions q).any fun x => x.state = state && x.isApplicationAdmission

/-- **What `cancel_deferred_xswd_decisions` does**: exactly the queued decisions of the state
leave, in order, each answered as cancelled. -/
theorem cancelDeferredDecisions_eq (state : App) (q : List (DeferredEvent F)) :
    cancelDeferredDecisions state q
      = (queuesAdmission state q, kept state q, cancelledAnswers state q) := by
  unfold queuesAdmission kept cancelledAnswers
  induction q with
  | nil => rfl
  | cons e q ih =>
    rw [cancelDeferredDecisions, ih, queuedDecisions_cons]
    obtain (⟨s, c⟩ | ⟨s, r, c⟩ | ⟨s, p, c⟩ | ⟨s, c⟩ | ⟨s⟩) | n := e
    case raw.requestApplication | raw.requestPermission | raw.prefetchPermissions =>
      by_cases hs : s = state
      · simp [deferredDecision, eventDecision, hs]; rfl
      · simp [deferredDecision, eventDecision, hs]
    case raw.cancelRequest | raw.appDisconnect | notification =>
      simp [deferredDecision, eventDecision]

lemma kept_sublist (state : App) (q : List (DeferredEvent F)) : (kept state q).Sublist q :=
  List.filter_sublist

@[simp] lemma queuedDecisions_kept (state : App) (q : List (DeferredEvent F)) :
    queuedDecisions (kept state q) = (queuedDecisions q).filter (fun x => x.state ≠ state) := by
  unfold kept
  induction q with
  | nil => rfl
  | cons e q ih =>
    rw [List.filter_cons, queuedDecisions_cons, List.filter_append, ← ih]
    rcases hd : deferredDecision e with _ | x
    · simp [hd, queuedDecisions_cons]
    · by_cases hs : x.state = state <;> simp [hd, hs, queuedDecisions_cons]

lemma length_kept_lt {state : App} (h : queuesAdmission state q = true) :
    (kept state q).length < q.length := by
  obtain ⟨x, hx, hs⟩ := List.any_eq_true.mp h
  obtain ⟨e, he, hd⟩ := List.mem_filterMap.mp hx
  unfold kept
  rw [List.length_filter_lt_length_iff_exists]
  refine ⟨e, he, ?_⟩
  simp only [Bool.and_eq_true, decide_eq_true_eq] at hs
  simp [hd, hs.1]

/-! ### Deferring -/

/-- **What `defer_xswd_decision` does** with a decision: it is queued, or answered at once
when the queue is full. -/
theorem deferDecision_eq (h : eventDecision event = some x) (q : List (DeferredEvent F)) :
    deferDecision q event =
      if q.length < maxDeferredEvents then (q ++ [.raw event], [])
      else (q, [x.response.fail .requestQueueFull]) := by
  unfold deferDecision
  split
  · rfl
  · cases event <;> cases h <;> rfl

/-- The four ways in which `defer_xswd_disconnect` makes room for a notification. -/
inductive Deferral (q : List (DeferredEvent F)) (active : Option (ActiveCallback F))
    (n : PreparedNotification F) :
    Option (PreparedNotification F) × List (DeferredEvent F) × List (Entry F) → Prop
  /-- A disconnect of the state is queued or active already. -/
  | coalesced
      (h : active.any (·.isDisconnectFor n.state) ∨ q.any (isDeferredDisconnectFor n.state)) :
      Deferral q active n (none, q, [])
  | queued (h : q.length < maxDeferredEvents)
      (hn : ¬ active.any (·.isDisconnectFor n.state) ∧ ¬ q.any (isDeferredDisconnectFor n.state)) :
      Deferral q active n (none, q ++ [.notification n], [])
  /-- The oldest decision is evicted. -/
  | evicted (l r : List (DeferredEvent F)) (e : DeferredEvent F) (x : Decision F)
      (hq : q = l ++ e :: r) (hl : queuedDecisions l = []) (hx : deferredDecision e = some x)
      (hfull : q.length = maxDeferredEvents)
      (hn : ¬ active.any (·.isDisconnectFor n.state) ∧ ¬ q.any (isDeferredDisconnectFor n.state)) :
      Deferral q active n
        (none, l ++ r ++ [.notification n], [x.response.fail .requestQueueFull])
  /-- The oldest notification is to be started. -/
  | saturated (next : PreparedNotification F) (r : List (DeferredEvent F))
      (hq : q = .notification next :: r) (hr : queuedDecisions r = [])
      (hfull : q.length = maxDeferredEvents)
      (hn : ¬ active.any (·.isDisconnectFor n.state) ∧ ¬ q.any (isDeferredDisconnectFor n.state)) :
      Deferral q active n (some next, r ++ [.notification n], [])

lemma isDecisionEvent_iff (e : DeferredEvent F) :
    isDecisionEvent e = (deferredDecision e).isSome := by
  rcases e with (_ | _ | _ | _ | _) | _ <;> rfl

lemma queuedDecisions_eq_nil : queuedDecisions q = [] ↔ ∀ e ∈ q, deferredDecision e = none := by
  simp [queuedDecisions, List.filterMap_eq_nil_iff]

/-- **What `defer_xswd_disconnect` does** to a queue of the right contents. -/
theorem deferDisconnect_cases (hlen : q.length ≤ maxDeferredEvents) (hq : ∀ e ∈ q, Deferrable e)
    (active : Option (ActiveCallback F)) (n : PreparedNotification F) :
    Deferral q active n (deferDisconnect q active n) := by
  unfold deferDisconnect
  dsimp only
  by_cases hn : (active.any (·.isDisconnectFor n.state)
      || q.any (isDeferredDisconnectFor n.state)) = true
  · rw [if_pos hn]
    exact .coalesced (by simpa using hn)
  rw [if_neg hn]
  replace hn : ¬ active.any (·.isDisconnectFor n.state)
      ∧ ¬ q.any (isDeferredDisconnectFor n.state) := by simpa using hn
  by_cases hroom : maxDeferredEvents ≤ q.length
  · rw [if_pos hroom]
    have hfull : q.length = maxDeferredEvents := by omega
    rcases hf : q.findIdx? isDecisionEvent with _ | i
    · -- no decision to evict: the front is a notification, by what the queue may hold
      have hnone : ∀ e ∈ q, deferredDecision e = none := by
        intro e he
        have := List.findIdx?_eq_none_iff.mp hf e he
        rw [isDecisionEvent_iff] at this
        simpa using this
      obtain _ | ⟨e, r⟩ := q
      · simp [maxDeferredEvents] at hfull
      obtain ⟨next, rfl⟩ | ⟨event, x, rfl, hx⟩ := hq e (by simp)
      · refine .saturated next r rfl ?_ hfull hn
        exact queuedDecisions_eq_nil.mpr fun e he => hnone e (by simp [he])
      have := hnone _ (List.mem_cons_self ..)
      rw [deferredDecision_raw, hx] at this
      cases this
    · obtain ⟨hi, hdec, hbefore⟩ := List.findIdx?_eq_some_iff_getElem.mp hf
      rw [isDecisionEvent_iff] at hdec
      obtain ⟨x, hx⟩ := Option.isSome_iff_exists.mp hdec
      have hshort : (q.eraseIdx i).length < maxDeferredEvents := by
        rw [List.length_eraseIdx_of_lt hi]
        omega
      have hsplit : q = q.take i ++ q[i] :: q.drop (i + 1) := by
        rw [List.getElem_cons_drop hi, List.take_append_drop]
      have herase : q.eraseIdx i = q.take i ++ q.drop (i + 1) := List.eraseIdx_eq_take_drop_succ ..
      rw [herase] at hshort
      simp only [herase, hshort, if_true, List.getElem?_eq_getElem hi, Option.map_some,
        Option.getD_some, failDeferredEvent_decision hx]
      refine .evicted _ _ q[i] x hsplit ?_ hx hfull hn
      rw [queuedDecisions_eq_nil]
      intro e he
      obtain ⟨j, hj, rfl⟩ := List.mem_take_iff_getElem.mp he
      have := hbefore j (by omega)
      rw [isDecisionEvent_iff] at this
      simpa using this
  · rw [if_neg hroom]
    exact .queued (by omega) hn

/-! ### The branches of the loop -/

/-- Whether cancelling the requests of a state cancels an admission of it. -/
def cancelsAdmission (d : Desk F) (state : App) : Bool :=
  queuesAdmission state d.deferred
    || (d.active.any (·.isDecisionFor state) && d.active.any (·.isApplicationAdmission))

/-- The queued decisions of a state are cancelled. -/
@[simps] def cancelQueued (state : App) (d : Desk F) : Desk F :=
  { d with
    deferred := kept state d.deferred
    log := d.log ++ cancelledAnswers state d.deferred }

/-- What becomes of an event that is received while a callback is active. -/
inductive Busied (d : Desk F) : XSWDEvent F → Desk F → Prop
  | queued {event : XSWDEvent F} {x : Decision F} (hx : eventDecision event = some x)
      (hroom : d.deferred.length < maxDeferredEvents) :
      Busied d event { d with deferred := d.deferred ++ [.raw event] }
  | refused {event : XSWDEvent F} {x : Decision F} (hx : eventDecision event = some x) :
      Busied d event (d.emit [x.response.fail .requestQueueFull])
  /-- An admission is cancelled: its state is invalidated first. -/
  | invalidates (s : App) (c : Sender) (hadm : cancelsAdmission d s = true) :
      Busied d (.cancelRequest s c)
        ((cancelQueued s d).wait (.invalidateCancel s c (d.active.any (·.isDecisionFor s))))
  | acknowledges (s : App) (c : Sender) (hadm : ¬ cancelsAdmission d s = true) :
      Busied d (.cancelRequest s c)
        ((cancelQueued s d).acknowledgeCancel s c (d.active.any (·.isDecisionFor s)) false)
  | disconnects (s : App) :
      Busied d (.appDisconnect s)
        ((cancelQueued s d).wait (.invalidateDisconnect s (d.active.any (·.isDecisionFor s))))

/-- **What a busy dispatcher does with an event.** -/
theorem busied (d : Desk F) (event : XSWDEvent F) : Busied d event (d.busyEvent event) := by
  rcases hx : eventDecision event with _ | x
  · cases event with
    | cancelRequest s c =>
      change Busied d _ (d.cancelRequest s c)
      unfold Desk.cancelRequest
      rw [cancelDeferredDecisions_eq]
      dsimp only
      split
      · next hadm => exact .invalidates s c hadm
      · next hadm => exact .acknowledges s c hadm
    | appDisconnect s =>
      change Busied d _ (d.appDisconnect s)
      unfold Desk.appDisconnect
      rw [cancelDeferredDecisions_eq]
      exact .disconnects s
    | requestApplication | requestPermission | prefetchPermissions => cases hx
  · have hb : d.busyEvent event = { d.emit (deferDecision d.deferred event).2 with
          deferred := (deferDecision d.deferred event).1 } := by
      cases event <;> first | rfl | cases hx
    rw [hb, deferDecision_eq hx]
    split
    · next hroom =>
      simp only [Desk.emit, List.append_nil]
      exact .queued hx hroom
    · exact .refused hx

/-- What becomes of a prepared notification, by the branch that prepared it. -/
inductive Routed (d : Desk F) (n : PreparedNotification F) : Route → Desk F → Prop
  | starts (route : Route) (h : route = .idle ∨ route = .cancel true ∨ route = .disconnect true) :
      Routed d n route (d.start n)
  | queues (h : d.deferred.length < maxDeferredEvents) :
      Routed d n (.cancel false)
        { d with deferred := d.deferred ++ [.notification n], await := .loop }
  | abandons (h : ¬ d.deferred.length < maxDeferredEvents) :
      Routed d n (.cancel false) ((d.emit [.abandoned n .requestQueueFull]).wait .loop)
  | defers (q : List (DeferredEvent F)) (sent : List (Entry F))
      (h : Deferral d.deferred d.active n (none, q, sent)) :
      Routed d n (.disconnect false) { d with deferred := q, log := d.log ++ sent, await := .loop }
  /-- The active callback is an admission: its state is invalidated first. -/
  | waits (next : PreparedNotification F) (q : List (DeferredEvent F)) (a : ActiveCallback F)
      (h : Deferral d.deferred d.active n (some next, q, [])) (ha : d.active = some a)
      (hadm : a.isApplicationAdmission = true) :
      Routed d n (.disconnect false)
        (({ d with deferred := q }).wait (.invalidateOverload a.state next))
  | overloads (next : PreparedNotification F) (q : List (DeferredEvent F))
      (h : Deferral d.deferred d.active n (some next, q, []))
      (hadm : d.active.any (·.isApplicationAdmission) = false) :
      Routed d n (.disconnect false) (({ d with deferred := q }).overload next)

lemma Deferral.sent_nil {r : List (DeferredEvent F)} {act : Option (ActiveCallback F)}
    {n next : PreparedNotification F} {sent : List (Entry F)}
    (h : Deferral q act n (some next, r, sent)) : sent = [] := by
  cases h
  rfl

/-- **What each branch does with the notification it prepared.** -/
theorem routed_cases {d : Desk F} (hlen : d.deferred.length ≤ maxDeferredEvents)
    (hq : ∀ e ∈ d.deferred, Deferrable e) (route : Route) (n : PreparedNotification F) :
    Routed d n route (d.route route (some n)) := by
  obtain _ | (_ | _) | (_ | _) := route
  · exact .starts .idle (by simp)
  · unfold Desk.route
    dsimp only
    split
    · next h => exact .queues h
    · next h => exact .abandons h
  · exact .starts (.cancel true) (by simp)
  · have hd := deferDisconnect_cases hlen hq d.active n
    rcases hr : deferDisconnect d.deferred d.active n with ⟨_ | next, q, sent⟩ <;> rw [hr] at hd
    · simp only [Desk.route, hr]
      exact .defers q sent hd
    obtain rfl := hd.sent_nil
    have hemit : d.emit [] = d := by simp [Desk.emit]
    simp only [Desk.route, hr, hemit]
    split
    · next a ha =>
      obtain ⟨hact, hadm⟩ := Option.filter_eq_some_iff.mp ha
      exact .waits next q a hd hact hadm
    · next ha =>
      refine .overloads next q hd ?_
      rw [Option.filter_eq_none_iff] at ha
      rcases hact : d.active with _ | a
      · rfl
      · simpa using ha a hact
  · exact .starts (.disconnect true) (by simp)

/-- What becomes of an event that is received while idle. -/
inductive Prepared (d : Desk F) : XSWDEvent F → Desk F → Prop
  | registers {event : XSWDEvent F} {x : Decision F} (t : RequestType F)
      (hx : eventDecision event = some x) : Prepared d event (d.wait (.register x t))
  | refused {event : XSWDEvent F} {x : Decision F} (hx : eventDecision event = some x) :
      Prepared d event ((d.emit [x.response.fail .payloadProjectionFailed]).wait .loop)
  | acknowledges (s : App) (c : Sender) : Prepared d (.cancelRequest s c)
      ((d.emit [.acknowledged c]).wait (.project s .cancelRequest false .idle))
  | invalidates (s : App) : Prepared d (.appDisconnect s) (d.wait (.invalidateIdle s))

/-- **What an idle dispatcher does with an event.** -/
theorem prepared [Double F] (cfg : Config) (d : Desk F) (event : XSWDEvent F) :
    Prepared d event (d.prepare cfg event) := by
  cases event with
  | requestApplication => exact .registers _ rfl
  | requestPermission state request callback =>
    unfold Desk.prepare
    dsimp only
    split
    · exact .registers _ rfl
    · refine .refused (x := ⟨state, .permission callback, false⟩) ?_
      rfl
  | prefetchPermissions state permissions callback =>
    unfold Desk.prepare
    dsimp only
    split
    · exact .registers _ rfl
    · refine .refused (x := ⟨state, .prefetch permissions callback, false⟩) ?_
      rfl
  | cancelRequest s c => exact .acknowledges s c
  | appDisconnect s => exact .invalidates s

lemma Prepared.slots {d d' : Desk F} (h : Prepared d event d') :
    d'.deferred = d.deferred ∧ d'.active = d.active ∧ d'.observed = d.observed := by
  cases h <;> exact ⟨rfl, rfl, rfl⟩

end XelisWallet.DispatcherQueue
