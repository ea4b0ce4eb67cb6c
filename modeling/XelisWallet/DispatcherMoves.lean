import Mathlib.Data.List.Perm.Basic
import XelisWallet.DispatcherShape

/-!
What a turn does to the requests that the dispatcher holds.

The load of a channel counts the answers on it and the places where it is held. A turn adds to
the loads exactly what it receives, and it moves the decisions of the pipeline without
changing their order.
-/

namespace XelisWallet.DispatcherMoves

open Json Xswd Dispatcher DispatcherQueue DispatcherTurns DispatcherShape Desk

variable {F : Type}

/-! ### The log -/

/-- An entry that neither receives, nor calls for a decision or records its outcome, nor answers
with a result, nor gives up the notification of a cancelled admission before the handler
closes. -/
def Plain : Entry F → Prop
  | .received _ | .called _ _ | .returned _ _ | .permission _ (.ok _) | .prefetch _ (.ok _) => False
  | .abandoned n code => code = .handlerClosed ∨ n.cancelledApplicationAdmission = false
  | _ => True

/-- A plain entry that calls nothing. -/
def Tacit : Entry F → Prop
  | .notified _ => False
  | e => Plain e

/-- The entries with which a callback is over. -/
def Ends (a : ActiveCallback F) (e : Entry F) : Prop :=
  match a.kind with
  | .decision response _ => response.channel ∈ answers e
  | .notification kind =>
      (∃ outcome, e = .returned .notification outcome) ∨ ∃ code, e = .interrupted kind code

/-- An entry that calls a callback, and the callback. -/
def callback : Entry F → Option (ActiveCallback F)
  | .called x _ =>
    some ⟨x.state, .decision x.response x.isApplicationAdmission, .decision x.channel⟩
  | .notified n => some ⟨n.state, .notification n.kind, .notification⟩
  | _ => none

/-- Callbacks one at a time: from what is active, entries that end it before they call the
next. -/
inductive Serves : Option (ActiveCallback F) → List (Entry F) → Option (ActiveCallback F) → Prop
  | nil (act : Option (ActiveCallback F)) : Serves act [] act
  | other {act act' : Option (ActiveCallback F)} {e : Entry F} {sent : List (Entry F)}
      (he : callback e = none) (h : Serves act sent act') : Serves act (e :: sent) act'
  | ends {a : ActiveCallback F} {act' : Option (ActiveCallback F)} {e : Entry F}
      {sent : List (Entry F)} (he : callback e = none) (hend : Ends a e)
      (h : Serves none sent act') : Serves (some a) (e :: sent) act'
  | calls {a : ActiveCallback F} {act' : Option (ActiveCallback F)} {e : Entry F}
      {sent : List (Entry F)} (he : callback e = some a) (h : Serves (some a) sent act') :
      Serves none (e :: sent) act'

/-- One desk follows another by plain entries, with one callback at a time. -/
def Follows (d d' : Desk F) : Prop :=
  ∃ sent, d'.log = d.log ++ sent ∧ (∀ e ∈ sent, Plain e) ∧ Serves d.active sent d'.active

variable {d d₁ d₂ d₃ : Desk F}

@[simp] lemma receivedEvents_append (l₁ l₂ : List (Entry F)) :
    receivedEvents (l₁ ++ l₂) = receivedEvents l₁ ++ receivedEvents l₂ :=
  List.filterMap_append ..

variable {sent : List (Entry F)} {e : Entry F} {act : Option (ActiveCallback F)}
  {q : List (DeferredEvent F)} {event : XSWDEvent F} {n : PreparedNotification F}
  {r : Option (PreparedNotification F) × List (DeferredEvent F) × List (Entry F)}
  {kind : NotificationKind} {admission : Bool} {route : Route} {d' : Desk F}
  {new : Option (XSWDEvent F)}

lemma receivedEvents_plain (h : ∀ e ∈ sent, Plain e) : receivedEvents sent = [] := by
  refine List.filterMap_eq_nil_iff.mpr fun e he => ?_
  have := h e he
  cases e <;> first | rfl | exact this.elim

lemma Tacit.plain (h : Tacit e) : Plain e := by
  cases e <;> first | exact h | exact h.elim

lemma Tacit.callback_eq (h : Tacit e) : callback e = none := by
  cases e <;> first | rfl | exact h.elim

lemma Serves.append {a b c : Option (ActiveCallback F)} {s t : List (Entry F)}
    (h : Serves a s b) (h' : Serves b t c) : Serves a (s ++ t) c := by
  induction h with
  | nil => exact h'
  | other he _ ih => exact .other he (ih h')
  | ends he hend _ ih => exact .ends he hend (ih h')
  | calls he _ ih => exact .calls he (ih h')

lemma serves_of_others (h : ∀ e ∈ sent, callback e = none) : Serves act sent act := by
  induction sent with
  | nil => exact .nil act
  | cons e sent ih => exact .other (h e (by simp)) (ih fun e' he' => h e' (by simp [he']))

lemma Serves.last {act' : Option (ActiveCallback F)} (h : Serves act sent act') :
    act' = none ∨ act' = act ∨ ∃ e ∈ sent, callback e = act' := by
  induction h with
  | nil => exact .inr (.inl rfl)
  | other _ _ ih =>
    exact ih.imp_right (Or.imp_right fun ⟨e, he, hc⟩ => ⟨e, List.mem_cons_of_mem _ he, hc⟩)
  | ends _ _ _ ih =>
    obtain hn | hn | ⟨e, he, hc⟩ := ih
    · exact .inl hn
    · exact .inl hn
    · exact .inr (.inr ⟨e, List.mem_cons_of_mem _ he, hc⟩)
  | @calls a act' e sent he _ ih =>
    obtain hn | rfl | ⟨e', he', hc⟩ := ih
    · exact .inl hn
    · exact .inr (.inr ⟨e, by simp, he⟩)
    · exact .inr (.inr ⟨e', List.mem_cons_of_mem _ he', hc⟩)

lemma follows_of_sent (h : d₂.log = d₁.log ++ sent) (ha : d₂.active = d₁.active)
    (hs : ∀ e ∈ sent, Tacit e) : Follows d₁ d₂ := by
  refine ⟨sent, h, fun e he => (hs e he).plain, ?_⟩
  rw [ha]
  exact serves_of_others fun e he => (hs e he).callback_eq

lemma follows_of_log (h : d₂.log = d₁.log) (ha : d₂.active = d₁.active) : Follows d₁ d₂ := by
  have hlog : d₂.log = d₁.log ++ [] := by simpa using h
  exact follows_of_sent hlog ha (by simp)

lemma follows_of_entry (h : d₂.log = d₁.log ++ [e]) (ha : d₂.active = d₁.active) (he : Tacit e) :
    Follows d₁ d₂ :=
  follows_of_sent h ha (by simpa using he)

lemma Follows.trans (h₁ : Follows d₁ d₂) (h₂ : Follows d₂ d₃) : Follows d₁ d₃ := by
  obtain ⟨s₁, e₁, q₁, c₁⟩ := h₁
  obtain ⟨s₂, e₂, q₂, c₂⟩ := h₂
  refine ⟨s₁ ++ s₂, by rw [e₂, e₁, List.append_assoc], fun e he => ?_, c₁.append c₂⟩
  obtain h | h := List.mem_append.mp he
  · exact q₁ e h
  · exact q₂ e h

lemma tacit_fail (code : FailureCode) (r : PendingResponse F) : Tacit (r.fail code) := by
  cases r <;> trivial

lemma tacit_cancelledAnswers {state : App} : ∀ e ∈ cancelledAnswers state q, Tacit e := by
  intro e he
  obtain ⟨x, -, rfl⟩ := List.mem_map.mp he
  exact tacit_fail ..

lemma tacit_failDeferredEvents : ∀ e ∈ failDeferredEvents .handlerClosed q, Tacit e := by
  intro e he
  obtain ⟨x, -, hx⟩ := List.mem_flatMap.mp he
  rcases x with (_ | _ | _ | _ | _) | _ <;>
    simp only [failDeferredEvent, List.mem_singleton, List.not_mem_nil] at hx <;>
    subst hx <;> first | trivial | exact .inl rfl

lemma cancelActive_eq (d : Desk F) : d.cancelActive = d.failActive .requestCancelled := by
  unfold cancelActive failActive ActiveCallback.cancel ActiveCallback.fail
  rfl

lemma follows_failActive (code : FailureCode) (d : Desk F) : Follows d (d.failActive code) := by
  unfold failActive
  split
  · next a ha =>
    obtain ⟨state, response | kind, future⟩ := a
    · have ht := tacit_fail code response
      refine ⟨[response.fail code], rfl, by simpa using ht.plain, ?_⟩
      rw [ha]
      exact .ends ht.callback_eq (by simp [Ends]) (.nil _)
    · refine ⟨[.interrupted kind code], rfl, by simp [Plain], ?_⟩
      rw [ha]
      exact .ends rfl (.inr ⟨code, rfl⟩) (.nil _)
  · exact follows_of_log rfl rfl

lemma follows_start (h : d.active = none) (n : PreparedNotification F) : Follows d (d.start n) := by
  refine ⟨[.notified n], rfl, by simp [Plain], ?_⟩
  rw [h]
  exact .calls rfl (.nil _)

lemma follows_overload (d : Desk F) (next : PreparedNotification F) :
    Follows d (d.overload next) :=
  (follows_failActive _ d).trans (follows_start (failActive_active ..) next)

lemma follows_acknowledgeCancel (d : Desk F) (state : App) (callback : Sender)
    (b admission : Bool) : Follows d (d.acknowledgeCancel state callback b admission) := by
  have hack : ∀ d : Desk F, Follows d ((d.emit [.acknowledged callback]).wait
      (.project state .cancelRequest admission (.cancel b))) :=
    fun d => follows_of_entry rfl rfl trivial
  cases b with
  | true =>
    refine Follows.trans ?_ (hack _)
    rw [if_pos rfl, cancelActive_eq]
    exact follows_failActive ..
  | false => exact hack d

lemma follows_busied (hb : Busied d event d₁) : Follows d d₁ := by
  cases hb with
  | queued => exact follows_of_log rfl rfl
  | refused => exact follows_of_entry rfl rfl (tacit_fail ..)
  | invalidates | disconnects => exact follows_of_sent rfl rfl tacit_cancelledAnswers
  | acknowledges s =>
    have hcancelled : Follows d (cancelQueued s d) := follows_of_sent rfl rfl tacit_cancelledAnswers
    exact hcancelled.trans (follows_acknowledgeCancel ..)

lemma Deferral.tacit (h : Deferral q act n r) : ∀ e ∈ r.2.2, Tacit e := by
  cases h with
  | coalesced | queued | saturated => simp
  | evicted l r e x hq hl hx hfull hn => simpa using tacit_fail ..

lemma RouteOk.inactive (hok : RouteOk d.deferred d.active kind admission route)
    (hroute : route = .idle ∨ route = .cancel true ∨ route = .disconnect true) :
    d.active = none := by
  obtain rfl | rfl | rfl := hroute
  · exact hok.1
  · exact hok.2.1 rfl
  · exact hok.2.2 rfl

lemma follows_routed {state : App} (hok : RouteOk d.deferred d.active kind admission route)
    (hn : IsNotice state kind admission n) (hr : Routed d n route d') : Follows d d' := by
  cases hr with
  | starts route hroute => exact follows_start (RouteOk.inactive hok hroute) n
  | queues | waits => exact follows_of_log rfl rfl
  | abandons hfull =>
    -- a cancelled admission has left room
    have hadm : admission = false := by
      by_contra hne
      exact hfull (hok.2.2 (by simpa using hne) rfl)
    refine follows_of_entry (e := .abandoned n .requestQueueFull) rfl rfl (.inr ?_)
    rw [hn.2.2, hadm]
    rfl
  | defers q sent hd => exact follows_of_sent rfl rfl (Deferral.tacit hd)
  | overloads next q => exact follows_overload { d with deferred := q } next

lemma follows_finish (d : Desk F) (busy : Bool) : Follows d (d.finish busy) := by
  cases busy with
  | false => exact follows_of_log rfl rfl
  | true =>
    exact (follows_failActive .handlerClosed d).trans
      (follows_of_sent rfl rfl tacit_failDeferredEvents)

lemma follows_prepared (hp : Prepared d event d₁) : Follows d d₁ := by
  cases hp with
  | registers | invalidates => exact follows_of_log rfl rfl
  | refused => exact follows_of_entry rfl rfl (tacit_fail ..)
  | acknowledges s c => exact follows_of_entry (e := .acknowledged c) rfl rfl trivial

/-! ### Loads -/

/-- How often a channel has been answered on. -/
def answered (c : Channel) (log : List (Entry F)) : ℕ := (log.flatMap answers).count c

/-- The answers on a channel, and its decision in the active slot or the queue. -/
def slotLoad (c : Channel) (d : Desk F) : ℕ :=
  answered c d.log + ((d.active.bind activeDecision).toList.map Decision.channel).count c
    + ((queuedDecisions d.deferred).map Decision.channel).count c

/-- A channel that the await in progress is to answer on. -/
def awaitLoad (c : Channel) (aw : Await F) : ℕ :=
  (awaitChannel aw).count c + ((awaitDecision aw).toList.map Decision.channel).count c

lemma load_eq (c : Channel) (d : Desk F) :
    answered c d.log + (held d).count c = slotLoad c d + awaitLoad c d.await := by
  simp only [held, pipeline, slotLoad, awaitLoad, List.map_append, List.count_append]
  omega

variable {c : Channel}

@[simp] lemma answered_append (l₁ l₂ : List (Entry F)) :
    answered c (l₁ ++ l₂) = answered c l₁ + answered c l₂ := by
  simp [answered]

lemma answered_fail (code : FailureCode) (x : Decision F) :
    answered c [x.response.fail code] = [x.channel].count c := by
  simp [answered, Decision.channel]

@[simp] lemma slotLoad_wait (aw : Await F) : slotLoad c (d.wait aw) = slotLoad c d := rfl

@[simp] lemma slotLoad_emit (sent : List (Entry F)) :
    slotLoad c (d.emit sent) = slotLoad c d + answered c sent := by
  simp only [slotLoad, emit, answered_append]
  omega

lemma answered_activeFail (code : FailureCode) (a : ActiveCallback F) :
    answered c (a.fail code) = ((activeDecision a).toList.map Decision.channel).count c := by
  obtain ⟨state, kind, future⟩ := a
  cases kind with
  | decision response admission => exact answered_fail code ⟨state, response, admission⟩
  | notification => rfl

@[simp] lemma slotLoad_failActive (code : FailureCode) :
    slotLoad c (d.failActive code) = slotLoad c d := by
  unfold failActive
  split
  · next a ha =>
    simp only [slotLoad, emit, answered_append, ha, answered_activeFail, Option.bind_none,
      Option.bind_some, Option.toList_none, List.map_nil, List.count_nil]
    omega
  · rfl

lemma slotLoad_cancelQueued (state : App) : slotLoad c (cancelQueued state d) = slotLoad c d := by
  have hans : answered c (cancelledAnswers state d.deferred) =
      (((queuedDecisions d.deferred).filter (fun x => x.state = state)).map
        Decision.channel).count c
      := by
    simp only [answered, cancelledAnswers, List.flatMap_map, answers_fail]
    rw [List.map_eq_flatMap]
    rfl
  have hsplit := ((List.filter_append_perm (fun x : Decision F => decide (x.state = state))
    (queuedDecisions d.deferred)).map Decision.channel).count_eq c
  simp only [slotLoad, cancelQueued, answered_append, hans, queuedDecisions_kept, List.map_append,
    List.count_append, ne_eq, decide_not] at hsplit ⊢
  omega

lemma slotLoad_acknowledgeCancel (state : App) (callback : Sender) (b admission : Bool) :
    slotLoad c (d.acknowledgeCancel state callback b admission)
      = slotLoad c d + [Channel.cancel callback].count c := by
  unfold acknowledgeCancel
  cases b <;> simp [cancelActive_eq, answered, answers]

lemma slotLoad_start (h : d.active = none) (n : PreparedNotification F) :
    slotLoad c (d.start n) = slotLoad c d := by
  simp [slotLoad, start, emit, h, activeDecision, answered, answers]

lemma slotLoad_overload (next : PreparedNotification F) :
    slotLoad c (d.overload next) = slotLoad c d := by
  unfold overload
  rw [slotLoad_start (failActive_active ..), slotLoad_failActive]

lemma Deferral.count (h : Deferral q act n r) :
    ((queuedDecisions r.2.1).map Decision.channel).count c + answered c r.2.2
      = ((queuedDecisions q).map Decision.channel).count c := by
  cases h with
  | coalesced => rfl
  | queued => simp [answered, queuedDecisions_cons]
  | evicted l r e x hq hl hx =>
    simp only [hq, hl, hx, queuedDecisions_append, queuedDecisions_cons, answered_fail,
      deferredDecision_notification, Option.toList_none, Option.toList_some, List.map_append,
      List.count_append, queuedDecisions_nil, List.map_nil, List.count_nil, List.map_cons]
    omega
  | saturated next r hq hr => simp [hq, hr, queuedDecisions_cons, answered]

lemma slotLoad_routed (hok : RouteOk d.deferred d.active kind admission route)
    (hr : Routed d n route d') : slotLoad c d' = slotLoad c d := by
  cases hr with
  | starts route hroute => exact slotLoad_start (RouteOk.inactive hok hroute) n
  | queues => simp [slotLoad, queuedDecisions_cons]
  | abandons => simp [answered, answers]
  | defers q sent hd =>
    have hcount := Deferral.count (c := c) hd
    simp only [slotLoad, answered_append] at hcount ⊢
    omega
  | waits next q a hd | overloads next q hd =>
    have hcount := Deferral.count (c := c) hd
    have hq : slotLoad c { d with deferred := q } = slotLoad c d := by
      simp only [slotLoad]
      exact congrArg _ hcount
    first
      | exact hq
      | rw [slotLoad_overload, hq]

lemma await_routed (hr : Routed d n route d') :
    awaitChannel d'.await = [] ∧ awaitDecision d'.await = none := by
  cases hr <;> exact ⟨rfl, rfl⟩

lemma awaitLoad_routed (hr : Routed d n route d') : awaitLoad c d'.await = 0 := by
  simp [awaitLoad, await_routed hr]

/-- A completed decision is answered, since the outcome is of its kind. -/
lemma answered_complete {a : ActiveCallback F} (hm : Matched a) {outcome : ActiveOutcome}
    (hy : a.future.yields outcome = true) :
    answered c (a.complete outcome) = ((activeDecision a).toList.map Decision.channel).count c := by
  obtain ⟨state, kind, future⟩ := a
  cases kind with
  | decision response =>
    obtain rfl : future = .decision response.channel := hm
    cases outcome with
    | decision => simp [ActiveCallback.complete, answered, activeDecision, Decision.channel]
    | notification => cases hy
  | notification => cases outcome <;> rfl

/-- The channels of a received event. -/
def newChannels (new : Option (XSWDEvent F)) : List Channel := new.toList.flatMap XSWDEvent.channels

lemma slotLoad_receive (alive : App → Bool) (event : XSWDEvent F) :
    slotLoad c (d.receive alive event) = slotLoad c d := by
  simp [slotLoad, receive, emit, answered, answers]

lemma load_busied (hw : d.await = .loop) (hb : Busied d event d') :
    slotLoad c d' + awaitLoad c d'.await = slotLoad c d + event.channels.count c := by
  cases hb with
  | queued hx =>
    rw [channels_of_eventDecision hx]
    simp [slotLoad, hw, awaitLoad, awaitChannel, awaitDecision, queuedDecisions_cons, hx]
    omega
  | refused hx =>
    rw [channels_of_eventDecision hx]
    simp [hw, awaitLoad, awaitChannel, awaitDecision, answered_fail]
  | invalidates s | disconnects s =>
    simp only [slotLoad_wait, slotLoad_cancelQueued, wait_await]
    rfl
  | acknowledges =>
    rw [slotLoad_acknowledgeCancel, slotLoad_cancelQueued]
    rfl

lemma load_prepared (hp : Prepared d event d') :
    slotLoad c d' + awaitLoad c d'.await = slotLoad c d + event.channels.count c := by
  cases hp with
  | registers t hx => simp [channels_of_eventDecision hx, awaitLoad, awaitChannel, awaitDecision]
  | refused hx =>
    simp [channels_of_eventDecision hx, awaitLoad, awaitChannel, awaitDecision, answered_fail]
  | acknowledges | invalidates =>
    simp [awaitLoad, awaitChannel, awaitDecision, XSWDEvent.channels, answered, answers]

lemma answered_failDeferredEvents (hq : ∀ e ∈ q, Deferrable e) (code : FailureCode) :
    answered c (failDeferredEvents code q)
      = ((queuedDecisions q).map Decision.channel).count c := by
  induction q with
  | nil => rfl
  | cons e q ih =>
    have hrest := ih fun e' he' => hq e' (by simp [he'])
    have hcons : failDeferredEvents code (e :: q)
        = failDeferredEvent code e ++ failDeferredEvents code q := rfl
    rw [hcons, answered_append, hrest, queuedDecisions_cons, List.map_append, List.count_append]
    obtain ⟨n, rfl⟩ | ⟨event, x, rfl, hx⟩ := hq e (by simp)
    · rfl
    · rw [failDeferredEvent_decision (e := .raw event) hx, answered_fail, deferredDecision_raw, hx]
      rfl

lemma slotLoad_finish (h : Slots d.deferred d.active) (busy : Bool) :
    slotLoad c (d.finish busy) = slotLoad c d := by
  cases busy with
  | false => rfl
  | true =>
    have hd := slotLoad_failActive (c := c) (d := d) .handlerClosed
    have hfail := answered_failDeferredEvents (c := c) h.contents .handlerClosed
    simp only [slotLoad, failActive_active, failActive_deferred] at hd
    simp only [finish, if_true, slotLoad, emit, failActive_active, failActive_deferred,
      answered_append, hfail, queuedDecisions_nil, List.map_nil, List.count_nil]
    omega

/-! ### The order of the pipeline -/

/-- The decisions of the active slot and the queue. -/
def slotPipeline (d : Desk F) : List (Decision F) :=
  (d.active.bind activeDecision).toList ++ queuedDecisions d.deferred

lemma pipeline_eq (d : Desk F) : pipeline d = (awaitDecision d.await).toList ++ slotPipeline d :=
  List.append_assoc ..

/-- Cancelling the requests of a state cancels its pending admission. -/
lemma cancelsAdmission_of_pending {x : Decision F} (hx : x ∈ slotPipeline d)
    (hadm : x.isApplicationAdmission = true) : cancelsAdmission d x.state = true := by
  rw [cancelsAdmission, Bool.or_eq_true]
  obtain hx | hx := List.mem_append.mp hx
  · right
    rcases hact : d.active with _ | a
    · simp [hact] at hx
    have hxa : activeDecision a = some x := by simpa [hact] using hx
    have hfor : a.isDecisionFor x.state = true := isDecisionFor_iff.mpr ⟨x, hxa, rfl⟩
    obtain ⟨state, kind, future⟩ := a
    cases kind with
    | notification => cases hxa
    | decision =>
      cases hxa
      simpa [hfor, ActiveCallback.isApplicationAdmission] using hadm
  · exact .inl (List.any_eq_true.mpr ⟨x, hx, by simp [hadm]⟩)

lemma queued_acknowledgeCancel (state : App) (callback : Sender) (b admission : Bool) :
    (d.acknowledgeCancel state callback b admission).deferred = d.deferred := by
  cases b with
  | true => exact cancelActive_deferred d
  | false => rfl

/-- The decisions that are still to be called, oldest first. -/
def waiting (d : Desk F) : List (Decision F) :=
  (awaitDecision d.await).toList ++ queuedDecisions d.deferred

lemma waiting_of_queue (hw : awaitDecision d'.await = none)
    (hq : (queuedDecisions d'.deferred).Sublist (queuedDecisions d.deferred)) :
    (waiting d').Sublist (waiting d) := by
  rw [waiting, hw]
  exact hq.trans (List.sublist_append_right ..)

lemma waiting_sublist (d : Desk F) : (waiting d).Sublist (pipeline d) := by
  rw [pipeline, List.append_assoc]
  exact List.Sublist.append_left (List.sublist_append_right ..) _

/-- A decision that is active is not with an await. -/
lemma pipeline_active (h : Shape d) {x : Decision F} (hx : d.active.bind activeDecision = some x) :
    pipeline d = x :: waiting d := by
  have haw := h.await
  have hnone : awaitDecision d.await = none := by
    rcases hw : d.await with _ | _ | _ | _ | _ | _ | _ | _ | _ | _ | _ <;> rw [hw] at haw <;>
      first | rfl | simp [show d.active = none from haw] at hx
  simp [pipeline, waiting, hnone, hx]

lemma pipeline_inactive (hx : d.active.bind activeDecision = none) : pipeline d = waiting d := by
  simp [pipeline, waiting, hx]

lemma Deferral.order (h : Deferral q act n r) :
    (queuedDecisions r.2.1).Sublist (queuedDecisions q) := by
  cases h with
  | coalesced => exact List.Sublist.refl _
  | queued => simp [queuedDecisions_cons]
  | evicted l r e x hq hl => simp [hq, queuedDecisions_cons, hl]
  | saturated next r hq => simp [hq, queuedDecisions_cons]

lemma queue_routed (hr : Routed d n route d') :
    (queuedDecisions d'.deferred).Sublist (queuedDecisions d.deferred) := by
  cases hr with
  | starts | abandons => exact List.Sublist.refl _
  | queues => simp [queuedDecisions_cons]
  | defers q sent hd | waits next q a hd => exact Deferral.order hd
  | overloads next q hd =>
    rw [overload, start_deferred, emit_deferred, failActive_deferred]
    exact Deferral.order hd

lemma waiting_busied (hw : d.await = .loop) (hb : Busied d event d') :
    (waiting d').Sublist (waiting d ++ (eventDecision event).toList) := by
  cases hb with
  | queued hx => simp [waiting, hw, awaitDecision, queuedDecisions_cons, hx]
  | refused => simp [waiting, hw, awaitDecision]
  | invalidates s | disconnects s =>
    refine (waiting_of_queue (d := d) rfl ?_).trans (List.sublist_append_left ..)
    simp
  | acknowledges =>
    simpa [eventDecision] using waiting_of_queue (d := d) rfl (by simp [queued_acknowledgeCancel])

/-! ### Notifications -/

/-- A notification is called between two desks. -/
def Notifies (d : Desk F) (n : PreparedNotification F) (d' : Desk F) : Prop :=
  ∃ sent, d'.log = d.log ++ sent ∧ .notified n ∈ sent

/-- A notification has just been started. -/
def Starts (d d' : Desk F) : Prop :=
  ∃ n, d'.active = some ⟨n.state, .notification n.kind, .notification⟩ ∧ Notifies d n d'

lemma notifies_start (d : Desk F) (n : PreparedNotification F) : Notifies d n (d.start n) :=
  ⟨[.notified n], rfl, by simp⟩

lemma notifies_overload (d : Desk F) (next : PreparedNotification F) :
    Notifies d next (d.overload next) := by
  obtain ⟨sent, hlog, -⟩ := follows_failActive .handlerOverloaded d
  refine ⟨sent ++ [.notified next], ?_, by simp⟩
  rw [← List.append_assoc, ← hlog]
  rfl

/-! ### Turns -/

variable [Double F] {cfg : Config} {alive : App → Bool}

/-- **Every turn keeps the account**: a channel is answered or held once more exactly when the
turn receives it. -/
theorem turn_load (h : Shape d) (ht : Turn cfg alive d new d') (c : Channel) :
    answered c d'.log + (held d').count c
      = answered c d.log + (held d).count c + (newChannels new).count c := by
  have hs := h.slots
  have haw := h.await
  rw [load_eq, load_eq]
  cases ht with
  | dispatched event rest hw ha hq =>
    have hload : slotLoad c d = slotLoad c { d with deferred := rest }
        + ((deferredDecision event).toList.map Decision.channel).count c := by
      simp only [slotLoad, hq, queuedDecisions_cons, List.map_append, List.count_append]
      omega
    rw [hw]
    obtain ⟨n, rfl⟩ | ⟨raw, x, rfl, hx⟩ := hs.contents event (by simp [hq])
    · rw [hload]
      exact congrArg (· + _) (slotLoad_start (d := { d with deferred := rest }) ha n)
    have hp := load_prepared (c := c) (prepared cfg { d with deferred := rest } raw)
    rw [channels_of_eventDecision hx] at hp
    rwa [hload, deferredDecision_raw, hx]
  | idleReceived event hw =>
    rw [load_prepared (prepared ..), slotLoad_receive, hw]
    simp [newChannels, awaitLoad, awaitChannel, awaitDecision]
  | returned a outcome hw ha hy =>
    have hc := answered_complete (c := c) (hs.matched a ha) hy
    have hr : answered c [Entry.returned (F := F) a.future outcome] = 0 := rfl
    rw [← List.singleton_append]
    simp only [slotLoad, emit, answered_append, hr, hc, ha, Option.bind_none,
      Option.bind_some, Option.toList_none, List.map_nil, List.count_nil, newChannels,
      List.flatMap_nil]
    omega
  | idleClosed hw | busyClosed _ _ hw =>
    rw [hw]; simp [closing, answered, answers, newChannels]; rfl
  | busyReceived a burst event hw =>
    rw [load_busied (by exact hw) (busied ..), hw]
    have := slotLoad_receive (c := c) (d := d) alive event
    simp only [newChannels, Option.toList_some, List.flatMap_singleton]
    exact congrArg (· + _) this
  | refused x t e hw =>
    rw [hw]
    simp [answered_fail, awaitLoad, awaitChannel, awaitDecision, newChannels]
  | called x t r summary hw =>
    rw [hw] at haw
    have hact : d.active = none := haw
    simp [slotLoad, awaitLoad, awaitChannel, awaitDecision, activeDecision, hw, hact, newChannels,
      Decision.channel, answered, answers]
    omega
  | registered _ _ _ hw | invalidatedIdle _ hw => rw [hw]; rfl
  | invalidatedCancel state callback b hw =>
    rw [slotLoad_acknowledgeCancel, hw]
    rfl
  | invalidatedDisconnect state b hw =>
    rw [hw]
    cases b <;> simp [cancelActive_eq, newChannels] <;> rfl
  | invalidatedOverload state next hw => rw [slotLoad_overload, hw]; rfl
  | projected state kind admission route r hw | unprojected state kind admission route hw =>
    rw [hw]; rfl
  | routed state kind admission route r n hw =>
    rw [hw] at haw
    have hr := hs.routed route n
    rw [slotLoad_routed haw hr, awaitLoad_routed hr, hw]
    rfl
  | finished states busy hw =>
    rw [slotLoad_finish hs, hw]
    cases busy <;> rfl

/-- **What a turn writes**: the event it receives and plain entries, the call for a decision, or
the outcome of the active callback and the answer made of it. -/
theorem turn_log (h : Shape d) (ht : Turn cfg alive d new d') :
    (∃ sent, d'.log = d.log ++ (new.toList.map .received ++ sent) ∧ (∀ e ∈ sent, Plain e) ∧
      Serves d.active sent d'.active) ∨
    (∃ a outcome, d.active = some a ∧ a.future.yields outcome = true ∧ new = none ∧
      d'.log = d.log ++ .returned a.future outcome :: a.complete outcome ∧ d'.active = none) ∨
    (∃ x t r summary, d.await = .describe x t r ∧ new = none ∧ d' = d.call x summary) := by
  have haw := h.await
  have hplain : new = none → Follows d d' →
      ∃ sent, d'.log = d.log ++ (new.toList.map .received ++ sent) ∧ (∀ e ∈ sent, Plain e) ∧
        Serves d.active sent d'.active := by
    rintro rfl ⟨sent, hlog, hp⟩
    exact ⟨sent, hlog, hp⟩
  have hnew : ∀ event, new = some event → Follows (d.receive alive event) d' →
      ∃ sent, d'.log = d.log ++ (new.toList.map .received ++ sent) ∧ (∀ e ∈ sent, Plain e) ∧
        Serves d.active sent d'.active := by
    rintro event rfl ⟨sent, hlog, hp⟩
    exact ⟨sent, by rw [hlog]; simp, hp⟩
  cases ht with
  | dispatched event rest hw ha =>
    refine .inl (hplain rfl ?_)
    cases event with
    | raw => exact follows_prepared (d := { d with deferred := rest }) (prepared ..)
    | notification n => exact follows_start (d := { d with deferred := rest }) ha n
  | idleClosed | busyClosed =>
    exact .inl (hplain rfl (follows_of_entry (e := .closed) rfl rfl trivial))
  | idleReceived event => exact .inl (hnew event rfl (follows_prepared (prepared ..)))
  | returned a outcome hw ha hy => exact .inr (.inl ⟨a, outcome, ha, hy, rfl, rfl, rfl⟩)
  | busyReceived a burst event =>
    exact .inl (hnew event rfl
      (follows_busied (d := { d.receive alive event with receiveBurst := burst }) (busied ..)))
  | registered | invalidatedIdle | projected | unprojected =>
    exact .inl (hplain rfl (follows_of_log rfl rfl))
  | refused => exact .inl (hplain rfl (follows_of_entry rfl rfl (tacit_fail ..)))
  | called x t r summary hw => exact .inr (.inr ⟨x, t, r, summary, hw, rfl, rfl⟩)
  | invalidatedCancel => exact .inl (hplain rfl (follows_acknowledgeCancel ..))
  | invalidatedDisconnect state b =>
    refine .inl (hplain rfl ?_)
    cases b with
    | true => rw [if_pos rfl, cancelActive_eq]; exact follows_failActive ..
    | false => exact follows_of_log rfl rfl
  | invalidatedOverload state next => exact .inl (hplain rfl (follows_overload d next))
  | routed state kind admission route r n hw hn =>
    rw [hw] at haw
    exact .inl (hplain rfl (follows_routed haw hn (h.slots.routed route n)))
  | finished states busy => exact .inl (hplain rfl (follows_finish d busy))

/-- **What the active slot holds after a turn**: nothing, what it held, a notification just
started, or the decision whose callback is called. -/
theorem turn_active (h : Shape d) (ht : Turn cfg alive d new d') :
    d'.active = none ∨ d'.active = d.active ∨ Starts d d' ∨
      ∃ x t r summary, d.await = .describe x t r ∧ d' = d.call x summary := by
  rcases turn_log h ht with ⟨sent, hlog, hp, hs⟩ | ⟨a, outcome, -, -, -, -, hn⟩ |
    ⟨x, t, r, summary, hw, -, hd⟩
  · obtain hn | hn | ⟨e, he, hc⟩ := hs.last
    · exact .inl hn
    · exact .inr (.inl hn)
    -- a plain entry calls a notification only
    cases e with
    | notified n => exact .inr (.inr (.inl ⟨n, hc.symm, _, hlog, List.mem_append_right _ he⟩))
    | called => exact (hp _ he).elim
    | _ => exact .inl hc.symm
  · exact .inl hn
  · exact .inr (.inr (.inr ⟨x, t, r, summary, hw, hd⟩))

/-- A decision is called, or decisions leave anywhere and enter at the end. -/
lemma turn_waiting (h : Shape d) (ht : Turn cfg alive d new d') :
    (∃ x t r summary, d.await = .describe x t r ∧ d' = d.call x summary) ∨
      (waiting d').Sublist (waiting d ++ (new.bind eventDecision).toList) := by
  by_cases hcall : ∃ x t r summary, d.await = .describe x t r ∧ d' = d.call x summary
  · exact .inl hcall
  right
  have hqueue : ∀ d' : Desk F, awaitDecision d'.await = none →
      (queuedDecisions d'.deferred).Sublist (queuedDecisions d.deferred) →
      (waiting d').Sublist (waiting d ++ (none : Option (Decision F)).toList) := by
    intro d' hw hq
    simpa using waiting_of_queue hw hq
  cases ht with
  | dispatched event rest hw ha hq =>
    have hwait : waiting d = (deferredDecision event).toList ++ queuedDecisions rest := by
      simp [waiting, hw, awaitDecision, hq, queuedDecisions_cons]
    rw [hwait]
    cases event with
    | notification => simp [dispatch, waiting, awaitDecision]
    | raw raw =>
      have hp := prepared cfg { d with deferred := rest } raw
      rw [dispatch]
      generalize prepare cfg _ raw = d' at hp
      cases hp with
      | registers t hx => simp [waiting, awaitDecision, hx]
      | refused | acknowledges | invalidates => simp [waiting, awaitDecision]
  | idleReceived event hw ha hq =>
    have hp := prepared cfg (d.receive alive event) event
    generalize prepare cfg _ event = d' at hp
    cases hp with
    | registers t hx => simp [waiting, awaitDecision, hq, hw, hx]
    | refused | acknowledges | invalidates => simp [waiting, awaitDecision, hq]
  | busyReceived a burst event hw =>
    exact waiting_busied (d := { d.receive alive event with receiveBurst := burst }) hw (busied ..)
  | called x t r summary hw => exact absurd ⟨x, t, r, summary, hw, rfl⟩ hcall
  | registered x t r hw => simp [waiting, hw, awaitDecision]
  | returned a outcome hw => exact hqueue _ (by simp [hw, awaitDecision]) (List.Sublist.refl _)
  | invalidatedCancel => exact hqueue _ rfl (by rw [queued_acknowledgeCancel])
  | invalidatedDisconnect state b => exact hqueue _ rfl (by cases b <;> simp)
  | invalidatedOverload => exact hqueue _ rfl (by simp [overload])
  | routed state kind admission route r n =>
    have hr := h.slots.routed route n
    exact hqueue _ (await_routed hr).2 (queue_routed hr)
  | finished states busy =>
    cases busy with
    | true => exact hqueue _ rfl (by simp [finish])
    | false => exact hqueue _ rfl (List.Sublist.refl _)
  | idleClosed | busyClosed | refused | invalidatedIdle | projected | unprojected =>
    exact hqueue _ rfl (List.Sublist.refl _)

/-- **Every turn keeps the order**: decisions leave the pipeline anywhere and enter it at the
end. -/
theorem turn_order {new : Option (XSWDEvent F)} {d' : Desk F} (h : Shape d)
    (ht : Turn cfg alive d new d') :
    (pipeline d').Sublist (pipeline d ++ (new.bind eventDecision).toList) := by
  have hcalled : ∀ x t r summary, d.await = .describe x t r → d' = d.call x summary →
      (pipeline d').Sublist (pipeline d ++ (new.bind eventDecision).toList) := by
    rintro x t r summary hw rfl
    have hact : d.active = none := by simpa [hw, AwaitOk] using h.await
    simp [pipeline, hw, awaitDecision, hact, activeDecision]
  obtain ⟨x, t, r, summary, hw, hd⟩ | hwait := turn_waiting h ht
  · exact hcalled x t r summary hw hd
  have hinactive : d'.active.bind activeDecision = none →
      (pipeline d').Sublist (pipeline d ++ (new.bind eventDecision).toList) := by
    intro hn
    rw [pipeline_inactive hn]
    exact hwait.trans (List.Sublist.append_right (waiting_sublist d) _)
  obtain hn | hsame | ⟨n, hn, -⟩ | ⟨x, t, r, summary, hw, hd⟩ := turn_active h ht
  · exact hinactive (by rw [hn]; rfl)
  · rcases hx : d.active.bind activeDecision with _ | x
    · exact hinactive (by rw [hsame, hx])
    · rw [pipeline_active h hx, pipeline_active (shape_turn h ht) (by rw [hsame, hx])]
      exact hwait.cons_cons x
  · exact hinactive (by rw [hn]; rfl)
  · exact hcalled x t r summary hw hd

end XelisWallet.DispatcherMoves
