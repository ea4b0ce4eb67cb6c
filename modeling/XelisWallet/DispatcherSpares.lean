import XelisWallet.DispatcherClears

/-!
Ending the requests of a state spares those of the others.

From the event to the next turn of the loop, the queued decisions of the other states keep
their order and the active one stays, except for the one decision that a full queue evicts or
the active one that gives way to a queue full of notifications.
-/

namespace XelisWallet.DispatcherSpares

open Json Runs Xswd Dispatcher DispatcherQueue DispatcherTurns DispatcherShape DispatcherMoves
open DispatcherWorld DispatcherAnswers DispatcherSessions DispatcherDelivery DispatcherClears

variable {F : Type} {s : App} {d t t' : Desk F}

/-- The queued decisions of the other states. -/
def others (s : App) (d : Desk F) : List (Decision F) :=
  (queuedDecisions d.deferred).filter (·.state ≠ s)

/-- The active decision, if it is of another state. -/
def otherActive (s : App) (d : Desk F) : Option (Decision F) :=
  (d.active.bind activeDecision).filter (·.state ≠ s)

/-- What the end of the requests of a state leaves of the others. -/
inductive Spares (s : App) (d d' : Desk F) : Prop
  | untouched (hq : queuedDecisions d'.deferred = others s d)
      (ha : d'.active.bind activeDecision = otherActive s d)
  /-- The oldest queued decision made room for a disconnect. -/
  | evicted (y : Decision F) (hq : others s d = y :: queuedDecisions d'.deferred)
      (ha : d'.active.bind activeDecision = otherActive s d)
      (hfull : (kept s d.deferred).length = maxDeferredEvents)
      (hsent : y.response.fail .requestQueueFull ∈ d'.log)
  /-- The active callback gave way, since only notifications were queued. -/
  | overloaded (hd : others s d = []) (hq : queuedDecisions d'.deferred = [])
      (ha : d'.active.bind activeDecision = none)
      (hfull : (kept s d.deferred).length = maxDeferredEvents)
      (hsent : ∀ x, otherActive s d = some x → x.response.fail .handlerOverloaded ∈ d'.log)

/-- How far the event has been handled, at each await. -/
def Progress (s : App) (d t : Desk F) : Prop :=
  match t.await with
  | .invalidateIdle s' | .invalidateCancel s' _ _ | .invalidateDisconnect s' _ =>
      s' = s ∧ t.deferred = kept s d.deferred ∧ t.active = d.active
  | .project _ _ _ _ | .describeNotification _ _ _ _ _ =>
      t.deferred = kept s d.deferred ∧ t.active.bind activeDecision = otherActive s d
  | .invalidateOverload _ _ =>
      others s d = [] ∧ queuedDecisions t.deferred = [] ∧
        t.active.bind activeDecision = otherActive s d ∧
        (kept s d.deferred).length = maxDeferredEvents
  | .loop => Spares s d t
  | _ => False

lemma otherActive_of_not (h : d.active.any (·.isDecisionFor s) = false) :
    otherActive s d = d.active.bind activeDecision := by
  rw [otherActive]
  rcases hact : d.active with _ | a
  · rfl
  rcases hx : activeDecision a with _ | x
  · simp [hx]
  have hne : x.state ≠ s := by
    rintro hs
    have : a.isDecisionFor s = true := isDecisionFor_iff.mpr ⟨x, hx, hs⟩
    simp [hact, this] at h
  simp [hx, hne]

lemma otherActive_of_any (h : d.active.any (·.isDecisionFor s) = true) :
    otherActive s d = none := by
  rw [otherActive]
  rcases hact : d.active with _ | a
  · rfl
  obtain ⟨x, hx, hs⟩ :=
    isDecisionFor_iff.mp (show a.isDecisionFor s = true by simpa [hact] using h)
  simp [hx, hs]

lemma otherActive_congr (h : t.active = d.active) : otherActive s t = otherActive s d := by
  rw [otherActive, otherActive, h]

lemma others_eq (h : t.deferred = kept s d.deferred) :
    queuedDecisions t.deferred = others s d := by
  rw [h, queuedDecisions_kept, others]

lemma active_cancelled {b : Bool} (hb : t.active.any (·.isDecisionFor s) = b) :
    (if b then t.cancelActive else t).active.bind activeDecision = otherActive s t := by
  cases b with
  | true =>
    rw [if_pos rfl, cancelActive_active, otherActive_of_any hb]
    rfl
  | false => exact (otherActive_of_not hb).symm

lemma deferred_cancelled (b : Bool) :
    (if b then t.cancelActive else t).deferred = t.deferred := by
  cases b with
  | true => exact cancelActive_deferred t
  | false => rfl

lemma progress_acknowledgeCancel {callback : Sender} {b admission : Bool}
    (hq : t.deferred = kept s d.deferred) (ha : t.active = d.active)
    (hb : t.active.any (·.isDecisionFor s) = b) :
    Progress s d (t.acknowledgeCancel s callback b admission) := by
  refine ⟨?_, ?_⟩
  · rw [← hq]
    exact deferred_cancelled b
  · rw [← otherActive_congr ha]
    exact active_cancelled hb

lemma Deferral.spares {q : List (DeferredEvent F)} {act : Option (ActiveCallback F)}
    {n : PreparedNotification F}
    {r : Option (PreparedNotification F) × List (DeferredEvent F) × List (Entry F)}
    (h : Deferral q act n r) :
    (r.1 = none ∧ queuedDecisions r.2.1 = queuedDecisions q) ∨
    (r.1 = none ∧ q.length = maxDeferredEvents ∧
      ∃ y, queuedDecisions q = y :: queuedDecisions r.2.1 ∧
      y.response.fail .requestQueueFull ∈ r.2.2) ∨
    (r.1 ≠ none ∧ q.length = maxDeferredEvents ∧ queuedDecisions q = [] ∧
      queuedDecisions r.2.1 = []) := by
  cases h with
  | coalesced => exact .inl ⟨rfl, rfl⟩
  | queued => exact .inl ⟨rfl, by simp [queuedDecisions_cons]⟩
  | evicted l r e x hq hl hx hfull =>
    refine .inr (.inl ⟨rfl, hfull, x, ?_, by simp⟩)
    simp [hq, hl, queuedDecisions_cons, hx]
  | saturated next r hq hr hfull =>
    exact .inr (.inr ⟨by simp, hfull, by simp [hq, hr, queuedDecisions_cons],
      by simp [hr, queuedDecisions_cons]⟩)

lemma spares_overload {next : PreparedNotification F} (hd : others s d = [])
    (hq : queuedDecisions t.deferred = [])
    (ha : t.active.bind activeDecision = otherActive s d)
    (hfull : (kept s d.deferred).length = maxDeferredEvents) :
    Spares s d (t.overload next) := by
  have hdeferred : (t.overload next).deferred = t.deferred := failActive_deferred _ t
  refine .overloaded hd (by rw [hdeferred, hq]) rfl hfull fun x hx => ?_
  rw [Desk.overload, Desk.start_log, Desk.emit_log, failActive_log]
  refine List.mem_append_left _ (List.mem_append_right _ ?_)
  rw [← ha] at hx
  obtain ⟨⟨state, kind, future⟩, hact, hxa⟩ := Option.bind_eq_some_iff.mp hx
  rw [hact]
  cases kind with
  | notification => cases hxa
  | decision =>
    cases hxa
    exact List.mem_singleton.mpr rfl

lemma progress_routed {kind : NotificationKind} {admission : Bool} {route : Route}
    {n : PreparedNotification F} (hok : RouteOk t.deferred t.active kind admission route)
    (hq : t.deferred = kept s d.deferred) (ha : t.active.bind activeDecision = otherActive s d)
    (hr : Routed t n route t') : Progress s d t' := by
  have hqueue := others_eq hq
  cases hr with
  | starts route hroute =>
    have hnone : t.active = none := by
      obtain rfl | rfl | rfl := hroute
      · exact hok.1
      · exact hok.2.1 rfl
      · exact hok.2.2 rfl
    refine Spares.untouched hqueue ?_
    rw [← ha, hnone]
    rfl
  | queues => exact Spares.untouched (by simpa [queuedDecisions_cons] using hqueue) ha
  | abandons => exact Spares.untouched hqueue ha
  | defers q sent hd =>
    obtain ⟨-, he⟩ | ⟨-, hfull, y, he, hsent⟩ | ⟨hne, -⟩ := Deferral.spares hd
    · exact Spares.untouched (he.trans hqueue) ha
    · exact Spares.evicted y (hqueue.symm.trans he) ha (hq ▸ hfull) (List.mem_append_right _ hsent)
    · exact absurd rfl hne
  | waits next q a hd =>
    obtain ⟨he, -⟩ | ⟨he, -⟩ | ⟨-, hfull, hnil, he⟩ := Deferral.spares hd
    · cases he
    · cases he
    · exact ⟨hqueue.symm.trans hnil, he, ha, hq ▸ hfull⟩
  | overloads next q hd =>
    obtain ⟨he, -⟩ | ⟨he, -⟩ | ⟨-, hfull, hnil, he⟩ := Deferral.spares hd
    · cases he
    · cases he
    · exact spares_overload (t := { t with deferred := q }) (hqueue.symm.trans hnil) he ha
        (hq ▸ hfull)

/-! ### Turns -/

variable [Double F] {cfg : Config} {alive : App → Bool} {new : Option (XSWDEvent F)}

/-- Until the loop is reached, every turn makes progress. -/
theorem progress_turn (h : Shape t) (hw : t.await ≠ .loop) (hp : Progress s d t)
    (ht : Turn cfg alive t new t') : Progress s d t' := by
  have haw := h.await
  unfold Progress at hp
  cases ht with
  | invalidatedIdle s' hw' =>
    rw [hw'] at hp haw
    obtain ⟨-, hq, ha⟩ := hp
    refine ⟨hq, ?_⟩
    rw [← otherActive_congr ha, otherActive]
    change t.active.bind activeDecision = _
    rw [haw.1]
    rfl
  | invalidatedCancel s' c b hw' =>
    rw [hw'] at hp haw
    obtain ⟨rfl, hq, ha⟩ := hp
    exact progress_acknowledgeCancel hq ha haw.1
  | invalidatedDisconnect s' b hw' =>
    rw [hw'] at hp haw
    obtain ⟨rfl, hq, ha⟩ := hp
    refine ⟨(deferred_cancelled b).trans hq, ?_⟩
    rw [← otherActive_congr ha]
    exact active_cancelled haw
  | invalidatedOverload s' next hw' =>
    rw [hw'] at hp
    obtain ⟨hd, hq, ha, hfull⟩ := hp
    exact spares_overload hd hq ha hfull
  | projected s' k b route r hw' => rwa [hw'] at hp
  | unprojected s' k b route hw' =>
    rw [hw'] at hp
    exact Spares.untouched (others_eq hp.1) hp.2
  | routed s' k b route r n hw' =>
    rw [hw'] at hp haw
    exact progress_routed haw hp.1 hp.2 (h.slots.routed route n)
  | dispatched _ _ hw' | idleClosed hw' | idleReceived _ hw' | returned _ _ hw'
  | busyClosed _ _ hw' | busyReceived _ _ _ hw' => exact absurd hw' hw
  | registered _ _ _ hw' | refused _ _ _ hw' | called _ _ _ _ hw' | finished _ _ hw' =>
    rw [hw'] at hp
    exact hp.elim

lemma progress_received {event : XSWDEvent F} (hend : ends event = some s)
    (ht : Turn cfg alive d (some event) t) : Progress s d t := by
  cases ht with
  | idleReceived _ hw ha hq =>
    have hnone : d.active.bind activeDecision = otherActive s d := by rw [otherActive, ha]; rfl
    cases event with
    | cancelRequest => cases hend; exact ⟨by change d.deferred = _; rw [hq]; rfl, hnone⟩
    | appDisconnect => cases hend; exact ⟨rfl, by change d.deferred = _; rw [hq]; rfl, rfl⟩
    | requestApplication | requestPermission | prefetchPermissions => cases hend
  | busyReceived a burst =>
    have hb := busied { d.receive alive event with receiveBurst := burst } event
    generalize Desk.busyEvent _ event = d' at hb
    cases hb with
    | queued hx | refused hx =>
      rw [ends_of_decision hx] at hend
      cases hend
    | invalidates | disconnects => cases hend; exact ⟨rfl, rfl, rfl⟩
    | acknowledges => cases hend; exact progress_acknowledgeCancel rfl rfl rfl

/-! ### Runs -/

/-- The runs that handle an event: they do not go on from the loop. -/
def handlings (cfg : Config) : System (World F) (Action F) where
  init := Reachable (worlds cfg)
  step w a w' := w.desk.await ≠ .loop ∧ (worlds cfg).step w a w'

variable {u v w : World F} {a : Action F} {ms : List (Action F)}

/-- **The others are spared**, over the whole handling of an event that ends the requests of a
state. -/
theorem run_spares {event : XSWDEvent F} (hu : Reachable (worlds cfg) u)
    (hstep : (worlds cfg).step u a v)
    (hrec : receivedEvents v.desk.log = receivedEvents u.desk.log ++ [event])
    (hend : ends event = some s) (hr : Run (handlings cfg) v ms w)
    (hw : w.desk.await = .loop) : Spares s u.desk w.desk := by
  have hrun : Reachable (worlds cfg) w ∧ Progress s u.desk w.desk := by
    refine hr.preserves (P := fun w => Reachable (worlds cfg) w ∧ Progress s u.desk w.desk) ?_
      ⟨hu.step hstep, progress_received hend (took_received hu hstep hrec).turn⟩
    rintro w b w' ⟨hw, hp⟩ ⟨hloop, hstep⟩
    refine ⟨hw.step hstep, ?_⟩
    have hs := reachable_sound hw
    obtain ⟨new, ht⟩ | ht := world_cases hs hstep
    · exact progress_turn hs.inv.shape hloop hp ht.turn
    · rwa [ht.desk]
  have hp := hrun.2
  unfold Progress at hp
  rwa [hw] at hp

end XelisWallet.DispatcherSpares
