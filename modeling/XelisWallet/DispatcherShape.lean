import XelisWallet.DispatcherTurns

/-!
The shape of a desk: what the queue and the active slot hold, and what each await may assume
of them. Every turn keeps it.
-/

namespace XelisWallet.DispatcherShape

open Json Xswd Dispatcher DispatcherQueue DispatcherTurns

variable {F : Type}

/-! ### The shape of a desk -/

/-- What a branch knows while it prepares its notification. -/
def RouteOk (q : List (DeferredEvent F)) (act : Option (ActiveCallback F))
    (kind : NotificationKind) (admission : Bool) : Route → Prop
  | .idle => act = none ∧ q = [] ∧ admission = false
  | .cancel b => kind = .cancelRequest ∧ (b = true → act = none) ∧
      (admission = true → b = false → q.length < maxDeferredEvents)
  | .disconnect b => kind = .appDisconnect ∧ admission = false ∧ (b = true → act = none)

/-- What an await may assume of the queue and the active slot. -/
def AwaitOk (q : List (DeferredEvent F)) (act : Option (ActiveCallback F)) : Await F → Prop
  | .loop => True
  | .register _ _ | .describe _ _ _ => act = none
  | .invalidateIdle _ => act = none ∧ q = []
  | .invalidateCancel state _ b => act.any (·.isDecisionFor state) = b ∧
      (b = false → q.length < maxDeferredEvents)
  | .invalidateDisconnect state b => act.any (·.isDecisionFor state) = b
  | .invalidateOverload state _ =>
      ∃ a, act = some a ∧ a.isApplicationAdmission = true ∧ a.state = state
  | .project _ kind admission route | .describeNotification _ kind admission route _ =>
      RouteOk q act kind admission route
  | .close _ busy => busy = false → act = none ∧ q = []
  | .ended => act = none ∧ q = []

/-- A callback was wrapped for its own kind, with the channel of its own request. -/
def Matched (a : ActiveCallback F) : Prop :=
  match a.kind with
  | .decision response _ => a.future = .decision response.channel
  | .notification _ => a.future = .notification

/-- What the queue and the active slot may hold. -/
structure Slots (q : List (DeferredEvent F)) (act : Option (ActiveCallback F)) : Prop where
  bound : q.length ≤ maxDeferredEvents
  contents : ∀ e ∈ q, Deferrable e
  matched : ∀ a, act = some a → Matched a

structure Shape (d : Desk F) : Prop where
  slots : Slots d.deferred d.active
  await : AwaitOk d.deferred d.active d.await

variable {q : List (DeferredEvent F)} {act : Option (ActiveCallback F)} {d : Desk F}

lemma isDecisionFor_iff {a : ActiveCallback F} {state : App} :
    a.isDecisionFor state = true ↔ ∃ x, activeDecision a = some x ∧ x.state = state := by
  obtain ⟨s, kind, future⟩ := a
  cases kind <;> simp [ActiveCallback.isDecisionFor, activeDecision]

lemma Slots.clear (h : Slots q act) : Slots q none := ⟨h.bound, h.contents, by simp⟩

lemma Slots.sublist (h : Slots q act) {q' : List (DeferredEvent F)} (hs : q'.Sublist q) :
    Slots q' act :=
  ⟨Nat.le_trans hs.length_le h.bound, fun e he => h.contents e (hs.subset he), h.matched⟩

lemma Slots.push (h : Slots q act) {e : DeferredEvent F} (he : Deferrable e)
    (hroom : q.length < maxDeferredEvents) : Slots (q ++ [e]) act := by
  refine ⟨by rw [List.length_append]; exact hroom, fun e' he' => ?_, h.matched⟩
  obtain hm | hm := List.mem_append.mp he'
  · exact h.contents e' hm
  · rwa [List.mem_singleton.mp hm]

lemma deferrable_notification (n : PreparedNotification F) :
    Deferrable (DeferredEvent.notification n) := .inl ⟨n, rfl⟩

@[simp] lemma cancelActive_active (d : Desk F) : d.cancelActive.active = none := by
  unfold Desk.cancelActive
  split
  · rfl
  · assumption

@[simp] lemma cancelActive_deferred (d : Desk F) : d.cancelActive.deferred = d.deferred := by
  unfold Desk.cancelActive
  split <;> rfl

@[simp] lemma failActive_active (code : FailureCode) (d : Desk F) :
    (d.failActive code).active = none := by
  unfold Desk.failActive
  split
  · rfl
  · assumption

@[simp] lemma failActive_deferred (code : FailureCode) (d : Desk F) :
    (d.failActive code).deferred = d.deferred := by
  unfold Desk.failActive
  split <;> rfl

lemma shape_start (h : Slots d.deferred none) (n : PreparedNotification F) :
    Shape (d.start n) where
  slots := ⟨h.bound, h.contents, by rintro a ⟨⟩; rfl⟩
  await := trivial

lemma shape_acknowledgeCancel {state : App} {callback : Sender} {b admission : Bool}
    (h : Slots d.deferred d.active)
    (hroom : admission = true → b = false → d.deferred.length < maxDeferredEvents) :
    Shape (d.acknowledgeCancel state callback b admission) := by
  cases b with
  | true =>
    refine ⟨?_, ?_⟩ <;> simp only [Desk.acknowledgeCancel, if_true, Desk.wait_deferred,
      Desk.wait_active, Desk.wait_await, Desk.emit_deferred, Desk.emit_active,
      cancelActive_active, cancelActive_deferred]
    · exact h.clear
    · exact ⟨rfl, by simp, by simp⟩
  | false => exact ⟨h, rfl, by simp, hroom⟩

lemma shape_overload (h : Slots d.deferred d.active) (next : PreparedNotification F) :
    Shape (d.overload next) :=
  shape_start (by simpa using h.clear) next

lemma Deferral.slots (h : Slots q act) {n : PreparedNotification F}
    {r : Option (PreparedNotification F) × List (DeferredEvent F) × List (Entry F)}
    (hd : Deferral q act n r) : Slots r.2.1 act := by
  cases hd with
  | coalesced => exact h
  | queued hroom => exact h.push (deferrable_notification n) hroom
  | evicted l r e x hq hl hx hfull =>
    have hsub : (l ++ r).Sublist q := by
      rw [hq]
      exact List.Sublist.append_left (List.sublist_cons_self e r) l
    refine (h.sublist hsub).push (deferrable_notification n) ?_
    rw [hq] at hfull
    simp only [List.length_append, List.length_cons] at hfull ⊢
    omega
  | saturated next r hq hr hfull =>
    have hsub : r.Sublist q := by rw [hq]; exact List.sublist_cons_self ..
    refine (h.sublist hsub).push (deferrable_notification n) ?_
    rw [hq, List.length_cons] at hfull
    omega

variable (h : Slots d.deferred d.active)
include h

lemma Slots.routed (route : Route) (n : PreparedNotification F) :
    Routed d n route (d.route route (some n)) :=
  routed_cases h.bound h.contents route n

lemma shape_routed {route : Route} {n : PreparedNotification F}
    {d' : Desk F} (hr : Routed d n route d') : Shape d' := by
  cases hr with
  | starts => exact shape_start h.clear n
  | queues hroom => exact ⟨h.push (deferrable_notification n) hroom, trivial⟩
  | abandons => exact ⟨h, trivial⟩
  | defers q sent hd => exact ⟨Deferral.slots h hd, trivial⟩
  | waits next q a hd ha hadm => exact ⟨Deferral.slots h hd, a, ha, hadm, rfl⟩
  | overloads next q hd =>
    exact shape_overload (d := { d with deferred := q }) (Deferral.slots h hd) next

lemma shape_busied (hw : d.await = .loop) {event : XSWDEvent F}
    {d' : Desk F} (hb : Busied d event d') : Shape d' := by
  have hkept : ∀ s, Slots (cancelQueued s d).deferred d.active :=
    fun s => h.sublist (kept_sublist s d.deferred)
  cases hb with
  | queued hx hroom => exact ⟨h.push (.inr ⟨event, _, rfl, hx⟩) hroom, by simp [hw, AwaitOk]⟩
  | refused => exact ⟨h, by simp [hw, AwaitOk]⟩
  | invalidates s c hadm =>
    refine ⟨hkept s, rfl, fun hb => ?_⟩
    -- the active callback was not the admission, so one left the queue
    rw [cancelsAdmission, hb, Bool.false_and, Bool.or_false] at hadm
    exact Nat.lt_of_lt_of_le (length_kept_lt hadm) h.bound
  | acknowledges s => exact shape_acknowledgeCancel (hkept s) (by simp)
  | disconnects s => exact ⟨hkept s, rfl⟩

lemma shape_prepared (ha : d.active = none)
    {event : XSWDEvent F} (he : (eventDecision event).isSome ∨ d.deferred = []) {d' : Desk F}
    (hp : Prepared d event d') : Shape d' := by
  cases hp with
  | registers => exact ⟨h, ha⟩
  | refused => exact ⟨h, trivial⟩
  | acknowledges => exact ⟨h, ha, by simpa [eventDecision] using he, rfl⟩
  | invalidates => exact ⟨h, ha, by simpa [eventDecision] using he⟩

omit h

variable [Double F] {cfg : Config} {alive : App → Bool}

/-- **Every turn keeps the shape.** -/
theorem shape_turn {new : Option (XSWDEvent F)} {d' : Desk F} (h : Shape d)
    (ht : Turn cfg alive d new d') : Shape d' := by
  have hs := h.slots
  have haw := h.await
  cases ht with
  | dispatched event rest hw ha hq =>
    have hrest : Slots rest d.active :=
      hs.sublist (by rw [hq]; exact List.sublist_cons_self ..)
    obtain ⟨n, rfl⟩ | ⟨raw, x, rfl, hx⟩ := hs.contents event (by simp [hq])
    · exact shape_start hrest.clear n
    · exact shape_prepared (d := { d with deferred := rest }) hrest ha (.inl (by simp [hx]))
        (prepared ..)
  | idleClosed hw ha hq => exact ⟨hs, fun _ => ⟨ha, hq⟩⟩
  | idleReceived event hw ha hq =>
    exact shape_prepared (d := d.receive alive event) hs ha (.inr hq) (prepared ..)
  | returned a outcome hw => exact ⟨hs.clear, by simp [hw, AwaitOk]⟩
  | busyClosed => exact ⟨hs, fun hb => by cases hb⟩
  | busyReceived a burst event hw =>
    exact shape_busied (d := { d.receive alive event with receiveBurst := burst }) hs hw (busied ..)
  | registered x t r hw => exact ⟨hs, by rw [hw] at haw; exact haw⟩
  | refused | unprojected => exact ⟨hs, trivial⟩
  | called => exact ⟨⟨hs.bound, hs.contents, by rintro a ⟨⟩; rfl⟩, trivial⟩
  | invalidatedIdle state hw =>
    rw [hw] at haw
    exact ⟨hs, haw.1, haw.2, rfl⟩
  | invalidatedCancel state callback b hw =>
    rw [hw] at haw
    exact shape_acknowledgeCancel hs fun _ => haw.2
  | invalidatedDisconnect state b =>
    cases b with
    | true => exact ⟨by simpa using hs.clear, rfl, rfl, fun _ => cancelActive_active d⟩
    | false => exact ⟨hs, rfl, rfl, by simp⟩
  | invalidatedOverload state next => exact shape_overload hs next
  | projected state kind admission route r hw =>
    rw [hw] at haw
    exact ⟨hs, haw⟩
  | routed state kind admission route r n => exact shape_routed hs (hs.routed route n)
  | finished states busy hw =>
    rw [hw] at haw
    cases busy with
    | true =>
      refine ⟨⟨Nat.zero_le _, by simp [Desk.finish], ?_⟩, ?_⟩ <;>
        simp [Desk.finish, AwaitOk]
    | false => exact ⟨hs, haw rfl⟩

/-- The awaits that a turn may lead to. -/
inductive Leads (alive : App → Bool) (d : Desk F) (new : Option (XSWDEvent F)) (d' : Desk F) :
    Await F → Prop
  | loop : Leads alive d new d' .loop
  | register (x : Decision F) (t : RequestType F) : Leads alive d new d' (.register x t)
  | describe (x : Decision F) (t : RequestType F) (r : ℕ) (hw : d.await = .register x t) :
      Leads alive d new d' (.describe x t r)
  | invalidateIdle (s : App) (hn : new = some (.appDisconnect s)) :
      Leads alive d new d' (.invalidateIdle s)
  | invalidateCancel (s : App) (c : Sender) (b : Bool) (hn : new = some (.cancelRequest s c)) :
      Leads alive d new d' (.invalidateCancel s c b)
  | invalidateDisconnect (s : App) (b : Bool) (hn : new = some (.appDisconnect s)) :
      Leads alive d new d' (.invalidateDisconnect s b)
  | invalidateOverload (s : App) (n : PreparedNotification F) :
      Leads alive d new d' (.invalidateOverload s n)
  | project (s : App) (k : NotificationKind) (b : Bool) (route : Route) :
      Leads alive d new d' (.project s k b route)
  | describeNotification (s : App) (k : NotificationKind) (b : Bool) (route : Route) (r : ℕ) :
      Leads alive d new d' (.describeNotification s k b route r)
  | close (busy : Bool) (hc : .closed ∈ d'.log) (hq : d'.deferred = d.deferred)
      (ha : d'.active = d.active) : Leads alive d new d' (.close (d.observed.filter alive) busy)
  | ended (states : List App) (busy : Bool) (hw : d.await = .close states busy) :
      Leads alive d new d' .ended

/-- **Where a turn leads.** -/
theorem turn_await {new : Option (XSWDEvent F)} {d' : Desk F} (h : Shape d)
    (ht : Turn cfg alive d new d') : Leads alive d new d' d'.await := by
  have hloop : ∀ d₁ : Desk F, d₁.await = .loop → Leads alive d new d₁ d₁.await := by
    intro d₁ hd
    rw [hd]
    exact .loop
  cases ht with
  | dispatched event rest hw ha hq =>
    obtain ⟨n, rfl⟩ | ⟨raw, x, rfl, hx⟩ := h.slots.contents event (by simp [hq])
    · exact .loop
    have hp := prepared cfg { d with deferred := rest } raw
    rw [Desk.dispatch]
    generalize Desk.prepare cfg _ raw = d' at hp
    cases hp with
    | registers t => exact .register _ t
    | refused => exact .loop
    | acknowledges | invalidates => cases hx
  | idleReceived event =>
    have hp := prepared cfg (d.receive alive event) event
    generalize Desk.prepare cfg _ event = d' at hp
    cases hp with
    | registers t => exact .register _ t
    | refused => exact .loop
    | acknowledges => exact .project ..
    | invalidates s => exact .invalidateIdle s rfl
  | busyReceived a burst event hw =>
    have hb := busied { d.receive alive event with receiveBurst := burst } event
    generalize Desk.busyEvent _ event = d' at hb
    cases hb with
    | queued | refused => exact hloop _ hw
    | invalidates s c => exact .invalidateCancel s c _ rfl
    | acknowledges => exact .project ..
    | disconnects s => exact .invalidateDisconnect s _ rfl
  | returned a outcome hw => exact hloop _ hw
  | registered x t r hw => exact .describe x t r hw
  | refused | called | invalidatedOverload | unprojected => exact .loop
  | invalidatedIdle | invalidatedCancel | invalidatedDisconnect => exact .project ..
  | projected => exact .describeNotification ..
  | routed s k b route r n =>
    have hr := h.slots.routed route n
    generalize d.route route (some n) = d₁ at hr
    cases hr with
    | starts | queues | abandons | defers | overloads => exact .loop
    | waits => exact .invalidateOverload ..
  | idleClosed | busyClosed => exact .close _ (by simp [Desk.closing]) rfl rfl
  | finished states busy hw => cases busy <;> exact .ended states _ hw

end XelisWallet.DispatcherShape
