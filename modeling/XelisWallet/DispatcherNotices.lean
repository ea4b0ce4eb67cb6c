import XelisWallet.DispatcherSessions

/-!
The notifications of a dispatcher: bounded, one disconnect for a state, and none lost.

A state with a disconnect notification, queued, active or in hand, is shut out of the registry
and no decision of it is active, so a second disconnect of it always finds the first. The room
for the notification of a cancelled admission is the place the admission had in the queue.
-/

namespace XelisWallet.DispatcherNotices

open Json Runs Checked Registry RegistrySpec RegistryTombs Xswd Dispatcher DispatcherQueue
open DispatcherTurns DispatcherShape DispatcherMoves DispatcherWorld DispatcherAnswers
open DispatcherSessions

variable {F : Type} {d d' : Desk F}

/-! ### Disconnect notifications -/

/-- The state that a notification tells the disconnect of. -/
def noticeState (n : PreparedNotification F) : Option App :=
  match n.kind with
  | .appDisconnect => some n.state
  | .cancelRequest => none

def deferredDisconnect : DeferredEvent F → Option App
  | .notification n => noticeState n
  | .raw _ => none

def activeDisconnect (a : ActiveCallback F) : Option App :=
  match a.kind with
  | .notification .appDisconnect => some a.state
  | _ => none

/-- A notification taken from the queue that waits to be started. -/
def handDisconnect : Await F → Option App
  | .invalidateOverload _ next => noticeState next
  | _ => none

def queuedDisconnects (q : List (DeferredEvent F)) : List App := q.filterMap deferredDisconnect

/-- The states of the disconnect notifications in the active slot and the queue. -/
def slotDisconnects (d : Desk F) : List App :=
  (d.active.bind activeDisconnect).toList ++ queuedDisconnects d.deferred

/-- The states of all disconnect notifications that the dispatcher has. -/
def disconnects (d : Desk F) : List App := (handDisconnect d.await).toList ++ slotDisconnects d

@[simp] lemma queuedDisconnects_nil : queuedDisconnects ([] : List (DeferredEvent F)) = [] := rfl

@[simp] lemma queuedDisconnects_append (l₁ l₂ : List (DeferredEvent F)) :
    queuedDisconnects (l₁ ++ l₂) = queuedDisconnects l₁ ++ queuedDisconnects l₂ :=
  List.filterMap_append ..

lemma queuedDisconnects_cons (e : DeferredEvent F) (l : List (DeferredEvent F)) :
    queuedDisconnects (e :: l) = (deferredDisconnect e).toList ++ queuedDisconnects l := by
  simp only [queuedDisconnects, List.filterMap_cons]
  cases deferredDisconnect e <;> rfl

variable {x : Decision F} {s : App} {event : XSWDEvent F}

lemma deferredDisconnect_of_decision {e : DeferredEvent F} (h : deferredDecision e = some x) :
    deferredDisconnect e = none := by
  cases e with
  | raw => rfl
  | notification => cases h

@[simp] lemma queuedDisconnects_kept (state : App) (q : List (DeferredEvent F)) :
    queuedDisconnects (kept state q) = queuedDisconnects q := by
  induction q with
  | nil => rfl
  | cons e q ih =>
    rw [kept, List.filter_cons]
    split
    · rw [queuedDisconnects_cons, queuedDisconnects_cons, ← ih]
      rfl
    next h =>
    -- what is filtered out is a decision
    rcases hd : deferredDecision e with _ | x
    · simp [hd] at h
    · rwa [queuedDisconnects_cons, deferredDisconnect_of_decision hd]

lemma isDeferredDisconnectFor_iff {q : List (DeferredEvent F)} :
    q.any (isDeferredDisconnectFor s) = true ↔ s ∈ queuedDisconnects q := by
  simp only [List.any_eq_true, queuedDisconnects, List.mem_filterMap]
  refine exists_congr fun e => and_congr_right fun _ => ?_
  obtain event | ⟨state, summary, kind, admission⟩ := e
  · simp [isDeferredDisconnectFor, deferredDisconnect]
  · cases kind <;> simp [isDeferredDisconnectFor, deferredDisconnect, noticeState]

lemma isDisconnectFor_iff {act : Option (ActiveCallback F)} :
    act.any (·.isDisconnectFor s) = true ↔ s ∈ (act.bind activeDisconnect).toList := by
  obtain _ | ⟨state, kind, future⟩ := act
  · simp
  obtain ⟨r, b⟩ | (_ | _) := kind
  · simp [ActiveCallback.isDisconnectFor, activeDisconnect]
  · simp [ActiveCallback.isDisconnectFor, activeDisconnect]
  · simp only [Option.any_some, ActiveCallback.isDisconnectFor, activeDisconnect,
      Option.bind_some, decide_eq_true_eq, Option.mem_toList, Option.some.injEq]

/-! ### What a turn does to them -/

lemma slotDisconnects_failActive (code : FailureCode) :
    (slotDisconnects (d.failActive code)).Sublist (slotDisconnects d) := by
  simp [slotDisconnects]

lemma disconnects_acknowledgeCancel (state : App) (callback : Sender) (b admission : Bool) :
    (disconnects (d.acknowledgeCancel state callback b admission)).Sublist (slotDisconnects d) := by
  cases b with
  | true =>
    rw [Desk.acknowledgeCancel, if_pos rfl, cancelActive_eq]
    exact slotDisconnects_failActive ..
  | false => exact List.Sublist.refl _

lemma disconnects_busied (hw : d.await = .loop) (hb : Busied d event d') :
    (disconnects d').Sublist (slotDisconnects d) := by
  cases hb with
  | queued => simp [disconnects, slotDisconnects, hw, handDisconnect, queuedDisconnects_cons,
      deferredDisconnect]
  | refused => simp [disconnects, slotDisconnects, hw, handDisconnect]
  | invalidates | disconnects => simp [disconnects, slotDisconnects, handDisconnect]
  | acknowledges =>
    refine (disconnects_acknowledgeCancel ..).trans ?_
    simp [slotDisconnects]

lemma disconnects_prepared (hp : Prepared d event d') : disconnects d' = slotDisconnects d := by
  cases hp <;> rfl

lemma Deferral.disconnects {q : List (DeferredEvent F)} {act : Option (ActiveCallback F)}
    {n : PreparedNotification F}
    {r : Option (PreparedNotification F) × List (DeferredEvent F) × List (Entry F)}
    (h : Deferral q act n r) (hk : n.kind = .appDisconnect) :
    (r = (none, q, []) ∧ n.state ∈ (act.bind activeDisconnect).toList ++ queuedDisconnects q) ∨
    ((r.1.bind noticeState).toList ++ queuedDisconnects r.2.1 = queuedDisconnects q ++ [n.state] ∧
      n.state ∉ (act.bind activeDisconnect).toList ++ queuedDisconnects q) := by
  have hnew : deferredDisconnect (.notification n) = some n.state := by
    simp [deferredDisconnect, noticeState, hk]
  have hnot : (¬ act.any (·.isDisconnectFor n.state) ∧ ¬ q.any (isDeferredDisconnectFor n.state)) →
      n.state ∉ (act.bind activeDisconnect).toList ++ queuedDisconnects q := by
    rintro ⟨h₁, h₂⟩ hm
    obtain hm | hm := List.mem_append.mp hm
    · exact h₁ (isDisconnectFor_iff.mpr hm)
    · exact h₂ (isDeferredDisconnectFor_iff.mpr hm)
  cases h with
  | coalesced h =>
    refine .inl ⟨rfl, List.mem_append.mpr ?_⟩
    exact h.imp isDisconnectFor_iff.mp isDeferredDisconnectFor_iff.mp
  | queued hroom hn => exact .inr ⟨by simp [queuedDisconnects_cons, hnew], hnot hn⟩
  | evicted l r e x hq hl hx hfull hn =>
    refine .inr ⟨?_, hnot hn⟩
    simp [hq, queuedDisconnects_cons, hnew, deferredDisconnect_of_decision hx]
  | saturated next r hq hr hfull hn =>
    refine .inr ⟨?_, hnot hn⟩
    rw [hq, queuedDisconnects_append, queuedDisconnects_cons, queuedDisconnects_cons, hnew]
    simp [deferredDisconnect]

lemma disconnects_start (n : PreparedNotification F) :
    disconnects (d.start n) = (noticeState n).toList ++ queuedDisconnects d.deferred := by
  obtain ⟨state, summary, kind, admission⟩ := n
  cases kind <;> rfl

/-- A routed notification of a disconnect is started, or added unless it is there already; one
of a cancellation adds nothing. -/
lemma disconnects_routed {route : Route} {n : PreparedNotification F}
    (hr : Routed d n route d') (hw : handDisconnect d.await = none)
    (hk : ∀ b, route = .disconnect b → n.kind = .appDisconnect)
    (hc : ∀ b, route = .cancel b → n.kind = .cancelRequest) :
    ((disconnects d').Sublist (disconnects d) ∧
      (route = .disconnect false → n.state ∈ disconnects d')) ∨
    (n.kind = .appDisconnect ∧ route ≠ .disconnect false ∧
      disconnects d' = n.state :: queuedDisconnects d.deferred) ∨
    (n.kind = .appDisconnect ∧ n.state ∉ disconnects d ∧ n.state ∈ disconnects d' ∧
      (disconnects d').Sublist (disconnects d ++ [n.state])) := by
  have hd : disconnects d = slotDisconnects d := by rw [disconnects, hw]; rfl
  have hqueue : (queuedDisconnects d.deferred).Sublist (slotDisconnects d) :=
    List.sublist_append_right ..
  rw [hd]
  cases hr with
  | starts route hroute =>
    have hne : route ≠ .disconnect false := by rcases hroute with rfl | rfl | rfl <;> simp
    rw [disconnects_start]
    rcases hkind : n.kind with _ | _
    · exact .inl ⟨by simpa [noticeState, hkind] using hqueue, fun h => absurd h hne⟩
    · exact .inr (.inl ⟨rfl, hne, by simp [noticeState, hkind]⟩)
  | queues =>
    have hnone : deferredDisconnect (.notification n) = none := by
      simp [deferredDisconnect, noticeState, hc false rfl]
    left
    simp [disconnects, slotDisconnects, handDisconnect, queuedDisconnects_cons, hnone]
  | abandons => exact .inl ⟨List.Sublist.refl _, by simp⟩
  | defers q sent h =>
    obtain ⟨he, hm⟩ | ⟨he, hn⟩ := Deferral.disconnects h (hk false rfl)
    · cases he
      exact .inl ⟨List.Sublist.refl _, fun _ => hm⟩
    have hq : queuedDisconnects q = queuedDisconnects d.deferred ++ [n.state] := he
    refine .inr (.inr ⟨hk false rfl, hn, ?_, ?_⟩) <;>
      simp [disconnects, slotDisconnects, handDisconnect, hq]
  | waits next q a h ha hadm =>
    obtain ⟨he, -⟩ | ⟨he, hn⟩ := Deferral.disconnects h (hk false rfl)
    · cases he
    have hact : activeDisconnect a = none := by
      obtain ⟨state, kind, future⟩ := a
      cases kind with
      | decision => rfl
      | notification => cases hadm
    have hlist : disconnects (({ d with deferred := q }).wait (.invalidateOverload a.state next))
        = slotDisconnects d ++ [n.state] := by
      simpa [disconnects, slotDisconnects, handDisconnect, ha, hact] using he
    rw [hlist]
    exact .inr (.inr ⟨hk false rfl, hn, by simp, List.Sublist.refl _⟩)
  | overloads next q h =>
    obtain ⟨he, -⟩ | ⟨he, hn⟩ := Deferral.disconnects h (hk false rfl)
    · cases he
    have hlist : disconnects (({ d with deferred := q }).overload next)
        = queuedDisconnects d.deferred ++ [n.state] := by
      rwa [Desk.overload, disconnects_start, failActive_deferred]
    rw [hlist]
    exact .inr (.inr ⟨hk false rfl, hn, by simp, List.Sublist.append_right hqueue _⟩)

variable [Double F] {cfg : Config} {alive : App → Bool} {new : Option (XSWDEvent F)}

lemma turn_routed (h : Shape d) (ht : Turn cfg alive d new d') {k : NotificationKind} {b : Bool}
    {route : Route} {r : ℕ} (hw : d.await = .describeNotification s k b route r) :
    ∃ n, IsNotice s k b n ∧ Routed d n route d' ∧ new = none := by
  cases ht with
  | routed s' k' b' route' r' n hw' hn =>
    rw [hw] at hw'
    cases hw'
    exact ⟨n, hn, h.slots.routed route n, rfl⟩
  | dispatched _ _ hw' | idleClosed hw' | idleReceived _ hw' | returned _ _ hw'
  | busyClosed _ _ hw' | busyReceived _ _ _ hw' | registered _ _ _ hw' | refused _ _ _ hw'
  | called _ _ _ _ hw' | invalidatedIdle _ hw' | invalidatedCancel _ _ _ hw'
  | invalidatedDisconnect _ _ hw' | invalidatedOverload _ _ hw' | projected _ _ _ _ _ hw'
  | unprojected _ _ _ _ hw' | finished _ _ hw' =>
    rw [hw] at hw'
    cases hw'

lemma turn_disconnects (ht : Turn cfg alive d new d')
    (hw : ∀ s k b route r, d.await ≠ .describeNotification s k b route r) :
    (disconnects d').Sublist (disconnects d) := by
  have hslots : (slotDisconnects d).Sublist (disconnects d) := List.sublist_append_right ..
  cases ht with
  | routed s k b route r n hw' => exact absurd hw' (hw s k b route r)
  | dispatched event rest hw' ha hq =>
    have hd : disconnects d = (deferredDisconnect event).toList ++ queuedDisconnects rest := by
      simp [disconnects, slotDisconnects, hw', handDisconnect, ha, hq, queuedDisconnects_cons]
    rw [hd]
    cases event with
    | raw =>
      rw [Desk.dispatch, disconnects_prepared (prepared ..)]
      simp [slotDisconnects, ha, deferredDisconnect]
    | notification =>
      rw [Desk.dispatch, disconnects_start]
      exact List.Sublist.refl _
  | idleReceived => rwa [disconnects_prepared (prepared ..)]
  | busyReceived a burst event hw' =>
    exact (disconnects_busied (d := { d.receive alive event with receiveBurst := burst })
      hw' (busied ..)).trans hslots
  | returned a outcome hw' =>
    refine List.Sublist.trans ?_ hslots
    simp [disconnects, slotDisconnects, hw', handDisconnect]
  | called =>
    refine List.Sublist.trans ?_ hslots
    simp [disconnects, slotDisconnects, handDisconnect, activeDisconnect]
  | invalidatedCancel => exact (disconnects_acknowledgeCancel ..).trans hslots
  | invalidatedDisconnect state b =>
    refine List.Sublist.trans ?_ hslots
    cases b with
    | true => rw [if_pos rfl, cancelActive_eq]; exact slotDisconnects_failActive ..
    | false => exact List.Sublist.refl _
  | invalidatedOverload state next hw' =>
    rw [Desk.overload, disconnects_start, failActive_deferred, disconnects, hw']
    exact List.Sublist.append_left (List.sublist_append_right ..) _
  | finished states busy =>
    cases busy with
    | true => simp [disconnects, slotDisconnects, Desk.finish, handDisconnect]
    | false => exact hslots
  | idleClosed | busyClosed | registered | refused | invalidatedIdle | projected | unprojected =>
    exact hslots

/-! ### The decisions under way -/

/-- A decision that has been registered and is about to be called. -/
def describing : Await F → Option (Decision F)
  | .describe x _ _ => some x
  | _ => none

/-- The decisions that are called or about to be. -/
def underWay (d : Desk F) : List (Decision F) :=
  (describing d.await).toList ++ (d.active.bind activeDecision).toList

lemma turn_describe (h : Shape d) (ht : Turn cfg alive d new d')
    (hx : describing d'.await = some x) :
    ∃ t r, d.await = .register x t ∧ d'.await = .describe x t r := by
  have hl := turn_await h ht
  generalize d'.await = aw at hl hx
  cases hl with
  | describe y t r hw =>
    cases hx
    exact ⟨t, r, hw, rfl⟩
  | _ => cases hx

lemma turn_underWay (h : Shape d) (ht : Turn cfg alive d new d') (hx : x ∈ underWay d') :
    x ∈ underWay d ∨ ∃ t r, d.await = .register x t ∧ d'.await = .describe x t r := by
  obtain hx | hx := List.mem_append.mp hx
  · exact .inr (turn_describe h ht (by simpa using hx))
  left
  obtain hnone | hsame | ⟨n, hn, -⟩ | ⟨y, t, r, summary, hw, rfl⟩ := turn_active h ht
  · simp [hnone] at hx
  · rw [hsame] at hx
    exact List.mem_append_right _ hx
  · simp [hn, activeDecision] at hx
  · refine List.mem_append_left _ ?_
    rwa [hw]

/-! ### One disconnect for a state -/

/-- What is known while a disconnect is handled: its state is shut, none of its decisions is
active, and if one was, no disconnect of the state is queued. -/
def HandlesDisconnect (w : World F) (s : App) (route : Route) : Prop :=
  Closed w s ∧ (∀ x ∈ underWay w.desk, x.state ≠ s) ∧
    (route = .disconnect true → s ∉ queuedDisconnects w.desk.deferred)

/-- What the awaits know of the notifications. -/
def NoticeOk (w : World F) : Await F → Prop
  | .invalidateDisconnect s b => b = true → s ∉ queuedDisconnects w.desk.deferred
  | .project s .appDisconnect _ route | .describeNotification s .appDisconnect _ route _ =>
      HandlesDisconnect w s route
  | _ => True

structure Notices (w : World F) : Prop where
  nodup : (disconnects w.desk).Nodup
  shut : ∀ s ∈ disconnects w.desk, Closed w s ∧ ∀ x ∈ underWay w.desk, x.state ≠ s
  await : NoticeOk w w.desk.await

variable {w w' : World F}

omit [Double F] in
lemma closed_spared (hs : Sound w) (h : Spared w w') (hc : Closed w s) : Closed w' s :=
  (h.effects.shut hs.wf hc).mono h.alive

lemma closed_took (hs : Sound w) (h : Took cfg w new w') (hc : Closed w s) : Closed w' s := by
  unfold Closed
  rw [h.alive]
  exact h.effects.shut hs.wf hc

omit [Double F] in
lemma notices_spared (hs : Sound w) (hn : Notices w) (h : Spared w w') : Notices w' := by
  have hq : queuedDisconnects w'.desk.deferred = queuedDisconnects w.desk.deferred := by rw [h.desk]
  have hhandles : ∀ s route, HandlesDisconnect w s route → HandlesDisconnect w' s route := by
    rintro s route ⟨hc, hu, hr⟩
    exact ⟨closed_spared hs h hc, by rw [h.desk]; exact hu, by rw [hq]; exact hr⟩
  refine ⟨by rw [h.desk]; exact hn.nodup, ?_, ?_⟩
  · rw [h.desk]
    exact fun s hm => ⟨closed_spared hs h (hn.shut s hm).1, (hn.shut s hm).2⟩
  have haw := hn.await
  rw [h.desk]
  cases hw : w.desk.await with
  | invalidateDisconnect => rw [hw] at haw; rw [NoticeOk, hq]; exact haw
  | project s k b route | describeNotification s k b route r =>
    cases k with
    | appDisconnect => rw [hw] at haw; exact hhandles _ _ haw
    | cancelRequest => trivial
  | _ => trivial

omit [Double F] in
/-- A disconnect while a decision of its state is active finds none of the state queued. -/
lemma notice_busied (hn : Notices w) {d₁ : Desk F} (hb : Busied d₁ event w'.desk)
    (ha : d₁.active = w.desk.active) (hq : d₁.deferred = w.desk.deferred) (hw : d₁.await = .loop) :
    NoticeOk w' w'.desk.await := by
  generalize hd : w'.desk = d' at hb
  cases hb with
  | queued | refused => simp [hw, NoticeOk]
  | invalidates | acknowledges => trivial
  | disconnects s =>
    intro hb hm
    rw [hd, Desk.wait_deferred, cancelQueued_deferred, queuedDisconnects_kept, hq] at hm
    rw [ha] at hb
    rcases hact : w.desk.active with _ | a <;> rw [hact] at hb
    · cases hb
    obtain ⟨x, hx, hxs⟩ := isDecisionFor_iff.mp (by simpa using hb)
    refine (hn.shut s ?_).2 x ?_ hxs
    · exact List.mem_append_right _ (List.mem_append_right _ hm)
    · simp [underWay, hact, hx]

omit [Double F] in
lemma notice_prepared {d₁ d₂ : Desk F} (hp : Prepared d₁ event d₂) : NoticeOk w' d₂.await := by
  cases hp <;> trivial

lemma noticeOk_took (hs : Sound w) (hn : Notices w) (h : Took cfg w new w') :
    NoticeOk w' w'.desk.await := by
  have haw := hs.inv.shape.await
  have hnote := hn.await
  have ht := h.turn
  have hinv := h.invalidated
  generalize hd : w'.desk = d' at ht
  cases ht with
  | dispatched event rest =>
    cases event with
    | notification => trivial
    | raw event => exact notice_prepared (prepared cfg { w.desk with deferred := rest } event)
  | idleReceived => exact notice_prepared (prepared ..)
  | busyReceived a burst event hw =>
    have hb := busied { w.desk.receive w.alive event with receiveBurst := burst } event
    rw [← hd] at hb ⊢
    exact notice_busied hn hb rfl rfl hw
  | returned a outcome hw =>
    change NoticeOk w' w.desk.await
    rw [hw]
    trivial
  | invalidatedIdle s hw =>
    rw [hw] at haw
    refine ⟨hinv s (by simp [hw, invalidates]), ?_, by simp⟩
    rw [hd]
    simp [underWay, describing, haw.1]
  | invalidatedDisconnect s b hw =>
    rw [hw] at haw hnote
    refine ⟨hinv s (by simp [hw, invalidates]), ?_, ?_⟩
    · rw [hd]
      cases b with
      | true => simp [underWay, describing]
      | false =>
        intro x hx hxs
        rcases hact : w.desk.active with _ | a
        · simp [underWay, describing, hact] at hx
        have hfor : a.isDecisionFor s = true :=
          isDecisionFor_iff.mpr ⟨x, by simpa [underWay, describing, hact] using hx, hxs⟩
        have : w.desk.active.any (·.isDecisionFor s) = false := haw
        simp [hact, hfor] at this
    · intro hroute
      cases hroute
      rw [hd]
      simpa using hnote rfl
  | projected s k b route r hw =>
    rw [hw] at hnote
    cases k with
    | cancelRequest => trivial
    | appDisconnect =>
      obtain ⟨hc, hu, hr⟩ := hnote
      refine ⟨closed_took hs h hc, ?_, ?_⟩ <;> rw [hd]
      · simpa [underWay, describing, hw] using hu
      · exact hr
  | routed s k b route r n =>
    have hr := hs.inv.shape.slots.routed route n
    generalize w.desk.route route (some n) = d₁ at hr
    cases hr <;> trivial
  | finished states busy => cases busy <;> trivial
  | idleClosed | busyClosed | registered | refused | called | invalidatedCancel
  | invalidatedOverload | unprojected => trivial

lemma notices_took (hs : Sound w) (hn : Notices w) (h : Took cfg w new w') : Notices w' := by
  have hshape := hs.inv.shape
  -- the states that had a disconnect before stay shut, with nothing under way
  have hold : ∀ s ∈ disconnects w.desk, Closed w' s ∧ ∀ x ∈ underWay w'.desk, x.state ≠ s := by
    intro s hm
    obtain ⟨hc, hu⟩ := hn.shut s hm
    refine ⟨closed_took hs h hc, fun x hx => ?_⟩
    obtain hx | ⟨t, r, hw, hw'⟩ := turn_underWay hshape h.turn hx
    · exact hu x hx
    · rintro rfl
      exact h.registered x t r hw hw' hc
  by_cases hdesc : ∃ s k b route r, w.desk.await = .describeNotification s k b route r
  · obtain ⟨s, k, b, route, r, hw⟩ := hdesc
    obtain ⟨n, ⟨rfl, rfl, -⟩, hr, -⟩ := turn_routed hshape h.turn hw
    have haw := hshape.await
    have hnote := hn.await
    rw [hw] at haw hnote
    have hhandles : n.kind = .appDisconnect → HandlesDisconnect w n.state route := by
      intro hk
      rwa [hk] at hnote
    -- the state of a disconnect is shut when its notification is routed
    have hnew : n.kind = .appDisconnect →
        Closed w' n.state ∧ ∀ x ∈ underWay w'.desk, x.state ≠ n.state := by
      intro hk
      obtain ⟨hc, hu, -⟩ := hhandles hk
      refine ⟨closed_took hs h hc, fun x hx => ?_⟩
      obtain hx | ⟨t, r, hw', -⟩ := turn_underWay hshape h.turn hx
      · exact hu x hx
      · rw [hw] at hw'
        cases hw'
    rcases disconnects_routed hr (by rw [hw]; rfl) (by rintro b rfl; exact haw.1)
      (by rintro b rfl; exact haw.1) with ⟨hsub, -⟩ | ⟨hk, hne, hlist⟩ | ⟨hk, hnot, -, hsub⟩
    · exact ⟨hn.nodup.sublist hsub, fun s hm => hold s (hsub.subset hm), noticeOk_took hs hn h⟩
    · have hqueue : (queuedDisconnects w.desk.deferred).Sublist (disconnects w.desk) :=
        (List.sublist_append_right ..).trans (List.sublist_append_right ..)
      refine ⟨?_, ?_, noticeOk_took hs hn h⟩
      · rw [hlist, List.nodup_cons]
        refine ⟨?_, hn.nodup.sublist hqueue⟩
        obtain _ | b | b := route
        · rw [haw.2.1]
          simp
        · rw [haw.1] at hk
          cases hk
        cases b with
        | false => exact absurd rfl hne
        | true => exact (hhandles hk).2.2 rfl
      · rw [hlist]
        intro s hm
        obtain rfl | hm := List.mem_cons.mp hm
        · exact hnew hk
        · exact hold s (hqueue.subset hm)
    · refine ⟨List.Nodup.sublist hsub ?_, fun s hm => ?_, noticeOk_took hs hn h⟩
      · exact List.nodup_append.mpr ⟨hn.nodup, List.nodup_singleton _, by
          intro s hs' t ht
          rw [List.mem_singleton.mp ht]
          rintro rfl
          exact hnot hs'⟩
      · obtain hm | hm := List.mem_append.mp (hsub.subset hm)
        · exact hold s hm
        · rw [List.mem_singleton.mp hm]
          exact hnew hk
  · have hsub := turn_disconnects h.turn (fun s k b route r hw => hdesc ⟨s, k, b, route, r, hw⟩)
    exact ⟨hn.nodup.sublist hsub, fun s hm => hold s (hsub.subset hm), noticeOk_took hs hn h⟩

theorem reachable_notices (h : Reachable (worlds cfg) w) : Notices w := by
  refine h.invariant (P := Notices) ?_ ?_
  · rintro w ⟨hd, -, -⟩
    refine ⟨?_, ?_, ?_⟩ <;>
      simp [hd, Desk.initial, disconnects, slotDisconnects, handDisconnect, NoticeOk]
  · intro w a w' hr hn hstep
    have hs := reachable_sound hr
    obtain ⟨new, h⟩ | h := world_cases hs hstep
    · exact notices_took hs hn h
    · exact notices_spared hs hn h

end XelisWallet.DispatcherNotices
