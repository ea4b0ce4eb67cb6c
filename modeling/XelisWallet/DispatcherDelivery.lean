import XelisWallet.DispatcherNotices

/-!
The notifications of a dispatcher are delivered.

While the channel is open, a prepared notification that waits keeps waiting until it is
started. A received disconnect, or a cancellation that cancelled an admission, is handled until
its notification waits or is started; only a disconnect may find another one of its state.
-/

namespace XelisWallet.DispatcherDelivery

open Json Runs Checked Xswd Dispatcher DispatcherQueue DispatcherTurns DispatcherShape
open DispatcherMoves DispatcherWorld DispatcherAnswers DispatcherSessions DispatcherNotices

variable {F : Type} {d d' : Desk F} {n : PreparedNotification F}

/-- A notification is queued, or has been taken from the queue to be started. -/
def Waits (n : PreparedNotification F) (d : Desk F) : Prop :=
  .notification n ∈ d.deferred ∨ ∃ s, d.await = .invalidateOverload s n

/-- The dispatcher has not seen the channel closed. -/
def Serving : Await F → Prop
  | .close _ _ | .ended => False
  | _ => True

/-- The event of a state is handled, up to the notification of a kind: a disconnect, or a
cancellation that cancelled an admission. -/
def Handles (s : App) (k : NotificationKind) : Await F → Prop
  | .invalidateIdle t | .invalidateDisconnect t _ => t = s ∧ k = .appDisconnect
  | .invalidateCancel t _ _ => t = s ∧ k = .cancelRequest
  | .project t k' admission _ | .describeNotification t k' admission _ _ =>
      t = s ∧ k' = k ∧ (k = .cancelRequest → admission = true)
  | _ => False

/-- The notification that the handling leads to. -/
def Tells (s : App) (k : NotificationKind) (n : PreparedNotification F) : Prop :=
  n.state = s ∧ n.kind = k ∧ (k = .cancelRequest → n.cancelledApplicationAdmission = true)

/-- A disconnect of the state is active. -/
def Active (s : App) (k : NotificationKind) (d : Desk F) : Prop :=
  k = .appDisconnect ∧ d.active.any (·.isDisconnectFor s) = true

/-- The notification is still to come. -/
def Due (s : App) (k : NotificationKind) (d : Desk F) : Prop :=
  Handles s k d.await ∨ ∃ n, Tells s k n ∧ Waits n d

/-- What has become of the notification since a desk: it is still to come, it was called, or
it found another one active. -/
def Kept (s : App) (k : NotificationKind) (d d' : Desk F) : Prop :=
  Due s k d' ∨ (∃ n, Tells s k n ∧ Notifies d n d') ∨ Active s k d

/-! ### What waits -/

variable {q : List (DeferredEvent F)}

lemma waits_of_mem (h : .notification n ∈ q) (hq : d'.deferred = q) : Waits n d' :=
  .inl (hq ▸ h)

lemma mem_kept {s : App} (h : .notification n ∈ q) : .notification n ∈ kept s q :=
  List.mem_filter.mpr ⟨h, rfl⟩

lemma mem_busied {event : XSWDEvent F} (hb : Busied d event d') (h : .notification n ∈ d.deferred) :
    .notification n ∈ d'.deferred := by
  cases hb with
  | queued => exact List.mem_append_left _ h
  | refused => exact h
  | invalidates | disconnects => exact mem_kept h
  | acknowledges =>
    rw [queued_acknowledgeCancel]
    exact mem_kept h

lemma Deferral.keeps {act : Option (ActiveCallback F)} {m : PreparedNotification F}
    {r : Option (PreparedNotification F) × List (DeferredEvent F) × List (Entry F)}
    (h : Deferral q act m r) (hn : .notification n ∈ q) :
    .notification n ∈ r.2.1 ∨ r.1 = some n := by
  cases h with
  | coalesced => exact .inl hn
  | queued => exact .inl (List.mem_append_left _ hn)
  | evicted l r e x hq hl hx =>
    left
    have hne : DeferredEvent.notification n ≠ e := by
      rintro rfl
      cases hx
    rw [hq] at hn
    simp only [List.mem_append, List.mem_cons, hne, false_or] at hn
    exact List.mem_append_left _ (List.mem_append.mpr hn)
  | saturated next r hq =>
    rw [hq] at hn
    obtain he | hn := List.mem_cons.mp hn
    · cases he
      exact .inr rfl
    · exact .inl (List.mem_append_left _ hn)

lemma Deferral.adds {act : Option (ActiveCallback F)}
    {r : Option (PreparedNotification F) × List (DeferredEvent F) × List (Entry F)}
    (h : Deferral q act n r) :
    .notification n ∈ r.2.1 ∨ (r.1 = none ∧ r.2.1 = q ∧
      (act.any (·.isDisconnectFor n.state) = true ∨
        q.any (isDeferredDisconnectFor n.state) = true)) := by
  cases h with
  | coalesced h => exact .inr ⟨rfl, rfl, h⟩
  | queued | evicted | saturated => exact .inl (by simp)

lemma waits_routed {m : PreparedNotification F} {route : Route} (hr : Routed d m route d')
    (hn : .notification n ∈ d.deferred) : Waits n d' ∨ Notifies d n d' := by
  cases hr with
  | starts | abandons => exact .inl (.inl hn)
  | queues => exact .inl (.inl (List.mem_append_left _ hn))
  | defers q sent h =>
    obtain hm | he := Deferral.keeps h hn
    · exact .inl (.inl hm)
    · cases he
  | waits next q a h =>
    obtain hm | he := Deferral.keeps h hn
    · exact .inl (.inl hm)
    · cases he
      exact .inl (.inr ⟨a.state, rfl⟩)
  | overloads next q h =>
    obtain hm | he := Deferral.keeps h hn
    · refine .inl (waits_of_mem hm ?_)
      exact failActive_deferred _ { d with deferred := q }
    · cases he
      exact .inr (notifies_overload { d with deferred := q } n)

/-! ### Turns -/

variable [Double F] {cfg : Config} {alive : App → Bool} {new : Option (XSWDEvent F)}

variable (h : Shape d)
include h

variable (ht : Turn cfg alive d new d')
include ht

/-- **What waits keeps waiting until it is started**, while the channel is open. -/
theorem turn_waits (hs : Serving d.await)
    (hc : .closed ∉ d'.log) (hn : Waits n d) : Waits n d' ∨ Notifies d n d' := by
  have hmem : (∀ s m, d.await ≠ .invalidateOverload s m) → .notification n ∈ d.deferred :=
    fun hw => hn.resolve_right fun ⟨s, hs⟩ => hw s n hs
  cases ht with
  | dispatched event rest hw ha hq =>
    have hm := hmem (by simp [hw])
    rw [hq] at hm
    obtain rfl | hm := List.mem_cons.mp hm
    · exact .inr (notifies_start { d with deferred := rest } n)
    refine .inl (waits_of_mem hm ?_)
    cases event with
    | raw event => exact (prepared cfg { d with deferred := rest } event).slots.1
    | notification => rfl
  | idleClosed | busyClosed => exact absurd (by simp [Desk.closing]) hc
  | idleReceived event hw ha hq =>
    have hm := hmem (by simp [hw])
    simp [hq] at hm
  | busyReceived a burst event hw =>
    exact .inl (.inl (mem_busied (d := { d.receive alive event with receiveBurst := burst })
      (busied ..) (hmem (by simp [hw]))))
  | invalidatedCancel s c b hw =>
    exact .inl (waits_of_mem (hmem (by simp [hw])) (queued_acknowledgeCancel ..))
  | invalidatedDisconnect s b hw =>
    refine .inl (waits_of_mem (hmem (by simp [hw])) ?_)
    cases b with
    | true => exact cancelActive_deferred d
    | false => rfl
  | invalidatedOverload s next hw =>
    obtain hm | ⟨s', hs'⟩ := hn
    · exact .inl (waits_of_mem hm (failActive_deferred _ d))
    rw [hw] at hs'
    cases hs'
    exact .inr (notifies_overload d n)
  | returned _ _ hw | registered _ _ _ hw | refused _ _ _ hw | called _ _ _ _ hw
  | invalidatedIdle _ hw | projected _ _ _ _ _ hw | unprojected _ _ _ _ hw =>
    exact .inl (.inl (hmem (by simp [hw])))
  | routed s k b route r m hw => exact waits_routed (h.slots.routed route m) (hmem (by simp [hw]))
  | finished states busy hw =>
    rw [hw] at hs
    exact hs.elim

lemma turn_serving
    (hs : Serving d.await ∨ .closed ∈ d.log) : Serving d'.await ∨ .closed ∈ d'.log := by
  obtain ⟨more, hlog⟩ := turn_log_append h ht
  have hl := turn_await h ht
  generalize d'.await = aw at hl
  cases hl with
  | close busy hc => exact .inr hc
  | ended states busy hw =>
    rw [hw] at hs
    rw [hlog]
    exact .inr (List.mem_append_left _ (hs.resolve_left id))
  | _ => exact .inl trivial

/-- **Handling an event leads to its notification**, or finds a disconnect of the state
active. -/
theorem turn_handles {s : App} {k : NotificationKind} (hh : Handles s k d.await)
    (hp : ∀ t k' b route, d.await = .project t k' b route → d'.await ≠ .loop) : Handles s k d'.await
    ∨ (∃ n, Tells s k n ∧ (Waits n d' ∨ Notifies d n d')) ∨ Active s k d := by
  have haw := h.await
  cases ht with
  | invalidatedIdle _ hw | invalidatedDisconnect _ _ hw =>
    rw [hw] at hh
    obtain ⟨rfl, rfl⟩ := hh
    exact .inl ⟨rfl, rfl, by simp⟩
  | invalidatedCancel t c b hw =>
    rw [hw] at hh
    obtain ⟨rfl, rfl⟩ := hh
    exact .inl ⟨rfl, rfl, fun _ => rfl⟩
  | projected t k' b route r hw =>
    rw [hw] at hh
    exact .inl hh
  | unprojected t k' b route hw => exact absurd rfl (hp t k' b route hw)
  | routed t k' b route r n hw hn =>
    rw [hw] at hh haw
    obtain ⟨rfl, rfl, hb⟩ := hh
    obtain ⟨hstate, hkind, hflag⟩ := hn
    have htells : Tells t k' n := by
      refine ⟨hstate, hkind, fun hk => ?_⟩
      rw [hflag, hb hk, hk]
      rfl
    have hr := h.slots.routed route n
    generalize d.route route (some n) = d₁ at hr
    right
    cases hr with
    | starts => exact .inl ⟨n, htells, .inr (notifies_start d n)⟩
    | queues => exact .inl ⟨n, htells, .inl (.inl (by simp))⟩
    | abandons hfull => exact absurd (haw.2.2 (hb haw.1) rfl) hfull
    | defers q sent hd =>
      obtain hm | ⟨-, rfl, hact | hq⟩ := Deferral.adds hd
      · exact .inl ⟨n, htells, .inl (.inl hm)⟩
      · exact .inr ⟨haw.1, hstate ▸ hact⟩
      -- the disconnect that is queued already
      rw [hstate, isDeferredDisconnectFor_iff] at hq
      obtain ⟨e, he, hm⟩ := List.mem_filterMap.mp hq
      obtain event | m := e
      · cases hm
      obtain ⟨state, summary, kind, admission⟩ := m
      cases kind with
      | cancelRequest => cases hm
      | appDisconnect =>
        cases hm
        exact .inl ⟨_, ⟨rfl, haw.1.symm, by simp [haw.1]⟩, .inl (.inl he)⟩
    | waits next q a hd =>
      obtain hm | ⟨hne, -⟩ := Deferral.adds hd
      · exact .inl ⟨n, htells, .inl (.inl hm)⟩
      · cases hne
    | overloads next q hd =>
      obtain hm | ⟨hne, -⟩ := Deferral.adds hd
      · refine .inl ⟨n, htells, .inl (waits_of_mem hm ?_)⟩
        exact failActive_deferred _ { d with deferred := q }
      · cases hne
  | dispatched _ _ hw | idleClosed hw | idleReceived _ hw | returned _ _ hw | busyClosed _ _ hw
  | busyReceived _ _ _ hw | registered _ _ _ hw | refused _ _ _ hw | called _ _ _ _ hw
  | invalidatedOverload _ _ hw | finished _ _ hw =>
    rw [hw] at hh
    exact hh.elim

lemma turn_activeDisconnect {s : App} {k : NotificationKind}
    (ha : Active s k d') : Active s k d ∨ ∃ n, Tells s k n ∧ Notifies d n d' := by
  obtain ⟨rfl, ha⟩ := ha
  obtain hnone | hsame | ⟨n, hn, hlog⟩ | ⟨x, t, r, summary, -, rfl⟩ := turn_active h ht
  · simp [hnone] at ha
  · exact .inl ⟨rfl, hsame ▸ ha⟩
  · refine .inr ⟨n, ?_, hlog⟩
    obtain ⟨state, summary, kind, admission⟩ := n
    rw [hn, isDisconnectFor_iff] at ha
    cases kind with
    | cancelRequest => simp [activeDisconnect] at ha
    | appDisconnect => exact ⟨by simpa [activeDisconnect, eq_comm] using ha, rfl, by simp⟩
  · simp [ActiveCallback.isDisconnectFor] at ha

/-- What is due stays due until it is called. -/
lemma turn_due (hs : Serving d.await) (hc : .closed ∉ d'.log) {s : App} {k : NotificationKind}
    (hp : ∀ t k' b route, d.await = .project t k' b route → d'.await ≠ .loop) (hd : Due s k d)
    (ha : ¬ Active s k d) : (Due s k d' ∧ ¬ Active s k d') ∨ ∃ n, Tells s k n ∧ Notifies d n d' :=
    by
  have hstep : Due s k d' ∨ ∃ n, Tells s k n ∧ Notifies d n d' := by
    obtain hh | ⟨n, hn, hw⟩ := hd
    · obtain hh | ⟨n, hn, hw | hnot⟩ | hact := turn_handles h ht hh hp
      · exact .inl (.inl hh)
      · exact .inl (.inr ⟨n, hn, hw⟩)
      · exact .inr ⟨n, hn, hnot⟩
      · exact absurd hact ha
    · obtain hw | hnot := turn_waits h ht hs hc hw
      · exact .inl (.inr ⟨n, hn, hw⟩)
      · exact .inr ⟨n, hn, hnot⟩
  obtain hd | hnot := hstep
  · by_cases hact : Active s k d'
    · exact .inr ((turn_activeDisconnect h ht hact).resolve_left ha)
    · exact .inl ⟨hd, hact⟩
  · exact .inr hnot

omit ht

omit h

/-! ### Runs -/

lemma reachable_serving (h : Reachable (desks cfg) d) : Serving d.await ∨ .closed ∈ d.log := by
  refine h.invariant (P := fun d => Serving d.await ∨ .closed ∈ d.log) ?_ ?_
  · rintro d rfl
    exact .inl trivial
  rintro d ⟨alive, input⟩ d' hr hd hstep
  obtain ⟨new, ht, -⟩ := turn_of_step hstep
  exact turn_serving (reachable_inv hr).shape ht hd

variable {u v w w' : World F} {a : Action F} {ms : List (Action F)} {s : App}
  {k : NotificationKind}

omit [Double F] in
lemma Notifies.trans_log {d₁ d₂ d₃ : Desk F} (h : Notifies d₁ n d₂) {more : List (Entry F)}
    (hlog : d₃.log = d₂.log ++ more) : Notifies d₁ n d₃ := by
  obtain ⟨sent, hsent, hn⟩ := h
  exact ⟨sent ++ more, by rw [hlog, hsent, List.append_assoc], List.mem_append_left _ hn⟩

lemma step_log (hw : Reachable (worlds cfg) w) (h : (worlds cfg).step w a w') :
    w.next ≤ w'.next ∧ ∃ more, w'.desk.log = w.desk.log ++ more := by
  have hs := reachable_sound hw
  obtain ⟨new, ht⟩ | ht := world_cases hs h
  · exact ⟨ht.effects.next_le, turn_log_append hs.inv.shape ht.turn⟩
  · exact ⟨ht.effects.next_le, [], by rw [ht.desk, List.append_nil]⟩

lemma run_log (hv : Reachable (worlds cfg) v) (hr : Run (worlds cfg) v ms w) :
    ∃ more, w.desk.log = v.desk.log ++ more := by
  induction hr with
  | nil => exact ⟨[], by simp⟩
  | snoc hr hstep ih =>
    obtain ⟨m₁, h₁⟩ := ih
    obtain ⟨-, m₂, h₂⟩ := step_log (hv.run hr) hstep
    exact ⟨m₁ ++ m₂, by rw [h₂, h₁, List.append_assoc]⟩

/-- **No notification is lost**: once its event is handled, it is due until it is called, as
long as the channel is open and references can be allocated. -/
theorem run_kept (hv : Reachable (worlds cfg) v) (hh : Handles s k v.desk.await)
    (hr : Run (worlds cfg) v ms w) (hc : .closed ∉ w.desk.log) (hx : w.next + 1 ≤ u64Max) :
    Kept s k v.desk w.desk := by
  by_cases hact : Active s k v.desk
  · exact .inr (.inr hact)
  -- along the run: due and not active, or called
  have hrun : (Due s k w.desk ∧ ¬ Active s k w.desk) ∨
      ∃ n, Tells s k n ∧ Notifies v.desk n w.desk := by
    induction hr with
    | nil => exact .inl ⟨.inl hh, hact⟩
    | @snoc w w' _ _ hr hstep ih =>
      have hw := hv.run hr
      have hs := reachable_sound hw
      obtain ⟨hnext, more, hlog⟩ := step_log hw hstep
      have hopen : .closed ∉ w.desk.log := fun hm =>
        hc (by rw [hlog]; exact List.mem_append_left _ hm)
      obtain ⟨hd, ha⟩ | ⟨n, hn, hnot⟩ := ih hopen (by omega)
      · obtain ⟨new, ht⟩ | ht := world_cases hs hstep
        · have hserve := (reachable_serving (reachable_desk hw)).resolve_right hopen
          rcases turn_due hs.inv.shape ht.turn hserve hc (fun t k' b route hp hloop => by
              have := ht.projected t k' b route hp hloop
              omega) hd ha with hd | ⟨n, hn, hnot⟩
          · exact .inl hd
          obtain ⟨before, hbefore⟩ := run_log hv hr
          obtain ⟨sent, hsent, hm⟩ := hnot
          exact .inr ⟨n, hn, before ++ sent, by rw [hsent, hbefore, List.append_assoc],
            List.mem_append_right _ hm⟩
        · rw [ht.desk]
          exact .inl ⟨hd, ha⟩
      · exact .inr ⟨n, hn, Notifies.trans_log hnot hlog⟩
  obtain ⟨hd, -⟩ | hn := hrun
  · exact .inl hd
  · exact .inr (.inl hn)

lemma took_received {event : XSWDEvent F} (hu : Reachable (worlds cfg) u)
    (hstep : (worlds cfg).step u a v)
    (hrec : receivedEvents v.desk.log = receivedEvents u.desk.log ++ [event]) :
    Took cfg u (some event) v := by
  have hs := reachable_sound hu
  obtain ⟨new, ht⟩ | ht := world_cases hs hstep
  · have hnew := turn_receivedEvents hs.inv.shape ht.turn
    rw [hrec, List.append_cancel_left_eq] at hnew
    rcases new with _ | e <;> cases hnew
    exact ht
  · rw [ht.desk] at hrec
    simp at hrec

lemma handles_disconnect (ht : Turn cfg alive d (some (.appDisconnect s)) d') :
    Handles s .appDisconnect d'.await := by
  cases ht with
  | idleReceived | busyReceived => exact ⟨rfl, rfl⟩

lemma handles_cancel {callback : Sender}
    (ht : Turn cfg alive d (some (.cancelRequest s callback)) d') {x : Decision F}
    (hx : x ∈ pipeline d) (hstate : x.state = s) (hadm : x.isApplicationAdmission = true) :
    Handles s .cancelRequest d'.await := by
  cases ht with
  | idleReceived event hw ha hq => simp [pipeline, hw, awaitDecision, ha, hq] at hx
  | busyReceived act burst event hw =>
    have hslot : x ∈ slotPipeline d := by simpa [pipeline_eq, hw, awaitDecision] using hx
    have hb := busied { d.receive alive (.cancelRequest s callback) with receiveBurst := burst }
      (.cancelRequest s callback)
    generalize Desk.busyEvent _ _ = d' at hb
    cases hb with
    | invalidates => exact ⟨rfl, rfl⟩
    | acknowledges _ _ hnot => exact absurd (hstate ▸ cancelsAdmission_of_pending hslot hadm) hnot
    | queued hx | refused hx => cases hx

/-- **Notifications are bounded and none is lost.** In every reachable state the queue has
room, holds decisions and prepared notifications only, and has with the active callback at most
one disconnect of each state; the notification of a cancelled admission is never given up for
lack of room. While the channel is open and references can be allocated, a received disconnect,
and a cancellation received while an admission of its state is pending, is being handled, or its
notification waits or has been called; only a disconnect may be merged with the one that was
active when it was received. -/
theorem notifications_kept (cfg : Config) :
    (∀ w : World F, Reachable (worlds cfg) w →
      w.desk.deferred.length ≤ maxDeferredEvents ∧ (∀ e ∈ w.desk.deferred, Deferrable e) ∧
      (slotDisconnects w.desk).Nodup ∧
      ∀ n, .abandoned n .requestQueueFull ∈ w.desk.log →
        n.cancelledApplicationAdmission = false) ∧
    (∀ (u v w : World F) a ms s, Reachable (worlds cfg) u → (worlds cfg).step u a v →
      Run (worlds cfg) v ms w → .closed ∉ w.desk.log → w.next + 1 ≤ u64Max →
      (receivedEvents v.desk.log = receivedEvents u.desk.log ++ [.appDisconnect s] →
        Kept s .appDisconnect v.desk w.desk) ∧
      (∀ callback,
        receivedEvents v.desk.log = receivedEvents u.desk.log ++ [.cancelRequest s callback] →
        (∃ x ∈ pipeline u.desk, x.state = s ∧ x.isApplicationAdmission = true) →
        Kept s .cancelRequest v.desk w.desk)) := by
  refine ⟨fun w hw => ?_, fun u v w a ms s hu hstep hr hc hx => ⟨fun hrec => ?_, ?_⟩⟩
  · have hi := reachable_inv (reachable_desk hw)
    have hn := (reachable_notices hw).nodup
    refine ⟨hi.shape.slots.bound, hi.shape.slots.contents,
      hn.sublist (List.sublist_append_right ..), fun n hm => ?_⟩
    obtain ⟨pre, post, hlog⟩ := List.append_of_mem hm
    exact (hi.backed pre _ post hlog).resolve_left (by simp)
  · have ht := (took_received hu hstep hrec).turn
    exact run_kept (hu.step hstep) (handles_disconnect ht) hr hc hx
  · rintro callback hrec ⟨x, hxp, hstate, hadm⟩
    have ht := (took_received hu hstep hrec).turn
    exact run_kept (hu.step hstep) (handles_cancel ht hxp hstate hadm) hr hc hx

/-- A disconnect received while the admission of another state is active waits in the queue. -/
theorem deferred_disconnect_kept :
    ∃ u v w : World Float, Reachable (worlds plainConfig) u ∧
      receivedEvents v.desk.log = receivedEvents u.desk.log ++ [.appDisconnect 8] ∧
      w.desk.await = .loop ∧ w.desk.deferred.length = 1 ∧
      Kept 8 .appDisconnect v.desk w.desk := by
  obtain ⟨u, hu, v, hv, w, hr, hrec, hloop, hqueue, hopen, hnext⟩ :
      ∃ u : World Float, Reachable (worlds plainConfig) u ∧
      ∃ v, (worlds plainConfig).step u (.select (some (some (.appDisconnect 8))) none) v ∧
      ∃ w, Run (worlds plainConfig) v [.lock, .lock, .described []] w ∧
      receivedEvents v.desk.log = receivedEvents u.desk.log ++ [.appDisconnect 8] ∧
      w.desk.await = .loop ∧ w.desk.deferred.length = 1 ∧ .closed ∉ w.desk.log ∧
      w.next + 1 ≤ u64Max := by
    refine ⟨_, reachable_initial.exec (fun _ _ _ h => h)
      [.recv (some (.requestApplication 7 0)), .lock, .described []] rfl, _, rfl, _,
      .exec (fun _ _ _ h => h) _ rfl, rfl, rfl, rfl, ?_, by decide⟩
    rintro (_ | ⟨_, _ | ⟨_, _ | ⟨_, ⟨⟩⟩⟩⟩)
  exact ⟨u, v, w, hu, hrec, hloop, hqueue,
    ((notifications_kept plainConfig).2 u v w _ _ 8 hu hv hr hopen hnext).1 hrec⟩

end XelisWallet.DispatcherDelivery
