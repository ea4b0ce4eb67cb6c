import XelisWallet.DispatcherSpares

/-!
A state whose admission was revoked stays shut out.

An admission that fails as cancelled, overloaded or closed, and a disconnect, come with the
invalidation of the state: before the answer, or while the dispatcher waits for the lock of the
registry right after it. From then on the state is never registered again, so no decision of
it is called.
-/

namespace XelisWallet.DispatcherTombs

open Json Runs Trace Checked Registry RegistryTombs Xswd Dispatcher DispatcherQueue DispatcherTurns
open DispatcherShape DispatcherMoves DispatcherWorld DispatcherAnswers DispatcherSessions
open DispatcherNotices DispatcherDelivery DispatcherClears DispatcherSpares

variable {F : Type} {d d' : Desk F}

/-- The codes that revoke an admission. -/
def revokes : FailureCode → Bool
  | .requestCancelled | .handlerOverloaded | .handlerClosed => true
  | _ => false

/-- The callback that an entry answers with a revoking code. -/
def revokedCallback : Entry F → Option Sender
  | .permission callback (.error code) => if revokes code then some callback else none
  | _ => none

/-- The callbacks answered with a revoking code. -/
def revoked (log : List (Entry F)) : List Sender := log.filterMap revokedCallback

/-- A state is over: it was disconnected, or an admission of it was answered with a revoking
code. -/
def Over (s : App) (log : List (Entry F)) : Prop :=
  .received (.appDisconnect s) ∈ log ∨
    ∃ x ∈ requests log, x.state = s ∧ x.isApplicationAdmission = true ∧
      ∃ code, revokes code = true ∧ x.response.fail code ∈ log

@[simp] lemma revoked_append (l₁ l₂ : List (Entry F)) :
    revoked (l₁ ++ l₂) = revoked l₁ ++ revoked l₂ :=
  List.filterMap_append ..

lemma revoked_eq_nil {l : List (Entry F)} (h : ∀ e ∈ l, revokedCallback e = none) :
    revoked l = [] :=
  List.filterMap_eq_nil_iff.mpr h

variable {code : FailureCode} {c : Sender} {s : App} {a : ActiveCallback F} {y : Decision F}

lemma revokedCallback_fail {x : Decision F} (h : revokedCallback (x.response.fail code) = some c) :
    x.channel = .permission c := by
  obtain ⟨state, response, admission⟩ := x
  cases response with
  | prefetch => cases h
  | permission =>
    simp only [PendingResponse.fail, sendPermissionFailure, revokedCallback] at h
    split at h <;> cases h
    rfl

lemma revoked_fail (h : revokes code = false) (r : PendingResponse F) :
    revoked [r.fail code] = [] := by
  cases r with
  | permission => simp [revoked, PendingResponse.fail, sendPermissionFailure, revokedCallback, h]
  | prefetch => rfl

lemma revokedCallback_complete (o : DecisionCallbackOutcome) (r : PendingResponse F) :
    revokedCallback (r.complete o) = none := by
  cases r <;> cases o <;> rfl

lemma mem_revoked_active {act : Option (ActiveCallback F)}
    (h : c ∈ revoked (act.elim [] (·.fail code))) :
    ∃ a y, act = some a ∧ activeDecision a = some y ∧ y.channel = .permission c := by
  obtain _ | ⟨state, kind, future⟩ := act
  · cases h
  cases kind with
  | notification => cases h
  | decision response admission =>
    refine ⟨_, ⟨state, response, admission⟩, rfl, rfl, ?_⟩
    obtain ⟨e, he, hc⟩ := List.mem_filterMap.mp h
    rw [List.mem_singleton.mp he] at hc
    exact revokedCallback_fail hc

lemma mem_revoked_for (act : Option (ActiveCallback F))
    (h : c ∈ revoked
      (if act.any (·.isDecisionFor s) then act.elim [] (·.fail .requestCancelled) else [])) :
    ∃ a y, act = some a ∧ activeDecision a = some y ∧ y.state = s ∧ y.channel = .permission c := by
  split at h
  · next hb =>
    obtain ⟨a, y, rfl, hy, hc⟩ := mem_revoked_active h
    obtain ⟨x, hx, hs⟩ := isDecisionFor_iff.mp (show a.isDecisionFor s = true from hb)
    rw [hy] at hx
    cases hx
    exact ⟨a, y, rfl, hy, hs, hc⟩
  · cases h

lemma mem_revoked_cancelled {q : List (DeferredEvent F)} (h : c ∈ revoked (cancelledAnswers s q)) :
    ∃ y ∈ queuedDecisions q, y.state = s ∧ y.channel = .permission c := by
  obtain ⟨e, he, hc⟩ := List.mem_filterMap.mp h
  obtain ⟨y, hy, rfl⟩ := List.mem_map.mp he
  obtain ⟨hm, hs⟩ := List.mem_filter.mp hy
  exact ⟨y, hm, by simpa using hs, revokedCallback_fail hc⟩

lemma mem_revoked_deferred {q : List (DeferredEvent F)} (hq : ∀ e ∈ q, Deferrable e)
    (h : c ∈ revoked (failDeferredEvents code q)) :
    ∃ y ∈ queuedDecisions q, y.channel = .permission c := by
  obtain ⟨e, he, hc⟩ := List.mem_filterMap.mp h
  obtain ⟨ev, hev, hm⟩ := List.mem_flatMap.mp he
  obtain ⟨n, rfl⟩ | ⟨event, y, rfl, hy⟩ := hq ev hev
  · rw [List.mem_singleton.mp hm] at hc
    cases hc
  rw [failDeferredEvent_decision (e := .raw event) hy, List.mem_singleton] at hm
  rw [hm] at hc
  exact ⟨y, List.mem_filterMap.mpr ⟨_, hev, hy⟩, revokedCallback_fail hc⟩

/-! ### Turns -/

/-- A callback belongs to a pending decision whose state, if it is an admission, is invalidated
at one end of the turn. -/
def Invalidated (d d' : Desk F) (c : Sender) : Prop :=
  ∃ y ∈ pipeline d, y.channel = .permission c ∧
    (y.isApplicationAdmission = true →
      y.state ∈ invalidates d.await ∨ y.state ∈ invalidates d'.await)

lemma mem_pipeline_active (ha : d.active = some a) (hy : activeDecision a = some y) :
    y ∈ pipeline d := by
  simp [pipeline, ha, hy]

lemma mem_pipeline_queue (hy : y ∈ queuedDecisions d.deferred) : y ∈ pipeline d :=
  List.mem_append_right _ hy

lemma state_activeDecision (h : activeDecision a = some y) : y.state = a.state := by
  obtain ⟨state, kind, future⟩ := a
  cases kind <;> cases h
  rfl

lemma admission_activeDecision (h : activeDecision a = some y) :
    y.isApplicationAdmission = a.isApplicationAdmission := by
  obtain ⟨state, kind, future⟩ := a
  cases kind <;> cases h
  rfl

lemma invalidated_active {b : Bool} (hw : invalidates d.await = [s])
    (hb : d.active.any (·.isDecisionFor s) = b)
    (h : c ∈ revoked (if b then d.active.elim [] (·.fail .requestCancelled) else [])) :
    Invalidated d d' c := by
  rw [← hb] at h
  obtain ⟨a, y, ha, hy, hs, hc⟩ := mem_revoked_for d.active h
  exact ⟨y, mem_pipeline_active ha hy, hc, fun _ => .inl (by simp [hw, hs])⟩

lemma invalidated_busied {alive : App → Bool} {burst : ℕ} {event : XSWDEvent F}
    (hb : Busied { d.receive alive event with receiveBurst := burst } event d')
    (h : c ∈ revoked d'.log) : c ∈ revoked d.log ∨ Invalidated d d' c := by
  have hrec : revoked (d.receive alive event).log = revoked d.log := by
    simp [revoked, revokedCallback]
  -- what is cancelled from the queue belongs to the state of the event
  have hqueue : ∀ s, c ∈ revoked (cancelQueued s (d.receive alive event)).log → c ∈ revoked d.log ∨
        ∃ y ∈ queuedDecisions d.deferred, y.state = s ∧ y.channel = .permission c := by
    intro s h
    rw [cancelQueued_log, revoked_append, hrec] at h
    exact (List.mem_append.mp h).imp_right mem_revoked_cancelled
  cases hb with
  | queued => exact .inl (by rwa [hrec] at h)
  | refused =>
    rw [Desk.emit_log, revoked_append, hrec, revoked_fail rfl, List.append_nil] at h
    exact .inl h
  | invalidates s | disconnects s =>
    refine (hqueue s h).imp_right fun ⟨y, hy, hs, hc⟩ => ?_
    exact ⟨y, mem_pipeline_queue hy, hc, fun _ => .inr (by simp [invalidates, hs])⟩
  | acknowledges s callback hadm =>
    -- nothing that is cancelled is an admission
    rw [log_acknowledgeCancel] at h
    simp only [revoked_append, List.append_assoc, List.mem_append] at h
    obtain h | h | h := h
    · refine (hqueue s h).imp_right fun ⟨y, hy, hs, hc⟩ => ?_
      refine ⟨y, mem_pipeline_queue hy, hc, fun hya => absurd ?_ hadm⟩
      exact hs ▸ cancelsAdmission_of_pending (List.mem_append_right _ hy) hya
    · obtain ⟨a, y, ha, hy, hs, hc⟩ := mem_revoked_for d.active h
      refine .inr ⟨y, mem_pipeline_active ha hy, hc, fun hya => absurd ?_ hadm⟩
      exact hs ▸ cancelsAdmission_of_pending (d := d) (by simp [slotPipeline, ha, hy]) hya
    · cases h

lemma mem_revoked_overload {next : PreparedNotification F} (h : c ∈ revoked (d.overload next).log) :
    c ∈ revoked d.log ∨
      ∃ a y, d.active = some a ∧ activeDecision a = some y ∧ y.channel = .permission c := by
  rw [Desk.overload, Desk.start_log, Desk.emit_log, failActive_log] at h
  simp only [revoked_append, List.append_assoc, List.mem_append] at h
  obtain h | h | h := h
  · exact .inl h
  · exact .inr (mem_revoked_active h)
  · cases h

lemma mem_revoked_finish (hcontents : ∀ e ∈ d.deferred, Deferrable e)
    (h : c ∈ revoked (d.finish true).log) :
    c ∈ revoked d.log ∨
      (∃ a y, d.active = some a ∧ activeDecision a = some y ∧ y.channel = .permission c) ∨
      ∃ y ∈ queuedDecisions d.deferred, y.channel = .permission c := by
  have hlog : (d.finish true).log = d.log ++ d.active.elim [] (·.fail .handlerClosed)
      ++ failDeferredEvents .handlerClosed d.deferred := by
    rw [← failActive_log]
    simp [Desk.finish]
  rw [hlog] at h
  simp only [revoked_append, List.append_assoc, List.mem_append] at h
  exact h.imp_right (Or.imp mem_revoked_active (mem_revoked_deferred hcontents))

lemma mem_slotStates_queue (hy : y ∈ queuedDecisions d.deferred) : y.state ∈ slotStates d := by
  obtain ⟨e, he, hey⟩ := List.mem_filterMap.mp hy
  refine mem_slotStates.mpr (.inr ⟨e, he, ?_⟩)
  cases e with
  | notification => cases hey
  | raw => exact state_of_eventDecision hey

lemma revoked_prepared {event : XSWDEvent F} (hp : Prepared d event d') :
    revoked d'.log = revoked d.log := by
  cases hp with
  | registers | invalidates => rfl
  | acknowledges => simp [revoked, revokedCallback]
  | refused => rw [Desk.wait_log, Desk.emit_log, revoked_append, revoked_fail rfl, List.append_nil]

variable [Double F] {cfg : Config} {alive : App → Bool} {new : Option (XSWDEvent F)}

/-- **A revoked admission is invalidated**, at one end of the turn that revokes it. -/
theorem turn_revoked (h : Shape d)
    (hclose : ∀ states busy, d.await = .close states busy → slotStates d ⊆ states)
    (ht : Turn cfg alive d new d') (hc : c ∈ revoked d'.log) :
    c ∈ revoked d.log ∨ Invalidated d d' c := by
  have haw := h.await
  cases ht with
  | dispatched event =>
    left
    cases event with
    | raw => rwa [Desk.dispatch, revoked_prepared (prepared ..)] at hc
    | notification => simpa [Desk.dispatch, revoked, revokedCallback] using hc
  | idleClosed | busyClosed =>
    exact .inl (by simpa [Desk.closing, revoked, revokedCallback] using hc)
  | idleReceived =>
    rw [revoked_prepared (prepared ..)] at hc
    exact .inl (by simpa [revoked, revokedCallback] using hc)
  | returned a outcome =>
    left
    have hnil : revoked (a.complete outcome) = [] := by
      unfold ActiveCallback.complete
      split
      · exact revoked_eq_nil (by simpa using revokedCallback_complete ..)
      · rfl
      · rfl
    have : revoked (Entry.returned a.future outcome :: a.complete outcome) = [] := hnil
    simpa [revoked_append, this] using hc
  | busyReceived => exact invalidated_busied (busied ..) hc
  | registered | invalidatedIdle | projected | unprojected => exact .inl hc
  | refused =>
    rw [Desk.wait_log, Desk.emit_log, revoked_append, revoked_fail rfl, List.append_nil] at hc
    exact .inl hc
  | called => exact .inl (by simpa [revoked, revokedCallback] using hc)
  | invalidatedCancel s callback b hw =>
    rw [hw] at haw
    rw [log_acknowledgeCancel] at hc
    simp only [revoked_append, List.append_assoc, List.mem_append] at hc
    obtain hc | hc | hc := hc
    · exact .inl hc
    · exact .inr (invalidated_active (by rw [hw]; rfl) haw.1 hc)
    · cases hc
  | invalidatedDisconnect s b hw =>
    rw [hw] at haw
    have hlog : (if b then d.cancelActive else d).log =
        d.log ++ if b then d.active.elim [] (·.fail .requestCancelled) else [] := by
      cases b with
      | true => rw [if_pos rfl, if_pos rfl, cancelActive_eq, failActive_log]
      | false => simp
    rw [Desk.wait_log, hlog, revoked_append] at hc
    obtain hc | hc := List.mem_append.mp hc
    · exact .inl hc
    · exact .inr (invalidated_active (by rw [hw]; rfl) haw hc)
  | invalidatedOverload s next hw =>
    rw [hw] at haw
    obtain ⟨a, ha, hadm, rfl⟩ := haw
    obtain hc | ⟨a', y, ha', hy, hch⟩ := mem_revoked_overload hc
    · exact .inl hc
    cases ha.symm.trans ha'
    refine .inr ⟨y, mem_pipeline_active ha hy, hch, fun _ => .inl ?_⟩
    rw [hw, state_activeDecision hy]
    exact List.mem_singleton.mpr rfl
  | routed s k b route r n =>
    have hr := h.slots.routed route n
    generalize d.route route (some n) = d₁ at hr hc
    cases hr with
    | starts | abandons => exact .inl (by simpa [revoked, revokedCallback] using hc)
    | queues | waits => exact .inl hc
    | defers q sent hd =>
      left
      have hnil : revoked sent = [] := by
        cases hd with
        | coalesced | queued => rfl
        | evicted => exact revoked_fail rfl _
      rwa [revoked_append, hnil, List.append_nil] at hc
    | overloads next q hd hadm =>
      obtain hc | ⟨a, y, ha, hy, hch⟩ := mem_revoked_overload hc
      · exact .inl hc
      -- the active callback is not an admission
      refine .inr ⟨y, mem_pipeline_active ha hy, hch, fun hya => ?_⟩
      rw [admission_activeDecision hy] at hya
      have ha' : d.active = some a := ha
      simp [ha', hya] at hadm
  | finished states busy hw =>
    cases busy with
    | false => exact .inl hc
    | true =>
      have hsub := hclose states true hw
      obtain hc | ⟨a, y, ha, hy, hch⟩ | ⟨y, hy, hch⟩ := mem_revoked_finish h.slots.contents hc
      · exact .inl hc
      · refine .inr ⟨y, mem_pipeline_active ha hy, hch, fun _ => .inl ?_⟩
        rw [hw]
        exact hsub (mem_slotStates.mpr (.inl ⟨a, ha, (state_activeDecision hy).symm⟩))
      · refine .inr ⟨y, mem_pipeline_queue hy, hch, fun _ => .inl ?_⟩
        rw [hw]
        exact hsub (mem_slotStates_queue hy)

/-! ### States that are over -/

omit [Double F] in
lemma response_of_admission {log : List (Entry F)} {x : Decision F} (hx : x ∈ requests log)
    (hadm : x.isApplicationAdmission = true) : ∃ c, x.response = .permission c := by
  obtain ⟨event, -, he⟩ := List.mem_filterMap.mp hx
  cases event with
  | requestApplication s c => cases he; exact ⟨c, rfl⟩
  | requestPermission | prefetchPermissions | cancelRequest | appDisconnect =>
    cases he <;> cases hadm

omit [Double F] in
lemma mem_revoked {log : List (Entry F)} :
    c ∈ revoked log ↔ ∃ code, revokes code = true ∧ .permission c (.error code) ∈ log := by
  constructor
  · intro h
    obtain ⟨e, he, hc⟩ := List.mem_filterMap.mp h
    unfold revokedCallback at hc
    split at hc
    · next callback code =>
      split at hc <;> cases hc
      next hr => exact ⟨code, hr, he⟩
    · cases hc
  · rintro ⟨code, hr, hm⟩
    exact List.mem_filterMap.mpr ⟨_, hm, by simp [revokedCallback, hr]⟩

omit [Double F] in
lemma Inv.request_of_revoked (h : Inv d) (hc : c ∈ revoked d.log) :
    ∃ y ∈ requests d.log, y.channel = .permission c := by
  obtain ⟨code, -, hm⟩ := mem_revoked.mp hc
  have hans : 0 < answered (.permission c) d.log :=
    List.count_pos_iff.mpr (List.mem_flatMap.mpr ⟨_, hm, List.mem_singleton.mpr rfl⟩)
  have hasked : Channel.permission c ∈ askedChannels d.log := by
    have := h.account (.permission c)
    exact List.count_pos_iff.mp (by omega)
  obtain ⟨event, hev, hch⟩ := List.mem_flatMap.mp hasked
  rcases hx : eventDecision event with _ | y
  · cases event with
    | cancelRequest | appDisconnect => simp [XSWDEvent.channels] at hch
    | requestApplication | requestPermission | prefetchPermissions => cases hx
  · refine ⟨y, List.mem_filterMap.mpr ⟨event, hev, hx⟩, ?_⟩
    rw [channels_of_eventDecision hx, List.mem_singleton] at hch
    exact hch.symm

lemma invalidates_disconnect (ht : Turn cfg alive d (some (.appDisconnect s)) d') :
    s ∈ invalidates d'.await := by
  cases ht with
  | idleReceived | busyReceived => exact List.mem_singleton.mpr rfl

/-- **A turn ends a state only along with its invalidation.** -/
theorem turn_over (h : Inv d)
    (hclose : ∀ states busy, d.await = .close states busy → slotStates d ⊆ states)
    (ht : Turn cfg alive d new d') (ho : Over s d'.log) :
    Over s d.log ∨ s ∈ invalidates d.await ∨ s ∈ invalidates d'.await := by
  have h' := inv_turn h ht
  have hev := turn_receivedEvents h.shape ht
  obtain ho | ⟨x, hx, hs, hadm, code, hr, hm⟩ := ho
  · have hm : .appDisconnect s ∈ receivedEvents d'.log := List.mem_filterMap.mpr ⟨_, ho, rfl⟩
    rw [hev] at hm
    obtain hm | hm := List.mem_append.mp hm
    · obtain ⟨e, he, hee⟩ := List.mem_filterMap.mp hm
      cases e <;> cases hee
      exact .inl (.inl he)
    · obtain rfl : new = some (.appDisconnect s) := by simpa using hm
      exact .inr (.inr (invalidates_disconnect ht))
  · obtain ⟨c, hc⟩ := response_of_admission hx hadm
    have hch : x.channel = .permission c := by rw [Decision.channel, hc]; rfl
    have hrev : c ∈ revoked d'.log := by
      refine mem_revoked.mpr ⟨code, hr, ?_⟩
      rwa [hc] at hm
    have hsub : ∀ y ∈ requests d.log, y ∈ requests d'.log := by
      intro y hy
      rw [requests, hev, List.filterMap_append]
      exact List.mem_append_left _ hy
    obtain hold | ⟨y, hy, hyc, hinv⟩ := turn_revoked h.shape hclose ht hrev
    · obtain ⟨y, hy, hyc⟩ := Inv.request_of_revoked h hold
      obtain rfl := h'.channel_inj (hsub y hy) hx (hyc.trans hch.symm)
      obtain ⟨code', hr', hm'⟩ := mem_revoked.mp hold
      refine .inl (.inr ⟨y, hy, hs, hadm, code', hr', ?_⟩)
      rwa [hc]
    · obtain rfl := h'.channel_inj (hsub y (h.order.subset hy)) hx (hyc.trans hch.symm)
      exact .inr (hs ▸ hinv hadm)

structure Tombs (w : World F) : Prop where
  /-- A state that is over is shut and not about to be called, unless its invalidation waits for
  the lock of the registry. -/
  shut : ∀ s, Over s w.desk.log →
    (Closed w s ∧ ∀ x, describing w.desk.await = some x → x.state ≠ s) ∨
      s ∈ invalidates w.desk.await
  close : ∀ states busy, w.desk.await = .close states busy → slotStates w.desk ⊆ states
  /-- No decision of a state is called after the state is over. -/
  called : Justified (fun pre e => ∀ x summary, e = .called x summary → ¬ Over x.state pre)
    w.desk.log

variable {w w' : World F}

lemma tombs_took (hs : Sound w) (hb : Tombs w) (h : Took cfg w new w') : Tombs w' := by
  have hshape := hs.inv.shape
  -- nothing is about to be called when the dispatcher comes back from an invalidation
  have hinvalidated : ∀ s ∈ invalidates w.desk.await,
      Closed w' s ∧ ∀ x, describing w'.desk.await = some x → x.state ≠ s := by
    intro s hm
    refine ⟨h.invalidated s hm, fun x hx => ?_⟩
    obtain ⟨t, r, hw, -⟩ := turn_describe hshape h.turn hx
    rw [hw] at hm
    cases hm
  refine ⟨fun s ho => ?_, fun states busy hw => ?_, ?_⟩
  · obtain ho | hm | hm := turn_over hs.inv hb.close h.turn ho
    · obtain ⟨hc, hd⟩ | hm := hb.shut s ho
      · refine .inl ⟨closed_took hs h hc, fun x hx => ?_⟩
        obtain ⟨t, r, hw, hw'⟩ := turn_describe hshape h.turn hx
        rintro rfl
        exact h.registered x t r hw hw' hc
      · exact .inl (hinvalidated s hm)
    · exact .inl (hinvalidated s hm)
    · exact .inr hm
  · have hl := turn_await hshape h.turn
    rw [hw] at hl
    cases hl with
    | close _ hc hq ha =>
      intro s hm
      have hslot : s ∈ slotStates w.desk := by
        rw [mem_slotStates] at hm ⊢
        rwa [hq, ha] at hm
      have hheld : s ∈ heldStates w.desk := by
        rw [heldStates_eq]
        exact List.mem_append_right _ hslot
      exact List.mem_filter.mpr ⟨hs.seen s hheld, hs.live s hheld⟩
  · rcases turn_log hshape h.turn with ⟨sent, hlog, hp, -⟩ | ⟨a, outcome, -, -, -, hlog, -⟩ |
      ⟨y, t, r, summary', hw, -, hd⟩
    · rw [hlog]
      refine hb.called.append fun pre e post he x summary hcall => ?_
      have hmem : .called x summary ∈ new.toList.map Entry.received ++ sent := by
        rw [he, hcall]
        simp
      obtain hm | hm := List.mem_append.mp hmem
      · simp at hm
      · exact (hp _ hm).elim
    · rw [hlog]
      refine hb.called.append fun pre e post he x summary hcall => ?_
      have hmem : .called x summary ∈ Entry.returned a.future outcome :: a.complete outcome := by
        rw [he, hcall]
        simp
      obtain hm | hm := List.mem_cons.mp hmem
      · cases hm
      unfold ActiveCallback.complete at hm
      split at hm
      · rename_i response _ _ _
        cases response <;> simp [PendingResponse.complete] at hm
      all_goals cases hm
    · -- what is called was registered, so its state is not over
      rw [hd]
      refine hb.called.append fun pre e post he x summary hcall ho => ?_
      have hmem : Entry.called x summary ∈ [Entry.called y summary'] := by
        rw [he, hcall]
        simp
      cases List.mem_singleton.mp hmem
      obtain rfl : pre = [] := by
        obtain _ | ⟨e₀, pre⟩ := pre
        · rfl
        · simp at he
      rw [List.append_nil] at ho
      obtain ⟨-, hd⟩ | hm := hb.shut y.state ho
      · exact hd y (by rw [hw]; rfl) rfl
      · rw [hw] at hm
        cases hm

omit [Double F] in
lemma tombs_spared (hs : Sound w) (hb : Tombs w) (h : Spared w w') : Tombs w' := by
  refine ⟨fun s ho => ?_, by rw [h.desk]; exact hb.close, by rw [h.desk]; exact hb.called⟩
  rw [h.desk] at ho ⊢
  exact (hb.shut s ho).imp_left fun ⟨hc, hd⟩ => ⟨closed_spared hs h hc, hd⟩

theorem reachable_tombs (h : Reachable (worlds cfg) w) : Tombs w := by
  refine h.invariant (P := Tombs) ?_ ?_
  · rintro w ⟨hd, -, -⟩
    refine ⟨?_, ?_, ?_⟩
    · simp [hd, Desk.initial, Over, requests, receivedEvents]
    · simp [hd, Desk.initial]
    · rw [hd]
      exact justified_nil
  · intro w a w' hr hb hstep
    have hs := reachable_sound hr
    obtain ⟨new, h⟩ | h := world_cases hs hstep
    · exact tombs_took hs hb h
    · exact tombs_spared hs hb h

variable {u v : World F} {ms : List (Action F)}

lemma closed_run (hu : Reachable (worlds cfg) u) (hr : Run (worlds cfg) u ms w) (hc : Closed u s) :
    Closed w s := by
  induction hr with
  | nil => exact hc
  | snoc hr hstep ih =>
    have hs := reachable_sound (hu.run hr)
    obtain ⟨new, h⟩ | h := world_cases hs hstep
    · exact closed_took hs h ih
    · exact closed_spared hs h ih

/-- **Ending the requests of a state.** When a cancellation is acknowledged, and when a disconnect
has been processed, every earlier request of the state is answered, the pending ones as
cancelled, and none is answered again; handling the event spares the decisions of the other
states. Once a state is over, no decision of it is called any more; and once the dispatcher no
longer waits for the lock to invalidate it, no reference resolves to it, in any later state. -/
theorem ended_states_cleared (cfg : Config) :
    (∀ w : World F, Reachable (worlds cfg) w →
      (∀ pre s c mid post,
        w.desk.log = pre ++ .received (.cancelRequest s c) :: (mid ++ .acknowledged c :: post) →
        Clears s pre mid) ∧
      (∀ pre s mid, w.desk.log = pre ++ .received (.appDisconnect s) :: mid →
        cancelling w.desk.await = false ∨ receivedEvents mid ≠ [] → Clears s pre mid) ∧
      (∀ x ∈ requests w.desk.log, answered x.channel w.desk.log ≤ 1 ∧
        (x ∈ pipeline w.desk → answered x.channel w.desk.log = 0)) ∧
      (∀ pre x summary post, w.desk.log = pre ++ .called x summary :: post →
        ¬ Over x.state pre)) ∧
    (∀ (u v w : World F) a ms s event, Reachable (worlds cfg) u → (worlds cfg).step u a v →
      receivedEvents v.desk.log = receivedEvents u.desk.log ++ [event] → ends event = some s →
      Run (handlings cfg) v ms w → w.desk.await = .loop → Spares s u.desk w.desk) ∧
    (∀ (u w : World F) ms s, Reachable (worlds cfg) u → Over s u.desk.log →
      s ∉ invalidates u.desk.await → Run (worlds cfg) u ms w →
      ∀ later r, (w.sessions.resolve w.alive later r).1 ≠ some s) := by
  refine ⟨fun w hw => ⟨?_, ?_, ?_, ?_⟩, ?_, ?_⟩
  · intro pre s c mid post hlog
    have hsettled := (reachable_settles (reachable_desk hw)).settled
      (pre ++ .received (.cancelRequest s c) :: mid) (.acknowledged c) post (by simp [hlog])
      (.inl ⟨c, rfl⟩)
    exact hsettled pre _ mid rfl _ s rfl rfl
  · intro pre s mid hlog hdone
    exact cleared_disconnect (reachable_settles (reachable_desk hw)) hlog hdone
  · intro x hx
    exact (reachable_inv (reachable_desk hw)).answered_le hx
  · intro pre x summary post hlog
    exact (reachable_tombs hw).called pre _ post hlog x summary rfl
  · intro u v w a ms s event hu hstep hrec hend hr hw
    exact run_spares hu hstep hrec hend hr hw
  · intro u w ms s hu ho hnot hr later r
    have hclosed := ((reachable_tombs hu).shut s ho).resolve_right hnot
    exact resolve_ne_of_shut (reachable_sound (hu.run hr)).wf (closed_run hu hr hclosed.1) later r

/-- An admission that is cancelled while its callback is active never comes back. -/
theorem cancelled_admission_is_over :
    ∃ w : World Float, Reachable (worlds plainConfig) w ∧
      .permission 0 (.error .requestCancelled) ∈ w.desk.log ∧ .acknowledged 1 ∈ w.desk.log ∧
      ∀ later r, (w.sessions.resolve w.alive later r).1 ≠ some 7 := by
  have hw : Reachable (worlds (F := Float) plainConfig) _ := reachable_initial.exec
    (fun _ _ _ h => h) [.recv (some (.requestApplication 7 0)), .lock, .described [],
      .select (some (some (.cancelRequest 7 1))) none, .lock] rfl
  refine ⟨_, hw, .tail _ (.tail _ (.tail _ (.head _))),
    .tail _ (.tail _ (.tail _ (.tail _ (.head _)))),
    (ended_states_cleared plainConfig).2.2 _ _ [] 7 hw (.inr ⟨_, .head _, rfl, rfl,
      .requestCancelled, rfl, .tail _ (.tail _ (.tail _ (.head _)))⟩) ?_ (.nil _)⟩
  rintro ⟨⟩

/-- **A queued admission is answered before its state is invalidated**: while the dispatcher waits
for the lock, a reference of the cancelled state still resolves. -/
theorem queued_admission_still_resolves :
    ∃ w : World Float, Reachable (worlds plainConfig) w ∧ w.next + 1 ≤ u64Max ∧
      (∃ x ∈ requests w.desk.log, x.state = 8 ∧ x.isApplicationAdmission = true ∧
        x.response.fail .requestCancelled ∈ w.desk.log) ∧
      (w.sessions.resolve w.alive w.alive firstReference).1 = some 8 := by
  have hw : Reachable (worlds (F := Float) plainConfig) _ := reachable_initial.exec
    (fun _ _ _ h => h) [.recv (some (.cancelRequest 8 0)), .lock, .described [],
      .select none (some (.notification .completed)), .recv (some (.requestApplication 7 1)), .lock,
      .described [], .select (some (some (.requestApplication 8 2))) none,
      .select (some (some (.cancelRequest 8 3))) none] rfl
  refine ⟨_, hw, by decide, ⟨⟨8, .permission 2, true⟩, .tail _ (.head _), rfl, rfl, ?_⟩, rfl⟩
  exact .tail _ (.tail _ (.tail _ (.tail _ (.tail _ (.tail _ (.tail _ (.tail _ (.head _))))))))

end XelisWallet.DispatcherTombs
