import XelisWallet.DispatcherDelivery

/-!
Cancelling and disconnecting clear the requests of a state.

What an await still owes to the active decision is counted with the log: then every event that
ends the requests of a state is followed by the answers to those that were pending. The debt is
paid before a cancellation is acknowledged and before the next event is received.
-/

namespace XelisWallet.DispatcherClears

open Json Runs Trace Xswd Dispatcher DispatcherQueue DispatcherTurns DispatcherShape DispatcherMoves
open DispatcherWorld DispatcherAnswers

variable {F : Type} {d d' : Desk F}

/-- The state whose requests an event ends. -/
def ends : XSWDEvent F → Option App
  | .cancelRequest state _ | .appDisconnect state => some state
  | .requestApplication _ _ | .requestPermission _ _ _ | .prefetchPermissions _ _ _ => none

variable {event : XSWDEvent F} {s : App}

lemma ends_of_decision {x : Decision F} (h : eventDecision event = some x) : ends event = none := by
  cases event <;> first | rfl | cases h

/-- The requests that were made for a state are answered, or they are cancelled after. -/
def Clears (s : App) (pre post : List (Entry F)) : Prop :=
  ∀ x ∈ requests pre, x.state = s →
    0 < answered x.channel pre ∨ x.response.fail .requestCancelled ∈ post

/-- An event that ends the requests of a state clears them. -/
def Cleared (pre : List (Entry F)) (e : Entry F) (post : List (Entry F)) : Prop :=
  ∀ event s, e = .received event → ends event = some s → Clears s pre post

/-- Whether the active decision is still to be cancelled. -/
def cancelling : Await F → Bool
  | .invalidateCancel _ _ b | .invalidateDisconnect _ b => b
  | _ => false

/-- What an await owes to the active decision. -/
def owed (d : Desk F) : List (Entry F) :=
  if cancelling d.await then d.active.elim [] (·.fail .requestCancelled) else []

structure Settles (d : Desk F) : Prop where
  cleared : Placed Cleared (d.log ++ owed d)
  /-- Nothing is owed when a cancellation is acknowledged or an event is received. -/
  settled : Justified (fun pre e => (∃ c, e = .acknowledged c) ∨ (∃ event, e = .received event) →
    Placed Cleared pre) d.log

lemma cleared_mono (pre : List (Entry F)) (e : Entry F) (post more : List (Entry F))
    (h : Cleared pre e post) : Cleared pre e (post ++ more) := by
  intro event s he hs x hx hstate
  exact (h event s he hs x hx hstate).imp_right (List.mem_append_left _)

lemma owed_nil (h : cancelling d.await = false) : owed d = [] := by
  rw [owed, h]
  rfl

lemma failActive_log (code : FailureCode) (d : Desk F) :
    (d.failActive code).log = d.log ++ d.active.elim [] (·.fail code) := by
  unfold Desk.failActive
  split
  · next a ha => simp [ha]
  · next ha => simp [ha]

lemma placed_plain {log sent : List (Entry F)} (h : Placed Cleared log)
    (hs : ∀ event, .received event ∈ sent → ends event = none) : Placed Cleared (log ++ sent) := by
  refine h.append cleared_mono fun pre e post he event s hev hend => ?_
  have hm : Entry.received event ∈ sent := by
    rw [he, ← hev]
    simp
  rw [hs event hm] at hend
  cases hend

lemma cleared_disconnect (h : Settles d) {pre mid : List (Entry F)}
    (hlog : d.log = pre ++ .received (.appDisconnect s) :: mid)
    (hdone : cancelling d.await = false ∨ receivedEvents mid ≠ []) : Clears s pre mid := by
  by_cases hnil : receivedEvents mid = []
  · have hplaced := h.cleared
    rw [owed_nil (hdone.resolve_right fun hne => hne hnil), List.append_nil] at hplaced
    exact hplaced pre _ mid hlog _ s rfl rfl
  · -- the next event was received when nothing was owed
    obtain ⟨event, hev⟩ := List.exists_mem_of_ne_nil _ hnil
    obtain ⟨e, he, hee⟩ := List.mem_filterMap.mp hev
    obtain ⟨m₁, m₂, rfl⟩ := List.append_of_mem he
    have hsettled := h.settled (pre ++ .received (.appDisconnect s) :: m₁) e m₂ (by simp [hlog])
      (.inr ⟨event, by cases e <;> cases hee; rfl⟩)
    intro x hx hs
    refine (hsettled pre _ m₁ rfl _ s rfl rfl x hx hs).imp_right (List.mem_append_left _)

/-- An entry that neither acknowledges nor receives. -/
def Quiet : Entry F → Prop
  | .acknowledged _ | .received _ => False
  | _ => True

lemma quiet_fail (code : FailureCode) (r : PendingResponse F) : Quiet (r.fail code) := by
  cases r <;> trivial

lemma quiet_activeFail {code : FailureCode} {act : Option (ActiveCallback F)} {e : Entry F}
    (he : e ∈ act.elim [] (·.fail code)) : Quiet e := by
  obtain _ | ⟨state, kind, future⟩ := act
  · cases he
  cases kind with
  | decision =>
    rw [List.mem_singleton.mp he]
    exact quiet_fail ..
  | notification =>
    rw [List.mem_singleton.mp he]
    trivial

lemma quiet_owed {e : Entry F} (he : e ∈ owed d) : Quiet e := by
  unfold owed at he
  split at he
  · exact quiet_activeFail he
  · cases he

/-- The answers that cancel the queued decisions of a state and its active one. -/
def cancelAnswers (s : App) (d : Desk F) : List (Entry F) :=
  cancelledAnswers s d.deferred ++
    if d.active.any (·.isDecisionFor s) then d.active.elim [] (·.fail .requestCancelled) else []

lemma quiet_cancelledAnswers {q : List (DeferredEvent F)} :
    ∀ e ∈ cancelledAnswers s q, Quiet e := by
  intro e he
  obtain ⟨x, -, rfl⟩ := List.mem_map.mp he
  exact quiet_fail ..

lemma quiet_cancelAnswers : ∀ e ∈ cancelAnswers s d, Quiet e := by
  intro e he
  obtain he | he := List.mem_append.mp he
  · exact quiet_cancelledAnswers e he
  split at he
  · exact quiet_activeFail he
  · cases he

lemma clears_pending (h : Inv d) (hw : d.await = .loop) (s : App) :
    Clears s d.log (cancelAnswers s d) := by
  intro x hx hs
  refine (h.pending hx).imp_right fun hp => ?_
  rw [pipeline, hw] at hp
  obtain hp | hp := List.mem_append.mp hp
  · -- the active decision
    refine List.mem_append_right _ ?_
    rcases hact : d.active with _ | a
    · simp [hact, awaitDecision] at hp
    have hxa : activeDecision a = some x := by simpa [hact, awaitDecision] using hp
    have hfor : a.isDecisionFor s = true := isDecisionFor_iff.mpr ⟨x, hxa, hs⟩
    rw [Option.any_some, hfor, if_pos rfl]
    obtain ⟨state, kind, future⟩ := a
    cases kind with
    | notification => cases hxa
    | decision =>
      cases hxa
      exact List.mem_singleton.mpr rfl
  · refine List.mem_append_left _ (List.mem_map.mpr ⟨x, ?_, rfl⟩)
    exact List.mem_filter.mpr ⟨hp, by simpa using hs⟩

/-! ### Turns -/

variable [Double F] {cfg : Config} {alive : App → Bool} {new : Option (XSWDEvent F)}

/-- What a turn that receives an event writes. -/
structure Receipt (event : XSWDEvent F) (d d' : Desk F) (sent acks : List (Entry F)) : Prop where
  log : d'.log = d.log ++ .received event :: (sent ++ acks)
  quiet : ∀ e ∈ sent, Quiet e
  acknowledges : ∀ e ∈ acks, ∃ c, e = .acknowledged c
  clears : ∀ s, ends event = some s → Clears s d.log (sent ++ owed d')
  paid : acks = [] ∨ owed d' = []

omit [Double F] in
lemma log_acknowledgeCancel (s : App) (callback : Sender) (b admission : Bool) :
    (d.acknowledgeCancel s callback b admission).log =
      d.log ++ (if b then d.active.elim [] (·.fail .requestCancelled) else [])
        ++ [.acknowledged callback] := by
  cases b with
  | true =>
    have hlog := failActive_log .requestCancelled d
    rw [← cancelActive_eq] at hlog
    rw [if_pos rfl, ← hlog]
    rfl
  | false => simp [Desk.acknowledgeCancel]

omit [Double F] in
lemma receipt_busy (alive : App → Bool) (h : Inv d) (hw : d.await = .loop) (burst : ℕ) :
    ∃ sent acks, Receipt event d
      (({ d.receive alive event with receiveBurst := burst }).busyEvent event) sent acks := by
  have hb := busied { d.receive alive event with receiveBurst := burst } event
  generalize Desk.busyEvent _ event = d' at hb
  cases hb with
  | queued hx => exact ⟨[], [], by simp, by simp, by simp, by simp [ends_of_decision hx], .inl rfl⟩
  | @refused _ x hx =>
    exact ⟨[x.response.fail .requestQueueFull], [], by simp, by simpa using quiet_fail ..,
      by simp, by simp [ends_of_decision hx], .inl rfl⟩
  | invalidates s | disconnects s =>
    refine ⟨cancelledAnswers s d.deferred, [], by simp, quiet_cancelledAnswers, by simp, ?_,
      .inl rfl⟩
    rintro s' ⟨⟩
    exact clears_pending h hw s
  | acknowledges s callback =>
    refine ⟨cancelAnswers s d, [.acknowledged callback], ?_, quiet_cancelAnswers, by simp, ?_,
      .inr rfl⟩
    · rw [log_acknowledgeCancel]
      simp [cancelAnswers]
    rintro s' ⟨⟩
    rw [owed_nil rfl, List.append_nil]
    exact clears_pending h hw s

lemma receipt_idle (cfg : Config) (alive : App → Bool) (h : Inv d) (hw : d.await = .loop)
    (ha : d.active = none) (hq : d.deferred = []) :
    ∃ sent acks, Receipt event d ((d.receive alive event).prepare cfg event) sent acks := by
  -- nothing is pending, so there is nothing to clear
  have hclears : ∀ s post, Clears s d.log post := by
    intro s post x hx _
    refine .inl ((h.pending hx).resolve_right ?_)
    simp [pipeline, hw, ha, hq, awaitDecision]
  have hp := prepared cfg (d.receive alive event) event
  generalize Desk.prepare cfg _ event = d' at hp
  cases hp with
  | registers | invalidates =>
    exact ⟨[], [], by simp, by simp, by simp, fun s' _ => hclears s' _, .inl rfl⟩
  | @refused _ x =>
    exact ⟨[x.response.fail .payloadProjectionFailed], [], by simp, by simpa using quiet_fail ..,
      by simp, fun s' _ => hclears s' _, .inl rfl⟩
  | acknowledges s callback =>
    exact ⟨[], [.acknowledged callback], by simp, by simp, by simp, fun s' _ => hclears s' _,
      .inr rfl⟩

omit [Double F] in
lemma placed_received {log more : List (Entry F)} (h : Placed Cleared log)
    (hc : ∀ s, ends event = some s → Clears s log more) (hm : ∀ e, .received e ∉ more) :
    Placed Cleared (log ++ .received event :: more) := by
  refine h.append cleared_mono fun pre e post he event' s hev hend => ?_
  obtain _ | ⟨e₀, pre⟩ := pre
  · rw [List.nil_append, List.cons.injEq, hev] at he
    obtain ⟨he, rfl⟩ := he
    cases he
    rw [List.append_nil]
    exact hc s hend
  · rw [List.cons_append, List.cons.injEq] at he
    refine absurd ?_ (hm event')
    rw [he.2, hev]
    simp

omit [Double F] in
lemma Receipt.settles {sent acks : List (Entry F)} (h : Receipt event d d' sent acks)
    (hs : Settles d) (hw : cancelling d.await = false) : Settles d' := by
  have hplaced : Placed Cleared d.log := by
    have := hs.cleared
    rwa [owed_nil hw, List.append_nil] at this
  have hquiet : ∀ e, .received e ∉ sent ++ owed d' := by
    intro e he
    obtain he | he := List.mem_append.mp he
    · exact h.quiet _ he
    · exact quiet_owed he
  have hacks : ∀ e : XSWDEvent F, .received e ∉ acks := by
    intro e he
    obtain ⟨c, hc⟩ := h.acknowledges _ he
    cases hc
  -- what stands before an acknowledgement is settled, since nothing is owed
  have hbefore : ∀ mid post, acks = mid ++ post → owed d' = [] →
      Placed Cleared (d.log ++ .received event :: (sent ++ mid)) := by
    intro mid post hsplit howed
    refine placed_received hplaced (fun s hend x hx hstate => ?_) fun e he => ?_
    · have := h.clears s hend x hx hstate
      rw [howed, List.append_nil] at this
      exact this.imp_right (List.mem_append_left _)
    · obtain he | he := List.mem_append.mp he
      · exact h.quiet _ he
      · exact hacks e (by rw [hsplit]; exact List.mem_append_left _ he)
  refine ⟨?_, ?_⟩
  · obtain hnil | hnil := h.paid
    · rw [h.log, hnil, List.append_nil, List.append_assoc]
      exact placed_received hplaced h.clears hquiet
    · rw [h.log, hnil, List.append_nil]
      exact hbefore acks [] (List.append_nil _).symm hnil
  · rw [h.log]
    refine hs.settled.append fun pre e post he hkind => ?_
    obtain _ | ⟨e₀, pre⟩ := pre
    · rwa [List.append_nil]
    rw [List.cons_append, List.cons.injEq] at he
    obtain ⟨rfl, he⟩ := he
    obtain ⟨mid, hsent, -⟩ | ⟨mid, rfl, hsplit⟩ := split_append he
    · -- the answers neither acknowledge nor receive
      have hq : Quiet e := h.quiet e (by rw [hsent]; simp)
      rcases hkind with ⟨c, rfl⟩ | ⟨event', rfl⟩ <;> exact hq.elim
    · have hne : acks ≠ [] := by rw [hsplit]; simp
      exact hbefore mid _ hsplit (h.paid.resolve_left hne)

/-- Without a receipt nothing new is to be cancelled. -/
lemma turn_cancelling (h : Shape d) (ht : Turn cfg alive d none d') :
    cancelling d'.await = false := by
  have hl := turn_await h ht
  generalize d'.await = aw at hl
  cases hl with
  | invalidateCancel s c b hn | invalidateDisconnect s b hn => cases hn
  | _ => rfl

/-- What is owed is paid by the turn that ends the await, before anything else. -/
lemma turn_owed (h : Shape d) (ht : Turn cfg alive d none d') :
    ∃ more, d'.log = d.log ++ owed d ++ more ∧ ∀ event, .received event ∉ more := by
  by_cases hc : cancelling d.await = true
  · cases ht with
    | invalidatedCancel s c b hw =>
      refine ⟨[.acknowledged c], ?_, by simp⟩
      rw [log_acknowledgeCancel, owed, hw]
      rfl
    | invalidatedDisconnect s b hw =>
      refine ⟨[], ?_, by simp⟩
      rw [hw] at hc
      obtain rfl : b = true := hc
      have hlog := failActive_log .requestCancelled d
      rw [← cancelActive_eq] at hlog
      rwa [List.append_nil, if_pos rfl, owed, hw]
    | dispatched _ _ hw | idleClosed hw | returned _ _ hw | busyClosed _ _ hw
    | registered _ _ _ hw | refused _ _ _ hw | called _ _ _ _ hw | invalidatedIdle _ hw
    | invalidatedOverload _ _ hw | projected _ _ _ _ _ hw | unprojected _ _ _ _ hw
    | routed _ _ _ _ _ _ hw | finished _ _ hw =>
      rw [hw] at hc
      cases hc
  · obtain ⟨more, hlog⟩ := turn_log_append h ht
    refine ⟨more, by rw [owed_nil (by simpa using hc), List.append_nil]; exact hlog, ?_⟩
    have hev := turn_receivedEvents h ht
    rw [hlog, receivedEvents_append, Option.toList_none, List.append_cancel_left_eq] at hev
    intro event hm
    have : event ∈ receivedEvents more := List.mem_filterMap.mpr ⟨_, hm, rfl⟩
    rw [hev] at this
    cases this

theorem settles_turn (h : Inv d) (hs : Settles d) (ht : Turn cfg alive d new d') : Settles d' := by
  obtain _ | event := new
  · obtain ⟨more, hlog, hmore⟩ := turn_owed h.shape ht
    have hplaced : ∀ pre post, more = pre ++ post → Placed Cleared (d.log ++ owed d ++ pre) := by
      intro pre post hsplit
      refine placed_plain hs.cleared fun event hm => absurd ?_ (hmore event)
      rw [hsplit]
      exact List.mem_append_left _ hm
    refine ⟨?_, ?_⟩
    · rw [owed_nil (turn_cancelling h.shape ht), List.append_nil, hlog]
      exact hplaced more [] (List.append_nil _).symm
    rw [hlog, List.append_assoc]
    refine hs.settled.append fun pre e post he hkind => ?_
    obtain ⟨mid, howed, -⟩ | ⟨mid, rfl, hsplit⟩ := split_append he
    · have hq : Quiet e := quiet_owed (by rw [howed]; simp)
      rcases hkind with ⟨c, rfl⟩ | ⟨event', rfl⟩ <;> exact hq.elim
    · rw [← List.append_assoc]
      exact hplaced mid _ hsplit
  · cases ht with
    | idleReceived _ hw ha hq =>
      obtain ⟨sent, acks, hr⟩ := receipt_idle cfg alive h hw ha hq
      exact hr.settles hs (by rw [hw]; rfl)
    | busyReceived a burst _ hw =>
      obtain ⟨sent, acks, hr⟩ := receipt_busy alive h hw burst
      exact hr.settles hs (by rw [hw]; rfl)

theorem reachable_settles (h : Reachable (desks cfg) d) : Settles d := by
  refine h.invariant (P := Settles) ?_ ?_
  · rintro d rfl
    exact ⟨placed_nil, justified_nil⟩
  rintro d ⟨alive, input⟩ d' hr hd hstep
  obtain ⟨new, ht, -⟩ := turn_of_step hstep
  exact settles_turn (reachable_inv hr) hd ht

end XelisWallet.DispatcherClears
