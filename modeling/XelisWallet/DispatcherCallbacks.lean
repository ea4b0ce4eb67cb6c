import XelisWallet.DispatcherAnswers

/-!
The callbacks of the dispatcher: one at a time, in the order of their requests, and never
starved.

The log tells when a callback is called and when it is over. What is still to be called, after
what was called, keeps the order in which it was received. While a callback is ready, every
event that is received ahead of it counts against the receive burst.
-/

namespace XelisWallet.DispatcherCallbacks

open Json Runs Xswd Dispatcher DispatcherQueue DispatcherTurns DispatcherShape DispatcherMoves
open DispatcherWorld DispatcherAnswers

variable {F : Type} {d d' : Desk F}

/-! ### One callback at a time -/

variable {act' : Option (ActiveCallback F)} {a : ActiveCallback F} {sent : List (Entry F)}

lemma Serves.split {act : Option (ActiveCallback F)} {s t : List (Entry F)}
    (h : Serves act (s ++ t) act') : ∃ mid, Serves act s mid ∧ Serves mid t act' := by
  induction s generalizing act with
  | nil => exact ⟨act, .nil act, h⟩
  | cons e s ih =>
    cases h with
    | other he h =>
      obtain ⟨mid, h₁, h₂⟩ := ih h
      exact ⟨mid, .other he h₁, h₂⟩
    | ends he hend h =>
      obtain ⟨mid, h₁, h₂⟩ := ih h
      exact ⟨mid, .ends he hend h₁, h₂⟩
    | calls he h =>
      obtain ⟨mid, h₁, h₂⟩ := ih h
      exact ⟨mid, .calls he h₁, h₂⟩

lemma Serves.ended (h : Serves (some a) sent act') : act' = some a ∨ ∃ f ∈ sent, Ends a f := by
  induction sent with
  | nil => cases h; exact .inl rfl
  | cons e sent ih =>
    cases h with
    | other he h => exact (ih h).imp_right fun ⟨f, hf, hend⟩ => ⟨f, List.mem_cons_of_mem _ hf, hend⟩
    | ends he hend => exact .inr ⟨e, by simp, hend⟩

lemma Serves.called {act : Option (ActiveCallback F)} {e : Entry F}
    (h : Serves act (e :: sent) act') (he : callback e = some a) :
    act = none ∧ Serves (some a) sent act' := by
  cases h with
  | other hn | ends hn => simp [hn] at he
  | calls ha h =>
    obtain rfl := Option.some.inj (ha.symm.trans he)
    exact ⟨rfl, h⟩

lemma serves_returned (hm : Matched a) {outcome : ActiveOutcome}
    (hy : a.future.yields outcome = true) :
    Serves (some a) (.returned a.future outcome :: a.complete outcome) none := by
  obtain ⟨state, kind, future⟩ := a
  cases kind with
  | decision response =>
    obtain rfl : future = .decision response.channel := hm
    cases outcome with
    | notification => cases hy
    | decision o =>
      have hcall : callback (response.complete o) = none := by cases response <;> rfl
      exact .other rfl (.ends hcall (by simp [Ends]) (.nil _))
  | notification =>
    obtain rfl : future = .notification := hm
    cases outcome with
    | decision => cases hy
    | notification => exact .ends rfl (.inl ⟨_, rfl⟩) (.nil _)

/-! ### The order of the calls -/

def calledDecision : Entry F → Option (Decision F)
  | .called x _ => some x
  | _ => none

/-- The decisions whose callbacks were called, oldest first. -/
def started (log : List (Entry F)) : List (Decision F) := log.filterMap calledDecision

@[simp] lemma started_append (l₁ l₂ : List (Entry F)) :
    started (l₁ ++ l₂) = started l₁ ++ started l₂ :=
  List.filterMap_append ..

lemma started_plain (h : ∀ e ∈ sent, Plain e) : started sent = [] := by
  refine List.filterMap_eq_nil_iff.mpr fun e he => ?_
  have := h e he
  cases e <;> first | rfl | exact this.elim

variable [Double F] {cfg : Config} {alive : App → Bool} {new : Option (XSWDEvent F)}

lemma turn_started (h : Shape d) (ht : Turn cfg alive d new d') :
    started d'.log = started d.log ∨
      ∃ x t r summary, d.await = .describe x t r ∧ new = none ∧ d' = d.call x summary := by
  obtain ⟨sent, hlog, hp, -⟩ | ⟨a, outcome, -, -, -, hlog, -⟩ | hcall := turn_log h ht
  · left
    have hnew : started (new.toList.map .received) = [] := by cases new <;> rfl
    rw [hlog, started_append, started_append, hnew, started_plain hp, List.append_nil,
      List.append_nil]
  · left
    have hc : started (Entry.returned a.future outcome :: a.complete outcome) = [] := by
      change started (a.complete outcome) = []
      unfold ActiveCallback.complete
      split
      · next response _ o _ => cases response <;> rfl
      · rfl
      · rfl
    rw [hlog, started_append, hc, List.append_nil]
  · exact .inr hcall

/-- What the log says of the callbacks. -/
structure Orderly (d : Desk F) : Prop where
  serves : Serves none d.log d.active
  /-- What was called, and then what is still to be called, in the order of the requests. -/
  order : (started d.log ++ waiting d).Sublist (requests d.log)

lemma orderly_turn (h : Shape d) (ho : Orderly d) (ht : Turn cfg alive d new d') :
    Orderly d' := by
  refine ⟨?_, ?_⟩
  · rcases turn_log h ht with ⟨sent, hlog, -, hs⟩ | ⟨a, outcome, ha, hy, -, hlog, hn⟩ |
      ⟨x, t, r, summary, hw, -, rfl⟩
    · rw [hlog]
      refine ho.serves.append ((serves_of_others ?_).append hs)
      intro e he
      obtain ⟨event, -, rfl⟩ := List.mem_map.mp he
      rfl
    · have hserves := ho.serves
      rw [ha] at hserves
      rw [hlog, hn]
      exact hserves.append (serves_returned (h.slots.matched a ha) hy)
    · have hact : d.active = none := by simpa [hw, AwaitOk] using h.await
      have hserves := ho.serves
      rw [hact] at hserves
      exact hserves.append (.calls rfl (.nil _))
  · have hcalled : ∀ x t r summary, d.await = .describe x t r → d' = d.call x summary →
        (started d'.log ++ waiting d').Sublist (requests d'.log) := by
      rintro x t r summary hw rfl
      have hw' : waiting d = x :: waiting (d.call x summary) := by
        simp [waiting, hw, awaitDecision]
      have horder := ho.order
      rw [hw'] at horder
      rw [turn_requests h ht, Desk.call_log, Desk.emit_log, started_append, List.append_assoc]
      exact horder.trans (List.sublist_append_left ..)
    obtain hs | ⟨x, t, r, summary, hw, -, hd⟩ := turn_started h ht
    · obtain ⟨x, t, r, summary, hw, hd⟩ | hwait := turn_waiting h ht
      · exact hcalled x t r summary hw hd
      rw [hs, turn_requests h ht]
      have hnew := List.Sublist.append_left hwait (started d.log)
      rw [← List.append_assoc] at hnew
      exact hnew.trans (List.Sublist.append_right ho.order _)
    · exact hcalled x t r summary hw hd

theorem reachable_orderly (h : Reachable (desks cfg) d) : Orderly d := by
  refine h.invariant (P := Orderly) ?_ ?_
  · rintro d rfl
    exact ⟨.nil none, List.Sublist.refl _⟩
  rintro d ⟨alive, input⟩ d' hr hd hstep
  obtain ⟨new, ht, -⟩ := turn_of_step hstep
  exact orderly_turn (reachable_inv hr).shape hd ht

variable {u v w : World F} {ms : List (Action F)}

/-- **Callbacks run one at a time, in the order of their requests.** In every run a callback is
called only after every earlier one is over, and one that is not over is the active one. The
decisions that are called are called in the order in which their requests were received, each
request at most once. -/
theorem callbacks_serial_in_order (h : Reachable (worlds cfg) w) :
    (∀ pre e mid e' post a a', w.desk.log = pre ++ e :: (mid ++ e' :: post) →
      callback e = some a → callback e' = some a' → ∃ f ∈ mid, Ends a f) ∧
    (∀ pre e post a, w.desk.log = pre ++ e :: post → callback e = some a →
      w.desk.active = some a ∨ ∃ f ∈ post, Ends a f) ∧
    (started w.desk.log).Sublist (requests w.desk.log) ∧
    ((requests w.desk.log).map Decision.channel).Nodup ∧
    ((started w.desk.log).map Decision.channel).Nodup := by
  have hd := reachable_desk h
  have ho := reachable_orderly hd
  have hnodup : ((requests w.desk.log).map Decision.channel).Nodup :=
    (reachable_inv hd).fresh.sublist (channels_requests _)
  have horder : (started w.desk.log).Sublist (requests w.desk.log) :=
    (List.sublist_append_left ..).trans ho.order
  refine ⟨?_, ?_, horder, hnodup, hnodup.sublist (horder.map _)⟩
  · intro pre e mid e' post a a' hlog he he'
    have hs := ho.serves
    rw [hlog] at hs
    obtain ⟨act, -, hs⟩ := Serves.split hs
    obtain ⟨act', hmid, hs'⟩ := Serves.split (Serves.called hs he).2
    -- the later call finds the slot empty, so the earlier one was over
    refine (Serves.ended hmid).resolve_left fun hact => ?_
    rw [(Serves.called hs' he').1] at hact
    cases hact
  · intro pre e post a hlog he
    have hs := ho.serves
    rw [hlog] at hs
    obtain ⟨act, -, hs⟩ := Serves.split hs
    exact Serves.ended (Serves.called hs he).2

/-- A request that waits while another is decided is called after it. -/
theorem deferred_request_called_second :
    ∃ w : World Float, Reachable (worlds plainConfig) w ∧
      started w.desk.log = [⟨7, .permission 0, true⟩, ⟨8, .permission 1, true⟩] ∧
      (started w.desk.log).Sublist (requests w.desk.log) := by
  have h : Reachable (worlds (F := Float) plainConfig) _ :=
    reachable_initial.exec (fun _ _ _ h => h)
    [.recv (some (.requestApplication 7 0)), .lock, .described [],
      .select (some (some (.requestApplication 8 1))) none,
      .select none (some (.decision .accept)), .next, .lock, .described []] rfl
  exact ⟨_, h, rfl, (callbacks_serial_in_order h).2.2.1⟩

/-! ### A ready callback -/

section Burst

omit [Double F]

/-- The callbacks called so far, oldest first. -/
def calls (log : List (Entry F)) : List (ActiveCallback F) := log.filterMap callback

lemma calls_lt {n : PreparedNotification F} (h : Notifies d n d') :
    (calls d.log).length < (calls d'.log).length := by
  obtain ⟨sent, hlog, hn⟩ := h
  have hpos : 0 < (calls sent).length :=
    List.length_pos_of_mem (List.mem_filterMap.mpr ⟨_, hn, rfl⟩)
  have happ : calls (d.log ++ sent) = calls d.log ++ calls sent := List.filterMap_append ..
  rw [hlog, happ, List.length_append]
  exact Nat.lt_add_of_pos_right hpos

/-- Nothing is received, and the burst goes on unless the active callback is gone. -/
def Pauses (d d' : Desk F) : Prop :=
  receivedEvents d'.log = receivedEvents d.log ∧
    (d'.receiveBurst = d.receiveBurst ∨ d'.active = none ∨ ∃ n, Notifies d n d')

lemma Follows.receivedEvents_eq (h : Follows d d') :
    receivedEvents d'.log = receivedEvents d.log := by
  obtain ⟨sent, hlog, hp, -⟩ := h
  rw [hlog, receivedEvents_append, receivedEvents_plain hp, List.append_nil]

lemma burst_failActive (code : FailureCode) :
    (d.failActive code).receiveBurst = d.receiveBurst := by
  unfold Desk.failActive
  split <;> rfl

lemma burst_acknowledgeCancel (state : App) (callback : Sender) (b admission : Bool) :
    (d.acknowledgeCancel state callback b admission).receiveBurst = d.receiveBurst := by
  cases b with
  | true =>
    rw [Desk.acknowledgeCancel, if_pos rfl, cancelActive_eq]
    exact burst_failActive _
  | false => rfl

lemma burst_busied {event : XSWDEvent F} (hb : Busied d event d') :
    d'.receiveBurst = d.receiveBurst := by
  cases hb with
  | acknowledges => exact burst_acknowledgeCancel ..
  | queued | refused | invalidates | disconnects => rfl

lemma burst_routed {route : Route} {n : PreparedNotification F} (hr : Routed d n route d') :
    d'.receiveBurst = d.receiveBurst ∨ ∃ n, Notifies d n d' := by
  cases hr with
  | starts => exact .inr ⟨n, notifies_start d n⟩
  | overloads next q => exact .inr ⟨next, notifies_overload { d with deferred := q } next⟩
  | queues | abandons | defers | waits => exact .inl rfl

lemma burst_of_event {burst : ℕ} {event : Option (Option (XSWDEvent F))}
    {outcome : Option ActiveOutcome} {e : Option (XSWDEvent F)}
    (h : selectInput burst event outcome = some (.event e)) :
    burst < maxReceiveBurst ∨ outcome = none := by
  by_cases hb : maxReceiveBurst ≤ burst
  · right
    cases outcome with
    | none => rfl
    | some => simp [selectInput, hb] at h
  · exact .inl (Nat.lt_of_not_le hb)

lemma outcome_of_callback {burst : ℕ} {event : Option (Option (XSWDEvent F))}
    {outcome : Option ActiveOutcome} {o : ActiveOutcome}
    (h : selectInput burst event outcome = some (.callback o)) : outcome = some o := by
  unfold selectInput at h
  split at h <;> rcases event with _ | event <;> rcases outcome with _ | outcome <;> simp_all

end Burst

/-- **What the two selects take**: the outcome of the callback, or what the channel yields. -/
lemma select_cases {event : Option (Option (XSWDEvent F))} {outcome : Option ActiveOutcome}
    (h : d.step cfg alive (.select event outcome) = some d') :
    (∃ a o, d.active = some a ∧ outcome = some o ∧
      d' = { d.emit (.returned a.future o :: a.complete o) with
        active := none, receiveBurst := 0 }) ∨
    (d.receiveBurst < maxReceiveBurst ∨ outcome = none) ∧
      ∃ burst, burst = (if maxReceiveBurst ≤ d.receiveBurst then 0 else d.receiveBurst) ∧
        (d' = ({ d with receiveBurst := burst }).closing alive true ∨
          ∃ e, d' = ({ d.receive alive e with receiveBurst := burst + 1 }).busyEvent e) := by
  simp only [Desk.step] at h
  split at h
  · next a input hw ha hin =>
    obtain o | _ | e := input
    · simp only [Desk.handle, Option.ite_none_right_eq_some, Option.some.injEq] at h
      exact .inl ⟨a, o, ha, outcome_of_callback hin, h.2.symm⟩
    · exact .inr ⟨burst_of_event hin, _, rfl, .inl (Option.some.inj h).symm⟩
    · simp only [Desk.handle, Option.ite_none_right_eq_some, Option.some.injEq] at h
      exact .inr ⟨burst_of_event hin, _, rfl, .inr ⟨e, h.2.symm⟩⟩
  · cases h

lemma step_ready (h : Shape d) {input : Input F} (hstep : d.step cfg alive input = some d')
    (ha : d.active ≠ none) (hready : ∀ event, input ≠ .select event none) :
    Pauses d d' ∨ (d.receiveBurst < maxReceiveBurst ∧ d'.receiveBurst = d.receiveBurst + 1 ∧
      (receivedEvents d'.log).length = (receivedEvents d.log).length + 1) := by
  have haw := h.await
  have hfollows : ∀ d₁ : Desk F, Follows d d₁ → (d₁.receiveBurst = d.receiveBurst ∨
      d₁.active = none ∨ ∃ n, Notifies d n d₁) → Pauses d d₁ :=
    fun d₁ hf hb => ⟨Follows.receivedEvents_eq hf, hb⟩
  cases input
  case select event _ =>
    obtain ⟨a, o, -, -, rfl⟩ | ⟨hlt, burst, hburst, hd⟩ := select_cases hstep
    · refine .inl ⟨?_, .inr (.inl rfl)⟩
      change receivedEvents (d.log ++ _) = _
      rw [receivedEvents_append, receivedEvents_returned, List.append_nil]
    · replace hlt := hlt.resolve_right fun hn => hready event (by rw [hn])
      rw [if_neg (Nat.not_le.mpr hlt)] at hburst
      subst hburst
      obtain rfl | ⟨e, rfl⟩ := hd
      · exact .inl (hfollows _ (follows_of_entry (e := .closed) rfl rfl trivial) (.inl rfl))
      have hb := busied { d.receive alive e with receiveBurst := d.receiveBurst + 1 } e
      refine .inr ⟨hlt, burst_busied hb, ?_⟩
      rw [Follows.receivedEvents_eq (follows_busied hb)]
      simp [receivedEvents, Entry.event]
  all_goals simp only [Desk.step] at hstep
  case next | recv event =>
    split at hstep
    all_goals first | (cases hstep; done) | exact absurd ‹d.active = none› ha
  case registered =>
    split at hstep <;> cases hstep
    all_goals next hw => rw [hw] at haw; exact absurd haw ha
  case projected =>
    split at hstep <;> cases hstep
    · exact .inl (hfollows _ (follows_of_log rfl rfl) (.inl rfl))
    · next state kind admission route e hw =>
      cases route <;> exact .inl (hfollows _ (follows_of_log rfl rfl) (.inl rfl))
  case invalidated =>
    split at hstep <;> cases hstep
    · exact .inl (hfollows _ (follows_of_log rfl rfl) (.inl rfl))
    · exact .inl (hfollows _ (follows_acknowledgeCancel ..) (.inl (burst_acknowledgeCancel ..)))
    · next state b hw =>
      cases b with
      | true =>
        rw [if_pos rfl, cancelActive_eq]
        exact .inl (hfollows _ (follows_failActive ..) (.inl (burst_failActive _)))
      | false => exact .inl (hfollows _ (follows_of_log rfl rfl) (.inl rfl))
    · next state next hw =>
      exact .inl (hfollows _ (follows_overload d next)
        (.inr (.inr ⟨next, notifies_overload d next⟩)))
    · next states busy hw =>
      cases busy with
      | true => exact .inl (hfollows _ (follows_finish d true) (.inr (.inl (failActive_active ..))))
      | false => exact .inl (hfollows _ (follows_finish d false) (.inl rfl))
  case described =>
    split at hstep
    · next hw => rw [hw] at haw; exact absurd haw ha
    · next state kind admission route r hw =>
      rw [hw] at haw
      cases hstep
      have hr := h.slots.routed route
      refine .inl (hfollows _ (follows_routed haw (?_ : IsNotice state _ _ _) (hr _))
        ((burst_routed (hr _)).imp_right .inr))
      exact ⟨rfl, rfl, by cases kind <;> simp⟩
    · cases hstep

lemma step_received (h : Shape d) {input : Input F} (hstep : d.step cfg alive input = some d') :
    receivedEvents d'.log = receivedEvents d.log ∨
      (receivedEvents d'.log).length = (receivedEvents d.log).length + 1 ∧
        (d'.active = none ∨ 1 ≤ d'.receiveBurst) := by
  obtain ⟨new, ht, hin⟩ := turn_of_step hstep
  have hev := turn_receivedEvents h ht
  obtain _ | event := new
  · exact .inl (by simpa using hev)
  refine .inr ⟨by simp [hev], ?_⟩
  cases ht with
  | idleReceived _ hw ha => exact .inl ((prepared ..).slots.2.1.trans ha)
  | busyReceived a burst _ hw ha =>
    cases input with
    | select e =>
      obtain ⟨a, o, -, -, hd⟩ | ⟨-, burst, -, hd | ⟨e, hd⟩⟩ := select_cases hstep
      · exact .inl (by rw [hd])
      · rw [hd] at hev
        simp [Desk.closing, receivedEvents, Entry.event, List.filterMap_cons] at hev
      · rw [hd, burst_busied (busied ..)]
        exact .inr (Nat.le_add_left ..)
    | recv => simp [Desk.step, hw, ha] at hstep
    | next | registered | projected | invalidated | described => cases hin event rfl

/-- The `n`-th callback is active. -/
def Holds (n : ℕ) (d : Desk F) : Prop := d.active ≠ none ∧ (calls d.log).length = n

/-- The runs while the `n`-th callback is active and ready: a select finds its outcome. -/
def readyRuns (cfg : Config) (n : ℕ) : System (World F) (Action F) where
  init := Reachable (worlds cfg)
  step w a w' :=
    Holds n w.desk ∧ (∀ event, a ≠ .select event none) ∧ (worlds cfg).step w a w'

/-- At most so many events are received, and while the callback waits the rest of the burst is
still below the bound. -/
def Within (n bound : ℕ) (d : Desk F) : Prop :=
  (receivedEvents d.log).length ≤ bound ∧
    (Holds n d → (receivedEvents d.log).length + (maxReceiveBurst - d.receiveBurst) ≤ bound)

lemma within_step {n bound : ℕ} {a : Action F} (hw : Reachable (worlds cfg) v)
    (h : Within n bound v.desk) (hstep : (readyRuns cfg n).step v a w) : Within n bound w.desk := by
  obtain ⟨hold, hready, hstep⟩ := hstep
  have hbound := h.2 hold
  obtain ⟨input, hi, hsel⟩ | hd := step_desk hstep
  · have hshape := (reachable_inv (reachable_desk hw)).shape
    rcases step_ready hshape hi hold.1 fun event he => hready event (hsel event none he) with
      ⟨hrec, hb⟩ | ⟨hlt, hb, hrec⟩
    · refine ⟨by rw [hrec]; omega, fun hold' => ?_⟩
      obtain hb | hb | ⟨m, hb⟩ := hb
      · rwa [hrec, hb]
      · exact absurd hb hold'.1
      -- another callback was called
      have := calls_lt hb
      rw [hold.2, hold'.2] at this
      exact absurd this (Nat.lt_irrefl n)
    · exact ⟨by omega, fun _ => by omega⟩
  · rwa [hd]

/-- **A ready callback is not starved.** From the moment at which the active callback is ready, be
it in the middle of a step, at most as many events are received as a burst allows until it
returns or is removed; and if so many have been received, the next select takes its outcome. -/
theorem ready_callback_not_starved {n : ℕ} (hu : Reachable (worlds cfg) u)
    (hv : v = u ∨ ∃ a, (worlds cfg).step u a v) (hr : Run (readyRuns cfg n) v ms w) :
    (receivedEvents w.desk.log).length
        ≤ (receivedEvents u.desk.log).length + maxReceiveBurst ∧
    (Holds n w.desk → (receivedEvents w.desk.log).length
        = (receivedEvents u.desk.log).length + maxReceiveBurst →
      ∀ event outcome w', (worlds cfg).step w (.select event (some outcome)) w' →
        w'.desk.active = none ∧ ∃ a, w.desk.active = some a ∧
          w'.desk.log = w.desk.log ++ .returned a.future outcome :: a.complete outcome) := by
  have hpos : 1 ≤ maxReceiveBurst := by decide
  have hstart : Reachable (worlds cfg) v ∧
      Within n ((receivedEvents u.desk.log).length + maxReceiveBurst) v.desk := by
    rcases hv with rfl | ⟨a, hstep⟩
    · exact ⟨hu, by omega, fun _ => by omega⟩
    · refine ⟨hu.step hstep, ?_⟩
      rcases step_desk hstep with ⟨input, hi, -⟩ | hd
      · rcases step_received (reachable_inv (reachable_desk hu)).shape hi with
          hrec | ⟨hrec, hn | hb⟩
        · rw [Within, hrec]
          exact ⟨by omega, fun _ => by omega⟩
        · exact ⟨by omega, fun hold => absurd hn hold.1⟩
        · exact ⟨by omega, fun _ => by omega⟩
      · rw [hd]
        exact ⟨by omega, fun _ => by omega⟩
  obtain ⟨hw, hwithin⟩ : Reachable (worlds cfg) w ∧
      Within n ((receivedEvents u.desk.log).length + maxReceiveBurst) w.desk := by
    refine hr.preserves (P := fun w => Reachable (worlds cfg) w ∧
      Within n ((receivedEvents u.desk.log).length + maxReceiveBurst) w.desk) ?_ hstart
    rintro w a w' ⟨hw, hwithin⟩ hstep
    exact ⟨hw.step hstep.2.2, within_step hw hwithin hstep⟩
  refine ⟨hwithin.1, fun hold hfull event outcome w' hstep => ?_⟩
  have hburst : maxReceiveBurst ≤ w.desk.receiveBurst := by
    have := hwithin.2 hold
    omega
  obtain ⟨-, hgo⟩ := Option.ite_none_right_eq_some.mp hstep
  rcases select_cases (go_desk hgo).1 with ⟨a, o, ha, ho, hd⟩ | ⟨hlt | hn, -⟩
  · cases ho
    rw [hd]
    exact ⟨rfl, a, ha, rfl⟩
  · omega
  · cases hn

/-- An event that arrives together with the outcome is received first. -/
theorem ready_decision_after_one_event :
    ∃ u w : World Float, Reachable (worlds plainConfig) u ∧ w.desk.active.isSome ∧
      (receivedEvents w.desk.log).length = (receivedEvents u.desk.log).length + 1 ∧
      (receivedEvents w.desk.log).length
        ≤ (receivedEvents u.desk.log).length + maxReceiveBurst := by
  obtain ⟨u, hu, w, hr, hact, hrec⟩ : ∃ u : World Float, Reachable (worlds plainConfig) u ∧
      ∃ w, Run (readyRuns plainConfig 1) u [.select (some (some (.requestApplication 8 1)))
        (some (.decision .accept))] w ∧ w.desk.active.isSome ∧
        (receivedEvents w.desk.log).length = (receivedEvents u.desk.log).length + 1 :=
    ⟨_, reachable_initial.exec (fun _ _ _ h => h)
      [.recv (some (.requestApplication 7 0)), .lock, .described []] rfl, _,
      .single ⟨⟨nofun, rfl⟩, nofun, rfl⟩, rfl, rfl⟩
  exact ⟨u, w, hu, hact, hrec, (ready_callback_not_starved hu (.inl rfl) hr).1⟩

end XelisWallet.DispatcherCallbacks
