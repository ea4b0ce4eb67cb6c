import XelisWallet.DartSubscriptionSafe

/-!
Frames after the cancellation of a subscription of the package.

After `cancel` the pump adds no frame, so the listener gets only what waits for it then. A frame
waits if the listener was paused after the pump had last looked and before it added the frame.
-/

namespace XelisWallet.DartSubscription

open Fallible Runs NativeSubscription DartStream EventSubscription

variable {F G X : Type}

/-! ### After the cancellation -/

variable {s s' : EventSubscription F G X} {native : Native} {A : Adapter F G X} {generation : ℕ}

lemma received_of_run (h : Good A generation s) {ls : List (Native × Action F X)}
    (hrun : Run (eventSubscriptions A generation) s ls s') (hcancel : s.cancelRequested = true)
    (hwaiting : ¬ s.listener.Waiting) : s'.listener.received = s.listener.received := by
  have hkept := hrun.preserves (P := fun t => Good A generation t ∧ t.cancelRequested = true ∧
    ¬ t.listener.Waiting ∧ t.listener.received = s.listener.received) ?_
    ⟨h, hcancel, hwaiting, rfl⟩
  · exact hkept.2.2.2
  rintro t a u ⟨hgood, hcancel, hwaiting, hreceived⟩ hstep
  obtain ⟨hgood, hcalm | ⟨-, -, hopen, -⟩ | ⟨frame, rest, hcancelled, hpending, -⟩⟩ :=
    hgood.taken (taken_of_step hstep)
  · exact ⟨hgood, hcalm.cancelRequested hcancel, fun hw => hwaiting (hcalm.listener.waiting hw),
      hcalm.listener.received.trans hreceived⟩
  · rw [hcancel] at hopen
    cases hopen
  · exact absurd ⟨hcancelled, frame, by rw [hpending]; exact List.mem_cons_self⟩ hwaiting

lemma run_of_step {a : Action F X} (hstep : s.step A generation native a = some s') :
    Run (eventSubscriptions A generation) s [(native, a)] s' :=
  .single (l := (native, a)) hstep

/-- The first frame that waits can be delivered, after the pauses have ended. -/
structure Ready (frame : EventFrame G) (s : EventSubscription F G X) : Prop where
  busy : s.pump.busy = false
  attached : s.listener.attached = true
  cancelled : s.listener.cancelled = false
  callback : s.listener.callback = none
  pending : ∃ rest, s.listener.pending = .data frame :: rest
  scheduled : s.listener.pauses = 0 → s.listener.scheduled = true

lemma Ready.delivered {frame : EventFrame G} (h : Ready frame s) :
    ∃ ls t, Run (eventSubscriptions A generation) s ls t ∧
      t.listener.received = s.listener.received ++ [frame] := by
  induction hpauses : s.listener.pauses generalizing s with
  | zero =>
    obtain ⟨rest, hpending⟩ := h.pending
    have hdeliver : s.step A generation ⟨true, true⟩ .deliver = some { s with
        listener := ({ s.listener with pending := rest, scheduled := false }.fire
          (.data frame)).1 } := by
      simp only [EventSubscription.step, EventSubscription.free, Listener.deliver, h.busy,
        h.callback, h.cancelled, hpauses, h.scheduled hpauses, hpending]
      rfl
    exact ⟨_, _, run_of_step hdeliver, rfl⟩
  | succ n ih =>
    obtain ⟨rest, hpending⟩ := h.pending
    obtain ⟨scheduled, hresume, hscheduled⟩ := Listener.resume_of_pending h.cancelled hpauses
      (by simp [hpending])
    have hstep : s.step A generation ⟨true, true⟩ .resume = some { s with
        listener := { s.listener with pauses := n, scheduled } } := by
      simp only [EventSubscription.step, EventSubscription.mayCall, h.busy, h.attached,
        EventSubscription.tell, hresume]
      rfl
    have hready : Ready frame { s with listener := { s.listener with pauses := n, scheduled } } :=
      ⟨h.busy, h.attached, h.cancelled, h.callback, h.pending, hscheduled⟩
    obtain ⟨ls, t, hrun, hreceived⟩ := ih hready rfl
    exact ⟨_, t, (run_of_step hstep).append hrun, hreceived⟩

lemma resumePump_busy : s.resumePump.pump.busy = s.pump.busy := by
  simp only [resumePump]
  split
  · cases s.pump <;> rfl
  · rfl

lemma cancel_started (native : Native) (hstarted : s.pumpFuture = true) :
    (s.cancel native).listener = s.listener ∧ (s.cancel native).pump.busy = s.pump.busy := by
  rw [cancel]
  split
  · have hbusy := resumePump_busy (s := { s with cancelRequested := true })
    generalize hr : { s with cancelRequested := true }.resumePump = r at hbusy ⊢
    have hlistener : r.listener = s.listener := by rw [← hr]; rfl
    have hpumpFuture : r.pumpFuture = true := by rw [← hr]; exact hstarted
    rw [requestNativeCancel]
    split_ifs <;> simp_all
  · exact ⟨rfl, rfl⟩

lemma obey_listener (s : EventSubscription F G X) (native : Native) {signal : Option Signal}
    (hsignal : signal ≠ some .onCancel) : (s.obey native signal).listener = s.listener ∧
    (s.obey native signal).pump.busy = s.pump.busy := by
  match signal with
  | some .onPause =>
    simp only [obey, onPause]
    split <;> exact ⟨rfl, rfl⟩
  | some .onResume => exact ⟨rfl, resumePump_busy⟩
  | some .onCancel => exact absurd rfl hsignal
  | none => exact ⟨rfl, rfl⟩

lemma delivered_of_waiting (h : Orderly s) (hbusy : s.pump.busy = false)
    (hcallback : s.listener.callback = none) (hwaiting : s.listener.Waiting) : ∃ ls t, Run
    (eventSubscriptions A generation) s ls t ∧ t.listener.received ≠ s.listener.received := by
  obtain ⟨frame, rest, hpending⟩ := h.sound.head_of_waiting hwaiting
  have hattached := h.attached frame (by rw [hpending]; exact List.mem_cons_self)
  have hready : Ready frame s := ⟨hbusy, hattached, hwaiting.1, hcallback, ⟨rest, hpending⟩,
    fun hpauses => h.sound.ready hattached hwaiting.1 hcallback hpauses (by simp [hpending])⟩
  obtain ⟨ls, t, hrun, hreceived⟩ := hready.delivered
  refine ⟨ls, t, hrun, ?_⟩
  rw [hreceived]
  simp

variable (h : Reachable (eventSubscriptions A generation) s)
include h

lemma delivered_of_callback (hbusy : s.pump.busy = false) (hwaiting : s.listener.Waiting) : ∃ ls t,
    Run (eventSubscriptions A generation) s ls t ∧ t.listener.received ≠ s.listener.received := by
  cases hcallback : s.listener.callback with
  | none => exact delivered_of_waiting (good_of_reachable h).2 hbusy hcallback hwaiting
  | some was =>
    have hstep : s.step A generation ⟨true, true⟩ .return =
        some (s.tell ⟨true, true⟩ (·.finishCallback was)) := by
      simp only [EventSubscription.step, hcallback, Option.map_some]
    generalize hr : s.tell ⟨true, true⟩ (·.finishCallback was) = r at hstep
    obtain ⟨hcancelled, hnone, hpending, hsignal⟩ :=
      Listener.finishCallback_of_not_cancelled hwaiting.1 was
    have hobeyed := obey_listener { s with listener := (s.listener.finishCallback was).1 }
      ⟨true, true⟩ hsignal
    have hlistener : r.listener = (s.listener.finishCallback was).1 := hr ▸ hobeyed.1
    have hidle : r.pump.busy = false := by
      rw [← hr]
      exact hobeyed.2.trans hbusy
    have hstill : r.listener.Waiting := by
      obtain ⟨-, frame, hframe⟩ := hwaiting
      rw [hlistener]
      exact ⟨hcancelled, frame, hpending ▸ hframe⟩
    have hreached : Reachable (eventSubscriptions A generation) r := h.run (run_of_step hstep)
    obtain ⟨ls, t, hrun, hreceived⟩ := delivered_of_waiting (good_of_reachable hreached).2 hidle
      (by rw [hlistener]; exact hnone) hstill
    refine ⟨_, t, (run_of_step hstep).append hrun, ?_⟩
    rwa [hlistener, (Listener.finishCallback_gentle was).received] at hreceived

lemma asked_of_reachable : s.cancelFuture ≠ .none → s.cancelRequested = true := by
  refine h.invariant (P := fun s => s.cancelFuture ≠ .none → s.cancelRequested = true) ?_ ?_
  · rintro s rfl hfuture
    exact absurd rfl hfuture
  intro s a t hs hasked hstep hfuture
  rcases ((good_of_reachable hs).taken (taken_of_step hstep)).2 with hcalm |
    ⟨-, -, -, -, _, _, rfl⟩ | ⟨_, _, -, -, rfl⟩
  · obtain hcancel | hfuture := hcalm.asked hfuture
    · exact hcancel
    · exact hcalm.cancelRequested (hasked hfuture)
  all_goals exact hasked hfuture

lemma cancel_cancelRequested : (s.cancel native).cancelRequested = true := by
  have hfuture : (s.cancel native).cancelFuture ≠ .none := by
    rw [cancel]
    split
    · split
      · simp
      · split <;> simp
    · rename_i hkept
      exact hkept
  have hcalm := ((Kept.start (good_of_reachable h)).cancel native).calm
  obtain hcancel | hfuture := hcalm.asked hfuture
  · exact hcancel
  · exact hcalm.cancelRequested (asked_of_reachable h hfuture)

omit h

lemma not_busy_of_waiting (h : Orderly s) (hmay : s.mayCall = true)
    (hwaiting : s.listener.Waiting) : s.pump.busy = false := by
  obtain ⟨-, frame, hframe⟩ := hwaiting
  by_contra hbusy
  simp only [Bool.not_eq_false] at hbusy
  have hcallback : s.listener.callback.isSome := by
    simpa [mayCall, hbusy] using hmay
  exact h.busy hbusy hcallback frame hframe

/-- **What waits.** A frame begins to wait only when the pump has looked for a pause for the last
time, and then adds the frame to a listener that is paused. -/
theorem frame_waits_for_pause {A : Adapter F G X} {generation : ℕ} {native : Native}
    {s s' : EventSubscription F G X} {a : Action F X}
    (h : Reachable (eventSubscriptions A generation) s) (hnot : ¬ s.listener.Waiting)
    (hstep : s.step A generation native a = some s') (hwaiting : s'.listener.Waiting) :
    a = .pump ∧ (∃ frame, s.pump = .waited (.holding frame)) ∧ 0 < s.listener.pauses := by
  rcases ((good_of_reachable h).taken (taken_of_step hstep)).2 with hquiet |
    ⟨rfl, hcallback, -, ⟨frame, hpump⟩, adapted, _, rfl⟩ | ⟨frame, rest, hcancelled, hpending, -⟩
  · exact absurd (hquiet.listener.waiting hwaiting) hnot
  · have hsafe := (good_of_reachable h).1
    have hattached := hsafe.attached.trans (hsafe.started (by rw [hpump]; nofun))
    exact ⟨rfl, ⟨frame, hpump⟩, Listener.pauses_of_emit_waiting hattached hcallback
      ((good_of_reachable h).2.alive (by rw [hpump]; rfl)) hnot hwaiting⟩
  · exact absurd ⟨hcancelled, frame, by rw [hpending]; exact List.mem_cons_self⟩ hnot

/-- **Frames after a cancellation.** After `cancel` no frame gets to the listener in any run, if and
only if no frame waited for it then. -/
theorem cancel_stops_frames_iff {A : Adapter F G X} {generation : ℕ} {native : Native}
    {s s' : EventSubscription F G X} (h : Reachable (eventSubscriptions A generation) s)
    (hstep : s.step A generation native .cancel = some s') :
    (∀ ls t, Run (eventSubscriptions A generation) s' ls t →
      t.listener.received = s.listener.received) ↔ ¬ s.listener.Waiting := by
  have hreached : Reachable (eventSubscriptions A generation) s' := h.run (run_of_step hstep)
  simp only [EventSubscription.step] at hstep
  split at hstep <;> cases hstep
  rename_i hmay
  have hquiet := ((Kept.start (good_of_reachable h)).cancel native).calm.listener
  have horderly := (good_of_reachable h).2
  constructor
  · intro hnone hwaiting
    have hstarted : s.pumpFuture = true := by
      obtain ⟨-, frame, hframe⟩ := hwaiting
      rw [← (good_of_reachable h).1.attached]
      exact horderly.attached frame hframe
    obtain ⟨hlistener, hbusy⟩ := cancel_started native hstarted
    obtain ⟨ls, t, hrun, hreceived⟩ := delivered_of_callback hreached
      (hbusy.trans (not_busy_of_waiting horderly hmay hwaiting)) (by rwa [hlistener])
    rw [hlistener] at hreceived
    exact hreceived (hnone ls t hrun)
  · intro hnot ls t hrun
    rw [← hquiet.received]
    exact received_of_run (good_of_reachable hreached) hrun (cancel_cancelRequested h)
      fun hw => hnot (hquiet.waiting hw)

/-- A subscription is cancelled while it reads. -/
theorem cancel_of_one_frame : ∃ s s', oneFrame.foldlM unitStep .init = some s ∧
    unitStep s (⟨true, true⟩, .cancel) = some s' ∧
    ∀ ls t, Run (eventSubscriptions unitAdapter 5) s' ls t →
      t.listener.received = s.listener.received := by
  refine ⟨_, _, rfl, rfl, (cancel_stops_frames_iff (unit_reachable oneFrame rfl) rfl).mpr ?_⟩
  rintro ⟨-, frame, hframe⟩
  cases hframe

/-! ### A frame that was held back too late -/

/-- The listener is paused after the pump has looked, and before it adds the frame. -/
def pausedTooLate : List (Native × Action Unit Unit) :=
  [.listen, .pump, .reply (.ok (some ⟨1, 5, 1, ()⟩)), .pump, .pause, .pump, .pump].map
    (⟨true, true⟩, ·)

/-- The pump adds the frame, and it waits. -/
theorem frame_waits_when_pausedTooLate : ∃ s s',
    (pausedTooLate.take 5).foldlM unitStep .init = some s ∧
    unitStep s (⟨true, true⟩, .pump) = some s' ∧ s'.listener.Waiting ∧
    (∃ frame, s.pump = .waited (.holding frame)) ∧ 0 < s.listener.pauses := by
  have hwaits : ∀ {s s'}, (pausedTooLate.take 5).foldlM unitStep .init = some s →
      unitStep s (⟨true, true⟩, .pump) = some s' → ¬ s.listener.Waiting → s'.listener.Waiting →
      s'.listener.Waiting ∧ (∃ frame, s.pump = .waited (.holding frame)) ∧
        0 < s.listener.pauses := fun hs hs' hnot hwaiting =>
    ⟨hwaiting, (frame_waits_for_pause (unit_reachable _ hs) hnot hs' hwaiting).2⟩
  refine ⟨_, _, rfl, rfl, hwaits rfl rfl ?_ ?_⟩
  · rintro ⟨-, frame, hframe⟩
    cases hframe
  · exact ⟨rfl, _, .head _⟩

/-- After `cancel` the pump ends, and the listener is resumed. -/
def resumedLater : List (Native × Action Unit Unit) :=
  [.pump, .pump, .pump, .pump, .pump, .resume, .deliver].map (⟨true, true⟩, ·)

/-- The frame gets to the listener after `cancel`. -/
theorem frame_after_cancel : ∃ s s' t, pausedTooLate.foldlM unitStep .init = some s ∧
    unitStep s (⟨true, true⟩, .cancel) = some s' ∧ resumedLater.foldlM unitStep s' = some t ∧
    s.listener.received = [] ∧ t.listener.received = [⟨1, 5, 1, ()⟩] :=
  ⟨_, _, _, rfl, rfl, rfl, rfl, rfl⟩

end XelisWallet.DartSubscription
