import XelisWallet.DispatcherQueue

/-!
The turns of the dispatcher: every step it can take, with the event it receives.

Each turn names the await it ends and the function that runs up to the next one. What is
proved about all steps below is proved by cases on the turn.
-/

namespace XelisWallet.DispatcherTurns

open Json Registry Xswd Dispatcher DispatcherQueue

variable {F : Type} [Double F]

/-- Whether a notification is what `prepare_xswd_lifecycle_notification` makes of its
arguments. -/
def IsNotice (state : App) (kind : NotificationKind) (admission : Bool)
    (n : PreparedNotification F) : Prop :=
  n.state = state ∧ n.kind = kind ∧
    n.cancelledApplicationAdmission = (admission && kind = .cancelRequest)

inductive Turn (cfg : Config) (alive : App → Bool) (d : Desk F) :
    Option (XSWDEvent F) → Desk F → Prop
  | dispatched (event : DeferredEvent F) (rest : List (DeferredEvent F))
      (hw : d.await = .loop) (ha : d.active = none) (hq : d.deferred = event :: rest) :
      Turn cfg alive d none (({ d with deferred := rest }).dispatch cfg event)
  | idleClosed (hw : d.await = .loop) (ha : d.active = none) (hq : d.deferred = []) :
      Turn cfg alive d none (d.closing alive false)
  | idleReceived (event : XSWDEvent F) (hw : d.await = .loop) (ha : d.active = none)
      (hq : d.deferred = []) (hf : d.fresh event = true) :
      Turn cfg alive d (some event) ((d.receive alive event).prepare cfg event)
  | returned (a : ActiveCallback F) (outcome : ActiveOutcome) (hw : d.await = .loop)
      (ha : d.active = some a) (hy : a.future.yields outcome = true) :
      Turn cfg alive d none { d.emit (.returned a.future outcome :: a.complete outcome) with
        active := none, receiveBurst := 0 }
  | busyClosed (a : ActiveCallback F) (burst : ℕ) (hw : d.await = .loop)
      (ha : d.active = some a) :
      Turn cfg alive d none (({ d with receiveBurst := burst }).closing alive true)
  | busyReceived (a : ActiveCallback F) (burst : ℕ) (event : XSWDEvent F)
      (hw : d.await = .loop) (ha : d.active = some a) (hf : d.fresh event = true) :
      Turn cfg alive d (some event)
        (({ d.receive alive event with receiveBurst := burst }).busyEvent event)
  | registered (x : Decision F) (t : RequestType F) (r : ℕ) (hw : d.await = .register x t) :
      Turn cfg alive d none (d.wait (.describe x t r))
  | refused (x : Decision F) (t : RequestType F) (e : SessionReferenceError)
      (hw : d.await = .register x t) :
      Turn cfg alive d none ((d.emit [x.response.fail (.sessionReference e)]).wait .loop)
  | called (x : Decision F) (t : RequestType F) (r : ℕ) (summary : RequestSummary F)
      (hw : d.await = .describe x t r) : Turn cfg alive d none (d.call x summary)
  | invalidatedIdle (state : App) (hw : d.await = .invalidateIdle state) :
      Turn cfg alive d none (d.wait (.project state .appDisconnect false .idle))
  | invalidatedCancel (state : App) (callback : Sender) (b : Bool)
      (hw : d.await = .invalidateCancel state callback b) :
      Turn cfg alive d none (d.acknowledgeCancel state callback b true)
  | invalidatedDisconnect (state : App) (b : Bool)
      (hw : d.await = .invalidateDisconnect state b) :
      Turn cfg alive d none ((if b then d.cancelActive else d).wait
        (.project state .appDisconnect false (.disconnect b)))
  | invalidatedOverload (state : App) (next : PreparedNotification F)
      (hw : d.await = .invalidateOverload state next) : Turn cfg alive d none (d.overload next)
  | projected (state : App) (kind : NotificationKind) (admission : Bool) (route : Route) (r : ℕ)
      (hw : d.await = .project state kind admission route) :
      Turn cfg alive d none (d.wait (.describeNotification state kind admission route r))
  | unprojected (state : App) (kind : NotificationKind) (admission : Bool) (route : Route)
      (hw : d.await = .project state kind admission route) :
      Turn cfg alive d none (d.wait .loop)
  | routed (state : App) (kind : NotificationKind) (admission : Bool) (route : Route) (r : ℕ)
      (n : PreparedNotification F)
      (hw : d.await = .describeNotification state kind admission route r)
      (hn : IsNotice state kind admission n) :
      Turn cfg alive d none (d.route route (some n))
  | finished (states : List App) (busy : Bool) (hw : d.await = .close states busy) :
      Turn cfg alive d none (d.finish busy)

variable {cfg : Config} {alive : App → Bool} {d d' : Desk F}

/-- The event that an input may bring. -/
def inputEvent : Input F → Option (XSWDEvent F)
  | .recv event => event
  | .select event _ => event.getD none
  | _ => none

omit [Double F] in
lemma selectInput_event {burst : ℕ} {event : Option (Option (XSWDEvent F))}
    {outcome : Option ActiveOutcome} {e : XSWDEvent F}
    (h : selectInput burst event outcome = some (.event (some e))) : event = some (some e) := by
  unfold selectInput at h
  split at h <;> rcases event with _ | event <;> rcases outcome with _ | outcome <;>
    simp_all

lemma turn_of_select {event : Option (Option (XSWDEvent F))} {outcome : Option ActiveOutcome}
    (h : d.step cfg alive (.select event outcome) = some d') :
    ∃ new, Turn cfg alive d new d' ∧ ∀ e, new = some e → event = some (some e) := by
  simp only [Desk.step] at h
  split at h
  · next a input hw ha hin =>
    obtain outcome | _ | event := input
    · simp only [Desk.handle, Option.ite_none_right_eq_some, Option.some.injEq] at h
      obtain ⟨hy, rfl⟩ := h
      exact ⟨none, .returned a outcome hw ha hy, by simp⟩
    · cases h
      exact ⟨none, .busyClosed a _ hw ha, by simp⟩
    · simp only [Desk.handle, Option.ite_none_right_eq_some, Option.some.injEq] at h
      obtain ⟨hf, rfl⟩ := h
      refine ⟨some event, .busyReceived a _ event hw ha hf, ?_⟩
      rintro e ⟨⟩
      exact selectInput_event hin
  · cases h

/-- **Every step is a turn**, and what a turn receives its input brought. -/
theorem turn_of_step {input : Input F} (h : d.step cfg alive input = some d') :
    ∃ new, Turn cfg alive d new d' ∧ ∀ e, new = some e → inputEvent input = some e := by
  cases input
  case select =>
    obtain ⟨new, ht, hnew⟩ := turn_of_select h
    refine ⟨new, ht, fun e he => ?_⟩
    rw [inputEvent, hnew e he]
    rfl
  all_goals simp only [Desk.step] at h
  case next =>
    split at h <;> cases h
    next event rest hw ha hq => exact ⟨none, .dispatched event rest hw ha hq, by simp⟩
  case recv event =>
    split at h
    · next hw ha hq => cases h; exact ⟨none, .idleClosed hw ha hq, by simp⟩
    · next event hw ha hq =>
      obtain ⟨hf, ⟨⟩⟩ := Option.ite_none_right_eq_some.mp h
      exact ⟨some event, .idleReceived event hw ha hq hf, fun e he => he⟩
    · cases h
  case registered =>
    split at h <;> cases h
    · next hw => exact ⟨none, .registered _ _ _ hw, by simp⟩
    · next hw => exact ⟨none, .refused _ _ _ hw, by simp⟩
  case projected =>
    split at h <;> cases h
    · next hw => exact ⟨none, .projected _ _ _ _ _ hw, by simp⟩
    · next route _ hw => cases route <;> exact ⟨none, .unprojected _ _ _ _ hw, by simp⟩
  case invalidated =>
    split at h <;> cases h
    · next hw => exact ⟨none, .invalidatedIdle _ hw, by simp⟩
    · next hw => exact ⟨none, .invalidatedCancel _ _ _ hw, by simp⟩
    · next hw => exact ⟨none, .invalidatedDisconnect _ _ hw, by simp⟩
    · next hw => exact ⟨none, .invalidatedOverload _ _ hw, by simp⟩
    · next hw => exact ⟨none, .finished _ _ hw, by simp⟩
  case described =>
    split at h <;> cases h
    · next hw => exact ⟨none, .called _ _ _ _ hw, by simp⟩
    next kind _ _ _ hw =>
    refine ⟨none, .routed _ kind _ _ _ _ hw ⟨rfl, rfl, ?_⟩, by simp⟩
    cases kind <;> simp

end XelisWallet.DispatcherTurns
