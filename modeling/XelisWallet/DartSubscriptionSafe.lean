import XelisWallet.DartSubscription

/-!
What the subscriptions of the package do with the native handle and the listener.

A pump that still runs has not been finalized. It has one read in flight at most, which is the only
place where it reads, and the frames it has added are those the native side has returned, in order,
but for one that it holds. Only two kinds of steps bring frames to the listener. The invariants and
what a step does to the listener are proved together, in one pass over the functions.
-/

namespace XelisWallet.DartSubscription

open Fallible Runs NativeSubscription DartStream EventSubscription Listener

variable {F G X : Type}

/-- The pump may still read or add. -/
def Pump.alive : Pump F X → Bool
  | .idle | .ending | .finalizing | .closing | .finished => false
  | _ => true

def Pump.inFlight : Pump F X → ℕ
  | .reading => 1
  | _ => 0

lemma Pump.inFlight_of_not_alive {p : Pump F X} (h : p.alive = false) : p.inFlight = 0 := by
  cases p with
  | reading => cases h
  | idle | parked | resumed | waited | replied | adding | ending | finalizing | closing
  | finished => rfl

def Phase.held : Phase F → Option (EventFrame F)
  | .before => none
  | .holding frame => some frame

/-- The frame that is read and not added yet. -/
def Pump.held : Pump F X → Option (EventFrame F)
  | .parked (.holding frame) | .resumed (.holding frame) | .waited (.holding frame)
  | .replied (.ok (some frame)) => some frame
  | _ => none

@[simp] lemma Pump.wake_alive (p : Pump F X) : p.wake.alive = p.alive := by cases p <;> rfl

@[simp] lemma Pump.wake_inFlight (p : Pump F X) : p.wake.inFlight = p.inFlight := by
  cases p <;> rfl

@[simp] lemma Pump.wake_held (p : Pump F X) : p.wake.held = p.held := by
  cases p with
  | parked phase => cases phase <;> rfl
  | idle | resumed | waited | reading | replied | adding | ending | finalizing | closing
  | finished => rfl

lemma Pump.eq_of_wake {p q : Pump F X} (h : p.wake = q) (hq : q.alive = false) : p = q := by
  cases p with
  | parked =>
    rw [← h] at hq
    cases hq
  | idle | resumed | waited | reading | replied | adding | ending | finalizing | closing
  | finished => exact h

/-- What a step of the pump can do. -/
inductive PumpStep (A : Adapter F G X) (generation : ℕ) (native : Native)
    (s : EventSubscription F G X) : EventSubscription F G X → Prop
  | wait (phase : Phase F) (halive : s.pump.alive = true) (hheld : s.pump.held = phase.held)
      (hflight : s.pump.inFlight = 0) : PumpStep A generation native s (s.waitWhilePaused phase)
  | leave (halive : s.pump.alive = true) (hflight : s.pump.inFlight = 0) :
      PumpStep A generation native s { s with pump := .ending }
  | read (hpump : s.pump = .waited .before) : PumpStep A generation native s { s with
      pump := .reading
      inFlight := s.inFlight + 1
      reads := s.reads ++ [s.disposals.length] }
  | add (frame : EventFrame F) (hpump : s.pump = .waited (.holding frame))
      (hcancel : s.cancelRequested = false) :
      PumpStep A generation native s (s.addFrame A generation native frame)
  | fail (error : X) (hpump : s.pump = .replied (.error error)) :
      PumpStep A generation native s (s.catchError (.native error))
  | finish (hpump : s.pump = .ending) : PumpStep A generation native s (s.endPump native)
  | finalize (hpump : s.pump = .finalizing) :
      PumpStep A generation native s (s.finalizePump native)
  | close (hpump : s.pump = .closing) : PumpStep A generation native s (s.closePump native)

variable {A : Adapter F G X} {generation : ℕ} {s s' : EventSubscription F G X} {native : Native}

lemma pumpStep_of_runPump (hrun : s.runPump A generation native = some s') :
    PumpStep A generation native s s' := by
  unfold runPump at hrun
  split at hrun
  case h_1 | h_2 | h_3 | h_4 => cases hrun
  all_goals obtain rfl := Option.some.inj hrun
  case h_5 phase hpump =>
    exact .wait phase (by rw [hpump]; rfl) (by rw [hpump]; cases phase <;> rfl) (by rw [hpump]; rfl)
  case h_6 hpump =>
    split
    · exact .leave (by rw [hpump]; rfl) (by rw [hpump]; rfl)
    · exact .read hpump
  case h_7 frame hpump =>
    split
    · exact .leave (by rw [hpump]; rfl) (by rw [hpump]; rfl)
    · next hcancel => exact .add frame hpump (by simpa using hcancel)
  case h_8 error hpump => exact .fail error hpump
  case h_9 hpump => exact .leave (by rw [hpump]; rfl) (by rw [hpump]; rfl)
  case h_10 | h_11 =>
    next hpump =>
    split
    · exact .leave (by rw [hpump]; rfl) (by rw [hpump]; rfl)
    · exact .wait _ (by rw [hpump]; rfl) (by rw [hpump]; rfl) (by rw [hpump]; rfl)
  case h_12 hpump => exact .finish hpump
  case h_13 hpump => exact .finalize hpump
  case h_14 hpump => exact .close hpump

/-- What an action can do. -/
inductive Taken (A : Adapter F G X) (generation : ℕ) (native : Native)
    (s : EventSubscription F G X) : Action F X → EventSubscription F G X → Prop
  | listen (hattached : s.listener.attached = false) :
      Taken A generation native s .listen (s.onListen native)
  /-- The application pauses, resumes or cancels the stream, or returns from a call. -/
  | tell {a : Action F X} (f : Listener (EventFrame G) → Listener (EventFrame G) × Option Signal)
      (hgentle : ∀ l : Listener (EventFrame G), l.Gentle (f l).1)
      (hsound : ∀ l : Listener (EventFrame G), l.Sound → (f l).1.Sound) :
      Taken A generation native s a (s.tell native f)
  | cancel : Taken A generation native s .cancel (s.cancel native)
  | pump {s' : EventSubscription F G X} (hcallback : s.listener.callback = none)
      (hstep : PumpStep A generation native s s') : Taken A generation native s .pump s'
  | reply (reply : Except X (Option (EventFrame F))) (hpump : s.pump = .reading) :
      Taken A generation native s (.reply reply) (s.replied reply)
  | deliver (r : Listener (EventFrame G) × Option Signal) (hbusy : s.pump.busy = false)
      (hr : s.listener.deliver = some r) :
      Taken A generation native s .deliver ({ s with listener := r.1 }.obey native r.2)
  | cancelFailed : Taken A generation native s .cancelFailed { s with cancelFuture := .none }

lemma taken_of_step {a : Action F X} (hstep : s.step A generation native a = some s') :
    Taken A generation native s a s' := by
  cases a with
  | listen =>
    obtain ⟨hmay, ⟨⟩⟩ := Option.ite_none_right_eq_some.mp hstep
    simp only [Bool.and_eq_true, Bool.not_eq_true'] at hmay
    exact .listen hmay.2
  | pause | resume | cancelStream | cancel | cancelFailed =>
    obtain ⟨-, ⟨⟩⟩ := Option.ite_none_right_eq_some.mp hstep
    first
      | exact .cancel
      | exact .cancelFailed
      | exact .tell _ (fun _ => pause_gentle) fun _ => Listener.Sound.pause
      | exact .tell _ (fun _ => resume_gentle) fun _ => Listener.Sound.resume
      | exact .tell _ (fun _ => cancel_gentle) fun _ => Listener.Sound.cancel
  | «return» =>
    obtain ⟨was, -, rfl⟩ := Option.map_eq_some_iff.mp hstep
    exact .tell _ (fun _ => finishCallback_gentle was) fun _ h => h.finishCallback was
  | pump =>
    obtain ⟨hcallback, hrun⟩ := Option.ite_none_right_eq_some.mp hstep
    exact .pump (Option.isNone_iff_eq_none.mp hcallback) (pumpStep_of_runPump hrun)
  | reply reply =>
    simp only [EventSubscription.step] at hstep
    split at hstep <;> cases hstep
    next hpump => exact .reply reply hpump
  | deliver =>
    obtain ⟨hfree, hmap⟩ := Option.ite_none_right_eq_some.mp hstep
    obtain ⟨r, hr, rfl⟩ := Option.map_eq_some_iff.mp hmap
    simp only [EventSubscription.free, Bool.and_eq_true, Bool.not_eq_true'] at hfree
    exact .deliver r hfree.1 hr

/-! ### The invariants -/

/-- The frame has the version, the generation and the number that are expected. -/
def Fits (A : Adapter F G X) (generation sequence : ℕ) (frame : EventFrame F) : Prop :=
  frame.version = A.currentVersion ∧ frame.generation = generation ∧ frame.sequence = sequence

lemma not_fits_of_contract {sequence : ℕ} {frame : EventFrame F} {kind message : String}
    (h : adaptEventFrame A generation sequence frame = .error (.contract kind message)) :
    ¬ Fits A generation sequence frame := by
  rintro ⟨hversion, hgeneration, hsequence⟩
  simp only [adaptEventFrame, ensure, hversion, hgeneration, hsequence, if_true] at h
  cases hevent : A.adaptEvent frame.event <;> rw [hevent] at h <;> cases h

/-- The frames added are those returned, but for the one that is held. -/
structure Counts (expectedSequence : ℕ) (added : List (EventFrame G))
    (returned : List (EventFrame F)) (held : Option (EventFrame F)) : Prop where
  expected : expectedSequence = added.length + 1
  length : returned.length = added.length + held.toList.length
  held : ∀ n, held = some n → returned[added.length]? = some n

structure Safe (A : Adapter F G X) (generation : ℕ) (s : EventSubscription F G X) : Prop where
  idle : s.pumpFuture = false → s.pump = .idle ∧ s.added = [] ∧ s.returned = [] ∧
    s.expectedSequence = 1
  attached : s.listener.attached = s.pumpFuture
  inFlight : s.inFlight = s.pump.inFlight
  reads : ∀ d ∈ s.reads, d = 0
  disposals : s.disposals = if s.finalized then [0] else []
  finalized : s.finalized = true → s.pump.alive = false ∧ s.cancelRequested = true
  closed : s.closed = true → s.finalized = true
  added : ∀ i f, s.added[i]? = some f →
    ∃ n, s.returned[i]? = some n ∧ adaptEventFrame A generation (i + 1) n = .ok f
  alive : s.pump.alive = true → Counts s.expectedSequence s.added s.returned s.pump.held
  finalizing : s.pump = .finalizing → s.cancelRequested = true
  closing : s.pump = .closing → s.finalized = true
  raised : ∀ kind message, Thrown.contract kind message ∈ s.raised →
    ∃ i n, s.returned[i]? = some n ∧ ¬ Fits A generation (i + 1) n

/-- The listener gets no frame, and a cancellation is not taken back. -/
structure Calm (s s' : EventSubscription F G X) : Prop where
  listener : s.listener.Quieter s'.listener
  cancelRequested : s.cancelRequested = true → s'.cancelRequested = true
  asked : s'.cancelFuture ≠ .none → s'.cancelRequested = true ∨ s.cancelFuture ≠ .none

/-- Values come before an error or the end, and a value does not wait in the middle of a step of the
pump. -/
structure Orderly (s : EventSubscription F G X) : Prop where
  sound : s.listener.Sound
  alive : s.pump.alive = true → ∀ item ∈ s.listener.pending, item.isData = true
  fresh : s.pump = .idle → s.cancelRequested = false → s.listener.pending = []
  busy : s.pump.busy = true → s.listener.callback.isSome →
    ∀ frame, Item.data frame ∉ s.listener.pending
  attached : ∀ frame, Item.data frame ∈ s.listener.pending → s.listener.attached = true

/-- A frame is added to the controller. -/
def Adds (s s' : EventSubscription F G X) : Prop :=
  (∃ frame, s.pump = .waited (.holding frame)) ∧ ∃ adapted closed, s' = { s with
    expectedSequence := s.expectedSequence + 1
    added := s.added ++ [adapted]
    pump := .adding closed
    listener := (s.listener.emit (.data adapted)).1 }

/-- The pump is over, or will not start. -/
def Over (s : EventSubscription F G X) : Prop :=
  s.pump.alive = false ∧ (s.pump = .idle → s.cancelRequested = true)

/-- The subscription is still in order. -/
def Good (A : Adapter F G X) (generation : ℕ) (s : EventSubscription F G X) : Prop :=
  Safe A generation s ∧ Orderly s

/-- And no frame has come to the listener since `s₀`. -/
structure Kept (A : Adapter F G X) (generation : ℕ) (s₀ s : EventSubscription F G X) : Prop where
  safe : Safe A generation s
  orderly : Orderly s
  calm : Calm s₀ s

lemma Calm.refl : Calm s s := ⟨.refl, id, .inr⟩

lemma Calm.trans {t : EventSubscription F G X} (h : Calm s t) (h' : Calm t s') : Calm s s' :=
  ⟨h.listener.trans h'.listener, h'.cancelRequested ∘ h.cancelRequested, fun hfuture =>
    (h'.asked hfuture).elim .inl fun hfuture => (h.asked hfuture).imp_left h'.cancelRequested⟩

lemma Safe.init : Safe A generation (.init : EventSubscription F G X) :=
  ⟨fun _ => ⟨rfl, rfl, rfl, rfl⟩, rfl, rfl, fun _ hd => absurd hd List.not_mem_nil, rfl, nofun,
    nofun, by simp [EventSubscription.init], nofun, nofun, nofun, by simp [EventSubscription.init]⟩

lemma Orderly.init : Orderly (.init : EventSubscription F G X) :=
  ⟨.init, nofun, fun _ _ => rfl, nofun, fun _ h => absurd h List.not_mem_nil⟩

lemma Safe.open_of_alive (h : Safe A generation s) (halive : s.pump.alive = true) :
    s.finalized = false := by
  refine Bool.eq_false_iff.mpr fun hf => ?_
  rw [(h.finalized hf).1] at halive
  cases halive

lemma Safe.started (h : Safe A generation s) (hidle : s.pump ≠ .idle) : s.pumpFuture = true :=
  Bool.ne_false_iff.mp fun hf => hidle (h.idle hf).1

lemma Safe.over (h : Safe A generation s) (hfinalized : s.finalized = true) : Over s :=
  ⟨(h.finalized hfinalized).1, fun _ => (h.finalized hfinalized).2⟩

lemma Kept.start (h : Good A generation s) : Kept A generation s s := ⟨h.1, h.2, .refl⟩

lemma Kept.good {s₀ : EventSubscription F G X} (h : Kept A generation s₀ s) :
    Good A generation s := ⟨h.safe, h.orderly⟩

/-! ### Parts of a step -/

lemma Good.listener (h : Good A generation s) {l : Listener (EventFrame G)} (hsound : l.Sound)
    (hattached : l.attached = s.listener.attached)
    (hpending : ∀ item ∈ l.pending, item ∈ s.listener.pending)
    (hcallback : s.pump.busy = true → l.callback.isSome → s.listener.callback.isSome) :
    Good A generation { s with listener := l } := by
  obtain ⟨hsafe, horderly⟩ := h
  refine ⟨{ hsafe with attached := hattached.trans hsafe.attached }, hsound,
    fun halive item hitem => horderly.alive halive item (hpending item hitem),
    fun hidle hcancel => List.eq_nil_iff_forall_not_mem.mpr fun item hitem => ?_,
    fun hbusy hc frame hframe => horderly.busy hbusy (hcallback hbusy hc) frame (hpending _ hframe),
    fun frame hframe => hattached.trans (horderly.attached frame (hpending _ hframe))⟩
  have hold := hpending item hitem
  rw [horderly.fresh hidle hcancel] at hold
  cases hold

section Steps

variable {s₀ : EventSubscription F G X} (h : Kept A generation s₀ s)
include h

lemma Kept.flags (cancelFuture : CancelFuture) (resumeCompleter paused nativeCancelRequested : Bool)
    (hasked : cancelFuture ≠ .none → s.cancelRequested = true ∨ s.cancelFuture ≠ .none) :
    Kept A generation s₀ { s with
      cancelFuture, resumeCompleter, paused, nativeCancelRequested } where
  safe := { h.safe with }
  orderly := { h.orderly with }
  calm := ⟨h.calm.listener, h.calm.cancelRequested, fun hfuture =>
    (hasked hfuture).elim .inl h.calm.asked⟩

lemma Kept.requestCancel : Kept A generation s₀ { s with cancelRequested := true } where
  safe := { h.safe with
    finalized := fun hf => ⟨(h.safe.finalized hf).1, rfl⟩
    finalizing := fun _ => rfl }
  orderly := { h.orderly with fresh := nofun }
  calm := ⟨h.calm.listener, fun _ => rfl, fun _ => .inl rfl⟩

lemma Kept.move {pump : Pump F X}
    (hidle : s.pumpFuture = false → pump = .idle) (hflight : pump.inFlight = s.inFlight)
    (halive : pump.alive = true → s.finalized = false ∧
      Counts s.expectedSequence s.added s.returned pump.held ∧
      ∀ item ∈ s.listener.pending, item.isData = true)
    (hfinalizing : pump = .finalizing → s.cancelRequested = true)
    (hclosing : pump = .closing → s.finalized = true) (hfresh : pump = .idle → s.pump = .idle)
    (hbusy : pump.busy = true → s.listener.callback.isSome →
      ∀ frame, Item.data frame ∉ s.listener.pending) : Kept A generation s₀ { s with pump } where
  safe := { h.safe with
    idle := fun hpump => ⟨hidle hpump, (h.safe.idle hpump).2⟩
    inFlight := hflight.symm
    finalized := fun hf => by
      refine ⟨Bool.eq_false_iff.mpr fun ha => ?_, (h.safe.finalized hf).2⟩
      simp [(halive ha).1] at hf
    alive := fun ha => (halive ha).2.1
    finalizing := hfinalizing
    closing := hclosing }
  orderly := { h.orderly with
    alive := fun ha => (halive ha).2.2
    fresh := fun hpump => h.orderly.fresh (hfresh hpump)
    busy := hbusy }
  calm := ⟨h.calm.listener, h.calm.cancelRequested, h.calm.asked⟩

lemma Kept.leave {pump : Pump F X} (hstarted : s.pumpFuture = true) (hflight : s.inFlight = 0)
    (halive : pump.alive = false) (hidle : pump ≠ .idle)
    (hfinalizing : pump = .finalizing → s.cancelRequested = true)
    (hclosing : pump = .closing → s.finalized = true)
    (hbusy : pump.busy = true → s.listener.callback.isSome →
      ∀ frame, Item.data frame ∉ s.listener.pending) : Kept A generation s₀ { s with pump } := by
  refine h.move ?_ ?_ ?_ hfinalizing hclosing (fun hpump => absurd hpump hidle) hbusy
  · rw [hstarted]
    nofun
  · rw [Pump.inFlight_of_not_alive halive, hflight]
  · rw [halive]
    nofun

lemma Kept.listener {l : Listener (EventFrame G)} (hsound : l.Sound)
    (hgentle : s.listener.Gentle l) : Kept A generation s₀ { s with listener := l } := by
  obtain ⟨hsafe, horderly⟩ := h.good.listener hsound hgentle.attached hgentle.pending
    fun _ => hgentle.callback
  exact ⟨hsafe, horderly, h.calm.listener.trans hgentle.quieter, h.calm.cancelRequested,
    h.calm.asked⟩

lemma Kept.emit (hover : Over s) (item : Item (EventFrame G)) (hitem : item.isData = false) :
    Kept A generation s₀ { s with listener := (s.listener.emit item).1 } where
  safe := { h.safe with attached := (s.listener.emit_attached item).trans h.safe.attached }
  orderly := {
    sound := h.orderly.sound.emit (by rw [hitem]; nofun)
    alive := fun ha => by simp [hover.1] at ha
    fresh := fun hidle hc => by simp [hover.2 hidle] at hc
    busy := fun hbusy hc frame hframe => by
      obtain hcallback | hpending := emit_callback hc
      · exact h.orderly.busy hbusy hcallback frame ((emit_quieter hitem).pending frame hframe)
      · simp [hpending] at hframe
    attached := fun frame hframe => by
      rw [emit_attached]
      exact h.orderly.attached frame ((emit_quieter hitem).pending frame hframe) }
  calm := ⟨h.calm.listener.trans (emit_quieter hitem), h.calm.cancelRequested, h.calm.asked⟩

/-! ### The functions -/

lemma Kept.resumePump : Kept A generation s₀ s.resumePump := by
  refine Kept.flags (s := { s with pump := if s.resumeCompleter then s.pump.wake else s.pump })
    ?_ s.cancelFuture false s.paused s.nativeCancelRequested .inr
  split
  · refine h.move (fun hpump => by rw [(h.safe.idle hpump).1]; rfl) ?_ (fun halive => ?_)
      (fun hpump => h.safe.finalizing (Pump.eq_of_wake hpump rfl))
      (fun hpump => h.safe.closing (Pump.eq_of_wake hpump rfl))
      (fun hpump => Pump.eq_of_wake hpump rfl) fun hbusy => h.orderly.busy ?_
    · rw [s.pump.wake_inFlight, h.safe.inFlight]
    · rw [s.pump.wake_alive] at halive
      rw [s.pump.wake_held]
      exact ⟨h.safe.open_of_alive halive, h.safe.alive halive, h.orderly.alive halive⟩
    · rw [← hbusy]
      cases s.pump <;> rfl
  · exact h

lemma Kept.onPause : Kept A generation s₀ s.onPause := by
  rw [EventSubscription.onPause]
  split
  · exact h
  · exact h.flags s.cancelFuture true true s.nativeCancelRequested .inr

lemma Kept.onResume : Kept A generation s₀ s.onResume :=
  (h.flags s.cancelFuture s.resumeCompleter false s.nativeCancelRequested .inr).resumePump

lemma Kept.requestNativeCancel (native : Native) :
    Kept A generation s₀ (s.requestNativeCancel native).2 := by
  rw [EventSubscription.requestNativeCancel]
  split_ifs
  · exact h
  · exact h.flags s.cancelFuture s.resumeCompleter s.paused true .inr
  · exact h

lemma Kept.addError (hover : Over s) : Kept A generation s₀ s.addError := by
  rw [EventSubscription.addError]
  split
  · exact h
  · exact h.emit hover _ rfl

lemma Kept.disposeHandle (native : Native) (hopen : s.finalized = false)
    (halive : s.pump.alive = false) (hcancel : s.cancelRequested = true) :
    Kept A generation s₀ (s.disposeHandle native) := by
  have hnone : s.disposals = [] := by rw [h.safe.disposals, hopen]; rfl
  have hflight : s.inFlight = 0 := h.safe.inFlight.trans (Pump.inFlight_of_not_alive halive)
  have hdisposed : Kept A generation s₀
      { s with finalized := true, disposals := s.disposals ++ [s.inFlight] } :=
    ⟨{ h.safe with
        disposals := by rw [hnone, hflight]; rfl
        finalized := fun _ => ⟨halive, hcancel⟩
        closed := fun _ => rfl
        closing := fun _ => rfl },
      { h.orderly with }, ⟨h.calm.listener, h.calm.cancelRequested, h.calm.asked⟩⟩
  rw [EventSubscription.disposeHandle]
  dsimp only
  rw [if_pos (by rw [hnone]; rfl)]
  split
  · exact hdisposed
  · exact hdisposed.addError ⟨halive, fun _ => hcancel⟩

lemma Kept.closeController (hfinalized : s.finalized = true) :
    Kept A generation s₀ s.closeController.1 := by
  rw [EventSubscription.closeController]
  split
  · exact h
  have hdone := h.emit (h.safe.over hfinalized) .done rfl
  exact ⟨{ hdone.safe with closed := fun _ => hfinalized }, { hdone.orderly with },
    ⟨hdone.calm.listener, hdone.calm.cancelRequested, hdone.calm.asked⟩⟩

omit h in
lemma disposeHandle_same (s : EventSubscription F G X) (native : Native) :
    (s.disposeHandle native).finalized = true ∧
    (s.disposeHandle native).pump = s.pump := by
  simp only [disposeHandle, addError]
  split_ifs <;> exact ⟨rfl, rfl⟩

omit h in
lemma closeController_finalized : s.closeController.1.finalized = s.finalized := by
  rw [closeController]
  split <;> rfl

omit h in
lemma requestNativeCancel_same (s : EventSubscription F G X) (native : Native) :
    (s.requestNativeCancel native).2.cancelRequested = s.cancelRequested ∧
      (s.requestNativeCancel native).2.pump = s.pump := by
  rw [requestNativeCancel]
  split_ifs <;> exact ⟨rfl, rfl⟩

lemma Kept.cancel (native : Native) : Kept A generation s₀ (s.cancel native) := by
  rw [EventSubscription.cancel]
  split
  · have hcancel := (requestNativeCancel_same
      ({ s with cancelRequested := true }.resumePump) native).1
    have hrequest := h.requestCancel.resumePump.requestNativeCancel native
    split
    · next t heq =>
      rw [heq] at hrequest hcancel
      exact hrequest.flags .failing _ _ _ fun _ => .inl hcancel
    · next t heq =>
      rw [heq] at hrequest hcancel
      split
      · exact hrequest.flags .kept _ _ _ fun _ => .inl hcancel
      next hnone =>
      simp only [Bool.or_eq_true, not_or, Bool.not_eq_true] at hnone
      have halive : t.pump.alive = false := by rw [(hrequest.safe.idle hnone.1).1]; rfl
      have hdisposed := hrequest.disposeHandle native hnone.2 halive hcancel
      have hclosed := hdisposed.closeController (disposeHandle_same _ _).1
      refine hclosed.flags .kept _ _ _ fun _ => .inl (hclosed.safe.finalized ?_).2
      exact closeController_finalized.trans (disposeHandle_same _ _).1
  · exact h

lemma Kept.obey (native : Native) (signal : Option Signal) :
    Kept A generation s₀ (s.obey native signal) := by
  match signal with
  | some .onPause => exact h.onPause
  | some .onResume => exact h.onResume
  | some .onCancel => exact h.cancel native
  | none => exact h

lemma Kept.tell (native : Native)
    {f : Listener (EventFrame G) → Listener (EventFrame G) × Option Signal}
    (hsound : (f s.listener).1.Sound) (hgentle : s.listener.Gentle (f s.listener).1) :
    Kept A generation s₀ (s.tell native f) :=
  (h.listener hsound hgentle).obey native _

lemma Kept.finishCallback (native : Native) (was : Bool) :
    Kept A generation s₀ (s.tell native (·.finishCallback was)) :=
  h.tell native (h.orderly.sound.finishCallback was) (finishCallback_gentle was)

/-! ### The pump -/

lemma Kept.waitWhilePaused {phase : Phase F} (hstarted : s.pumpFuture = true)
    (hflight : s.inFlight = 0) (hopen : s.finalized = false)
    (hcounts : Counts s.expectedSequence s.added s.returned phase.held)
    (hdata : ∀ item ∈ s.listener.pending, item.isData = true) :
    Kept A generation s₀ (s.waitWhilePaused phase) := by
  have hidle : ∀ {pump : Pump F X}, s.pumpFuture = false → pump = .idle := by
    rw [hstarted]
    nofun
  rw [EventSubscription.waitWhilePaused]
  split
  on_goal 1 =>
    refine Kept.flags (s := { s with pump := .parked phase }) ?_ s.cancelFuture true s.paused
      s.nativeCancelRequested .inr
  all_goals
    exact h.move hidle hflight.symm (fun _ => ⟨hopen, by cases phase <;> exact hcounts, hdata⟩)
      nofun nofun nofun nofun

lemma Kept.catchError {thrown : Thrown X} (hidle : s.pump ≠ .idle) (hflight : s.inFlight = 0)
    (hcallback : s.listener.callback = none)
    (hthrown : ∀ kind message, thrown = .contract kind message →
      ∃ i n, s.returned[i]? = some n ∧ ¬ Fits A generation (i + 1) n) :
    Kept A generation s₀ (s.catchError thrown) := by
  have hended : Kept A generation s₀ { s with pump := .ending } :=
    h.leave (h.safe.started hidle) hflight rfl nofun nofun nofun
      (fun _ hc => by rw [hcallback] at hc; cases hc)
  have hraised : Kept A generation s₀
      { s with raised := s.raised ++ [thrown], pump := .ending } := by
    refine ⟨{ hended.safe with raised := fun kind message hmem => ?_ }, { hended.orderly with },
      ⟨h.calm.listener, h.calm.cancelRequested, h.calm.asked⟩⟩
    obtain hmem | hmem := List.mem_append.mp hmem
    · exact h.safe.raised kind message hmem
    · exact hthrown kind message (List.mem_singleton.mp hmem).symm
  rw [EventSubscription.catchError]
  dsimp only
  split
  · exact hraised
  · exact hraised.addError ⟨rfl, nofun⟩

lemma Kept.endPump (native : Native) (hstarted : s.pumpFuture = true) (hflight : s.inFlight = 0)
    (hdata : s.listener.callback.isSome → ∀ frame, Item.data frame ∉ s.listener.pending) :
    Kept A generation s₀ (s.endPump native) ∧ (s.endPump native).pump = .finalizing := by
  have hmoved : Kept A generation s₀ { s with cancelRequested := true, pump := .finalizing } :=
    h.requestCancel.leave hstarted hflight rfl nofun (fun _ => rfl) nofun fun _ => hdata
  have hrequest := hmoved.resumePump.requestNativeCancel native
  have hpump : (({ s with cancelRequested := true, pump := .finalizing }.resumePump
      ).requestNativeCancel native).2.pump = .finalizing := by
    rw [(requestNativeCancel_same _ native).2, EventSubscription.resumePump]
    dsimp only
    split <;> rfl
  rw [EventSubscription.endPump]
  split
  · next t heq =>
    rw [heq] at hrequest hpump
    exact ⟨hrequest, hpump⟩
  · next t heq =>
    rw [heq] at hrequest hpump
    replace hpump : t.pump = .finalizing := hpump
    refine ⟨hrequest.addError ⟨by rw [hpump]; rfl, by rw [hpump]; nofun⟩, ?_⟩
    rw [EventSubscription.addError]
    split <;> exact hpump

lemma Kept.finalizePump (native : Native) (hpump : s.pump = .finalizing) :
    Kept A generation s₀ (s.finalizePump native) := by
  have hflight : s.inFlight = 0 := by rw [h.safe.inFlight, hpump]; rfl
  rw [EventSubscription.finalizePump]
  split
  · exact h.leave (h.safe.started (by rw [hpump]; nofun)) hflight rfl nofun nofun nofun nofun
  next hopen =>
  have hdisposed := h.disposeHandle native (by simpa using hopen) (by rw [hpump]; rfl)
    (h.safe.finalizing hpump)
  obtain ⟨hfinalized, hsame⟩ := disposeHandle_same s native
  rw [hpump] at hsame
  refine hdisposed.leave (hdisposed.safe.started (by rw [hsame]; nofun)) ?_ rfl nofun nofun
    (fun _ => hfinalized) fun _ => hdisposed.orderly.busy (by rw [hsame]; rfl)
  rw [hdisposed.safe.inFlight, hsame]
  rfl

lemma Kept.closePump (native : Native) (hpump : s.pump = .closing) :
    Kept A generation s₀ (s.closePump native) := by
  have hflight : s.inFlight = 0 := by rw [h.safe.inFlight, hpump]; rfl
  have hmoved : Kept A generation s₀ { s with pump := .finished } :=
    h.leave (h.safe.started (by rw [hpump]; nofun)) hflight rfl nofun nofun nofun nofun
  exact (hmoved.closeController (h.safe.closing hpump)).obey native _

lemma Kept.onListen (hlistener : s.listener.attached = false) (native : Native) :
    Kept A generation s₀ (s.onListen native) := by
  have hnone : ∀ frame, Item.data frame ∉ s.listener.pending := by
    intro frame hframe
    rw [h.orderly.attached frame hframe] at hlistener
    cases hlistener
  have hnever : s.pumpFuture = false := by rw [← h.safe.attached, hlistener]
  obtain ⟨hpump, hadded, hreturned, hexpected⟩ := h.safe.idle hnever
  have hflight : s.inFlight = 0 := by rw [h.safe.inFlight, hpump]; rfl
  have hquieter : s₀.listener.Quieter s.listener.listen :=
    h.calm.listener.trans ⟨rfl, id, fun _ => id⟩
  have hlisten : Kept A generation s₀
      { s with listener := s.listener.listen, pumpFuture := true } :=
    ⟨{ h.safe with idle := nofun, attached := rfl },
      { h.orderly with sound := h.orderly.sound.listen, attached := fun _ _ => rfl },
      ⟨hquieter, h.calm.cancelRequested, h.calm.asked⟩⟩
  rw [EventSubscription.onListen]
  dsimp only
  split
  · -- the pump ends in the callback of `listen`
    have hcallback : Kept A generation s₀ { s with
        listener := { s.listener.listen with callback := some s.listener.listen.inputPaused }
        pumpFuture := true } :=
      ⟨{ hlisten.safe with },
        ⟨⟨nofun, h.orderly.sound.ordered⟩, h.orderly.alive, h.orderly.fresh, by rw [hpump]; nofun,
          fun _ _ => rfl⟩,
        ⟨⟨hquieter.received, hquieter.cancelled, hquieter.pending⟩, h.calm.cancelRequested,
          h.calm.asked⟩⟩
    obtain ⟨hended, hfinalizing⟩ := hcallback.endPump native rfl hflight fun _ => hnone
    have hfinalized := hended.finalizePump native hfinalizing
    refine Kept.finishCallback ?_ native _
    split
    · next hclosing => exact hfinalized.closePump native hclosing
    · exact hfinalized
  · next hcancel =>
    have hopen : s.finalized = false :=
      Bool.eq_false_iff.mpr fun hf => hcancel (h.safe.finalized hf).2
    refine hlisten.waitWhilePaused rfl hflight hopen ⟨?_, ?_, nofun⟩ fun item hitem => ?_
    · rw [hexpected, hadded]
      rfl
    · rw [hreturned, hadded]
      rfl
    have hpending : s.listener.listen.pending = [] :=
      h.orderly.fresh hpump (by simpa using hcancel)
    rw [hpending] at hitem
    cases hitem

end Steps

/-! ### Whole steps -/

lemma Good.addFrame (h : Good A generation s) (hcallback : s.listener.callback = none)
    {frame : EventFrame F} (hpump : s.pump = .waited (.holding frame)) (native : Native) :
    Good A generation (s.addFrame A generation native frame) ∧
      (Calm s (s.addFrame A generation native frame) ∨
        Adds s (s.addFrame A generation native frame)) := by
  obtain ⟨hsafe, horderly⟩ := h
  have halive : s.pump.alive = true := by rw [hpump]; rfl
  have hidle : s.pump ≠ .idle := by rw [hpump]; nofun
  have hflight : s.inFlight = 0 := by rw [hsafe.inFlight, hpump]; rfl
  have hdata := horderly.alive halive
  have hcounts := hsafe.alive halive
  rw [hpump] at hcounts
  have hnext : s.returned[s.added.length]? = some frame := hcounts.held frame rfl
  have hopen := hsafe.open_of_alive halive
  have hclosed : s.closed = false :=
    Bool.eq_false_iff.mpr fun hc => by simp [hsafe.closed hc] at hopen
  rw [EventSubscription.addFrame, hcounts.expected]
  cases hadapt : adaptEventFrame A generation (s.added.length + 1) frame with
  | error thrown =>
    have hcaught : Kept A generation s (s.catchError thrown) := by
      refine (Kept.start ⟨hsafe, horderly⟩).catchError hidle hflight hcallback
        fun kind message hthrown => ⟨_, frame, hnext, ?_⟩
      rw [hthrown] at hadapt
      exact not_fits_of_contract hadapt
    exact ⟨hcaught.good, .inl hcaught.calm⟩
  | ok adapted =>
    dsimp only
    have hsignal : (s.listener.emit (.data adapted)).2 = none := s.listener.emit_signal nofun
    rw [if_neg (by rw [hclosed]; nofun)]
    simp only [EventSubscription.tell, hsignal, EventSubscription.obey]
    refine ⟨⟨{ hsafe with
      idle := fun hf => absurd (hsafe.idle hf).1 hidle
      attached := (s.listener.emit_attached _).trans hsafe.attached
      inFlight := hflight
      finalized := fun hf => absurd hf (by rw [hopen]; nofun)
      added := fun i f hf => ?_
      alive := fun _ => ⟨?_, ?_, nofun⟩
      finalizing := nofun
      closing := nofun }, horderly.sound.emit fun _ => hdata, fun _ item hitem => ?_, nofun,
        fun _ hc f hf => ?_, fun _ _ => ?_⟩,
      .inr ⟨⟨frame, hpump⟩, adapted, A.isClosed adapted.event, by rw [hcounts.expected]⟩⟩
    · obtain hlt | hge := Nat.lt_or_ge i s.added.length
      · rw [List.getElem?_append_left hlt] at hf
        exact hsafe.added i f hf
      rw [List.getElem?_append_right hge, List.getElem?_singleton] at hf
      split at hf <;> cases hf
      next hi =>
      obtain rfl : i = s.added.length := by omega
      exact ⟨frame, hnext, hadapt⟩
    · rw [List.length_append, List.length_singleton]
    · have hlength := hcounts.length
      rwa [List.length_append, List.length_singleton]
    · obtain hitem | rfl := mem_emit_pending hitem
      · exact hdata item hitem
      · rfl
    · obtain hc | hpending := emit_callback hc
      · simp [hcallback] at hc
      · simp [hpending] at hf
    · exact (s.listener.emit_attached _).trans (hsafe.attached.trans (hsafe.started hidle))

lemma Good.pumpStep (h : Good A generation s) (hcallback : s.listener.callback = none)
    (hstep : PumpStep A generation native s s') :
    Good A generation s' ∧ (Calm s s' ∨ s.cancelRequested = false ∧ Adds s s') := by
  have hkept := Kept.start h
  have kept : Kept A generation s s' →
      Good A generation s' ∧ (Calm s s' ∨ s.cancelRequested = false ∧ Adds s s') := fun hkept =>
    ⟨hkept.good, .inl hkept.calm⟩
  have hno : s.listener.callback.isSome → ∀ frame, Item.data frame ∉ s.listener.pending := by
    rw [hcallback]
    nofun
  have hstarted : s.pump.alive = true → s.pumpFuture = true := by
    refine fun halive => h.1.started fun hidle => ?_
    rw [hidle] at halive
    cases halive
  cases hstep with
  | wait phase halive hheld hflight =>
    exact kept (hkept.waitWhilePaused (hstarted halive) (h.1.inFlight.trans hflight)
      (h.1.open_of_alive halive) (hheld ▸ h.1.alive halive) (h.2.alive halive))
  | leave halive hflight =>
    exact kept (hkept.leave (hstarted halive) (h.1.inFlight.trans hflight) rfl nofun nofun nofun
      fun _ => hno)
  | read hpump =>
    have halive : s.pump.alive = true := by rw [hpump]; rfl
    have hopen := h.1.open_of_alive halive
    have hcounts := h.1.alive halive
    rw [hpump] at hcounts
    refine ⟨⟨{ h.1 with
      idle := fun hf => absurd hf (by rw [hstarted halive]; nofun)
      inFlight := by rw [h.1.inFlight, hpump]; rfl
      reads := fun d hd => ?_
      finalized := fun hf => absurd hf (by rw [hopen]; nofun)
      alive := fun _ => hcounts
      finalizing := nofun
      closing := nofun },
      { h.2 with alive := fun _ => h.2.alive halive, fresh := nofun, busy := nofun }⟩,
      .inl ⟨.refl, id, .inr⟩⟩
    obtain hd | hd := List.mem_append.mp hd
    · exact h.1.reads d hd
    · rw [List.mem_singleton.mp hd, h.1.disposals, hopen]
      rfl
  | add frame hpump hcancel =>
    obtain ⟨hgood, hadds⟩ := h.addFrame hcallback hpump native
    exact ⟨hgood, hadds.imp_right fun hadds => ⟨hcancel, hadds⟩⟩
  | fail error hpump =>
    exact kept (hkept.catchError (by rw [hpump]; nofun) (by rw [h.1.inFlight, hpump]; rfl)
      hcallback nofun)
  | finish hpump =>
    exact kept (hkept.endPump native (h.1.started (by rw [hpump]; nofun))
      (by rw [h.1.inFlight, hpump]; rfl) hno).1
  | finalize hpump => exact kept (hkept.finalizePump native hpump)
  | close hpump => exact kept (hkept.closePump native hpump)

lemma Safe.reply (h : Safe A generation s) (hpump : s.pump = .reading)
    (reply : Except X (Option (EventFrame F))) : Safe A generation (s.replied reply) := by
  have halive : s.pump.alive = true := by rw [hpump]; rfl
  have hopen := h.open_of_alive halive
  have hcounts := h.alive halive
  rw [hpump] at hcounts
  have hlength : s.returned.length = s.added.length := hcounts.length
  have hkeep : ∀ (frames : List (EventFrame F)) {i n}, s.returned[i]? = some n →
      (s.returned ++ frames)[i]? = some n := fun frames i n hi => by
    rw [List.getElem?_append_left (List.getElem?_eq_some_iff.mp hi).1, hi]
  unfold replied
  refine { h with
    idle := fun hf => ?_
    inFlight := by rw [h.inFlight, hpump]; rfl
    finalized := fun hf => absurd hf (by rw [hopen]; nofun)
    added := fun i f hf => ?_
    alive := fun _ => ⟨hcounts.expected, ?_, fun n hn => ?_⟩
    finalizing := nofun
    closing := nofun
    raised := fun kind message hmem => ?_ }
  · rw [(h.idle hf).1] at hpump
    cases hpump
  · obtain ⟨n, hn, hadapt⟩ := h.added i f hf
    exact ⟨n, hkeep _ hn, hadapt⟩
  · rw [List.length_append, hlength]
    match reply with
    | .error _ | .ok none | .ok (some _) => rfl
  · match reply with
    | .ok (some frame) =>
      cases hn
      rw [← hlength, List.getElem?_append_right (Nat.le_refl _), Nat.sub_self]
      rfl
  · obtain ⟨i, n, hn, hfits⟩ := h.raised kind message hmem
    exact ⟨i, n, hkeep _ hn, hfits⟩

/-- Every action keeps the order, and frames get to the listener in two kinds of steps. -/
lemma Good.taken (h : Good A generation s) {a : Action F X}
    (hstep : Taken A generation native s a s') : Good A generation s' ∧
    (Calm s s' ∨
    (a = .pump ∧ s.listener.callback = none ∧ s.cancelRequested = false ∧ Adds s s') ∨
    ∃ frame rest, s.listener.cancelled = false ∧ s.listener.pending = .data frame :: rest ∧
      s' = { s with listener := ({ s.listener with
        pending := rest, scheduled := false }.fire (.data frame)).1 }) := by
  have hkept := Kept.start h
  cases hstep with
  | listen hattached =>
    have hlisten := hkept.onListen hattached native
    exact ⟨hlisten.good, .inl hlisten.calm⟩
  | tell f hgentle hsound =>
    have htell := hkept.tell native (hsound _ h.2.sound) (hgentle _)
    exact ⟨htell.good, .inl htell.calm⟩
  | cancel => exact ⟨(hkept.cancel native).good, .inl (hkept.cancel native).calm⟩
  | pump hcallback hstep =>
    obtain ⟨hgood, hcalm⟩ := h.pumpStep hcallback hstep
    exact ⟨hgood, hcalm.imp_right fun hadds => .inl ⟨rfl, hcallback, hadds⟩⟩
  | reply reply hpump =>
    have hdata := h.2.alive (by rw [hpump]; rfl)
    have horderly : Orderly (s.replied reply) :=
      { h.2 with alive := fun _ => hdata, fresh := nofun, busy := nofun }
    exact ⟨⟨h.1.reply hpump reply, horderly⟩, .inl ⟨.refl, id, .inr⟩⟩
  | deliver r hbusy hr =>
    have hgood : Good A generation { s with listener := r.1 } := by
      refine h.listener (h.2.sound.deliver hr) (s.listener.deliver_attached hr)
        (fun item hitem => ?_) fun hb => by rw [hbusy] at hb; cases hb
      obtain ⟨-, -, first, rest, hpending, rfl⟩ := deliver_eq_some hr
      rw [hpending]
      cases first with
      | data | error => exact List.mem_cons_of_mem _ hitem
      | done => cases hitem
    have hobeyed := (Kept.start hgood).obey native r.2
    refine ⟨hobeyed.good, ?_⟩
    obtain ⟨hcancelled, -, item, rest, hpending, rfl⟩ := deliver_eq_some hr
    cases item with
    | data frame => exact .inr (.inr ⟨frame, rest, hcancelled, hpending, rfl⟩)
    | error =>
      refine .inl (Calm.trans ?_ hobeyed.calm)
      refine ⟨⟨rfl, id, fun value hvalue => ?_⟩, id, .inr⟩
      rw [hpending]
      exact List.mem_cons_of_mem _ hvalue
    | done =>
      refine .inl (Calm.trans ?_ hobeyed.calm)
      exact ⟨⟨rfl, fun _ => rfl, fun _ hvalue => absurd hvalue List.not_mem_nil⟩, id, .inr⟩
  | cancelFailed =>
    have hreset := hkept.flags .none s.resumeCompleter s.paused s.nativeCancelRequested nofun
    exact ⟨hreset.good, .inl hreset.calm⟩

lemma good_of_reachable (h : Reachable (eventSubscriptions A generation) s) :
    Good A generation s := by
  refine h.invariant (P := Good A generation) ?_ fun s a t _ hs hstep =>
    (hs.taken (taken_of_step hstep)).1
  rintro s rfl
  exact ⟨.init, .init⟩

/-- **The native handle is used as it has to be.** In every run of a subscription of the package one
read is in flight at most. Every read started before the handle was disposed; it is disposed once at
most, while no read was in flight, and none is after it. The frames given to the controller are the
first ones returned, in their order, and frames with the numbers from one on and the right
generation never raise a contract exception. -/
theorem handle_is_used_safely {A : Adapter F G X} {generation : ℕ} {s : EventSubscription F G X}
    (h : Reachable (eventSubscriptions A generation) s) :
    s.inFlight ≤ 1 ∧ (∀ d ∈ s.reads, d = 0) ∧
    s.disposals.length ≤ 1 ∧ (∀ n ∈ s.disposals, n = 0) ∧ (s.disposals ≠ [] → s.inFlight = 0) ∧
    (∀ i f, s.added[i]? = some f →
      ∃ n, s.returned[i]? = some n ∧ adaptEventFrame A generation (i + 1) n = .ok f) ∧
    ((∀ i n, s.returned[i]? = some n → Fits A generation (i + 1) n) →
      ∀ kind message, Thrown.contract kind message ∉ s.raised) := by
  have hs := (good_of_reachable h).1
  refine ⟨?_, hs.reads, ?_, ?_, fun hdisposed => ?_, hs.added, fun hfits kind message hmem => ?_⟩
  · rw [hs.inFlight]
    cases s.pump <;> simp [Pump.inFlight]
  · rw [hs.disposals]
    split <;> simp
  · rw [hs.disposals]
    split <;> simp
  · have hfinalized : s.finalized = true := by
      by_contra hc
      rw [hs.disposals, if_neg hc] at hdisposed
      exact hdisposed rfl
    exact hs.inFlight.trans (Pump.inFlight_of_not_alive (hs.finalized hfinalized).1)
  · obtain ⟨i, n, hn, hnot⟩ := hs.raised kind message hmem
    exact hnot (hfits i n hn)

/-! ### A small run -/

/-- Events without content. -/
def unitAdapter : Adapter Unit Unit Unit := ⟨1, "UNIT", "unit", .ok, fun _ => false⟩

def unitStep (s : EventSubscription Unit Unit Unit) (a : Native × Action Unit Unit) :
    Option (EventSubscription Unit Unit Unit) := s.step unitAdapter 5 a.1 a.2

lemma unit_reachable {s : EventSubscription Unit Unit Unit}
    (actions : List (Native × Action Unit Unit)) (h : actions.foldlM unitStep .init = some s) :
    Reachable (eventSubscriptions unitAdapter 5) s := by
  refine Reachable.exec (fun _ _ _ hstep => hstep) (.of_init ?_) actions h
  rfl

/-- The listener gets one frame, and the next read is in flight. -/
def oneFrame : List (Native × Action Unit Unit) :=
  [.listen, .pump, .reply (.ok (some ⟨1, 5, 1, ()⟩)), .pump, .pump, .return, .pump, .pump].map
    (⟨true, true⟩, ·)

theorem one_frame_is_added : ∃ s, oneFrame.foldlM unitStep .init = some s ∧
    s.listener.received = [⟨1, 5, 1, ()⟩] ∧ s.inFlight = 1 ∧ (∀ d ∈ s.reads, d = 0) :=
  ⟨_, rfl, rfl, rfl, (handle_is_used_safely (unit_reachable oneFrame rfl)).2.1⟩

end XelisWallet.DartSubscription
