import XelisWallet.NativeSubscription

/-!
The contract of a native subscription.

The items that the receiver has read are the upstream events in order, with the lags between them.
What the subscription makes of them is numbered from one, and is what the calls have returned, but
for a frame that a call still holds. There is one such call at most.
-/

namespace XelisWallet.NativeSubscription

open Checked Feed Runs NativeError Transactions Events

variable {E F G : Type}

/-! ### What is reported -/

def reportItem (C : Channel E F) : Item E → Option F
  | .event e => C.report e
  | .lagged skippedEvents => some (C.degraded skippedEvents)

/-- The reports of items, with the places of the items upstream. -/
def sources (C : Channel E F) (items : List (ℕ × Item E)) : List (ℕ × F) :=
  items.filterMap fun x => (reportItem C x.2).map (x.1, ·)

/-- Everything the subscription has to report. -/
def reports (C : Channel E F) (s : Subscription E F) : List F :=
  (sources C s.receiver.received).map (·.2) ++ if s.terminated then [C.closed] else []

def numbered (C : Channel E F) (generation : ℕ) (events : List F) : List (EventFrame F) :=
  events.mapIdx fun i event => ⟨C.version, generation, i + 1, event⟩

def frameOf : NextResult F → Option (EventFrame F)
  | .ok frame => frame
  | .error _ => none

def frames (returned : List (Return F)) : List (EventFrame F) :=
  returned.filterMap fun r => frameOf r.result

lemma frames_snoc (returned : List (Return F)) (r : Return F) :
    frames (returned ++ [r]) = frames returned ++ (frameOf r.result).toList := by
  rw [frames, List.filterMap_append, ← frames]
  cases hframe : frameOf r.result <;> simp [hframe]

/-- The frame a call is about to return. -/
def Pc.held : Pc F → Option (EventFrame F)
  | .leaving result => frameOf result
  | _ => none

/-- The call has passed the checks and may receive. -/
def Pc.Reading : Pc F → Prop
  | .looping | .waiting | .receiving => True
  | _ => False

/-! ### The invariant -/

/-- The frames are the numbered reports, as long as the numbers suffice. -/
def Numbered (C : Channel E F) (generation : ℕ) (s : Subscription E F)
    (held : Option (EventFrame F)) : Prop :=
  (reports C s).length < u64Max →
    frames s.returned ++ held.toList = numbered C generation (reports C s) ∧
      s.nextSequence = (reports C s).length + 1

/-- What holds of the call in progress, with the flags. -/
structure Going (C : Channel E F) (cancelled terminated : Bool) (call : Call F) : Prop where
  afterCancel : call.afterCancel = true →
    cancelled = true ∧ (call.pc = .entered ∨ call.pc = .leaving (.ok none))
  afterClosed : call.afterClosed = true → terminated = true ∧
    (call.pc = .entered ∨ call.pc = .uncancelled ∨ call.pc = .leaving (.ok none))
  reading : call.pc.Reading → terminated = false
  closes : ∀ result, call.pc = .leaving result → closes C result = true → terminated = true

/-- What a call returns that started when the subscription was over, or while another call was in
progress. -/
structure Settled (C : Channel E F) (r : Return F) : Prop where
  overlapped : r.overlapped = true → r.result = .error C.nextInProgress
  ended : r.overlapped = false → r.afterCancel = true ∨ r.afterClosed = true → r.result = .ok none

def only : Option (ℕ × Call F) → ℕ → Option (Call F)
  | none => fun _ => none
  | some (i, call) => Function.update (fun _ => none) i (some call)

structure Inv (C : Channel E F) (generation : ℕ) (shared : Shared E) (s : Subscription E F)
    (current : Option (ℕ × Call F)) : Prop where
  follows : Follows s.receiver shared
  calls : s.calls = only current
  inProgress : s.nextInProgress = current.isSome
  sending : s.sending = true → s.cancelled = true
  cancelReturned : s.cancelReturned = true → s.cancelled = true
  closedReturned : s.closedReturned = true → s.terminated = true
  numbered : Numbered C generation s (current.bind (·.2.pc.held))
  going : ∀ i call, current = some (i, call) → Going C s.cancelled s.terminated call
  settled : ∀ r ∈ s.returned, Settled C r

section Steps

variable {C : Channel E F} {generation : ℕ} {shared : Shared E} {s : Subscription E F}
  {i : ℕ} {call : Call F}

lemma only_update (call' : Call F) :
    Function.update (only (some (i, call))) i (some call') = only (some (i, call')) :=
  Function.update_idem ..

lemma only_remove : Function.update (only (some (i, call))) i none = only none := by
  funext j
  by_cases h : j = i
  all_goals simp [only]

lemma Inv.new : Inv C generation shared .new none where
  follows := .init
  calls := rfl
  inProgress := rfl
  sending := nofun
  cancelReturned := nofun
  closedReturned := nofun
  numbered _ := ⟨rfl, rfl⟩
  going := nofun
  settled := by simp [Subscription.new]

lemma Inv.goto (h : Inv C generation shared s (some (i, call))) {pc : Pc F}
    (hheld : call.pc.held = none) (hpc : pc.held = none)
    (hgoing : Going C s.cancelled s.terminated { call with pc }) :
    Inv C generation shared (s.goto i call pc) (some (i, { call with pc })) where
  follows := h.follows
  calls := by rw [Subscription.goto, h.calls, only_update]
  inProgress := h.inProgress
  sending := h.sending
  cancelReturned := h.cancelReturned
  closedReturned := h.closedReturned
  numbered := by
    have hnumbered := h.numbered
    simp only [Option.bind_some, hheld] at hnumbered
    simp only [Option.bind_some, hpc]
    exact hnumbered
  going j call' hj := by
    cases hj
    exact hgoing
  settled := h.settled

lemma Inv.end (h : Inv C generation shared s (some (i, call))) (hheld : call.pc.held = none) :
    Inv C generation shared (s.goto i call (.leaving (.ok none)))
      (some (i, { call with pc := .leaving (.ok none) })) := by
  have hgoing := h.going i call rfl
  exact h.goto hheld rfl ⟨fun hc => ⟨(hgoing.afterCancel hc).1, .inr rfl⟩,
    fun hc => ⟨(hgoing.afterClosed hc).1, .inr (.inr rfl)⟩, nofun,
    fun result hresult hcloses => by cases hresult; cases hcloses⟩

lemma Numbered.nextFrame {s' : Subscription E F} {event : F} (h : Numbered C generation s none)
    (hreturned : s'.returned = s.returned) (hreports : reports C s' = reports C s ++ [event])
    (hsequence : s'.nextSequence = (nextFrame C generation s.nextSequence event).2) : Numbered C
    generation s' (frameOf (nextFrame C generation s.nextSequence event).1) := by
  intro hlength
  rw [hreports, List.length_append, List.length_singleton] at hlength
  obtain ⟨hframes, hnext⟩ := h (by omega)
  have hadd : checkedAdd u64Max s.nextSequence 1 = some (s.nextSequence + 1) :=
    checkedAdd_eq_some.mpr ⟨by omega, rfl⟩
  simp only [NativeSubscription.nextFrame, hadd] at hsequence ⊢
  refine ⟨?_, ?_⟩
  · rw [hreturned, hreports, NativeSubscription.numbered, List.mapIdx_concat,
      ← NativeSubscription.numbered, ← hframes, hnext]
    simp [frameOf]
  · rw [hsequence, hnext, hreports, List.length_append, List.length_singleton]

lemma Going.started (h : Going C s.cancelled s.terminated call) (hreading : call.pc.Reading) :
    call.afterCancel = false ∧ call.afterClosed = false ∧ s.terminated = false := by
  refine ⟨?_, ?_, h.reading hreading⟩
  · by_contra hc
    rcases (h.afterCancel (by simpa using hc)).2 with hpc | hpc <;>
      simp only [hpc, Pc.Reading] at hreading
  · by_contra hc
    rcases (h.afterClosed (by simpa using hc)).2 with hpc | hpc | hpc <;>
      simp only [hpc, Pc.Reading] at hreading

lemma Inv.answer (h : Inv C generation shared s (some (i, call))) (hpc : call.pc = .receiving)
    {receiver : Receiver E} {terminated : Bool} {event : F} (hfollows : Follows receiver shared)
    (hreports : reports C { s with receiver, terminated } = reports C s ++ [event])
    (hclosed : C.isClosed event = true → terminated = true) : ∃ current, Inv C generation shared
    ({ s with receiver, terminated }.answer C generation i call event) current := by
  obtain ⟨hcancel, hover, hopen⟩ := (h.going i call rfl).started (by rw [hpc]; trivial)
  have hnumbered := h.numbered
  simp only [Option.bind_some, hpc] at hnumbered
  refine ⟨some (i, { call with pc := .leaving (nextFrame C generation s.nextSequence event).1 }),
    ⟨hfollows, ?_, h.inProgress, h.sending, h.cancelReturned, ?_, ?_, ?_, h.settled⟩⟩
  · simp only [Subscription.answer, Subscription.goto, h.calls, only_update]
  · intro hreturned
    rw [h.closedReturned hreturned] at hopen
    cases hopen
  · exact hnumbered.nextFrame rfl hreports rfl
  · intro j call' hj
    cases hj
    refine ⟨fun hc => ?_, fun hc => ?_, nofun, fun result hresult hcloses => ?_⟩
    · rw [hcancel] at hc
      cases hc
    · rw [hover] at hc
      cases hc
    cases hresult
    refine hclosed ?_
    rw [nextFrame] at hcloses
    split at hcloses
    · cases hcloses
    · exact hcloses

lemma reports_take (hopen : s.terminated = false) (item : Item E) : reports C
    { s with receiver := s.receiver.take item } = reports C s ++ (reportItem C item).toList := by
  simp only [reports, hopen, sources, Receiver.take, List.filterMap_append]
  cases hitem : reportItem C item <;> simp [hitem]

lemma reports_close (hopen : s.terminated = false) :
    reports C { s with terminated := true } = reports C s ++ [C.closed] := by
  simp [reports, hopen]

variable {current : Option (ℕ × Call F)}

lemma Inv.read (h : Inv C generation shared s current) {receiver : Receiver E}
    (hfollows : Follows receiver shared) (hreports : reports C { s with receiver } = reports C s) :
    Inv C generation shared { s with receiver } current where
  follows := hfollows
  calls := h.calls
  inProgress := h.inProgress
  sending := h.sending
  cancelReturned := h.cancelReturned
  closedReturned := h.closedReturned
  numbered := by
    rw [Numbered, hreports]
    exact h.numbered
  going := h.going
  settled := h.settled

lemma Inv.watch (h : Inv C generation shared s current) (changed : Bool) :
    Inv C generation shared { s with changed } current :=
  ⟨h.follows, h.calls, h.inProgress, h.sending, h.cancelReturned, h.closedReturned, h.numbered,
    h.going, h.settled⟩

lemma Going.loop (hcancel : call.afterCancel = false) (hover : call.afterClosed = false)
    (hopen : s.terminated = false) {p : Pc F} (hreading : p.Reading) :
    Going C s.cancelled s.terminated { call with pc := p } where
  afterCancel hc := by
    rw [show call.afterCancel = true from hc] at hcancel
    cases hcancel
  afterClosed hc := by
    rw [show call.afterClosed = true from hc] at hover
    cases hover
  reading _ := hopen
  closes result hresult := by
    rw [show p = .leaving result from hresult] at hreading
    exact hreading.elim

lemma Inv.receive (h : Inv C generation shared s (some (i, call))) (hpc : call.pc = .receiving) :
    ∃ current, Inv C generation shared
      ({ s with receiver := (s.receiver.recv shared).2 }.receive C generation i call
        (s.receiver.recv shared).1) current := by
  obtain ⟨hcancel, hover, hopen⟩ := (h.going i call rfl).started (by rw [hpc]; trivial)
  have hfollows := h.follows.recv
  have hheld : call.pc.held = none := by rw [hpc]; rfl
  obtain ⟨item, hrecv⟩ | ⟨hrecv, -, -⟩ | ⟨hrecv, -, -⟩ := s.receiver.recv_cases shared
  · rw [hrecv] at hfollows ⊢
    have htake := reports_take (C := C) hopen item
    cases item with
    | lagged =>
      refine h.answer hpc hfollows htake fun hclosed => ?_
      rw [C.isClosed_degraded] at hclosed
      cases hclosed
    | event e =>
      cases hreport : C.report e with
      | some event =>
        rw [reportItem, hreport] at htake
        simp only [Subscription.receive, hreport]
        refine h.answer hpc hfollows htake fun hclosed => ?_
        rw [C.isClosed_report e event hreport] at hclosed
        cases hclosed
      | none =>
        rw [reportItem, hreport, Option.toList_none, List.append_nil] at htake
        simp only [Subscription.receive, hreport]
        exact ⟨_, (h.read hfollows htake).goto hheld rfl
          (.loop hcancel hover hopen (p := .looping) trivial)⟩
  · rw [hrecv]
    exact h.answer hpc h.follows (reports_close hopen) fun _ => rfl
  · rw [hrecv]
    exact ⟨_, h.goto hheld rfl (.loop hcancel hover hopen trivial)⟩

lemma Inv.leave (h : Inv C generation shared s (some (i, call))) {result : NextResult F}
    (hpc : call.pc = .leaving result) : Inv C generation shared (s.leave C i call result) none := by
  have hgoing := h.going i call rfl
  refine ⟨h.follows, ?_, rfl, h.sending, h.cancelReturned, fun hc => ?_, fun hlength => ?_, nofun,
    fun r hr => ?_⟩
  · simp only [Subscription.leave, h.calls, only_remove]
  · obtain hc | hc := Bool.or_eq_true_iff.mp hc
    · exact h.closedReturned hc
    · exact hgoing.closes result hpc hc
  · obtain ⟨hframes, hnext⟩ := h.numbered hlength
    refine ⟨?_, hnext⟩
    simp only [Option.bind_some, hpc, Pc.held] at hframes
    refine Eq.trans ?_ hframes
    rw [Subscription.leave, frames_snoc, Option.bind_none, Option.toList_none, List.append_nil]
  · obtain hr | hr := List.mem_append.mp hr
    · exact h.settled r hr
    rw [List.mem_singleton.mp hr]
    refine ⟨nofun, fun _ hover => ?_⟩
    have hend : call.pc = .leaving (.ok none) := by
      obtain hc | hc := hover
      · obtain hpc' | hpc' := (hgoing.afterCancel hc).2
        · cases hpc.symm.trans hpc'
        · exact hpc'
      · obtain hpc' | hpc' | hpc' := (hgoing.afterClosed hc).2
        · cases hpc.symm.trans hpc'
        · cases hpc.symm.trans hpc'
        · exact hpc'
    exact Pc.leaving.inj (hpc.symm.trans hend)

lemma Inv.run (h : Inv C generation shared s (some (i, call))) :
    ∃ current, Inv C generation shared (s.run C generation shared i call) current := by
  have hgoing := h.going i call rfl
  cases hpc : call.pc with
  | entered =>
    have hheld : call.pc.held = none := by rw [hpc]; rfl
    simp only [Subscription.run, hpc]
    cases hcancelled : s.cancelled with
    | true => exact ⟨_, h.end hheld⟩
    | false =>
      refine ⟨_, h.goto hheld rfl ⟨fun hc => ?_,
        fun hc => ⟨(hgoing.afterClosed hc).1, .inr (.inl rfl)⟩, nofun, nofun⟩⟩
      rw [(hgoing.afterCancel hc).1] at hcancelled
      cases hcancelled
  | uncancelled =>
    have hheld : call.pc.held = none := by rw [hpc]; rfl
    simp only [Subscription.run, hpc]
    cases hterminated : s.terminated with
    | true => exact ⟨_, h.end hheld⟩
    | false =>
      refine ⟨_, h.goto hheld rfl ⟨fun hc => ?_, fun hc => ?_, fun _ => hterminated, nofun⟩⟩
      · rcases (hgoing.afterCancel hc).2 with hpc' | hpc' <;> cases hpc.symm.trans hpc'
      · rw [(hgoing.afterClosed hc).1] at hterminated
        cases hterminated
  | looping =>
    have hheld : call.pc.held = none := by rw [hpc]; rfl
    obtain ⟨hcancel, hover, hopen⟩ := hgoing.started (by rw [hpc]; trivial)
    simp only [Subscription.run, hpc]
    cases s.cancelled with
    | true => exact ⟨_, h.end hheld⟩
    | false => exact ⟨_, h.goto hheld rfl (.loop hcancel hover hopen (p := .waiting) trivial)⟩
  | waiting =>
    have hheld : call.pc.held = none := by rw [hpc]; rfl
    obtain ⟨hcancel, hover, hopen⟩ := hgoing.started (by rw [hpc]; trivial)
    simp only [Subscription.run, hpc]
    cases s.changed with
    | true => exact ⟨_, (h.watch false).end hheld⟩
    | false => exact ⟨_, h.goto hheld rfl (.loop hcancel hover hopen (p := .receiving) trivial)⟩
  | receiving =>
    simp only [Subscription.run, hpc]
    exact h.receive hpc
  | leaving =>
    simp only [Subscription.run, hpc]
    exact ⟨none, h.leave hpc⟩

lemma only_eq_some (h : only current i = some call) : current = some (i, call) := by
  cases current with
  | none => cases h
  | some x =>
    obtain ⟨j, call'⟩ := x
    by_cases hij : i = j
    · subst hij
      rw [only, Function.update_self] at h
      cases h
      rfl
    · rw [only, Function.update_of_ne hij] at h
      cases h

lemma Inv.reject (h : Inv C generation shared s current) (afterCancel afterClosed : Bool) :
    Inv C generation shared { s with returned := s.returned ++
      [⟨afterCancel, afterClosed, true, .error C.nextInProgress⟩] } current := by
  refine ⟨h.follows, h.calls, h.inProgress, h.sending, h.cancelReturned, h.closedReturned,
    fun hlength => ?_, h.going, fun r hr => ?_⟩
  · obtain ⟨hframes, hnext⟩ := h.numbered hlength
    refine ⟨?_, hnext⟩
    rwa [frames_snoc, frameOf, Option.toList_none, List.append_nil]
  · obtain hr | hr := List.mem_append.mp hr
    · exact h.settled r hr
    · rw [List.mem_singleton.mp hr]
      exact ⟨fun _ => rfl, nofun⟩

lemma Inv.enter (h : Inv C generation shared s none) (i : ℕ) :
    Inv C generation shared { s with
        nextInProgress := true
        calls := Function.update s.calls i (some ⟨.entered, s.cancelReturned, s.closedReturned⟩) }
      (some (i, ⟨.entered, s.cancelReturned, s.closedReturned⟩)) := by
  refine ⟨h.follows, by rw [h.calls]; rfl, rfl, h.sending, h.cancelReturned, h.closedReturned,
    h.numbered, fun j call hj => ?_, h.settled⟩
  cases hj
  exact ⟨fun hc => ⟨h.cancelReturned hc, .inl rfl⟩, fun hc => ⟨h.closedReturned hc, .inl rfl⟩,
    nofun, nofun⟩

variable (h : Inv C generation shared s current)
include h

lemma Inv.cancel {cancelled : Bool} (hcancelled : cancelled = true) (sending cancelReturned : Bool)
    : Inv C generation shared { s with cancelled, sending, cancelReturned } current := by
  refine ⟨h.follows, h.calls, h.inProgress, fun _ => hcancelled, fun _ => hcancelled,
    h.closedReturned, h.numbered, fun j call hj => ?_, h.settled⟩
  have hgoing := h.going j call hj
  exact ⟨fun hc => ⟨hcancelled, (hgoing.afterCancel hc).2⟩, hgoing.afterClosed, hgoing.reading,
    hgoing.closes⟩

lemma Inv.step {op : Op} {s' : Subscription E F} (hstep : s.step C generation shared op = some s') :
    ∃ current', Inv C generation shared s' current' := by
  cases op with
  | begin i =>
    rw [Subscription.step] at hstep
    split at hstep
    · cases hstep
    split at hstep <;> cases hstep
    · exact ⟨current, h.reject _ _⟩
    rename_i hidle
    have hnone : current = none := by
      rwa [h.inProgress, Option.not_isSome_iff_eq_none] at hidle
    subst hnone
    exact ⟨_, h.enter i⟩
  | run =>
    obtain ⟨call, hcall, rfl⟩ := Option.map_eq_some_iff.mp hstep
    rw [h.calls] at hcall
    cases only_eq_some hcall
    exact h.run
  | cancel =>
    cases hstep
    split
    · rename_i hcancelled
      exact ⟨current, h.cancel hcancelled s.sending true⟩
    · exact ⟨current, h.cancel rfl true s.cancelReturned⟩
  | signal =>
    rw [Subscription.step] at hstep
    split at hstep <;> cases hstep
    rename_i hsending
    exact ⟨current, (h.cancel (h.sending hsending) false true).watch true⟩

lemma Inv.send (e : E) : Inv C generation (shared.send e) s current :=
  { h with follows := h.follows.send e }

lemma Inv.close : Inv C generation { shared with closed := true } s current :=
  { h with follows := ⟨h.follows.next_le, h.follows.consecutive, h.follows.event⟩ }

omit h

end Steps

/-! ### The contract -/

/-- After `n` steps of its own the call returns nothing. -/
def Ends (C : Channel E F) (generation : ℕ) (shared : Shared E) (i : ℕ) (call : Call F) (n : ℕ)
    (s : Subscription E F) : Prop :=
  ∃ s', (List.replicate n (Op.run i)).foldlM (·.step C generation shared) s = some s' ∧
    s'.returned = s.returned ++ [⟨call.afterCancel, call.afterClosed, false, .ok none⟩]

/-- What the callers of one subscription can rely on. -/
structure Contract (C : Channel E F) (generation : ℕ) (shared : Shared E)
    (s : Subscription E F) : Prop where
  /-- The items are the upstream events in order, with the lags between them. -/
  follows : Follows s.receiver shared
  /-- The frames returned are the reports with the numbers from one on, but for one that a call is
  about to return, and one of them at most is the closed one. -/
  frames : (reports C s).length < u64Max →
    (frames s.returned).countP (fun frame => C.isClosed frame.event) ≤ 1 ∧
    ∃ held : Option (EventFrame F),
      frames s.returned ++ held.toList = numbered C generation (reports C s) ∧
        (held.isSome → ∃ i call, s.calls i = some call ∧ call.pc.held = held)
  /-- A call that started after `cancel` had returned, or after the closed frame had been, returns
  nothing; one that started while another was in progress fails. -/
  settled : ∀ r ∈ s.returned, Settled C r
  /-- After `cancel` has returned a new call does not wait. -/
  afterCancel : ∀ i call, s.calls i = some call → call.afterCancel = true →
    call.pc = .entered ∨ call.pc = .leaving (.ok none)
  /-- After the closed frame has been returned a new call does not wait. -/
  afterClosed : ∀ i call, s.calls i = some call → call.afterClosed = true →
    call.pc = .entered ∨ call.pc = .uncancelled ∨ call.pc = .leaving (.ok none)
  /-- Such a call returns nothing, after three steps of its own at most. -/
  ends : ∀ i call, s.calls i = some call → call.afterCancel = true ∨ call.afterClosed = true →
    ∃ n ≤ 3, Ends C generation shared i call n s
  /-- One call is in progress at most. -/
  one_call : ∀ i j, (s.calls i).isSome → (s.calls j).isSome → i = j
  /-- A call that starts while another is in progress changes nothing. -/
  overlapping : ∀ i j, s.calls i = none → (s.calls j).isSome →
    s.step C generation shared (.begin i) = some { s with returned := s.returned ++
      [⟨s.cancelReturned, s.closedReturned, true, .error C.nextInProgress⟩] }
  /-- A call that starts while none is in progress is admitted. -/
  alone : ∀ i, (∀ j, s.calls j = none) → ∃ s',
    s.step C generation shared (.begin i) = some s' ∧
      s'.calls i = some ⟨.entered, s.cancelReturned, s.closedReturned⟩

section Contract

variable {C : Channel E F} {generation : ℕ} {shared : Shared E} {s : Subscription E F}

lemma map_event_numbered (events : List F) :
    (numbered C generation events).map (·.event) = events := by
  refine List.ext_getElem? fun i => ?_
  simp [numbered, Function.comp_def]

lemma countP_isClosed_reports : (reports C s).countP C.isClosed ≤ 1 := by
  have hsources : ((sources C s.receiver.received).map (·.2)).countP C.isClosed = 0 := by
    rw [List.countP_eq_zero]
    intro event hevent
    obtain ⟨x, hx, rfl⟩ := List.mem_map.mp hevent
    obtain ⟨⟨p, item⟩, -, hsource⟩ := List.mem_filterMap.mp hx
    obtain ⟨event, hreport, rfl⟩ := Option.map_eq_some_iff.mp hsource
    cases item with
    | event e => simp [C.isClosed_report e event hreport]
    | lagged => simp [← Option.some.inj hreport, C.isClosed_degraded]
  rw [reports, List.countP_append, hsources, Nat.zero_add]
  split
  · exact List.countP_le_length
  · exact Nat.zero_le _

section Ends

variable {i : ℕ} {call : Call F} (hcall : s.calls i = some call)
include hcall

lemma ends_of_leaving (hpc : call.pc = .leaving (.ok none)) :
    Ends C generation shared i call 1 s := by
  refine ⟨s.leave C i call (.ok none), ?_, rfl⟩
  simp [Subscription.step, hcall, Subscription.run, hpc]

lemma Ends.goto (pc : Pc F) {n : ℕ} (hrun : s.run C generation shared i call = s.goto i call pc)
    (h : Ends C generation shared i { call with pc } n (s.goto i call pc)) :
    Ends C generation shared i call (n + 1) s := by
  obtain ⟨s', hsteps, hreturned⟩ := h
  refine ⟨s', ?_, hreturned⟩
  rw [List.replicate_succ, List.foldlM_cons, Subscription.step, hcall, Option.map_some, hrun]
  exact hsteps

omit hcall in
lemma goto_calls (pc : Pc F) : (s.goto i call pc).calls i = some { call with pc } :=
  Function.update_self ..

lemma ends_of_uncancelled (hpc : call.pc = .uncancelled) (hterminated : s.terminated = true) :
    Ends C generation shared i call 2 s := by
  refine Ends.goto hcall (.leaving (.ok none)) ?_ (ends_of_leaving (goto_calls _) rfl)
  simp [Subscription.run, hpc, hterminated]

lemma ends_of_entered (hpc : call.pc = .entered)
    (hover : s.cancelled = true ∨ s.terminated = true) :
    ∃ n ≤ 3, Ends C generation shared i call n s := by
  cases hcancelled : s.cancelled with
  | true =>
    refine ⟨2, by omega, Ends.goto hcall (.leaving (.ok none)) ?_
      (ends_of_leaving (goto_calls _) rfl)⟩
    simp [Subscription.run, hpc, hcancelled]
  | false =>
    have hterminated : s.terminated = true := by simpa [hcancelled] using hover
    refine ⟨3, le_rfl, Ends.goto hcall .uncancelled ?_
      (ends_of_uncancelled (goto_calls _) rfl hterminated)⟩
    simp [Subscription.run, hpc, hcancelled]

lemma Going.ends (h : Going C s.cancelled s.terminated call)
    (hover : call.afterCancel = true ∨ call.afterClosed = true) :
    ∃ n ≤ 3, Ends C generation shared i call n s := by
  have hflags := hover.imp (fun hc => (h.afterCancel hc).1) fun hc => (h.afterClosed hc).1
  have hpc : call.pc = .entered ∨ call.pc = .leaving (.ok none) ∨
      call.pc = .uncancelled ∧ s.terminated = true := by
    obtain hc | hc := hover
    · exact (h.afterCancel hc).2.imp_right .inl
    · obtain ⟨hterminated, hpc | hpc | hpc⟩ := h.afterClosed hc
      · exact .inl hpc
      · exact .inr (.inr ⟨hpc, hterminated⟩)
      · exact .inr (.inl hpc)
  obtain hpc | hpc | ⟨hpc, hterminated⟩ := hpc
  · exact ends_of_entered hcall hpc hflags
  · exact ⟨1, by omega, ends_of_leaving hcall hpc⟩
  · exact ⟨2, by omega, ends_of_uncancelled hcall hpc hterminated⟩

end Ends

lemma Inv.contract {current : Option (ℕ × Call F)} (h : Inv C generation shared s current) :
    Contract C generation shared s where
  follows := h.follows
  frames hlength := by
    obtain ⟨hframes, -⟩ := h.numbered hlength
    refine ⟨?_, _, hframes, fun hheld => ?_⟩
    · have hevents : (NativeSubscription.numbered C generation (reports C s)).map (·.event) =
          reports C s := map_event_numbered _
      rw [← hframes, List.map_append] at hevents
      calc (NativeSubscription.frames s.returned).countP (fun frame => C.isClosed frame.event)
          = ((NativeSubscription.frames s.returned).map (·.event)).countP C.isClosed := by
            rw [List.countP_map]
            rfl
        _ ≤ (reports C s).countP C.isClosed := by
            rw [← hevents, List.countP_append]
            exact Nat.le_add_right _ _
        _ ≤ 1 := countP_isClosed_reports
    · cases hcurrent : current with
      | none =>
        rw [hcurrent] at hheld
        cases hheld
      | some x =>
        refine ⟨x.1, x.2, ?_, rfl⟩
        rw [h.calls, hcurrent, only, Function.update_self]
  settled := h.settled
  afterCancel i call hcall hc := by
    rw [h.calls] at hcall
    exact ((h.going i call (only_eq_some hcall)).afterCancel hc).2
  afterClosed i call hcall hc := by
    rw [h.calls] at hcall
    exact ((h.going i call (only_eq_some hcall)).afterClosed hc).2
  ends i call hcall hover :=
    (h.going i call (only_eq_some (h.calls ▸ hcall))).ends hcall hover
  one_call i j hi hj := by
    obtain ⟨call, hi⟩ := Option.isSome_iff_exists.mp hi
    obtain ⟨call', hj⟩ := Option.isSome_iff_exists.mp hj
    rw [h.calls] at hi hj
    have hsame := (only_eq_some hi).symm.trans (only_eq_some hj)
    exact congrArg Prod.fst (Option.some.inj hsame)
  overlapping i j hi hj := by
    obtain ⟨call, hj⟩ := Option.isSome_iff_exists.mp hj
    rw [h.calls] at hj
    have hprogress : s.nextInProgress = true := by rw [h.inProgress, only_eq_some hj]; rfl
    simp only [Subscription.step, hi, hprogress, if_true]
  alone i hnone := by
    have hprogress : s.nextInProgress = false := by
      rw [h.inProgress]
      cases hcurrent : current with
      | none => rfl
      | some x =>
        have hx := hnone x.1
        rw [h.calls, hcurrent, only, Function.update_self] at hx
        cases hx
    refine ⟨{ s with
      nextInProgress := true
      calls := Function.update s.calls i (some ⟨.entered, s.cancelReturned, s.closedReturned⟩) },
      ?_, Function.update_self ..⟩
    simp only [Subscription.step, hnone i, hprogress, Bool.false_eq_true, if_false]

end Contract

/-! ### Two subscriptions -/

section Pair

variable {C : Channel E F} {D : Channel E G} {g g' : ℕ} {w w' : World E F G}

lemma inv_of_reachable (h : Reachable (subscriptions C D g g') w) :
    (∃ current, Inv C g w.shared w.runtime current) ∧
      ∃ current, Inv D g' w.shared w.business current := by
  refine h.invariant (P := fun w => (∃ current, Inv C g w.shared w.runtime current) ∧
    ∃ current, Inv D g' w.shared w.business current) ?_ ?_
  · rintro s ⟨capacity, rfl⟩
    exact ⟨⟨none, .new⟩, ⟨none, .new⟩⟩
  rintro s a t - ⟨⟨c, hc⟩, ⟨d, hd⟩⟩ hstep
  cases a with
  | send e =>
    simp only [subscriptions, step] at hstep
    split at hstep <;> cases hstep
    exact ⟨⟨c, hc.send e⟩, ⟨d, hd.send e⟩⟩
  | close =>
    cases hstep
    exact ⟨⟨c, hc.close⟩, ⟨d, hd.close⟩⟩
  | runtime =>
    obtain ⟨runtime, hrun, rfl⟩ := Option.map_eq_some_iff.mp hstep
    exact ⟨hc.step hrun, ⟨d, hd⟩⟩
  | business =>
    obtain ⟨business, hrun, rfl⟩ := Option.map_eq_some_iff.mp hstep
    exact ⟨⟨c, hc⟩, hd.step hrun⟩

lemma countP_sources {r : Receiver E} {shared : Shared E} (h : Follows r shared) {p : ℕ} {e : E}
    (hmem : (p, Item.event e) ∈ r.received) :
    (sources C r.received).countP (·.1 = p) = if (C.report e).isSome then 1 else 0 := by
  have hplace := h.consecutive.countP_place hmem fun item => (reportItem C item).isSome
  refine Eq.trans ?_ hplace
  rw [sources, List.countP_filterMap]
  refine List.countP_congr fun x _ => ?_
  cases reportItem C x.2 <;> simp

end Pair

/-- **The native subscriptions.** In every run of a wallet with a runtime and a business
subscription that were opened together, both keep their contract. An event that both have read past,
and none has missed, is reported by one frame, of one of them. -/
theorem subscriptions_contract {P : Type} {toText : P → String} {projection : ExtraDataProjection}
    {g g' : ℕ} {w : World (Event P) NativeWalletRuntimeEvent NativeWalletBusinessEvent}
    (h : Reachable (subscriptions runtimeChannel (businessChannel toText projection) g g') w) :
    Contract runtimeChannel g w.shared w.runtime ∧
    Contract (businessChannel toText projection) g' w.shared w.business ∧
    ∀ p, p < w.runtime.receiver.next → p < w.business.receiver.next →
      Skipped w.runtime.receiver.received p ∨ Skipped w.business.receiver.received p ∨
      (sources runtimeChannel w.runtime.receiver.received).countP (·.1 = p) +
        (sources (businessChannel toText projection) w.business.receiver.received).countP
          (·.1 = p) = 1 := by
  obtain ⟨⟨c, hc⟩, ⟨d, hd⟩⟩ := inv_of_reachable h
  refine ⟨hc.contract, hd.contract, fun p hp hp' => ?_⟩
  rcases hc.follows.event_or_skipped hp with hskip | ⟨e, hmem, he⟩
  · exact .inl hskip
  rcases hd.follows.event_or_skipped hp' with hskip | ⟨e', hmem', he'⟩
  · exact .inr (.inl hskip)
  obtain rfl : e = e' := Option.some.inj (he.symm.trans he')
  refine .inr (.inr ?_)
  rw [countP_sources hc.follows hmem, countP_sources hd.follows hmem']
  rcases reported_by_one_channel toText projection e with ⟨hruntime, hbusiness⟩ |
      ⟨hruntime, hbusiness⟩ <;>
    simp [runtimeChannel, businessChannel, hruntime, hbusiness]

/-! ### Small runs -/

abbrev smallChannel : Channel (Event Unit) NativeWalletRuntimeEvent := runtimeChannel

/-- A wallet without parties, with subscriptions of the generations 3 and 4. -/
def smallStep (w : World (Event Unit) NativeWalletRuntimeEvent NativeWalletBusinessEvent) :
    Action (Event Unit) →
      Option (World (Event Unit) NativeWalletRuntimeEvent NativeWalletBusinessEvent) :=
  step runtimeChannel (businessChannel (fun _ => "") .redacted) 3 4 w

lemma small_reachable {w : World (Event Unit) NativeWalletRuntimeEvent NativeWalletBusinessEvent}
    (actions : List (Action (Event Unit))) (h : actions.foldlM smallStep (World.opened 1) = some w)
    : Reachable (subscriptions runtimeChannel (businessChannel (fun _ => "") .redacted) 3 4) w := by
  refine Reachable.exec (fun _ _ _ hstep => hstep) (.of_init ?_) actions h
  exact ⟨1, rfl⟩

def runtimeCall (n : ℕ) : List (Action (Event Unit)) :=
  .runtime (.begin 0) :: List.replicate n (.runtime (.run 0))

/-- The runtime subscription reads that the wallet is online and lags over the tracked asset, which
the business subscription reads before it is cancelled. Then the channel closes. -/
def laggingRun : List (Action (Event Unit)) :=
  .send .online :: runtimeCall 6 ++ .business (.begin 0) ::
  List.replicate 5 (.business (.run 0)) ++ .send (.trackAsset "a") ::
  List.replicate 4 (.business (.run 0)) ++
  [.business .cancel, .business .signal, .business (.begin 0), .business (.run 0),
    .business (.run 0), .send .offline, .close] ++
  (List.replicate 3 (runtimeCall 6)).flatten ++ runtimeCall 3

theorem frames_until_closed : ∃ w, laggingRun.foldlM smallStep (World.opened 1) = some w ∧
    frames w.runtime.returned = numbered smallChannel 3
      [.online, smallChannel.degraded 1, .offline, smallChannel.closed] ∧
    frames w.business.returned = [⟨1, 4, 1, .assetTracked "a"⟩] ∧
    (w.runtime.returned.getLast?.map fun r => (r.afterClosed, r.result)) = some (true, .ok none) ∧
    (w.business.returned.getLast?.map fun r => (r.afterCancel, r.result)) = some (true, .ok none) ∧
    Contract runtimeChannel 3 w.shared w.runtime := by
  refine ⟨_, rfl, rfl, rfl, rfl, rfl, ?_⟩
  exact (subscriptions_contract (small_reachable laggingRun rfl)).1

/-- **A call after the cancellation can fail.** A call waits for an event; after `cancel` has
returned, and before the waiting call has seen it, another call starts. -/
theorem call_after_cancel_fails : ∃ w,
    Reachable (subscriptions runtimeChannel (businessChannel (P := Unit) (fun _ => "") .redacted)
      3 4) w ∧
    ∃ r ∈ w.runtime.returned, r.afterCancel = true ∧
      r.result = .error (.flutter .operationInProgress "WALLET_EVENT_NEXT_IN_PROGRESS"
        "Only one runtime event read may be active per subscription") :=
  ⟨_, small_reachable [.runtime (.begin 0), .runtime (.run 0), .runtime (.run 0),
    .runtime (.run 0), .runtime .cancel, .runtime .signal, .runtime (.begin 1)] rfl,
    _, .head _, rfl, rfl⟩

end XelisWallet.NativeSubscription
