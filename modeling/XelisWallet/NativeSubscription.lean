import XelisWallet.Checked
import XelisWallet.Feed
import XelisWallet.Runs
import XelisWallet.WalletEvents

/-!
The native subscriptions to the events of a wallet (`runtime_events.rs` and `business_events.rs`).

Both are the same machine over a channel of events: a receiver of the upstream broadcast, a flag and
a watch for the cancellation, and a guard that admits one `next_event` at a time. The calls are
tasks, which take their steps in any order with those of the wallet and of `cancel`. The mutex
around the receiver is free whenever it is taken, because the guard is dropped after it.
-/

namespace XelisWallet.NativeSubscription

open Checked Feed Runs NativeError Transactions Events

/-- `NativeWalletRuntimeEventFrame` and `NativeWalletBusinessEventFrame`. -/
structure EventFrame (F : Type) where
  version : ℕ
  generation : ℕ
  sequence : ℕ
  event : F

abbrev NextResult (F : Type) := Except NativeXelisError (Option (EventFrame F))

/-- What a kind of subscription makes of the items of the upstream channel, and its errors. -/
structure Channel (E F : Type) where
  version : ℕ
  report : E → Option F
  degraded : ℕ → F
  closed : F
  nextInProgress : NativeXelisError
  sequenceExhausted : NativeXelisError
  isClosed : F → Bool
  isClosed_closed : isClosed closed = true
  isClosed_report : ∀ e f, report e = some f → isClosed f = false
  isClosed_degraded : ∀ n, isClosed (degraded n) = false

/-! ### The two channels -/

section Channels

variable {P : Type}

def runtimeChannel : Channel (Event P) NativeWalletRuntimeEvent where
  version := 1
  report := runtimeEventFromWalletEvent
  degraded skippedEvents := .degraded skippedEvents (.flutter .streamLagged "WALLET_EVENTS_LAGGED"
    s!"Runtime event receiver skipped {skippedEvents} upstream events")
  closed := .closed .nativeChannelClosed (.flutter .streamClosedUnexpectedly
    "WALLET_EVENT_STREAM_CLOSED"
    "Native wallet event channel closed while the subscription was active")
  nextInProgress := .flutter .operationInProgress "WALLET_EVENT_NEXT_IN_PROGRESS"
    "Only one runtime event read may be active per subscription"
  sequenceExhausted := .flutter .internal "WALLET_EVENT_SEQUENCE_EXHAUSTED"
    "Runtime event sequence exhausted u64"
  isClosed
    | .closed .. => true
    | _ => false
  isClosed_closed := rfl
  isClosed_report := by
    intro e f h
    cases e <;> cases h <;> rfl
  isClosed_degraded _ := rfl

def businessChannel (toText : P → String) (extraDataProjection : ExtraDataProjection) :
    Channel (Event P) NativeWalletBusinessEvent where
  version := 1
  report event := businessEventFromWalletEventWithProjection toText event extraDataProjection
  degraded skippedEvents := .degraded skippedEvents (.flutter .streamLagged
    "WALLET_BUSINESS_EVENTS_LAGGED"
    s!"Business event receiver skipped {skippedEvents} upstream events")
  closed := .closed .nativeChannelClosed (.flutter .streamClosedUnexpectedly
    "WALLET_BUSINESS_EVENT_STREAM_CLOSED"
    "Native wallet business event channel closed while the subscription was active")
  nextInProgress := .flutter .operationInProgress "WALLET_BUSINESS_EVENT_NEXT_IN_PROGRESS"
    "Only one business event read may be active per subscription"
  sequenceExhausted := .flutter .internal "WALLET_BUSINESS_EVENT_SEQUENCE_EXHAUSTED"
    "Business event sequence exhausted u64"
  isClosed
    | .closed .. => true
    | _ => false
  isClosed_closed := rfl
  isClosed_report := by
    intro e f h
    cases e <;> cases h <;> rfl
  isClosed_degraded _ := rfl

end Channels

/-! ### One subscription -/

/-- Where a call of `next_event` is, after `begin_next`. -/
inductive Pc (F : Type)
  /-- Before `cancelled` is read. -/
  | entered
  /-- Before `terminated` is read. -/
  | uncancelled
  /-- At the top of the loop. -/
  | looping
  /-- In the `select!`, about to poll the cancellation. -/
  | waiting
  /-- In the `select!`, about to poll the receiver. -/
  | receiving
  /-- With the guard about to be dropped. -/
  | leaving (result : NextResult F)

/-- A call, with what had happened before it started. -/
structure Call (F : Type) where
  pc : Pc F
  afterCancel : Bool
  afterClosed : Bool

/-- What a call returned, with what had happened before it started; one that found another call in
progress has overlapped it. -/
structure Return (F : Type) where
  afterCancel : Bool
  afterClosed : Bool
  overlapped : Bool
  result : NextResult F

structure Subscription (E F : Type) where
  receiver : Receiver E
  -- the watch has a value that `changed` has not seen
  changed : Bool
  nextSequence : ℕ
  cancelled : Bool
  nextInProgress : Bool
  terminated : Bool
  -- the call of `cancel` that has set the flag is before the `send`
  sending : Bool
  calls : ℕ → Option (Call F)
  -- what callers have seen
  cancelReturned : Bool
  closedReturned : Bool
  returned : List (Return F)

inductive Op
  | begin (i : ℕ)
  | run (i : ℕ)
  | cancel
  | signal
  deriving DecidableEq, Repr

variable {E F : Type}

def Subscription.new : Subscription E F :=
  ⟨.init, false, 1, false, false, false, false, fun _ => none, false, false, []⟩

/-- The frame is the closed one. -/
def closes (C : Channel E F) : NextResult F → Bool
  | .ok (some frame) => C.isClosed frame.event
  | _ => false

def nextFrame (C : Channel E F) (generation nextSequence : ℕ) (event : F) : NextResult F × ℕ :=
  match checkedAdd u64Max nextSequence 1 with
  | none => (.error C.sequenceExhausted, nextSequence)
  | some following => (.ok (some ⟨C.version, generation, nextSequence, event⟩), following)

namespace Subscription

def goto (s : Subscription E F) (i : ℕ) (call : Call F) (pc : Pc F) : Subscription E F :=
  { s with calls := Function.update s.calls i (some { call with pc }) }

section Steps

variable (C : Channel E F) (generation : ℕ) (shared : Shared E) (s : Subscription E F)

/-- The call returns the next frame. -/
def answer (i : ℕ) (call : Call F) (event : F) : Subscription E F :=
  let (result, nextSequence) := nextFrame C generation s.nextSequence event
  { s with nextSequence }.goto i call (.leaving result)

/-- What the call makes of what it has received. -/
def receive (i : ℕ) (call : Call F) : Received E → Subscription E F
  | .item (.event e) =>
    match C.report e with
    | some event => s.answer C generation i call event
    | none => s.goto i call .looping
  | .item (.lagged skippedEvents) => s.answer C generation i call (C.degraded skippedEvents)
  | .closed => { s with terminated := true }.answer C generation i call C.closed
  | .empty => s.goto i call .waiting

/-- The call ends, and the guard with it. -/
def leave (i : ℕ) (call : Call F) (result : NextResult F) : Subscription E F :=
  { s with
    calls := Function.update s.calls i none
    nextInProgress := false
    closedReturned := s.closedReturned || closes C result
    returned := s.returned ++ [⟨call.afterCancel, call.afterClosed, false, result⟩] }

/-- The next step of a call of `next_event`. -/
def run (i : ℕ) (call : Call F) : Subscription E F :=
  match call.pc with
  | .entered => s.goto i call (if s.cancelled then .leaving (.ok none) else .uncancelled)
  | .uncancelled => s.goto i call (if s.terminated then .leaving (.ok none) else .looping)
  | .looping => s.goto i call (if s.cancelled then .leaving (.ok none) else .waiting)
  | .waiting =>
    if s.changed then { s with changed := false }.goto i call (.leaving (.ok none))
    else s.goto i call .receiving
  | .receiving =>
    let (received, receiver) := s.receiver.recv shared
    { s with receiver }.receive C generation i call received
  | .leaving result => s.leave C i call result

def step : Op → Option (Subscription E F)
  | .begin i =>
    match s.calls i with
    | some _ => none
    | none =>
      if s.nextInProgress then
        some { s with returned := s.returned ++
          [⟨s.cancelReturned, s.closedReturned, true, .error C.nextInProgress⟩] }
      else some { s with
        nextInProgress := true
        calls := Function.update s.calls i (some ⟨.entered, s.cancelReturned, s.closedReturned⟩) }
  | .run i => (s.calls i).map (s.run C generation shared i)
  -- a call of `cancel` that finds the flag set returns at once
  | .cancel => some (if s.cancelled then { s with cancelReturned := true }
    else { s with cancelled := true, sending := true })
  | .signal =>
    if s.sending then some { s with sending := false, changed := true, cancelReturned := true }
    else none

end Steps

end Subscription

/-! ### Two subscriptions to one wallet -/

/-- A wallet with a runtime and a business subscription that were opened together. -/
structure World (E F G : Type) where
  shared : Shared E
  runtime : Subscription E F
  business : Subscription E G

inductive Action (E : Type)
  | send (e : E)
  | close
  | runtime (op : Op)
  | business (op : Op)

variable {G : Type}

def World.opened (capacity : ℕ) : World E F G := ⟨⟨capacity, [], false⟩, .new, .new⟩

def step (C : Channel E F) (D : Channel E G) (runtimeGeneration businessGeneration : ℕ)
    (w : World E F G) : Action E → Option (World E F G)
  | .send e => if w.shared.closed then none else some { w with shared := w.shared.send e }
  | .close => some { w with shared := { w.shared with closed := true } }
  | .runtime op =>
    (w.runtime.step C runtimeGeneration w.shared op).map fun runtime => { w with runtime }
  | .business op =>
    (w.business.step D businessGeneration w.shared op).map fun business => { w with business }

def subscriptions (C : Channel E F) (D : Channel E G)
    (runtimeGeneration businessGeneration : ℕ) : System (World E F G) (Action E) where
  init w := ∃ capacity, w = .opened capacity
  step w a w' := step C D runtimeGeneration businessGeneration w a = some w'

end XelisWallet.NativeSubscription
