import Mathlib.Logic.Function.Basic
import XelisWallet.ErrorClassification
import XelisWallet.Runs
import XelisWallet.Sync

/-!
The connection handshake of a wallet: `online_mode` with its worker, `offline_mode`, `close`, and
the drop of the wallet.

A call of `online_mode` is named by a number, and so are its attempt and the daemon API that its
worker makes; the caller has that API from the worker's result. A program counter stands at every
await and between any two accesses to what tasks share; what the daemon and the upstream wallet
answer is up to the environment. The upstream wallet is its network handler:
`set_online_mode_with_api` installs one if it succeeds, `set_offline_mode` and `close` remove it,
whatever they return.
-/

namespace XelisWallet.Connection

open Runs Sync
open NativeError (NativeXelisErrorCode)
open ErrorClassification (WalletError)

/-! ### Errors -/

inductive ConnectionError
  | timeoutInvalid
  | addressInvalid
  | inProgress
  | cancelled
  | timeout
  | workerFailed
  | connectFailed
  | infoFailed
  | wallet (error : WalletError)

/-- The code, the native kind and the message of the errors made here. -/
def ConnectionError.native : ConnectionError → Option (NativeXelisErrorCode × String × String)
  | .timeoutInvalid =>
    some (.invalidInput, "NETWORK_TIMEOUT_INVALID", "Connection timeout must be positive")
  | .addressInvalid =>
    some (.invalidInput, "DAEMON_ADDRESS_INVALID", "Daemon address must be an HTTP or WebSocket " ++
      "origin, or host[:port], without credentials, path, query, or fragment")
  | .inProgress => some (.operationInProgress, "NETWORK_CONNECT_IN_PROGRESS",
      "A native wallet connection attempt is already in progress")
  | .cancelled => some (.cancelled, "NETWORK_CONNECT_CANCELLED",
      "Native wallet connection was cancelled before activation")
  | .timeout => some (.network, "NETWORK_CONNECT_TIMEOUT",
      "Native wallet connection exceeded its configured caller limit")
  | .workerFailed => some (.internal, "NETWORK_CONNECT_WORKER_FAILED",
      "Native wallet connection worker stopped before acknowledgement")
  | .connectFailed | .infoFailed | .wallet _ => none

/-- Disconnecting what is not connected, or what failed before, is no error. -/
def normalizeOfflineModeResult : Except WalletError Unit → Except WalletError Unit
  | .ok () | .error .notOnlineMode | .error (.networkError .notRunning)
  | .error (.networkError (.daemonAPIError _)) => .ok ()
  | .error e => .error e

/-! ### Attempts -/

inductive Task
  | caller (i : ℕ)
  | worker (i : ℕ)
  | canceller (k : ℕ)
  deriving DecidableEq, Repr

/-- A `WalletConnectionAttempt`. -/
structure Attempt where
  cancelled : Bool
  completed : Bool
  activation : Lock Task
  apiLock : Lock Task
  api : Option ℕ
  completion : Notify
  deriving DecidableEq, Repr

def Attempt.new : Attempt := ⟨false, false, .free, .free, none, ⟨0⟩⟩

/-- Where `wait_completed` stands: at its first check, at the making of the future, at the second
check, at the await. -/
inductive WaitPc
  | check
  | subscribe
  | recheck (seen : ℕ)
  | parked (seen : ℕ)
  deriving DecidableEq, Repr

/-- One step of `wait_completed`; it returns, goes on, or is suspended. -/
def Attempt.waitCompleted (a : Attempt) : WaitPc → Option (Option WaitPc)
  | .check => some (if a.completed then none else some .subscribe)
  | .subscribe => some (some (.recheck a.completion.notified))
  | .recheck seen => some (if a.completed then none else some (.parked seen))
  | .parked seen => if a.completion.wakes seen then some (some .check) else none

/-- Where the drop of a `ConnectionAttemptGuard` stands: at the two steps of `complete`, at the
release of the current attempt. -/
inductive DropPc
  | store
  | notify
  | release
  deriving DecidableEq, Repr

/-- Where `cancel_connection_attempt` stands, with the attempt that it found. -/
inductive CancelPc
  /-- At `cancel_current`, before its lock. -/
  | start
  | flag (a : ℕ)
  /-- For the lock of the API. -/
  | api (a : ℕ)
  | disconnect (a : ℕ)
  /-- For the activation lock. -/
  | barrier (a : ℕ)
  | lift (a : ℕ)
  | wait (a : ℕ) (p : WaitPc)
  deriving DecidableEq, Repr

/-! ### Calls -/

/-- Why a caller waits for the completion of its attempt. -/
inductive WaitFor
  | aborted
  | finalized
  deriving DecidableEq, Repr

/-- Where a call of `online_mode` stands. -/
inductive Caller
  | idle
  /-- At `is_online`, with the guard. -/
  | probe
  /-- For the lock of the active connection. -/
  | stale
  /-- At the disconnection of a stale connection, with the lock. -/
  | cleaning
  | cleaned (result : Except WalletError Unit)
  | check
  /-- At an early return, which drops the guard. -/
  | leaving (p : DropPc) (error : ConnectionError)
  /-- For the result of the worker or the timeout. -/
  | await
  | accepting (api : ℕ)
  | checkAccepted (api : ℕ)
  /-- For the lock of the active connection, to record the new one. -/
  | lockActive (api : ℕ)
  | checkLocked (api : ℕ)
  | record (api : ℕ)
  | finalize
  | unlock
  | abortLocked
  | abort
  | wait (reason : WaitFor) (p : WaitPc)
  | checkFinal
  /-- In `complete_connection_timeout`. -/
  | dropAccepted
  | dropFinalized
  | cancelling (p : CancelPc)
  | returned

/-- Where the worker of a call stands: in `connect_wallet` up to `unlock` or `unlockErr`, then in
its own branches. -/
inductive Worker
  | idle
  | connect
  /-- For the lock of the API. -/
  | publish
  | checkPublished
  | info
  | checkInfo
  /-- For the activation lock. -/
  | lock
  | checkLocked
  | install
  | checkInstalled
  | rollbackLocked
  | unlockErr (error : ConnectionError)
  | unlock
  | deliver
  | awaitAccepted
  | awaitFinalized
  | decide (finalized : Bool)
  | rollback
  | dropOk (p : DropPc)
  | dropErr (p : DropPc) (error : ConnectionError)
  | sendErr (error : ConnectionError)
  | done

/-- What happened to a call. -/
inductive Event
  | installed (api : ℕ)
  | rolledBack
  | recorded (api : ℕ)
  | finalized
  /-- The caller stopped waiting: it timed out or saw the cancellation before it finalized. -/
  | gaveUp
  | completed (cancelled : Bool)
  | returned (result : Except ConnectionError Unit)

/-- A call of `online_mode`, its worker, and what the two share. -/
structure Call where
  caller : Caller
  worker : Worker
  attempt : Attempt
  result : Oneshot (Except ConnectionError ℕ)
  accepted : Oneshot Unit
  finalized : Oneshot Unit
  history : List Event

/-- What the calls share. -/
structure Shared where
  current : Option ℕ
  closed : Bool
  active : Option ℕ
  activeLock : Lock Task
  handler : Option ℕ

namespace Call

def new : Call := ⟨.idle, .idle, .new, .new, .new, .new, []⟩

def record (e : Event) (c : Call) : Call := { c with history := c.history ++ [e] }

def returns (r : Except ConnectionError Unit) (c : Call) : Call :=
  { c.record (.returned r) with caller := .returned }

/-- One step of the drop of the guard, and where it goes on. -/
def dropGuard (i : ℕ) (s : Shared) (c : Call) : DropPc → Shared × Call × Option DropPc
  | .store =>
    (s, { c.record (.completed c.attempt.cancelled) with
      attempt := { c.attempt with completed := true } }, some .notify)
  | .notify =>
    (s, { c with attempt := { c.attempt with
      completion := c.attempt.completion.notifyWaiters } }, some .release)
  | .release => ({ s with current := if s.current = some i then none else s.current }, c, none)

/-- A caller that returns drops its ends of the channels. -/
def dropChannels (c : Call) : Call := { c with
  result := c.result.dropReceiver
  accepted := c.accepted.dropSender
  finalized := c.finalized.dropSender }

/-- The worker drops its ends of the acknowledgements. -/
def dropReceivers (c : Call) : Call := { c with
  accepted := c.accepted.dropReceiver
  finalized := c.finalized.dropReceiver }

/-- `ConnectionAttemptGuard::acquire`. -/
def acquire (i : ℕ) (s : Shared) : Except ConnectionError Shared :=
  if s.closed then .error .cancelled
  else if s.current.isSome then .error .inProgress
  else .ok { s with current := some i }

/-- What a caller is told from outside. -/
inductive CallerInput
  | start (timeoutMillis : ℕ)
  | online (isOnline : Bool)
  | offlined (result : Except WalletError Unit)
  | timeout
  | go

/-- One step of `online_mode`, but for its cancellation. -/
def onlineMode (i : ℕ) (s : Shared) (c : Call) (input : CallerInput) : Option (Shared × Call) :=
  match c.caller, input with
  | .idle, .start timeoutMillis =>
    if timeoutMillis = 0 then some (s, c.returns (.error .timeoutInvalid))
    else
      match acquire i s with
      | .error e => some (s, c.returns (.error e))
      | .ok s' => some (s', { c with caller := .probe, attempt := .new })
  | .probe, .online isOnline =>
    some (s, { c with
      caller := if isOnline then .leaving .store (.wallet .alreadyOnlineMode) else .stale })
  | .stale, .go =>
    if s.activeLock.isFree then
      match s.active with
      | none => some (s, { c with caller := .check })
      -- The lock is a temporary of the `if let` and lives through its body.
      | some _ => some ({ s with active := none, activeLock := .taken (.caller i) },
          { c with caller := .cleaning })
    else none
  | .cleaning, .offlined result =>
    some ({ s with handler := none },
      { c with caller := .cleaned (normalizeOfflineModeResult result) })
  | .cleaned result, .go =>
    some ({ s with activeLock := .free }, { c with
      caller := match result with
        | .ok () => .check
        | .error e => .leaving .store (.wallet e) })
  | .check, .go =>
    if c.attempt.cancelled then some (s, { c with caller := .leaving .store .cancelled })
    else some (s, { c with
      caller := .await
      worker := .connect
      result := .new
      accepted := .new
      finalized := .new })
  | .leaving p e, .go =>
    match dropGuard i s c p with
    | (s', c', some p') => some (s', { c' with caller := .leaving p' e })
    | (s', c', none) => some (s', c'.returns (.error e))
  | .await, .go =>
    match c.result.poll with
    | .pending => none
    | .ready (.ok api) => some (s, { c with
        caller := .accepting api
        result := c.result.dropReceiver })
    | .ready (.error e) => some (s, c.dropChannels.returns (.error e))
    | .closed => some (s, c.dropChannels.returns (.error .workerFailed))
  | .await, .timeout =>
    some (s, { c.record .gaveUp with
      caller := .dropAccepted
      result := c.result.dropReceiver })
  | .accepting api, .go =>
    match c.accepted.send () with
    | (accepted, true) => some (s, { c with caller := .checkAccepted api, accepted := accepted })
    | (accepted, false) =>
      some (s, { c with accepted := accepted }.dropChannels.returns (.error .workerFailed))
  | .checkAccepted api, .go =>
    if c.attempt.cancelled then some (s, { c.record .gaveUp with caller := .abort })
    else some (s, { c with caller := .lockActive api })
  | .lockActive api, .go =>
    if s.activeLock.isFree then
      some ({ s with activeLock := .taken (.caller i) }, { c with caller := .checkLocked api })
    else none
  | .checkLocked api, .go =>
    if c.attempt.cancelled then some (s, { c.record .gaveUp with caller := .abortLocked })
    else some (s, { c with caller := .record api })
  | .record api, .go =>
    some ({ s with active := some api }, { c.record (.recorded api) with caller := .finalize })
  | .finalize, .go =>
    match c.finalized.send () with
    | (finalized, true) =>
      some (s, { c.record .finalized with caller := .unlock, finalized := finalized })
    | (finalized, false) =>
      some ({ s with activeLock := .free },
        { c with finalized := finalized }.dropChannels.returns (.error .workerFailed))
  | .unlock, .go =>
    some ({ s with activeLock := .free }, { c with caller := .wait .finalized .check })
  | .abortLocked, .go => some ({ s with activeLock := .free }, { c with caller := .abort })
  | .abort, .go => some (s, { c with
      caller := .wait .aborted .check
      finalized := c.finalized.dropSender })
  | .wait reason p, .go =>
    match c.attempt.waitCompleted p, reason with
    | none, _ => none
    | some (some p'), _ => some (s, { c with caller := .wait reason p' })
    | some none, .aborted => some (s, c.returns (.error .cancelled))
    | some none, .finalized => some (s, { c with caller := .checkFinal })
  | .checkFinal, .go =>
    some (s, c.returns (if c.attempt.cancelled then .error .cancelled else .ok ()))
  | .dropAccepted, .go => some (s, { c with
      caller := .dropFinalized
      accepted := c.accepted.dropSender })
  | .dropFinalized, .go => some (s, { c with
      caller := .cancelling .start
      finalized := c.finalized.dropSender })
  | _, _ => none

/-- What a worker is told from outside. -/
inductive WorkerInput
  | connected (result : Except ConnectionError Unit)
  | info (result : Except ConnectionError Unit)
  | online (result : Except WalletError Unit)
  | go

/-- One step of the worker: `connect_wallet`, then the handshake. -/
def work (i : ℕ) (s : Shared) (c : Call) (input : WorkerInput) : Option (Shared × Call) :=
  match c.worker, input with
  | .connect, .connected result =>
    some (s, { c with
      worker := match result with
        | .ok () => .publish
        | .error e => .dropErr .store e })
  | .publish, .go =>
    if c.attempt.apiLock.isFree then
      some (s, { c with worker := .checkPublished, attempt := { c.attempt with api := some i } })
    else none
  | .checkPublished, .go =>
    some (s, { c with
      worker := if c.attempt.cancelled then .dropErr .store .cancelled else .info })
  | .info, .info result =>
    some (s, { c with
      worker := match result with
        | .ok () => .checkInfo
        | .error e => .dropErr .store e })
  | .checkInfo, .go =>
    some (s, { c with
      worker := if c.attempt.cancelled then .dropErr .store .cancelled else .lock })
  | .lock, .go =>
    if c.attempt.activation.isFree then
      some (s, { c with
        worker := .checkLocked
        attempt := { c.attempt with activation := .taken (.worker i) } })
    else none
  | .checkLocked, .go =>
    some (s, { c with worker := if c.attempt.cancelled then .unlockErr .cancelled else .install })
  | .install, .online (.ok ()) =>
    some ({ s with handler := some i }, { c.record (.installed i) with worker := .checkInstalled })
  | .install, .online (.error e) => some (s, { c with worker := .unlockErr (.wallet e) })
  | .checkInstalled, .go =>
    some (s, { c with worker := if c.attempt.cancelled then .rollbackLocked else .unlock })
  | .rollbackLocked, .go =>
    some ({ s with handler := none },
      { c.record .rolledBack with worker := .unlockErr .cancelled })
  | .unlockErr e, .go =>
    some (s, { c with
      worker := .dropErr .store e
      attempt := { c.attempt with activation := .free } })
  | .unlock, .go =>
    some (s, { c with
      worker := .deliver
      attempt := { c.attempt with activation := .free } })
  | .deliver, .go =>
    match c.result.send (.ok i) with
    | (result, true) => some (s, { c with worker := .awaitAccepted, result := result })
    | (result, false) => some (s, { c with worker := .decide false, result := result })
  | .awaitAccepted, .go =>
    match c.accepted.poll with
    | .pending => none
    | .ready () => some (s, { c with
        worker := .awaitFinalized
        accepted := c.accepted.dropReceiver })
    | .closed => some (s, { c.dropReceivers with worker := .decide false })
  | .awaitFinalized, .go =>
    match c.finalized.poll with
    | .pending => none
    | .ready () => some (s, { c.dropReceivers with worker := .decide true })
    | .closed => some (s, { c.dropReceivers with worker := .decide false })
  | .decide finalized, .go =>
    some (s, { c with
      worker := if !finalized || c.attempt.cancelled then .rollback else .dropOk .store })
  | .rollback, .go =>
    some ({ s with handler := none }, { c.record .rolledBack with worker := .dropOk .store })
  | .dropOk p, .go =>
    match dropGuard i s c p with
    | (s', c', some p') => some (s', { c' with worker := .dropOk p' })
    | (s', c', none) => some (s', { c'.dropReceivers with worker := .done })
  | .dropErr p e, .go =>
    match dropGuard i s c p with
    | (s', c', some p') => some (s', { c' with worker := .dropErr p' e })
    | (s', c', none) => some (s', { c' with worker := .sendErr e })
  | .sendErr e, .go =>
    some (s, { c.dropReceivers with worker := .done, result := (c.result.send (.error e)).1 })
  | _, _ => none

end Call

/-! ### The wallet -/

/-- Where a call of `offline_mode` or `close` stands. -/
inductive CancellerPc
  | idle
  | cancelling (p : CancelPc)
  /-- For the lock of the active connection. -/
  | take
  /-- At the upstream `set_offline_mode` or `close`, with what was active. -/
  | shut (active : Option ℕ)
  | returned (result : Except WalletError Unit)

/-- A call of `close`, if it is terminal, or of `offline_mode`. -/
structure Canceller where
  terminal : Bool
  pc : CancellerPc

structure Wallet where
  shared : Shared
  calls : ℕ → Call
  cancellers : ℕ → Canceller
  /-- What the drop of the wallet found and has not cancelled yet. -/
  dropping : Option ℕ

inductive CancellerInput
  | start (terminal : Bool)
  | offlined (result : Except WalletError Unit)
  | go

inductive Action
  | caller (i : ℕ) (input : Call.CallerInput)
  | worker (i : ℕ) (input : Call.WorkerInput)
  | canceller (k : ℕ) (input : CancellerInput)
  | drop

namespace Wallet

/-- A new wallet is offline. -/
def initial : Wallet :=
  ⟨⟨none, false, none, .free, none⟩, fun _ => .new, fun _ => ⟨false, .idle⟩, none⟩

def setCall (w : Wallet) (i : ℕ) (s : Shared) (c : Call) : Wallet :=
  { w with shared := s, calls := Function.update w.calls i c }

def setAttempt (w : Wallet) (i : ℕ) (a : Attempt) : Wallet :=
  w.setCall i w.shared { w.calls i with attempt := a }

def setCanceller (w : Wallet) (k : ℕ) (p : CancellerPc) : Wallet :=
  { w with cancellers := Function.update w.cancellers k { w.cancellers k with pc := p } }

/-- One step of `cancel_connection_attempt`; without a next place it returned. -/
def cancelConnectionAttempt (w : Wallet) (t : Task) (terminal : Bool) :
    CancelPc → Option (Wallet × Option CancelPc)
  | .start =>
    some ({ w with shared := { w.shared with closed := w.shared.closed || terminal } },
      w.shared.current.map .flag)
  | .flag a => some (w.setAttempt a { (w.calls a).attempt with cancelled := true }, some (.api a))
  | .api a =>
    if (w.calls a).attempt.apiLock.isFree then
      match (w.calls a).attempt.api with
      | none => some (w, some (.barrier a))
      | some _ => some (w.setAttempt a { (w.calls a).attempt with apiLock := .taken t },
          some (.disconnect a))
    else none
  | .disconnect a =>
    some (w.setAttempt a { (w.calls a).attempt with apiLock := .free }, some (.barrier a))
  | .barrier a =>
    if (w.calls a).attempt.activation.isFree then
      some (w.setAttempt a { (w.calls a).attempt with activation := .taken t }, some (.lift a))
    else none
  | .lift a =>
    some (w.setAttempt a { (w.calls a).attempt with activation := .free }, some (.wait a .check))
  | .wait a p => ((w.calls a).attempt.waitCompleted p).map fun p' => (w, p'.map (.wait a))

/-- One step of the caller of `online_mode`; a timeout cancels what is current. -/
def stepCaller (w : Wallet) (i : ℕ) (input : Call.CallerInput) : Option Wallet :=
  match (w.calls i).caller, input with
  | .cancelling p, .go =>
    match w.cancelConnectionAttempt (.caller i) false p with
    | none => none
    | some (w', some p') =>
      some (w'.setCall i w'.shared { w'.calls i with caller := .cancelling p' })
    | some (w', none) => some (w'.setCall i w'.shared ((w'.calls i).returns (.error .timeout)))
  | _, _ => ((w.calls i).onlineMode i w.shared input).map fun r => w.setCall i r.1 r.2

/-- One step of `offline_mode` or `close`. -/
def stepCanceller (w : Wallet) (k : ℕ) (input : CancellerInput) : Option Wallet :=
  match (w.cancellers k).pc, input with
  | .idle, .start terminal =>
    some { w with cancellers := Function.update w.cancellers k ⟨terminal, .cancelling .start⟩ }
  | .cancelling p, .go =>
    match w.cancelConnectionAttempt (.canceller k) (w.cancellers k).terminal p with
    | none => none
    | some (w', some p') => some (w'.setCanceller k (.cancelling p'))
    | some (w', none) => some (w'.setCanceller k .take)
  | .take, .go =>
    if w.shared.activeLock.isFree then
      some ({ w with shared := { w.shared with active := none } }.setCanceller k
        (.shut w.shared.active))
    else none
  | .shut _, .offlined result =>
    some ({ w with shared := { w.shared with handler := none } }.setCanceller k (.returned
      (if (w.cancellers k).terminal then .ok () else normalizeOfflineModeResult result)))
  | _, _ => none

/-- One step of `Drop for XelisWallet`, which is `cancel_current` alone. -/
def stepDrop (w : Wallet) : Wallet :=
  match w.dropping with
  | none => { w with shared := { w.shared with closed := true }, dropping := w.shared.current }
  | some a =>
    { w.setAttempt a { (w.calls a).attempt with cancelled := true } with dropping := none }

def step (w : Wallet) : Action → Option Wallet
  | .caller i input => w.stepCaller i input
  | .worker i input => ((w.calls i).work i w.shared input).map fun r => w.setCall i r.1 r.2
  | .canceller k input => w.stepCanceller k input
  | .drop => some w.stepDrop

end Wallet

/-- Any number of calls on one wallet, in any order. -/
def wallets : System Wallet Action where
  init w := w = .initial
  step w act w' := w.step act = some w'

lemma reachable_initial : Reachable wallets .initial := .of_init rfl

end XelisWallet.Connection
