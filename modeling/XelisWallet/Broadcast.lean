import XelisWallet.PreparedGuards
import XelisWallet.Submission

/-!
The two ways to broadcast a prepared transaction, with any number of calls in progress.

A call is named by a number, which is also the variable of its submission guard. Its phases
are the points where its future can be suspended, and the points between two locks of the
store: at the former the future may be dropped, at the latter it may not. Whether the wallet
is online, what the storage reads and the submission return, and everything the other tasks
do to the store is up to the environment.
-/

namespace XelisWallet.Broadcast

open Runs PreparedStore PreparedGuards Submission
open ErrorClassification (WalletError)

/-- Which of the three storage reads of a broadcast failed. -/
inductive StorageRead
  | txVersion
  | syncedTopoheight
  | topBlockHash
  deriving DecidableEq, Repr

/-- The error a call returns. -/
inductive CallError
  | offline
  | storage (read : StorageRead)
  | invalidHash
  | prepared (error : PreparedTransactionError)
  deriving DecidableEq, Repr

/-- The native kind that `broadcast_prepared_transaction` reports. -/
def CallError.nativeKind : CallError → String
  | .offline => "NOT_ONLINE_MODE"
  | .storage .txVersion => "PREPARED_TRANSACTION_STORAGE_VERSION_READ_FAILED"
  | .storage .syncedTopoheight => "PREPARED_TRANSACTION_TOPOHEIGHT_READ_FAILED"
  | .storage .topBlockHash => "PREPARED_TRANSACTION_TOP_BLOCK_READ_FAILED"
  | .invalidHash => "PREPARED_TRANSACTION_HASH_INVALID"
  | .prepared error => error.nativeKind

/-- What becomes known to the caller; a dropped future tells nothing. -/
inductive Told
  | submitted
  | submittedNeedsResync
  | retryable (failure : WalletError)
  | rejected (failure : WalletError)
  | localFailure (failure : WalletError)
  | error (error : CallError)
  | dropped (resolved : Bool)

/-- `broadcast_prepared_transaction` or `broadcast_transaction`, with the hash parsed from
the text of its argument, if it parses. -/
inductive Path (H : Type)
  | exact (generation : ℕ) (hash : Option H)
  | byHash (hash : Option H)
  deriving DecidableEq, Repr

inductive Phase (H : Type)
  /-- Not called yet. -/
  | idle
  /-- Awaiting `is_online`. -/
  | online (path : Path H)
  /-- Awaiting the storage reads of `broadcast_transaction`, before the guard is taken. -/
  | storage (hash : Option H)
  /-- Awaiting the storage reads of `broadcast_prepared_transaction`, with the guard. -/
  | reading
  /-- Awaiting `submit_transaction`. -/
  | submitting
  /-- The submission resolved; no await until the guard is finished or restored. -/
  | resolved (resolution : SubmissionResolution)
  /-- Finishing the guard failed and the guard is about to be dropped. -/
  | unwinding (error : PreparedTransactionError)
  /-- Awaiting the storage, the guard is gone. -/
  | settling (resolution : SubmissionResolution)
  | done (told : Told)

/-- A call, with the slot before its first and after its last step on the store. -/
structure Call (H T : Type) where
  phase : Phase H
  before : PreparedTransactionState H T
  after : PreparedTransactionState H T

structure Wallet (H T : Type) where
  world : World H T
  calls : ℕ → Call H T
  /-- The generations whose `submit_transaction` returned success, newest first. -/
  accepted : List ℕ

variable {H T : Type} [DecidableEq H]

def Wallet.init : Wallet H T := ⟨.init, fun _ => ⟨.idle, .empty, .empty⟩, []⟩

namespace Wallet

variable (s : Wallet H T) (i : ℕ)

/-- The call goes on without touching the store. -/
def move (phase : Phase H) : Wallet H T :=
  { s with calls := Function.update s.calls i { s.calls i with phase } }

/-- The first step of the call on the store. -/
def first (world : World H T) (phase : Phase H) : Wallet H T :=
  { s with
    world
    calls := Function.update s.calls i ⟨phase, s.world.store.state, world.store.state⟩ }

/-- A later step of the call on the store. -/
def last (world : World H T) (phase : Phase H) : Wallet H T :=
  { s with
    world
    calls := Function.update s.calls i ⟨phase, (s.calls i).before, world.store.state⟩ }

/-- The `Drop` of the guard as the call ends. -/
def dropGuard (told : Told) : Option (Wallet H T) :=
  match PreparedGuards.step s.world (.dropSubmission i) with
  | some (world, _) => some (s.last i world (.done told))
  | none => none

/-- Borrow the transaction from the guard and submit it. -/
def submitGuarded : Option (Wallet H T) :=
  match s.world.submissions i with
  | none => none
  | some guard =>
    match guard.borrow with
    | .error e => s.dropGuard i (.error (.prepared e))
    | .ok _ => some (s.move i .submitting)

end Wallet

inductive Action (H T : Type)
  | start (i : ℕ) (path : Path H)
  | online (i : ℕ) (isOnline : Bool)
  | read (i : ℕ) (result : Except StorageRead Unit)
  | submit (i : ℕ) (result : Except WalletError Unit)
  | settle (i : ℕ)
  | unwind (i : ℕ)
  | complete (i : ℕ) (applied : Bool)
  | drop (i : ℕ)
  | other (op : Op H T)

/-- The submission guard an operation is about. Submission guards belong to the calls; the
other tasks use the operations without one. -/
def guardVar : Op H T → Option ℕ
  | .take i _ | .takeExact i _ _ | .restore i | .finish i | .dropSubmission i => some i
  | .replace _ _ | .begin _ | .commit _ _ _ | .dropPreparation _ | .cancel _
  | .cancelExact _ _ => none

def startStep (s : Wallet H T) (i : ℕ) (path : Path H) : Option (Wallet H T) :=
  match (s.calls i).phase, path with
  | .idle, .exact _ none => some (s.first i s.world (.done (.error .invalidHash)))
  | .idle, path => some (s.move i (.online path))
  | _, _ => none

/-- `is_online` returned: the offline outcomes, or the guard of the exact path. -/
def onlineStep (s : Wallet H T) (i : ℕ) (isOnline : Bool) : Option (Wallet H T) :=
  match (s.calls i).phase with
  | .online (.byHash hash) =>
      if isOnline then some (s.move i (.storage hash))
      else some (s.first i s.world (.done (.error .offline)))
  | .online (.exact generation (some hash)) =>
      if isOnline then
        match PreparedGuards.step s.world (.takeExact i generation hash) with
        | some (world, .unit (.ok ())) => some (s.first i world .reading)
        | some (world, .unit (.error e)) =>
            some (s.first i world (.done (.error (.prepared e))))
        | _ => none
      else
        match s.world.store.ensureReadyExact generation hash with
        | .error e => some (s.first i s.world (.done (.error (.prepared e))))
        | .ok () => some (s.first i s.world (.done (.retryable .notOnlineMode)))
  | _ => none

/-- The storage reads returned: the submission, after the guard on the by-hash path. -/
def readStep (s : Wallet H T) (i : ℕ) (result : Except StorageRead Unit) :
    Option (Wallet H T) :=
  match (s.calls i).phase, result with
  | .storage _, .error read => some (s.first i s.world (.done (.error (.storage read))))
  | .storage none, .ok () => some (s.first i s.world (.done (.error .invalidHash)))
  | .storage (some hash), .ok () =>
    match PreparedGuards.step s.world (.take i hash) with
    | some (world, .unit (.ok ())) => (s.first i world .reading).submitGuarded i
    | some (world, .unit (.error e)) => some (s.first i world (.done (.error (.prepared e))))
    | _ => none
  | .reading, .error read => s.dropGuard i (.error (.storage read))
  | .reading, .ok () => s.submitGuarded i
  | _, _ => none

/-- The generation a successful submission is counted for. -/
def acceptedBy (s : Wallet H T) (i : ℕ) : Except WalletError Unit → List ℕ
  | .ok () => ((s.world.submissions i).map SubmissionGuard.generation).toList
  | .error _ => []

def submitStep (s : Wallet H T) (i : ℕ) (result : Except WalletError Unit) :
    Option (Wallet H T) :=
  match (s.calls i).phase with
  | .submitting =>
      some { s.move i (.resolved (resolveSubmission result)) with
        accepted := acceptedBy s i result ++ s.accepted }
  | _ => none

/-- The guard is restored for a retryable failure and finished otherwise. -/
def settleStep (s : Wallet H T) (i : ℕ) : Option (Wallet H T) :=
  match (s.calls i).phase with
  | .resolved (.retryable error) =>
    match PreparedGuards.step s.world (.restore i) with
    | some (world, .unit (.ok ())) => some (s.last i world (.settling (.retryable error)))
    | some (world, .unit (.error e)) => some (s.last i world (.done (.error (.prepared e))))
    | _ => none
  | .resolved resolution =>
    match PreparedGuards.step s.world (.finish i) with
    | some (world, .transaction (.ok _)) => some (s.last i world (.settling resolution))
    | some (world, .transaction (.error e)) => some (s.last i world (.unwinding e))
    | _ => none
  | _ => none

def unwindStep (s : Wallet H T) (i : ℕ) : Option (Wallet H T) :=
  match (s.calls i).phase with
  | .unwinding e =>
    match s.world.submissions i with
    | none => some (s.move i (.done (.error (.prepared e))))
    | some _ => s.dropGuard i (.error (.prepared e))
  | _ => none

/-- What the caller is told at the end; `applied` is whether `apply_changes` succeeded. -/
def toldOf (applied : Bool) : SubmissionResolution → Told
  | .submitted => if applied then .submitted else .submittedNeedsResync
  | .retryable error => .retryable error
  | .daemonRejected error => .rejected error
  | .localFailure error => .localFailure error

def completeStep (s : Wallet H T) (i : ℕ) (applied : Bool) : Option (Wallet H T) :=
  match (s.calls i).phase with
  | .settling resolution => some (s.move i (.done (toldOf applied resolution)))
  | _ => none

/-- The future is dropped at one of its awaits. -/
def dropStep (s : Wallet H T) (i : ℕ) : Option (Wallet H T) :=
  match (s.calls i).phase with
  | .online _ | .storage _ => some (s.first i s.world (.done (.dropped false)))
  | .reading | .submitting => s.dropGuard i (.dropped false)
  | .settling _ => some (s.move i (.done (.dropped true)))
  | _ => none

def otherStep (s : Wallet H T) (op : Op H T) : Option (Wallet H T) :=
  if (guardVar op).isNone then
    match PreparedGuards.step s.world op with
    | some (world, _) => some { s with world }
    | none => none
  else none

def step (s : Wallet H T) : Action H T → Option (Wallet H T)
  | .start i path => startStep s i path
  | .online i isOnline => onlineStep s i isOnline
  | .read i result => readStep s i result
  | .submit i result => submitStep s i result
  | .settle i => settleStep s i
  | .unwind i => unwindStep s i
  | .complete i applied => completeStep s i applied
  | .drop i => dropStep s i
  | .other op => otherStep s op

/-- Any number of broadcasts and of other tasks on one store. -/
def broadcasts (H T : Type) [DecidableEq H] : System (Wallet H T) (Action H T) where
  init s := s = Wallet.init
  step s a s' := step s a = some s'

end XelisWallet.Broadcast
