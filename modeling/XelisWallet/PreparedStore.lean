import XelisWallet.Checked

/-!
The single prepared-transaction slot of a wallet.

The slot is empty, ready with a transaction, or in flight while a submission owns the
transaction. Every transaction put in the slot carries the generation allocated for it; a
preparation in progress is remembered by its generation alone. The operations below are the
methods that run under the store lock: each returns its result and the store it leaves.
-/

namespace XelisWallet.PreparedStore

open Checked

inductive PreparedTransactionError
  | preparationInProgress
  | replacementDuringSubmission
  | cancellationDuringSubmission
  | alreadySubmitting
  | cannotDelete
  | notFound
  | generationOverflow
  | preparationStateInconsistent
  | cancellationStateInconsistent
  | submissionStateInconsistent
  | emptyGuard
  deriving DecidableEq, Repr

def PreparedTransactionError.nativeKind : PreparedTransactionError → String
  | .preparationInProgress => "PREPARED_TRANSACTION_PREPARATION_IN_PROGRESS"
  | .replacementDuringSubmission => "PREPARED_TRANSACTION_SUBMISSION_IN_PROGRESS"
  | .cancellationDuringSubmission => "PREPARED_TRANSACTION_CANCELLATION_IN_PROGRESS"
  | .alreadySubmitting => "PREPARED_TRANSACTION_ALREADY_SUBMITTING"
  | .cannotDelete | .notFound => "PREPARED_TRANSACTION_NOT_FOUND"
  | .generationOverflow => "PREPARED_TRANSACTION_GENERATION_OVERFLOW"
  | .preparationStateInconsistent => "PREPARED_TRANSACTION_PREPARATION_STATE_INCONSISTENT"
  | .cancellationStateInconsistent => "PREPARED_TRANSACTION_CANCELLATION_STATE_INCONSISTENT"
  | .submissionStateInconsistent => "PREPARED_TRANSACTION_SUBMISSION_STATE_INCONSISTENT"
  | .emptyGuard => "PREPARED_TRANSACTION_GUARD_EMPTY"

/-- The `Display` text of an error. -/
def PreparedTransactionError.toText : PreparedTransactionError → String
  | .preparationInProgress =>
      "Cannot replace a prepared transaction while another preparation is in progress"
  | .replacementDuringSubmission =>
      "Cannot replace a prepared transaction while another transaction is being submitted"
  | .cancellationDuringSubmission => "Cannot cancel a transaction while it is being submitted"
  | .alreadySubmitting => "Transaction is already being submitted"
  | .cannotDelete => "Cannot delete prepared transaction"
  | .notFound => "Cannot find prepared transaction"
  | .generationOverflow => "Prepared transaction generation overflow"
  | .preparationStateInconsistent => "Prepared transaction preparation state is inconsistent"
  | .cancellationStateInconsistent => "Prepared transaction state changed during cancellation"
  | .submissionStateInconsistent => "Prepared transaction submission state is inconsistent"
  | .emptyGuard => "Prepared transaction guard is empty"

abbrev PreparedResult (α : Type) := Except PreparedTransactionError α

/-- The slot, over transaction hashes `H` and stored transactions `T`. -/
inductive PreparedTransactionState (H T : Type)
  | empty
  | ready (generation : ℕ) (hash : H) (transaction : T)
  | inFlight (generation : ℕ) (hash : H)
  deriving DecidableEq, Repr

def PreparedTransactionState.isInFlight {H T : Type} : PreparedTransactionState H T → Bool
  | .inFlight _ _ => true
  | _ => false

structure PreparedTransactionStore (H T : Type) where
  state : PreparedTransactionState H T
  nextGeneration : ℕ
  activePreparation : Option ℕ
  deriving DecidableEq, Repr

/-- `PreparedTransactionStore::default`. -/
def PreparedTransactionStore.default {H T : Type} : PreparedTransactionStore H T :=
  ⟨.empty, 0, none⟩

namespace PreparedTransactionStore

variable {H T : Type} [DecidableEq H]

abbrev Store (H T : Type) := PreparedTransactionStore H T

def allocateGeneration (s : Store H T) : PreparedResult ℕ × Store H T :=
  match checkedAdd u64Max s.nextGeneration 1 with
  | none => (.error .generationOverflow, s)
  | some generation => (.ok generation, { s with nextGeneration := generation })

def ensureReplaceable (s : Store H T) : PreparedResult Unit :=
  if s.activePreparation.isSome then .error .preparationInProgress
  else if s.state.isInFlight then .error .replacementDuringSubmission
  else .ok ()

def ensureSlotOperationAvailable (s : Store H T) : PreparedResult Unit :=
  if s.activePreparation.isSome then .error .preparationInProgress else .ok ()

def ensureReadyExact (s : Store H T) (generation : ℕ) (hash : H) : PreparedResult Unit :=
  match s.ensureSlotOperationAvailable with
  | .error e => .error e
  | .ok () =>
    match s.state with
    | .ready g h _ => if g = generation ∧ h = hash then .ok () else .error .notFound
    | .inFlight g h =>
        if g = generation ∧ h = hash then .error .alreadySubmitting else .error .notFound
    | .empty => .error .notFound

def readyExact (s : Store H T) (generation : ℕ) (hash : H) : PreparedResult T :=
  match s.ensureReadyExact generation hash with
  | .error e => .error e
  | .ok () =>
    match s.state with
    | .ready _ _ transaction => .ok transaction
    | _ => .error .notFound

def replace (s : Store H T) (hash : H) (transaction : T) : PreparedResult ℕ × Store H T :=
  match s.ensureReplaceable with
  | .error e => (.error e, s)
  | .ok () =>
    match s.allocateGeneration with
    | (.error e, s) => (.error e, s)
    | (.ok generation, s) =>
        (.ok generation, { s with state := .ready generation hash transaction })

def beginPreparation (s : Store H T) : PreparedResult ℕ × Store H T :=
  match s.ensureReplaceable with
  | .error e => (.error e, s)
  | .ok () =>
    match s.allocateGeneration with
    | (.error e, s) => (.error e, s)
    | (.ok generation, s) => (.ok generation, { s with activePreparation := some generation })

def commitPreparation (s : Store H T) (generation : ℕ) (hash : H) (transaction : T) :
    PreparedResult Unit × Store H T :=
  if s.activePreparation ≠ some generation then (.error .preparationStateInconsistent, s)
  else if s.state.isInFlight then (.error .replacementDuringSubmission, s)
  else (.ok (), { s with state := .ready generation hash transaction, activePreparation := none })

/-- Whether the preparation was the active one, which is then forgotten. -/
def abandonPreparation (s : Store H T) (generation : ℕ) : Bool × Store H T :=
  if s.activePreparation = some generation then (true, { s with activePreparation := none })
  else (false, s)

/-- The end of both cancellations: `mem::take` of the state, put back unless it was ready. -/
def takeCancelled (s : Store H T) : PreparedResult T × Store H T :=
  match s.state with
  | .ready _ _ transaction => (.ok transaction, { s with state := .empty })
  | _ => (.error .cancellationStateInconsistent, s)

def cancel (s : Store H T) (hash : H) : PreparedResult T × Store H T :=
  match s.ensureSlotOperationAvailable with
  | .error e => (.error e, s)
  | .ok () =>
    match s.state with
    | .inFlight _ h =>
        if h = hash then (.error .cancellationDuringSubmission, s) else (.error .cannotDelete, s)
    | .ready _ h _ => if h = hash then s.takeCancelled else (.error .cannotDelete, s)
    | .empty => (.error .cannotDelete, s)

def cancelExact (s : Store H T) (generation : ℕ) (hash : H) : PreparedResult T × Store H T :=
  match s.ensureSlotOperationAvailable with
  | .error e => (.error e, s)
  | .ok () =>
    match s.state with
    | .inFlight g h =>
        if g = generation ∧ h = hash then (.error .cancellationDuringSubmission, s)
        else (.error .notFound, s)
    | .ready g h _ =>
        if g = generation ∧ h = hash then s.takeCancelled else (.error .notFound, s)
    | .empty => (.error .notFound, s)

def takeReadyForSubmission (s : Store H T) : PreparedResult (ℕ × T) × Store H T :=
  match s.state with
  | .ready generation hash transaction =>
      (.ok (generation, transaction), { s with state := .inFlight generation hash })
  | _ => (.error .submissionStateInconsistent, s)

def takeForSubmission (s : Store H T) (hash : H) : PreparedResult (ℕ × T) × Store H T :=
  match s.ensureSlotOperationAvailable with
  | .error e => (.error e, s)
  | .ok () =>
    match s.state with
    | .inFlight _ h =>
        if h = hash then (.error .alreadySubmitting, s) else (.error .notFound, s)
    | .ready _ h _ => if h = hash then s.takeReadyForSubmission else (.error .notFound, s)
    | .empty => (.error .notFound, s)

def takeForSubmissionExact (s : Store H T) (generation : ℕ) (hash : H) :
    PreparedResult T × Store H T :=
  match s.ensureSlotOperationAvailable with
  | .error e => (.error e, s)
  | .ok () =>
    match s.state with
    | .inFlight g h =>
        if g = generation ∧ h = hash then (.error .alreadySubmitting, s)
        else (.error .notFound, s)
    | .ready g h _ =>
        if g = generation ∧ h = hash then
          match s.takeReadyForSubmission with
          | (.error e, s) => (.error e, s)
          | (.ok (storedGeneration, transaction), s) =>
              if storedGeneration ≠ generation then (.error .submissionStateInconsistent, s)
              else (.ok transaction, s)
        else (.error .notFound, s)
    | .empty => (.error .notFound, s)

def restoreAfterSubmission (s : Store H T) (generation : ℕ) (hash : H) (transaction : T) :
    PreparedResult Unit × Store H T :=
  match s.state with
  | .inFlight g h =>
      if g = generation ∧ h = hash then
        (.ok (), { s with state := .ready generation hash transaction })
      else (.error .submissionStateInconsistent, s)
  | _ => (.error .submissionStateInconsistent, s)

def finishSubmission (s : Store H T) (generation : ℕ) (hash : H) : Bool × Store H T :=
  match s.state with
  | .inFlight g h =>
      if g = generation ∧ h = hash then (true, { s with state := .empty }) else (false, s)
  | _ => (false, s)

end PreparedTransactionStore

end XelisWallet.PreparedStore
