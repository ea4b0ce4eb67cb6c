import XelisWallet.Checked

/-!
The registry of XSWD sessions: numbers handed to the application in place of its state.

The registry is generic in the pointers it holds. A pointer is compared like a `Weak`, by
identity, and `alive` tells whether its strong count is positive. The map is a list of its
entries, in the arbitrary order in which a hash map is iterated. The counter is shared by all
registries of the process, so it is passed in and returned.
-/

namespace XelisWallet.Registry

open Checked

inductive SessionReferenceError
  | exhausted
  | invalid
  deriving DecidableEq, Repr

def SessionReferenceError.code : SessionReferenceError → String
  | .exhausted => "XSWD_SESSION_REFERENCE_EXHAUSTED"
  | .invalid => "XSWD_SESSION_REFERENCE_INVALID"

/-- The first value of `NEXT_XSWD_SESSION_REFERENCE`. -/
def firstReference : ℕ := 1

/-- `fetch_update` of the counter: the old value is the reference, `checked_add` the new one. -/
def fetchNext (next : ℕ) : Option ℕ := checkedAdd u64Max next 1

structure SessionEntry (α : Type) where
  state : α
  active : Bool
  deriving DecidableEq, Repr

structure SessionRegistry (α : Type) where
  sessions : List (ℕ × SessionEntry α)
  deriving DecidableEq, Repr

namespace SessionRegistry

variable {α : Type} [DecidableEq α]

def default : SessionRegistry α := ⟨[]⟩

/-- `HashMap::insert`, which replaces an entry of the same key. -/
def insert (reg : SessionRegistry α) (r : ℕ) (entry : SessionEntry α) : SessionRegistry α :=
  ⟨(r, entry) :: reg.sessions.filter (fun p => p.1 ≠ r)⟩

/-- `HashMap::get`. -/
def get (reg : SessionRegistry α) (r : ℕ) : Option (SessionEntry α) :=
  (reg.sessions.find? (fun p => p.1 = r)).map (·.2)

def removeDead (reg : SessionRegistry α) (alive : α → Bool) : SessionRegistry α :=
  ⟨reg.sessions.filter (fun p => alive p.2.state)⟩

/-- Whether an entry holds this very pointer, `Weak::ptr_eq`. -/
def holds (state : α) (p : ℕ × SessionEntry α) : Bool := p.2.state = state

def project (reg : SessionRegistry α) (alive : α → Bool) (next : ℕ) (state : α) :
    Except SessionReferenceError ℕ × SessionRegistry α × ℕ :=
  let reg := reg.removeDead alive
  match reg.sessions.find? (holds state) with
  | some (r, _) => (.ok r, reg, next)
  | none =>
    match fetchNext next with
    | none => (.error .exhausted, reg, next)
    | some next' => (.ok next, reg.insert next ⟨state, true⟩, next')

def register (reg : SessionRegistry α) (alive : α → Bool) (next : ℕ) (state : α) :
    Except SessionReferenceError ℕ × SessionRegistry α × ℕ :=
  match reg.project alive next state with
  | (.error e, reg, next) => (.error e, reg, next)
  | (.ok r, reg, next) =>
    match reg.get r with
    | some entry => (if entry.active then .ok r else .error .invalid, reg, next)
    -- the source indexes the map here; `project` returns a key of it
    | none => (.error .invalid, reg, next)

/-- The pointers that are dead by the time of the upgrade may be more than those of the
sweep before it. -/
def resolve (reg : SessionRegistry α) (alive aliveLater : α → Bool) (r : ℕ) :
    Option α × SessionRegistry α :=
  let reg := reg.removeDead alive
  ((((reg.get r).filter (·.active)).map (·.state)).filter aliveLater, reg)

/-- Deactivate the entries that satisfy a condition, as the loops over `values_mut` do. -/
def deactivate (reg : SessionRegistry α) (p : α → Bool) : SessionRegistry α :=
  ⟨reg.sessions.map fun q => if p q.2.state then (q.1, { q.2 with active := false }) else q⟩

def invalidateState (reg : SessionRegistry α) (alive : α → Bool) (next : ℕ) (state : α) :
    SessionRegistry α × ℕ :=
  let reg := reg.removeDead alive
  if reg.sessions.any (holds state) then (reg.deactivate (· = state), next)
  else
    match fetchNext next with
    | none => (reg, next)
    | some next' => (reg.insert next ⟨state, false⟩, next')

def clear (reg : SessionRegistry α) (alive : α → Bool) : SessionRegistry α :=
  (reg.removeDead alive).deactivate fun _ => true

end SessionRegistry

end XelisWallet.Registry
