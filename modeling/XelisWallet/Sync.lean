import Mathlib.Tactic.Common

/-!
The asynchronous primitives of the runtime: locks, one-shot channels and notifications.

Each is a value with the operations that one task makes on it. A task that waits is suspended
until its operation can be made; who of several waiting tasks goes first is left open.
-/

namespace XelisWallet.Sync

/-! ### Locks -/

/-- A lock, by its holder. -/
structure Lock (τ : Type) where
  holder : Option τ
  deriving DecidableEq, Repr

namespace Lock

variable {τ : Type}

def free : Lock τ := ⟨none⟩

def isFree (l : Lock τ) : Bool := l.holder.isNone

def taken (t : τ) : Lock τ := ⟨some t⟩

@[simp] lemma isFree_free : (free : Lock τ).isFree = true := rfl

@[simp] lemma isFree_taken (t : τ) : (taken t).isFree = false := rfl

lemma isFree_or_holder (l : Lock τ) : l.isFree = true ∨ ∃ t, l.holder = some t := by
  cases h : l.holder with
  | none => exact .inl (by simp [isFree, h])
  | some t => exact .inr ⟨t, rfl⟩

end Lock

/-! ### One-shot channels -/

/-- A one-shot channel: the value sent, and which of its ends are still there. -/
structure Oneshot (α : Type) where
  value : Option α
  sender : Bool
  receiver : Bool
  deriving DecidableEq, Repr

/-- What a receiver sees. -/
inductive Poll (α : Type)
  | pending
  | ready (value : α)
  | closed
  deriving DecidableEq, Repr

namespace Oneshot

variable {α : Type}

def new : Oneshot α := ⟨none, true, true⟩

/-- Sending uses the sender up; it fails if the receiver is gone. -/
def send (v : α) (c : Oneshot α) : Oneshot α × Bool :=
  if c.receiver then ({ c with value := some v, sender := false }, true)
  else ({ c with sender := false }, false)

def dropSender (c : Oneshot α) : Oneshot α := { c with sender := false }

def dropReceiver (c : Oneshot α) : Oneshot α := { c with receiver := false }

def poll (c : Oneshot α) : Poll α :=
  match c.value with
  | some v => .ready v
  | none => if c.sender then .pending else .closed

lemma poll_eq_ready {c : Oneshot α} {v : α} : c.poll = .ready v ↔ c.value = some v := by
  unfold poll
  split
  · next v' h => simp [h]
  · next h => split <;> simp [h]

lemma poll_eq_closed {c : Oneshot α} : c.poll = .closed ↔ c.value = none ∧ c.sender = false := by
  unfold poll
  split
  · next v h => simp [h]
  · next h => split <;> simp_all

lemma poll_eq_pending {c : Oneshot α} : c.poll = .pending ↔ c.value = none ∧ c.sender = true := by
  unfold poll
  split
  · next v h => simp [h]
  · next h => split <;> simp_all

lemma send_eq_true {c c' : Oneshot α} {v : α} (h : c.send v = (c', true)) :
    c.receiver = true ∧ c' = { c with value := some v, sender := false } := by
  unfold send at h
  split at h
  · next hr => exact ⟨hr, (congrArg Prod.fst h).symm⟩
  · cases h

lemma send_eq_false {c c' : Oneshot α} {v : α} (h : c.send v = (c', false)) :
    c.receiver = false ∧ c' = { c with sender := false } := by
  unfold send at h
  split at h
  · cases h
  · next hr => exact ⟨by simpa using hr, (congrArg Prod.fst h).symm⟩

@[simp] lemma send_receiver (c : Oneshot α) (v : α) : (c.send v).1.receiver = c.receiver := by
  unfold send
  split <;> rfl

lemma send_value (c : Oneshot α) (v : α) :
    (c.send v).1.value = if c.receiver then some v else c.value := by
  unfold send
  split <;> rfl

end Oneshot

/-! ### Notifications -/

/-- A `Notify`, by the number of its calls of `notify_waiters`. A waiter keeps the number it saw
when it was made, and is woken by any later call. -/
structure Notify where
  calls : ℕ
  deriving DecidableEq, Repr

namespace Notify

def notifyWaiters (n : Notify) : Notify := ⟨n.calls + 1⟩

def notified (n : Notify) : ℕ := n.calls

def wakes (n : Notify) (seen : ℕ) : Bool := seen < n.calls

end Notify

end XelisWallet.Sync
