import Mathlib.Data.List.Basic
import Mathlib.Data.List.Count
import Mathlib.Tactic.Common

/-!
A broadcast channel that keeps a bounded number of values.

Every receiver reads all values from the place where it was opened on, in order. One that is
further behind than the channel keeps is told how many values it has missed, and goes on with the
oldest value that is kept. The receiver here remembers what it has received, with the places, so
that a property of everything it was given is a property of its state.
-/

namespace XelisWallet.Feed

/-- A channel, with the values sent since the receivers at hand were opened. -/
structure Shared (E : Type) where
  capacity : ℕ
  sent : List E
  closed : Bool

inductive Item (E : Type)
  | event (e : E)
  | lagged (skipped : ℕ)

inductive Received (E : Type)
  | item (item : Item E)
  | closed
  | empty

/-- A receiver: the place of the next value, and the items received with their places. -/
structure Receiver (E : Type) where
  next : ℕ
  received : List (ℕ × Item E)

variable {E : Type}

/-- How many values an item stands for. -/
def Item.span : Item E → ℕ
  | .event _ => 1
  | .lagged skipped => skipped

def Receiver.init : Receiver E := ⟨0, []⟩

def Receiver.take (r : Receiver E) (item : Item E) : Receiver E :=
  ⟨r.next + item.span, r.received ++ [(r.next, item)]⟩

def Receiver.recv (r : Receiver E) (shared : Shared E) : Received E × Receiver E :=
  if r.next + shared.capacity < shared.sent.length then
    let item : Item E := .lagged (shared.sent.length - shared.capacity - r.next)
    (.item item, r.take item)
  else match shared.sent[r.next]? with
    | some e => (.item (.event e), r.take (.event e))
    | none => if shared.closed then (.closed, r) else (.empty, r)

def Shared.send (shared : Shared E) (e : E) : Shared E := { shared with sent := shared.sent ++ [e] }

/-! ### What a receiver has received -/

/-- The items follow each other, from the first place to the next one to be read. -/
inductive Consecutive : List (ℕ × Item E) → ℕ → Prop
  | nil : Consecutive [] 0
  | snoc {items : List (ℕ × Item E)} {n : ℕ} (item : Item E) (h : Consecutive items n)
      (hspan : 0 < item.span) : Consecutive (items ++ [(n, item)]) (n + item.span)

/-- The receiver has read the channel up to its place, and every event where it was sent. -/
structure Follows (r : Receiver E) (shared : Shared E) : Prop where
  next_le : r.next ≤ shared.sent.length
  consecutive : Consecutive r.received r.next
  event : ∀ p e, (p, Item.event e) ∈ r.received → shared.sent[p]? = some e

variable {shared : Shared E} {r : Receiver E} {items : List (ℕ × Item E)} {n p : ℕ}

lemma Follows.init : Follows .init shared :=
  ⟨Nat.zero_le _, .nil, by simp [Receiver.init]⟩

lemma Follows.send (h : Follows r shared) (e : E) : Follows r (shared.send e) := by
  refine ⟨?_, h.consecutive, fun p x hp => ?_⟩
  · rw [Shared.send, List.length_append]
    exact Nat.le_add_right_of_le h.next_le
  · have hx := h.event p x hp
    rwa [Shared.send, List.getElem?_append_left (List.getElem?_eq_some_iff.mp hx).1]

lemma Receiver.recv_cases (r : Receiver E) (shared : Shared E) :
    (∃ item, r.recv shared = (.item item, r.take item)) ∨
    (r.recv shared = (.closed, r) ∧ shared.closed = true ∧ shared.sent.length ≤ r.next) ∨
    (r.recv shared = (.empty, r) ∧ shared.closed = false ∧ shared.sent.length ≤ r.next) := by
  rw [Receiver.recv]
  split
  · exact .inl ⟨_, rfl⟩
  cases hnext : shared.sent[r.next]? with
  | some => exact .inl ⟨_, rfl⟩
  | none =>
    have hend := List.getElem?_eq_none_iff.mp hnext
    cases hclosed : shared.closed with
    | true => exact .inr (.inl ⟨rfl, rfl, hend⟩)
    | false => exact .inr (.inr ⟨rfl, rfl, hend⟩)

lemma Follows.recv (h : Follows r shared) : Follows (r.recv shared).2 shared := by
  rw [Receiver.recv]
  split
  · rename_i hlag
    have hspan : 0 < shared.sent.length - shared.capacity - r.next := by omega
    refine ⟨?_, h.consecutive.snoc _ hspan, fun p e hp => ?_⟩
    · simp only [Receiver.take, Item.span]
      omega
    obtain hp | hp := List.mem_append.mp hp
    · exact h.event p e hp
    · simp at hp
  · cases hnext : shared.sent[r.next]? with
    | some e =>
      have hlt := (List.getElem?_eq_some_iff.mp hnext).1
      refine ⟨hlt, h.consecutive.snoc (.event e) Nat.one_pos, fun p x hp => ?_⟩
      obtain hp | hp := List.mem_append.mp hp
      · exact h.event p x hp
      · obtain ⟨rfl, rfl⟩ : p = r.next ∧ x = e := by simpa using hp
        exact hnext
    | none => cases shared.closed <;> exact h

/-! ### Every place once -/

variable (h : Consecutive items n)
include h

lemma Consecutive.bound : ∀ x ∈ items, 0 < x.2.span ∧ x.1 + x.2.span ≤ n := by
  induction h with
  | nil => simp
  | snoc item _ hspan ih =>
    intro x hx
    obtain hx | hx := List.mem_append.mp hx
    · exact ⟨(ih x hx).1, Nat.le_add_right_of_le (ih x hx).2⟩
    · rw [List.mem_singleton.mp hx]
      exact ⟨hspan, Nat.le_refl _⟩

lemma Consecutive.exists_item (hp : p < n) : ∃ x ∈ items, x.1 ≤ p ∧ p < x.1 + x.2.span := by
  induction h with
  | nil => exact absurd hp (Nat.not_lt_zero p)
  | @snoc items n item _ _ ih =>
    by_cases hlt : p < n
    · obtain ⟨x, hx, hle⟩ := ih hlt
      exact ⟨x, List.mem_append_left _ hx, hle⟩
    · exact ⟨(n, item), by simp, Nat.not_lt.mp hlt, hp⟩

lemma Consecutive.countP_place {item : Item E} (hmem : (p, item) ∈ items)
    (q : Item E → Bool) : items.countP (fun x => x.1 = p && q x.2) = if q item then 1 else 0 := by
  induction h with
  | nil => simp at hmem
  | @snoc items n last hitems hspan ih =>
    rw [List.countP_append, List.countP_singleton]
    obtain hmem | hmem := List.mem_append.mp hmem
    · obtain ⟨hpos, hle⟩ := hitems.bound _ hmem
      have hne : n ≠ p := by
        intro heq
        simp only [heq] at hle hpos
        omega
      simp [ih hmem, hne]
    · obtain ⟨rfl, rfl⟩ : p = n ∧ item = last := by simpa using hmem
      have hnone : items.countP (fun x => x.1 = p && q x.2) = 0 := by
        rw [List.countP_eq_zero]
        intro x hx
        have hbound := hitems.bound x hx
        have hne : x.1 ≠ p := by omega
        simp [hne]
      simp [hnone]

omit h

/-- The receiver was told that it has missed the event at a place. -/
def Skipped (items : List (ℕ × Item E)) (p : ℕ) : Prop :=
  ∃ k n, (k, Item.lagged n) ∈ items ∧ k ≤ p ∧ p < k + n

/-- Every place read is that of an event, unless it was skipped. -/
lemma Follows.event_or_skipped (h : Follows r shared) (hp : p < r.next) : Skipped r.received p ∨
      ∃ e, (p, Item.event e) ∈ r.received ∧ shared.sent[p]? = some e := by
  obtain ⟨⟨k, item⟩, hmem, hle, hlt⟩ := h.consecutive.exists_item hp
  cases item with
  | lagged n => exact .inl ⟨k, n, hmem, hle, hlt⟩
  | event e =>
    obtain rfl : k = p := by
      simp only [Item.span] at hle hlt
      omega
    exact .inr ⟨e, hmem, h.event k e hmem⟩

end XelisWallet.Feed
