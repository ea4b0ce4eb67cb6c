import XelisWallet.RegistrySpec
import XelisWallet.SessionLedger

/-!
Any number of registries over one memory and one counter.

The memory has, for an address, the state last allocated there; it stays allocated without a
strong reference while a `Weak` of some registry points at it, so that a new state gets an
address that no living state has and that no registry keeps. The pointers of the registries
are addresses; the events carry the identities of the states.
-/

namespace XelisWallet.RegistryWorld

open Checked Runs Registry SessionLedger

/-- What is at an address: an application state, and whether an `Arc` of it is left. -/
structure Cell where
  id : ℕ
  strong : Bool
  deriving DecidableEq, Repr

structure World where
  heap : ℕ → Option Cell
  born : ℕ
  registries : ℕ → SessionRegistry ℕ
  next : ℕ

def World.init : World := ⟨fun _ => none, 0, fun _ => .default, firstReference⟩

/-- The registry `k` and the counter are now these. -/
def World.put (w : World) (k : ℕ) (reg : SessionRegistry ℕ) (next : ℕ) : World :=
  { w with registries := Function.update w.registries k reg, next }

section put

variable (w : World) (k : ℕ) (reg : SessionRegistry ℕ) (next : ℕ)

@[simp] lemma World.put_heap : (w.put k reg next).heap = w.heap := rfl

@[simp] lemma World.put_next : (w.put k reg next).next = next := rfl

@[simp] lemma World.put_self : (w.put k reg next).registries k = reg := Function.update_self ..

@[simp] lemma World.put_of_ne {k' : ℕ} (h : k' ≠ k) :
    (w.put k reg next).registries k' = w.registries k' := Function.update_of_ne h ..

end put

/-- Whether the strong count of the state at an address is positive. -/
def alive (heap : ℕ → Option Cell) (a : ℕ) : Bool := (heap a).any (·.strong)

/-- The last `Arc`s of the states at these addresses are dropped. -/
def dropAll (heap : ℕ → Option Cell) (addresses : List ℕ) (a : ℕ) : Option Cell :=
  if a ∈ addresses then (heap a).map fun c => { c with strong := false } else heap a

/-- An operation. Registries are numbered, states are given by their address, as the `Arc` the
caller holds; `late` are the states dropped by others between the sweep and the upgrade. -/
inductive Op
  | create (a : ℕ)
  | drop (a : ℕ)
  | project (k a : ℕ)
  | register (k a : ℕ)
  | resolve (k r : ℕ) (late : List ℕ)
  | invalidate (k a : ℕ)
  | clear (k : ℕ)
  deriving DecidableEq, Repr

def step (w : World) : Op → Option (World × Event)
  | .create a =>
      if alive w.heap a then none
      else some ({ w with
        heap := Function.update w.heap a (some ⟨w.born, true⟩), born := w.born + 1 },
        .created w.born)
  | .drop a =>
    match w.heap a with
    | some ⟨i, true⟩ => some ({ w with heap := dropAll w.heap [a] }, .dropped i)
    | _ => none
  | .project k a =>
    match w.heap a with
    | some ⟨i, true⟩ =>
      let p := (w.registries k).project (alive w.heap) w.next a
      some (w.put k p.2.1 p.2.2, .projected k i p.1)
    | _ => none
  | .register k a =>
    match w.heap a with
    | some ⟨i, true⟩ =>
      let p := (w.registries k).register (alive w.heap) w.next a
      some (w.put k p.2.1 p.2.2, .registered k i p.1)
    | _ => none
  | .resolve k r late =>
    let heap := dropAll w.heap late
    let p := (w.registries k).resolve (alive w.heap) (alive heap) r
    some ({ w.put k p.2 w.next with heap },
      .resolved k r (p.1.bind fun a => (heap a).map Cell.id))
  | .invalidate k a =>
    match w.heap a with
    | some ⟨i, true⟩ =>
      let p := (w.registries k).invalidateState (alive w.heap) w.next a
      some (w.put k p.1 p.2, .invalidated k i)
    | _ => none
  | .clear k =>
      some (w.put k ((w.registries k).clear (alive w.heap)) w.next, .cleared k)

/-- A `Weak` in a registry keeps its address from being given to a new state. -/
def Reserved (w : World) (a : ℕ) : Prop := ∃ k, ∃ p ∈ (w.registries k).sessions, p.2.state = a

def registries : System World Event where
  init w := w = World.init
  step w e w' := ∃ op, (∀ a, op = .create a → ¬ Reserved w a) ∧ step w op = some (w', e)

end XelisWallet.RegistryWorld
