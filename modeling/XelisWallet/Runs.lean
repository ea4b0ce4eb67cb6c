import Mathlib.Tactic.Common
import Mathlib.Logic.Function.Basic

/-!
Labelled transition systems and their runs.

A system is a set of initial states and a labelled step relation. A run keeps the labels it
has taken, oldest first, so that a property of whole histories is a property of the list of
labels. Safety is proved by a step lemma and one of the induction rules below.
-/

namespace XelisWallet.Runs

/-- A labelled transition system on states `σ` with labels `ι`. -/
structure System (σ ι : Type*) where
  init : σ → Prop
  step : σ → ι → σ → Prop

variable {σ ι τ κ : Type*}

/-- A run from one state to another, with the labels of its steps in order. -/
inductive Run (M : System σ ι) : σ → List ι → σ → Prop
  | nil (s : σ) : Run M s [] s
  | snoc {s t u : σ} {ls : List ι} {l : ι} :
      Run M s ls t → M.step t l u → Run M s (ls ++ [l]) u

/-- The states that some run from an initial state ends in. -/
def Reachable (M : System σ ι) (s : σ) : Prop := ∃ s₀ ls, M.init s₀ ∧ Run M s₀ ls s

variable {M : System σ ι} {s t u : σ} {ls ms : List ι} {l : ι}

lemma Run.single (h : M.step s l t) : Run M s [l] t := (Run.nil s).snoc h

lemma Run.append (h₁ : Run M s ls t) (h₂ : Run M t ms u) : Run M s (ls ++ ms) u := by
  induction h₂ with
  | nil => simpa using h₁
  | snoc _ hstep ih => rw [← List.append_assoc]; exact ih.snoc hstep

lemma Reachable.of_init (h : M.init s) : Reachable M s := ⟨s, [], h, .nil s⟩

lemma Reachable.run (h : Reachable M s) (hr : Run M s ls t) : Reachable M t := by
  obtain ⟨s₀, ms, h₀, h₁⟩ := h
  exact ⟨s₀, ms ++ ls, h₀, h₁.append hr⟩

lemma Reachable.step (h : Reachable M s) (hs : M.step s l t) : Reachable M t :=
  h.run (Run.single hs)

lemma Run.exec {f : σ → ι → Option σ} (hf : ∀ s l t, f s l = some t → M.step s l t)
    (ls : List ι) (he : ls.foldlM f s = some t) : Run M s ls t := by
  induction ls generalizing s with
  | nil => cases he; exact .nil _
  | cons l ls ih =>
    obtain ⟨u, hu, he⟩ := Option.bind_eq_some_iff.mp he
    exact (Run.single (hf s l u hu)).append (ih he)

lemma Reachable.exec {f : σ → ι → Option σ} (hf : ∀ s l t, f s l = some t → M.step s l t)
    (h : Reachable M s) (ls : List ι) (he : ls.foldlM f s = some t) : Reachable M t :=
  h.run (.exec hf ls he)

lemma Run.preserves {P : σ → Prop} (hstep : ∀ s l t, P s → M.step s l t → P t)
    (h : Run M s ls t) (hs : P s) : P t := by
  induction h with
  | nil => exact hs
  | snoc _ hst ih => exact hstep _ _ _ ih hst

/-- **The invariant rule.** What holds initially and is kept by every step out of a reachable
state holds in every reachable state. -/
theorem Reachable.invariant {P : σ → Prop} (hinit : ∀ s, M.init s → P s)
    (hstep : ∀ s l t, Reachable M s → P s → M.step s l t → P t) (h : Reachable M s) : P s := by
  obtain ⟨s₀, ls, h₀, hr⟩ := h
  induction hr with
  | nil => exact hinit _ h₀
  | snoc hr hst ih => exact hstep _ _ _ ⟨_, _, h₀, hr⟩ ih hst

/-- The invariant rule with the history: the property may speak of the labels taken so far. -/
theorem Run.history {P : List ι → σ → Prop} (hinit : P [] s)
    (hstep : ∀ ls t l u, Run M s ls t → P ls t → M.step t l u → P (ls ++ [l]) u)
    (h : Run M s ls t) : P ls t := by
  induction h with
  | nil => exact hinit
  | snoc hr hst ih => exact hstep _ _ _ _ hr ih hst

/-- **Simulation.** If every step of `M` is matched by a run of `N` between the images of its
ends, then the image of a reachable state is reachable. -/
theorem Reachable.simulate {N : System τ κ} (f : σ → τ) (hinit : ∀ s, M.init s → N.init (f s))
    (hstep : ∀ s l t, Reachable M s → M.step s l t → ∃ ms, Run N (f s) ms (f t))
    (h : Reachable M s) : Reachable N (f s) := by
  refine h.invariant (P := fun s => Reachable N (f s)) (fun s hs => .of_init (hinit s hs)) ?_
  intro s l t hs hf hst
  obtain ⟨ms, hm⟩ := hstep s l t hs hst
  exact hf.run hm

end XelisWallet.Runs
