import XelisWallet.RegistrySim
import XelisWallet.SessionHistory

/-!
Session references are exact: for every history of any number of registries that share the
counter, a reference stands for one state of one registry, and authority that was taken from a
state never comes back.
-/

namespace XelisWallet.RegistryExact

open Runs Registry RegistrySpec SessionLedger SessionHistory RegistrySim
open RegistryWorld hiding step

variable {w w' : World} {l : Ledger} {ls ms : List Event}

/-- A history of the registries is a history of the ledger. -/
lemma run_sim (hs : Sim w l) (h : Run registries w ls w') :
    ∃ l', Run ledger l ls l' ∧ Sim w' l' := by
  refine h.history (P := fun ls w' => ∃ l', Run ledger l ls l' ∧ Sim w' l') ⟨l, .nil l, hs⟩ ?_
  rintro ls u e u' - ⟨l', hr, hs'⟩ hst
  obtain ⟨l'', hstep, hs''⟩ := step_sim hs' hst
  exact ⟨l'', hr.snoc hstep, hs''⟩

lemma sim_mem (hs : Sim w l) {k r a : ℕ} {b : Bool}
    (hm : (r, ⟨a, b⟩) ∈ (w.registries k).sessions) :
    ∃ c, w.heap a = some c ∧ l.book k c.id = some (r, b) := by
  have hv := (hs.wf k).view_eq_some.mpr hm
  obtain ⟨c, hc⟩ := hs.view_at k a _ hv
  exact ⟨c, hc, (hs.book k a c hc).trans hv⟩

/-- **Session references are exact.** Over every history of the registries: a reference is
given out for one state and by one registry, and no two entries share one; a registry has at
most one entry for a state; a living state that has a reference is projected to that one; an
inactive entry never becomes active; a reference resolves only to the living state it was
first given out for, if that state was not invalidated and the registry not cleared since; and
an invalidated state is never registered again. -/
theorem references_exact (h : Run registries World.init ls w) :
    (∀ k k' i i' r, Given ls k i r → Given ls k' i' r → k = k' ∧ i = i') ∧
    (∀ k k' r e e', (r, e) ∈ (w.registries k).sessions → (r, e') ∈ (w.registries k').sessions →
      k = k' ∧ e = e') ∧
    (∀ k, ((w.registries k).sessions.map (·.2.state)).Nodup) ∧
    (∀ k i r result w', Given ls k i r → registries.step w (.projected k i result) w' →
      result = .ok r) ∧
    (∀ ms w', Run registries w ms w' → ∀ k r a a', (r, ⟨a, false⟩) ∈ (w.registries k).sessions →
      (r, ⟨a', true⟩) ∉ (w'.registries k).sessions) ∧
    (∀ k r i w', registries.step w (.resolved k r (some i)) w' →
      (∃ a, w'.heap a = some ⟨i, true⟩) ∧ GivenSince ls k i r ∧ Event.invalidated k i ∉ ls) ∧
    ∀ k i result w', Event.invalidated k i ∈ ls → registries.step w (.registered k i result) w' →
      ∃ error, result = .error error := by
  obtain ⟨l, hr, hs⟩ := run_sim sim_init h
  have hf := run_faithful hr
  refine ⟨fun k k' i i' r => hf.given_unique, ?_, fun k => (hs.wf k).states, ?_, ?_, ?_, ?_⟩
  · rintro k k' r ⟨a, b⟩ ⟨a', b'⟩ hm hm'
    obtain ⟨c, hc, hb⟩ := sim_mem hs hm
    obtain ⟨c', hc', hb'⟩ := sim_mem hs hm'
    have ho := hf.owned k c.id r b hb
    rw [hf.owned k' c'.id r b' hb'] at ho
    simp only [Option.some.injEq, Prod.mk.injEq] at ho
    obtain ⟨rfl, hid⟩ := ho
    obtain rfl := hs.inj a' a c' c hc' hc hid
    rw [hid, hb] at hb'
    cases hb'
    exact ⟨rfl, rfl⟩
  · intro k i r result w' hg hst
    obtain ⟨l', hstep, -⟩ := step_sim hs hst
    exact hf.projected hg hstep
  · intro ms w' hrun k r a a' hm hm'
    obtain ⟨l', hr', hs'⟩ := run_sim hs hrun
    obtain ⟨c, -, hb⟩ := sim_mem hs hm
    obtain ⟨c', -, hb'⟩ := sim_mem hs' hm'
    exact run_inactive hr hr' hb c'.id hb'
  · intro k r i w' hst
    obtain ⟨l', hstep, hs'⟩ := step_sim hs hst
    obtain ⟨hlive, hsince, hnot⟩ := hf.resolved hstep
    obtain ⟨a, ⟨j, strong⟩, hc, rfl⟩ := hs'.live_at i hlive
    have hstrong := hs'.live a _ hc
    rw [hlive] at hstrong
    cases hstrong
    exact ⟨⟨a, hc⟩, hsince, hnot⟩
  · intro k i result w' hm hst
    obtain ⟨l', hstep, -⟩ := step_sim hs hst
    exact hf.registered hm hstep

/-- A state at address `100` gets reference `1` of registry `0` and is resolved by it. -/
theorem projected_reference_resolves :
    ∃ ls w w', Run registries World.init ls w ∧ Given ls 0 0 1 ∧
      registries.step w (.resolved 0 1 (some 0)) w' ∧ Event.invalidated 0 0 ∉ ls := by
  have hfree : ∀ a, Op.create 100 = .create a → ¬ Reserved World.init a := by
    rintro a - ⟨k, p, hp, -⟩
    exact absurd hp (List.not_mem_nil)
  have h₁ : registries.step World.init (.created 0) _ := ⟨.create 100, hfree, rfl⟩
  have hrun := ((Run.nil World.init).snoc h₁).snoc (l := .projected 0 0 (.ok 1))
    ⟨.project 0 100, by simp, rfl⟩
  refine ⟨_, _, _, hrun, ⟨.projected 0 0 (.ok 1), by simp, rfl⟩,
    ⟨.resolve 0 1 [], by simp, rfl⟩, ?_⟩
  exact ((references_exact hrun).2.2.2.2.2.1 0 1 0 _ ⟨.resolve 0 1 [], by simp, rfl⟩).2.2

end XelisWallet.RegistryExact
