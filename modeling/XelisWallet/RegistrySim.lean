import XelisWallet.RegistryWorld

/-!
The registries behave like the session ledger.

An address stands for the state that is there now. That this is the state a registry entry was
made for is what the reservation of addresses gives: an entry keeps its address from being
used again, so what is at the address does not change as long as the entry is there.
-/

namespace XelisWallet.RegistrySim

open Checked Runs Registry RegistrySpec SessionLedger
open RegistryWorld hiding step

/-- The memory, the registries and the counter are those of the ledger. -/
structure Sim (w : World) (l : Ledger) : Prop where
  born : l.born = w.born
  next : l.next = w.next
  wf : ∀ k, Wf (w.registries k) w.next
  inj : ∀ a a' c c', w.heap a = some c → w.heap a' = some c' → c.id = c'.id → a = a'
  young : ∀ a c, w.heap a = some c → c.id < w.born
  live : ∀ a c, w.heap a = some c → l.live c.id = c.strong
  live_at : ∀ i, l.live i = true → ∃ a c, w.heap a = some c ∧ c.id = i
  book : ∀ k a c, w.heap a = some c → l.book k c.id = view (w.registries k) a
  book_at : ∀ k i v, l.book k i = some v → ∃ a c, w.heap a = some c ∧ c.id = i
  view_at : ∀ k a v, view (w.registries k) a = some v → ∃ c, w.heap a = some c

variable {w w' : World} {l : Ledger} {e : Event} {k a : ℕ} {c : Cell}

lemma sim_init : Sim World.init Ledger.init := by
  refine ⟨rfl, rfl, fun k => wf_default _, ?_, ?_, ?_, ?_, ?_, ?_, ?_⟩ <;>
    simp [World.init, Ledger.init]

lemma Sim.live_eq (h : Sim w l) (hc : w.heap a = some c) : alive w.heap a = l.live c.id := by
  rw [h.live a c hc, alive, hc]
  rfl

lemma Sim.view_removeDead (h : Sim w l) (k : ℕ) (hc : w.heap a = some c) :
    view ((w.registries k).removeDead (alive w.heap)) a = l.swept k c.id := by
  rw [RegistrySpec.view_removeDead (h.wf k), h.live_eq hc, ← h.book k a c hc]
  rfl

lemma Sim.write (h : Sim w l) {reg : SessionRegistry ℕ} {bk : ℕ → Option (ℕ × Bool)}
    (hwf : Wf reg w.next) (hview : ∀ a c, w.heap a = some c → view reg a = bk c.id)
    (hat : ∀ i v, bk i = some v → ∃ a c, w.heap a = some c ∧ c.id = i)
    (hmem : ∀ a v, view reg a = some v → ∃ c, w.heap a = some c) :
    Sim (w.put k reg w.next) (l.write k bk) := by
  refine ⟨h.born, h.next, fun k' => ?_, h.inj, h.young, h.live, h.live_at, fun k' a c hc => ?_,
    fun k' i v hv => ?_, fun k' a v hv => ?_⟩
  all_goals by_cases hk : k' = k
  · subst hk
    simpa using hwf
  · simpa [hk] using h.wf k'
  · subst hk
    simpa [Ledger.write] using (hview a c hc).symm
  · simpa [Ledger.write, hk] using h.book k' a c hc
  · subst hk
    exact hat i v (by simpa [Ledger.write] using hv)
  · exact h.book_at k' i v (by simpa [Ledger.write, hk] using hv)
  · subst hk
    exact hmem a v (by simpa using hv)
  · exact h.view_at k' a v (by simpa [hk] using hv)

lemma Sim.swept_at (h : Sim w l) {i : ℕ} {v : ℕ × Bool} (hv : l.swept k i = some v) :
    ∃ a c, w.heap a = some c ∧ c.id = i := by
  unfold Ledger.swept at hv
  split at hv
  · exact h.book_at k i v hv
  · cases hv

lemma Sim.removeDead_at (h : Sim w l) {v : ℕ × Bool}
    (hv : view ((w.registries k).removeDead (alive w.heap)) a = some v) :
    ∃ c, w.heap a = some c := by
  rw [RegistrySpec.view_removeDead (h.wf k)] at hv
  split at hv
  · exact h.view_at k a v hv
  · cases hv

lemma Sim.sweep (h : Sim w l) (k : ℕ) :
    Sim (w.put k ((w.registries k).removeDead (alive w.heap)) w.next) (l.write k (l.swept k)) :=
  h.write (wf_removeDead (h.wf k) _) (fun _ _ hc => h.view_removeDead k hc)
    (fun _ _ hv => h.swept_at hv) fun _ _ hv => h.removeDead_at hv

lemma Sim.mint (h : Sim w l) (k : ℕ) (hc : w.heap a = some c) (hs : c.strong = true)
    (hv : view (w.registries k) a = none) (b : Bool) :
    Sim (w.put k (((w.registries k).removeDead (alive w.heap)).insert w.next ⟨a, b⟩)
      (w.next + 1)) (l.mint k c.id b) := by
  have hwf := wf_removeDead (h.wf k) (alive w.heap)
  have hlive : l.live c.id = true := (h.live a c hc).trans hs
  have hv' : view ((w.registries k).removeDead (alive w.heap)) a = none := by
    rw [h.view_removeDead k hc, Ledger.swept, if_pos hlive, h.book k a c hc, hv]
  refine ⟨h.born, ?_, fun k' => ?_, h.inj, h.young, h.live, h.live_at, fun k' a' c' hc' => ?_,
    fun k' i v hi => ?_, fun k' a' v hi => ?_⟩
  · simp [Ledger.mint, h.next]
  all_goals by_cases hk : k' = k
  · subst hk
    simpa using wf_insert hwf hv' b
  · simpa [hk] using (h.wf k').mono (Nat.le_succ _)
  · subst hk
    rw [World.put_self, view_insert hwf]
    by_cases ha : a = a'
    · subst ha
      rw [World.put_heap, hc] at hc'
      cases hc'
      simp [Ledger.mint, h.next]
    · have hid : c'.id ≠ c.id := fun he => ha (h.inj a' a c' c hc' hc he).symm
      simp [Ledger.mint, ha, hid, h.view_removeDead k' hc']
  · simpa [Ledger.mint, hk] using h.book k' a' c' hc'
  · subst hk
    by_cases hi' : i = c.id
    · exact ⟨a, c, hc, hi'.symm⟩
    · refine h.swept_at (k := k') (v := v) ?_
      simpa [Ledger.mint, hi'] using hi
  · exact h.book_at k' i v (by simpa [Ledger.mint, hk] using hi)
  · subst hk
    rw [World.put_self, view_insert hwf] at hi
    split at hi
    · next ha => exact ⟨c, ha ▸ hc⟩
    · exact h.removeDead_at hi
  · exact h.view_at k' a' v (by simpa [hk] using hi)

lemma Sim.deactivate (h : Sim w l) (k : ℕ) {p : ℕ → Bool} {bk : ℕ → Option (ℕ × Bool)}
    (hbk : ∀ a c, w.heap a = some c → (l.swept k c.id).map (fun v => (v.1, v.2 && !p a)) = bk c.id)
    (hat : ∀ i v, bk i = some v → ∃ a c, w.heap a = some c ∧ c.id = i) :
    Sim (w.put k (((w.registries k).removeDead (alive w.heap)).deactivate p) w.next)
      (l.write k bk) := by
  refine h.write (wf_deactivate (wf_removeDead (h.wf k) _) p) (fun a c hc => ?_) hat
    fun a v hv => ?_
  · rw [view_deactivate, h.view_removeDead k hc, hbk a c hc]
  rw [view_deactivate] at hv
  obtain ⟨v', hv', -⟩ := Option.map_eq_some_iff.mp hv
  exact h.removeDead_at hv'

lemma Sim.drops (h : Sim w l) {late : List ℕ} {live : ℕ → Bool}
    (hlive : ∀ a c, w.heap a = some c → live c.id = (l.live c.id && !decide (a ∈ late)))
    (hle : ∀ i, live i = true → l.live i = true) :
    Sim { w with heap := dropAll w.heap late } { l with live } := by
  have hcell : ∀ a c, dropAll w.heap late a = some c →
      ∃ c₀, w.heap a = some c₀ ∧ c₀.id = c.id ∧ c.strong = (c₀.strong && !decide (a ∈ late)) := by
    intro a c hc
    unfold dropAll at hc
    split at hc
    · next ha =>
      obtain ⟨c₀, hc₀, rfl⟩ := Option.map_eq_some_iff.mp hc
      exact ⟨c₀, hc₀, rfl, by simp [ha]⟩
    · next ha => exact ⟨c, hc, rfl, by simp [ha]⟩
  have hback : ∀ a c₀, w.heap a = some c₀ → ∃ c, dropAll w.heap late a = some c ∧ c.id = c₀.id := by
    intro a c₀ hc₀
    unfold dropAll
    split
    · exact ⟨⟨c₀.id, false⟩, by simp [hc₀], rfl⟩
    · exact ⟨c₀, hc₀, rfl⟩
  refine ⟨h.born, h.next, h.wf, ?_, ?_, ?_, ?_, ?_, ?_, ?_⟩
  · intro a a' c c' hc hc' hid
    obtain ⟨c₀, hc₀, h₁, -⟩ := hcell a c hc
    obtain ⟨c₀', hc₀', h₂, -⟩ := hcell a' c' hc'
    exact h.inj a a' c₀ c₀' hc₀ hc₀' (by rw [h₁, h₂, hid])
  · intro a c hc
    obtain ⟨c₀, hc₀, h₁, -⟩ := hcell a c hc
    exact h₁ ▸ h.young a c₀ hc₀
  · intro a c hc
    obtain ⟨c₀, hc₀, h₁, h₂⟩ := hcell a c hc
    rw [h₂, ← h.live a c₀ hc₀, ← h₁]
    exact hlive a c₀ hc₀
  · intro i hi
    obtain ⟨a, c₀, hc₀, hid⟩ := h.live_at i (hle i hi)
    obtain ⟨c, hc, hid'⟩ := hback a c₀ hc₀
    exact ⟨a, c, hc, hid'.trans hid⟩
  · intro k a c hc
    obtain ⟨c₀, hc₀, h₁, -⟩ := hcell a c hc
    exact h₁ ▸ h.book k a c₀ hc₀
  · intro k i v hv
    obtain ⟨a, c₀, hc₀, hid⟩ := h.book_at k i v hv
    obtain ⟨c, hc, hid'⟩ := hback a c₀ hc₀
    exact ⟨a, c, hc, hid'.trans hid⟩
  · intro k a v hv
    obtain ⟨c₀, hc₀⟩ := h.view_at k a v hv
    obtain ⟨c, hc, -⟩ := hback a c₀ hc₀
    exact ⟨c, hc⟩

/-- A new state at an address that nobody has and no registry keeps. -/
lemma Sim.create (h : Sim w l) (ha : alive w.heap a = false)
    (hfree : ¬ Reserved w a) :
    Sim { w with heap := Function.update w.heap a (some ⟨w.born, true⟩), born := w.born + 1 }
      { l with born := l.born + 1, live := Function.update l.live l.born true } := by
  have hview : ∀ k, view (w.registries k) a = none := by
    intro k
    rcases hv : view (w.registries k) a with _ | ⟨r, b⟩
    · rfl
    · exact absurd ⟨k, _, (h.wf k).view_eq_some.mp hv, rfl⟩ hfree
  have hne : ∀ {a' c}, w.heap a' = some c → c.id ≠ w.born := by
    intro a' c hc
    have := h.young a' c hc
    omega
  -- an entry or a living state is at another address, where nothing changed
  have hother : ∀ {i}, (∃ a' c, w.heap a' = some c ∧ c.id = i ∧ a' ≠ a) →
      ∃ a' c, Function.update w.heap a (some ⟨w.born, true⟩) a' = some c ∧ c.id = i := by
    rintro i ⟨a', c, hc, hid, hna⟩
    exact ⟨a', c, by simpa [hna] using hc, hid⟩
  refine ⟨by simp [h.born], h.next, h.wf, ?_, ?_, ?_, ?_, ?_, ?_, ?_⟩
  · intro a₁ a₂ c₁ c₂ hc₁ hc₂ hid
    simp only [Function.update_apply] at hc₁ hc₂
    split_ifs at hc₁ hc₂ with h₁ h₂ h₂
    · rw [h₁, h₂]
    · cases hc₁
      exact absurd hid.symm (hne hc₂)
    · cases hc₂
      exact absurd hid (hne hc₁)
    · exact h.inj a₁ a₂ c₁ c₂ hc₁ hc₂ hid
  · intro a' c hc
    simp only [Function.update_apply] at hc
    split_ifs at hc
    · cases hc
      exact Nat.lt_succ_self _
    · exact Nat.lt_succ_of_lt (h.young a' c hc)
  · intro a' c hc
    simp only [Function.update_apply] at hc
    split_ifs at hc
    · cases hc
      simp [h.born]
    · simpa [h.born, hne hc] using h.live a' c hc
  · intro i hi
    by_cases hi' : i = l.born
    · exact ⟨a, ⟨w.born, true⟩, by simp, by rw [hi', h.born]⟩
    obtain ⟨a', c, hc, hid⟩ := h.live_at i (by simpa [hi'] using hi)
    refine hother ⟨a', c, hc, hid, ?_⟩
    rintro rfl
    rw [h.live_eq hc, hid] at ha
    simp [hi', ha] at hi
  · intro k a' c hc
    simp only [Function.update_apply] at hc
    split_ifs at hc with h'
    · cases hc
      rw [h', hview k]
      rcases hb : l.book k w.born with _ | v
      · rfl
      · obtain ⟨a'', c, hc, hid⟩ := h.book_at k _ v hb
        exact absurd hid (hne hc)
    · exact h.book k a' c hc
  · intro k i v hv
    obtain ⟨a', c, hc, hid⟩ := h.book_at k i v hv
    refine hother ⟨a', c, hc, hid, ?_⟩
    rintro rfl
    have := h.book k a' c hc
    rw [hid, hv, hview k] at this
    cases this
  · intro k a' v hv
    by_cases h' : a' = a
    · exact ⟨⟨w.born, true⟩, by simp [h']⟩
    · obtain ⟨c, hc⟩ := h.view_at k a' v hv
      exact ⟨c, by simpa [h'] using hc⟩

/-! ### Every step is a step of the ledger -/

lemma cell_alive {i : ℕ} (hc : w.heap a = some ⟨i, true⟩) :
    alive w.heap a = true := by simp [alive, hc]

lemma project_sim (h : Sim w l) (k : ℕ) {i : ℕ} (hc : w.heap a = some ⟨i, true⟩) :
    ∃ l', Step l (.projected k i ((w.registries k).project (alive w.heap) w.next a).1) l' ∧
      Sim (w.put k ((w.registries k).project (alive w.heap) w.next a).2.1
        ((w.registries k).project (alive w.heap) w.next a).2.2) l' := by
  obtain ⟨born, live, next, owner, book⟩ := l
  obtain rfl := h.next
  have hlive : live i = true := h.live a _ hc
  have hbook : book k i = view (w.registries k) a := h.book k a _ hc
  obtain ⟨r, b, hv, hp⟩ | ⟨hv, hn, hp⟩ | ⟨hv, hn, hp⟩ := project_cases (h.wf k) (cell_alive hc)
  all_goals rw [hp]
  · exact ⟨_, .found k i r b _ hlive (hbook.trans hv) (.inl rfl), h.sweep k⟩
  · exact ⟨_, .minted k i _ hlive (hbook.trans hv) hn (.inl rfl), h.mint k hc rfl hv true⟩
  · exact ⟨_, .exhausted k i _ hlive (hbook.trans hv) hn (.inl rfl), h.sweep k⟩

lemma register_sim (h : Sim w l) (k : ℕ) {i : ℕ} (hc : w.heap a = some ⟨i, true⟩) :
    ∃ l', Step l (.registered k i ((w.registries k).register (alive w.heap) w.next a).1) l' ∧
      Sim (w.put k ((w.registries k).register (alive w.heap) w.next a).2.1
        ((w.registries k).register (alive w.heap) w.next a).2.2) l' := by
  obtain ⟨born, live, next, owner, book⟩ := l
  obtain rfl := h.next
  have hlive : live i = true := h.live a _ hc
  have hbook : book k i = view (w.registries k) a := h.book k a _ hc
  rcases register_cases (h.wf k) (cell_alive hc) with
    ⟨r, hv, hp⟩ | ⟨r, hv, hp⟩ | ⟨hv, hn, hp⟩ | ⟨hv, hn, hp⟩
  · rw [hp]
    exact ⟨_, .found k i r true _ hlive (hbook.trans hv) (.inr rfl), h.sweep k⟩
  · rw [hp]
    exact ⟨_, .found k i r false _ hlive (hbook.trans hv) (.inr rfl), h.sweep k⟩
  · rw [hp]
    exact ⟨_, .minted k i _ hlive (hbook.trans hv) hn (.inr rfl), h.mint k hc rfl hv true⟩
  · rw [hp]
    exact ⟨_, .exhausted k i _ hlive (hbook.trans hv) hn (.inr rfl), h.sweep k⟩

lemma invalidate_sim (h : Sim w l) (k : ℕ) {i : ℕ} (hc : w.heap a = some ⟨i, true⟩) :
    ∃ l', Step l (.invalidated k i) l' ∧
      Sim (w.put k ((w.registries k).invalidateState (alive w.heap) w.next a).1
        ((w.registries k).invalidateState (alive w.heap) w.next a).2) l' := by
  obtain ⟨born, live, next, owner, book⟩ := l
  obtain rfl := h.next
  have hlive : live i = true := h.live a _ hc
  have hbook : book k i = view (w.registries k) a := h.book k a _ hc
  rcases invalidateState_cases (h.wf k) (cell_alive hc) with
    ⟨r, b, hv, hp⟩ | ⟨hv, hn, hp⟩ | ⟨hv, hn, hp⟩
  · rw [hp]
    refine ⟨_, .invalidated k i r b hlive (hbook.trans hv),
      h.deactivate k (p := fun x => decide (x = a)) ?_ ?_⟩
    · intro a' c' hc'
      by_cases ha : a' = a
      · subst ha
        rw [hc] at hc'
        cases hc'
        simp [Ledger.swept, hlive, hbook.trans hv]
      · have hid : c'.id ≠ i := fun he => ha (h.inj a' a c' _ hc' hc he)
        cases hs : Ledger.swept _ k c'.id <;> simp [ha, hid, hs]
    · intro j v hj
      by_cases hji : j = i
      · exact ⟨a, _, hc, hji.symm⟩
      · exact h.swept_at (k := k) (v := v) (by simpa [hji] using hj)
  · rw [hp]
    exact ⟨_, .tombstoned k i hlive (hbook.trans hv) hn, h.mint k hc rfl hv false⟩
  · rw [hp]
    exact ⟨_, .unrecorded k i hlive (hbook.trans hv) hn, h.sweep k⟩

lemma clear_sim (h : Sim w l) (k : ℕ) :
    ∃ l', Step l (.cleared k) l' ∧
      Sim (w.put k ((w.registries k).clear (alive w.heap)) w.next) l' := by
  refine ⟨_, .cleared k, h.deactivate k (fun a c _ => ?_) fun i v hv => ?_⟩
  · cases l.swept k c.id <;> simp
  · obtain ⟨v', hv', -⟩ := Option.map_eq_some_iff.mp hv
    exact h.swept_at hv'

/-- The states that are alive once the states at some addresses are dropped. -/
noncomputable def liveAfter (w : World) (l : Ledger) (late : List ℕ) (i : ℕ) : Bool :=
  open Classical in l.live i && !decide (∃ a c, w.heap a = some c ∧ c.id = i ∧ a ∈ late)

lemma liveAfter_le {late : List ℕ} {i : ℕ} (hi : liveAfter w l late i = true) :
    l.live i = true := by
  simp only [liveAfter, Bool.and_eq_true] at hi
  exact hi.1

lemma Sim.liveAfter_eq (h : Sim w l) (late : List ℕ) (hc : w.heap a = some c) :
    liveAfter w l late c.id = (l.live c.id && !decide (a ∈ late)) := by
  have hiff : (∃ a' c', w.heap a' = some c' ∧ c'.id = c.id ∧ a' ∈ late) ↔ a ∈ late := by
    constructor
    · rintro ⟨a', c', hc', hid, hm⟩
      rwa [← h.inj a' a c' c hc' hc hid]
    · intro hm
      exact ⟨a, c, hc, rfl, hm⟩
  simp [liveAfter, hiff]

lemma resolve_sim (h : Sim w l) (k r : ℕ) (late : List ℕ) :
    ∃ l', Step l (.resolved k r (((w.registries k).resolve (alive w.heap)
        (alive (dropAll w.heap late)) r).1.bind fun a => (dropAll w.heap late a).map Cell.id)) l' ∧
      Sim { w.put k ((w.registries k).resolve (alive w.heap)
        (alive (dropAll w.heap late)) r).2 w.next with
          heap := dropAll w.heap late } l' := by
  refine ⟨_, .resolved k r _ (liveAfter w l late) (fun i => liveAfter_le) ?_,
    (h.sweep k).drops (fun a c hc => ?_) fun i => liveAfter_le⟩
  · intro i hi
    obtain ⟨a, hres, hid⟩ := Option.bind_eq_some_iff.mp hi
    obtain ⟨hv, -, hlater⟩ := (resolve_eq_some (h.wf k)).mp hres
    obtain ⟨c, hc⟩ := h.view_at k a _ hv
    have hnot : a ∉ late := by
      intro hm
      simp [alive, dropAll, hm, hc] at hlater
    simp only [dropAll, hnot, if_false, hc, Option.map_some, Option.some.injEq] at hid
    have hs : c.strong = true := by
      simpa [alive, dropAll, hnot, hc] using hlater
    subst hid
    refine ⟨?_, (h.book k a c hc).trans hv⟩
    rw [h.liveAfter_eq late hc, h.live a c hc, hs]
    simp [hnot]
  · exact h.liveAfter_eq late hc

lemma drop_sim (h : Sim w l) {i : ℕ} (hc : w.heap a = some ⟨i, true⟩) :
    ∃ l', Step l (.dropped i) l' ∧ Sim { w with heap := dropAll w.heap [a] } l' := by
  refine ⟨_, .dropped i, h.drops (fun a' c hc' => ?_) fun j hj => ?_⟩
  · by_cases ha : a' = a
    · subst ha
      rw [hc] at hc'
      cases hc'
      simp
    · have hid : c.id ≠ i := fun he => ha (h.inj a' a c _ hc' hc he)
      simp [ha, hid]
  · by_cases hji : j = i
    · simp [hji] at hj
    · simpa [hji] using hj

/-- **The registries refine the ledger.** -/
theorem step_sim (h : Sim w l) (hst : registries.step w e w') :
    ∃ l', ledger.step l e l' ∧ Sim w' l' := by
  obtain ⟨op, hfree, hst⟩ := hst
  cases op <;> simp only [RegistryWorld.step] at hst
  case create a =>
    split at hst <;> cases hst
    next ha =>
    refine ⟨_, ?_, h.create (Bool.eq_false_iff.mpr ha) (hfree a rfl)⟩
    rw [← h.born]
    exact .created
  case drop =>
    split at hst <;> cases hst
    next hc => exact drop_sim h hc
  case project k _ =>
    split at hst <;> cases hst
    next hc => exact project_sim h k hc
  case register k _ =>
    split at hst <;> cases hst
    next hc => exact register_sim h k hc
  case resolve k r late =>
    cases hst
    exact resolve_sim h k r late
  case invalidate k _ =>
    split at hst <;> cases hst
    next hc => exact invalidate_sim h k hc
  case clear k =>
    cases hst
    exact clear_sim h k

end XelisWallet.RegistrySim
