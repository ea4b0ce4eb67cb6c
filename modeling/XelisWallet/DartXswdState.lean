import Mathlib.Order.Nat
import XelisWallet.DartXswd

/-!
What the operations on the session state of a handle do to the capabilities.

A capability keeps its session and never becomes active again, and the revision advances when one is
given up. A state is well formed if an active capability is the one the map has for its session and
an adapted application has the capability of its own session.
-/

namespace XelisWallet.DartXswd.NativeXswdState

open Xswd

/-- A well-formed state. -/
structure WF (x : NativeXswdState) : Prop where
  mapped : ∀ {r c}, x.capabilities r = some c → ∃ p, x.heap[c]? = some p ∧ p.sessionRef = r
  active : ∀ {c p}, x.heap[c]? = some p → p.active = true → x.capabilities p.sessionRef = some c
  object : ∀ {a c}, x.applicationCapabilities a = some c → ∃ n native p, a = .adapted n ∧
    x.applications[n]? = some (native, xelisXswdApplicationFromGenerated native c) ∧
    x.heap[c]? = some p ∧ p.sessionRef = native.sessionRef

lemma wf_init : init.WF := ⟨nofun, nofun, nofun⟩

/-- What may happen to a capability, listed by a state read or not. -/
structure Kept (seen : Prop) (p q : NativeXswdSessionCapability) : Prop where
  sessionRef : q.sessionRef = p.sessionRef
  active : q.active = true → p.active = true
  admitted : p.admitted = true → q.admitted = true
  listed : q.admitted = true → p.admitted = true ∨ seen
  pending : p.pendingApplicationDecision = true → q.active = true → ¬ seen →
    q.pendingApplicationDecision = true

variable {x y z : NativeXswdState} {c d r : ℕ} {p q u : NativeXswdSessionCapability}
  {seen : ℕ → Prop} {native : AppInfo}

lemma Kept.refl (S : Prop) (p : NativeXswdSessionCapability) : Kept S p p :=
  ⟨rfl, id, id, .inl, fun h _ _ => h⟩

lemma Kept.trans {S : Prop} (h₁ : Kept S p q) (h₂ : Kept S q u) : Kept S p u where
  sessionRef := h₂.sessionRef.trans h₁.sessionRef
  active h := h₁.active (h₂.active h)
  admitted h := h₂.admitted (h₁.admitted h)
  listed h := (h₂.listed h).elim h₁.listed .inr
  pending h ha hs := h₂.pending (h₁.pending h (h₂.active ha) hs) ha hs

/-- The state evolves; `seen` are the capabilities that a state read lists. -/
structure Evolves (seen : ℕ → Prop) (x y : NativeXswdState) : Prop where
  kept : ∀ {c p}, x.heap[c]? = some p → ∃ q, y.heap[c]? = some q ∧ Kept (seen c) p q
  made : ∀ {c q}, y.heap[c]? = some q → x.heap.length ≤ c → q.admitted = true → seen c
  object : ∀ {a c}, x.applicationCapabilities a = some c → y.applicationCapabilities a = some c
  revision : x.revision ≤ y.revision
  givenUp : ∀ {c q}, y.heap[c]? = some q → q.active = false →
    x.isActive c = true ∨ x.heap.length ≤ c → x.revision < y.revision

/-- Out of a well-formed state, into one. -/
def Moves (seen : ℕ → Prop) (x y : NativeXswdState) : Prop := x.WF → y.WF ∧ Evolves seen x y

lemma isActive_iff : x.isActive c = true ↔ ∃ p, x.heap[c]? = some p ∧ p.active = true := by
  cases h : x.heap[c]? <;> simp [isActive, h]

lemma isActive_of (h : x.heap[c]? = some p) : x.isActive c = p.active := by
  simp [isActive, h]

lemma lt_length (h : x.heap[c]? = some p) : c < x.heap.length :=
  (List.getElem?_eq_some_iff.mp h).1

lemma Evolves.length (h : Evolves seen x y) : x.heap.length ≤ y.heap.length := by
  by_contra hlt
  have hx : x.heap[y.heap.length]? = some x.heap[y.heap.length] := by
    rw [List.getElem?_eq_getElem]
  obtain ⟨q, hq, -⟩ := h.kept hx
  exact absurd (lt_length hq) (lt_irrefl _)

lemma Evolves.isActive (h : Evolves seen x y) (hc : c < x.heap.length)
    (ha : y.isActive c = true) : x.isActive c = true := by
  obtain ⟨q, hq, hk⟩ := h.kept (List.getElem?_eq_getElem hc)
  rw [isActive_of hq] at ha
  exact isActive_iff.mpr ⟨_, List.getElem?_eq_getElem hc, hk.active ha⟩

lemma Evolves.inactive (h : Evolves seen x y) (hc : c < x.heap.length)
    (hi : x.isActive c = false) : y.isActive c = false := by
  by_contra ha
  rw [h.isActive hc (by simpa using ha)] at hi
  cases hi

lemma Evolves.refl (seen : ℕ → Prop) (x : NativeXswdState) : Evolves seen x x where
  kept h := ⟨_, h, .refl _ _⟩
  made h hc := absurd (lt_length h) (not_lt.mpr hc)
  object := id
  revision := le_rfl
  givenUp h hq hc := by
    rw [isActive_of h, hq] at hc
    exact absurd (lt_length h) (not_lt.mpr (hc.resolve_left nofun))

lemma Evolves.trans (h₁ : Evolves seen x y) (h₂ : Evolves seen y z) : Evolves seen x z where
  kept h := by
    obtain ⟨q, hq, hk⟩ := h₁.kept h
    obtain ⟨u, hu, hk'⟩ := h₂.kept hq
    exact ⟨u, hu, hk.trans hk'⟩
  made {c u} hu hc ha := by
    by_cases hy : c < y.heap.length
    · -- made before `y`: admitted there, or listed since
      obtain ⟨v, hv, hk⟩ := h₂.kept (List.getElem?_eq_getElem hy)
      obtain rfl : v = u := Option.some.inj (hv.symm.trans hu)
      exact (hk.listed ha).elim (h₁.made (List.getElem?_eq_getElem hy) hc) id
    · exact h₂.made hu (not_lt.mp hy) ha
  object h := h₂.object (h₁.object h)
  revision := h₁.revision.trans h₂.revision
  givenUp {c u} hu hq hc := by
    by_cases hy : c < y.heap.length
    · cases ha : y.isActive c with
      | true => exact h₁.revision.trans_lt (h₂.givenUp hu hq (.inl ha))
      | false =>
        rw [isActive_of (List.getElem?_eq_getElem hy)] at ha
        exact (h₁.givenUp (List.getElem?_eq_getElem hy) ha hc).trans_le h₂.revision
    · exact h₁.revision.trans_lt (h₂.givenUp hu hq (.inr (not_lt.mp hy)))

lemma Moves.refl : Moves seen x x := fun h => ⟨h, .refl seen x⟩

lemma Moves.trans (h₁ : Moves seen x y) (h₂ : Moves seen y z) : Moves seen x z := fun hx =>
  ⟨(h₂ (h₁ hx).1).1, (h₁ hx).2.trans (h₂ (h₁ hx).1).2⟩

/-! ### The primitive changes -/

lemma modify_self (f : NativeXswdSessionCapability → NativeXswdSessionCapability)
    (h : x.heap[c]? = some p) : (x.modify c f).heap[c]? = some (f p) := by
  simp [modify, h]

lemma modify_ne (f : NativeXswdSessionCapability → NativeXswdSessionCapability) (h : c ≠ d) :
    (x.modify c f).heap[d]? = x.heap[d]? := by
  simp [modify, h]

@[simp]
lemma modify_length (f : NativeXswdSessionCapability → NativeXswdSessionCapability) :
    (x.modify c f).heap.length = x.heap.length := by
  simp [modify]

lemma moves_modify {f : NativeXswdSessionCapability → NativeXswdSessionCapability} {n : ℕ}
    (hf : ∀ p, x.heap[c]? = some p → Kept (seen c) p (f p)) (hn : x.revision ≤ n)
    (hrev : ∀ p, x.heap[c]? = some p → (f p).active = p.active ∨ x.revision < n) :
    Moves seen x { x.modify c f with revision := n } := by
  -- what the new heap has at a place
  have old : ∀ {d q}, (x.modify c f).heap[d]? = some q →
      ∃ p, x.heap[d]? = some p ∧ Kept (seen d) p q ∧ (q.active = p.active ∨ x.revision < n) := by
    intro d q hq
    by_cases hd : c = d
    · subst hd
      obtain ⟨p, hp⟩ : ∃ p, x.heap[c]? = some p := by
        have := lt_length hq
        rw [modify_length] at this
        exact ⟨_, List.getElem?_eq_getElem this⟩
      obtain rfl := Option.some.inj ((modify_self f hp).symm.trans hq)
      exact ⟨p, hp, hf p hp, hrev p hp⟩
    · rw [modify_ne f hd] at hq
      exact ⟨q, hq, .refl _ _, .inl rfl⟩
  have new : ∀ {d p}, x.heap[d]? = some p →
      ∃ q, (x.modify c f).heap[d]? = some q ∧ Kept (seen d) p q := by
    intro d p hp
    by_cases hd : c = d
    · subst hd
      exact ⟨_, modify_self f hp, hf p hp⟩
    · exact ⟨p, (modify_ne f hd).trans hp, .refl _ _⟩
  refine fun hx => ⟨⟨?_, ?_, ?_⟩, ⟨new, ?_, id, hn, ?_⟩⟩
  · intro r d h
    obtain ⟨p, hp, hr⟩ := hx.mapped h
    obtain ⟨q, hq, hk⟩ := new hp
    exact ⟨q, hq, hk.sessionRef.trans hr⟩
  · intro d q hq ha
    obtain ⟨p, hp, hk, -⟩ := old hq
    rw [hk.sessionRef]
    exact hx.active hp (hk.active ha)
  · intro a d h
    obtain ⟨n, native, p, ha, happ, hp, hr⟩ := hx.object h
    obtain ⟨q, hq, hk⟩ := new hp
    exact ⟨n, native, q, ha, happ, hq, hk.sessionRef.trans hr⟩
  · intro d q hq hd
    obtain ⟨p, hp, -⟩ := old hq
    exact absurd (lt_length hp) (not_lt.mpr hd)
  · intro d q hq hi hd
    obtain ⟨p, hp, -, hact⟩ := old hq
    rw [isActive_of hp] at hd
    obtain hact | hlt := hact
    · rw [← hact, hi] at hd
      exact absurd (lt_length hp) (not_lt.mpr (hd.resolve_left nofun))
    · exact hlt

lemma moves_drop : Moves seen x
    { x.modify c fun capability =>
        { capability with active := false, pendingApplicationDecision := false } with
      revision := x.revision + 1 } :=
  moves_modify (fun _ _ => ⟨rfl, nofun, id, .inl, nofun⟩) (Nat.le_succ _)
    fun _ _ => .inr (Nat.lt_succ_self _)

lemma moves_pend : Moves seen x
    (x.modify c fun capability => { capability with pendingApplicationDecision := true }) :=
  moves_modify (fun _ _ => ⟨rfl, id, id, .inl, fun _ _ _ => rfl⟩) le_rfl fun _ _ => .inl rfl

lemma moves_observe (h : seen c) : Moves seen x
    (x.modify c fun capability =>
      { capability with admitted := true, pendingApplicationDecision := false }) :=
  moves_modify (fun _ _ => ⟨rfl, id, fun _ => rfl, fun _ => .inr h, fun _ _ hs => absurd h hs⟩)
    le_rfl fun _ _ => .inl rfl

lemma moves_forget (h : x.isActive c = false) (hc : x.capabilities r = some c) : Moves seen x
    { x with capabilities := Function.update x.capabilities r none } := by
  refine fun hx => ⟨⟨?_, ?_, hx.object⟩, { Evolves.refl seen x with }⟩
  · intro r' d hd
    simp only [Function.update_apply] at hd
    split_ifs at hd
    exact hx.mapped hd
  · intro d p (hp : x.heap[d]? = some p) ha
    have hd := hx.active hp ha
    have hne : p.sessionRef ≠ r := by
      rintro rfl
      cases hc.symm.trans hd
      rw [isActive_of hp, ha] at h
      cases h
    simpa [hne] using hd

lemma moves_object (hp : x.heap[c]? = some p) (hr : p.sessionRef = native.sessionRef) :
    Moves seen x { x with
      applications := x.applications ++ [(native, xelisXswdApplicationFromGenerated native c)]
      applicationCapabilities := Function.update x.applicationCapabilities
        (.adapted x.applications.length) (some c) } := by
  refine fun hx => ⟨⟨hx.mapped, hx.active, ?_⟩, { Evolves.refl seen x with object := ?_ }⟩
  · intro a d h
    by_cases ha : a = .adapted x.applications.length
    · subst ha
      obtain rfl : c = d := by simpa using h
      exact ⟨_, native, p, rfl, by simp, hp, hr⟩
    · obtain ⟨n, native', q, rfl, happ, hq, hr'⟩ := hx.object (by simpa [ha] using h)
      refine ⟨n, native', q, rfl, ?_, hq, hr'⟩
      rwa [List.getElem?_append_left (List.getElem?_eq_some_iff.mp happ).1]
  · intro a d h
    obtain ⟨n, native', q, rfl, happ, -⟩ := hx.object h
    have hne : Ref.adapted n ≠ .adapted x.applications.length := by
      intro heq
      obtain rfl := Ref.adapted.inj heq
      exact absurd (List.getElem?_eq_some_iff.mp happ).1 (lt_irrefl _)
    simpa [hne] using h

/-! ### The operations -/

section CapabilityForNative

variable (x native)

lemma capabilityForNative_moves : Moves seen x (x.capabilityForNative native).2 := by
  unfold capabilityForNative
  cases hr : x.capabilities native.sessionRef with
  | some => exact .refl
  | none =>
    have old : ∀ {d q}, (x.heap ++ [⟨native.sessionRef, true, false, false⟩])[d]? = some q →
        x.heap[d]? = some q ∨ d = x.heap.length ∧ q = ⟨native.sessionRef, true, false, false⟩ := by
      intro d q hq
      obtain hd | hd := lt_or_ge d x.heap.length
      · rw [List.getElem?_append_left hd] at hq
        exact .inl hq
      rw [List.getElem?_append_right hd] at hq
      obtain ⟨hd', hq⟩ := List.getElem?_eq_some_iff.mp hq
      simp only [List.length_singleton] at hd'
      exact .inr ⟨by omega, by simpa using hq.symm⟩
    have new : ∀ {d q}, x.heap[d]? = some q →
        (x.heap ++ [⟨native.sessionRef, true, false, false⟩])[d]? = some q := fun hq => by
      rw [List.getElem?_append_left (lt_length hq)]; exact hq
    refine fun hx => ⟨⟨?_, ?_, ?_⟩, ⟨fun hp => ⟨_, new hp, .refl _ _⟩, ?_, id, le_rfl, ?_⟩⟩
    · intro r d hd
      by_cases h : r = native.sessionRef
      · subst h
        obtain rfl : x.heap.length = d := by simpa using hd
        exact ⟨_, List.getElem?_concat_length, rfl⟩
      · obtain ⟨p, hp, hpr⟩ := hx.mapped (by simpa [h] using hd)
        exact ⟨p, new hp, hpr⟩
    · intro d q hq ha
      obtain hq | ⟨rfl, rfl⟩ := old hq
      · have hd := hx.active hq ha
        have hne : q.sessionRef ≠ native.sessionRef := fun h => by simp [← h, hd] at hr
        simpa [hne] using hd
      · simp
    · intro a d h
      obtain ⟨n, native', p, ha, happ, hp, hpr⟩ := hx.object h
      exact ⟨n, native', p, ha, happ, new hp, hpr⟩
    · intro d q hq hd ha
      obtain hq | ⟨-, rfl⟩ := old hq
      · exact absurd (lt_length hq) (not_lt.mpr hd)
      · cases ha
    · intro d q hq hi hd
      obtain hq | ⟨-, rfl⟩ := old hq
      · rw [isActive_of hq, hi] at hd
        exact absurd (lt_length hq) (not_lt.mpr (hd.resolve_left nofun))
      · cases hi

variable {x} in
lemma capabilityForNative_wf (hx : x.WF) : (x.capabilityForNative native).2.WF :=
  ((capabilityForNative_moves x native : Moves (fun _ => True) x _) hx).1

lemma capabilityForNative_capabilities :
    (x.capabilityForNative native).2.capabilities native.sessionRef =
      some (x.capabilityForNative native).1 := by
  unfold capabilityForNative
  split <;> simp [*]

lemma capabilityForNative_revision :
    (x.capabilityForNative native).2.revision = x.revision := by
  unfold capabilityForNative
  split <;> rfl

variable {x} in
lemma capabilityForNative_mono (h : x.capabilities r = some c) :
    (x.capabilityForNative native).2.capabilities r = some c := by
  unfold capabilityForNative
  split
  · exact h
  next hn =>
  have hne : r ≠ native.sessionRef := by rintro rfl; simp [hn] at h
  simpa [hne] using h

variable {x} in
lemma capabilityForNative_heap (h : x.heap[c]? = some p) :
    (x.capabilityForNative native).2.heap[c]? = some p := by
  unfold capabilityForNative
  split
  · exact h
  · exact (List.getElem?_append_left (lt_length h)).trans h

end CapabilityForNative

lemma startDecision_moves : Moves seen x (x.startDecision native) :=
  (capabilityForNative_moves x native).trans moves_pend

lemma tombstone_moves : Moves seen x (x.tombstone c) := by
  unfold tombstone
  split
  · exact .refl
  split
  · exact moves_drop
  · exact .refl

lemma invalidate_moves : Moves seen x (x.invalidate c) := by
  unfold invalidate
  split
  · exact .refl
  next p hp =>
  split
  · exact .refl
  split
  · next hc => exact moves_drop.trans (moves_forget (isActive_of (modify_self _ hp)) hc)
  · exact moves_drop

lemma foldl_invalidate_moves (l : List ℕ) : Moves seen x (l.foldl invalidate x) := by
  induction l generalizing x with
  | nil => exact .refl
  | cons c l ih => exact invalidate_moves.trans ih

lemma mem_entries : c ∈ x.entries ↔
    ∃ p, x.heap[c]? = some p ∧ x.capabilities p.sessionRef = some c := by
  simp only [entries, List.mem_filter, List.mem_range, Option.any_eq_true, decide_eq_true_eq]
  exact ⟨And.right, fun h => ⟨lt_length h.choose_spec.1, h⟩⟩

lemma foldl_modify {f : NativeXswdSessionCapability → NativeXswdSessionCapability}
    (hf : ∀ p, f (f p) = f p) (l : List ℕ) (x : NativeXswdState) :
    ∃ heap, l.foldl (fun x c => x.modify c f) x = { x with heap } ∧
      ∀ d : ℕ, heap[d]? = if d ∈ l then x.heap[d]?.map f else x.heap[d]? := by
  induction l generalizing x with
  | nil => exact ⟨x.heap, rfl, fun d => by simp⟩
  | cons c l ih =>
    obtain ⟨heap, he, hd⟩ := ih (x.modify c f)
    refine ⟨heap, he, fun d => ?_⟩
    rw [hd]
    by_cases hc : c = d
    · subst hc
      cases hp : x.heap[c]? <;> simp [modify, hp, hf]
    · simp [modify_ne f hc, Ne.symm hc]

lemma invalidateAll_moves : Moves seen x x.invalidateAll := by
  intro hx
  obtain ⟨heap, he, hd⟩ := foldl_modify (f := fun capability =>
    { capability with active := false, pendingApplicationDecision := false }) (fun _ => rfl)
    x.entries x
  unfold invalidateAll
  rw [he]
  have new : ∀ {c p}, x.heap[c]? = some p → ∃ q, heap[c]? = some q ∧ Kept (seen c) p q := by
    intro c p hp
    rw [hd, hp]
    split
    · exact ⟨_, rfl, rfl, nofun, id, .inl, nofun⟩
    · exact ⟨p, rfl, .refl _ _⟩
  refine ⟨⟨nofun, ?_, ?_⟩, ⟨new, ?_, id, Nat.le_succ _, fun _ _ _ => Nat.lt_succ_self _⟩⟩
  · intro c q (hq : heap[c]? = some q) ha
    rw [hd] at hq
    split at hq
    · obtain ⟨p, -, rfl⟩ := Option.map_eq_some_iff.mp hq
      cases ha
    · next hc => exact absurd (mem_entries.mpr ⟨q, hq, hx.active hq ha⟩) hc
  · intro a c h
    obtain ⟨n, native, p, ha, happ, hp, hr⟩ := hx.object h
    obtain ⟨q, hq, hk⟩ := new hp
    exact ⟨n, native, q, ha, happ, hq, hk.sessionRef.trans hr⟩
  · intro c q (hq : heap[c]? = some q) hc
    rw [hd, List.getElem?_eq_none hc] at hq
    simp at hq

lemma startApplicationDisconnect_moves : Moves seen x (x.startApplicationDisconnect native) :=
  (capabilityForNative_moves x native).trans tombstone_moves

lemma startRequestCancellation_moves (b : Bool) :
    Moves seen x (x.startRequestCancellation native b) := by
  cases b with
  | true => exact startApplicationDisconnect_moves
  | false => exact .refl

lemma completeDecision_moves (outcome : DecisionCallbackOutcome) :
    Moves seen x (x.completeDecision native outcome) := by
  unfold completeDecision
  split
  · exact .refl
  split
  · split
    · exact moves_pend
    · exact invalidate_moves
  · exact .refl

lemma adaptApplication_capabilities (x : NativeXswdState) (native : AppInfo) (b : Bool) :
    (x.adaptApplication native b).capabilities = (x.capabilityForNative native).2.capabilities := by
  cases b <;> rfl

lemma adaptApplication_moves {b : Bool}
    (h : b = true → ∀ c, (x.adaptApplication native b).capabilities native.sessionRef = some c →
      seen c) : Moves seen x (x.adaptApplication native b) := by
  rw [adaptApplication_capabilities, capabilityForNative_capabilities] at h
  refine (capabilityForNative_moves x native).trans fun hy => ?_
  obtain ⟨p, hp, hr⟩ := hy.mapped (capabilityForNative_capabilities x native)
  cases b with
  | false => exact moves_object hp hr hy
  | true => exact (moves_observe (h rfl _ rfl)).trans (moves_object (modify_self _ hp) hr) hy

lemma startDecision_pending (hx : x.WF)
    (h : ((x.startDecision native).adaptApplication native false).capabilities native.sessionRef =
      some c) :
    ∃ p, ((x.startDecision native).adaptApplication native false).heap[c]? = some p ∧
      p.pendingApplicationDecision = true := by
  obtain ⟨q, hq, -⟩ := (capabilityForNative_wf native hx).mapped
    (capabilityForNative_capabilities x native)
  have hcap : (x.startDecision native).capabilities native.sessionRef =
      some (x.capabilityForNative native).1 := capabilityForNative_capabilities x native
  rw [adaptApplication_capabilities, capabilityForNative_mono native hcap] at h
  obtain rfl := Option.some.inj h
  have hheap := capabilityForNative_heap (x := x.startDecision native) native
    (modify_self (fun capability => { capability with pendingApplicationDecision := true }) hq)
  exact ⟨_, hheap, rfl⟩

lemma completeDecision_pending {outcome : DecisionCallbackOutcome} (hg : outcome.grants = true)
    (h : (x.completeDecision native outcome).capabilities native.sessionRef = some c)
    (ha : (x.completeDecision native outcome).isActive c = true) :
    ∃ p, (x.completeDecision native outcome).heap[c]? = some p ∧
      p.pendingApplicationDecision = true := by
  unfold completeDecision at h ha ⊢
  cases hd : x.capabilities native.sessionRef with
  | none => simp [hd] at h
  | some =>
    simp only [hd, hg, if_true] at h ha ⊢
    split at h
    · next hact =>
      obtain ⟨p, hp, -⟩ := isActive_iff.mp hact
      cases hd.symm.trans h
      simp only [hact, if_true]
      exact ⟨_, modify_self _ hp, rfl⟩
    · next hact =>
      cases hd.symm.trans h
      simp only [hact] at ha
      exact absurd ha hact

/-- The capability a native list has for one of its sessions. -/
def Lists (x : NativeXswdState) (applications : List AppInfo) (c : ℕ) : Prop :=
  ∃ native ∈ applications, (x.adaptApplications applications).capabilities native.sessionRef =
    some c

lemma adaptApplications_mono (applications : List AppInfo) (h : x.capabilities r = some c) :
    (x.adaptApplications applications).capabilities r = some c := by
  unfold adaptApplications
  induction applications generalizing x with
  | nil => exact h
  | cons native applications ih =>
    refine ih ?_
    rw [adaptApplication_capabilities]
    exact capabilityForNative_mono native h

lemma adaptApplications_moves (x : NativeXswdState) (applications : List AppInfo) :
    Moves (x.Lists applications) x (x.adaptApplications applications) := by
  -- along the list, with the capabilities that the whole list has
  suffices ∀ {seen : ℕ → Prop} l y, (∀ native ∈ l, ∀ c,
        (y.adaptApplications l).capabilities native.sessionRef = some c → seen c) →
      Moves seen y (y.adaptApplications l) from
    this applications x fun native hn c hc => ⟨native, hn, hc⟩
  intro seen l
  induction l with
  | nil => exact fun y _ => .refl
  | cons native l ih =>
    intro y h
    refine (adaptApplication_moves fun _ c hc => ?_).trans (ih _ fun n hn => h n (.tail _ hn))
    exact h native (.head _) c (adaptApplications_mono l hc)

lemma adaptApplications_revision (x : NativeXswdState) (applications : List AppInfo) :
    (x.adaptApplications applications).revision = x.revision := by
  unfold adaptApplications
  induction applications generalizing x with
  | nil => rfl
  | cons native applications ih => exact (ih _).trans (capabilityForNative_revision x native)

/-! ### What a state read keeps and removes -/

/-- The list of a state read is applied. -/
def applied (x : NativeXswdState) (applications : List AppInfo) : NativeXswdState :=
  (x.adaptApplications applications).reconcile applications

lemma applied_moves (x : NativeXswdState) (applications : List AppInfo) :
    Moves (x.Lists applications) x (x.applied applications) :=
  (adaptApplications_moves x applications).trans (foldl_invalidate_moves _)

variable {applications : List AppInfo}

lemma mem_stale : c ∈ x.stale applications ↔
    ∃ p, x.heap[c]? = some p ∧ x.capabilities p.sessionRef = some c ∧
      p.sessionRef ∉ applications.map AppInfo.sessionRef ∧
      p.pendingApplicationDecision = false := by
  simp only [stale, List.mem_filter, mem_entries, Option.any_eq_true, Bool.and_eq_true,
    Bool.not_eq_true', List.contains_eq_mem, decide_eq_false_iff_not]
  constructor
  · rintro ⟨⟨p, hp, hc⟩, q, hq, h⟩
    cases hp.symm.trans hq
    exact ⟨p, hp, hc, h⟩
  · rintro ⟨p, hp, hc, h⟩
    exact ⟨⟨p, hp, hc⟩, p, hp, h⟩

lemma invalidate_ne (h : c ≠ d) : (x.invalidate c).heap[d]? = x.heap[d]? := by
  unfold invalidate
  split
  · rfl
  split
  · rfl
  · exact modify_ne _ h

lemma invalidate_capabilities_ne (h : c ≠ d) (hd : x.capabilities r = some d) :
    (x.invalidate c).capabilities r = some d := by
  unfold invalidate
  split
  · exact hd
  split
  · exact hd
  next p _ _ =>
  simp only
  split
  · next hc =>
    have hne : r ≠ p.sessionRef := by
      rintro rfl
      exact h (Option.some.inj (hc.symm.trans hd))
    simpa [hne] using hd
  · exact hd

lemma invalidate_self (x : NativeXswdState) (c : ℕ) : (x.invalidate c).isActive c = false := by
  unfold invalidate
  split
  · next h => simp [isActive, h]
  next p hp =>
  split
  · next h =>
    rw [isActive_of hp]
    simpa using (Bool.and_eq_true_iff.mp h).1
  · exact isActive_of (modify_self _ hp)

/-- Reconciling leaves a capability that is not stale as it is. -/
lemma reconcile_of_not_stale (h : c ∉ x.stale applications) :
    (x.reconcile applications).heap[c]? = x.heap[c]? ∧
      ∀ r, x.capabilities r = some c → (x.reconcile applications).capabilities r = some c := by
  unfold reconcile
  generalize x.stale applications = stale at h
  induction stale generalizing x with
  | nil => exact ⟨rfl, fun _ => id⟩
  | cons d stale ih =>
    obtain ⟨hne, h⟩ := not_or.mp (mt List.mem_cons.mpr h)
    obtain ⟨h₁, h₂⟩ := ih (x := x.invalidate d) h
    exact ⟨h₁.trans (invalidate_ne (Ne.symm hne)), fun r hr =>
      h₂ r (invalidate_capabilities_ne (Ne.symm hne) hr)⟩

/-- Reconciling gives up a stale capability. -/
lemma reconcile_of_stale (hx : x.WF) (h : c ∈ x.stale applications) :
    (x.reconcile applications).isActive c = false := by
  obtain ⟨p, hp, -⟩ := mem_stale.mp h
  unfold reconcile
  generalize x.stale applications = stale at h
  have hc := lt_length hp
  clear hp
  induction stale generalizing x with
  | nil => cases h
  | cons d stale ih =>
    obtain ⟨hy, he⟩ : (x.invalidate d).WF ∧ Evolves (fun _ => False) x _ := invalidate_moves hx
    have hlen := hc.trans_le he.length
    obtain rfl | h := List.mem_cons.mp h
    · -- given up here, and not active again
      obtain ⟨-, he⟩ : _ ∧ Evolves (fun _ => False) _ _ := foldl_invalidate_moves stale hy
      exact he.inactive hlen (invalidate_self x c)
    · exact ih hy h hlen

lemma adaptApplications_unlisted (hx : x.WF) (hp : x.heap[c]? = some p)
    (hr : p.sessionRef ∉ applications.map AppInfo.sessionRef) :
    (x.adaptApplications applications).heap[c]? = some p := by
  unfold adaptApplications
  induction applications generalizing x with
  | nil => exact hp
  | cons native applications ih =>
    rw [List.map_cons, List.mem_cons, not_or] at hr
    have hmoves : Moves (fun _ => True) x (x.adaptApplication native true) :=
      adaptApplication_moves fun _ _ _ => trivial
    refine ih (hmoves hx).1 ?_ hr.2
    -- the capability that is marked is one of another session
    have hy := capabilityForNative_wf native hx
    obtain ⟨q, hq, hqr⟩ := hy.mapped (capabilityForNative_capabilities x native)
    have hp' := capabilityForNative_heap native hp
    refine (modify_ne _ ?_).trans hp'
    intro (hc : (x.capabilityForNative native).1 = c)
    rw [hc] at hq
    cases hq.symm.trans hp'
    exact hr.1 hqr

/-- **A state read keeps** an active capability that awaits a decision or that it lists. -/
theorem applied_keeps (hx : x.WF) (applications : List AppInfo) (hp : x.heap[c]? = some p)
    (ha : p.active = true) (h : p.pendingApplicationDecision = true ∨
      p.sessionRef ∈ applications.map AppInfo.sessionRef) :
    (x.applied applications).isActive c = true ∧
      (x.applied applications).capabilities p.sessionRef = some c := by
  obtain ⟨hy, he⟩ := adaptApplications_moves x applications hx
  obtain ⟨q, hq, hk⟩ := he.kept hp
  have hc := adaptApplications_mono applications (hx.active hp ha)
  -- adapting does not advance the revision, so it gives nothing up
  have hact : q.active = true := by
    by_contra hi
    have := he.givenUp hq (by simpa using hi) (.inl (isActive_iff.mpr ⟨p, hp, ha⟩))
    rw [adaptApplications_revision] at this
    exact absurd this (lt_irrefl _)
  have hns : c ∉ (x.adaptApplications applications).stale applications := by
    intro hst
    obtain ⟨q', hq', -, hr, hpend⟩ := mem_stale.mp hst
    cases hq.symm.trans hq'
    rw [hk.sessionRef] at hr
    have hns : ¬ x.Lists applications c := by
      rintro ⟨native, hn, hm⟩
      obtain ⟨q', hq', hqr⟩ := hy.mapped hm
      cases hq.symm.trans hq'
      exact hr (List.mem_map.mpr ⟨native, hn, hqr.symm.trans hk.sessionRef⟩)
    rw [hk.pending (h.resolve_right hr) hact hns] at hpend
    cases hpend
  obtain ⟨hheap, hmap⟩ := reconcile_of_not_stale hns
  exact ⟨isActive_iff.mpr ⟨q, hheap.trans hq, hact⟩, hmap _ hc⟩

/-- **A state read removes** an active capability that awaits no decision and that it does not
list. -/
theorem applied_removes (hx : x.WF) (hp : x.heap[c]? = some p) (ha : p.active = true)
    (hpend : p.pendingApplicationDecision = false)
    (hr : p.sessionRef ∉ applications.map AppInfo.sessionRef) :
    (x.applied applications).isActive c = false := by
  have hy := (adaptApplications_moves x applications hx).1
  have hq := adaptApplications_unlisted hx hp hr
  have hc := adaptApplications_mono applications (hx.active hp ha)
  exact reconcile_of_stale hy (mem_stale.mpr ⟨p, hq, hc, hr, hpend⟩)

end XelisWallet.DartXswd.NativeXswdState
