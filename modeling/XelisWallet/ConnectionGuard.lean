import XelisWallet.ConnectionHistory

/-!
The current attempt is the one whose guard is there.

The invariants of single calls hold in every reachable state of the wallet, and the guard of an
attempt makes it the only one that can install or record a connection.
-/

namespace XelisWallet.Connection

open Runs Handshake

variable {i : ℕ} {s s' : Shared} {v v' : Handshake} {w w' : Wallet} {act : Action}

/-- A move acquires the attempt, releases it, or leaves its guard alone. -/
lemma Move.guard (h : Move i s v s' v') (hc : v.Sound i) :
    (v'.holds = v.holds ∧ s'.current = s.current) ∨
    (v'.holds = true ∧ s.closed = false ∧ s.current = none ∧ s'.current = some i) ∨
    (v.holds = true ∧ v'.holds = false ∧
      s'.current = if s.current = some i then none else s.current) := by
  obtain h | h := h
  · have ha := hc.agrees
    cases h
    case acquires hp hk hn => exact .inr (.inl ⟨rfl, hk, hn, rfl⟩)
    case releases e hp =>
      refine .inr (.inr ⟨by simp [holds, hp], ?_, rfl⟩)
      simp_all [holds, pending, Handshake.Agrees, record, WorkerPhase.pending]
    case fails e r a f hp hr hv hf hs =>
      refine .inl ⟨?_, hs.current⟩
      cases hv : v.caller <;> simp_all [holds, pending, CallerPhase.fails, record]
    all_goals simp_all [holds, pending, record, WorkerPhase.pending]
  · obtain ⟨-, he, hl⟩ := h.spawned hc
    cases h
    case releases a f hq _ _ _ _ =>
      exact .inr (.inr ⟨by simp [holds, hq], by simp [holds,
        pending, WorkerPhase.pending, he, hl], rfl⟩)
    case unacknowledged h =>
      obtain ⟨hq, -⟩ | ⟨hq, -⟩ := h
      all_goals exact .inl ⟨by simp [holds, pending, WorkerPhase.pending, hq], rfl⟩
    case completes h =>
      obtain hq | hq := h
      all_goals
        exact .inl ⟨by simp [holds, pending, WorkerPhase.pending, hq], rfl⟩
    all_goals simp_all [holds, pending, WorkerPhase.pending]

/-- What holds of every call, and who is current. -/
structure Inv (w : Wallet) : Prop where
  consistent : ∀ i, (w.calls i).handshake.Consistent i
  closed : ∀ i, (w.calls i).handshake.Closed i
  guard : ∀ i, (w.calls i).handshake.holds = true ↔ w.shared.current = some i

lemma Inv.move (hi : Inv w)
    (hm : Move i w.shared (w.calls i).handshake w'.shared (w'.calls i).handshake)
    (ho : ∀ j, j ≠ i → w'.calls j = w.calls j) : Inv w' where
  consistent j := by
    by_cases hj : j = i
    · subst hj
      exact hm.consistent (hi.consistent j)
    · rw [ho j hj]
      exact hi.consistent j
  closed j := by
    by_cases hj : j = i
    · subst hj
      exact hm.closed (hi.consistent j) (hi.closed j)
    · rw [ho j hj]
      exact hi.closed j
  guard j := by
    have hg := hi.guard
    obtain ⟨hh, hs⟩ | ⟨hh, -, hn, hs⟩ | ⟨hh, hh', hs⟩ := hm.guard (hi.consistent i).sound
    · by_cases hj : j = i
      · subst hj
        rw [hh, hs]
        exact hg j
      · rw [ho j hj, hs]
        exact hg j
    · by_cases hj : j = i
      · subst hj
        simp [hh, hs]
      · rw [ho j hj, hg j, hn, hs]
        simp [Ne.symm hj]
    · rw [if_pos ((hg i).mp hh)] at hs
      by_cases hj : j = i
      · subst hj
        simp [hh', hs]
      · rw [ho j hj, hg j, (hg i).mp hh, hs]
        simp [Ne.symm hj]

lemma Calm.holds (h : Calm v v') : v'.holds = v.holds := by cases h; rfl

lemma Calm.pending (h : Calm v v') : v'.pending = v.pending := by cases h; rfl

lemma Evolves.each (h : Evolves w act w') (a : ℕ) :
    Calm (w.calls a).handshake (w'.calls a).handshake ∨
      Move a w.shared (w.calls a).handshake w'.shared (w'.calls a).handshake := by
  cases h with
  | calm act w' hc => exact .inl (hc a)
  | caller i input w' hm ho =>
    by_cases ha : a = i
    · subst ha
      exact .inr (.caller hm)
    · rw [ho a ha]
      exact .inl (.refl _)
  | worker i input w' hm ho =>
    by_cases ha : a = i
    · subst ha
      exact .inr (.worker hm)
    · rw [ho a ha]
      exact .inl (.refl _)

lemma Evolves.inv (h : Evolves w act w') (hi : Inv w) : Inv w' := by
  cases h with
  | calm act w' hc hs =>
    refine ⟨fun i => (hc i).consistent (hi.consistent i), fun i => (hc i).closed (hi.closed i),
      fun i => ?_⟩
    rw [(hc i).holds, hs.current]
    exact hi.guard i
  | caller i input w' hm ho => exact hi.move (.caller hm) ho
  | worker i input w' hm ho => exact hi.move (.worker hm) ho

theorem reachable_inv (hw : Reachable wallets w) : Inv w := by
  refine hw.invariant (P := Inv) ?_ fun w act w' _ hi hs => (step_evolves hs).inv hi
  rintro w rfl
  refine ⟨consistent_new, closed_new, fun i => ?_⟩
  simp [Wallet.initial, Call.handshake, Call.new, holds, pending, Caller.phase,
    Worker.phase, WorkerPhase.pending]

lemma Handshake.holds_of_pending (h : v.pending = true) : v.holds = true := by
  simp [holds, h]

lemma Inv.current_of_pending (hi : Inv w) (h : (w.calls i).handshake.pending = true) :
    w.shared.current = some i :=
  (hi.guard i).mp (holds_of_pending h)

lemma Evolves.handler (h : Evolves w act w') :
    w'.shared.handler = w.shared.handler ∨ w'.shared.handler = none ∨
      ∃ i input, act = .worker i input ∧ (w.calls i).handshake.worker = .connecting ∧
        w'.shared.handler = some i ∧
        (w'.calls i).history = (w.calls i).history ++ [.installed i] := by
  cases h with
  | calm act w' hc hs => exact hs.handler.imp_right .inl
  | caller i input w' hm =>
    generalize hs : w'.shared = s' at hm ⊢
    generalize hv : (w'.calls i).handshake = v' at hm
    cases hm
    case fails hs' => exact hs'.handler.imp_right .inl
    all_goals exact .inl rfl
  | worker i input w' hm =>
    have hh : (w'.calls i).handshake.history = (w'.calls i).history := rfl
    generalize hs : w'.shared = s' at hm ⊢
    generalize hv : (w'.calls i).handshake = v' at hm hh
    cases hm
    case installs hq => exact .inr (.inr ⟨i, input, rfl, hq, rfl, hh.symm⟩)
    case revoked => exact .inr (.inl rfl)
    case rolled => exact .inr (.inl rfl)
    all_goals exact .inl rfl

lemma Evolves.active (h : Evolves w act w') :
    w'.shared.active = w.shared.active ∨ w'.shared.active = none ∨
      ∃ i, (w.calls i).handshake.caller = .confirming := by
  cases h with
  | calm act w' hc hs => exact hs.active.imp_right .inl
  | caller i input w' hm =>
    generalize w'.shared = s' at hm ⊢
    generalize (w'.calls i).handshake = v' at hm
    cases hm
    case fails hs' => exact hs'.active.imp_right .inl
    case records hp _ => exact .inr (.inr ⟨i, hp⟩)
    all_goals exact .inl rfl
  | worker i input w' hm =>
    generalize w'.shared = s' at hm ⊢
    generalize (w'.calls i).handshake = v' at hm
    cases hm <;> exact .inl rfl

end XelisWallet.Connection
