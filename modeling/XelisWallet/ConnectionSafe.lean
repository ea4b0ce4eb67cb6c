import XelisWallet.ConnectionGuard

/-!
A connection is what its call returned, and disconnecting is a barrier.

A call that returns success left its own connection behind; a caller that gave up left none. Once
`close` returned, nothing is connected any more; `offline_mode` leaves nothing of the attempts
that were acquired before its cancellation.
-/

namespace XelisWallet.Connection

open Runs
open ErrorClassification (WalletError)

variable {i : ℕ} {s s' : Shared} {v v' : Handshake} {w w' : Wallet} {act : Action}

/-! ### Connections -/

variable {e : Event} {a : ℕ} {t : Task} {p : CancelPc}

lemma Evolves.moved (h : Evolves w act w')
    (hh : (w'.calls i).history = (w.calls i).history ++ [e]) :
    (∃ input, act = .caller i input ∧
      CallerMove i w.shared (w.calls i).handshake w'.shared (w'.calls i).handshake) ∨
    (∃ input, act = .worker i input ∧
      WorkerMove i w.shared (w.calls i).handshake w'.shared (w'.calls i).handshake) := by
  have other {j : ℕ} (ho : ∀ k, k ≠ j → w'.calls k = w.calls k) : j = i := by
    by_contra hj
    rw [ho i (Ne.symm hj)] at hh
    simp at hh
  cases h with
  | calm act w' hc =>
    have he : (w'.calls i).history = (w.calls i).history := (hc i).history
    rw [he] at hh
    simp at hh
  | caller j input w' hm ho =>
    obtain rfl := other ho
    exact .inl ⟨input, rfl, hm⟩
  | worker j input w' hm ho =>
    obtain rfl := other ho
    exact .inr ⟨input, rfl, hm⟩

lemma WorkerMove.installs_handler (h : WorkerMove i s v s' v')
    (hh : v'.history = v.history ++ [.installed a]) :
    a = i ∧ v.worker = .connecting ∧ s'.handler = some i := by
  cases h <;> simp_all [Handshake.record]

lemma CallerMove.records_active (h : CallerMove i s v s' v')
    (hh : v'.history = v.history ++ [.recorded a]) :
    v.caller = .confirming ∧ s'.active = some a := by
  cases h <;> simp_all [Handshake.record]

lemma CallerMove.wrote (h : CallerMove i s v s' v') (hh : v'.history = v.history ++ [e]) :
    v.CallerWrites e := by
  obtain hs | ⟨e', hs, hw⟩ := h.history
  · simp [hh] at hs
  rw [hh] at hs
  simp only [List.append_cancel_left_eq, List.cons.injEq, and_true] at hs
  exact hs ▸ hw

lemma WorkerMove.wrote (h : WorkerMove i s v s' v') (hh : v'.history = v.history ++ [e]) :
    v.WorkerWrites i e := by
  obtain hs | ⟨e', hs, hw⟩ := h.history
  · simp [hh] at hs
  rw [hh] at hs
  simp only [List.append_cancel_left_eq, List.cons.injEq, and_true] at hs
  exact hs ▸ hw

lemma Evolves.installs (h : Evolves w act w')
    (hh : (w'.calls i).history = (w.calls i).history ++ [.installed a]) :
    a = i ∧ (∃ input, act = .worker i input) ∧ (w.calls i).handshake.worker = .connecting ∧
      w'.shared.handler = some i := by
  obtain ⟨input, hact, hm⟩ | ⟨input, hact, hm⟩ := h.moved hh
  · exact (hm.wrote hh).elim
  · obtain ⟨ha, hq, hs⟩ := hm.installs_handler hh
    exact ⟨ha, ⟨input, hact⟩, hq, hs⟩

lemma Evolves.records (h : Evolves w act w')
    (hh : (w'.calls i).history = (w.calls i).history ++ [.recorded a]) :
    (∃ input, act = .caller i input) ∧ (w.calls i).handshake.caller = .confirming ∧
      w'.shared.active = some a := by
  obtain ⟨input, hact, hm⟩ | ⟨input, hact, hm⟩ := h.moved hh
  · exact ⟨⟨input, hact⟩, hm.records_active hh⟩
  · exact (hm.wrote hh).elim

lemma Handshake.Sound.pending_of_confirming (hc : v.Sound i) (hp : v.caller = .confirming) :
    v.pending = true := by
  have ha := hc.agrees
  simp only [Handshake.Agrees, hp] at ha
  refine Handshake.pending_of_worker rfl ?_
  cases hq : v.worker <;> simp_all [WorkerPhase.joined, WorkerPhase.pending]

/-- **A connection is what its call returned.** At most one attempt is current, and only its own
worker installs a handler. A call returns success only if its worker installed the handler of the
API that became active, did not roll it back, and the attempt was not cancelled when it completed;
if the caller gave up, whatever its worker installed is rolled back before the attempt
completes. -/
theorem connections_agree (hw : Reachable wallets w) :
    (∀ i, (w.calls i).handshake.holds = true ↔ w.shared.current = some i) ∧
    (∀ act w', w.step act = some w' → w'.shared.handler ≠ w.shared.handler →
      w'.shared.handler ≠ none →
      ∃ i, (w'.calls i).history = (w.calls i).history ++ [.installed i]) ∧
    (∀ act w' i a, w.step act = some w' →
      (w'.calls i).history = (w.calls i).history ++ [.installed a] →
      (∃ input, act = .worker i input) ∧ w.shared.current = some i ∧ a = i ∧
        w'.shared.handler = some i) ∧
    (∀ act w' i a, w.step act = some w' →
      (w'.calls i).history = (w.calls i).history ++ [.recorded a] →
      (∃ input, act = .caller i input) ∧ w.shared.current = some i ∧
        w'.shared.active = some a) ∧
    (∀ i, .returned (.ok ()) ∈ (w.calls i).history →
      ∃ api, .installed api ∈ (w.calls i).history ∧ .recorded api ∈ (w.calls i).history ∧
        .rolledBack ∉ (w.calls i).history ∧ .completed false ∈ (w.calls i).history ∧
        .completed true ∉ (w.calls i).history) ∧
    (∀ i, .gaveUp ∈ (w.calls i).history → ∀ api, .installed api ∈ (w.calls i).history →
      ∀ pre b post, (w.calls i).history = pre ++ .completed b :: post → .rolledBack ∈ pre) := by
  have hi := reachable_inv hw
  refine ⟨hi.guard, ?_, ?_, ?_, ?_, ?_⟩
  · intro act w' hs hn hn'
    obtain h | h | ⟨i, input, -, -, -, hh⟩ := (step_evolves hs).handler
    · exact (hn h).elim
    · exact (hn' h).elim
    · exact ⟨i, hh⟩
  · intro act w' i a hs hh
    obtain ⟨ha, hact, hq, hh⟩ := (step_evolves hs).installs hh
    exact ⟨hact, hi.current_of_pending (Handshake.pending_of_worker hq rfl), ha, hh⟩
  · intro act w' i a hs hh
    obtain ⟨hact, hp, ha⟩ := (step_evolves hs).records hh
    exact ⟨hact, hi.current_of_pending ((hi.consistent i).sound.pending_of_confirming hp), ha⟩
  · intro i hm
    obtain ⟨hin, hr, hb, hk⟩ := (hi.closed i).succeeded hm
    refine ⟨i, hin, hr, hb, hk, fun hk' => ?_⟩
    cases (hi.closed i).once _ _ hk hk'
  · intro i hg api hin pre b post hh
    obtain rfl := (hi.consistent i).worker.same api hin
    refine ((hi.closed api).settled pre b post hh hin).resolve_right fun hf => ?_
    rw [((hi.consistent api).caller.gaveUp hg).1] at hf
    cases hf

/-- A call that connects: the caller up to the spawn, the worker up to its result, the caller up to
the second acknowledgement, the worker to its end, and the caller. -/
def connecting (i : ℕ) : List Action :=
  [.caller i (.start 1000), .caller i (.online false), .caller i .go, .caller i .go,
    .worker i (.connected (.ok ())), .worker i .go, .worker i .go, .worker i (.info (.ok ())),
    .worker i .go, .worker i .go, .worker i .go, .worker i (.online (.ok ()))] ++
  List.replicate 3 (.worker i .go) ++ List.replicate 7 (.caller i .go) ++
  List.replicate 6 (.worker i .go) ++ List.replicate 3 (.caller i .go)

theorem connecting_agrees : ∃ w, Reachable wallets w ∧ w.shared.active = some 0 ∧
    .returned (.ok ()) ∈ (w.calls 0).history ∧ .rolledBack ∉ (w.calls 0).history := by
  obtain ⟨w, hw, ha, hh⟩ : ∃ w, Reachable wallets w ∧ w.shared.active = some 0 ∧
      (w.calls 0).history =
        [.installed 0, .recorded 0, .finalized, .completed false, .returned (.ok ())] :=
    ⟨_, reachable_initial.exec (fun _ _ _ h => h) (connecting 0) rfl, rfl, rfl⟩
  have hr : .returned (.ok ()) ∈ (w.calls 0).history := by simp [hh]
  obtain ⟨-, -, -, -, hok, -⟩ := connections_agree hw
  obtain ⟨api, -, -, hb, -⟩ := hok 0 hr
  exact ⟨w, hw, ha, hr, hb⟩

/-! ### The barrier -/

variable {k : ℕ}

namespace Wallet

/-- No attempt is pending, so nothing can be installed or recorded. -/
def Quiet (w : Wallet) : Prop := ∀ j, (w.calls j).handshake.pending = false

/-- A call of `online_mode` acquires an attempt. -/
def Acquires (w w' : Wallet) : Prop := w.shared.current = none ∧ w'.shared.current ≠ none

/-- While a cancellation goes on, only the attempt that it found is pending. -/
def Only (w : Wallet) (p : CancelPc) : Prop :=
  ∀ a, p.target = some a → ∀ j, (w.calls j).handshake.pending = true → j = a

/-- What a call of `offline_mode` or `close` has achieved, unless an attempt was acquired after its
cancellation. -/
def Ahead (w : Wallet) (k : ℕ) : Prop :=
  match (w.cancellers k).pc with
  | .idle => True
  | .cancelling p => w.Only p
  | .take => w.Quiet
  | .shut _ => w.Quiet ∧ w.shared.active = none
  | .returned _ => w.Quiet ∧ w.shared.active = none ∧ w.shared.handler = none

end Wallet

/-- The steps that acquire nothing. -/
def unacquiring : System Wallet Action where
  init := wallets.init
  step w act w' := w.step act = some w' ∧ ¬w.Acquires w'

lemma Handshake.Sound.not_holds (hc : v.Sound i) (hf : v.caller = .fresh) : v.holds = false := by
  have ha := hc.agrees
  simp only [Handshake.Agrees, hf] at ha
  simp [Handshake.holds, Handshake.pending, WorkerPhase.pending, hf, ha]

variable (h : Evolves w act w')
include h

lemma Evolves.pending {j : ℕ} (hi : Inv w) (hp : (w'.calls j).handshake.pending = true) :
    (w.calls j).handshake.pending = true ∨ w.Acquires w' ∧ w.shared.closed = false := by
  obtain hc | hm := h.each j
  · exact .inl (hc.pending ▸ hp)
  obtain ⟨hf, -⟩ | ⟨hp, -⟩ := hm.was_pending (hi.consistent j).sound hp
  · have hn := (hi.consistent j).sound.not_holds hf
    have hh := Handshake.holds_of_pending hp
    obtain ⟨he, -⟩ | ⟨-, hk, hc, hs⟩ | ⟨he, -⟩ := hm.guard (hi.consistent j).sound
    · simp [he, hn] at hh
    · exact .inr ⟨⟨hc, by simp [hs]⟩, hk⟩
    · simp [hn] at he
  · exact .inl hp

lemma Evolves.acquires (hi : Inv w) (ha : w.Acquires w') : w.shared.closed = false := by
  obtain ⟨hn, hs⟩ := ha
  have of_move {i : ℕ}
      (hm : Move i w.shared (w.calls i).handshake w'.shared (w'.calls i).handshake) :
      w.shared.closed = false := by
    obtain ⟨-, he⟩ | ⟨-, hk, -⟩ | ⟨-, -, he⟩ := hm.guard (hi.consistent i).sound
    · exact (hs (he.trans hn)).elim
    · exact hk
    · simp [hn] at he
      exact (hs he).elim
  cases h with
  | calm act w' hc he => exact (hs (he.current.trans hn)).elim
  | caller i input w' hm => exact of_move (.caller hm)
  | worker i input w' hm => exact of_move (.worker hm)

lemma Evolves.quiet (hi : Inv w) (hq : w.Quiet) :
    (w'.shared.active = w.shared.active ∨ w'.shared.active = none) ∧
    (w'.shared.handler = w.shared.handler ∨ w'.shared.handler = none) := by
  constructor
  · obtain ha | ha | ⟨i, hp⟩ := h.active
    · exact .inl ha
    · exact .inr ha
    have := (hi.consistent i).sound.pending_of_confirming hp
    rw [hq i] at this
    cases this
  · obtain ha | ha | ⟨i, -, -, hp, -⟩ := h.handler
    · exact .inl ha
    · exact .inr ha
    have : (w.calls i).handshake.pending = true := Handshake.pending_of_worker hp rfl
    rw [hq i] at this
    cases this

lemma Evolves.keeps_quiet (hi : Inv w) (hn : ¬w.Acquires w') (hq : w.Quiet) : w'.Quiet := by
  intro j
  by_contra hp
  obtain hp | ⟨ha, -⟩ := h.pending hi (by simpa using hp)
  · rw [hq j] at hp
    cases hp
  · exact hn ha

omit h

lemma Wallet.Ahead.other (ha : w.Ahead k) (h : Evolves w act w') (hi : Inv w)
    (hn : ¬w.Acquires w') (hk : w'.cancellers k = w.cancellers k) : w'.Ahead k := by
  unfold Wallet.Ahead at ha ⊢
  rw [hk]
  generalize (w.cancellers k).pc = pc at ha ⊢
  cases pc with
  | idle => trivial
  | cancelling =>
    intro a hp j hj
    obtain hj | ⟨hj, -⟩ := h.pending hi hj
    · exact ha a hp j hj
    · exact (hn hj).elim
  | take => exact h.keeps_quiet hi hn ha
  | shut =>
    obtain ⟨hq, hv⟩ := ha
    obtain ⟨hv', -⟩ := h.quiet hi hq
    exact ⟨h.keeps_quiet hi hn hq, hv'.elim (·.trans hv) id⟩
  | returned =>
    obtain ⟨hq, hv, hh⟩ := ha
    obtain ⟨hv', hh'⟩ := h.quiet hi hq
    exact ⟨h.keeps_quiet hi hn hq, hv'.elim (·.trans hv) id, hh'.elim (·.trans hh) id⟩

lemma setCanceller_self (w : Wallet) (k : ℕ) (p : CancellerPc) :
    ((w.setCanceller k p).cancellers k).pc = p := by
  simp [Wallet.setCanceller]

lemma setCanceller_terminal (w : Wallet) (k : ℕ) (p : CancellerPc) :
    ((w.setCanceller k p).cancellers k).terminal = (w.cancellers k).terminal := by
  simp [Wallet.setCanceller]

lemma setCanceller_of_ne {j : ℕ} (hk : k ≠ j) (w : Wallet) (p : CancellerPc) :
    (w.setCanceller j p).cancellers k = w.cancellers k := by
  simp [Wallet.setCanceller, hk]

lemma CancelStep.only {terminal : Bool} {p' : CancelPc} (h : CancelStep w t terminal p w' (some p'))
    (hi : Inv w) (ho : w.Only p) : w'.Only p' := by
  intro a ha j hj
  rw [(h.calm j).pending] at hj
  generalize hq : some p' = q at h
  cases h with
  | starts =>
    rw [hi.current_of_pending hj] at hq
    cases hq
    exact Option.some.inj ha
  | touches b p p' att ht =>
    cases hq
    rw [ht.target.2] at ha
    cases ha
    exact ho a ht.target.1 j hj
  | waits =>
    obtain ⟨p₁, rfl, rfl⟩ := Option.map_eq_some_iff.mp hq.symm
    cases ha
    exact ho a rfl j hj

lemma CancelStep.quiet {terminal : Bool} (h : CancelStep w t terminal p w' none) (hi : Inv w)
    (ho : w.Only p) : w'.Quiet := by
  intro j
  by_contra hj
  rw [h.calls_of_none] at hj
  have hj : (w.calls j).handshake.pending = true := by simpa using hj
  generalize hq : none = q at h
  cases h with
  | starts =>
    rw [hi.current_of_pending hj] at hq
    cases hq
  | touches => cases hq
  | waits b p p' hp =>
    obtain rfl := Option.map_eq_none_iff.mp hq.symm
    obtain rfl := ho b rfl j hj
    have hd : (w.calls j).handshake.completed = true := waitCompleted_returns hp
    rw [((hi.closed j).pending hj).1] at hd
    cases hd

lemma Wallet.Ahead.own {input : CancellerInput} (ha : w.Ahead k)
    (h : w.step (.canceller k input) = some w') (hi : Inv w) : w'.Ahead k := by
  unfold Wallet.Ahead at ha ⊢
  cases step_acts h with
  | starts => simp [Wallet.Only, CancelPc.target]
  | cancels k p p' w₁ hp hc =>
    rw [hp] at ha
    rw [setCanceller_self]
    exact hc.only hi ha
  | cancelled k p w₁ hp hc =>
    rw [hp] at ha
    rw [setCanceller_self]
    exact hc.quiet hi ha
  | takes k hp =>
    rw [hp] at ha
    rw [setCanceller_self]
    exact ⟨ha, rfl⟩
  | shuts k active result r hp =>
    rw [hp] at ha
    rw [setCanceller_self]
    exact ⟨ha.1, ha.2, rfl⟩

lemma ahead_start (hp : (w.cancellers k).pc = .cancelling .start) : w.Ahead k := by
  simp [Wallet.Ahead, Wallet.Only, hp, CancelPc.target]

lemma step_cancellers (h : w.step act = some w') (hk : ∀ input, act ≠ .canceller k input) :
    w'.cancellers k = w.cancellers k := by
  have other {j : ℕ} {input : CancellerInput} (hj : act = .canceller j input) : k ≠ j := by
    rintro rfl
    exact hk input hj
  cases step_acts h with
  | calls | works => rfl
  | timesOut _ _ _ _ _ hc | timedOut _ _ _ _ hc => exact congrFun hc.cancellers k
  | starts => exact Function.update_of_ne (other rfl) ..
  | drops _ _ _ _ _ _ hc => exact congrFun hc.cancellers k
  | cancels _ _ _ _ _ hc | cancelled _ _ _ _ hc =>
    rw [setCanceller_of_ne (other rfl)]
    exact congrFun hc.cancellers k
  | takes | shuts => exact setCanceller_of_ne (other rfl) ..

lemma Wallet.Ahead.step (ha : w.Ahead k) (h : w.step act = some w') (hi : Inv w)
    (hn : ¬w.Acquires w') : w'.Ahead k := by
  by_cases hk : ∃ input, act = .canceller k input
  · obtain ⟨input, rfl⟩ := hk
    exact ha.own h hi
  · exact ha.other (step_evolves h) hi hn (step_cancellers h (not_exists.mp hk))

/-- A call is ahead of its cancellation as long as nothing is acquired. -/
lemma run_ahead {acts : List Action} (hr : Run unacquiring w acts w') (hw : Reachable wallets w)
    (ha : w.Ahead k) : Reachable wallets w' ∧ w'.Ahead k := by
  refine hr.preserves (P := fun w => Reachable wallets w ∧ w.Ahead k) ?_ ⟨hw, ha⟩
  intro u act u' ⟨hu, ha⟩ ⟨hs, hn⟩
  exact ⟨hu.step hs, ha.step hs (reachable_inv hu) hn⟩

/-! ### Closing -/

/-- The cancellation has begun. -/
def CancellerPc.started : CancellerPc → Bool
  | .idle | .cancelling .start => false
  | _ => true

/-- The entries of a connection. -/
def Event.connects : Event → Bool
  | .installed _ | .recorded _ => true
  | _ => false

lemma Evolves.closed (h : Evolves w act w') (hk : w.shared.closed = true) :
    w'.shared.closed = true := by
  cases h with
  | calm act w' hc hs => exact hs.closed hk
  | caller i input w' hm =>
    generalize w'.shared = s' at hm ⊢
    generalize (w'.calls i).handshake = v' at hm
    cases hm
    case fails hs => exact hs.closed hk
    all_goals exact hk
  | worker i input w' hm =>
    generalize w'.shared = s' at hm ⊢
    generalize (w'.calls i).handshake = v' at hm
    cases hm <;> exact hk

lemma CancelStep.closes {q : Option CancelPc} (h : CancelStep w t true p w' q) (hp : p = .start) :
    w'.shared.closed = true := by
  cases h with
  | starts => simp
  | touches a p p' att ht =>
    rw [hp] at ht
    cases ht
  | waits => cases hp

lemma step_started {input : CancellerInput} (h : w.step (.canceller k input) = some w')
    (ht : (w'.cancellers k).terminal = true) (hs : (w'.cancellers k).pc.started = true) :
    (w.cancellers k).terminal = true ∧ ((w.cancellers k).pc.started = true ∨
        (w.cancellers k).pc = .cancelling .start ∧ w'.shared.closed = true) := by
  have begins {p : CancelPc} {w₁ : Wallet} {q : Option CancelPc}
      (hp : (w.cancellers k).pc = .cancelling p) (ht : (w₁.cancellers k).terminal = true)
      (hc : CancelStep w (.canceller k) (w.cancellers k).terminal p w₁ q) :
      (w.cancellers k).terminal = true ∧ ((w.cancellers k).pc.started = true ∨
        (w.cancellers k).pc = .cancelling .start ∧ w₁.shared.closed = true) := by
    rw [hc.cancellers] at ht
    rw [ht] at hc
    refine ⟨ht, ?_⟩
    by_cases hs : p = .start
    · exact .inr ⟨by rw [hp, hs], hc.closes hs⟩
    left
    rw [hp]
    cases p <;> first | rfl | exact (hs rfl).elim
  cases step_acts h with
  | starts => simp [CancellerPc.started] at hs
  | cancels _ _ _ _ hp hc | cancelled _ _ _ hp hc =>
    rw [setCanceller_terminal] at ht
    have hb := begins hp ht hc
    exact hb
  | takes _ hp | shuts _ _ _ _ hp =>
    rw [setCanceller_terminal] at ht
    exact ⟨ht, .inl (by rw [hp]; rfl)⟩

/-- A terminal cancellation closes the wallet, and nothing gets in its way. -/
lemma reachable_closing (hw : Reachable wallets w) (ht : (w.cancellers k).terminal = true)
    (hs : (w.cancellers k).pc.started = true) : w.shared.closed = true ∧ w.Ahead k := by
  revert ht hs
  refine hw.invariant (P := fun w => (w.cancellers k).terminal = true →
    (w.cancellers k).pc.started = true → w.shared.closed = true ∧ w.Ahead k) ?_ ?_
  · rintro w rfl ht
    cases ht
  intro w act w' hw ih hstep ht hs
  have hi := reachable_inv hw
  by_cases hk : ∃ input, act = .canceller k input
  · obtain ⟨input, rfl⟩ := hk
    obtain ⟨ht, hs | ⟨hp, hc⟩⟩ := step_started hstep ht hs
    · obtain ⟨hc, ha⟩ := ih ht hs
      exact ⟨(step_evolves hstep).closed hc, ha.own hstep hi⟩
    · exact ⟨hc, (ahead_start hp).own hstep hi⟩
  · have hsame := step_cancellers hstep (not_exists.mp hk)
    rw [hsame] at ht hs
    obtain ⟨hc, ha⟩ := ih ht hs
    refine ⟨(step_evolves hstep).closed hc, ha.step hstep hi fun hn => ?_⟩
    rw [(step_evolves hstep).acquires hi hn] at hc
    cases hc

lemma Evolves.history (h : Evolves w act w') (i : ℕ) : (w'.calls i).history = (w.calls i).history ∨
    ∃ e, (w'.calls i).history = (w.calls i).history ++ [e] ∧
    ((w.calls i).handshake.CallerWrites e ∨ (w.calls i).handshake.WorkerWrites i e) := by
  cases h with
  | calm act w' hc => exact .inl (hc i).history
  | caller j input w' hm ho =>
    by_cases hj : i = j
    · subst hj
      exact (Move.caller hm).history
    · exact .inl (by rw [ho i hj])
  | worker j input w' hm ho =>
    by_cases hj : i = j
    · subst hj
      exact (Move.worker hm).history
    · exact .inl (by rw [ho i hj])

lemma Evolves.connects (h : Evolves w act w') (hi : Inv w) (hq : w.Quiet) (i : ℕ) :
    (w'.calls i).history.filter Event.connects = (w.calls i).history.filter Event.connects := by
  obtain hh | ⟨e, hh, hw⟩ := h.history i
  · rw [hh]
  have hn : e.connects = false := by
    by_contra he
    have hp : (w.calls i).handshake.pending = true := by
      cases e with
      | installed =>
        obtain hw | ⟨hw, -⟩ := hw
        · exact hw.elim
        · exact Handshake.pending_of_worker hw rfl
      | recorded =>
        obtain ⟨hw, -⟩ | hw := hw
        · exact (hi.consistent i).sound.pending_of_confirming hw
        · exact hw.elim
      | _ => exact (he rfl).elim
    rw [hq i] at hp
    cases hp
  rw [hh, List.filter_append, List.filter_cons_of_neg (by simp [hn]), List.filter_nil,
    List.append_nil]

/-- What a call of `close` leaves behind. -/
structure Shut (k : ℕ) (r : Except WalletError Unit) (w : Wallet) : Prop where
  reachable : Reachable wallets w
  terminal : (w.cancellers k).terminal = true
  returned : (w.cancellers k).pc = .returned r

lemma Shut.ahead {r : Except WalletError Unit} (h : Shut k r w) :
    w.shared.closed = true ∧ w.Quiet ∧ w.shared.active = none ∧ w.shared.handler = none := by
  have hs : (w.cancellers k).pc.started = true := by
    rw [h.returned]
    rfl
  obtain ⟨hc, ha⟩ := reachable_closing h.reachable h.terminal hs
  simp only [Wallet.Ahead, h.returned] at ha
  exact ⟨hc, ha⟩

lemma Shut.step {r : Except WalletError Unit} (h : Shut k r w) (hs : w.step act = some w') :
    Shut k r w' := by
  have hk : w'.cancellers k = w.cancellers k := by
    refine step_cancellers hs ?_
    rintro input rfl
    have hr := h.returned
    cases step_acts hs <;> simp_all
  exact ⟨h.reachable.step hs, by rw [hk, h.terminal], by rw [hk, h.returned]⟩

/-- **Disconnecting is a barrier.** Once `close` returned, nothing is active or installed, and no
step of any caller or worker records or installs anything again; when `offline_mode` returns,
nothing is active or installed, if no attempt was acquired after its cancellation began. -/
theorem disconnecting_barrier (hw : Reachable wallets w) :
    (∀ k r, (w.cancellers k).terminal = true → (w.cancellers k).pc = .returned r →
      ∀ acts w', Run wallets w acts w' →
        w'.shared.active = none ∧ w'.shared.handler = none ∧
        ∀ i, (w'.calls i).history.filter Event.connects =
          (w.calls i).history.filter Event.connects) ∧
    (∀ k w₁, (w.cancellers k).pc = .cancelling .start → w.step (.canceller k .go) = some w₁ →
      ∀ acts w₂ r, Run unacquiring w₁ acts w₂ → (w₂.cancellers k).pc = .returned r →
        w₂.shared.active = none ∧ w₂.shared.handler = none) := by
  constructor
  · intro k r ht hr acts w' hrun
    have hkept : Shut k r w' ∧ ∀ i, (w'.calls i).history.filter Event.connects =
        (w.calls i).history.filter Event.connects := by
      refine hrun.preserves (P := fun u => Shut k r u ∧ ∀ i,
        (u.calls i).history.filter Event.connects =
          (w.calls i).history.filter Event.connects) ?_ ⟨⟨hw, ht, hr⟩, fun _ => rfl⟩
      intro u act u' ⟨hu, hh⟩ hs
      obtain ⟨-, hq, -⟩ := hu.ahead
      refine ⟨hu.step hs, fun i => ?_⟩
      exact ((step_evolves hs).connects (reachable_inv hu.reachable) hq i).trans (hh i)
    obtain ⟨-, -, ha, hh⟩ := hkept.1.ahead
    exact ⟨ha, hh, hkept.2⟩
  · intro k w₁ hp hs acts w₂ r hrun hr
    have h₁ : w₁.Ahead k := (ahead_start hp).own hs (reachable_inv hw)
    obtain ⟨-, h₂⟩ := run_ahead hrun (hw.step hs) h₁
    simp only [Wallet.Ahead, hr] at h₂
    exact h₂.2

/-- A connected wallet goes offline and is closed. -/
theorem connected_disconnects : ∃ w w₁ w₂ w₃, Reachable wallets w ∧ w.shared.active = some 0 ∧
    w.step (.canceller 0 .go) = some w₁ ∧
    Run unacquiring w₁ [.canceller 0 .go, .canceller 0 (.offlined (.ok ()))] w₂ ∧
    (w₂.shared.active = none ∧ w₂.shared.handler = none) ∧
    Run wallets w₂ [.canceller 1 (.start true), .canceller 1 .go, .canceller 1 .go,
      .canceller 1 (.offlined (.ok ()))] w₃ ∧
    (w₃.shared.active = none ∧ w₃.shared.handler = none) := by
  obtain ⟨w, hw, ha, w₁, h₁, u, hu, w₂, h₂, w₃, h₃, hp, hn, hn', hr, ht, hr'⟩ :
      ∃ w, Reachable wallets w ∧ w.shared.active = some 0 ∧
      ∃ w₁, w.step (.canceller 0 .go) = some w₁ ∧
      ∃ u, w₁.step (.canceller 0 .go) = some u ∧
      ∃ w₂, u.step (.canceller 0 (.offlined (.ok ()))) = some w₂ ∧
      ∃ w₃, Run wallets w₂ [.canceller 1 (.start true), .canceller 1 .go, .canceller 1 .go,
        .canceller 1 (.offlined (.ok ()))] w₃ ∧
      (w.cancellers 0).pc = .cancelling .start ∧ u.shared.current = none ∧
      w₂.shared.current = none ∧ (w₂.cancellers 0).pc = .returned (.ok ()) ∧
      (w₃.cancellers 1).terminal = true ∧ (w₃.cancellers 1).pc = .returned (.ok ()) := by
    refine ⟨_, reachable_initial.exec (fun _ _ _ h => h)
      (connecting 0 ++ [.canceller 0 (.start false)]) rfl, rfl, _, rfl, _, rfl, _, rfl, _,
      .exec (fun _ _ _ h => h) _ rfl, rfl, rfl, rfl, rfl, rfl, rfl⟩
  have hs : unacquiring.step w₁ (.canceller 0 .go) u := ⟨hu, fun h => h.2 hn⟩
  have hs' : unacquiring.step u (.canceller 0 (.offlined (.ok ()))) w₂ :=
    ⟨h₂, fun h => h.2 hn'⟩
  have hrun : Run unacquiring w₁ [.canceller 0 .go, .canceller 0 (.offlined (.ok ()))] w₂ :=
    (Run.single hs).snoc hs'
  have hw₂ : Reachable wallets w₂ := ((hw.step h₁).step hu).step h₂
  obtain ⟨-, hoff⟩ := disconnecting_barrier hw
  obtain ⟨hclose, -⟩ := disconnecting_barrier (hw₂.run h₃)
  obtain ⟨hc, hc', -⟩ := hclose 1 _ ht hr' [] w₃ (.nil w₃)
  exact ⟨w, w₁, w₂, w₃, hw, ha, h₁, hrun, hoff 0 w₁ hp h₁ _ w₂ _ hrun hr, h₃, hc, hc'⟩

end XelisWallet.Connection
