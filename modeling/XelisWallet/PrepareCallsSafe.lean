import XelisWallet.PrepareCalls

/-!
A preparation gives the slot back.

While a function has the guard, no other operation changes the slot, so what was ready before is
ready when the guard is dropped. A function without the guard does not change the slot at all.
-/

namespace XelisWallet.Prepare

open Runs Fallible NativeError Builders PreparedStore PreparedGuards PreparedInv Flows Flow
open Multisig hiding TransferBuilder TransactionTypeBuilder
open MultisigFinalize (preparationVariable effect_preparations step_dropPreparation)
open PreparedSafe (effect_consistent succeeded)
open PreparedLife (Usable Unusable usable_of_ready unusable_of_not_ready)
open PreparedTransactionStore (Store Method)

/-! ### The slot under a guard -/

section World

variable {H U : Type} {w w' : World H U} {op : Op H U} {out : Outcome U} {i : ℕ}

lemma effect_of_preparing (hw : Consistent w) {guard : PreparationGuard}
    (hguard : w.preparations i = some guard) (he : Effect w op out w')
    (hi : preparationVariable op ≠ some i) : w' = w := by
  have hactive : w.store.activePreparation ≠ none := by
    rw [(hw.preparation i guard hguard).2]
    simp
  have hother : ∀ j b, w.preparations j = some b → preparationVariable op ≠ some j := by
    intro j b hj
    rwa [hw.preparation_unique j i b guard hj hguard]
  cases he with
  | refusedGeneration | refusedTransaction | refusedUnit => rfl
  | committed j _ _ _ hj | abandoned j _ hj => exact absurd rfl (hother j _ hj)
  | replaced _ _ ha | began _ ha | cancelled _ _ _ _ _ ha | taken _ _ _ _ _ _ ha
  | restored _ _ _ _ _ _ _ ha | finished _ _ _ _ _ ha => exact absurd ha hactive

lemma effect_refused (he : Effect w op out w') (hout : succeeded out = false) : w' = w := by
  cases he with
  | refusedGeneration | refusedTransaction | refusedUnit => rfl
  | replaced | began | committed | abandoned | cancelled | taken | restored | finished => cases hout

variable [DecidableEq H]

lemma unusable_of_preparing {s : PreparedTransactionStore H U} {g g' : ℕ} {h : H}
    (ha : s.activePreparation = some g') : Unusable s g h := by
  have hactive : s.activePreparation ≠ none := by simp [ha]
  refine ⟨fun he => hactive (s.ensureReadyExact_eq_ok.mp he).1, fun t => ⟨?_, ?_, ?_⟩⟩
  · exact fun he => hactive (s.readyExact_eq_ok.mp he).1
  · obtain ⟨e, he⟩ | ⟨_, hnone, -⟩ := s.cancelExact_cases g h
    · simp [he]
    · exact absurd hnone hactive
  · obtain ⟨e, he⟩ | ⟨_, hnone, -⟩ := s.takeForSubmissionExact_cases g h
    · simp [he]
    · exact absurd hnone hactive

end World

/-! ### Steps -/

variable {T : Types} {α : Type}

section Inversion

variable {q : Question T} {hash : T.Hash} {transaction : PreparedWalletTransaction T}

variable {k : PreparedResult ℕ → WalletFlow T α}

lemma Starting.of_begin (h : Starting (.ask (R := Answer) .begin k)) :
    (∀ g, Holding (k (.ok g))) ∧ ∀ e, ∃ e', k (.error e) = .done (.error e') := by
  cases h with
  | begin hok herror => exact ⟨hok, herror⟩
  | await hq => cases hq

lemma Starting.of_await {k : Answer q → WalletFlow T α} (hq : q.awaits = true)
    (h : Starting (.ask q k)) (r : Answer q) : Starting (k r) := by
  cases h with
  | begin => cases hq
  | await _ h => exact h r

lemma Holding.of_commit (h : Holding (.ask (R := Answer) (.commit hash transaction) k)) :
    ∀ id, ∃ a, k (.ok id) = .done (.ok a) := by
  cases h with
  | commit hok => exact hok
  | await hq => cases hq

lemma Holding.of_await {k : Answer q → WalletFlow T α} (hq : q.awaits = true)
    (h : Holding (.ask q k)) (r : Answer q) : Holding (k r) := by
  cases h with
  | commit => cases hq
  | await _ h => exact h r

lemma Holding.not_begin : ¬ Holding (.ask (R := Answer) .begin k) := by
  intro h
  cases h with
  | await hq => cases hq

end Inversion

lemma awaits_of_answer {q : Question T} {reply : Reply T} {r : Answer q}
    (h : reply.answer q = some r) : q.awaits = true := by
  cases q <;> cases reply <;> first | rfl | cases h

variable {s s' : Calls T} {i : ℕ}

/-! ### The end of a function -/

lemma release_of_none (hi : s.world.preparations i = none) :
    s.release i = { s with calls := Function.update s.calls i none } := by
  simp only [Calls.release, PreparedGuards.step, hi]

lemma release_effect (hw : Consistent s.world) {guard : PreparationGuard}
    (hi : s.world.preparations i = some guard) :
    ∃ out, Effect s.world (.dropPreparation i) out (s.release i).world ∧ (s.release i).world.store =
        ⟨s.world.store.state, s.world.store.nextGeneration, none⟩ := by
  obtain ⟨hguard, hactive⟩ := hw.preparation i guard hi
  rw [hguard] at hi
  refine ⟨.abandoned true, ?_⟩
  simp only [Calls.release, step_dropPreparation hw hi, and_true]
  exact .abandoned i _ hi hactive

lemma release_preparations (hw : Consistent s.world) {j : ℕ} (hj : j ≠ i) :
    (s.release i).world.preparations j = s.world.preparations j := by
  rcases hi : s.world.preparations i with _ | guard
  · rw [release_of_none hi]
  · obtain ⟨out, he, -⟩ := release_effect hw hi
    exact effect_preparations he fun h => hj (Option.some.inj h).symm

/-! ### Who has the guard -/

/-- The rest of function `i` fits what is in the variable of its guard. -/
def InOrder (w : SlotWorld T) (i : ℕ) (m : WalletFlow T NativePreparedTransaction) : Prop :=
  (w.preparations i = none ∧ (Starting m ∨ ∃ r, m = .done r)) ∨
  ((∃ guard, w.preparations i = some guard) ∧ Holding m)

structure Ordered (s : Calls T) : Prop where
  consistent : Consistent s.world
  inOrder : ∀ i m, s.calls i = some m → InOrder s.world i m

namespace Ordered

variable (ho : Ordered s)

include ho

lemma at_begin {k : PreparedResult ℕ → WalletFlow T NativePreparedTransaction}
    (hcall : s.calls i = some (.ask (R := Answer) .begin k)) :
    s.world.preparations i = none ∧ (∀ g, Holding (k (.ok g))) ∧
      ∀ e, ∃ e', k (.error e) = .done (.error e') := by
  obtain ⟨hnone, hstart | ⟨r, hr⟩⟩ | ⟨-, hhold⟩ := ho.inOrder i _ hcall
  · exact ⟨hnone, hstart.of_begin⟩
  · cases hr
  · exact absurd hhold Holding.not_begin

lemma at_commit {hash : T.Hash} {transaction : PreparedWalletTransaction T}
    {k : PreparedResult ℕ → WalletFlow T NativePreparedTransaction} {world : SlotWorld T}
    {result : PreparedResult ℕ}
    (hcall : s.calls i = some (.ask (R := Answer) (.commit hash transaction) k))
    (hstep : PreparedGuards.step s.world (.commit i hash transaction) =
      some (world, .generation result)) :
    world.preparations i = none ∧ ∃ r, k result = .done (.ok r) := by
  have he := step_effect ho.consistent hstep
  cases he with
  | refusedGeneration _ e hop => obtain ⟨_, _, h⟩ | ⟨_, h⟩ := hop <;> cases h
  | committed _ g _ _ hi =>
    obtain ⟨hnone, -⟩ | ⟨-, hhold⟩ := ho.inOrder i _ hcall
    · rw [hi] at hnone
      cases hnone
    · exact ⟨Function.update_self .., hhold.of_commit g⟩

lemma update {world : SlotWorld T} {m : WalletFlow T NativePreparedTransaction}
    (hc : Consistent world) (hi : InOrder world i m)
    (hother : ∀ j, j ≠ i → world.preparations j = s.world.preparations j) :
    Ordered ⟨world, Function.update s.calls i (some m)⟩ := by
  refine ⟨hc, fun j m' hj => ?_⟩
  simp only [Function.update_apply] at hj
  split_ifs at hj with hne
  · cases hj
    exact hne ▸ hi
  · rw [InOrder, hother j hne]
    exact ho.inOrder j m' hj

lemma release (i : ℕ) : Ordered (s.release i) := by
  have hc := ho.consistent
  refine ⟨?_, fun j m hj => ?_⟩
  · rcases hi : s.world.preparations i with _ | guard
    · rwa [release_of_none hi]
    · obtain ⟨out, he, -⟩ := release_effect hc hi
      exact effect_consistent hc he
  · obtain rfl | hne := eq_or_ne j i
    · simp [Calls.release] at hj
    · rw [InOrder, release_preparations hc hne]
      exact ho.inOrder j m ((Function.update_of_ne hne _ _).symm.trans hj)

end Ordered

/-! ### While a function has the guard -/

/-- Function `i` has the guard over a slot that is ready. -/
structure Held (s : Calls T) (i g : ℕ) (h : T.Hash) (t : PreparedWalletTransaction T) : Prop where
  ready : s.world.store.state = .ready g h t
  guard : ∃ guard, s.world.preparations i = some guard
  call : ∃ m, s.calls i = some m ∧ Holding m

variable {g : ℕ} {h : T.Hash} {t : PreparedWalletTransaction T}

lemma Held.unusable (ho : Ordered s) (hh : Held s i g h t) : Unusable s.world.store g h := by
  obtain ⟨guard, hguard⟩ := hh.guard
  exact unusable_of_preparing (ho.consistent.preparation i guard hguard).2

lemma Held.release (ho : Ordered s) (hh : Held s i g h t) :
    (s.release i).world.store.state = .ready g h t ∧ Usable (s.release i).world.store g h t := by
  obtain ⟨guard, hguard⟩ := hh.guard
  obtain ⟨out, -, hstore⟩ := release_effect ho.consistent hguard
  rw [hstore]
  exact ⟨hh.ready, usable_of_ready rfl hh.ready⟩

lemma Held.frame (hh : Held s i g h t) (hworld : s'.world = s.world)
    (hcalls : s'.calls i = s.calls i) : Held s' i g h t where
  ready := by rw [hworld]; exact hh.ready
  guard := by rw [hworld]; exact hh.guard
  call := by rw [hcalls]; exact hh.call

/-! ### What the actions do -/

variable [DecidableEq T.Address] {P : Preparer T} {a : Action T}

/-- What an action can do. -/
inductive Moves (P : Preparer T) (s : Calls T) : Action T → Calls T → Prop
  | call (i : ℕ) (preparation : Preparation) (hcall : s.calls i = none)
      (hguard : s.world.preparations i = none) :
      Moves P s (.call i preparation)
        { s with calls := Function.update s.calls i (some (preparation.flow P)) }
  | begin (i : ℕ) {k : PreparedResult ℕ → WalletFlow T NativePreparedTransaction}
      {world : SlotWorld T} {result : PreparedResult ℕ}
      (hcall : s.calls i = some (.ask (R := Answer) .begin k))
      (hstep : PreparedGuards.step s.world (.begin i) = some (world, .generation result)) :
      Moves P s (.begin i) ⟨world, Function.update s.calls i (some (k result))⟩
  | commit (i : ℕ) {hash : T.Hash} {transaction : PreparedWalletTransaction T}
      {k : PreparedResult ℕ → WalletFlow T NativePreparedTransaction} {world : SlotWorld T}
      {result : PreparedResult ℕ}
      (hcall : s.calls i = some (.ask (R := Answer) (.commit hash transaction) k))
      (hstep : PreparedGuards.step s.world (.commit i hash transaction) =
        some (world, .generation result)) :
      Moves P s (.commit i) ⟨world, Function.update s.calls i (some (k result))⟩
  | answer (i : ℕ) (reply : Reply T) {q : Question T}
      {k : Answer q → WalletFlow T NativePreparedTransaction} {r : Answer q}
      (hcall : s.calls i = some (.ask q k)) (hq : q.awaits = true) :
      Moves P s (.answer i reply) { s with calls := Function.update s.calls i (some (k r)) }
  | finish (i : ℕ) {result : Except NativeXelisError NativePreparedTransaction}
      (hcall : s.calls i = some (.done result)) : Moves P s (.finish i) (s.release i)
  | drop (i : ℕ) {q : Question T} {k : Answer q → WalletFlow T NativePreparedTransaction}
      (hcall : s.calls i = some (.ask q k)) (hq : q.awaits = true) :
      Moves P s (.drop i) (s.release i)
  | other (op : Op T.Hash (PreparedWalletTransaction T)) {world : SlotWorld T}
      {out : Outcome (PreparedWalletTransaction T)}
      (hidle : ∀ i, preparationVariable op = some i → s.calls i = none)
      (hstep : PreparedGuards.step s.world op = some (world, out)) :
      Moves P s (.other op) { s with world }

lemma step_moves (h : s.step P a = some s') : Moves P s a s' := by
  cases a <;> simp only [Calls.step] at h
  case call i preparation =>
    split_ifs at h with hbusy
    cases h
    simp only [not_or, Bool.not_eq_true, Option.isSome_eq_false_iff,
      Option.isNone_iff_eq_none] at hbusy
    exact .call i preparation hbusy.1 hbusy.2
  case begin | commit =>
    split at h
    · split at h <;> cases h
      constructor <;> assumption
    · cases h
  case answer i reply =>
    split at h
    · next hcall =>
      obtain ⟨r, hr, rfl⟩ := Option.map_eq_some_iff.mp h
      exact .answer i reply hcall (awaits_of_answer hr)
    · cases h
  case finish i =>
    split at h <;> cases h
    next hcall => exact .finish i hcall
  case drop i =>
    split at h
    · next hcall =>
      obtain ⟨hq, ⟨⟩⟩ := Option.ite_none_right_eq_some.mp h
      exact .drop i hcall hq
    · cases h
  case other op =>
    split_ifs at h with hbusy
    obtain ⟨⟨world, out⟩, hstep, rfl⟩ := Option.map_eq_some_iff.mp h
    refine .other op (fun i hi => ?_) hstep
    rw [hi] at hbusy
    simpa using hbusy

lemma Ordered.moves (ho : Ordered s) (hm : Moves P s a s') : Ordered s' := by
  have hc := ho.consistent
  cases hm with
  | call i preparation hcall hguard =>
    exact ho.update hc (.inl ⟨hguard, .inl (preparation.starting P)⟩) fun _ _ => rfl
  | begin i hcall hstep =>
    have he := step_effect hc hstep
    refine ho.update (effect_consistent hc he) ?_ fun j hj =>
      effect_preparations he fun h => hj (Option.some.inj h).symm
    obtain ⟨hnone, hok, herror⟩ := ho.at_begin hcall
    cases he with
    | refusedGeneration _ e => exact .inl ⟨hnone, .inr ((herror e).imp' _ fun _ h => h)⟩
    | began => exact .inr ⟨⟨_, Function.update_self ..⟩, hok _⟩
  | commit i hcall hstep =>
    have he := step_effect hc hstep
    refine ho.update (effect_consistent hc he) ?_ fun j hj =>
      effect_preparations he fun h => hj (Option.some.inj h).symm
    obtain ⟨hnone, r, hr⟩ := ho.at_commit hcall hstep
    exact .inl ⟨hnone, .inr ⟨_, hr⟩⟩
  | answer i reply hcall hq =>
    refine ho.update hc ?_ fun _ _ => rfl
    obtain ⟨hnone, hstart | ⟨r, hr⟩⟩ | ⟨hsome, hhold⟩ := ho.inOrder i _ hcall
    · exact .inl ⟨hnone, .inl (hstart.of_await hq _)⟩
    · cases hr
    · exact .inr ⟨hsome, hhold.of_await hq _⟩
  | finish i | drop i => exact ho.release i
  | other op hidle hstep =>
    have he := step_effect hc hstep
    refine ⟨effect_consistent hc he, fun j m hj => ?_⟩
    have hj' : preparationVariable op ≠ some j := by
      intro h
      cases (hidle j h).symm.trans hj
    rw [InOrder, effect_preparations he hj']
    exact ho.inOrder j m hj

lemma reachable_ordered (h : Reachable (preparing P) s) : Ordered s := by
  refine h.invariant (P := Ordered) (fun s hs => ?_) fun s a s' _ ho hst => ?_
  · rw [show s = Calls.init from hs]
    exact ⟨consistent_init, fun _ _ h => by cases h⟩
  · exact ho.moves (step_moves hst)

lemma held_begin (ho : Ordered s) (hm : Moves P s (.begin i) s')
    (hguard : s'.world.preparations i ≠ none) (hs : s.world.store.state = .ready g h t) :
    Held s' i g h t := by
  cases hm with
  | begin _ hcall hstep =>
    obtain ⟨hnone, hok, -⟩ := ho.at_begin hcall
    have he := step_effect ho.consistent hstep
    cases he with
    | refusedGeneration => exact absurd hnone hguard
    | began => exact ⟨hs, ⟨_, Function.update_self ..⟩, _, Function.update_self .., hok _⟩

/-- **What a function with the guard goes through**: the slot stays as it is until the function
ends or is dropped, or until it has committed. -/
lemma Held.moves (ho : Ordered s) (hh : Held s i g h t) (hm : Moves P s a s')
    (hfinish : a ≠ .finish i) (hdrop : a ≠ .drop i) :
    Held s' i g h t ∨ ∃ r, s'.calls i = some (.done (.ok r)) := by
  have hc := ho.consistent
  obtain ⟨guard, hguard⟩ := hh.guard
  obtain ⟨m, hi, hhold⟩ := hh.call
  cases hm with
  | call j preparation hcall =>
    have hne : i ≠ j := by
      rintro rfl
      cases hi.symm.trans hcall
    exact .inl (hh.frame rfl (Function.update_of_ne hne _ _))
  | begin j hcall hstep =>
    have hne : i ≠ j := by
      rintro rfl
      cases hi.symm.trans hcall
      exact Holding.not_begin hhold
    have hworld := effect_of_preparing hc hguard (step_effect hc hstep) fun h =>
      hne (Option.some.inj h).symm
    exact .inl (hh.frame hworld (Function.update_of_ne hne _ _))
  | commit j hcall hstep =>
    obtain rfl | hne := eq_or_ne i j
    · obtain ⟨-, r, hr⟩ := ho.at_commit hcall hstep
      refine .inr ⟨r, ?_⟩
      rw [← hr]
      exact Function.update_self ..
    · have hworld := effect_of_preparing hc hguard (step_effect hc hstep) fun h =>
        hne (Option.some.inj h).symm
      exact .inl (hh.frame hworld (Function.update_of_ne hne _ _))
  | answer j reply hcall hq =>
    obtain rfl | hne := eq_or_ne i j
    · cases hi.symm.trans hcall
      exact .inl ⟨hh.ready, hh.guard, _, Function.update_self .., hhold.of_await hq _⟩
    · exact .inl (hh.frame rfl (Function.update_of_ne hne _ _))
  | finish j | drop j =>
    have hne : j ≠ i := by
      rintro rfl
      first | exact hfinish rfl | exact hdrop rfl
    rw [release_of_none (hc.preparation_none_of_ne hguard hne)]
    exact .inl (hh.frame rfl (Function.update_of_ne hne.symm _ _))
  | other op hidle hstep =>
    have hworld := effect_of_preparing hc hguard (step_effect hc hstep) fun h => by
      cases (hidle i h).symm.trans hi
    exact .inl (hh.frame hworld rfl)

lemma done_moves {r : Except NativeXelisError NativePreparedTransaction}
    (hi : s.calls i = some (.done r)) (hm : Moves P s a s') (hfinish : a ≠ .finish i) :
    s'.calls i = some (.done r) := by
  have hne {j : ℕ} (hj : s.calls j ≠ some (.done r)) : i ≠ j := by
    rintro rfl
    exact hj hi
  cases hm with
  | call _ _ hcall | begin _ hcall | commit _ hcall | answer _ _ hcall | drop _ hcall =>
    exact (Function.update_of_ne (hne (by simp [hcall])) _ _).trans hi
  | finish j =>
    have hne : i ≠ j := fun h => hfinish (congrArg _ h.symm)
    exact (Function.update_of_ne hne _ _).trans hi
  | other => exact hi

lemma held_run {as : List (Action T)} (hs : Reachable (preparing P) s) (hh : Held s i g h t)
    (hr : Run (preparing P) s as s') (hfinish : .finish i ∉ as) (hdrop : .drop i ∉ as) :
    Held s' i g h t ∨ ∃ r, s'.calls i = some (.done (.ok r)) := by
  revert hfinish hdrop
  refine hr.history (P := fun as s' => .finish i ∉ as → .drop i ∉ as →
    Held s' i g h t ∨ ∃ r, s'.calls i = some (.done (.ok r))) (fun _ _ => .inl hh) ?_
  intro as s₁ a s₂ hr ih hst hfinish hdrop
  rw [List.mem_append, List.mem_singleton, not_or] at hfinish hdrop
  have hm := step_moves hst
  obtain hh | ⟨r, hdone⟩ := ih hfinish.1 hdrop.1
  · exact hh.moves (reachable_ordered (hs.run hr)) hm (Ne.symm hfinish.2) (Ne.symm hdrop.2)
  · exact .inr ⟨r, done_moves hdone hm (Ne.symm hfinish.2)⟩

/-! ### While a function does not have the guard -/

/-- The function that an action is a step of. -/
def Action.caller : Action T → Option ℕ
  | .call i _ | .begin i | .commit i | .answer i _ | .finish i | .drop i => some i
  | .other _ => none

lemma world_of_no_guard (ho : Ordered s) (hm : Moves P s a s') (ha : a.caller = some i)
    (hi : s.world.preparations i = none) :
    s'.world = s.world ∨ (a = .begin i ∧ s'.world.preparations i ≠ none) := by
  cases hm with
  | call | answer => exact .inl rfl
  | finish j | drop j =>
    cases ha
    rw [release_of_none hi]
    exact .inl rfl
  | begin j hcall hstep =>
    cases ha
    have he := step_effect ho.consistent hstep
    cases he with
    | refusedGeneration => exact .inl rfl
    | began => exact .inr ⟨rfl, by simp⟩
  | commit j hcall hstep =>
    cases ha
    rw [PreparedGuards.step, hi] at hstep
    cases hstep
  | other => cases ha

lemma begin_refused (ho : Ordered s) (hm : Moves P s (.begin i) s')
    (hi : s'.world.preparations i = none) : ∃ e, s'.calls i = some (.done (.error e)) := by
  cases hm with
  | begin _ hcall hstep =>
    obtain ⟨-, -, herror⟩ := ho.at_begin hcall
    have he := step_effect ho.consistent hstep
    cases he with
    | refusedGeneration _ e =>
      obtain ⟨e', he'⟩ := herror e
      refine ⟨e', ?_⟩
      rw [← he']
      exact Function.update_self ..
    | began => simp at hi

/-- **A preparation that fails gives the slot back.** A method of the store that returns an error
leaves the store as it was, and in a reachable state so does an operation of a guard. A function
that prepares changes the slot only once it has taken its guard, and fails if it cannot. From
there, whatever the others do and unless the function has committed, the transaction that was
ready stays in the slot and cannot be used; when the function fails or is dropped, it can be used
again under the same generation and hash. -/
theorem preparation_gives_back (P : Preparer T) :
    (∀ (store : Store T.Hash (PreparedWalletTransaction T)) (m : Method _ _) e,
      (m.run store).1 = some e → (m.run store).2 = store) ∧
    ∀ s, Reachable (preparing P) s →
      (∀ op out world, PreparedGuards.step s.world op = some (world, out) →
        succeeded out = false → world = s.world) ∧
      (∀ a i s', a.caller = some i → s.world.preparations i = none → s.step P a = some s' →
        s'.world = s.world ∨ (a = .begin i ∧ s'.world.preparations i ≠ none)) ∧
      ∀ i s₁, s.step P (.begin i) = some s₁ →
        (s₁.world.preparations i = none → ∃ e, s₁.calls i = some (.done (.error e))) ∧
        (s₁.world.preparations i ≠ none → ∀ g h t, s.world.store.state = .ready g h t →
          ∀ as s₂, Run (preparing P) s₁ as s₂ → .finish i ∉ as → .drop i ∉ as →
            (∃ r, s₂.calls i = some (.done (.ok r))) ∨
            (s₂.world.store.state = .ready g h t ∧ Unusable s₂.world.store g h ∧
              ∀ a s₃, a = .finish i ∨ a = .drop i → s₂.step P a = some s₃ →
                s₃.world.store.state = .ready g h t ∧ Usable s₃.world.store g h t)) := by
  refine ⟨fun store m e => m.run_frame store, fun s hs => ?_⟩
  have ho := reachable_ordered hs
  refine ⟨?_, ?_, fun i s₁ hbegin => ⟨?_, ?_⟩⟩
  · intro op out world hstep hout
    exact effect_refused (step_effect ho.consistent hstep) hout
  · intro a i s' ha hi hstep
    exact world_of_no_guard ho (step_moves hstep) ha hi
  · exact begin_refused ho (step_moves hbegin)
  · intro hguard g h t hready as s₂ hr hfinish hdrop
    have hs₁ := hs.step hbegin
    have hheld := held_begin ho (step_moves hbegin) hguard hready
    obtain hheld | hdone := held_run hs₁ hheld hr hfinish hdrop
    · have ho₂ := reachable_ordered (hs₁.run hr)
      refine .inr ⟨hheld.ready, hheld.unusable ho₂, fun a s₃ ha hend => ?_⟩
      have hmoves := step_moves hend
      obtain rfl | rfl := ha
      · cases hmoves with
        | finish => exact hheld.release ho₂
      · cases hmoves with
        | drop => exact hheld.release ho₂
    · exact .inl hdone

/-! ### A small wallet -/

def flagPreparer : Preparer flagTypes := ⟨flagBuilders, false, none⟩

def flagReady : PreparedWalletTransaction flagTypes := ⟨⟨flagUnsigned, true⟩, (), []⟩

/-- A transaction is ready, and a setup waits for the state of the wallet. -/
def flagWaiting : List (Action flagTypes) :=
  [.other (.replace true flagReady), .call 0 (.multisigSetup 1 ["0"] .automatic)]

/-- A setup that is dropped while it waits for the fees. -/
theorem flag_setup_gives_back : ∃ s₂ s₃ : Calls flagTypes, Reachable (preparing flagPreparer) s₂ ∧
    Unusable s₂.world.store 1 true ∧ s₂.step flagPreparer (.drop 0) = some s₃ ∧
    Usable s₃.world.store 1 true flagReady := by
  have hs := Reachable.exec (M := preparing flagPreparer) (fun _ _ _ h => h) (.of_init rfl)
    (flagWaiting ++ [.answer 0 (.multisigState (some none))]) rfl
  have hbegin := ((preparation_gives_back flagPreparer).2 _ hs).2.2 0 _ rfl
  obtain ⟨r, hr⟩ | ⟨-, hunusable, hend⟩ := hbegin.2 (Option.some_ne_none _) 1 true flagReady rfl []
    _ (.nil _) List.not_mem_nil List.not_mem_nil
  · cases hr
  · exact ⟨_, _, hs.step (l := .begin 0) rfl, hunusable, rfl, (hend (.drop 0) _ (.inr rfl) rfl).2⟩

/-- A setup that waits for the state does not have the guard: the transaction is usable, it is
cancelled, and it is gone when the setup is dropped. -/
theorem flag_setup_without_guard : ∃ s₁ s₂ : Calls flagTypes,
    Reachable (preparing flagPreparer) s₁ ∧ s₁.world.store.state = .ready 1 true flagReady ∧
    (∃ k, s₁.calls 0 = some (.ask (R := Answer) .multisigState k)) ∧
    Usable s₁.world.store 1 true flagReady ∧
    Run (preparing flagPreparer) s₁ [.other (.cancelExact 1 true), .drop 0] s₂ ∧
    Unusable s₂.world.store 1 true := by
  refine ⟨_, _, .exec (fun _ _ _ h => h) (.of_init rfl) flagWaiting rfl, rfl,
    ⟨_, rfl⟩, usable_of_ready rfl rfl, .exec (fun _ _ _ h => h) _ rfl, ?_⟩
  exact unusable_of_not_ready fun _ h => nomatch h

end XelisWallet.Prepare
