import XelisWallet.Broadcast
import XelisWallet.PreparedLife

/-!
The slot a broadcast leaves agrees with what its caller is told.

The invariant says, for each call and phase, whether the call owns a guard and what the slot
was when it took it. A step touches only its own call and the guard of that call, so the other
calls keep what they have; a generation whose submission succeeded is in the guard of the call
that is about to finish it, or dead.
-/

namespace XelisWallet.BroadcastInv

open Runs PreparedStore PreparedInv PreparedSafe PreparedLife Submission Broadcast
open PreparedGuards hiding step
open ErrorClassification (WalletError)

variable {H T : Type}

/-- The answers after which the prepared transaction must be gone. -/
def consumes : Told → Bool
  | .submitted | .submittedNeedsResync | .rejected _ | .localFailure _ => true
  | _ => false

/-- The answers, and the silence of a dropped future, after which it must be as before. -/
def keeps : Told → Bool
  | .retryable _ | .error _ | .dropped false => true
  | _ => false

/-- The slot left by a call agrees with what its caller is told. -/
structure Agrees (told : Told) (before after : PreparedTransactionState H T) : Prop where
  consumed : consumes told = true → after = .empty
  kept : keeps told = true → ∀ g h t, before = .ready g h t → after = .ready g h t
  inFlight : after.isInFlight = true → after = before

/-- The slot after the guard was restored or finished. -/
def Settled (r : SubmissionResolution) (before after : PreparedTransactionState H T) : Prop :=
  if r.isRetryable then after = before ∧ after.isInFlight = false else after = .empty

/-- What a call and its guard look like in each phase. -/
def CallInv (guard : Option (SubmissionGuard H T)) (c : Call H T) : Prop :=
  match c.phase with
  | .online (.exact _ none) => False
  | .idle | .online _ | .storage _ => guard = none
  | .reading | .submitting | .resolved _ =>
      ∃ g h t, guard = some ⟨g, h, some t⟩ ∧ c.before = .ready g h t
  | .unwinding _ => False
  | .settling r => guard = none ∧ Settled r c.before c.after
  | .done told => guard = none ∧ Agrees told c.before c.after

lemma agrees_same (told : Told) (h : consumes told = false) (s : PreparedTransactionState H T) :
    Agrees told s s := by
  refine ⟨?_, fun _ g h t hs => hs, fun _ => rfl⟩
  rw [h]
  intro hf
  cases hf

variable {g : ℕ} {h : H} {t : T} {c : Call H T}

lemma agrees_ready (told : Told) (hc : consumes told = false)
    {before after : PreparedTransactionState H T} (hb : before = .ready g h t)
    (ha : after = .ready g h t) : Agrees told before after := by
  rw [hb, ha]
  exact agrees_same told hc _

lemma settled_agrees {r : SubmissionResolution} {before after : PreparedTransactionState H T}
    (h : Settled r before after) (told : Told)
    (htold : (∃ b, told = toldOf b r) ∨ told = .dropped true) : Agrees told before after := by
  cases r with
  | retryable =>
    simp only [Settled, SubmissionResolution.isRetryable, if_true] at h
    rw [h.1]
    refine agrees_same told ?_ before
    rcases htold with ⟨b, rfl⟩ | rfl <;> rfl
  | submitted =>
    replace h : after = .empty := h
    refine ⟨fun _ => h, fun hk => ?_, fun hf => by rw [h] at hf; cases hf⟩
    obtain ⟨b, rfl⟩ | rfl := htold
    · cases b <;> simp [toldOf, keeps] at hk
    · simp [keeps] at hk
  | daemonRejected e | localFailure e =>
    replace h : after = .empty := h
    refine ⟨fun _ => h, fun hk => ?_, fun hf => by rw [h] at hf; cases hf⟩
    rcases htold with ⟨b, rfl⟩ | rfl <;> simp [toldOf, keeps] at hk

variable {w w' : World H T} {op : Op H T} {out : Outcome T} {i : ℕ}

variable (he : Effect w op out w')
include he

lemma effect_frame {j : ℕ} (hj : guardVar op ≠ some j) : w'.submissions j = w.submissions j := by
  cases he with
  | taken _ i _ _ _ hop | restored _ i _ _ _ hop =>
    have hji : j ≠ i := by
      rintro rfl
      rcases hop with rfl | rfl <;> exact hj rfl
    exact Function.update_of_ne hji _ _
  | finished i =>
    have hji : j ≠ i := by
      rintro rfl
      exact hj rfl
    exact Function.update_of_ne hji _ _
  | refusedGeneration | refusedTransaction | refusedUnit => rfl
  | replaced | began | committed | abandoned | cancelled => rfl

lemma effect_take {g₀ : ℕ}
    (hop : op = .take i h ∨ op = .takeExact i g₀ h) :
    (∃ e, out = .unit (.error e) ∧ w' = w) ∨
    (out = .unit (.ok ()) ∧ ∃ g t, w.store.state = .ready g h t ∧
      w'.submissions i = some ⟨g, h, some t⟩) := by
  cases he with
  | refusedUnit op e => exact .inl ⟨e, rfl, rfl⟩
  | taken op j g h' t hop' ha hs =>
    have hjh : j = i ∧ h' = h := by
      rcases hop with rfl | rfl <;> simp only [Op.take.injEq, Op.takeExact.injEq, reduceCtorEq,
        or_false, false_or] at hop'
      · exact ⟨hop'.1.symm, hop'.2.symm⟩
      · exact ⟨hop'.1.symm, hop'.2.2.symm⟩
    obtain ⟨rfl, rfl⟩ := hjh
    exact .inr ⟨rfl, g, t, hs, Function.update_self ..⟩
  | refusedGeneration op e hop' | refusedTransaction op e hop' | cancelled op g h t hop'
  | restored op _ g h t hop' => rcases hop with rfl | rfl <;> simp at hop'
  | replaced | began | committed | abandoned | finished => simp at hop

lemma effect_restore (hop : op = .restore i ∨ op = .dropSubmission i)
    (hi : w.submissions i = some ⟨g, h, some t⟩) :
    out = .unit (.ok ()) ∧ w'.store.state = .ready g h t ∧ w'.submissions i = none := by
  cases he with
  | restored op j g' h' t' hop' hj =>
    have hij : i = j := by rcases hop with rfl | rfl <;> simpa using hop'
    subst hij
    rw [hi] at hj
    cases hj
    exact ⟨rfl, rfl, Function.update_self ..⟩
  | refusedGeneration op e hop' | refusedTransaction op e hop' | refusedUnit op e hop'
  | cancelled op g h t hop' | taken op _ g h t hop' => rcases hop with rfl | rfl <;> simp at hop'
  | replaced | began | committed | abandoned | finished => simp at hop

omit he

lemma effect_finish (he : Effect w (.finish i) out w') (hi : w.submissions i = some ⟨g, h, some t⟩)
    : out = .transaction (.ok t) ∧ w'.store.state = .empty ∧ w'.submissions i = none := by
  cases he with
  | finished i g' h' t' hi' =>
    rw [hi] at hi'
    cases hi'
    exact ⟨rfl, rfl, Function.update_self ..⟩
  | refusedGeneration _ _ hop | refusedTransaction _ _ hop | refusedUnit _ _ hop
  | cancelled _ _ _ _ hop | taken _ _ _ _ _ hop | restored _ _ _ _ _ hop => simp at hop

/-- The invariant of a wallet with any number of broadcasts in progress. -/
structure Inv [DecidableEq H] (s : Wallet H T) : Prop where
  world : Reachable (prepared H T) s.world
  call : ∀ i, CallInv (s.world.submissions i) (s.calls i)
  accepted : ∀ g ∈ s.accepted, Dead s.world g ∨
    ∃ i h t, s.world.submissions i = some ⟨g, h, t⟩ ∧ (s.calls i).phase = .resolved .submitted

variable [DecidableEq H] {s s' : Wallet H T}

lemma inv_init : Inv (Wallet.init : Wallet H T) :=
  ⟨.of_init rfl, fun _ => rfl, by simp [Wallet.init]⟩

variable (hs : Inv s)
include hs

/-- A step of call `i` keeps the invariant when it keeps it for `i`: the other guards are as
they were, and a success is not forgotten before its generation is dead. -/
lemma Inv.update {m : List (Op H T × Outcome T)}
    (hrun : Run (prepared H T) s.world m w')
    (hframe : ∀ j, j ≠ i → w'.submissions j = s.world.submissions j)
    (hc : CallInv (w'.submissions i) c)
    (hdead : (s.calls i).phase = .resolved .submitted →
      ∀ g h t, s.world.submissions i = some ⟨g, h, t⟩ → Dead w' g) :
    Inv ⟨w', Function.update s.calls i c, s.accepted⟩ := by
  refine ⟨hs.world.run hrun, fun j => ?_, fun g hg => ?_⟩
  · by_cases hj : j = i
    · subst hj
      simpa using hc
    · simpa only [hframe j hj, Function.update_of_ne hj] using hs.call j
  · obtain hd | ⟨j, h, t, hj, hp⟩ := hs.accepted g hg
    · exact .inl (run_dead hs.world hrun hd)
    by_cases hji : j = i
    · subst hji
      exact .inl (hdead hp g h t hj)
    · refine .inr ⟨j, h, t, by rw [hframe j hji, hj], ?_⟩
      simpa only [Function.update_of_ne hji] using hp

lemma Inv.move (hc : CallInv (s.world.submissions i) c)
    (hp : (s.calls i).phase ≠ .resolved .submitted) :
    Inv { s with calls := Function.update s.calls i c } :=
  hs.update (.nil _) (fun _ _ => rfl) hc fun h => absurd h hp

lemma Inv.operate (hop : guardVar op = some i)
    (hst : PreparedGuards.step s.world op = some (w', out)) (hc : CallInv (w'.submissions i) c)
    (hp : (s.calls i).phase ≠ .resolved .submitted) :
    Inv ⟨w', Function.update s.calls i c, s.accepted⟩ := by
  have he := reachable_effect hs.world hst
  refine hs.update (m := [(op, out)]) (Run.single hst) (fun j hj => ?_) hc
    fun h => absurd h hp
  refine effect_frame he ?_
  rw [hop]
  intro h
  exact hj (Option.some.inj h).symm

lemma Inv.giveUp (hi : s.world.submissions i = none) {told : Told} (htold : consumes told = false)
    (hp : (s.calls i).phase ≠ .resolved .submitted) : Inv (s.first i s.world (.done told)) :=
  hs.move ⟨hi, agrees_same told htold _⟩ hp

lemma Inv.dropGuard {told : Told} (htold : consumes told = false)
    (hp : (s.calls i).phase = .reading ∨ (s.calls i).phase = .submitting)
    (h : s.dropGuard i told = some s') : Inv s' := by
  have hcall := hs.call i
  have hres : (s.calls i).phase ≠ .resolved .submitted := by
    rcases hp with hp | hp <;> simp [hp]
  obtain ⟨g, hash, t, hi, hb⟩ :
      ∃ g h t, s.world.submissions i = some ⟨g, h, some t⟩ ∧ (s.calls i).before = .ready g h t := by
    rcases hp with hp | hp <;> simpa only [CallInv, hp] using hcall
  unfold Wallet.dropGuard at h
  split at h <;> cases h
  next world out hst =>
  have he := reachable_effect hs.world hst
  obtain ⟨-, hready, hnone⟩ := effect_restore he (.inr rfl) hi
  exact hs.operate rfl hst ⟨hnone, agrees_ready told htold hb hready⟩ hres

lemma Inv.submitGuarded (hp : (s.calls i).phase = .reading)
    (h : s.submitGuarded i = some s') : Inv s' := by
  have hcall := hs.call i
  simp only [CallInv, hp] at hcall
  obtain ⟨g, hash, t, hi, hb⟩ := hcall
  simp only [Wallet.submitGuarded, hi, SubmissionGuard.borrow] at h
  cases h
  exact hs.move (by exact ⟨g, hash, t, hi, hb⟩) (by simp [hp])

omit hs

/-! ### Every step keeps the invariant -/

variable (hs : Inv s)
include hs

lemma startStep_inv {path : Path H} (h : startStep s i path = some s') : Inv s' := by
  have hcall := hs.call i
  rcases hp : (s.calls i).phase <;> simp only [startStep, hp, reduceCtorEq] at h
  simp only [CallInv, hp] at hcall
  have hres : (s.calls i).phase ≠ .resolved .submitted := by simp [hp]
  rcases path with ⟨g, _ | hash⟩ | hash <;> cases h
  · exact hs.giveUp hcall rfl hres
  all_goals exact hs.move hcall hres

/-- Both paths take their guard in the same way: it is refused, or the slot was ready. -/
lemma take_inv (hp : (s.calls i).phase ≠ .resolved .submitted)
    (hi : s.world.submissions i = none) (hop : op = .take i h ∨ op = .takeExact i g h)
    (hst : PreparedGuards.step s.world op = some (w', out)) :
    (out = .unit (.ok ()) ∧ Inv (s.first i w' .reading)) ∨
    ∃ e, out = .unit (.error e) ∧ Inv (s.first i w' (.done (.error (.prepared e)))) := by
  have hvar : guardVar op = some i := by rcases hop with rfl | rfl <;> rfl
  obtain ⟨e, rfl, rfl⟩ | ⟨rfl, g, t, hb, hi'⟩ := effect_take (reachable_effect hs.world hst) hop
  · exact .inr ⟨e, rfl, hs.giveUp hi rfl hp⟩
  · exact .inl ⟨rfl, hs.operate hvar hst (by exact ⟨g, h, t, hi', hb⟩) hp⟩

lemma onlineStep_inv {b : Bool} (h : onlineStep s i b = some s') : Inv s' := by
  have hcall := hs.call i
  unfold onlineStep at h
  split at h
  · next hash hp =>
    simp only [CallInv, hp] at hcall
    split at h <;> cases h
    · exact hs.move hcall (by simp [hp])
    · exact hs.giveUp hcall rfl (by simp [hp])
  · next g hash hp =>
    simp only [CallInv, hp] at hcall
    have hres : (s.calls i).phase ≠ .resolved .submitted := by simp [hp]
    split at h
    · split at h <;> cases h
      · next world hst =>
        obtain ⟨-, hinv⟩ | ⟨e, he, -⟩ := take_inv hs hres hcall (.inr rfl) hst
        · exact hinv
        · cases he
      · next world e hst =>
        obtain ⟨he, -⟩ | ⟨e', he, hinv⟩ := take_inv hs hres hcall (.inr rfl) hst
        · cases he
        · cases he; exact hinv
    · split at h <;> cases h <;> exact hs.giveUp hcall rfl hres
  · cases h

lemma readStep_inv {r : Except StorageRead Unit} (h : readStep s i r = some s') : Inv s' := by
  have hcall := hs.call i
  unfold readStep at h
  split at h
  · next hp =>
    simp only [CallInv, hp] at hcall
    cases h
    exact hs.giveUp hcall rfl (by simp [hp])
  · next hp =>
    simp only [CallInv, hp] at hcall
    cases h
    exact hs.giveUp hcall rfl (by simp [hp])
  · next hash hp =>
    simp only [CallInv, hp] at hcall
    have hres : (s.calls i).phase ≠ .resolved .submitted := by simp [hp]
    split at h
    · next world hst =>
      obtain ⟨-, hinv⟩ | ⟨e, he, -⟩ := take_inv hs hres hcall (g := 0) (.inl rfl) hst
      · exact hinv.submitGuarded (by simp [Wallet.first]) h
      · cases he
    · next world e hst =>
      cases h
      obtain ⟨he, -⟩ | ⟨e', he, hinv⟩ := take_inv hs hres hcall (g := 0) (.inl rfl) hst
      · cases he
      · cases he; exact hinv
    · cases h
  · next hp => exact hs.dropGuard rfl (.inl hp) h
  · next hp => exact hs.submitGuarded hp h
  · cases h

lemma submitStep_inv {r : Except WalletError Unit} (h : submitStep s i r = some s') : Inv s' := by
  have hcall := hs.call i
  unfold submitStep at h
  split at h <;> cases h
  next hp =>
  simp only [CallInv, hp] at hcall
  have hmove : Inv (s.move i (.resolved (resolveSubmission r))) :=
    hs.move hcall (by simp [hp])
  refine ⟨hmove.world, hmove.call, fun g hg => ?_⟩
  obtain hg | hg := List.mem_append.mp hg
  · -- the generation just accepted is that of the guard, and only a success accepts one
    obtain ⟨g₀, hash, t, hi, -⟩ := hcall
    obtain e | ⟨⟩ := r
    · simp [acceptedBy] at hg
    simp only [acceptedBy, hi, Option.map_some, Option.toList_some, List.mem_singleton] at hg
    subst hg
    exact .inr ⟨i, hash, some t, hi, by simp [Wallet.move, resolveSubmission]⟩
  · exact hmove.accepted g hg

lemma settleStep_inv (h : settleStep s i = some s') : Inv s' := by
  have hcall := hs.call i
  unfold settleStep at h
  split at h
  · next error hp =>
    simp only [CallInv, hp] at hcall
    obtain ⟨g, hash, t, hi, hb⟩ := hcall
    have hres : (s.calls i).phase ≠ .resolved .submitted := by simp [hp]
    split at h
    · next world hst =>
      cases h
      obtain ⟨-, hready, hnone⟩ := effect_restore (reachable_effect hs.world hst) (.inl rfl) hi
      refine hs.operate rfl hst ⟨hnone, ?_⟩ hres
      simp [Settled, SubmissionResolution.isRetryable, hready, hb,
        PreparedTransactionState.isInFlight]
    · next world e hst =>
      have := (effect_restore (reachable_effect hs.world hst) (.inl rfl) hi).1
      cases this
    · cases h
  · next r hne hp =>
    simp only [CallInv, hp] at hcall
    obtain ⟨g, hash, t, hi, hb⟩ := hcall
    split at h
    · next world t' hst =>
      cases h
      have he := reachable_effect hs.world hst
      obtain ⟨hout, hempty, hnone⟩ := effect_finish he hi
      have hdead : Dead world g :=
        retires_dead (reachable_consistent hs.world) (reachable_bounded hs.world) he
          ⟨hash, t, some i, hi, .inl ⟨hout, .inr (.inr ⟨i, rfl⟩)⟩⟩
      have hr : r.isRetryable = false := by
        cases r with
        | retryable e => exact absurd rfl (hne e)
        | submitted | daemonRejected | localFailure => rfl
      refine hs.update (m := [(.finish i, .transaction (.ok t'))]) (Run.single hst)
        (fun j hj => effect_frame he ?_) ⟨hnone, ?_⟩ ?_
      · simpa [guardVar] using Ne.symm hj
      · simpa [Settled, hr] using hempty
      intro _ g' h' t' hi'
      rw [hi] at hi'
      cases hi'
      exact hdead
    · next world e hst =>
      have hout := (effect_finish (reachable_effect hs.world hst) hi).1
      cases hout
    · cases h
  · cases h

lemma completeStep_inv {b : Bool} (h : completeStep s i b = some s') : Inv s' := by
  have hcall := hs.call i
  unfold completeStep at h
  split at h <;> cases h
  next r hp =>
  simp only [CallInv, hp] at hcall
  exact hs.move ⟨hcall.1, settled_agrees hcall.2 _ (.inl ⟨b, rfl⟩)⟩ (by simp [hp])

lemma unwindStep_inv (h : unwindStep s i = some s') : Inv s' := by
  have hcall := hs.call i
  unfold unwindStep at h
  split at h
  · next e hp => simp [CallInv, hp] at hcall
  · cases h

lemma dropStep_inv (h : dropStep s i = some s') : Inv s' := by
  have hcall := hs.call i
  unfold dropStep at h
  split at h
  · next path hp =>
    cases h
    have hnone : s.world.submissions i = none := by
      rcases path with ⟨g, _ | hash⟩ | hash <;> simp only [CallInv, hp] at hcall
      all_goals exact hcall
    exact hs.giveUp hnone rfl (by simp [hp])
  · next hp =>
    cases h
    simp only [CallInv, hp] at hcall
    exact hs.giveUp hcall rfl (by simp [hp])
  · next hp => exact hs.dropGuard rfl (.inl hp) h
  · next hp => exact hs.dropGuard rfl (.inr hp) h
  · next r hp =>
    cases h
    simp only [CallInv, hp] at hcall
    exact hs.move ⟨hcall.1, settled_agrees hcall.2 _ (.inr rfl)⟩ (by simp [hp])
  · cases h

lemma otherStep_inv (h : otherStep s op = some s') : Inv s' := by
  unfold otherStep at h
  split at h
  · next hop =>
    split at h <;> cases h
    next world out hst =>
    have he := reachable_effect hs.world hst
    have hframe : ∀ j, world.submissions j = s.world.submissions j := fun j => by
      refine effect_frame he ?_
      rw [Option.isNone_iff_eq_none.mp hop]
      simp
    refine ⟨reachable_step hs.world op hst, fun j => ?_, fun g hg => ?_⟩
    · simpa only [hframe] using hs.call j
    obtain hd | hj := hs.accepted g hg
    · exact .inl (dead_step (reachable_consistent hs.world) he hd)
    · right
      simpa only [hframe] using hj
  · cases h

lemma step_inv {a : Action H T} (h : step s a = some s') : Inv s' := by
  cases a with
  | start => exact startStep_inv hs h
  | online => exact onlineStep_inv hs h
  | read => exact readStep_inv hs h
  | submit => exact submitStep_inv hs h
  | settle => exact settleStep_inv hs h
  | unwind => exact unwindStep_inv hs h
  | complete => exact completeStep_inv hs h
  | drop => exact dropStep_inv hs h
  | other => exact otherStep_inv hs h

omit hs

lemma reachable_inv (hs : Reachable (broadcasts H T) s) : Inv s := by
  refine hs.invariant (P := Inv) (fun s h => ?_) fun s a s' _ hinv hst => step_inv hinv hst
  rw [h]
  exact inv_init

end XelisWallet.BroadcastInv
