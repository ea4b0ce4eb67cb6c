import XelisWallet.BroadcastInv

/-!
What the callers of a broadcast can rely on: the slot agrees with the answer, no prepared
transaction is in two submissions at once or submitted again after a success, and no call is
ever stuck.
-/

namespace XelisWallet.BroadcastSafe

open Runs PreparedStore PreparedInv PreparedSafe PreparedLife Submission Broadcast BroadcastInv
open PreparedGuards hiding step
open ErrorClassification (WalletError)

variable {H T : Type} [DecidableEq H] {op : Op H T} {i : ℕ} {s s' : Wallet H T}

/-- The steps a call can take in a phase, whatever the environment answers. -/
inductive Meets (i : ℕ) : Phase H → Action H T → Prop
  | start (path : Path H) : Meets i .idle (.start i path)
  | online (path : Path H) (b : Bool) : Meets i (.online path) (.online i b)
  | storage (hash : Option H) (r : Except StorageRead Unit) : Meets i (.storage hash) (.read i r)
  | reading (r : Except StorageRead Unit) : Meets i .reading (.read i r)
  | submitting (r : Except WalletError Unit) : Meets i .submitting (.submit i r)
  | resolved (r : SubmissionResolution) : Meets i (.resolved r) (.settle i)
  | settling (r : SubmissionResolution) (b : Bool) : Meets i (.settling r) (.complete i b)
  | dropOnline (path : Path H) : Meets i (.online path) (.drop i)
  | dropStorage (hash : Option H) : Meets i (.storage hash) (.drop i)
  | dropReading : Meets i .reading (.drop i)
  | dropSubmitting : Meets i .submitting (.drop i)
  | dropSettling (r : SubmissionResolution) : Meets i (.settling r) (.drop i)

lemma take_enabled (hs : Inv s) (hi : s.world.submissions i = none) {h : H} {g : ℕ}
    (hop : op = .take i h ∨ op = .takeExact i g h) :
    ∃ w' r, PreparedGuards.step s.world op = some (w', .unit r) ∧
      (r = .ok () → ∃ g t, w'.submissions i = some ⟨g, h, some t⟩) := by
  obtain ⟨w', out, hst⟩ : ∃ w' out, PreparedGuards.step s.world op = some (w', out) := by
    obtain rfl | rfl := hop
    · cases hr : SubmissionGuard.take s.world.store h with
      | mk r => cases r <;> simp [PreparedGuards.step, hi, hr]
    · cases hr : SubmissionGuard.takeExact s.world.store g h with
      | mk r => cases r <;> simp [PreparedGuards.step, hi, hr]
  obtain ⟨e, rfl, -⟩ | ⟨rfl, g', t, -, hi'⟩ := effect_take (reachable_effect hs.world hst) hop
  · exact ⟨w', .error e, hst, by simp⟩
  · exact ⟨w', .ok (), hst, fun _ => ⟨g', t, hi'⟩⟩

lemma dropGuard_enabled {guard : SubmissionGuard H T} (hi : s.world.submissions i = some guard)
    (told : Told) : ∃ s', s.dropGuard i told = some s' := by
  simp [Wallet.dropGuard, PreparedGuards.step, hi]

lemma submitGuarded_enabled {g : ℕ} {h : H} {t : T}
    (hi : s.world.submissions i = some ⟨g, h, some t⟩) : ∃ s', s.submitGuarded i = some s' := by
  simp [Wallet.submitGuarded, hi, SubmissionGuard.borrow]

lemma settle_enabled (hs : Inv s) {r : SubmissionResolution}
    (hp : (s.calls i).phase = .resolved r) : ∃ s', settleStep s i = some s' := by
  have hcall := hs.call i
  simp only [CallInv, hp] at hcall
  obtain ⟨g, h, t, hi, -⟩ := hcall
  have hrestore : ∃ w', PreparedGuards.step s.world (.restore i) = some (w', .unit (.ok ())) := by
    obtain ⟨w', _, hst, -⟩ := restore_usable hs.world hi (.inl rfl)
    exact ⟨w', hst⟩
  have hfinish : ∃ w', PreparedGuards.step s.world (.finish i)
      = some (w', .transaction (.ok t)) := by
    obtain ⟨w', out, hst⟩ : ∃ w' out, PreparedGuards.step s.world (.finish i) = some (w', out) :=
      ⟨_, _, by simp only [PreparedGuards.step, hi]; rfl⟩
    obtain ⟨rfl, -⟩ := effect_finish (reachable_effect hs.world hst) hi
    exact ⟨w', hst⟩
  obtain ⟨w₁, h₁⟩ := hrestore
  obtain ⟨w₂, h₂⟩ := hfinish
  cases r <;> simp [settleStep, hp, h₁, h₂]

lemma meets_enabled (hs : Inv s) {a : Action H T} (hm : Meets i (s.calls i).phase a) :
    ∃ s', step s a = some s' := by
  have hcall := hs.call i
  generalize hp : (s.calls i).phase = phase at hm
  cases hm with
  | start path => rcases path with ⟨g, _ | hash⟩ | hash <;> simp [step, startStep, hp]
  | online path b =>
    rcases path with ⟨g, _ | hash⟩ | hash <;> simp only [CallInv, hp] at hcall
    · obtain ⟨w', r, hst, -⟩ := take_enabled hs hcall (g := g) (h := hash) (.inr rfl)
      cases b with
      | true => cases r <;> simp [step, onlineStep, hp, hst]
      | false =>
        cases hr : s.world.store.ensureReadyExact g hash <;> simp [step, onlineStep, hp, hr]
    · cases b <;> simp [step, onlineStep, hp]
  | storage hash r =>
    simp only [CallInv, hp] at hcall
    obtain read | ⟨⟩ := r
    · simp [step, readStep, hp]
    obtain _ | hash := hash
    · simp [step, readStep, hp]
    obtain ⟨w', r, hst, hok⟩ := take_enabled hs hcall (g := 0) (h := hash) (.inl rfl)
    cases r with
    | error => simp [step, readStep, hp, hst]
    | ok =>
      obtain ⟨g, t, hi⟩ := hok rfl
      obtain ⟨s', hs'⟩ := submitGuarded_enabled (s := s.first i w' .reading) hi
      exact ⟨s', by simp [step, readStep, hp, hst, hs']⟩
  | reading r =>
    simp only [CallInv, hp] at hcall
    obtain ⟨g, h, t, hi, -⟩ := hcall
    obtain read | ⟨⟩ := r
    · simpa only [step, readStep, hp] using dropGuard_enabled hi _
    · simpa only [step, readStep, hp] using submitGuarded_enabled hi
  | submitting => simp [step, submitStep, hp]
  | resolved => exact settle_enabled hs hp
  | settling => simp [step, completeStep, hp]
  | dropOnline | dropStorage | dropSettling => simp [step, dropStep, hp]
  | dropReading | dropSubmitting =>
    simp only [CallInv, hp] at hcall
    obtain ⟨g, h, t, hi, -⟩ := hcall
    simpa only [step, dropStep, hp] using dropGuard_enabled hi _

lemma submitting_fresh (hs : Inv s) (hp : (s.calls i).phase = .submitting) :
    ∃ guard, s.world.submissions i = some guard ∧ guard.generation ∉ s.accepted := by
  have hcall := hs.call i
  simp only [CallInv, hp] at hcall
  obtain ⟨g, h, t, hi, -⟩ := hcall
  refine ⟨_, hi, fun hg => ?_⟩
  obtain hd | ⟨j, h', t', hj, hpj⟩ := hs.accepted g hg
  · exact hd.absent h t (some i) hi
  have hij := (reachable_consistent hs.world).submission_unique i j _ _ hi hj
  subst hij
  rw [hp] at hpj
  cases hpj

lemma submitting_unique (hs : Inv s) {j : ℕ} (hi : (s.calls i).phase = .submitting)
    (hj : (s.calls j).phase = .submitting) : i = j := by
  obtain ⟨a, ha, -⟩ := submitting_fresh hs hi
  obtain ⟨b, hb, -⟩ := submitting_fresh hs hj
  exact (reachable_consistent hs.world).submission_unique i j a b ha hb

/-- **The slot agrees with what the callers are told.** However the broadcasts interleave with
each other and with the other tasks, and wherever their futures are dropped: a finished call
owns no guard; it leaves the slot empty when it told that the transaction is submitted,
rejected or failed for good, and as it was when it told a retryable failure or an error or was
dropped before its submission resolved; it leaves in flight only what another call has in
flight. At most one call is submitting, and never a generation whose submission succeeded
before. No call is ever stuck. -/
theorem broadcast_slot_agrees (hs : Reachable (broadcasts H T) s) :
    (∀ i told, (s.calls i).phase = .done told →
      s.world.submissions i = none ∧ Agrees told (s.calls i).before (s.calls i).after) ∧
    (∀ i j, (s.calls i).phase = .submitting → (s.calls j).phase = .submitting → i = j) ∧
    (∀ i, (s.calls i).phase = .submitting →
      ∃ guard, s.world.submissions i = some guard ∧ guard.generation ∉ s.accepted ∧
        ∀ s', step s (.submit i (.ok ())) = some s' →
          s'.accepted = guard.generation :: s.accepted) ∧
    ∀ i a, Meets i (s.calls i).phase a → ∃ s', step s a = some s' := by
  have hinv := reachable_inv hs
  refine ⟨fun i told hp => ?_, fun i j => submitting_unique hinv, fun i hp => ?_,
    fun i a => meets_enabled hinv⟩
  · have hcall := hinv.call i
    simpa only [CallInv, hp] using hcall
  · obtain ⟨guard, hi, hfresh⟩ := submitting_fresh hinv hp
    refine ⟨guard, hi, hfresh, fun s' hst => ?_⟩
    simp only [step, submitStep, hp, acceptedBy, hi, Option.map_some, Option.toList_some,
      Option.some.injEq] at hst
    rw [← hst]
    rfl

def timedOut : WalletError := .any (.mk "timed out" (some .timedOut) none) "Any"

/-- A by-hash broadcast that times out leaves the transaction as it found it. -/
theorem timed_out_broadcast_restores :
    ∃ s : Wallet ℕ ℕ, Reachable (broadcasts ℕ ℕ) s ∧
      (s.calls 0).phase = .done (.retryable timedOut) ∧
      (s.calls 0).before = .ready 1 7 42 ∧ (s.calls 0).after = .ready 1 7 42 := by
  have h : Reachable (broadcasts ℕ ℕ) _ := (Reachable.of_init (s := Wallet.init) rfl).exec
    (fun _ _ _ h => h) [.other (.replace 7 42), .start 0 (.byHash (some 7)), .online 0 true,
      .read 0 (.ok ()), .submit 0 (.error timedOut), .settle 0,
      .complete 0 false] rfl
  exact ⟨_, h, rfl, rfl, ((broadcast_slot_agrees h).1 0 _ rfl).2.kept rfl 1 7 42 rfl⟩

end XelisWallet.BroadcastSafe
