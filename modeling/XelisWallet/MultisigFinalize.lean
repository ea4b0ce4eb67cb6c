import XelisWallet.Builders
import XelisWallet.MultisigWallet
import XelisWallet.PreparedSafe

/-!
Finalizing a multisig transaction: from the pending request to the prepared slot.

`finalize_multisig_transaction` begins a preparation, takes the pending request if its signatures
verify, and commits the finalized transaction. Each of the three takes one lock, so a call is four
steps between which any other operation on the two stores can run. A call has a number, which is
also the variable of its preparation guard; from the call on, other callers use other variables.
-/

namespace XelisWallet.MultisigFinalize

open Fallible NativeError Multisig PendingMultisig PreparedStore PreparedGuards PreparedInv Runs
open Builders (NativePreparedTransaction PreparedWalletTransaction)

variable {T : Types}

/-! ### The calls -/

def withoutReviewExtraData (transaction : Transaction T) (state : T.BuilderState) :
    PreparedWalletTransaction T :=
  ⟨transaction, state, []⟩

def preparedTransactionError (error : PreparedTransactionError) : NativeXelisError :=
  let code := match error with
    | .preparationInProgress | .replacementDuringSubmission | .cancellationDuringSubmission
    | .alreadySubmitting => NativeXelisErrorCode.operationInProgress
    | .cannotDelete | .notFound => .notFound
    | .generationOverflow | .preparationStateInconsistent | .cancellationStateInconsistent
    | .submissionStateInconsistent | .emptyGuard => .internal
  .flutter code error.nativeKind error.toText

/-- Where a call is, with its local variables. -/
inductive Pc (T : Types)
  | idle
  | parsed (requestId : ℕ) (expectedSigningHash : T.Hash) (signatures : List MultisigSignature)
  | preparing (requestId : ℕ) (expectedSigningHash : T.Hash) (signatures : List MultisigSignature)
  | taken (requestId : ℕ) (expectedSigningHash : T.Hash) (pending : PendingMultisigTransaction T)
      (multisig : MultiSig T)
  /-- The call fails, and its guard is dropped first. -/
  | dropping (error : NativeXelisError)
  | returned (result : Except NativeXelisError NativePreparedTransaction)

/-- The call holds its preparation guard. -/
def Pc.holds : Pc T → Bool
  | .preparing .. | .taken .. | .dropping _ => true
  | _ => false

/-- The slot, the pending request and the calls. -/
structure State (T : Types) where
  prepared : World T.Hash (PreparedWalletTransaction T)
  pending : PendingStore T
  calls : ℕ → Pc T

def State.init : State T := ⟨.init, .default, fun _ => .idle⟩

def State.goto (s : State T) (i : ℕ) (pc : Pc T) : State T :=
  { s with calls := Function.update s.calls i pc }

/-- What a call does before it takes a lock. -/
def parseArguments (S : Suite T) (signingHash : String) (signatureShares : List String) :
    Except NativeXelisError (T.Hash × List MultisigSignature) := do
  let expectedSigningHash ← parseMultisigSigningHash S signingHash
  let signatures ← (signatureShares.mapM fun share =>
    parseMultisigSignatureShare S share expectedSigningHash).mapError fun error =>
      .walletOperation error .invalidInput "MULTISIG_SIGNATURE_SHARES_INVALID"
  return (expectedSigningHash, signatures)

/-- The pending transaction with its signatures, finalized by the source. -/
def finalized (S : Suite T) (keypair : T.KeyPair) (pending : PendingMultisigTransaction T)
    (multisig : MultiSig T) : Transaction T :=
  UnsignedTransaction.finalize S { pending.unsigned with multisig := some multisig } keypair

/-- What a call returns. -/
def finalizedResult (S : Suite T) (keypair : T.KeyPair) (pending : PendingMultisigTransaction T)
    (multisig : MultiSig T) (preparationId : ℕ) : NativePreparedTransaction :=
  let tx := finalized S keypair pending multisig
  ⟨S.hashHex.toText (S.transactionHash tx), preparationId, tx.fee,
    .multisigFinalized pending.transactionPreview⟩

inductive Action (T : Types)
  | call (i : ℕ) (requestId : ℕ) (signingHash : String) (signatureShares : List String)
  | begin (i : ℕ)
  | take (i : ℕ)
  | commit (i : ℕ)
  | drop (i : ℕ)
  /-- Another operation on the slot. -/
  | prepared (op : PreparedGuards.Op T.Hash (PreparedWalletTransaction T))
  /-- Another operation on the pending request. -/
  | pending (op : PendingMultisig.Op T.Hash (PendingMultisigTransaction T) (MultiSig T) String)

/-- The call whose step it is. -/
def Action.caller : Action T → Option ℕ
  | .call i .. | .begin i | .take i | .commit i | .drop i => some i
  | .prepared _ | .pending _ => none

/-- The variable of the preparation guard that an operation is about. -/
def preparationVariable {H U : Type} : PreparedGuards.Op H U → Option ℕ
  | .begin i | .commit i _ _ | .dropPreparation i => some i
  | _ => none

/-- A variable is free for other operations while the call with its number is idle. -/
def Available (s : State T) (op : PreparedGuards.Op T.Hash (PreparedWalletTransaction T)) : Bool :=
  match preparationVariable op with
  | none => true
  | some i =>
    match s.calls i with
    | .idle => true
    | _ => false

def step (S : Suite T) (keypair : T.KeyPair) (s : State T) : Action T → Option (State T)
  | .call i requestId signingHash signatureShares =>
    match s.calls i, s.prepared.preparations i with
    | .idle, none =>
      match parseArguments S signingHash signatureShares with
      | .error error => some (s.goto i (.returned (.error error)))
      | .ok (expectedSigningHash, signatures) =>
        some (s.goto i (.parsed requestId expectedSigningHash signatures))
    | _, _ => none
  | .begin i =>
    match s.calls i with
    | .parsed requestId expectedSigningHash signatures =>
      match PreparedGuards.step s.prepared (.begin i) with
      | some (prepared, .generation (.ok _)) =>
        some ({ s with prepared }.goto i (.preparing requestId expectedSigningHash signatures))
      | some (prepared, .generation (.error error)) =>
        some ({ s with prepared }.goto i (.returned (.error (preparedTransactionError error))))
      | _ => none
    | _ => none
  | .take i =>
    match s.calls i with
    | .preparing requestId expectedSigningHash signatures =>
      match s.pending.takeValidated requestId expectedSigningHash fun pending =>
          buildVerifiedMultisig S expectedSigningHash pending.configuration signatures with
      | (.error error, pending) =>
        let error := mapPendingMultisigError error .invalidInput "MULTISIG_FINALIZATION_INVALID"
        some ({ s with pending }.goto i (.dropping error))
      | (.ok (taken, multisig), pending) =>
        some ({ s with pending }.goto i (.taken requestId expectedSigningHash taken multisig))
    | _ => none
  | .commit i =>
    match s.calls i with
    | .taken _ _ pending multisig =>
      let tx := finalized S keypair pending multisig
      let transaction := withoutReviewExtraData tx pending.state
      match PreparedGuards.step s.prepared (.commit i (S.transactionHash tx) transaction) with
      | some (prepared, .generation (.ok preparationId)) =>
        some ({ s with prepared }.goto i
          (.returned (.ok (finalizedResult S keypair pending multisig preparationId))))
      | some (prepared, .generation (.error error)) =>
        some ({ s with prepared }.goto i (.dropping (preparedTransactionError error)))
      | _ => none
    | _ => none
  | .drop i =>
    match s.calls i with
    | .dropping error =>
      match PreparedGuards.step s.prepared (.dropPreparation i) with
      | some (prepared, _) => some ({ s with prepared }.goto i (.returned (.error error)))
      | none => none
    | _ => none
  | .prepared op =>
    if Available s op then
      match PreparedGuards.step s.prepared op with
      | some (prepared, _) => some { s with prepared }
      | none => none
    else none
  | .pending op => some { s with pending := (execute s.pending op).1 }

/-- The two stores with any number of calls and other callers. -/
def finalizing (S : Suite T) (keypair : T.KeyPair) : System (State T) (Action T) where
  init s := s = .init
  step s a s' := step S keypair s a = some s'

/-! ### What a step does -/

variable {S : Suite T} {keypair : T.KeyPair} {s s' : State T} {a : Action T} {i j : ℕ}

@[simp] lemma goto_calls_self (pc : Pc T) : (s.goto i pc).calls i = pc := Function.update_self ..

lemma goto_calls_ne (pc : Pc T) (h : j ≠ i) : (s.goto i pc).calls j = s.calls j :=
  Function.update_of_ne h ..

/-- The slot agrees with its guards, and a call that has begun and not ended a preparation has its
guard, and no other one has. -/
structure Inv (s : State T) : Prop where
  consistent : Consistent s.prepared
  holds : ∀ i, (s.calls i).holds = true → ∃ g, s.prepared.preparations i = some ⟨g, true⟩
  free : ∀ i, (s.calls i).holds = false → s.calls i ≠ .idle → s.prepared.preparations i = none

/-- What the step of a call can be. -/
inductive Move (S : Suite T) (keypair : T.KeyPair) (i : ℕ) (s : State T) :
    Action T → State T → Prop
  /-- Only the call itself goes on. -/
  | called (requestId : ℕ) (signingHash : String) (signatureShares : List String) (pc : Pc T)
      (hi : s.calls i = .idle) (hn : s.prepared.preparations i = none)
      (hpc : (∃ e, pc = .returned (.error e)) ∨ ∃ h signatures,
        parseArguments S signingHash signatureShares = .ok (h, signatures) ∧
          pc = .parsed requestId h signatures) :
      Move S keypair i s (.call i requestId signingHash signatureShares) (s.goto i pc)
  | refused (requestId : ℕ) (h : T.Hash) (signatures : List MultisigSignature)
      (e : NativeXelisError) (hi : s.calls i = .parsed requestId h signatures) :
      Move S keypair i s (.begin i) (s.goto i (.returned (.error e)))
  /-- The generation counter advances and the mark is set. -/
  | began (requestId : ℕ) (h : T.Hash) (signatures : List MultisigSignature)
      (hi : s.calls i = .parsed requestId h signatures)
      (ha : s.prepared.store.activePreparation = none)
      (hf : s.prepared.store.state.isInFlight = false)
      (hle : s.prepared.store.nextGeneration + 1 ≤ Checked.u64Max) :
      Move S keypair i s (.begin i)
        ({ s with prepared := { s.prepared with
            store := ⟨s.prepared.store.state, s.prepared.store.nextGeneration + 1,
              some (s.prepared.store.nextGeneration + 1)⟩
            preparations := Function.update s.prepared.preparations i
              (some ⟨s.prepared.store.nextGeneration + 1, true⟩) } }.goto i
          (.preparing requestId h signatures))
  | notTaken (requestId : ℕ) (h : T.Hash) (signatures : List MultisigSignature)
      (e : NativeXelisError) (hi : s.calls i = .preparing requestId h signatures) :
      Move S keypair i s (.take i) (s.goto i (.dropping e))
  /-- The pending request is consumed. -/
  | took (requestId : ℕ) (h : T.Hash) (signatures : List MultisigSignature)
      (pending : PendingMultisigTransaction T) (multisig : MultiSig T)
      (hi : s.calls i = .preparing requestId h signatures)
      (hp : s.pending.request = some (requestId, h, pending))
      (hm : buildVerifiedMultisig S h pending.configuration signatures = .ok multisig) :
      Move S keypair i s (.take i)
        ({ s with pending := ⟨none, s.pending.nextGeneration⟩ }.goto i
          (.taken requestId h pending multisig))
  /-- The transaction becomes ready in the slot and the mark is cleared. -/
  | committed (requestId : ℕ) (h : T.Hash) (pending : PendingMultisigTransaction T)
      (multisig : MultiSig T) (g : ℕ) (hi : s.calls i = .taken requestId h pending multisig)
      (hg : s.prepared.preparations i = some ⟨g, true⟩)
      (ha : s.prepared.store.activePreparation = some g) :
      Move S keypair i s (.commit i)
        ({ s with prepared := { s.prepared with
            store := ⟨.ready g (S.transactionHash (finalized S keypair pending multisig))
              (withoutReviewExtraData (finalized S keypair pending multisig) pending.state),
              s.prepared.store.nextGeneration, none⟩
            preparations := Function.update s.prepared.preparations i none } }.goto i
          (.returned (.ok (finalizedResult S keypair pending multisig g))))
  /-- The mark is cleared. -/
  | dropped (e : NativeXelisError) (g : ℕ) (hi : s.calls i = .dropping e)
      (hg : s.prepared.preparations i = some ⟨g, true⟩)
      (ha : s.prepared.store.activePreparation = some g) :
      Move S keypair i s (.drop i)
        ({ s with prepared := { s.prepared with
            store := ⟨s.prepared.store.state, s.prepared.store.nextGeneration, none⟩
            preparations := Function.update s.prepared.preparations i none } }.goto i
          (.returned (.error e)))

section Guards

variable {H U : Type} [DecidableEq H] {w w' : World H U} {g : ℕ}

lemma step_begin (hn : w.preparations i = none) :
    (∃ e, PreparedGuards.step w (.begin i) = some (w, .generation (.error e))) ∨
    (w.store.activePreparation = none ∧ w.store.state.isInFlight = false ∧
      w.store.nextGeneration + 1 ≤ Checked.u64Max ∧ PreparedGuards.step w (.begin i) = some
      ({ w with
        store := ⟨w.store.state, w.store.nextGeneration + 1, some (w.store.nextGeneration + 1)⟩
        preparations :=
          Function.update w.preparations i (some ⟨w.store.nextGeneration + 1, true⟩) },
        .generation (.ok (w.store.nextGeneration + 1)))) := by
  obtain ⟨e, he⟩ | ⟨ha, hf, hle, he⟩ := w.store.beginPreparation_cases
  · exact .inl ⟨e, by simp [PreparedGuards.step, hn, PreparationGuard.begin, he]⟩
  · exact .inr ⟨ha, hf, hle, by simp [PreparedGuards.step, hn, PreparationGuard.begin, he]⟩

lemma step_commit (hw : Consistent w) (hg : w.preparations i = some ⟨g, true⟩) (h : H) (t : U) :
    PreparedGuards.step w (.commit i h t) = some ({ w with
        store := ⟨.ready g h t, w.store.nextGeneration, none⟩
        preparations := Function.update w.preparations i none }, .generation (.ok g)) := by
  have ha := (hw.preparation i _ hg).2
  simp [PreparedGuards.step, hg, PreparationGuard.commit,
    w.store.commitPreparation_of_active ha (hw.exclusive _ ha) h t, PreparationGuard.live]

lemma step_dropPreparation (hw : Consistent w) (hg : w.preparations i = some ⟨g, true⟩) :
    PreparedGuards.step w (.dropPreparation i) = some ({ w with
        store := ⟨w.store.state, w.store.nextGeneration, none⟩
        preparations := Function.update w.preparations i none }, .abandoned true) := by
  have ha := (hw.preparation i _ hg).2
  simp [PreparedGuards.step, hg, PreparationGuard.drop, w.store.abandonPreparation_of_active ha]

omit [DecidableEq H] in
lemma effect_preparations {op : PreparedGuards.Op H U} {out : PreparedGuards.Outcome U}
    (he : Effect w op out w') (hi : preparationVariable op ≠ some i) :
    w'.preparations i = w.preparations i := by
  cases he with
  | began j | committed j | abandoned j =>
    have hne : i ≠ j := by
      rintro rfl
      exact hi rfl
    exact Function.update_of_ne hne _ _
  | _ => rfl

end Guards

/-- **What the step of a call does.** -/
theorem step_move (hs : Inv s) (h : step S keypair s a = some s') (ha : a.caller = some i) :
    Move S keypair i s a s' := by
  cases a <;> cases ha <;> simp only [step] at h
  case call requestId _ _ =>
    split at h
    · next hi hn =>
      split at h <;> cases h
      · next e _ => exact .called requestId _ _ _ hi hn (.inl ⟨e, rfl⟩)
      · next hash signatures hp =>
        exact .called requestId _ _ _ hi hn (.inr ⟨hash, signatures, hp, rfl⟩)
    · cases h
  case begin =>
    split at h
    · next requestId hash signatures hi =>
      have hn := hs.free i (by rw [hi]; rfl) (by rw [hi]; nofun)
      obtain ⟨e, he⟩ | ⟨ha, hf, hle, he⟩ := step_begin hn <;> rw [he] at h <;> cases h
      · exact .refused requestId hash signatures _ hi
      · exact .began requestId hash signatures hi ha hf hle
    · cases h
  case take =>
    split at h
    · next requestId hash signatures hi =>
      obtain ⟨e, he⟩ | ⟨pending, multisig, hp, hm, he⟩ :=
        s.pending.takeValidated_cases requestId hash fun pending =>
          buildVerifiedMultisig S hash pending.configuration signatures <;> rw [he] at h <;> cases h
      · exact .notTaken requestId hash signatures _ hi
      · exact .took requestId hash signatures pending multisig hi hp hm
    · cases h
  case commit =>
    split at h
    · next requestId hash pending multisig hi =>
      obtain ⟨g, hg⟩ := hs.holds i (by rw [hi]; rfl)
      rw [step_commit hs.consistent hg] at h
      cases h
      exact .committed requestId hash pending multisig g hi hg (hs.consistent.preparation i _ hg).2
    · cases h
  case drop =>
    split at h
    · next e hi =>
      obtain ⟨g, hg⟩ := hs.holds i (by rw [hi]; rfl)
      rw [step_dropPreparation hs.consistent hg] at h
      cases h
      exact .dropped e g hi hg (hs.consistent.preparation i _ hg).2
    · cases h

lemma step_other (hs : Inv s) (h : step S keypair s a = some s') (ha : a.caller = none) :
    s'.calls = s.calls ∧ Consistent s'.prepared ∧
      ∀ i, s.calls i ≠ .idle → s'.prepared.preparations i = s.prepared.preparations i := by
  cases a with
  | prepared =>
    unfold step at h
    dsimp only at h
    split at h
    case isFalse => cases h
    case isTrue hfree =>
      split at h
      case h_2 => cases h
      case h_1 w out hw =>
        cases h
        refine ⟨rfl, PreparedSafe.effect_consistent hs.consistent (step_effect hs.consistent hw),
          fun i hi => effect_preparations (step_effect hs.consistent hw) fun hv => hi ?_⟩
        rw [Available, hv] at hfree
        dsimp only at hfree
        split at hfree
        case h_1 hidle => exact hidle
        case h_2 => cases hfree
  | pending =>
    cases h
    exact ⟨rfl, hs.consistent, fun _ _ => rfl⟩
  | call | begin | take | commit | drop => cases ha

/-! ### What every step keeps -/

namespace Move

variable (hm : Move S keypair i s a s')

include hm

lemma calls_ne (hj : j ≠ i) : s'.calls j = s.calls j := by
  cases hm <;> exact goto_calls_ne _ hj

lemma preparations_ne (hj : j ≠ i) : s'.prepared.preparations j = s.prepared.preparations j := by
  cases hm with
  | called | refused | notTaken | took => rfl
  | began | committed | dropped => exact Function.update_of_ne hj _ _

lemma consistent (hs : Consistent s.prepared) : Consistent s'.prepared := by
  cases hm with
  | called | refused | notTaken | took => exact hs
  | began _ _ _ _ ha hf hle => exact PreparedSafe.effect_consistent hs (.began i ha hf hle)
  | committed _ _ _ _ g _ hg ha =>
    exact PreparedSafe.effect_consistent hs (.committed i g _ _ hg ha (hs.exclusive g ha))
  | dropped _ g _ hg ha => exact PreparedSafe.effect_consistent hs (.abandoned i g hg ha)

lemma holds (hs : Inv s) (hh : (s'.calls i).holds = true) :
    ∃ g, s'.prepared.preparations i = some ⟨g, true⟩ := by
  cases hm with
  | called _ _ _ pc _ _ hpc =>
    rw [goto_calls_self] at hh
    obtain ⟨e, rfl⟩ | ⟨_, _, -, rfl⟩ := hpc <;> cases hh
  | refused | committed | dropped =>
    rw [goto_calls_self] at hh
    cases hh
  | began => exact ⟨_, Function.update_self ..⟩
  | notTaken _ _ _ _ hi | took _ _ _ _ _ hi => exact hs.holds i (by rw [hi]; rfl)

lemma free (hs : Inv s) (hh : (s'.calls i).holds = false) :
    s'.prepared.preparations i = none := by
  cases hm with
  | called _ _ _ _ _ hn => exact hn
  | refused _ _ _ _ hi => exact hs.free i (by rw [hi]; rfl) (by rw [hi]; nofun)
  | began | notTaken | took =>
    rw [goto_calls_self] at hh
    cases hh
  | committed | dropped => exact Function.update_self ..

end Move

lemma Inv.step (hs : Inv s) (h : step S keypair s a = some s') : Inv s' := by
  cases ha : a.caller with
  | none =>
    obtain ⟨hcalls, hc, hp⟩ := step_other hs h ha
    refine ⟨hc, fun i hh => ?_, fun i hh hne => ?_⟩
    · rw [hcalls] at hh
      rw [hp i fun hi => by rw [hi] at hh; cases hh]
      exact hs.holds i hh
    · rw [hcalls] at hh hne
      rw [hp i hne]
      exact hs.free i hh hne
  | some j =>
    have hm := step_move hs h ha
    refine ⟨hm.consistent hs.consistent, fun i hh => ?_, fun i hh hne => ?_⟩
    · by_cases hi : i = j
      · subst hi
        exact hm.holds hs hh
      rw [hm.calls_ne hi] at hh
      rw [hm.preparations_ne hi]
      exact hs.holds i hh
    · by_cases hi : i = j
      · subst hi
        exact hm.free hs hh
      rw [hm.calls_ne hi] at hh hne
      rw [hm.preparations_ne hi]
      exact hs.free i hh hne

lemma inv_init : Inv (State.init : State T) :=
  ⟨consistent_init, fun _ hh => (nomatch hh), fun _ _ hne => absurd rfl hne⟩

variable {ls : List (Action T)} {h : T.Hash} {signatures : List MultisigSignature} {requestId : ℕ}

lemma inv_of_run (hr : Run (finalizing S keypair) .init ls s) : Inv s :=
  hr.preserves (P := Inv) (fun _ _ _ hs h => hs.step h) inv_init

/-! ### A call that fails changes nothing -/

/-- The pending request and the transaction in the slot are untouched; at most the generation
counter advances, and the mark of a preparation may change. -/
structure Untouched (s s' : State T) : Prop where
  pending : s'.pending = s.pending
  slot : s'.prepared.store.state = s.prepared.store.state
  submissions : s'.prepared.submissions = s.prepared.submissions
  counter : s'.prepared.store.nextGeneration = s.prepared.store.nextGeneration ∨
    s'.prepared.store.nextGeneration = s.prepared.store.nextGeneration + 1

/-- The call has consumed the pending request. -/
def Consumed (i : ℕ) (s : State T) : Prop :=
  (∃ requestId h pending multisig, s.calls i = .taken requestId h pending multisig) ∨
    ∃ r, s.calls i = .returned (.ok r)

lemma Move.untouched_or_consumed (hm : Move S keypair i s a s') :
    Untouched s s' ∨ Consumed i s' := by
  cases hm with
  | called | refused | notTaken | dropped => exact .inl ⟨rfl, rfl, rfl, .inl rfl⟩
  | began => exact .inl ⟨rfl, rfl, rfl, .inr rfl⟩
  | took => exact .inr (.inl ⟨_, _, _, _, goto_calls_self _⟩)
  | committed => exact .inr (.inr ⟨_, goto_calls_self _⟩)

/-- From the consumption on, a call can only succeed. -/
lemma Consumed.step (hs : Inv s) (hi : Consumed i s) (h : step S keypair s a = some s') :
    Consumed i s' := by
  cases ha : a.caller with
  | none => rwa [Consumed, (step_other hs h ha).1]
  | some j =>
    have hm := step_move hs h ha
    by_cases hj : i = j
    · subst hj
      cases hm with
      | committed => exact .inr ⟨_, goto_calls_self _⟩
      | called _ _ _ _ hpc | refused _ _ _ _ hpc | began _ _ _ hpc | notTaken _ _ _ _ hpc
      | took _ _ _ _ _ hpc | dropped _ _ hpc =>
        obtain ⟨_, _, _, _, ht⟩ | ⟨_, ht⟩ := hi <;> rw [ht] at hpc <;> cases hpc
    · rwa [Consumed, hm.calls_ne hj]

lemma Consumed.run (hs : Inv s) (hi : Consumed i s) (hr : Run (finalizing S keypair) s ls s') :
    Consumed i s' :=
  (hr.preserves (P := fun s => Inv s ∧ Consumed i s)
    (fun _ _ _ hp h => ⟨hp.1.step h, hp.2.step hp.1 h⟩) ⟨hs, hi⟩).2

/-! ### A call that succeeds has moved one request to the slot -/

/-- The arguments a call has read are those it was called with. -/
def Asked (S : Suite T) (i : ℕ) (ls : List (Action T)) (requestId : ℕ) (h : T.Hash)
    (signatures : List MultisigSignature) : Prop :=
  ∃ signingHash shares, .call i requestId signingHash shares ∈ ls ∧
    parseArguments S signingHash shares = .ok (h, signatures)

/-- What a call has read, until it takes the request. -/
def Pc.about : Pc T → Option (ℕ × T.Hash × List MultisigSignature)
  | .parsed requestId h signatures | .preparing requestId h signatures =>
    some (requestId, h, signatures)
  | _ => none

lemma Asked.append (ha : Asked S i ls requestId h signatures) (ls' : List (Action T)) :
    Asked S i (ls ++ ls') requestId h signatures := by
  obtain ⟨signingHash, shares, hc, hh⟩ := ha
  exact ⟨signingHash, shares, List.mem_append_left _ hc, hh⟩

lemma asked_of_run (hr : Run (finalizing S keypair) .init ls s)
    (hi : (s.calls i).about = some (requestId, h, signatures)) :
    Asked S i ls requestId h signatures := by
  refine hr.history (P := fun ls s => (s.calls i).about = some (requestId, h, signatures) →
    Asked S i ls requestId h signatures) (fun hi => by cases hi)
    (fun ls s a s' hr ih hst hi => ?_) hi
  have hs := inv_of_run hr
  cases ha : a.caller with
  | none =>
    rw [(step_other hs hst ha).1] at hi
    exact (ih hi).append _
  | some j =>
    have hm := step_move hs hst ha
    by_cases hj : i = j
    · subst hj
      cases hm with
      | called r signingHash shares pc _ _ hpc =>
        rw [goto_calls_self] at hi
        obtain ⟨e, rfl⟩ | ⟨h', signatures, hp, rfl⟩ := hpc <;> cases hi
        exact ⟨signingHash, shares, by simp, hp⟩
      | began _ _ _ hpc =>
        rw [goto_calls_self] at hi
        exact (ih (by rw [hpc]; exact hi)).append _
      | refused | notTaken | took | committed | dropped =>
        rw [goto_calls_self] at hi
        cases hi
    · rw [hm.calls_ne hj] at hi
      exact (ih hi).append _

lemma arrived_of_run (hr : Run (finalizing S keypair) .init ls s) (hi : s.calls i ≠ .idle) :
    ∃ ls₁ a ls₂ u v, ls = ls₁ ++ a :: ls₂ ∧ Run (finalizing S keypair) .init ls₁ u ∧
      step S keypair u a = some v ∧ Run (finalizing S keypair) v ls₂ s ∧
      Move S keypair i u a v ∧ v.calls i = s.calls i := by
  refine hr.history (P := fun ls s => s.calls i ≠ .idle →
    ∃ ls₁ a ls₂ u v, ls = ls₁ ++ a :: ls₂ ∧ Run (finalizing S keypair) .init ls₁ u ∧
      step S keypair u a = some v ∧ Run (finalizing S keypair) v ls₂ s ∧
      Move S keypair i u a v ∧ v.calls i = s.calls i) (fun hi => absurd rfl hi)
    (fun ls s b s' hr ih hst hi => ?_) hi
  have hs := inv_of_run hr
  -- a step that leaves the call where it is makes the run after its last step longer
  have longer (hsame : s'.calls i = s.calls i) :
      ∃ ls₁ a ls₂ u v, ls ++ [b] = ls₁ ++ a :: ls₂ ∧ Run (finalizing S keypair) .init ls₁ u ∧
        step S keypair u a = some v ∧ Run (finalizing S keypair) v ls₂ s' ∧
        Move S keypair i u a v ∧ v.calls i = s'.calls i := by
    rw [hsame] at hi ⊢
    obtain ⟨ls₁, a, ls₂, u, v, rfl, h₁, ha, h₂, hm, hv⟩ := ih hi
    exact ⟨ls₁, a, ls₂ ++ [b], u, v, by simp, h₁, ha, h₂.snoc hst, hm, hv⟩
  cases hb : b.caller with
  | none => exact longer (by rw [(step_other hs hst hb).1])
  | some j =>
    have hm := step_move hs hst hb
    by_cases hj : i = j
    · subst hj
      exact ⟨ls, b, [], s, s', rfl, hr, hst, .nil _, hm, rfl⟩
    · exact longer (hm.calls_ne hj)

/-- On the way to `s` the call took its request: the step before and after it, what it took, and
the multisig it built from its shares. -/
structure TookOn (S : Suite T) (keypair : T.KeyPair) (i : ℕ) (s : State T) (requestId : ℕ)
    (h : T.Hash) (pending : PendingMultisigTransaction T) (multisig : MultiSig T)
    (ls₁ ls₂ : List (Action T)) (u v : State T) : Prop where
  before : Run (finalizing S keypair) .init ls₁ u
  step : step S keypair u (.take i) = some v
  after : Run (finalizing S keypair) v ls₂ s
  asked : ∃ signatures, Asked S i ls₁ requestId h signatures ∧
    buildVerifiedMultisig S h pending.configuration signatures = .ok multisig
  request : u.pending.request = some (requestId, h, pending)
  consumed : v.pending.request = none
  slot : v.prepared = u.prepared

lemma tookOn_of_run (hr : Run (finalizing S keypair) .init ls s)
    {pending : PendingMultisigTransaction T} {multisig : MultiSig T}
    (hi : s.calls i = .taken requestId h pending multisig) :
    ∃ ls₁ ls₂ u v, ls = ls₁ ++ .take i :: ls₂ ∧
      TookOn S keypair i s requestId h pending multisig ls₁ ls₂ u v := by
  have hne : s.calls i ≠ .idle := by simp [hi]
  obtain ⟨ls₁, a, ls₂, u, v, rfl, h₁, hst, h₂, hm, hv⟩ := arrived_of_run hr hne
  rw [hi] at hv
  cases hm with
  | took r h' signatures pending' multisig' hpc hp hbuilt =>
    rw [goto_calls_self] at hv
    cases hv
    have hasked := asked_of_run h₁ (by rw [hpc]; rfl)
    exact ⟨ls₁, ls₂, u, _, rfl, h₁, hst, h₂, ⟨signatures, hasked, hbuilt⟩, hp, rfl, rfl⟩
  | called _ _ _ _ _ _ hpc =>
    rw [goto_calls_self] at hv
    obtain ⟨e, rfl⟩ | ⟨_, _, -, rfl⟩ := hpc <;> cases hv
  | refused | began | notTaken | committed | dropped =>
    rw [goto_calls_self] at hv
    cases hv

/-- On the way to `s` the call put the transaction of a request, with its multisig, in the slot, and
returned its id and its hash. -/
structure CommittedOn (S : Suite T) (keypair : T.KeyPair) (i : ℕ) (s : State T)
    (pending : PendingMultisigTransaction T) (multisig : MultiSig T)
    (r : NativePreparedTransaction) (ls : List (Action T)) (u v : State T) : Prop where
  step : step S keypair u (.commit i) = some v
  after : Run (finalizing S keypair) v ls s
  request : v.pending = u.pending
  slot : let tx := finalized S keypair pending multisig
    v.prepared.store.state = .ready r.preparationId (S.transactionHash tx)
      (withoutReviewExtraData tx pending.state) ∧
    r.hash = S.hashHex.toText (S.transactionHash tx) ∧
    r.transaction = .multisigFinalized pending.transactionPreview

lemma committedOn_of_run (hr : Run (finalizing S keypair) .init ls s)
    {r : NativePreparedTransaction} (hi : s.calls i = .returned (.ok r)) :
    ∃ ls₁ ls₂ ls₃ requestId h pending multisig u v u' v',
      ls = ls₁ ++ .take i :: (ls₂ ++ .commit i :: ls₃) ∧
      TookOn S keypair i u' requestId h pending multisig ls₁ ls₂ u v ∧
      CommittedOn S keypair i s pending multisig r ls₃ u' v' := by
  have hne : s.calls i ≠ .idle := by simp [hi]
  obtain ⟨ls', a, ls₃, u', v', rfl, h₁, hst, h₂, hm, hv⟩ := arrived_of_run hr hne
  rw [hi] at hv
  cases hm with
  | committed requestId h pending multisig g hpc =>
    rw [goto_calls_self] at hv
    cases hv
    obtain ⟨ls₁, ls₂, u, v, rfl, ht⟩ := tookOn_of_run h₁ hpc
    exact ⟨ls₁, ls₂, ls₃, requestId, h, pending, multisig, u, v, u', _, by simp, ht, hst, h₂, rfl,
      rfl, rfl, rfl⟩
  | called _ _ _ _ _ _ hpc =>
    rw [goto_calls_self] at hv
    obtain ⟨e, rfl⟩ | ⟨_, _, -, rfl⟩ := hpc <;> cases hv
  | refused | began | notTaken | took | dropped =>
    rw [goto_calls_self] at hv
    cases hv

/-- **Finalizing is atomic across the two stores.** Along every run, whatever other operations come
in between: no step of a call that returns an error touches the pending request or the slot, and it
leaves no preparation behind; a call that returns `Ok` has consumed the request that it was called
with, and has put its transaction, with the multisig of its shares, in the slot with exactly the id
and the hash that it returns; and a call that has consumed a request cannot fail any more. -/
theorem finalize_is_atomic (S : Suite T) (keypair : T.KeyPair) {ls : List (Action T)} {s : State T}
    (hr : Run (finalizing S keypair) .init ls s) (i : ℕ) :
    (∀ e, s.calls i = .returned (.error e) →
      s.prepared.preparations i = none ∧
      ∀ ls₁ a ls₂ u v, ls = ls₁ ++ a :: ls₂ → Run (finalizing S keypair) .init ls₁ u →
        step S keypair u a = some v → Run (finalizing S keypair) v ls₂ s → a.caller = some i →
        Untouched u v) ∧
    (∀ r, s.calls i = .returned (.ok r) →
      ∃ ls₁ ls₂ ls₃ requestId h pending multisig u v u' v',
        ls = ls₁ ++ .take i :: (ls₂ ++ .commit i :: ls₃) ∧
        TookOn S keypair i u' requestId h pending multisig ls₁ ls₂ u v ∧
        CommittedOn S keypair i s pending multisig r ls₃ u' v') ∧
    ∀ requestId h pending multisig, s.calls i = .taken requestId h pending multisig →
      ∃ s' r, step S keypair s (.commit i) = some s' ∧ s'.calls i = .returned (.ok r) := by
  have hs := inv_of_run hr
  refine ⟨fun e hi => ⟨?_, fun ls₁ a ls₂ u v _ hu hst hv ha => ?_⟩,
    fun r hi => committedOn_of_run hr hi, fun requestId h pending multisig hi => ?_⟩
  · exact hs.free i (by rw [hi]; rfl) (by rw [hi]; nofun)
  · have hu := inv_of_run hu
    obtain h | h := (step_move hu hst ha).untouched_or_consumed
    · exact h
    · obtain ⟨_, _, _, _, h⟩ | ⟨_, h⟩ := h.run (hu.step hst) hv <;> rw [h] at hi <;> cases hi
  · obtain ⟨g, hg⟩ := hs.holds i (by rw [hi]; rfl)
    obtain ⟨s', hst⟩ : ∃ s', step S keypair s (.commit i) = some s' := by
      simp only [step, hi, step_commit hs.consistent hg]
      exact ⟨_, rfl⟩
    cases step_move hs hst rfl with
    | committed => exact ⟨_, _, hst, goto_calls_self _⟩

/-! ### A call of the small suite -/

def flagPending : PendingMultisigTransaction flagTypes :=
  ⟨flagUnsigned, (), flagConfiguration, .deleteMultisig⟩

/-- The signature of a participant. -/
def flagSignature (k : Bool) : MultisigSignature :=
  ⟨UInt8.ofNat k.toNat, flagRequests.signatureHex.toText
    (flagRequests.sign k (flagRequests.hashAsBytes true))⟩

def flagShare (k : Bool) : String := (participantShare flagRequests true k.toNat k).encoded

lemma parse_flagArguments : parseArguments flagRequests (flagRequests.hashHex.toText true)
    [flagShare true, flagShare false] = .ok (true, [flagSignature true, flagSignature false]) := by
  have hhash :
      parseMultisigSigningHash flagRequests (flagRequests.hashHex.toText true) = .ok true :=
    context_eq_ok.mpr (flagRequests_signingLaws.hashHex true)
  have hshare (k : Bool) :
      parseMultisigSignatureShare flagRequests (flagShare k) true = .ok (flagSignature k) :=
    parse_participantShare flagRequests_signingLaws.toShareLaws true k.toNat k
  simp only [parseArguments, bind_eq_ok, mapError_eq_ok, mapM_eq_ok]
  exact ⟨true, hhash, _, .cons (hshare true) (.cons (hshare false) .nil), rfl⟩

lemma build_flagSignature : ∃ multisig, buildVerifiedMultisig flagRequests true flagConfiguration
    [flagSignature true, flagSignature false] = .ok multisig := by
  let verified (k : Bool) : SignatureId flagTypes :=
    ⟨UInt8.ofNat k.toNat, flagRequests.sign k (flagRequests.hashAsBytes true)⟩
  have hv (k : Bool) : verifyMultisigSignature flagRequests true flagConfiguration
      (flagSignature k) = .ok (verified k) :=
    verify_of_participant flagRequests_signingLaws flagConfiguration_active (by cases k <;> rfl)
  have hids : ([verified true, verified false].map (·.id)).Nodup := by decide
  simp only [buildVerifiedMultisig, bind_eq_ok, ensure_eq_ok, exists_const]
  exact ⟨⟨_, hids⟩, rfl, foldlM_addVerified.mpr
    ⟨_, .cons (hv true) (.cons (hv false) .nil), hids, rfl⟩⟩

lemma step_call {signingHash : String} {shares : List String} (hi : s.calls i = .idle)
    (hn : s.prepared.preparations i = none)
    (hp : parseArguments S signingHash shares = .ok (h, signatures)) :
    step S keypair s (.call i requestId signingHash shares) =
      some (s.goto i (.parsed requestId h signatures)) := by
  simp [step, hi, hn, hp]

lemma step_take {pending : PendingMultisigTransaction T} {multisig : MultiSig T}
    (hi : s.calls i = .preparing requestId h signatures)
    (hr : s.pending.request = some (requestId, h, pending))
    (hm : buildVerifiedMultisig S h pending.configuration signatures = .ok multisig) :
    step S keypair s (.take i) = some ({ s with pending := ⟨none, s.pending.nextGeneration⟩ }.goto i
        (.taken requestId h pending multisig)) := by
  simp [step, hi, s.pending.takeValidated_of_pending (f := fun pending => buildVerifiedMultisig S h
    pending.configuration signatures) hr hm]

/-- A request is stored and finalized with two shares, while another caller tries to cancel the
slot. -/
theorem flag_finalize_succeeds : ∃ ls s r requestId h pending,
    Run (finalizing flagRequests false) .init ls s ∧ s.calls 0 = .returned (.ok r) ∧
      ∃ multisig ls₁ ls₂ u v u',
        TookOn flagRequests false 0 u' requestId h pending multisig ls₁ ls₂ u v := by
  obtain ⟨multisig, hm⟩ := build_flagSignature
  let s₁ : State flagTypes := { State.init with pending := ⟨some (1, true, flagPending), 1⟩ }
  let s₂ : State flagTypes := s₁.goto 0 (.parsed 1 true [flagSignature true, flagSignature false])
  let s₃ : State flagTypes := State.goto { s₂ with prepared :=
    ⟨⟨.empty, 1, some 1⟩, Function.update (fun _ => none) 0 (some ⟨1, true⟩), fun _ => none⟩ } 0
    (.preparing 1 true [flagSignature true, flagSignature false])
  let s₄ : State flagTypes :=
    State.goto { s₃ with pending := ⟨none, 1⟩ } 0 (.taken 1 true flagPending multisig)
  have h₁ : Run (finalizing flagRequests false) .init [.pending (.insert true flagPending)] s₁ :=
    .single rfl
  have h₂ := h₁.snoc (u := s₂) (step_call rfl rfl parse_flagArguments)
  have h₃ := (h₂.snoc (u := s₃) (l := .begin 0) (by rfl)).snoc (u := s₃)
    (l := .prepared (.cancel false)) (by rfl)
  have h₄ := h₃.snoc (u := s₄) (step_take rfl rfl hm)
  obtain ⟨s₅, r, hst, hr⟩ := (finalize_is_atomic flagRequests false h₄ 0).2.2 _ _ _ _ rfl
  have h₅ := h₄.snoc hst
  obtain ⟨ls₁, ls₂, _, requestId, h, pending, multisig, u, v, u', _, -, ht, -⟩ :=
    (finalize_is_atomic flagRequests false h₅ 0).2.1 r hr
  exact ⟨_, s₅, r, requestId, h, pending, h₅, hr, multisig, ls₁, ls₂, u, v, u', ht⟩

end XelisWallet.MultisigFinalize
