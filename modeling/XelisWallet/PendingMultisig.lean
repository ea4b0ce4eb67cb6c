import Mathlib.Data.List.Nodup
import XelisWallet.Checked
import XelisWallet.Runs

/-!
The pending multisig request of a wallet.

A request that waits for its signatures has an id from a counter and the hash to be signed. It is
given back once, to who names both and whose validation succeeds, or cancelled. The operations
below are the methods that run under the store lock.
-/

namespace XelisWallet.PendingMultisig

open Checked Runs

inductive PendingMultisigError
  | alreadyPending
  | generationOverflow
  | notFound
  | requestMismatch
  deriving DecidableEq, Repr

/-- The `Display` text of an error. -/
def PendingMultisigError.toText : PendingMultisigError → String
  | .alreadyPending => "another multisig request is already pending"
  | .generationOverflow => "multisig request generation overflow"
  | .notFound => "no multisig request is pending"
  | .requestMismatch => "the multisig request does not match the pending transaction"

/-- An error of the store or one of a validator, over the errors `E` of validators. -/
inductive Failure (E : Type)
  | pending (error : PendingMultisigError)
  | invalid (error : E)
  deriving DecidableEq, Repr

/-- The request with its id and its signing hash, over hashes `H` and what is kept of a
request, `T`. -/
structure PendingMultisigStore (H T : Type) where
  request : Option (ℕ × H × T)
  nextGeneration : ℕ
  deriving DecidableEq, Repr

variable {H T R E : Type}

namespace PendingMultisigStore

abbrev Store (H T : Type) := PendingMultisigStore H T

def default : Store H T := ⟨none, 0⟩

def insert (s : Store H T) (signingHash : H) (payload : T) : Except (Failure E) ℕ × Store H T :=
  if s.request.isSome then (.error (.pending .alreadyPending), s)
  else
    match checkedAdd u64Max s.nextGeneration 1 with
    | none => (.error (.pending .generationOverflow), s)
    | some generation => (.ok generation, ⟨some (generation, signingHash, payload), generation⟩)

variable [DecidableEq H]

def ensureExpectedRequest (s : Store H T) (requestId : ℕ) (expectedSigningHash : H) :
    Except (Failure E) Unit :=
  match s.request with
  | none => .error (.pending .notFound)
  | some (actualRequestId, actualSigningHash, _) =>
    if actualRequestId ≠ requestId ∨ actualSigningHash ≠ expectedSigningHash then
      .error (.pending .requestMismatch)
    else .ok ()

def cancel (s : Store H T) (requestId : ℕ) (expectedSigningHash : H) :
    Except (Failure E) Unit × Store H T :=
  match s.ensureExpectedRequest requestId expectedSigningHash with
  | .error e => (.error e, s)
  | .ok () => (.ok (), { s with request := none })

def validate (s : Store H T) (requestId : ℕ) (expectedSigningHash : H)
    (validate : T → Except E R) : Except (Failure E) R :=
  match s.ensureExpectedRequest requestId expectedSigningHash with
  | .error e => .error e
  | .ok () =>
    match s.request with
    | none => .error (.pending .notFound)
    | some (_, _, payload) =>
      match validate payload with
      | .error e => .error (.invalid e)
      | .ok r => .ok r

def takeValidated (s : Store H T) (requestId : ℕ) (expectedSigningHash : H)
    (validate : T → Except E R) : Except (Failure E) (T × R) × Store H T :=
  match s.validate requestId expectedSigningHash validate with
  | .error e => (.error e, s)
  | .ok validation =>
    match s.request with
    | none => (.error (.pending .notFound), s)
    | some (_, _, payload) => (.ok (payload, validation), { s with request := none })

/-! ### What an operation does -/

variable (s : Store H T)

omit [DecidableEq H] in
lemma insert_cases (h : H) (t : T) :
    (∃ e : Failure E, s.insert h t = (.error e, s)) ∨
    (s.request = none ∧ s.nextGeneration + 1 ≤ u64Max ∧ s.insert (E := E) h t =
      (.ok (s.nextGeneration + 1), ⟨some (s.nextGeneration + 1, h, t), s.nextGeneration + 1⟩)) := by
  unfold insert
  split
  · exact .inl ⟨_, rfl⟩
  next hn =>
  cases hc : checkedAdd u64Max s.nextGeneration 1 with
  | none => exact .inl ⟨_, rfl⟩
  | some =>
    obtain ⟨hle, rfl⟩ := checkedAdd_eq_some.mp hc
    exact .inr ⟨by simpa using hn, hle, rfl⟩

lemma ensureExpectedRequest_eq_ok {i : ℕ} {h : H} :
    s.ensureExpectedRequest (E := E) i h = .ok () ↔ ∃ t, s.request = some (i, h, t) := by
  unfold ensureExpectedRequest
  cases hr : s.request with
  | none => simp
  | some r =>
    obtain ⟨i', h', t⟩ := r
    by_cases hi : i' = i <;> by_cases hh : h' = h <;> simp [hi, hh]

lemma ensureExpectedRequest_cases (i : ℕ) (h : H) :
    (∃ e : Failure E, s.ensureExpectedRequest i h = .error e) ∨
    ∃ t, s.request = some (i, h, t) ∧ s.ensureExpectedRequest (E := E) i h = .ok () := by
  cases he : s.ensureExpectedRequest (E := E) i h with
  | error e => exact .inl ⟨e, rfl⟩
  | ok =>
    obtain ⟨t, ht⟩ := s.ensureExpectedRequest_eq_ok.mp he
    exact .inr ⟨t, ht, rfl⟩

lemma cancel_cases (i : ℕ) (h : H) :
    (∃ e : Failure E, s.cancel i h = (.error e, s)) ∨
    ∃ t, s.request = some (i, h, t) ∧
      s.cancel (E := E) i h = (.ok (), ⟨none, s.nextGeneration⟩) := by
  unfold cancel
  obtain ⟨e, he⟩ | ⟨t, ht, he⟩ := s.ensureExpectedRequest_cases (E := E) i h
  · exact .inl ⟨e, by rw [he]⟩
  · exact .inr ⟨t, ht, by rw [he]⟩

lemma validate_cases (i : ℕ) (h : H) (f : T → Except E R) :
    (∃ e : Failure E, s.validate i h f = .error e) ∨
    ∃ t r, s.request = some (i, h, t) ∧ f t = .ok r ∧ s.validate i h f = .ok r := by
  unfold validate
  obtain ⟨e, he⟩ | ⟨t, ht, he⟩ := s.ensureExpectedRequest_cases (E := E) i h
  · exact .inl ⟨e, by rw [he]⟩
  simp only [he, ht]
  cases hf : f t with
  | error => exact .inl ⟨_, rfl⟩
  | ok r => exact .inr ⟨t, r, rfl, hf, rfl⟩

lemma takeValidated_cases (i : ℕ) (h : H) (f : T → Except E R) :
    (∃ e : Failure E, s.takeValidated i h f = (.error e, s)) ∨
    ∃ t r, s.request = some (i, h, t) ∧ f t = .ok r ∧
      s.takeValidated i h f = (.ok (t, r), ⟨none, s.nextGeneration⟩) := by
  unfold takeValidated
  obtain ⟨e, he⟩ | ⟨t, r, ht, hf, he⟩ := s.validate_cases i h f
  · exact .inl ⟨e, by rw [he]⟩
  · exact .inr ⟨t, r, ht, hf, by rw [he, ht]⟩

lemma validate_of_pending {i : ℕ} {h : H} {t : T} {r : R} {f : T → Except E R}
    (hs : s.request = some (i, h, t)) (hf : f t = .ok r) : s.validate i h f = .ok r := by
  simp [validate, ensureExpectedRequest, hs, hf]

lemma takeValidated_of_pending {i : ℕ} {h : H} {t : T} {r : R} {f : T → Except E R}
    (hs : s.request = some (i, h, t)) (hf : f t = .ok r) :
    s.takeValidated i h f = (.ok (t, r), ⟨none, s.nextGeneration⟩) := by
  simp [takeValidated, s.validate_of_pending hs hf, hs]

end PendingMultisigStore

/-! ### Runs of the store -/

/-- The calls of the store, each atomic under its lock. -/
inductive Op (H T R E : Type)
  | insert (signingHash : H) (payload : T)
  | cancel (requestId : ℕ) (expectedSigningHash : H)
  | validate (requestId : ℕ) (expectedSigningHash : H) (validate : T → Except E R)
  | takeValidated (requestId : ℕ) (expectedSigningHash : H) (validate : T → Except E R)

inductive Outcome (T R E : Type)
  | inserted (result : Except (Failure E) ℕ)
  | cancelled (result : Except (Failure E) Unit)
  | validated (result : Except (Failure E) R)
  | taken (result : Except (Failure E) (T × R))

/-- The call returned an error. -/
def Outcome.failed : Outcome T R E → Bool
  | .inserted (.error _) | .cancelled (.error _) | .validated (.error _) | .taken (.error _) => true
  | _ => false

variable [DecidableEq H]

def execute (s : PendingMultisigStore H T) :
    Op H T R E → PendingMultisigStore H T × Outcome T R E
  | .insert h t => ((s.insert (E := E) h t).2, .inserted (s.insert h t).1)
  | .cancel i h => ((s.cancel (E := E) i h).2, .cancelled (s.cancel i h).1)
  | .validate i h f => (s, .validated (s.validate i h f))
  | .takeValidated i h f => ((s.takeValidated i h f).2, .taken (s.takeValidated i h f).1)

/-- The store with any number of callers. -/
def pendingStore (H T R E : Type) [DecidableEq H] :
    System (PendingMultisigStore H T) (Op H T R E × Outcome T R E) where
  init s := s = .default
  step s l s' := execute s l.1 = (s', l.2)

/-- The id and the signing hash that a call stored. -/
def stored : Op H T R E × Outcome T R E → Option (ℕ × H)
  | (.insert h _, .inserted (.ok i)) => some (i, h)
  | _ => none

/-- The id and the signing hash with which a call took or cancelled the request. -/
def used : Op H T R E × Outcome T R E → Option (ℕ × H)
  | (.cancel i h, .cancelled (.ok ())) => some (i, h)
  | (.takeValidated i h _, .taken (.ok _)) => some (i, h)
  | _ => none

/-- The id and the signing hash of the pending request. -/
def PendingMultisigStore.pending (s : PendingMultisigStore H T) : Option (ℕ × H) :=
  s.request.map fun r => (r.1, r.2.1)

variable {s s' : PendingMultisigStore H T} {l : Op H T R E × Outcome T R E}

/-- **What a call does.** It leaves the store and uses nothing, or it stores a request under the
next id where there was none, or it takes the pending one by its id and its hash. -/
theorem execute_cases (hl : execute s l.1 = (s', l.2)) :
    (s' = s ∧ stored l = none ∧ used l = none) ∨
    (∃ h t, s.request = none ∧ s.nextGeneration + 1 ≤ u64Max ∧ l.2.failed = false ∧
      s' = ⟨some (s.nextGeneration + 1, h, t), s.nextGeneration + 1⟩ ∧
      stored l = some (s.nextGeneration + 1, h) ∧ used l = none) ∨
    (∃ i h t, s.request = some (i, h, t) ∧ l.2.failed = false ∧ s' = ⟨none, s.nextGeneration⟩ ∧
      stored l = none ∧ used l = some (i, h)) := by
  obtain ⟨op, out⟩ := l
  cases op <;> simp only [execute] at hl
  case insert h t =>
    obtain ⟨e, he⟩ | ⟨hn, hle, he⟩ := s.insert_cases (E := E) h t <;> rw [he] at hl <;> cases hl
    · exact .inl ⟨rfl, rfl, rfl⟩
    · exact .inr (.inl ⟨_, _, hn, hle, rfl, rfl, rfl, rfl⟩)
  case cancel i h =>
    obtain ⟨e, he⟩ | ⟨t, hs, he⟩ := s.cancel_cases (E := E) i h <;> rw [he] at hl <;> cases hl
    · exact .inl ⟨rfl, rfl, rfl⟩
    · exact .inr (.inr ⟨_, _, t, hs, rfl, rfl, rfl, rfl⟩)
  case validate =>
    cases hl
    exact .inl ⟨rfl, rfl, rfl⟩
  case takeValidated i h f =>
    obtain ⟨e, he⟩ | ⟨t, r, hs, -, he⟩ := s.takeValidated_cases i h f <;> rw [he] at hl <;> cases hl
    · exact .inl ⟨rfl, rfl, rfl⟩
    · exact .inr (.inr ⟨_, _, t, hs, rfl, rfl, rfl, rfl⟩)

lemma execute_failed (hl : execute s l.1 = (s', l.2)) (hf : l.2.failed = true) : s' = s := by
  obtain ⟨h, -⟩ | ⟨_, _, -, -, h, -⟩ | ⟨_, _, _, -, h, -⟩ := execute_cases hl
  · exact h
  all_goals simp [hf] at h

/-- What was stored and what was used along a run. -/
structure Accounted (ls : List (Op H T R E × Outcome T R E)) (s : PendingMultisigStore H T) :
    Prop where
  exact : ls.filterMap stored = ls.filterMap used ++ s.pending.toList
  increasing : ((ls.filterMap stored).map Prod.fst).Pairwise (· < ·)
  bounded : ∀ i ∈ (ls.filterMap stored).map Prod.fst, i ≤ s.nextGeneration
  counter : s.nextGeneration ≤ u64Max

lemma Accounted.step {ls : List (Op H T R E × Outcome T R E)} (ha : Accounted ls s)
    (hl : execute s l.1 = (s', l.2)) : Accounted (ls ++ [l]) s' := by
  obtain ⟨hx, hi, hb, hc⟩ := ha
  obtain ⟨rfl, hst, hu⟩ | ⟨h, t, hn, hle, -, rfl, hst, hu⟩ | ⟨i, h, t, hp, -, rfl, hst, hu⟩ :=
    execute_cases hl
  · have hs : (ls ++ [l]).filterMap stored = ls.filterMap stored := by simp [hst]
    have hu : (ls ++ [l]).filterMap used = ls.filterMap used := by simp [hu]
    exact ⟨by rw [hs, hu, hx], by rwa [hs], by rwa [hs], hc⟩
  · -- The slot was empty, so everything stored before is used.
    have hs : (ls ++ [l]).filterMap stored =
        ls.filterMap stored ++ [(s.nextGeneration + 1, h)] := by simp [hst]
    have hu : (ls ++ [l]).filterMap used = ls.filterMap used := by simp [hu]
    refine ⟨?_, ?_, ?_, hle⟩
    · rw [hs, hu, hx]
      simp [PendingMultisigStore.pending, hn]
    · rw [hs, List.map_append, List.pairwise_append]
      refine ⟨hi, by simp, ?_⟩
      rintro i hi _ (_ | ⟨_, ⟨⟩⟩)
      exact Nat.lt_succ_of_le (hb i hi)
    · rw [hs, List.map_append]
      rintro i hi
      obtain hi | hi := List.mem_append.mp hi
      · exact Nat.le_succ_of_le (hb i hi)
      · simp only [List.map_cons, List.map_nil, List.mem_singleton] at hi
        exact Nat.le_of_eq hi
  · have hs : (ls ++ [l]).filterMap stored = ls.filterMap stored := by simp [hst]
    have hu : (ls ++ [l]).filterMap used = ls.filterMap used ++ [(i, h)] := by simp [hu]
    refine ⟨?_, by rwa [hs], by rwa [hs], hc⟩
    rw [hs, hu, hx]
    simp [PendingMultisigStore.pending, hp]

lemma run_accounted {ls : List (Op H T R E × Outcome T R E)}
    (hr : Run (pendingStore H T R E) .default ls s) : Accounted ls s :=
  hr.history (P := Accounted)
    ⟨rfl, by simp, by simp, Nat.zero_le _⟩ fun _ _ _ _ _ ha hl => ha.step hl

/-- **A pending request is used once.** Along every run the requests stored are, in this order,
those that were used and the one that is pending, if any. Their ids are strictly increasing, so
none is used twice, and each is used with the signing hash that it was stored with. A call that
returns an error changes nothing. -/
theorem pending_request_used_once (H T R E : Type) [DecidableEq H] :
    (∀ ls (s : PendingMultisigStore H T), Run (pendingStore H T R E) .default ls s →
      ls.filterMap stored = ls.filterMap used ++ s.pending.toList ∧
      ((ls.filterMap stored).map Prod.fst).Pairwise (· < ·) ∧
      (∀ i ∈ (ls.filterMap stored).map Prod.fst, i ≤ s.nextGeneration ∧ i ≤ u64Max) ∧
      ((ls.filterMap used).map Prod.fst).Nodup ∧
      ∀ i h h', (i, h) ∈ ls.filterMap used → (i, h') ∈ ls.filterMap stored → h = h') ∧
    ∀ (s s' : PendingMultisigStore H T) (op : Op H T R E) out,
      execute s op = (s', out) → out.failed = true → s' = s := by
  refine ⟨fun ls s hr => ?_, fun s s' op out hl hf => execute_failed (l := (op, out)) hl hf⟩
  obtain ⟨hx, hi, hb, hc⟩ := run_accounted hr
  have hn : ((ls.filterMap stored).map Prod.fst).Nodup := hi.imp fun h => Nat.ne_of_lt h
  refine ⟨hx, hi, fun i hi => ⟨hb i hi, Nat.le_trans (hb i hi) hc⟩, ?_, fun i h h' hu hs => ?_⟩
  · rw [hx, List.map_append] at hn
    exact (List.nodup_append.mp hn).1
  · have hm : (i, h) ∈ ls.filterMap stored := by
      rw [hx]
      exact List.mem_append_left _ hu
    exact congrArg Prod.snd (List.inj_on_of_nodup_map hn hm hs rfl)

/-- A request is stored, refused to a failing validator and to a wrong hash, taken, and stored
again under the same hash with another id. -/
theorem request_stored_twice : ∃ ls : List (Op ℕ ℕ ℕ String × Outcome ℕ ℕ String),
    ls.filterMap stored = [(1, 7), (2, 7)] ∧ ls.filterMap used = [(1, 7)] ∧
      ((ls.filterMap used).map Prod.fst).Nodup := by
  have h₁ : Run (pendingStore ℕ ℕ ℕ String) .default [(.insert 7 42, .inserted (.ok 1))]
      ⟨some (1, 7, 42), 1⟩ := .single rfl
  have h₂ := h₁.snoc (u := ⟨some (1, 7, 42), 1⟩)
    (l := (.takeValidated 1 7 fun _ => .error "bad", .taken (.error (.invalid "bad")))) (by rfl)
  have h₃ := h₂.snoc (u := ⟨some (1, 7, 42), 1⟩)
    (l := (.cancel 1 8, .cancelled (.error (.pending .requestMismatch)))) (by rfl)
  have h₄ := h₃.snoc (u := ⟨none, 1⟩) (l := (.takeValidated 1 7 .ok, .taken (.ok (42, 42))))
    (by rfl)
  have h₅ := h₄.snoc (u := ⟨some (2, 7, 43), 2⟩) (l := (.insert 7 43, .inserted (.ok 2))) (by rfl)
  exact ⟨_, rfl, rfl, ((pending_request_used_once ℕ ℕ ℕ String).1 _ _ h₅).2.2.2.1⟩

end XelisWallet.PendingMultisig
