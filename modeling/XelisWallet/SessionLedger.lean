import XelisWallet.Registry
import XelisWallet.Runs

/-!
The sessions of all registries of the process, as they are meant to be.

A state is known by its identity, which no other state ever has, and a registry keeps for each
state a reference and whether it is active. Nothing here depends on addresses, on maps or on
when dead states are purged; `RegistrySim` shows that the registries behave like this ledger.
-/

namespace XelisWallet.SessionLedger

open Checked Runs Registry

/-- What happened at a registry, with identities in place of pointers. -/
inductive Event
  | created (i : ℕ)
  | dropped (i : ℕ)
  | projected (k i : ℕ) (result : Except SessionReferenceError ℕ)
  | registered (k i : ℕ) (result : Except SessionReferenceError ℕ)
  | resolved (k r : ℕ) (result : Option ℕ)
  | invalidated (k i : ℕ)
  | cleared (k : ℕ)

/-- The registry, the state and the reference of an event that gives a reference out. -/
def given : Event → Option (ℕ × ℕ × ℕ)
  | .projected k i (.ok r) => some (k, i, r)
  | .registered k i (.ok r) => some (k, i, r)
  | _ => none

structure Ledger where
  /-- The number of states created so far, which is the identity of the next one. -/
  born : ℕ
  live : ℕ → Bool
  next : ℕ
  /-- The registry and the state a reference was made for. -/
  owner : ℕ → Option (ℕ × ℕ)
  book : ℕ → ℕ → Option (ℕ × Bool)

namespace Ledger

def init : Ledger := ⟨0, fun _ => false, firstReference, fun _ => none, fun _ _ => none⟩

variable (l : Ledger)

/-- What a registry keeps after it purged the dead states. -/
def swept (k i : ℕ) : Option (ℕ × Bool) := if l.live i then l.book k i else none

/-- The registry `k` now keeps `b`. -/
def write (k : ℕ) (b : ℕ → Option (ℕ × Bool)) : Ledger :=
  { l with book := Function.update l.book k b }

/-- A new reference of the registry `k` for the state `i`. -/
def mint (k i : ℕ) (active : Bool) : Ledger :=
  { l with
    next := l.next + 1
    owner := Function.update l.owner l.next (some (k, i))
    book := Function.update l.book k
      (Function.update (l.swept k) i (some (l.next, active))) }

end Ledger

/-- The operations, each at once. -/
inductive Step (l : Ledger) : Event → Ledger → Prop
  | created : Step l (.created l.born)
      { l with born := l.born + 1, live := Function.update l.live l.born true }
  | dropped (i : ℕ) : Step l (.dropped i) { l with live := Function.update l.live i false }
  | found (k i r : ℕ) (b : Bool) (e : Event) (hi : l.live i = true)
      (hb : l.book k i = some (r, b))
      (he : e = .projected k i (.ok r) ∨
        e = .registered k i (if b then .ok r else .error .invalid)) :
      Step l e (l.write k (l.swept k))
  | minted (k i : ℕ) (e : Event) (hi : l.live i = true) (hb : l.book k i = none)
      (hn : l.next + 1 ≤ u64Max)
      (he : e = .projected k i (.ok l.next) ∨ e = .registered k i (.ok l.next)) :
      Step l e (l.mint k i true)
  | exhausted (k i : ℕ) (e : Event) (hi : l.live i = true) (hb : l.book k i = none)
      (hn : u64Max < l.next + 1)
      (he : e = .projected k i (.error .exhausted) ∨ e = .registered k i (.error .exhausted)) :
      Step l e (l.write k (l.swept k))
  | resolved (k r : ℕ) (result : Option ℕ) (live : ℕ → Bool)
      (hlive : ∀ i, live i = true → l.live i = true)
      (hres : ∀ i, result = some i → live i = true ∧ l.book k i = some (r, true)) :
      Step l (.resolved k r result) { l.write k (l.swept k) with live }
  | invalidated (k i r : ℕ) (b : Bool) (hi : l.live i = true) (hb : l.book k i = some (r, b)) :
      Step l (.invalidated k i)
        (l.write k (Function.update (l.swept k) i (some (r, false))))
  | tombstoned (k i : ℕ) (hi : l.live i = true) (hb : l.book k i = none)
      (hn : l.next + 1 ≤ u64Max) : Step l (.invalidated k i) (l.mint k i false)
  | unrecorded (k i : ℕ) (hi : l.live i = true) (hb : l.book k i = none)
      (hn : u64Max < l.next + 1) : Step l (.invalidated k i) (l.write k (l.swept k))
  | cleared (k : ℕ) :
      Step l (.cleared k) (l.write k fun i => (l.swept k i).map fun v => (v.1, false))

def ledger : System Ledger Event where
  init l := l = Ledger.init
  step := Step

variable {l l' : Ledger} {e : Event} {k i r : ℕ} {b : Bool}

/-! ### What a step can change -/

/-- How what registry `k` has for state `i` can change. -/
inductive Change (l l' : Ledger) (e : Event) (k i : ℕ) : Prop
  | same (h : l'.book k i = l.book k i)
  | purged (hi : l.live i = false) (h : l'.book k i = none)
  | deactivated (r : ℕ) (b : Bool) (h : l.book k i = some (r, b))
      (h' : l'.book k i = some (r, false))
  | minted (b : Bool) (hi : l.live i = true) (h : l.book k i = none) (hn : l.next + 1 ≤ u64Max)
      (h' : l'.book k i = some (l.next, b)) (hn' : l'.next = l.next + 1)
      (ho : l'.owner l.next = some (k, i)) (he : b = true → given e = some (k, i, l.next))

lemma change_of_write {bk : ℕ → Option (ℕ × Bool)} {k' : ℕ}
    (h : l'.book = Function.update l.book k' bk)
    (hbk : ∀ i, bk i = l.swept k' i ∨ ∃ r b, l.book k' i = some (r, b) ∧ bk i = some (r, false)) :
    Change l l' e k i := by
  by_cases hk : k = k'
  · subst hk
    have hbook : l'.book k i = bk i := by simp [h]
    obtain hs | ⟨r, b, h₁, h₂⟩ := hbk i
    · rw [hs, Ledger.swept] at hbook
      cases hi : l.live i with
      | true => exact .same (by simpa [hi] using hbook)
      | false => exact .purged hi (by simpa [hi] using hbook)
    · exact .deactivated r b h₁ (hbook.trans h₂)
  · exact .same (by simp [h, hk])

lemma change_of_mint {k' i' : ℕ} (hl : l' = l.mint k' i' b) (hi : l.live i' = true)
    (hb : l.book k' i' = none) (hn : l.next + 1 ≤ u64Max)
    (he : b = true → given e = some (k', i', l.next)) : Change l l' e k i := by
  subst hl
  by_cases hk : k = k'
  · by_cases hii : i = i'
    · subst hk hii
      exact .minted b hi hb hn (by simp [Ledger.mint]) rfl (by simp [Ledger.mint]) he
    subst hk
    have hbook : (l.mint k i' b).book k i = l.swept k i := by simp [Ledger.mint, hii]
    cases hl : l.live i with
    | true => exact .same (by rw [hbook]; simp [Ledger.swept, hl])
    | false => exact .purged hl (by rw [hbook]; simp [Ledger.swept, hl])
  · exact .same (by simp [Ledger.mint, hk])

variable (h : Step l e l')
include h

lemma step_change (k i : ℕ) : Change l l' e k i := by
  cases h with
  | created | dropped => exact .same rfl
  | found | exhausted | resolved | unrecorded => exact change_of_write rfl fun _ => .inl rfl
  | minted k' i' e hi hb hn he =>
    refine change_of_mint rfl hi hb hn fun _ => ?_
    rcases he with rfl | rfl <;> rfl
  | invalidated k' i' r b hi hb =>
    refine change_of_write rfl fun j => ?_
    by_cases hj : j = i'
    · subst hj
      exact .inr ⟨r, b, hb, by simp⟩
    · exact .inl (by simp [hj])
  | tombstoned k' i' hi hb hn => exact change_of_mint rfl hi hb hn (by simp)
  | cleared k' =>
    refine change_of_write rfl fun j => ?_
    cases hs : l.swept k' j with
    | none => exact .inl rfl
    | some v =>
      have hlive : l.live j = true := by
        rcases hl : l.live j with _ | _
        · simp [Ledger.swept, hl] at hs
        · rfl
      exact .inr ⟨v.1, v.2, by simpa [Ledger.swept, hlive] using hs, rfl⟩

lemma step_owner : l.next ≤ l'.next ∧ (∀ r, r < l.next → l'.owner r = l.owner r) ∧
    ((∀ r p, l.owner r = some p → r < l.next) → ∀ r p, l'.owner r = some p → r < l'.next) := by
  have hmint : ∀ k i b, l.next ≤ (l.mint k i b).next ∧
      (∀ r, r < l.next → (l.mint k i b).owner r = l.owner r) ∧
      ((∀ r p, l.owner r = some p → r < l.next) →
        ∀ r p, (l.mint k i b).owner r = some p → r < (l.mint k i b).next) := by
    intro k i b
    refine ⟨Nat.le_succ _, fun r hr => ?_, fun hb r p hp => ?_⟩
    · have : r ≠ l.next := by omega
      simp [Ledger.mint, this]
    by_cases hr : r = l.next
    · subst hr
      exact Nat.lt_succ_self _
    · have : l.owner r = some p := by simpa [Ledger.mint, hr] using hp
      exact Nat.lt_succ_of_lt (hb r p this)
  cases h with
  | minted | tombstoned => exact hmint _ _ _
  | created | dropped | found | exhausted | resolved | invalidated | unrecorded | cleared =>
    exact ⟨Nat.le_refl _, fun _ _ => rfl, fun h => h⟩

lemma step_live : l.born ≤ l'.born ∧ (∀ i, i < l.born → l'.live i = true → l.live i = true) ∧
    ((∀ i, l.live i = true → i < l.born) → ∀ i, l'.live i = true → i < l'.born) := by
  cases h with
  | created =>
    refine ⟨Nat.le_succ _, fun i hi hl => ?_, fun hb i hl => ?_⟩
    · have : i ≠ l.born := by omega
      simpa [this] using hl
    by_cases hi : i = l.born
    · subst hi
      exact Nat.lt_succ_self _
    · have := hb i (by simpa [hi] using hl)
      exact Nat.lt_succ_of_lt this
  | dropped i =>
    have hlive : ∀ j, Function.update l.live i false j = true → l.live j = true := by
      intro j hj
      by_cases hji : j = i
      · simp [hji] at hj
      · simpa [hji] using hj
    exact ⟨Nat.le_refl _, fun j _ => hlive j, fun hb j hl => hb j (hlive j hl)⟩
  | resolved k r result live hlive =>
    exact ⟨Nat.le_refl _, fun j _ => hlive j, fun hb j hl => hb j (hlive j hl)⟩
  | found | minted | exhausted | invalidated | tombstoned | unrecorded | cleared =>
    exact ⟨Nat.le_refl _, fun _ _ h => h, fun h => h⟩

lemma step_given (hg : given e = some (k, i, r)) :
    l.live i = true ∧ ∃ b, l'.book k i = some (r, b) := by
  cases h with
  | found k' i' r' b e hi hb he =>
    have hkir : k' = k ∧ i' = i ∧ r' = r := by
      obtain rfl | rfl := he
      · simpa [given] using hg
      cases b with
      | true => simpa [given] using hg
      | false => simp [given] at hg
    obtain ⟨rfl, rfl, rfl⟩ := hkir
    exact ⟨hi, b, by simp [Ledger.write, Ledger.swept, hi, hb]⟩
  | minted k' i' e hi hb hn he =>
    have hkir : k' = k ∧ i' = i ∧ l.next = r := by
      rcases he with rfl | rfl <;> simpa [given] using hg
    obtain ⟨rfl, rfl, rfl⟩ := hkir
    exact ⟨hi, true, by simp [Ledger.mint]⟩
  | exhausted k' i' e hi hb hn he => rcases he with rfl | rfl <;> simp [given] at hg
  | created | dropped | resolved | invalidated | tombstoned | unrecorded | cleared =>
    simp [given] at hg

/-- An invalidated state is recorded as inactive, unless no reference is left at all. -/
lemma step_invalidated (he : e = .invalidated k i) : l.live i = true ∧
    ((∃ r, l'.book k i = some (r, false)) ∨ (l'.book k i = none ∧ u64Max < l'.next + 1)) := by
  cases h with
  | invalidated k' i' r b hi =>
    cases he
    exact ⟨hi, .inl ⟨r, by simp [Ledger.write]⟩⟩
  | tombstoned k' i' hi =>
    cases he
    exact ⟨hi, .inl ⟨l.next, by simp [Ledger.mint]⟩⟩
  | unrecorded k' i' hi hb hn =>
    cases he
    exact ⟨hi, .inr ⟨by simp [Ledger.write, Ledger.swept, hi, hb], hn⟩⟩
  | found _ _ _ _ _ _ _ h' | minted _ _ _ _ _ _ h' | exhausted _ _ _ _ _ _ h' =>
    rcases h' with rfl | rfl <;> cases he
  | created | dropped | resolved | cleared => cases he

lemma step_cleared (he : e = .cleared k) : l'.book k i ≠ some (r, true) := by
  cases h with
  | cleared =>
    cases he
    cases hs : l.swept k i <;> simp [Ledger.write, hs]
  | found _ _ _ _ _ _ _ h' | minted _ _ _ _ _ _ h' | exhausted _ _ _ _ _ _ h' =>
    rcases h' with rfl | rfl <;> cases he
  | created | dropped | resolved | invalidated | tombstoned | unrecorded => cases he

omit h

end XelisWallet.SessionLedger
