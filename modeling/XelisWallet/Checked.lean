import Mathlib.Algebra.Group.Nat.Defs
import Mathlib.Tactic.Common

/-!
Checked arithmetic on machine integers, as natural numbers below a given maximum.
-/

namespace XelisWallet.Checked

/-- `u64::MAX`. -/
def u64Max : ℕ := 2 ^ 64 - 1

/-- `checked_add` of an unsigned integer type whose largest value is `max`. -/
def checkedAdd (max a b : ℕ) : Option ℕ := if a + b ≤ max then some (a + b) else none

/-- `checked_mul`. -/
def checkedMul (max a b : ℕ) : Option ℕ := if a * b ≤ max then some (a * b) else none

variable {max a b c : ℕ}

lemma checkedAdd_eq_some : checkedAdd max a b = some c ↔ a + b ≤ max ∧ c = a + b := by
  unfold checkedAdd
  split_ifs with h <;> simp [h, eq_comm]

lemma checkedAdd_eq_none : checkedAdd max a b = none ↔ max < a + b := by
  unfold checkedAdd
  split_ifs with h <;> simp <;> omega

end XelisWallet.Checked
