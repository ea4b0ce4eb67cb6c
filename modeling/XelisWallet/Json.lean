import Mathlib.Algebra.Group.Int.Defs
import Mathlib.Tactic.Common
import Mathlib.Data.Int.Notation
import XelisWallet.Checked

/-!
JSON values as `serde_json` keeps them, and the values an XSWD payload has in Dart.

A well-formed value has integers of 64 bits, finite floating-point numbers and objects without
a repeated key; the order of the fields is that of the map's iteration.
-/

namespace XelisWallet.Json

open Checked

/-- What the payloads need of `f64`. -/
class Double (F : Type) where
  isFinite : F → Bool
  ofInt : ℤ → F

instance : Double Float := ⟨Float.isFinite, Float.ofInt⟩

/-- `i64::MAX`. -/
def i64Max : ℕ := 2 ^ 63 - 1

/-- `serde_json::Number`. -/
inductive Number (F : Type)
  | posInt (n : ℕ)
  | negInt (n : ℤ)
  | float (x : F)
  deriving DecidableEq, Repr

inductive Value (F : Type)
  | null
  | bool (b : Bool)
  | number (n : Number F)
  | string (s : String)
  | array (values : List (Value F))
  | object (fields : List (String × Value F))

/-- `XelisXswdValue`. -/
inductive XswdValue (F : Type)
  | null
  | bool (b : Bool)
  | string (s : String)
  | integer (n : ℤ)
  | float (x : F)
  | array (values : List (XswdValue F))
  | object (fields : List (String × XswdValue F))

variable {F : Type}

namespace Number

def asI64 : Number F → Option ℤ
  | posInt n => if n ≤ i64Max then some n else none
  | negInt n => some n
  | float _ => none

def asU64 : Number F → Option ℕ
  | posInt n => some n
  | negInt _ => none
  | float _ => none

variable [Double F]

def asF64 : Number F → Option F
  | posInt n => some (Double.ofInt n)
  | negInt n => some (Double.ofInt n)
  | float x => some x

/-- The values a number can have: `u64`, negative `i64` or finite `f64`. -/
def Wf : Number F → Prop
  | posInt n => n ≤ u64Max
  | negInt n => -(2 ^ 63) ≤ n ∧ n < 0
  | float x => Double.isFinite x = true

instance : DecidablePred (Wf : Number F → Prop) := fun n => by
  cases n <;> unfold Wf <;> infer_instance

end Number

namespace Value

mutual

/-- A value and every value inside it, each with its depth, where the value itself is at `d`. -/
def nodes : ℕ → Value F → List (ℕ × Value F)
  | d, .null => [(d, .null)]
  | d, .bool b => [(d, .bool b)]
  | d, .number n => [(d, .number n)]
  | d, .string s => [(d, .string s)]
  | d, .array values => (d, .array values) :: nodesArray (d + 1) values
  | d, .object fields => (d, .object fields) :: nodesFields (d + 1) fields

def nodesArray : ℕ → List (Value F) → List (ℕ × Value F)
  | _, [] => []
  | d, value :: values => nodes d value ++ nodesArray d values

def nodesFields : ℕ → List (String × Value F) → List (ℕ × Value F)
  | _, [] => []
  | d, (_, value) :: fields => nodes d value ++ nodesFields d fields

end

lemma mem_nodes_self (v : Value F) (d : ℕ) : (d, v) ∈ v.nodes d := by
  cases v <;> simp [nodes]

lemma mem_nodesArray {v : Value F} {values : List (Value F)} (h : v ∈ values) {d : ℕ}
    {p : ℕ × Value F} (hp : p ∈ v.nodes d) : p ∈ nodesArray d values := by
  induction values with
  | nil => cases h
  | cons v' values ih =>
    rw [nodesArray, List.mem_append]
    obtain rfl | h := List.mem_cons.mp h
    · exact .inl hp
    · exact .inr (ih h)

lemma mem_nodesFields {q : String × Value F} {fields : List (String × Value F)} (h : q ∈ fields)
    {d : ℕ} {p : ℕ × Value F} (hp : p ∈ q.2.nodes d) : p ∈ nodesFields d fields := by
  induction fields with
  | nil => cases h
  | cons q' fields ih =>
    rw [nodesFields, List.mem_append]
    obtain rfl | h := List.mem_cons.mp h
    · exact .inl hp
    · exact .inr (ih h)

/-- The condition on a value itself, not on the values inside it. -/
def NodeWf [Double F] : Value F → Prop
  | .number n => n.Wf
  | .object fields => (fields.map (·.1)).Nodup
  | _ => True

instance [Double F] : DecidablePred (NodeWf : Value F → Prop) := fun v => by
  cases v <;> unfold NodeWf <;> infer_instance

/-- Every number is a `u64`, an `i64` or finite, and no object repeats a key. -/
def Wf [Double F] (v : Value F) : Prop := ∀ p ∈ nodes 1 v, NodeWf p.2

instance [Double F] : DecidablePred (Wf : Value F → Prop) := fun v =>
  inferInstanceAs (Decidable (∀ p ∈ nodes 1 v, NodeWf p.2))

def isObject : Value F → Bool
  | .object _ => true
  | _ => false

mutual

/-- The value a payload stands for in Dart: integers as exact `BigInt`s. -/
def toXswd : Value F → XswdValue F
  | .null => .null
  | .bool b => .bool b
  | .number (.posInt n) => .integer n
  | .number (.negInt n) => .integer n
  | .number (.float x) => .float x
  | .string s => .string s
  | .array values => .array (toXswdArray values)
  | .object fields => .object (toXswdFields fields)

def toXswdArray : List (Value F) → List (XswdValue F)
  | [] => []
  | value :: values => toXswd value :: toXswdArray values

def toXswdFields : List (String × Value F) → List (String × XswdValue F)
  | [] => []
  | (key, value) :: fields => (key, toXswd value) :: toXswdFields fields

end

/-- Induction on a value: an array or an object when all its members are done. -/
theorem induction {P : Value F → Prop} (null : P .null) (bool : ∀ b, P (.bool b))
    (number : ∀ n, P (.number n)) (string : ∀ s, P (.string s))
    (array : ∀ values, (∀ v ∈ values, P v) → P (.array values))
    (object : ∀ fields, (∀ p ∈ fields, P p.2) → P (.object fields)) : ∀ v, P v
  | .null => null
  | .bool b => bool b
  | .number n => number n
  | .string s => string s
  | .array values => array values fun v _ => induction null bool number string array object v
  | .object fields => object fields fun p hp => by
      have hlt : sizeOf p.2 < 1 + sizeOf fields := by
        have h₁ := List.sizeOf_lt_of_mem hp
        have h₂ : sizeOf p = 1 + sizeOf p.1 + sizeOf p.2 := rfl
        omega
      exact induction null bool number string array object p.2
  termination_by v => sizeOf v

end Value

/-- A JSON value as it can occur. -/
abbrev JsonValue (F : Type) [Double F] := { v : Value F // v.Wf }

end XelisWallet.Json
