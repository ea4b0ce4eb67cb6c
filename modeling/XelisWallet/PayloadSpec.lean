import Mathlib.Algebra.GroupWithZero.Nat
import XelisWallet.Fallible
import XelisWallet.Payload

/-!
When the projection of a payload succeeds, and what it writes then.

The projection stops at the first limit it exceeds. Since its totals only grow, it gets to the
end exactly when every value is within its own limits and the totals at the end are within
theirs; the rule for two projections one after the other says so once for all of them.
-/

namespace XelisWallet.PayloadSpec

open Checked Fallible Json Payload Value

variable {F : Type}

/-! ### The limits a value keeps -/

/-- The texts of a value itself: a string, or the keys of an object. -/
def texts : Value F → List String
  | .string s => [s]
  | .object fields => fields.map (·.1)
  | _ => []

/-- The number of members of a value itself. -/
def members : Value F → ℕ
  | .array values => values.length
  | .object fields => fields.length
  | _ => 0

def textBytes (l : List String) : ℕ := (l.map String.utf8ByteSize).sum

/-- The limits of a value itself, at its depth. -/
structure NodeFits (L : ProjectionLimits) (p : ℕ × Value F) : Prop where
  depth : p.1 ≤ L.maxDepth
  container : members p.2 ≤ L.maxContainerMembers
  text : ∀ s ∈ texts p.2, s.utf8ByteSize ≤ L.maxTextBytes

instance (L : ProjectionLimits) (p : ℕ × Value F) : Decidable (NodeFits L p) :=
  decidable_of_iff (p.1 ≤ L.maxDepth ∧ members p.2 ≤ L.maxContainerMembers ∧
    ∀ s ∈ texts p.2, s.utf8ByteSize ≤ L.maxTextBytes)
    ⟨fun h => ⟨h.1, h.2.1, h.2.2⟩, fun h => ⟨h.depth, h.container, h.text⟩⟩

/-- Every value plus every key of an object. -/
def tokenCount (l : List (ℕ × Value F)) : ℕ := (l.map fun p => 1 + keyCount p.2).sum
where
  keyCount : Value F → ℕ
    | .object fields => fields.length
    | _ => 0

def totalText (l : List (ℕ × Value F)) : ℕ := (l.map fun p => textBytes (texts p.2)).sum

/-- **A value is within the limits**: its depth, the number of its tokens, the length of each
container, the length of each text and the length of all texts together. -/
structure Fits (L : ProjectionLimits) (v : Value F) : Prop where
  node : ∀ p ∈ v.nodes 1, NodeFits L p
  tokens : tokenCount (v.nodes 1) ≤ L.maxTokens
  total : totalText (v.nodes 1) ≤ L.maxTotalTextBytes

instance (L : ProjectionLimits) (v : Value F) : Decidable (Fits L v) :=
  decidable_of_iff ((∀ p ∈ v.nodes 1, NodeFits L p) ∧ tokenCount (v.nodes 1) ≤ L.maxTokens ∧
    totalText (v.nodes 1) ≤ L.maxTotalTextBytes)
    ⟨fun h => ⟨h.1, h.2.1, h.2.2⟩, fun h => ⟨h.node, h.tokens, h.total⟩⟩

lemma tokenCount_append (l m : List (ℕ × Value F)) :
    tokenCount (l ++ m) = tokenCount l + tokenCount m := by simp [tokenCount]

lemma totalText_append (l m : List (ℕ × Value F)) :
    totalText (l ++ m) = totalText l + totalText m := by simp [totalText]

lemma textBytes_append (l m : List String) :
    textBytes (l ++ m) = textBytes l + textBytes m := by simp [textBytes]

/-! ### The tokens of a value -/

def numberToken : Number F → Token F
  | .posInt n => .integer (toString n)
  | .negInt n => .integer (toString n)
  | .float x => .float x

mutual

def tokensOf : Value F → List (Token F)
  | .null => [.null]
  | .bool b => [.bool b]
  | .string s => [.string s]
  | .number n => [numberToken n]
  | .array values => .arrayStart (asU32 values.length) :: tokensOfArray values
  | .object fields => .objectStart (asU32 fields.length) :: tokensOfFields fields

def tokensOfArray : List (Value F) → List (Token F)
  | [] => []
  | value :: values => tokensOf value ++ tokensOfArray values

def tokensOfFields : List (String × Value F) → List (Token F)
  | [] => []
  | (key, value) :: fields => .objectKey key :: (tokensOf value ++ tokensOfFields fields)

end

lemma length_tokensOfArray {d : ℕ} {values : List (Value F)}
    (h : ∀ v ∈ values, (tokensOf v).length = tokenCount (v.nodes d)) :
    (tokensOfArray values).length = tokenCount (nodesArray d values) := by
  induction values with
  | nil => rfl
  | cons v values ih =>
    have h₁ := h v (by simp)
    have h₂ := ih fun v hv => h v (by simp [hv])
    simp [tokensOfArray, nodesArray, tokenCount_append, h₁, h₂]

lemma length_tokensOfFields {d : ℕ} {fields : List (String × Value F)}
    (h : ∀ p ∈ fields, (tokensOf p.2).length = tokenCount (p.2.nodes d)) :
    (tokensOfFields fields).length = fields.length + tokenCount (nodesFields d fields) := by
  induction fields with
  | nil => rfl
  | cons p fields ih =>
    obtain ⟨key, v⟩ := p
    have h₁ := h (key, v) (by simp)
    have h₂ := ih fun p hp => h p (by simp [hp])
    simp only [tokensOfFields, nodesFields, List.length_cons, List.length_append,
      tokenCount_append, h₁, h₂]
    omega

lemma length_tokensOf (v : Value F) (d : ℕ) : (tokensOf v).length = tokenCount (v.nodes d) := by
  induction v using induction generalizing d with
  | null | bool | number | string => rfl
  | array values ih =>
    have h := length_tokensOfArray (d := d + 1) fun v hv => ih v hv (d + 1)
    simp only [tokensOf, List.length_cons, h, nodes, tokenCount, List.map_cons,
      List.sum_cons, tokenCount.keyCount]
    omega
  | object fields ih =>
    have h := length_tokensOfFields (d := d + 1) fun p hp => ih p hp (d + 1)
    simp only [tokensOf, List.length_cons, h, nodes, tokenCount, List.map_cons,
      List.sum_cons, tokenCount.keyCount]
    omega

/-! ### What a piece of the projection writes -/

/-- The state of a projection is within the limits on the totals. -/
def Room (L : ProjectionLimits) (p : Projection F) : Prop :=
  p.tokens.length ≤ L.maxTokens ∧ p.totalTextBytes ≤ L.maxTotalTextBytes

/-- A piece of the projection succeeds exactly when `ok` holds and its tokens and its text
still fit, and then it adds them. -/
def Emits (L : ProjectionLimits)
    (f : Projection F → Except PayloadProjectionError (Projection F)) (ok : Prop)
    (tokens : List (Token F)) (text : ℕ) : Prop :=
  ∀ p q, Room L p → (f p = .ok q ↔ ok ∧ p.tokens.length + tokens.length ≤ L.maxTokens ∧
    p.totalTextBytes + text ≤ L.maxTotalTextBytes ∧
      q = ⟨p.tokens ++ tokens, p.totalTextBytes + text⟩)

variable {L : ProjectionLimits}
  {f g : Projection F → Except PayloadProjectionError (Projection F)} {ok ok' : Prop}
  {tokens tokens' : List (Token F)} {text text' : ℕ}

lemma Emits.congr (h : Emits L f ok tokens text) (hok : ok ↔ ok') (htokens : tokens = tokens')
    (htext : text = text') : Emits L f ok' tokens' text' := by
  subst htokens htext
  rwa [propext hok] at h

/-- **One after the other.** -/
lemma Emits.bind (hf : Emits L f ok tokens text) (hg : Emits L g ok' tokens' text') :
    Emits L (fun p => f p >>= g) (ok ∧ ok') (tokens ++ tokens') (text + text') := by
  intro p q hp
  rw [bind_eq_ok]
  constructor
  · rintro ⟨r, hr, hq⟩
    obtain ⟨h₁, h₂, h₃, rfl⟩ := (hf p r hp).mp hr
    have hroom : Room L (⟨p.tokens ++ tokens, p.totalTextBytes + text⟩ : Projection F) :=
      ⟨by simpa using h₂, h₃⟩
    obtain ⟨h₁', h₂', h₃', rfl⟩ := (hg _ q hroom).mp hq
    simp only [List.length_append] at h₂' h₃' ⊢
    exact ⟨⟨h₁, h₁'⟩, by omega, by omega, by simp [Nat.add_assoc]⟩
  · rintro ⟨⟨h₁, h₁'⟩, h₂, h₃, rfl⟩
    simp only [List.length_append] at h₂
    refine ⟨⟨p.tokens ++ tokens, p.totalTextBytes + text⟩,
      (hf p _ hp).mpr ⟨h₁, by omega, by omega, rfl⟩, ?_⟩
    refine (hg _ _ ⟨?_, ?_⟩).mpr ⟨h₁', ?_, ?_, ?_⟩
    · simp only [List.length_append]
      omega
    · show p.totalTextBytes + text ≤ L.maxTotalTextBytes
      omega
    · simp only [List.length_append]
      omega
    · show p.totalTextBytes + text + text' ≤ L.maxTotalTextBytes
      omega
    · simp [Nat.add_assoc]

lemma emits_nil : Emits L (fun p : Projection F => .ok p) True [] 0 := by
  intro p q hp
  have h₁ := hp.1
  have h₂ := hp.2
  simp only [Except.ok.injEq, List.length_nil, Nat.add_zero, h₁, h₂, List.append_nil, true_and]
  exact eq_comm

lemma emits_push (t : Token F) : Emits L (push L t) True [t] 0 := by
  intro p q hp
  have h₂ := hp.2
  unfold push
  split
  · next h => simp only [reduceCtorEq, List.length_singleton, false_iff]; omega
  next h =>
  simp only [Except.ok.injEq, List.length_singleton, Nat.add_zero, h₂, true_and]
  constructor
  · rintro rfl
    exact ⟨by omega, rfl⟩
  · rintro ⟨-, rfl⟩
    rfl

lemma emits_check {c : Prop} [Decidable c] {e : PayloadProjectionError}
    (hf : ∀ p, f p = if c then .error e else .ok p) : Emits L f (¬ c) [] 0 := by
  intro p q hp
  rw [hf p]
  split
  · next h => simp [h]
  next h =>
  have h₁ := hp.1
  have h₂ := hp.2
  simp only [Except.ok.injEq, h, not_false_eq_true, List.length_nil, Nat.add_zero, h₁, h₂,
    List.append_nil, true_and]
  exact eq_comm

lemma emits_checkDepth (d : ℕ) : Emits (F := F) L (checkDepth L d) (d ≤ L.maxDepth) [] 0 :=
  (emits_check fun _ => rfl).congr Nat.not_lt rfl rfl

lemma emits_validateContainerLength (n : ℕ) :
    Emits (F := F) L (validateContainerLength L n) (n ≤ L.maxContainerMembers) [] 0 :=
  (emits_check fun _ => rfl).congr Nat.not_lt rfl rfl

/-- The overflow check on the total changes nothing: the limit on the total is smaller. -/
lemma emits_addText {P : Platform} (hL : L.maxTotalTextBytes ≤ P.usizeMax) (s : String) :
    Emits (F := F) L (addText P L s) (s.utf8ByteSize ≤ L.maxTextBytes) [] s.utf8ByteSize := by
  intro p q hp
  have h₁ := hp.1
  unfold addText
  split
  · next h => simp only [reduceCtorEq, false_iff]; omega
  next h =>
  split
  · next hn =>
    have := checkedAdd_eq_none.mp hn
    simp only [reduceCtorEq, false_iff]
    omega
  · next total hn =>
    obtain ⟨-, rfl⟩ := checkedAdd_eq_some.mp hn
    split
    · next ht => simp only [reduceCtorEq, false_iff]; omega
    next ht =>
    simp only [Except.ok.injEq, List.length_nil, Nat.add_zero, h₁, List.append_nil, true_and]
    constructor
    · rintro rfl
      exact ⟨by omega, by omega, rfl⟩
    · rintro ⟨-, -, rfl⟩
      rfl

variable [Double F]

lemma emits_projectNumber (n : Number F) : Emits L (projectNumber L n) True [numberToken n] 0 := by
  cases n with
  | posInt n =>
    have hpush : Emits L (push L (.integer (toString n))) True
        [(numberToken (.posInt n) : Token F)] 0 := emits_push _
    unfold projectNumber Number.asI64
    by_cases h : n ≤ i64Max
    · have hs : toString (n : ℤ) = toString n := rfl
      simpa only [h, if_true, hs] using hpush
    · simpa only [h, if_false, Number.asU64] using hpush
  | negInt | float => exact emits_push _

/-! ### The projection -/

variable {P : Platform}

lemma emits_projectArray {d : ℕ} {values : List (Value F)}
    (h : ∀ v ∈ values, Emits L (projectValue P L v d) (∀ p ∈ v.nodes d, NodeFits L p)
      (tokensOf v) (totalText (v.nodes d))) :
    Emits L (projectArray P L values d) (∀ p ∈ nodesArray d values, NodeFits L p)
      (tokensOfArray values) (totalText (nodesArray d values)) := by
  induction values with
  | nil => exact emits_nil.congr (by simp [nodesArray]) rfl rfl
  | cons v values ih =>
    have hv := h v (by simp)
    have hvs := ih fun v hv => h v (by simp [hv])
    refine (hv.bind hvs).congr ?_ rfl ?_
    · simp [nodesArray, or_imp, forall_and]
    · rw [nodesArray, totalText_append]

lemma emits_projectFields (hL : L.maxTotalTextBytes ≤ P.usizeMax) {d : ℕ}
    {fields : List (String × Value F)}
    (h : ∀ p ∈ fields, Emits L (projectValue P L p.2 d) (∀ q ∈ p.2.nodes d, NodeFits L q)
      (tokensOf p.2) (totalText (p.2.nodes d))) :
    Emits L (projectFields P L fields d)
      ((∀ s ∈ fields.map (·.1), s.utf8ByteSize ≤ L.maxTextBytes) ∧
        ∀ p ∈ nodesFields d fields, NodeFits L p)
      (tokensOfFields fields)
      (textBytes (fields.map (·.1)) + totalText (nodesFields d fields)) := by
  induction fields with
  | nil => exact emits_nil.congr (by simp [nodesFields]) rfl rfl
  | cons p fields ih =>
    obtain ⟨key, v⟩ := p
    have hv := h (key, v) (by simp)
    have hvs := ih fun p hp => h p (by simp [hp])
    refine ((emits_addText hL key).bind ((emits_push _).bind (hv.bind hvs))).congr ?_ ?_ ?_
    · simp only [nodesFields, List.mem_append, or_imp, forall_and, List.map_cons,
        List.mem_cons, forall_eq, true_and]
      tauto
    · simp [tokensOfFields]
    · simp only [nodesFields, totalText_append, textBytes, List.map_cons, List.sum_cons]
      omega

/-- **The projection of a value** succeeds exactly when every value in it is within its limits
and its tokens and its texts fit in the totals that are left. -/
theorem emits_projectValue (hL : L.maxTotalTextBytes ≤ P.usizeMax) (v : Value F) (d : ℕ) :
    Emits L (projectValue P L v d) (∀ p ∈ v.nodes d, NodeFits L p) (tokensOf v)
      (totalText (v.nodes d)) := by
  have hdepth := emits_checkDepth (F := F) (L := L) d
  induction v using induction generalizing d with
  | null | bool =>
    refine (hdepth.bind (emits_push _)).congr ?_ rfl rfl
    simp only [nodes, List.mem_singleton, forall_eq]
    exact ⟨fun h => ⟨h.1, Nat.zero_le _, by simp [texts]⟩, fun h => ⟨h.depth, trivial⟩⟩
  | number n =>
    refine (hdepth.bind (emits_projectNumber n)).congr ?_ rfl rfl
    simp only [nodes, List.mem_singleton, forall_eq]
    exact ⟨fun h => ⟨h.1, Nat.zero_le _, by simp [texts]⟩, fun h => ⟨h.depth, trivial⟩⟩
  | string s =>
    refine (hdepth.bind ((emits_addText hL s).bind (emits_push _))).congr ?_ rfl ?_
    · simp only [nodes, List.mem_singleton, forall_eq]
      exact ⟨fun h => ⟨h.1, Nat.zero_le _, by simpa [texts] using h.2.1⟩,
        fun h => ⟨h.depth, h.text s (by simp [texts]), trivial⟩⟩
    · simp [nodes, totalText, textBytes, texts]
  | array values ih =>
    have hvalues := emits_projectArray fun v hv =>
      ih v hv (d + 1) (emits_checkDepth (F := F) (L := L) (d + 1))
    refine (hdepth.bind ((emits_validateContainerLength values.length).bind
      ((emits_push _).bind hvalues))).congr ?_ rfl ?_
    · simp only [nodes, List.forall_mem_cons]
      exact ⟨fun h => ⟨⟨h.1, h.2.1, by simp [texts]⟩, h.2.2.2⟩,
        fun h => ⟨h.1.depth, h.1.container, trivial, h.2⟩⟩
    · simp [nodes, totalText, textBytes, texts]
  | object fields ih =>
    have hfields := emits_projectFields hL fun p hp =>
      ih p hp (d + 1) (emits_checkDepth (F := F) (L := L) (d + 1))
    refine (hdepth.bind ((emits_validateContainerLength fields.length).bind
      ((emits_push _).bind hfields))).congr ?_ rfl ?_
    · simp only [nodes, List.forall_mem_cons]
      exact ⟨fun h => ⟨⟨h.1, h.2.1, h.2.2.2.1⟩, h.2.2.2.2⟩,
        fun h => ⟨h.1.depth, h.1.container, trivial, h.1.text, h.2⟩⟩
    · simp [nodes, totalText, textBytes, texts]

lemma project_eq_ok (hL : L.maxTotalTextBytes ≤ P.usizeMax) {v : Value F}
    (hv : v.isObject = true) :
    project P L (some v) = .ok tokens ↔ Fits L v ∧ tokens = tokensOf v := by
  have hroom : Room L (⟨[], 0⟩ : Projection F) := ⟨Nat.zero_le _, Nat.zero_le _⟩
  have hemits := emits_projectValue hL v 1 ⟨[], 0⟩
  simp only [project, hv, if_true, bind_eq_ok, pure, Except.pure, Except.ok.injEq]
  constructor
  · rintro ⟨q, hq, rfl⟩
    obtain ⟨h₁, h₂, h₃, rfl⟩ := (hemits q hroom).mp hq
    rw [length_tokensOf v 1] at h₂
    simp only [List.length_nil, Nat.zero_add] at h₂ h₃
    exact ⟨⟨h₁, h₂, h₃⟩, rfl⟩
  · rintro ⟨⟨h₁, h₂, h₃⟩, rfl⟩
    refine ⟨_, (hemits _ hroom).mpr ⟨h₁, ?_, ?_, rfl⟩, rfl⟩
    · rw [length_tokensOf v 1]
      simpa using h₂
    · simpa using h₃

end XelisWallet.PayloadSpec
