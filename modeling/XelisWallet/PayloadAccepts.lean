import XelisWallet.PayloadSpec
import XelisWallet.PayloadDecoder

/-!
What the Dart decoder accepts: exactly the preorder encodings of objects within the limits.

A value is read back from its own tokens and from no others. The proof follows the decoder from the
depth limit down: what is left of the depth is what the values inside a container may use.
-/

namespace XelisWallet.PayloadAccepts

open Fallible Json PayloadDecoder Cursors Cursors.Method
open Payload (Token TokenKind)
open PayloadSpec (textBytes textBytes_append)

/-! ### Integers -/

lemma isSpace_of_isDigit {c : Char} (h : c.isDigit = true) : isSpace c = false := by
  have hrange : 48 ≤ c.toNat ∧ c.toNat ≤ 57 := Char.isDigit_iff_toNat.mp h
  simp only [isSpace, Text.isWhitespace, Bool.or_eq_false_iff, Bool.and_eq_false_iff,
    beq_eq_false_iff_ne, decide_eq_false_iff_not]
  omega

lemma dropWhile_eq_self {cs : List Char} {p : Char → Bool} (h : ∀ c ∈ cs, p c = false) :
    cs.dropWhile p = cs := by
  cases cs with
  | nil => rfl
  | cons c => rw [List.dropWhile_cons_of_neg (by simp [h c (by simp)])]

lemma isDigit_of_mem {c : Char} {n : ℕ} (h : c ∈ Nat.toDigits 10 n) : c.isDigit = true :=
  Nat.isDigit_of_mem_toDigits (by omega) (by omega) h

lemma parseMagnitude_toDigits (n : ℕ) : parseMagnitude (Nat.toDigits 10 n) = some n := by
  have hdigits : ∀ c ∈ Nat.toDigits 10 n, c.isDigit = true := fun c hc => isDigit_of_mem hc
  unfold parseMagnitude
  split
  · next cs h =>
    have := hdigits 'x' (by simp [h])
    exact absurd this (by decide)
  · next cs h =>
    have := hdigits 'X' (by simp [h])
    exact absurd this (by decide)
  · rw [parseDigits, if_pos ⟨Nat.toDigits_ne_nil, List.all_eq_true.mpr hdigits⟩,
      Nat.ofDigitChars_ten_toDigits]

lemma toList_toString_nat (n : ℕ) : (toString n).toList = Nat.toDigits 10 n := by
  rw [Nat.toString_eq_ofList_toDigits, String.toList_ofList]

lemma parseBigInt_toString (n : ℤ) : parseBigInt (toString n) = some n := by
  have htrim : ∀ cs : List Char, (∀ c ∈ cs, isSpace c = false) →
      ((cs.dropWhile isSpace).reverse.dropWhile isSpace).reverse = cs := by
    intro cs h
    rw [dropWhile_eq_self h, dropWhile_eq_self (by simpa using h), List.reverse_reverse]
  cases n with
  | ofNat n =>
    have hlist : (toString (Int.ofNat n)).toList = Nat.toDigits 10 n := toList_toString_nat n
    have hspace : ∀ c ∈ Nat.toDigits 10 n, isSpace c = false :=
      fun c hc => isSpace_of_isDigit (isDigit_of_mem hc)
    simp only [parseBigInt, hlist, htrim _ hspace]
    split
    · next cs h => exact absurd (isDigit_of_mem (n := n) (c := '-') (by simp [h])) (by decide)
    · next cs h => exact absurd (isDigit_of_mem (n := n) (c := '+') (by simp [h])) (by decide)
    · rw [parseMagnitude_toDigits]
      rfl
  | negSucc n =>
    have hlist : (toString (Int.negSucc n)).toList = '-' :: Nat.toDigits 10 (n + 1) := by
      have : toString (Int.negSucc n) = "-" ++ toString (n + 1) := rfl
      rw [this, String.toList_append, toList_toString_nat]
      rfl
    have hspace : ∀ c ∈ '-' :: Nat.toDigits 10 (n + 1), isSpace c = false := by
      intro c hc
      obtain rfl | hc := List.mem_cons.mp hc
      · decide
      · exact isSpace_of_isDigit (isDigit_of_mem hc)
    simp only [parseBigInt, hlist, htrim _ hspace, parseMagnitude_toDigits]
    rfl

lemma parseCanonicalInteger_eq_ok {s : String} {n : ℤ} :
    parseCanonicalInteger s = .ok n ↔ s = toString n := by
  constructor
  · intro h
    unfold parseCanonicalInteger at h
    split at h
    · cases h
    · split at h <;> cases h
      next hs => exact (Decidable.not_not.mp hs).symm
  · rintro rfl
    simp only [parseCanonicalInteger, parseBigInt_toString, ne_eq, not_true_eq_false, if_false]

/-! ### Encodings -/

variable {F : Type} {L : XelisXswdProjectionLimits}

mutual

/-- The tokens of a value in preorder, each with exactly the fields of its kind. -/
def encode : XswdValue F → List (NativeXswdPayloadToken F)
  | .null => [⟨.null, none, none, none, none⟩]
  | .bool b => [⟨.bool, some b, none, none, none⟩]
  | .string s => [⟨.stringValue, none, some s, none, none⟩]
  | .integer n => [⟨.integer, none, some (toString n), none, none⟩]
  | .float x => [⟨.float, none, none, some x, none⟩]
  | .array values => ⟨.arrayStart, none, none, none, some values.length⟩ :: encodeArray values
  | .object fields => ⟨.objectStart, none, none, none, some fields.length⟩ :: encodeFields fields

def encodeArray : List (XswdValue F) → List (NativeXswdPayloadToken F)
  | [] => []
  | value :: values => encode value ++ encodeArray values

def encodeFields : List (String × XswdValue F) → List (NativeXswdPayloadToken F)
  | [] => []
  | (key, value) :: fields =>
    ⟨.objectKey, none, some key, none, none⟩ :: (encode value ++ encodeFields fields)

end

/-- The limits that a value keeps with what is inside it, where it may be `remaining` levels deep:
the length of each container and of each text, with finite floats and no key twice. -/
def Within [Double F] (L : XelisXswdProjectionLimits) : (remaining : ℕ) → XswdValue F → Prop
  | 0, _ => False
  | _ + 1, .null | _ + 1, .bool _ | _ + 1, .integer _ => True
  | _ + 1, .string s => s.utf8ByteSize ≤ L.maxTextBytes
  | _ + 1, .float x => Double.isFinite x = true
  | remaining + 1, .array values =>
    values.length ≤ L.maxContainerMembers ∧ ∀ value ∈ values, Within L remaining value
  | remaining + 1, .object fields =>
    fields.length ≤ L.maxContainerMembers ∧ (fields.map (·.1)).Nodup ∧
      ∀ p ∈ fields, p.1.utf8ByteSize ≤ L.maxTextBytes ∧ Within L remaining p.2

/-- The strings and the keys among the tokens. -/
def tokenTexts (tokens : List (NativeXswdPayloadToken F)) : List String :=
  tokens.filterMap fun token =>
    match token.kind with
    | .stringValue | .objectKey => token.textValue
    | _ => none

/-- The tokens are the encoding of the object, which is within the limits. The limit on all texts
together is checked with each text. -/
structure Encodes [Double F] (L : XelisXswdProjectionLimits) (value : XswdValue F)
    (tokens : List (NativeXswdPayloadToken F)) : Prop where
  object : ∃ fields, value = .object fields
  encoded : tokens = encode value
  count : tokens.length ≤ L.maxTokens
  within : Within L L.maxDepth.toNat value
  total : tokenTexts tokens ≠ [] → textBytes (tokenTexts tokens) ≤ L.maxTotalTextBytes

/-! ### Tokens -/

variable {token : NativeXswdPayloadToken F} {value : XswdValue F} {remaining : ℕ}
  {used used' : List (NativeXswdPayloadToken F)} {s s' : ℕ}

lemma validateTokenFields_eq_ok {b t f l : Bool} {u : Unit} :
    validateTokenFields token b t f l = .ok u ↔ token.boolValue.isSome = b ∧
      token.textValue.isSome = t ∧ token.floatValue.isSome = f ∧ token.length.isSome = l := by
  unfold validateTokenFields
  split
  case isTrue h =>
    tauto
  case isFalse h =>
    simp only [not_or, not_not] at h
    simp [h]

lemma unwrap_eq_ok {α : Type} {o : Option α} {a : α} : unwrap o = .ok a ↔ o = some a := by
  cases o <;> simp [unwrap]

lemma readText_eq_ok {text : String} :
    readText token = .ok text ↔ token = ⟨token.kind, none, some text, none, none⟩ := by
  obtain ⟨kind, b, t, f, l⟩ := token
  simp only [readText, bind_eq_ok, validateTokenFields_eq_ok, unwrap_eq_ok]
  cases t with
  | none => simp
  | some =>
    simp only [Option.isSome_some, Option.isSome_eq_false_iff, Option.isNone_iff_eq_none,
      true_and, exists_const, Option.some.injEq, NativeXswdPayloadToken.mk.injEq]
    tauto

lemma readLength_eq_ok {length : ℤ} :
    readLength token = .ok length ↔ token = ⟨token.kind, none, none, none, some length⟩ := by
  obtain ⟨kind, b, t, f, l⟩ := token
  simp only [readLength, bind_eq_ok, validateTokenFields_eq_ok, unwrap_eq_ok]
  cases l <;> simp [and_assoc]

lemma validateContainerLength_eq_ok {length : ℤ} {u : Unit} :
    validateContainerLength L length = .ok u ↔ 0 ≤ length ∧ length ≤ L.maxContainerMembers := by
  unfold validateContainerLength
  split <;> simp only [reduceCtorEq, false_iff, true_iff] <;> omega

section Leaves

variable [Double F]

lemma readNull_eq_ok (hk : token.kind = .null) :
    readNull token = .ok value ↔ [token] = encode value ∧ Within L (remaining + 1) value := by
  obtain ⟨kind, b, t, f, l⟩ := token
  cases hk
  simp only [readNull, bind_eq_ok, validateTokenFields_eq_ok, pure_eq_ok]
  cases value <;> simp [encode, Within]

lemma readBool_eq_ok (hk : token.kind = .bool) :
    readBool token = .ok value ↔ [token] = encode value ∧ Within L (remaining + 1) value := by
  obtain ⟨kind, b, t, f, l⟩ := token
  cases hk
  simp only [readBool, bind_eq_ok, validateTokenFields_eq_ok, pure_eq_ok, unwrap_eq_ok]
  cases b <;> cases value <;> simp [encode, Within, and_comm]

lemma readInteger_eq_ok (hk : token.kind = .integer) :
    readInteger token = .ok value ↔ [token] = encode value ∧ Within L (remaining + 1) value := by
  obtain ⟨kind, b, t, f, l⟩ := token
  cases hk
  simp only [readInteger, bind_eq_ok, pure_eq_ok, parseCanonicalInteger_eq_ok, readText_eq_ok]
  cases value <;> simp [encode, Within]

lemma readFloat_eq_ok (hk : token.kind = .float) :
    readFloat token = .ok value ↔ [token] = encode value ∧ Within L (remaining + 1) value := by
  obtain ⟨kind, b, t, f, l⟩ := token
  cases hk
  simp only [readFloat, bind_eq_ok, validateTokenFields_eq_ok, unwrap_eq_ok, ensure_eq_ok,
    pure_eq_ok]
  cases f <;> cases value <;>
    simp +contextual [encode, Within, and_assoc, and_comm, and_left_comm]

end Leaves

/-! ### Texts -/

/-- The texts among the tokens bring the total from `s` to `s'`. -/
def Counts (L : XelisXswdProjectionLimits) (tokens : List (NativeXswdPayloadToken F)) (s s' : ℕ) :
    Prop :=
  s' = s + textBytes (tokenTexts tokens) ∧ (tokenTexts tokens ≠ [] → s' ≤ L.maxTotalTextBytes)

lemma counts_of_no_text (h : tokenTexts used = []) : Counts L used s s' ↔ s' = s := by
  simp [Counts, h, textBytes]

lemma tokenTexts_append : tokenTexts (used ++ used') = tokenTexts used ++ tokenTexts used' :=
  List.filterMap_append ..

lemma counts_append :
    Counts L (used ++ used') s s' ↔ ∃ s₁, Counts L used s s₁ ∧ Counts L used' s₁ s' := by
  simp only [Counts, tokenTexts_append, textBytes_append, ne_eq, List.append_eq_nil_iff, not_and_or]
  constructor
  · rintro ⟨rfl, h⟩
    refine ⟨_, ⟨rfl, fun hu => ?_⟩, by omega, fun hu => h (.inr hu)⟩
    have := h (.inl hu)
    omega
  · rintro ⟨_, ⟨rfl, h⟩, rfl, h'⟩
    refine ⟨by omega, ?_⟩
    by_cases hu : tokenTexts used' = []
    · simpa [hu, textBytes] using h
    · exact fun _ => h' hu

lemma reads_addText {tokens : List (NativeXswdPayloadToken F)} {text : String}
    (used : List (NativeXswdPayloadToken F)) (h : tokenTexts used = [text]) :
    Reads (addText L text : Decoding tokens Unit) fun u s s' _ =>
      u = [] ∧ text.utf8ByteSize ≤ L.maxTextBytes ∧ Counts L used s s' := by
  refine .update fun s s' => ?_
  simp only [Counts, h, textBytes, List.map_cons, List.map_nil, List.sum_cons, List.sum_nil,
    Nat.add_zero, ne_eq, List.cons_ne_self, not_false_eq_true, forall_const]
  split
  · simp only [Prod.mk.injEq, reduceCtorEq, false_and, false_iff]
    omega
  split
  · simp only [Prod.mk.injEq, reduceCtorEq, false_and, false_iff]
    omega
  · simp only [Prod.mk.injEq, true_and]
    omega

/-! ### Values -/

lemma each_field {V : Type} {P : String × V → Prop} {fields : List (String × V)} :
    ∀ done, (done.map (·.1)).Nodup → (Each (fun done p => p.1 ∉ done.map (·.1) ∧ P p) done fields ↔
        ((done ++ fields).map (·.1)).Nodup ∧ ∀ p ∈ fields, P p) := by
  induction fields with
  | nil => simp [Each]
  | cons p fields ih =>
    intro done hdone
    have hnew : ((done ++ [p]).map (·.1)).Nodup ↔ p.1 ∉ done.map (·.1) := by
      rw [List.map_append, List.nodup_append]
      constructor
      · exact fun h hp => h.2.2 p.1 hp p.1 (by simp) rfl
      refine fun h => ⟨hdone, by simp, fun a ha b hb hab => h ?_⟩
      rw [List.map_singleton, List.mem_singleton] at hb
      rwa [← hb, ← hab]
    rw [List.append_cons, List.forall_mem_cons]
    constructor
    · rintro ⟨⟨hp, hP⟩, h⟩
      obtain ⟨hnodup, hall⟩ := (ih _ (hnew.mpr hp)).mp h
      exact ⟨hnodup, hP, hall⟩
    · rintro ⟨hnodup, hP, hall⟩
      have hdone' : ((done ++ [p]).map (·.1)).Nodup := by
        rw [List.map_append, List.nodup_append] at hnodup
        exact hnodup.1
      exact ⟨⟨hnew.mp hdone', hP⟩, (ih _ hdone').mpr ⟨hnodup, hall⟩⟩

lemma encodeArray_eq_flatMap (values : List (XswdValue F)) :
    encodeArray values = values.flatMap encode := by
  induction values with
  | nil => rfl
  | cons value values ih => rw [encodeArray, ih, List.flatMap_cons]

lemma encodeFields_eq_flatMap (fields : List (String × XswdValue F)) :
    encodeFields fields =
      fields.flatMap fun p => ⟨.objectKey, none, some p.1, none, none⟩ :: encode p.2 := by
  induction fields with
  | nil => rfl
  | cons p fields ih => rw [encodeFields, ih, List.flatMap_cons, List.cons_append]

variable [Double F] {tokens : List (NativeXswdPayloadToken F)}

/-- What a value is read from. -/
def ReadsValue (L : XelisXswdProjectionLimits) (remaining : ℕ)
    (used : List (NativeXswdPayloadToken F)) (s s' : ℕ) (value : XswdValue F) : Prop :=
  used = encode value ∧ Within L remaining value ∧ Counts L used s s'

/-- What a value is read from after its first token. -/
def ReadsAfter (L : XelisXswdProjectionLimits) (remaining : ℕ) (token : NativeXswdPayloadToken F)
    (m : Decoding tokens (XswdValue F)) : Prop :=
  Reads m fun used => ReadsValue L (remaining + 1) (token :: used)

/-- The kind of the first token of a value. -/
def kindOf : XswdValue F → TokenKind
  | .null => .null
  | .bool _ => .bool
  | .string _ => .stringValue
  | .integer _ => .integer
  | .float _ => .float
  | .array _ => .arrayStart
  | .object _ => .objectStart

omit [Double F] in
lemma kind_of_encode (h : token :: used = encode value) : kindOf value = token.kind := by
  cases value <;> (rw [(List.cons.inj h).1]; rfl)

lemma readsAfter_leaf {x : Except DecodeError (XswdValue F)}
    (hkind : token.kind ∈ [.null, .bool, .integer, .float])
    (hx : ∀ value, x = .ok value ↔ [token] = encode value ∧ Within L (remaining + 1) value) :
    ReadsAfter L remaining token (lift x : Decoding tokens (XswdValue F)) := by
  have htext : tokenTexts [token] = [] := by
    simp only [List.mem_cons, List.not_mem_nil, or_false] at hkind
    rcases hkind with hk | hk | hk | hk <;> simp [tokenTexts, hk]
  refine (Reads.lift x).congr fun used s s' value => ?_
  rw [hx value]
  constructor
  · rintro ⟨rfl, rfl, he, hw⟩
    exact ⟨he, hw, (counts_of_no_text htext).mpr rfl⟩
  rintro ⟨he, hw, hc⟩
  obtain rfl : used = [] := by
    rw [← kind_of_encode he] at hkind
    cases value <;> first | exact (List.cons.inj he).2 | simp [kindOf] at hkind
  exact ⟨rfl, (counts_of_no_text htext).mp hc, he, hw⟩

lemma readsAfter_string (hk : token.kind = .stringValue) :
    ReadsAfter L remaining token (readString L token : Decoding tokens (XswdValue F)) := by
  refine (Reads.lift_bind fun text =>
    (reads_addText [⟨.stringValue, none, some text, none, none⟩] rfl).bind_pure _).congr
    fun used s s' value => ⟨?_, ?_⟩
  · rintro ⟨text, ht, _, ⟨rfl, hsize, hc⟩, rfl⟩
    rw [readText_eq_ok.mp ht, hk]
    exact ⟨rfl, hsize, hc⟩
  · rintro ⟨he, hw, hc⟩
    have hv := (kind_of_encode he).trans hk
    cases value <;> cases hv
    cases he
    exact ⟨_, rfl, (), ⟨rfl, hw, hc⟩, rfl⟩

lemma reads_readField {readValue : Decoding tokens (XswdValue F)}
    (h : Reads readValue (ReadsValue L remaining)) (done : List (String × XswdValue F)) :
    Reads (readField L readValue done) fun used s s' p =>
      used = ⟨.objectKey, none, some p.1, none, none⟩ :: encode p.2 ∧
      (p.1 ∉ done.map (·.1) ∧ p.1.utf8ByteSize ≤ L.maxTextBytes ∧ Within L remaining p.2) ∧
      Counts L used s s' := by
  refine (Reads.take_bind fun token => Reads.lift_bind fun _ => Reads.lift_bind fun key =>
    (reads_addText [⟨.objectKey, none, some key, none, none⟩] rfl).bind fun _ =>
    Reads.lift_bind fun _ => h.bind_pure _).congr fun used s s' p => ⟨?_, ?_⟩
  · rintro ⟨token, _, rfl, _, hk, key, ht, _, u, s₁, _, rfl, ⟨rfl, hsize, hc⟩, _, hnew, value,
      ⟨rfl, hw, hc'⟩, rfl⟩
    have htoken : token = ⟨.objectKey, none, some key, none, none⟩ := by
      rw [readText_eq_ok.mp ht, ensure_eq_ok.mp hk]
    subst htoken
    exact ⟨rfl, ⟨ensure_eq_ok.mp hnew, hsize, hw⟩, counts_append.mpr ⟨s₁, hc, hc'⟩⟩
  · obtain ⟨key, value⟩ := p
    rintro ⟨rfl, ⟨hnew, hsize, hw⟩, hc⟩
    rw [← List.singleton_append, counts_append] at hc
    obtain ⟨s₁, hc, hc'⟩ := hc
    exact ⟨_, _, rfl, (), rfl, key, rfl, [], _, s₁, (), rfl, ⟨rfl, hsize, hc⟩, (),
      ensure_eq_ok.mpr hnew, value, ⟨rfl, hw, hc'⟩, rfl⟩

omit [Double F] in
lemma reads_container {α : Type} {item : List α → Decoding tokens α}
    {enc : α → List (NativeXswdPayloadToken F)} {ok : List α → α → Prop}
    (h : ∀ done, Reads (item done) fun used s s' a =>
      used = enc a ∧ ok done a ∧ Counts L used s s') (make : List α → XswdValue F) :
    Reads (do
      let length ← lift (readLength token)
      lift (validateContainerLength L length)
      return make (← collect item length.toNat [])) fun used s s' value =>
      ∃ items : List α, token = ⟨token.kind, none, none, none, some items.length⟩ ∧
        items.length ≤ L.maxContainerMembers ∧ used = items.flatMap enc ∧ Each ok [] items ∧
        Counts L used s s' ∧ make items = value := by
  have hcollect := Reads.collect (fun _ _ => counts_of_no_text rfl) (fun _ _ _ _ => counts_append) h
  refine (Reads.lift_bind fun length : ℤ => Reads.lift_bind fun _ =>
    (hcollect length.toNat []).bind_pure make).congr fun used s s' value => ⟨?_, ?_⟩
  · rintro ⟨length, ht, _, hl, items, ⟨_, hn, rfl, rfl, heach, hc⟩, rfl⟩
    obtain ⟨h0, hl⟩ := validateContainerLength_eq_ok.mp hl
    have hlength : length = items.length := by omega
    subst hlength
    exact ⟨items, readLength_eq_ok.mp ht, hl, rfl, heach, hc, rfl⟩
  · rintro ⟨items, ht, hl, rfl, heach, hc, rfl⟩
    exact ⟨items.length, readLength_eq_ok.mpr ht, (),
      validateContainerLength_eq_ok.mpr ⟨by omega, hl⟩, items,
      ⟨items, rfl, rfl, rfl, heach, hc⟩, rfl⟩

section Containers

variable {readValue : Decoding tokens (XswdValue F)} (h : Reads readValue (ReadsValue L remaining))

include h

lemma readsAfter_array (hk : token.kind = .arrayStart) :
    ReadsAfter L remaining token (do readArray L readValue (← lift (readLength token))) := by
  refine (reads_container (fun _ => h) .array).congr fun used s s' value => ⟨?_, ?_⟩
  · rintro ⟨values, ht, hl, rfl, hw, hc, rfl⟩
    rw [ht, hk, ReadsValue, encode, encodeArray_eq_flatMap]
    exact ⟨rfl, ⟨hl, each_iff.mp hw⟩, hc⟩
  · rintro ⟨he, hw, hc⟩
    have hv := (kind_of_encode he).trans hk
    cases value <;> cases hv
    rw [encode, encodeArray_eq_flatMap] at he
    cases he
    exact ⟨_, rfl, hw.1, rfl, each_iff.mpr hw.2, hc, rfl⟩

lemma readsAfter_object (hk : token.kind = .objectStart) :
    ReadsAfter L remaining token (do readObject L readValue (← lift (readLength token))) := by
  refine (reads_container (reads_readField h) .object).congr fun used s s' value => ⟨?_, ?_⟩
  · rintro ⟨fields, ht, hl, rfl, hw, hc, rfl⟩
    rw [ht, hk, ReadsValue, encode, encodeFields_eq_flatMap]
    exact ⟨rfl, ⟨hl, (each_field [] List.nodup_nil).mp hw⟩, hc⟩
  · rintro ⟨he, hw, hc⟩
    have hv := (kind_of_encode he).trans hk
    cases value <;> cases hv
    rw [encode, encodeFields_eq_flatMap] at he
    cases he
    exact ⟨_, rfl, hw.1, rfl, (each_field [] List.nodup_nil).mpr hw.2, hc, rfl⟩

lemma readsAfter_readToken (token : NativeXswdPayloadToken F) :
    ReadsAfter L remaining token (readToken L readValue token) := by
  unfold readToken
  split
  case h_1 hk => exact readsAfter_leaf (by simp [hk]) fun _ => readNull_eq_ok hk
  case h_2 hk => exact readsAfter_leaf (by simp [hk]) fun _ => readBool_eq_ok hk
  case h_3 hk => exact readsAfter_string hk
  case h_4 hk => exact readsAfter_leaf (by simp [hk]) fun _ => readInteger_eq_ok hk
  case h_5 hk => exact readsAfter_leaf (by simp [hk]) fun _ => readFloat_eq_ok hk
  case h_6 hk => exact readsAfter_array h hk
  case h_7 hk => exact readsAfter_object h hk
  case h_8 hk =>
    refine (Reads.lift _).congr fun used s s' value => ?_
    simp only [reduceCtorEq, and_false, false_iff]
    intro hread
    have hv := (kind_of_encode hread.1).trans hk
    cases value <;> cases hv

end Containers

/-- **A value is read from its tokens**, and from no others. -/
theorem reads_readValue (remaining : ℕ) :
    Reads (readValue L remaining : Decoding tokens (XswdValue F)) (ReadsValue L remaining) := by
  induction remaining with
  | zero => exact (Reads.lift _).congr fun used s s' value => by simp [ReadsValue, Within]
  | succ remaining ih =>
    refine (Reads.take_bind (readsAfter_readToken ih)).congr
      fun used s s' value => ⟨?_, fun h => ?_⟩
    · rintro ⟨token, used, rfl, h⟩
      exact h
    obtain ⟨token, u, rfl⟩ : ∃ token u, used = token :: u := by
      rw [h.1]
      cases value <;> exact ⟨_, _, rfl⟩
    exact ⟨token, u, rfl, h⟩

/-! ### Payloads -/

lemma decode_eq_ok : (decode L tokens).1 = .ok value ↔
    tokens.length ≤ L.maxTokens ∧ ∃ s, ReadsValue L L.maxDepth.toNat tokens 0 s value := by
  rw [← (reads_readValue L.maxDepth.toNat).whole]
  unfold decode
  split
  case isTrue hcount =>
    simp only [reduceCtorEq, false_iff, not_and]
    intro hle hread
    obtain ⟨s, h⟩ := (reads_readValue L.maxDepth.toNat).whole.mp hread
    obtain hempty | hcount := hcount
    · rw [h.1] at hempty
      cases value <;> cases hempty
    · omega
  case isFalse hcount =>
    rw [not_or, Int.not_lt] at hcount
    obtain ⟨e | v, c⟩ := readValue L L.maxDepth.toNat (.start tokens 0)
    · simp
    by_cases hc : c.index = tokens.length
    · simp [hc, hcount.2]
    · simp [hc]

lemma payload_eq_ok :
    (xswdPayloadFromGenerated L tokens).1 = .ok value ↔ Encodes L value tokens := by
  have hroot : (xswdPayloadFromGenerated L tokens).1 = .ok value ↔
      (decode L tokens).1 = .ok value ∧ ∃ fields, value = .object fields := by
    unfold xswdPayloadFromGenerated
    obtain ⟨e | v, c⟩ := decode L tokens
    · simp
    · cases v with
      | object | _ => simp +contextual [eq_comm]
  rw [hroot, decode_eq_ok]
  constructor
  · rintro ⟨⟨hcount, s, he, hw, rfl, htotal⟩, hobject⟩
    exact ⟨hobject, he, hcount, hw, by simpa using htotal⟩
  · rintro ⟨hobject, he, hcount, hw, htotal⟩
    exact ⟨⟨hcount, _, he, hw, rfl, by simpa using htotal⟩, hobject⟩

/-- **The decoder accepts exactly the encodings.** For all tokens and all limits, it returns a value
exactly if the value is an object within the limits and the tokens are its preorder encoding; so no
two lists of tokens are read as one value; and whatever the tokens are, the positions it reads are
the first ones, each once. -/
theorem payloads_accepted_exactly (L : XelisXswdProjectionLimits)
    (tokens : List (NativeXswdPayloadToken F)) :
    (∀ value, (xswdPayloadFromGenerated L tokens).1 = .ok value ↔ Encodes L value tokens) ∧
    (∀ L' tokens' value, (xswdPayloadFromGenerated L tokens).1 = .ok value →
      (xswdPayloadFromGenerated L' tokens').1 = .ok value → tokens' = tokens) ∧
    ∃ n ≤ tokens.length, (xswdPayloadFromGenerated L tokens).2.reads = List.range n := by
  refine ⟨fun value => payload_eq_ok, fun L' tokens' value h h' => ?_, ?_⟩
  · rw [(payload_eq_ok.mp h).encoded, (payload_eq_ok.mp h').encoded]
  · exact ⟨_, Cursor.index_le _, Cursor.reads_eq _⟩

/-- An object of one field is accepted under the smallest limits for it, from its tokens alone. -/
theorem one_field_accepted :
    let value : XswdValue Float := .object [("n", .integer (-5))]
    (xswdPayloadFromGenerated ⟨2, 3, 1, 1, 1⟩ (encode value)).1 = .ok value ∧
      ∀ L tokens, (xswdPayloadFromGenerated L tokens).1 = .ok value → tokens = encode value := by
  intro value
  have hsize : ("n".utf8ByteSize : ℤ) ≤ 1 := by decide
  have hwithin : Within ⟨2, 3, 1, 1, 1⟩ 2 value := by simpa [value, Within] using hsize
  obtain ⟨hiff, honly, -⟩ := payloads_accepted_exactly ⟨2, 3, 1, 1, 1⟩ (encode value)
  have hok := (hiff value).mpr ⟨⟨_, rfl⟩, rfl, by decide, hwithin, fun _ => by decide⟩
  exact ⟨hok, fun L tokens h => honly L tokens value hok h⟩

end XelisWallet.PayloadAccepts
