import XelisWallet.Text

/-!
JSON documents in their compact form: without white space, with the fields in a fixed order.

What the writer writes, the reader reads back, so a document has one compact form and a compact
form stands for one document.
-/

namespace XelisWallet.JsonText

inductive Doc
  | bool (b : Bool)
  | nat (n : ℕ)
  | str (s : String)
  | arr (values : List Doc)
  | obj (fields : List (String × Doc))

/-! ### The writer -/

def hexDigit (n : ℕ) : Char := if n < 10 then .ofNat (48 + n) else .ofNat (87 + n)

/-- A character inside quotes. -/
def escapeChar (c : Char) : List Char :=
  if c = '\x22' then ['\x5c', '\x22']
  else if c = '\x5c' then ['\x5c', '\x5c']
  else if c = '\x08' then ['\x5c', 'b']
  else if c = '\x0c' then ['\x5c', 'f']
  else if c = '\n' then ['\x5c', 'n']
  else if c = '\r' then ['\x5c', 'r']
  else if c = '\t' then ['\x5c', 't']
  else if c.toNat < 32 then
    ['\x5c', 'u', '0', '0', hexDigit (c.toNat / 16), hexDigit (c.toNat % 16)]
  else [c]

def escape (cs : List Char) : List Char := cs.flatMap escapeChar

def quoted (s : String) : List Char := '\x22' :: (escape s.toList ++ ['\x22'])

mutual

def render : Doc → List Char
  | .bool true => ['t', 'r', 'u', 'e']
  | .bool false => ['f', 'a', 'l', 's', 'e']
  | .nat n => Nat.toDigits 10 n
  | .str s => quoted s
  | .arr [] => ['[', ']']
  | .arr (v :: vs) => '[' :: (render v ++ renderValues vs)
  | .obj [] => ['\x7b', '\x7d']
  | .obj ((k, v) :: fs) => '\x7b' :: (quoted k ++ ':' :: (render v ++ renderFields fs))

/-- The values after the first one, and the end of the array. -/
def renderValues : List Doc → List Char
  | [] => [']']
  | v :: vs => ',' :: (render v ++ renderValues vs)

/-- The fields after the first one, and the end of the object. -/
def renderFields : List (String × Doc) → List Char
  | [] => ['\x7d']
  | (k, v) :: fs => ',' :: (quoted k ++ ':' :: (render v ++ renderFields fs))

end

/-- The compact form of a document. -/
def Doc.text (d : Doc) : String := .ofList (render d)

/-! ### The reader -/

def hexValue (c : Char) : ℕ := if c.isDigit then c.toNat - 48 else c.toNat - 87

def unescape : Char → Option Char
  | '\x22' => some '\x22'
  | '\x5c' => some '\x5c'
  | 'b' => some '\x08'
  | 'f' => some '\x0c'
  | 'n' => some '\n'
  | 'r' => some '\r'
  | 't' => some '\t'
  | _ => none

/-- The characters up to the closing quote, and what follows it. -/
def readQuoted : List Char → Option (List Char × List Char)
  | [] => none
  | '\x22' :: cs => some ([], cs)
  | '\x5c' :: 'u' :: '0' :: '0' :: a :: b :: cs =>
    (readQuoted cs).map fun p => (.ofNat (16 * hexValue a + hexValue b) :: p.1, p.2)
  | '\x5c' :: c :: cs =>
    match unescape c with
    | none => none
    | some c => (readQuoted cs).map fun p => (c :: p.1, p.2)
  | c :: cs => (readQuoted cs).map fun p => (c :: p.1, p.2)

def readNat (cs : List Char) : Option (ℕ × List Char) :=
  if cs.takeWhile Char.isDigit = [] then none
  else some (Nat.ofDigitChars 10 (cs.takeWhile Char.isDigit) 0, cs.dropWhile Char.isDigit)

mutual

/-- A document and what follows it, with at most `fuel` documents inside. -/
def readDoc : ℕ → List Char → Option (Doc × List Char)
  | 0, _ => none
  | _ + 1, 't' :: 'r' :: 'u' :: 'e' :: cs => some (.bool true, cs)
  | _ + 1, 'f' :: 'a' :: 'l' :: 's' :: 'e' :: cs => some (.bool false, cs)
  | _ + 1, '\x22' :: cs => (readQuoted cs).map fun p => (.str (.ofList p.1), p.2)
  | _ + 1, '[' :: ']' :: cs => some (.arr [], cs)
  | fuel + 1, '[' :: cs => do
    let (v, cs) ← readDoc fuel cs
    let (vs, cs) ← readValues fuel cs
    return (.arr (v :: vs), cs)
  | _ + 1, '\x7b' :: '\x7d' :: cs => some (.obj [], cs)
  | fuel + 1, '\x7b' :: cs => do
    let (f, cs) ← readField fuel cs
    let (fs, cs) ← readFields fuel cs
    return (.obj (f :: fs), cs)
  | _ + 1, cs => (readNat cs).map fun p => (.nat p.1, p.2)

def readValues : ℕ → List Char → Option (List Doc × List Char)
  | 0, _ => none
  | _ + 1, ']' :: cs => some ([], cs)
  | fuel + 1, ',' :: cs => do
    let (v, cs) ← readDoc fuel cs
    let (vs, cs) ← readValues fuel cs
    return (v :: vs, cs)
  | _ + 1, _ => none

def readField : ℕ → List Char → Option ((String × Doc) × List Char)
  | 0, _ => none
  | fuel + 1, '\x22' :: cs => do
    let (k, cs) ← readQuoted cs
    match cs with
    | ':' :: cs => do
      let (v, cs) ← readDoc fuel cs
      return ((.ofList k, v), cs)
    | _ => none
  | _ + 1, _ => none

def readFields : ℕ → List Char → Option (List (String × Doc) × List Char)
  | 0, _ => none
  | _ + 1, '\x7d' :: cs => some ([], cs)
  | fuel + 1, ',' :: cs => do
    let (f, cs) ← readField fuel cs
    let (fs, cs) ← readFields fuel cs
    return (f :: fs, cs)
  | _ + 1, _ => none

end

/-- The document of a compact text. -/
def parse (s : String) : Option Doc :=
  match readDoc s.toList.length s.toList with
  | some (d, []) => some d
  | _ => none

/-! ### The round trip -/

lemma hexValue_hexDigit : ∀ n < 16, hexValue (hexDigit n) = n := by decide

lemma readQuoted_escapeChar (c : Char) (rest : List Char) :
    readQuoted (escapeChar c ++ rest) = (readQuoted rest).map fun p => (c :: p.1, p.2) := by
  unfold escapeChar
  split_ifs with h₁ h₂ h₃ h₄ h₅ h₆ h₇ h₈
  · subst h₁; simp [readQuoted, unescape]
  · subst h₂; simp [readQuoted, unescape]
  · subst h₃; simp [readQuoted, unescape]
  · subst h₄; simp [readQuoted, unescape]
  · subst h₅; simp [readQuoted, unescape]
  · subst h₆; simp [readQuoted, unescape]
  · subst h₇; simp [readQuoted, unescape]
  · have hc : Char.ofNat (16 * (c.toNat / 16) + c.toNat % 16) = c := by
      rw [Nat.div_add_mod, Char.ofNat_toNat]
    simp [readQuoted, hexValue_hexDigit _ (by omega : c.toNat / 16 < 16), hexValue_hexDigit _ (by
      omega : c.toNat % 16 < 16), hc]
  · rw [List.singleton_append, readQuoted.eq_def]
    split <;> simp_all

lemma readQuoted_escape (cs rest : List Char) :
    readQuoted (escape cs ++ '\x22' :: rest) = some (cs, rest) := by
  induction cs with
  | nil => simp [escape, readQuoted]
  | cons c cs ih =>
    rw [escape, List.flatMap_cons, List.append_assoc, readQuoted_escapeChar, ← escape, ih]
    rfl

/-- What follows a number does not continue it. -/
def Delimited (rest : List Char) : Prop := ∀ c ∈ rest.head?, c.isDigit = false

lemma readNat_toDigits (n : ℕ) {rest : List Char} (h : Delimited rest) :
    readNat (Nat.toDigits 10 n ++ rest) = some (n, rest) := by
  have hd : ∀ c ∈ Nat.toDigits 10 n, c.isDigit = true :=
    fun c hc => Nat.isDigit_of_mem_toDigits (by omega) (by omega) hc
  have hr : rest.takeWhile Char.isDigit = [] ∧ rest.dropWhile Char.isDigit = rest := by
    cases rest with
    | nil => exact ⟨rfl, rfl⟩
    | cons c => simp [List.takeWhile, List.dropWhile, h c rfl]
  rw [readNat, List.takeWhile_append_of_pos hd, List.dropWhile_append_of_pos hd, hr.1, hr.2,
    List.append_nil, if_neg Nat.toDigits_ne_nil, Nat.ofDigitChars_ten_toDigits]

mutual

/-- How many documents the reader goes through. -/
def cost : Doc → ℕ
  | .arr (v :: vs) => 1 + cost v + costValues vs
  | .obj ((_, v) :: fs) => 2 + cost v + costFields fs
  | _ => 1

def costValues : List Doc → ℕ
  | [] => 1
  | v :: vs => 1 + cost v + costValues vs

def costFields : List (String × Doc) → ℕ
  | [] => 1
  | (_, v) :: fs => 2 + cost v + costFields fs

end

lemma cost_pos (d : Doc) : 0 < cost d := by
  unfold cost
  split <;> omega

lemma delimited_renderValues (vs : List Doc) (rest : List Char) :
    Delimited (renderValues vs ++ rest) := by
  cases vs <;> simp [Delimited, renderValues]

lemma delimited_renderFields (fs : List (String × Doc)) (rest : List Char) :
    Delimited (renderFields fs ++ rest) := by
  cases fs <;> simp [Delimited, renderFields]

/-- A number starts with none of the characters that start another document. -/
lemma readDoc_nat (n fuel : ℕ) {rest : List Char} (h : Delimited rest) :
    readDoc (fuel + 1) (Nat.toDigits 10 n ++ rest) = some (.nat n, rest) := by
  have hr := readNat_toDigits n h
  have hd : ∀ c cs, Nat.toDigits 10 n ++ rest = c :: cs → c.isDigit = true := by
    intro c cs hc
    obtain ⟨d, ds, hds⟩ := List.exists_cons_of_ne_nil (Nat.toDigits_ne_nil (n := n) (b := 10))
    rw [hds, List.cons_append] at hc
    cases hc
    exact Nat.isDigit_of_mem_toDigits (by omega) (by omega) (hds ▸ List.mem_cons_self)
  generalize Nat.toDigits 10 n ++ rest = cs at hr hd
  rw [readDoc.eq_def]
  split <;> simp_all

mutual

/-- **The reader reads back what was written**, whatever follows it. -/
theorem readDoc_render : ∀ (d : Doc) (fuel : ℕ) (rest : List Char), cost d ≤ fuel →
    Delimited rest → readDoc fuel (render d ++ rest) = some (d, rest)
  | d, 0, _, h, _ => absurd h (by have := cost_pos d; omega)
  | .bool true, _ + 1, _, _, _ => by simp [render, readDoc]
  | .bool false, _ + 1, _, _, _ => by simp [render, readDoc]
  | .nat n, fuel + 1, rest, _, hr => readDoc_nat n fuel hr
  | .str s, _ + 1, rest, _, _ => by
    simp [render, quoted, readDoc, readQuoted_escape]
  | .arr [], _ + 1, _, _, _ => by simp [render, readDoc]
  | .arr (v :: vs), fuel + 1, rest, h, hr => by
    have hv := readDoc_render v fuel (renderValues vs ++ rest) (by simp [cost] at h; omega)
      (delimited_renderValues vs rest)
    have hvs := readValues_render vs fuel rest (by simp [cost] at h; omega)
    have hne : ∀ cs, render v ++ (renderValues vs ++ rest) = ']' :: cs → False := by
      intro cs he
      rw [he] at hv
      cases fuel <;> simp [readDoc, readNat] at hv
    rw [render, List.cons_append, List.append_assoc, readDoc]
    · simp [hv, hvs]
    · exact hne
  | .obj [], _ + 1, _, _, _ => by simp [render, readDoc]
  | .obj ((k, v) :: fs), fuel + 1, rest, h, hr => by
    have hf := readField_render k v fuel (renderFields fs ++ rest) (by simp [cost] at h; omega)
      (delimited_renderFields fs rest)
    have hfs := readFields_render fs fuel rest (by simp [cost] at h; omega)
    have hne : ∀ cs, quoted k ++ ':' :: (render v ++ (renderFields fs ++ rest)) = '\x7d' :: cs →
        False := by
      intro cs he
      cases he
    rw [render, List.cons_append, List.append_assoc, List.cons_append, List.append_assoc, readDoc]
    · simp [hf, hfs]
    · exact hne

theorem readValues_render : ∀ (vs : List Doc) (fuel : ℕ) (rest : List Char),
    costValues vs ≤ fuel → readValues fuel (renderValues vs ++ rest) = some (vs, rest)
  | [], 0, _, h => by simp [costValues] at h
  | [], _ + 1, _, _ => by simp [renderValues, readValues]
  | _ :: _, 0, _, h => by simp [costValues] at h
  | v :: vs, fuel + 1, rest, h => by
    have hv := readDoc_render v fuel (renderValues vs ++ rest) (by simp [costValues] at h; omega)
      (delimited_renderValues vs rest)
    have hvs := readValues_render vs fuel rest (by simp [costValues] at h; omega)
    simp [renderValues, readValues, hv, hvs]

theorem readField_render : ∀ (k : String) (v : Doc) (fuel : ℕ) (rest : List Char),
    1 + cost v ≤ fuel → Delimited rest →
    readField fuel (quoted k ++ ':' :: (render v ++ rest)) = some ((k, v), rest)
  | _, _, 0, _, h, _ => by omega
  | k, v, fuel + 1, rest, h, hr => by
    have hv := readDoc_render v fuel rest (by omega) hr
    simp [quoted, readField, readQuoted_escape, hv]

theorem readFields_render : ∀ (fs : List (String × Doc)) (fuel : ℕ) (rest : List Char),
    costFields fs ≤ fuel → readFields fuel (renderFields fs ++ rest) = some (fs, rest)
  | [], 0, _, h => by simp [costFields] at h
  | [], _ + 1, _, _ => by simp [renderFields, readFields]
  | _ :: _, 0, _, h => by simp [costFields] at h
  | (k, v) :: fs, fuel + 1, rest, h => by
    have hf := readField_render k v fuel (renderFields fs ++ rest)
      (by simp [costFields] at h; omega) (delimited_renderFields fs rest)
    have hfs := readFields_render fs fuel rest (by simp [costFields] at h; omega)
    simp [renderFields, readFields, hf, hfs]

end

mutual

lemma cost_le : ∀ d : Doc, cost d ≤ (render d).length
  | .bool true | .bool false | .arr [] | .obj [] => by simp [cost, render]
  | .nat n => Nat.length_toDigits_pos
  | .str s => by simp [cost, render, quoted]
  | .arr (v :: vs) => by
    have hv := cost_le v
    have hvs := costValues_le vs
    simp only [cost, render, List.length_cons, List.length_append]
    omega
  | .obj ((k, v) :: fs) => by
    have hv := cost_le v
    have hfs := costFields_le fs
    simp only [cost, render, quoted, List.length_cons, List.length_append]
    omega

lemma costValues_le : ∀ vs : List Doc, costValues vs ≤ (renderValues vs).length
  | [] => by simp [costValues, renderValues]
  | v :: vs => by
    have hv := cost_le v
    have hvs := costValues_le vs
    simp only [costValues, renderValues, List.length_cons, List.length_append]
    omega

lemma costFields_le : ∀ fs : List (String × Doc), costFields fs ≤ (renderFields fs).length
  | [] => by simp [costFields, renderFields]
  | (k, v) :: fs => by
    have hv := cost_le v
    have hfs := costFields_le fs
    simp only [costFields, renderFields, quoted, List.length_cons, List.length_append]
    omega

end

/-- **The compact form of a document is read back.** -/
theorem parse_text (d : Doc) : parse d.text = some d := by
  have h := readDoc_render d (render d).length [] (cost_le d) (by simp [Delimited])
  rw [List.append_nil] at h
  rw [parse, Doc.text, String.toList_ofList, h]

lemma getLast?_renderFields (fs : List (String × Doc)) :
    (renderFields fs).getLast? = some '\x7d' := by
  induction fs with
  | nil => rfl
  | cons f fs ih => simp [renderFields, List.getLast?_cons, List.getLast?_append, ih]

lemma trim_text_obj (fs : List (String × Doc)) :
    Text.trim (Doc.obj fs).text = (Doc.obj fs).text := by
  apply Text.trim_of_trimmed
  rw [Text.Trimmed, Doc.text, String.toList_ofList]
  cases fs with
  | nil => exact ⟨by rintro c ⟨⟩; rfl, by rintro c ⟨⟩; rfl⟩
  | cons =>
    constructor
    · rintro c ⟨⟩
      rfl
    simp only [render, List.getLast?_cons, List.getLast?_append, getLast?_renderFields]
    rintro c ⟨⟩
    rfl

/-! ### The length of a document -/

lemma utf8ByteSize_text (d : Doc) : d.text.utf8ByteSize = String.utf8Len (render d) := by
  rw [← String.utf8Len_toList, Doc.text, String.toList_ofList]

/-- Text of `n` lower-case hexadecimal digits. -/
def IsHex (n : ℕ) (s : String) : Prop :=
  s.toList.length = n ∧ ∀ c ∈ s.toList, c ∈ "0123456789abcdef".toList

lemma escapeChar_of_hex {c : Char} (hc : c ∈ "0123456789abcdef".toList) :
    escapeChar c = [c] ∧ c.utf8Size = 1 := by
  have hall : "0123456789abcdef".toList.all fun c =>
      escapeChar c = [c] ∧ c.utf8Size = 1 := by decide
  simpa using List.all_eq_true.mp hall c hc

lemma utf8Len_of_hex {cs : List Char} (h : ∀ c ∈ cs, c ∈ "0123456789abcdef".toList) :
    escape cs = cs ∧ String.utf8Len cs = cs.length := by
  induction cs with
  | nil => exact ⟨rfl, rfl⟩
  | cons c cs ih =>
    obtain ⟨he, hu⟩ := escapeChar_of_hex (h c List.mem_cons_self)
    obtain ⟨ihe, ihu⟩ := ih fun c hc => h c (List.mem_cons_of_mem _ hc)
    rw [escape] at ihe ⊢
    rw [List.flatMap_cons, he, ihe, String.utf8Len_cons, ihu, hu]
    exact ⟨rfl, rfl⟩

lemma IsHex.utf8Len_quoted {n : ℕ} {s : String} (h : IsHex n s) :
    String.utf8Len (quoted s) = n + 2 := by
  obtain ⟨he, hu⟩ := utf8Len_of_hex h.2
  rw [quoted, he, String.utf8Len_cons, String.utf8Len_append, hu, h.1]
  rfl

end XelisWallet.JsonText
