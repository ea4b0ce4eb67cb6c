import Mathlib.Data.List.DropRight
import Mathlib.Data.String.Basic

/-!
Text as the code sees it: characters, their length in bytes, and white space around it; and values
that have a text.
-/

namespace XelisWallet.Text

/-- `char::is_whitespace`: the characters with the Unicode property `White_Space`. -/
def isWhitespace (c : Char) : Bool :=
  let n := c.toNat
  (9 ≤ n && n ≤ 13) || n == 0x20 || n == 0x85 || n == 0xA0 || n == 0x1680 ||
    (0x2000 ≤ n && n ≤ 0x200A) || n == 0x2028 || n == 0x2029 || n == 0x202F || n == 0x205F ||
    n == 0x3000

/-- `str::trim`. -/
def trim (s : String) : String :=
  .ofList ((s.toList.dropWhile isWhitespace).rdropWhile isWhitespace)

/-- There is no white space at either end. -/
def Trimmed (s : String) : Prop :=
  (∀ c ∈ s.toList.head?, isWhitespace c = false) ∧ ∀ c ∈ s.toList.getLast?, isWhitespace c = false

lemma trim_of_trimmed {s : String} (h : Trimmed s) : trim s = s := by
  obtain ⟨hh, hl⟩ := h
  have hd : s.toList.dropWhile isWhitespace = s.toList := by
    cases hs : s.toList with
    | nil => rfl
    | cons c => simp [List.dropWhile, hh c (by simp [hs])]
  have hr : s.toList.rdropWhile isWhitespace = s.toList := by
    rw [List.rdropWhile_eq_self_iff]
    intro hn
    have := hl _ (List.getLast?_eq_some_getLast hn)
    simp [this]
  rw [trim, hd, hr, String.ofList_toList]

lemma trimmed_trim (s : String) : Trimmed (trim s) := by
  rw [Trimmed, trim, String.toList_ofList]
  set l := s.toList.dropWhile isWhitespace with hl
  refine ⟨fun c hc => ?_, fun c hc => ?_⟩
  · -- The head of what is left is the head before the end was cut.
    obtain ⟨rest, hrest⟩ := l.rdropWhile_prefix isWhitespace
    obtain ⟨cs, hcs⟩ := List.head?_eq_some_iff.mp hc
    have hcons : l = c :: (cs ++ rest) := by rw [← hrest, hcs, List.cons_append]
    have hn : l ≠ [] := by simp [hcons]
    have hc := List.head_dropWhile_not isWhitespace (hl ▸ hn)
    simpa only [← hl, hcons, List.head_cons] using hc
  · have hn : l.rdropWhile isWhitespace ≠ [] := by
      rintro hn
      simp [hn] at hc
    have hc' := List.rdropWhile_last_not isWhitespace l hn
    rw [List.getLast?_eq_some_getLast hn, Option.mem_some_iff] at hc
    simpa [← hc] using hc'

lemma trim_trim (s : String) : trim (trim s) = trim s := trim_of_trimmed (trimmed_trim s)

lemma sublist_trim (s : String) : (trim s).toList.Sublist s.toList := by
  rw [trim, String.toList_ofList]
  exact (List.rdropWhile_prefix _ _).sublist.trans (List.dropWhile_sublist _)

lemma utf8ByteSize_trim_le (s : String) : (trim s).utf8ByteSize ≤ s.utf8ByteSize := by
  rw [← String.utf8Len_toList, ← String.utf8Len_toList]
  exact String.utf8Len_le_of_sublist (sublist_trim s)

/-- A way to write values as text and to read them. -/
structure Codec (α : Type) where
  toText : α → String
  ofText : String → Option α

/-- What was written is read back. -/
def Codec.RoundTrips {α : Type} (c : Codec α) : Prop := ∀ a, c.ofText (c.toText a) = some a

lemma Codec.RoundTrips.inj {α : Type} {c : Codec α} (h : c.RoundTrips) {a b : α} :
    c.toText a = c.toText b ↔ a = b := by
  constructor
  · intro he
    have := h a
    rw [he, h b] at this
    exact (Option.some.inj this).symm
  · rintro rfl
    rfl

end XelisWallet.Text
