import XelisWallet.PayloadAccepts

/-!
The Dart decoder reads back what the projection wrote.

The projection writes the encoding of the value, and both sides count the same tokens and bytes, so
a payload that passed the limits once passes them again.
-/

namespace XelisWallet.PayloadRoundTrip

open Json Payload PayloadSpec
open PayloadDecoder hiding addText validateContainerLength
open PayloadAccepts Value

variable {F : Type} {L : ProjectionLimits} {d : ℕ}

lemma toXswdArray_eq_map (values : List (Value F)) :
    toXswdArray values = values.map toXswd := by
  induction values with
  | nil => rfl
  | cons v values ih => rw [toXswdArray, ih, List.map_cons]

lemma toXswdFields_eq_map (fields : List (String × Value F)) :
    toXswdFields fields = fields.map fun p => (p.1, p.2.toXswd) := by
  induction fields with
  | nil => rfl
  | cons p fields ih => rw [toXswdFields, ih, List.map_cons]

variable [Double F]

/-- What the projection writes for a value at depth `d` is its encoding, with the same limits and
the same texts. -/
structure Written (L : ProjectionLimits) (d : ℕ) (v : Value F) : Prop where
  tokens : (tokensOf v).map ofNative = encode v.toXswd
  within : Within (limitsOfNative L) (L.maxDepth + 1 - d) v.toXswd
  total : textBytes (tokenTexts (encode v.toXswd)) = totalText (v.nodes d)

lemma written_array {values : List (Value F)} (h : ∀ v ∈ values, Written L d v) :
    (tokensOfArray values).map ofNative = encodeArray (toXswdArray values) ∧
      textBytes (tokenTexts (encodeArray (toXswdArray values))) =
        totalText (nodesArray d values) := by
  induction values with
  | nil => exact ⟨rfl, rfl⟩
  | cons v values ih =>
    have hv := h v (by simp)
    obtain ⟨htokens, htotal⟩ := ih fun v hv => h v (by simp [hv])
    rw [tokensOfArray, toXswdArray, encodeArray, nodesArray, List.map_append,
      hv.tokens, htokens, tokenTexts_append, textBytes_append, hv.total, htotal, totalText_append]
    exact ⟨rfl, rfl⟩

lemma written_fields {fields : List (String × Value F)} (h : ∀ p ∈ fields, Written L d p.2) :
    (tokensOfFields fields).map ofNative = encodeFields (toXswdFields fields) ∧
      textBytes (tokenTexts (encodeFields (toXswdFields fields))) =
        textBytes (fields.map (·.1)) + totalText (nodesFields d fields) := by
  induction fields with
  | nil => exact ⟨rfl, rfl⟩
  | cons p fields ih =>
    obtain ⟨key, v⟩ := p
    have hv : Written L d v := h (key, v) (by simp)
    obtain ⟨htokens, htotal⟩ := ih fun p hp => h p (by simp [hp])
    have hkey (l : List (NativeXswdPayloadToken F)) :
        tokenTexts (⟨.objectKey, none, some key, none, none⟩ :: l) = [key] ++ tokenTexts l := rfl
    have hkeys : ((key, v) :: fields).map (·.1) = [key] ++ fields.map (·.1) := rfl
    rw [tokensOfFields, toXswdFields, encodeFields, nodesFields, List.map_cons,
      List.map_append, hv.tokens, htokens, hkey, hkeys, tokenTexts_append, textBytes_append,
      textBytes_append, textBytes_append, hv.total, htotal, totalText_append]
    exact ⟨rfl, by omega⟩

lemma asU32_of_le {n : ℕ} (hL : L.maxContainerMembers < 2 ^ 32) (h : n ≤ L.maxContainerMembers) :
    asU32 n = n := Nat.mod_eq_of_lt (Nat.lt_of_le_of_lt h hL)

/-- Both sides count the depth of a value, so what is left of the decoder's depth is positive. -/
lemma within_of_depth {v : Value F} {w : XswdValue F} (h : NodeFits L (d, v))
    (hw : Within (limitsOfNative L) (L.maxDepth + 1 - (d + 1) + 1) w) :
    Within (limitsOfNative L) (L.maxDepth + 1 - d) w := by
  have hd : d ≤ L.maxDepth := h.depth
  have hdepth : L.maxDepth + 1 - d = L.maxDepth + 1 - (d + 1) + 1 := by omega
  rwa [hdepth]

lemma written (hL : L.maxContainerMembers < 2 ^ 32) (v : Value F) (d : ℕ)
    (hfits : ∀ p ∈ v.nodes d, NodeFits L p) (hwf : ∀ p ∈ v.nodes d, p.2.NodeWf) :
    Written L d v := by
  have hself := hfits _ (mem_nodes_self v d)
  induction v using induction generalizing d with
  | null | bool => exact ⟨rfl, within_of_depth hself trivial, rfl⟩
  | number n =>
    cases n with
    | posInt | negInt => exact ⟨rfl, within_of_depth hself trivial, rfl⟩
    | float x => exact ⟨rfl, within_of_depth hself (hwf _ (mem_nodes_self _ d)), rfl⟩
  | string s =>
    exact ⟨rfl, within_of_depth hself (Int.ofNat_le.mpr (hself.text s (by simp [texts]))), rfl⟩
  | array values ih =>
    have hmem {v : Value F} (hv : v ∈ values) {p : ℕ × Value F} (hp : p ∈ v.nodes (d + 1)) :
        p ∈ nodes d (.array values) :=
      List.mem_cons_of_mem _ (mem_nodesArray hv hp)
    have hall : ∀ v ∈ values, Written L (d + 1) v := fun v hv =>
      ih v hv (d + 1) (fun p hp => hfits p (hmem hv hp)) (fun p hp => hwf p (hmem hv hp))
        (hfits _ (hmem hv (mem_nodes_self v (d + 1))))
    obtain ⟨htokens, htotal⟩ := written_array hall
    have hlen : values.length ≤ L.maxContainerMembers := hself.container
    have hnodes : totalText (nodes d (.array values)) = totalText (nodesArray (d + 1) values) := by
      simp [nodes, totalText, textBytes, texts]
    refine ⟨?_, within_of_depth hself ⟨?_, ?_⟩, hnodes ▸ htotal⟩
    · rw [tokensOf, List.map_cons, htokens, asU32_of_le hL hlen, toXswd, encode,
        toXswdArray_eq_map, List.length_map]
      rfl
    · rw [toXswdArray_eq_map, List.length_map]
      exact Int.ofNat_le.mpr hlen
    · rw [toXswdArray_eq_map, List.forall_mem_map]
      exact fun v hv => (hall v hv).within
  | object fields ih =>
    have hmem {q : String × Value F} (hq : q ∈ fields) {p : ℕ × Value F}
        (hp : p ∈ q.2.nodes (d + 1)) : p ∈ nodes d (.object fields) :=
      List.mem_cons_of_mem _ (mem_nodesFields hq hp)
    have hall : ∀ q ∈ fields, Written L (d + 1) q.2 := fun q hq =>
      ih q hq (d + 1) (fun p hp => hfits p (hmem hq hp)) (fun p hp => hwf p (hmem hq hp))
        (hfits _ (hmem hq (mem_nodes_self q.2 (d + 1))))
    obtain ⟨htokens, htotal⟩ := written_fields hall
    have hlen : fields.length ≤ L.maxContainerMembers := hself.container
    have hnodes : totalText (nodes d (.object fields)) = textBytes (fields.map (·.1)) +
        totalText (nodesFields (d + 1) fields) := by
      simp [nodes, totalText, texts]
    have hkeys : (fields.map (·.1)).Nodup := hwf _ (mem_nodes_self _ d)
    refine ⟨?_, within_of_depth hself ⟨?_, ?_, ?_⟩, hnodes ▸ htotal⟩
    · rw [tokensOf, List.map_cons, htokens, asU32_of_le hL hlen, toXswd, encode,
        toXswdFields_eq_map, List.length_map]
      rfl
    · rw [toXswdFields_eq_map, List.length_map]
      exact Int.ofNat_le.mpr hlen
    · rwa [toXswdFields_eq_map, List.map_map]
    · rw [toXswdFields_eq_map, List.forall_mem_map]
      exact fun q hq =>
        ⟨Int.ofNat_le.mpr (hself.text q.1 (List.mem_map_of_mem hq)), (hall q hq).within⟩

lemma payload_tokensOf (hL : L.maxContainerMembers < 2 ^ 32) {v : Value F} (hv : v.Wf)
    (hobject : v.isObject = true) (hfits : Fits L v) :
    payloadFromGenerated L (tokensOf v) = .ok v.toXswd := by
  have hw := written hL v 1 hfits.node hv
  have htokens := hfits.tokens
  have htotal := hfits.total
  rw [← length_tokensOf] at htokens
  rw [payloadFromGenerated, payload_eq_ok]
  refine ⟨?_, hw.tokens, ?_, ?_, fun _ => ?_⟩
  · cases v <;> first | exact ⟨_, rfl⟩ | cases hobject
  · rw [List.length_map]
    exact Int.ofNat_le.mpr htokens
  · exact hw.within
  · rw [hw.tokens, hw.total]
    exact Int.ofNat_le.mpr htotal

/-- **The two sides agree on payloads.** For every JSON object and all valid limits, the native
projection succeeds exactly when the object is within the limits, and then the Dart decoder
accepts its tokens under the same limits and reads the same value. -/
theorem payload_round_trip (P : Platform) {L : ProjectionLimits} (hL : L.validate = .ok L)
    (v : JsonValue F) (hv : v.1.isObject = true) :
    ((∃ tokens, project P L (some v.1) = .ok tokens) ↔ Fits L v.1) ∧
    ∀ tokens, project P L (some v.1) = .ok tokens →
      payloadFromGenerated L tokens = .ok v.1.toXswd := by
  obtain ⟨-, -, hcontainer, htotal⟩ := ProjectionLimits.le_technicalMax_of_validate hL
  have hwide := P.wide
  have htext : L.maxTotalTextBytes ≤ P.usizeMax := by
    simp only [ProjectionLimits.technicalMax] at htotal
    omega
  have hmembers : L.maxContainerMembers < 2 ^ 32 := by
    simp only [ProjectionLimits.technicalMax] at hcontainer
    omega
  refine ⟨⟨fun ⟨tokens, h⟩ => ((project_eq_ok htext hv).mp h).1, fun h => ?_⟩, ?_⟩
  · exact ⟨_, (project_eq_ok htext hv).mpr ⟨h, rfl⟩⟩
  · intro tokens h
    obtain ⟨hfits, rfl⟩ := (project_eq_ok htext hv).mp h
    exact payload_tokensOf hmembers v.2 hv hfits

/-- The object of one array with the largest `u64` and the smallest `i64`. -/
def extremes : Value Float :=
  .object [("n", .array [.number (.posInt (2 ^ 64 - 1)), .number (.negInt (-2 ^ 63))])]

/-- The extreme integers come back exact. -/
theorem extremes_round_trip :
    ∃ tokens, extremes.Wf ∧
      project ⟨2 ^ 32 - 1, Nat.le_refl _⟩ .default (some extremes) = .ok tokens ∧
      payloadFromGenerated .default tokens = .ok (.object [("n", .array
        [.integer (2 ^ 64 - 1), .integer (-2 ^ 63)])]) := by
  have hv : extremes.Wf := by decide
  have h := payload_round_trip ⟨2 ^ 32 - 1, Nat.le_refl _⟩ (L := .default) (by decide)
    ⟨extremes, hv⟩ rfl
  have hfits : Fits .default extremes := by decide
  obtain ⟨tokens, ht⟩ := h.1.mpr hfits
  exact ⟨tokens, hv, ht, h.2 tokens ht⟩

end XelisWallet.PayloadRoundTrip
