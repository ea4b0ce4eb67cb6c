import Mathlib
import XelisWallet.DataWire

/-!
The data elements of the package (`xelis_data_element.dart`) and the adapter between them and the
typed wire (`xelis_runtime_utility_adapter.dart`).

The constructors check what they are given. An element that was constructed is accepted at the other
end of the wire, and what the other end holds is accepted here; in both directions it comes back as
it was.
-/

namespace XelisWallet.DartData

open Fallible AddressBook DataWire NativeXelisDataValue

inductive XelisUnsignedIntegerType
  | u8
  | u16
  | u32
  | u64
  | u128
  deriving DecidableEq

def XelisUnsignedIntegerType.name : XelisUnsignedIntegerType → String
  | .u8 => "u8"
  | .u16 => "u16"
  | .u32 => "u32"
  | .u64 => "u64"
  | .u128 => "u128"

def XelisUnsignedIntegerType.maximum : XelisUnsignedIntegerType → ℤ
  | .u8 => 255
  | .u16 => 65535
  | .u32 => 4294967295
  | .u64 => 18446744073709551615
  | .u128 => 340282366920938463463374607431768211455

/-- A value as an object: what its constructor was given is checked below. -/
inductive XelisDataValue
  | boolean (value : Bool)
  | string (value : String)
  | unsigned (type : XelisUnsignedIntegerType) (value : ℤ)
  | hash (hex : String)
  | blob (bytes : List ℤ)
  deriving DecidableEq

/-- A field is the pair of its key and its value. -/
inductive XelisDataElement
  | value (value : XelisDataValue)
  | array (values : List XelisDataElement)
  | fields (fields : List (XelisDataValue × XelisDataElement))

/-! ### The constructors -/

inductive DartError
  /-- `RangeError.range`. -/
  | range (invalidValue minValue maxValue : ℤ) (name : String) (message : Option String)
  /-- `ArgumentError.value`. -/
  | argument (value name message : String)
  /-- `FormatException`. -/
  | format (message : String)
  deriving DecidableEq

def collectionLimit : ℕ := 255

def blobLimit : ℕ := 65535

/-- The length check of `_validateCollection` and `_validateFields`. -/
def ensureLimit (length : ℕ) (name : String) : Except DartError Unit :=
  ensure (length ≤ collectionLimit) (.range length 0 collectionLimit name
    (some ("XELIS data-element collections contain at most " ++ toString collectionLimit ++
      " entries")))

def validateCollection (source : List XelisDataElement) (name : String) :
    Except DartError (List XelisDataElement) := do
  ensureLimit source.length name
  return source

/-- The loop of `_validateFields`, after the keys in `keys`. -/
def addKeys : List (XelisDataValue × XelisDataElement) → List XelisDataValue →
    Except DartError Unit
  | [], _ => return
  | (key, _) :: fields, keys => do
    ensure (key ∉ keys)
      (.argument "<redacted>" "fields" "XELIS data-element field keys must be unique")
    addKeys fields (keys ++ [key])

def validateFields (source : List (XelisDataValue × XelisDataElement)) :
    Except DartError (List (XelisDataValue × XelisDataElement)) := do
  ensureLimit source.length "fields"
  addKeys source []
  return source

def validateUnsigned (type : XelisUnsignedIntegerType) (value : ℤ) : Except DartError ℤ := do
  ensure (0 ≤ value ∧ value ≤ type.maximum) (.argument (toString value) "value"
    ("Value does not fit the declared " ++ type.name ++ " width"))
  return value

def normalizeHash (hex : String) : Except DartError String := do
  ensure (hex.toList.length = 64 ∧ ∀ c ∈ hex.toList, c ∈ "0123456789abcdefABCDEF".toList)
    (.format "A XELIS data hash must contain exactly 64 hex digits")
  return hex.toLower

/-- The loop of `_validateBlob`. -/
def checkBytes : List ℤ → Except DartError Unit
  | [] => return
  | byte :: bytes => do
    ensure (0 ≤ byte ∧ byte ≤ 255) (.range byte 0 255 "byte" none)
    checkBytes bytes

def validateBlob (source : List ℤ) : Except DartError (List ℤ) := do
  ensure (source.length ≤ blobLimit) (.range source.length 0 blobLimit "bytes"
    (some ("A XELIS data blob contains at most " ++ toString blobLimit ++ " bytes")))
  checkBytes source
  return source

/-- A value that a constructor returns. -/
def XelisDataValue.Constructed : XelisDataValue → Prop
  | .boolean _ | .string _ => True
  | .unsigned type value => validateUnsigned type value = .ok value
  | .hash hex => ∃ source, normalizeHash source = .ok hex
  | .blob bytes => validateBlob bytes = .ok bytes

mutual

/-- An element that a caller can construct. -/
def Constructed : XelisDataElement → Prop
  | .value value => value.Constructed
  | .array values => validateCollection values "array" = .ok values ∧ ArrayConstructed values
  | .fields fields => validateFields fields = .ok fields ∧ FieldsConstructed fields

def ArrayConstructed : List XelisDataElement → Prop
  | [] => True
  | value :: values => Constructed value ∧ ArrayConstructed values

def FieldsConstructed : List (XelisDataValue × XelisDataElement) → Prop
  | [] => True
  | (key, value) :: fields => key.Constructed ∧ Constructed value ∧ FieldsConstructed fields

end

/-! ### The adapter -/

def generatedUnsignedIntegerTypeFromXelis :
    XelisUnsignedIntegerType → NativeXelisUnsignedIntegerType
  | .u8 => .u8
  | .u16 => .u16
  | .u32 => .u32
  | .u64 => .u64
  | .u128 => .u128

def xelisUnsignedIntegerTypeFromGenerated :
    NativeXelisUnsignedIntegerType → XelisUnsignedIntegerType
  | .u8 => .u8
  | .u16 => .u16
  | .u32 => .u32
  | .u64 => .u64
  | .u128 => .u128

def generatedDataValueFromXelis : XelisDataValue → NativeXelisDataValue
  | .boolean value => .boolValue value
  | .string value => .stringValue value
  | .unsigned type value =>
    .unsignedInteger (generatedUnsignedIntegerTypeFromXelis type) (toString value)
  | .hash hex => .hashValue hex
  -- `Uint8List.fromList` keeps the low 8 bits
  | .blob bytes => .blobValue (bytes.map UInt8.ofInt)

mutual

def generatedDataElementFromXelis : XelisDataElement → NativeXelisDataElement
  | .value value => .value (generatedDataValueFromXelis value)
  | .array values => .array (generatedArray values)
  | .fields fields => .fields (generatedFields fields)

def generatedArray : List XelisDataElement → List NativeXelisDataElement
  | [] => []
  | value :: values => generatedDataElementFromXelis value :: generatedArray values

def generatedFields :
    List (XelisDataValue × XelisDataElement) → List (NativeXelisDataValue × NativeXelisDataElement)
  | [] => []
  | (key, value) :: fields =>
    (generatedDataValueFromXelis key, generatedDataElementFromXelis value) :: generatedFields fields

end

section Adapter

-- `BigInt.parse`, or `none` for its `FormatException`
variable (bigIntParse : String → Option ℤ)

def xelisDataValueFromGenerated : NativeXelisDataValue → Except DartError XelisDataValue
  | .boolValue value => return .boolean value
  | .stringValue value => return .string value
  | .unsignedInteger integerType decimalValue => do
    let type := xelisUnsignedIntegerTypeFromGenerated integerType
    let value ← context (bigIntParse decimalValue) (.format "Could not parse BigInt")
    return .unsigned type (← validateUnsigned type value)
  | .hashValue hexValue => return .hash (← normalizeHash hexValue)
  | .blobValue bytes => return .blob (← validateBlob (bytes.map fun byte => (byte.toNat : ℤ)))

mutual

/-- The elements of a collection are adapted first, when the constructor copies them. -/
def xelisDataElementFromGenerated : NativeXelisDataElement → Except DartError XelisDataElement
  | .value value => return .value (← xelisDataValueFromGenerated bigIntParse value)
  | .array values => do
    let values ← xelisArray values
    return .array (← validateCollection values "array")
  | .fields fields => do
    let fields ← xelisFields fields
    return .fields (← validateFields fields)

def xelisArray : List NativeXelisDataElement → Except DartError (List XelisDataElement)
  | [] => return []
  | value :: values => do
    let value ← xelisDataElementFromGenerated value
    return value :: (← xelisArray values)

def xelisFields : List (NativeXelisDataValue × NativeXelisDataElement) →
    Except DartError (List (XelisDataValue × XelisDataElement))
  | [] => return []
  | (key, value) :: fields => do
    let key ← xelisDataValueFromGenerated bigIntParse key
    let value ← xelisDataElementFromGenerated value
    return (key, value) :: (← xelisFields fields)

end

end Adapter

/-! ### What the constructors accept -/

lemma validateUnsigned_eq_ok {type : XelisUnsignedIntegerType} {value value' : ℤ} :
    validateUnsigned type value = .ok value' ↔
      (0 ≤ value ∧ value ≤ type.maximum) ∧ value = value' := by
  simp only [validateUnsigned, bind_eq_ok, ensure_eq_ok, exists_const, pure_eq_ok]

lemma checkBytes_eq_ok {bytes : List ℤ} {u : Unit} :
    checkBytes bytes = .ok u ↔ ∀ byte ∈ bytes, 0 ≤ byte ∧ byte ≤ 255 := by
  induction bytes with
  | nil => simp [checkBytes, pure_eq_ok]
  | cons byte bytes ih =>
    simp [checkBytes, bind_eq_ok, ensure_eq_ok, ih]

lemma validateBlob_eq_ok {bytes bytes' : List ℤ} :
    validateBlob bytes = .ok bytes' ↔
      bytes.length ≤ blobLimit ∧ (∀ byte ∈ bytes, 0 ≤ byte ∧ byte ≤ 255) ∧ bytes = bytes' := by
  simp only [validateBlob, bind_eq_ok, ensure_eq_ok, checkBytes_eq_ok, exists_const, pure_eq_ok]

lemma validateCollection_eq_ok {values values' : List XelisDataElement} {name : String} :
    validateCollection values name = .ok values' ↔
      values.length ≤ collectionLimit ∧ values = values' := by
  simp only [validateCollection, ensureLimit, bind_eq_ok, ensure_eq_ok, exists_const, pure_eq_ok]

lemma addKeys_eq_ok {fields : List (XelisDataValue × XelisDataElement)}
    {keys : List XelisDataValue} {u : Unit} :
    addKeys fields keys = .ok u ↔
      (fields.map Prod.fst).Nodup ∧ ∀ key ∈ fields.map Prod.fst, key ∉ keys := by
  induction fields generalizing keys with
  | nil => simp [addKeys, pure_eq_ok]
  | cons field fields ih =>
    obtain ⟨key, value⟩ := field
    simp only [addKeys, bind_eq_ok, ensure_eq_ok, exists_const, ih, List.map_cons,
      List.nodup_cons, List.forall_mem_cons, List.mem_append, List.mem_singleton, not_or]
    constructor
    · rintro ⟨hkey, hnodup, hfields⟩
      exact ⟨⟨fun hmem => (hfields key hmem).2 rfl, hnodup⟩, hkey, fun k hk => (hfields k hk).1⟩
    · rintro ⟨⟨hnew, hnodup⟩, hkey, hfields⟩
      exact ⟨hkey, hnodup, fun k hk => ⟨hfields k hk, fun heq => hnew (heq ▸ hk)⟩⟩

lemma validateFields_eq_ok {fields fields' : List (XelisDataValue × XelisDataElement)} :
    validateFields fields = .ok fields' ↔ fields.length ≤ collectionLimit ∧
      (fields.map Prod.fst).Nodup ∧ fields = fields' := by
  simp only [validateFields, ensureLimit, bind_eq_ok, ensure_eq_ok, addKeys_eq_ok, exists_const,
    pure_eq_ok, List.not_mem_nil, not_false_eq_true, implies_true, and_true]

lemma toLower_hexDigit : ∀ c ∈ "0123456789abcdefABCDEF".toList,
    c.toLower ∈ "0123456789abcdef".toList := by
  rw [← List.forall_iff_forall_mem]
  decide

lemma hexDigit_toLower : ∀ c ∈ "0123456789abcdef".toList,
    c.toLower = c ∧ c ∈ "0123456789abcdefABCDEF".toList := by
  rw [← List.forall_iff_forall_mem]
  decide

lemma toList_toLower (s : String) : s.toLower.toList = s.toList.map Char.toLower := by
  simp [String.toLower]

lemma normalizeHash_of_isHex {hex : String} (h : JsonText.IsHex 64 hex) :
    normalizeHash hex = .ok hex := by
  obtain ⟨hlen, hdigits⟩ := h
  simp only [normalizeHash, bind_eq_ok, ensure_eq_ok, exists_const, pure_eq_ok]
  refine ⟨⟨hlen, fun c hc => (hexDigit_toLower c (hdigits c hc)).2⟩, ?_⟩
  rw [← String.toList_inj, toList_toLower]
  rw [List.map_congr_left fun c hc => (hexDigit_toLower c (hdigits c hc)).1, List.map_id']

lemma isHex_of_normalizeHash {source hex : String} (h : normalizeHash source = .ok hex) :
    JsonText.IsHex 64 hex := by
  simp only [normalizeHash, bind_eq_ok, ensure_eq_ok, exists_const, pure_eq_ok] at h
  obtain ⟨⟨hlen, hdigits⟩, rfl⟩ := h
  rw [JsonText.IsHex, toList_toLower, List.length_map]
  refine ⟨hlen, fun c hc => ?_⟩
  obtain ⟨d, hd, rfl⟩ := List.mem_map.mp hc
  exact toLower_hexDigit d (hdigits d hd)

/-! ### Values -/

/-- `BigInt.parse` reads what is printed in base 10. -/
def ParsesDecimal (bigIntParse : String → Option ℤ) : Prop :=
  ∀ n : ℕ, bigIntParse (toString n) = some n

lemma toNat_ofInt {byte : ℤ} (h : 0 ≤ byte ∧ byte ≤ 255) :
    ((UInt8.ofInt byte).toNat : ℤ) = byte := by
  rw [UInt8.ofInt, UInt8.toNat_ofNat']
  omega

lemma ofInt_toNat (byte : UInt8) : UInt8.ofInt byte.toNat = byte := by
  have h : ((UInt8.ofInt byte.toNat).toNat : ℤ) = byte.toNat :=
    toNat_ofInt (by have := byte.toNat_lt; omega)
  exact UInt8.toNat_inj.mp (by exact_mod_cast h)

section Values

variable {bigIntParse : String → Option ℤ} {v : XelisDataValue} {d : DataValue}

lemma xelisDataValueFromGenerated_generated (hparse : ParsesDecimal bigIntParse)
    (h : v.Constructed) :
    xelisDataValueFromGenerated bigIntParse (generatedDataValueFromXelis v) = .ok v := by
  cases v with
  | boolean | string => rfl
  | unsigned type value =>
    obtain ⟨⟨hpos, hmax⟩, -⟩ := validateUnsigned_eq_ok.mp h
    obtain ⟨n, rfl⟩ := Int.eq_ofNat_of_zero_le hpos
    have htype : xelisUnsignedIntegerTypeFromGenerated
        (generatedUnsignedIntegerTypeFromXelis type) = type := by cases type <;> rfl
    simp only [generatedDataValueFromXelis, xelisDataValueFromGenerated, htype, bind_eq_ok,
      context_eq_ok, validateUnsigned_eq_ok, pure_eq_ok]
    exact ⟨n, hparse n, n, ⟨⟨hpos, hmax⟩, rfl⟩, rfl⟩
  | hash hex =>
    obtain ⟨source, hsource⟩ := h
    simp only [generatedDataValueFromXelis, xelisDataValueFromGenerated, bind_eq_ok, pure_eq_ok]
    exact ⟨hex, normalizeHash_of_isHex (isHex_of_normalizeHash hsource), rfl⟩
  | blob bytes =>
    obtain ⟨hlen, hbytes, -⟩ := validateBlob_eq_ok.mp h
    have hback : (bytes.map UInt8.ofInt).map (fun byte => (byte.toNat : ℤ)) = bytes := by
      rw [List.map_map]
      exact (List.map_congr_left fun b hb => toNat_ofInt (hbytes b hb)).trans (List.map_id _)
    simp only [generatedDataValueFromXelis, xelisDataValueFromGenerated, hback, bind_eq_ok,
      pure_eq_ok]
    exact ⟨bytes, validateBlob_eq_ok.mpr ⟨hlen, hbytes, rfl⟩, rfl⟩

lemma exists_native_value (h : v.Constructed) :
    ∃ d, ValueFits d ∧ fromXelis d = generatedDataValueFromXelis v := by
  cases v with
  | boolean value => exact ⟨.bool value, trivial, rfl⟩
  | string value => exact ⟨.string value, trivial, rfl⟩
  | unsigned type =>
    obtain ⟨⟨hpos, hmax⟩, -⟩ := validateUnsigned_eq_ok.mp h
    obtain ⟨n, rfl⟩ := Int.eq_ofNat_of_zero_le hpos
    cases type with
    | u8 =>
      have hn : n < 2 ^ 8 := by simp only [XelisUnsignedIntegerType.maximum] at hmax; omega
      refine ⟨.u8 (.ofNat n), trivial, ?_⟩
      rw [fromXelis, UInt8.toNat_ofNat_of_lt' hn]
      rfl
    | u16 =>
      have hn : n < 2 ^ 16 := by simp only [XelisUnsignedIntegerType.maximum] at hmax; omega
      refine ⟨.u16 (.ofNat n), trivial, ?_⟩
      rw [fromXelis, UInt16.toNat_ofNat_of_lt' hn]
      rfl
    | u32 =>
      have hn : n < 2 ^ 32 := by simp only [XelisUnsignedIntegerType.maximum] at hmax; omega
      refine ⟨.u32 (.ofNat n), trivial, ?_⟩
      rw [fromXelis, UInt32.toNat_ofNat_of_lt' hn]
      rfl
    | u64 =>
      have hn : n < 2 ^ 64 := by simp only [XelisUnsignedIntegerType.maximum] at hmax; omega
      refine ⟨.u64 (.ofNat n), trivial, ?_⟩
      rw [fromXelis, UInt64.toNat_ofNat_of_lt' hn]
      rfl
    | u128 =>
      have hn : n < 2 ^ 128 := by simp only [XelisUnsignedIntegerType.maximum] at hmax; omega
      exact ⟨.u128 n, hn, rfl⟩
  | hash hex =>
    obtain ⟨source, hsource⟩ := h
    exact ⟨.hash hex, isHex_of_normalizeHash hsource, rfl⟩
  | blob bytes =>
    obtain ⟨hlen, -⟩ := validateBlob_eq_ok.mp h
    exact ⟨.blob (bytes.map UInt8.ofInt), by rwa [ValueFits, List.length_map], rfl⟩

lemma unsigned_constructed {type : XelisUnsignedIntegerType} {n : ℕ} (h : (n : ℤ) ≤ type.maximum) :
    (XelisDataValue.unsigned type n).Constructed :=
  validateUnsigned_eq_ok.mpr ⟨⟨Int.natCast_nonneg n, h⟩, rfl⟩

lemma exists_xelis_value (h : ValueFits d) :
    ∃ v : XelisDataValue, v.Constructed ∧ generatedDataValueFromXelis v = fromXelis d := by
  cases d with
  | bool value => exact ⟨.boolean value, trivial, rfl⟩
  | string value => exact ⟨.string value, trivial, rfl⟩
  | u8 value =>
    refine ⟨.unsigned .u8 value.toNat, unsigned_constructed ?_, rfl⟩
    have := value.toNat_lt
    simp only [XelisUnsignedIntegerType.maximum]
    omega
  | u16 value =>
    refine ⟨.unsigned .u16 value.toNat, unsigned_constructed ?_, rfl⟩
    have := value.toNat_lt
    simp only [XelisUnsignedIntegerType.maximum]
    omega
  | u32 value =>
    refine ⟨.unsigned .u32 value.toNat, unsigned_constructed ?_, rfl⟩
    have := value.toNat_lt
    simp only [XelisUnsignedIntegerType.maximum]
    omega
  | u64 value =>
    refine ⟨.unsigned .u64 value.toNat, unsigned_constructed ?_, rfl⟩
    have := value.toNat_lt
    simp only [XelisUnsignedIntegerType.maximum]
    omega
  | u128 value =>
    refine ⟨.unsigned .u128 value, unsigned_constructed ?_, rfl⟩
    have : value < 2 ^ 128 := h
    simp only [XelisUnsignedIntegerType.maximum]
    omega
  | hash value => exact ⟨.hash value, ⟨value, normalizeHash_of_isHex h⟩, rfl⟩
  | blob bytes =>
    refine ⟨.blob (bytes.map fun byte => (byte.toNat : ℤ)), ?_, ?_⟩
    · refine validateBlob_eq_ok.mpr ⟨by rwa [List.length_map], fun b hb => ?_, rfl⟩
      obtain ⟨byte, -, rfl⟩ := List.mem_map.mp hb
      have := byte.toNat_lt
      omega
    · rw [generatedDataValueFromXelis, fromXelis, List.map_map]
      exact congrArg _ ((List.map_congr_left fun b _ => ofInt_toNat b).trans (List.map_id _))

end Values

/-! ### Elements -/

section Lists

lemma length_generatedArray (values : List XelisDataElement) :
    (generatedArray values).length = values.length := by
  induction values with
  | nil => rfl
  | cons value values ih => simp [generatedArray, ih]

lemma length_generatedFields (fields : List (XelisDataValue × XelisDataElement)) :
    (generatedFields fields).length = fields.length := by
  induction fields with
  | nil => rfl
  | cons field fields ih =>
    obtain ⟨key, value⟩ := field
    simp [generatedFields, ih]

lemma keys_generatedFields (fields : List (XelisDataValue × XelisDataElement)) :
    (generatedFields fields).map Prod.fst =
      (fields.map Prod.fst).map generatedDataValueFromXelis := by
  induction fields with
  | nil => rfl
  | cons field fields ih =>
    obtain ⟨key, value⟩ := field
    simp [generatedFields, ih]

lemma keys_fieldsFromXelis (fields : List (DataValue × DataElement)) :
    (fieldsFromXelis fields).map Prod.fst = (fields.map Prod.fst).map fromXelis := by
  induction fields with
  | nil => rfl
  | cons field fields ih =>
    obtain ⟨key, value⟩ := field
    simp [fieldsFromXelis, ih]

lemma FieldsConstructed.keys {fields : List (XelisDataValue × XelisDataElement)}
    (h : FieldsConstructed fields) : ∀ key ∈ fields.map Prod.fst, key.Constructed := by
  induction fields with
  | nil => simp
  | cons field fields ih =>
    simp only [FieldsConstructed] at h
    exact List.forall_mem_cons.mpr ⟨h.1, ih h.2.2⟩

lemma withinLimits_keys {fields : List (DataValue × DataElement)}
    (h : FieldsWithinLimits fields) : ∀ key ∈ fields.map Prod.fst, ValueFits key := by
  induction fields with
  | nil => simp
  | cons field fields ih =>
    simp only [FieldsWithinLimits] at h
    exact List.forall_mem_cons.mpr ⟨h.1, ih h.2.2⟩

end Lists

mutual

variable {bigIntParse : String → Option ℤ}

lemma xelisDataElementFromGenerated_generated (hparse : ParsesDecimal bigIntParse)
    {element : XelisDataElement} (h : Constructed element) :
    xelisDataElementFromGenerated bigIntParse (generatedDataElementFromXelis element) =
      .ok element :=
  match element with
  | .value value => by
    rw [Constructed] at h
    simp only [generatedDataElementFromXelis, xelisDataElementFromGenerated,
      xelisDataValueFromGenerated_generated hparse h]
    rfl
  | .array values => by
    simp only [Constructed] at h
    simp only [generatedDataElementFromXelis, xelisDataElementFromGenerated,
      xelisArray_generated hparse h.2, ok_bind, h.1]
    rfl
  | .fields fields => by
    simp only [Constructed] at h
    simp only [generatedDataElementFromXelis, xelisDataElementFromGenerated,
      xelisFields_generated hparse h.2, ok_bind, h.1]
    rfl

lemma xelisArray_generated (hparse : ParsesDecimal bigIntParse) {values : List XelisDataElement}
    (h : ArrayConstructed values) : xelisArray bigIntParse (generatedArray values) = .ok values :=
  match values with
  | [] => rfl
  | value :: values => by
    simp only [ArrayConstructed] at h
    simp only [generatedArray, xelisArray, xelisDataElementFromGenerated_generated hparse h.1,
      xelisArray_generated hparse h.2]
    rfl

lemma xelisFields_generated (hparse : ParsesDecimal bigIntParse)
    {fields : List (XelisDataValue × XelisDataElement)} (h : FieldsConstructed fields) :
    xelisFields bigIntParse (generatedFields fields) = .ok fields :=
  match fields with
  | [] => rfl
  | (key, value) :: fields => by
    simp only [FieldsConstructed] at h
    simp only [generatedFields, xelisFields, xelisDataValueFromGenerated_generated hparse h.1,
      xelisDataElementFromGenerated_generated hparse h.2.1, xelisFields_generated hparse h.2.2]
    rfl

end

/-- A parser of decimals. -/
def parseDecimal (text : String) : Option ℤ := some (.ofNat (Nat.ofDigitChars 10 text.toList 0))

lemma parsesDecimal_parseDecimal : ParsesDecimal parseDecimal := by
  intro n
  rw [parseDecimal, Nat.toString_eq_ofList_toDigits, String.toList_ofList,
    Nat.ofDigitChars_ten_toDigits]
  rfl

lemma hashReads_ok : HashReads Except.ok := fun _ _ => rfl

section Keys

variable {fields : List (XelisDataValue × XelisDataElement)} {ds : List (DataValue × DataElement)}

lemma nodup_native_keys (h : FieldsConstructed fields) (hnodup : (fields.map Prod.fst).Nodup)
    (heq : fieldsFromXelis ds = generatedFields fields) : (ds.map Prod.fst).Nodup := by
  have hinj : ∀ v ∈ fields.map Prod.fst, ∀ w ∈ fields.map Prod.fst,
      generatedDataValueFromXelis v = generatedDataValueFromXelis w → v = w := by
    intro v hv w hw hgen
    have hback := xelisDataValueFromGenerated_generated parsesDecimal_parseDecimal (h.keys v hv)
    rw [hgen, xelisDataValueFromGenerated_generated parsesDecimal_parseDecimal (h.keys w hw)]
      at hback
    exact (Except.ok.inj hback).symm
  have hkeys := List.Nodup.map_on hinj hnodup
  rw [← keys_generatedFields, ← heq, keys_fieldsFromXelis] at hkeys
  exact hkeys.of_map

lemma nodup_xelis_keys (h : FieldsWithinLimits ds) (hnodup : (ds.map Prod.fst).Nodup)
    (heq : generatedFields fields = fieldsFromXelis ds) : (fields.map Prod.fst).Nodup := by
  have hinj : ∀ v ∈ ds.map Prod.fst, ∀ w ∈ ds.map Prod.fst, fromXelis v = fromXelis w → v = w := by
    intro v hv w hw hwire
    have hback := value_intoXelis_fromXelis hashReads_ok (withinLimits_keys h v hv)
    rw [hwire, value_intoXelis_fromXelis hashReads_ok (withinLimits_keys h w hw)] at hback
    exact (Except.ok.inj hback).symm
  have hkeys := List.Nodup.map_on hinj hnodup
  rw [← keys_fieldsFromXelis, ← heq, keys_generatedFields] at hkeys
  exact hkeys.of_map

end Keys

mutual

lemma exists_native {element : XelisDataElement} (h : Constructed element) :
    ∃ d, WithinLimits d ∧
      NativeXelisDataElement.fromXelis d = generatedDataElementFromXelis element :=
  match element with
  | .value value => by
    rw [Constructed] at h
    obtain ⟨d, hd, heq⟩ := exists_native_value h
    exact ⟨.value d, by rwa [WithinLimits], by
      rw [NativeXelisDataElement.fromXelis, heq, generatedDataElementFromXelis]⟩
  | .array values => by
    simp only [Constructed] at h
    obtain ⟨ds, hds, heq⟩ := exists_native_array h.2
    have hlen : ds.length = values.length := by
      rw [← length_arrayFromXelis, heq, length_generatedArray]
    refine ⟨.array ds, ?_, ?_⟩
    · simp only [WithinLimits, hlen]
      exact ⟨(validateCollection_eq_ok.mp h.1).1, hds⟩
    · rw [NativeXelisDataElement.fromXelis, heq, generatedDataElementFromXelis]
  | .fields fields => by
    simp only [Constructed] at h
    obtain ⟨ds, hds, heq⟩ := exists_native_fields h.2
    have hlen : ds.length = fields.length := by
      rw [← length_fieldsFromXelis, heq, length_generatedFields]
    obtain ⟨hlimit, hnodup, -⟩ := validateFields_eq_ok.mp h.1
    refine ⟨.fields ds, ?_, ?_⟩
    · simp only [WithinLimits, hlen]
      exact ⟨hlimit, nodup_native_keys h.2 hnodup heq, hds⟩
    · rw [NativeXelisDataElement.fromXelis, heq, generatedDataElementFromXelis]

lemma exists_native_array {values : List XelisDataElement} (h : ArrayConstructed values) :
    ∃ ds, ArrayWithinLimits ds ∧ arrayFromXelis ds = generatedArray values :=
  match values with
  | [] => ⟨[], by simp [ArrayWithinLimits], rfl⟩
  | value :: values => by
    simp only [ArrayConstructed] at h
    obtain ⟨d, hd, heq⟩ := exists_native h.1
    obtain ⟨ds, hds, heqs⟩ := exists_native_array h.2
    exact ⟨d :: ds, by simp only [ArrayWithinLimits]; exact ⟨hd, hds⟩, by
      rw [arrayFromXelis, heq, heqs, generatedArray]⟩

lemma exists_native_fields {fields : List (XelisDataValue × XelisDataElement)}
    (h : FieldsConstructed fields) :
    ∃ ds, FieldsWithinLimits ds ∧ fieldsFromXelis ds = generatedFields fields :=
  match fields with
  | [] => ⟨[], by simp [FieldsWithinLimits], rfl⟩
  | (key, value) :: fields => by
    simp only [FieldsConstructed] at h
    obtain ⟨k, hk, heqk⟩ := exists_native_value h.1
    obtain ⟨d, hd, heq⟩ := exists_native h.2.1
    obtain ⟨ds, hds, heqs⟩ := exists_native_fields h.2.2
    exact ⟨(k, d) :: ds, by simp only [FieldsWithinLimits]; exact ⟨hk, hd, hds⟩, by
      rw [fieldsFromXelis, heqk, heq, heqs, generatedFields]⟩

end

mutual

lemma exists_xelis {element : DataElement} (h : WithinLimits element) :
    ∃ e, Constructed e ∧
      generatedDataElementFromXelis e = NativeXelisDataElement.fromXelis element :=
  match element with
  | .value value => by
    rw [WithinLimits] at h
    obtain ⟨v, hv, heq⟩ := exists_xelis_value h
    exact ⟨.value v, by rwa [Constructed], by
      rw [generatedDataElementFromXelis, heq, NativeXelisDataElement.fromXelis]⟩
  | .array values => by
    simp only [WithinLimits] at h
    obtain ⟨es, hes, heq⟩ := exists_xelis_array h.2
    have hlen : es.length = values.length := by
      rw [← length_generatedArray, heq, length_arrayFromXelis]
    refine ⟨.array es, ?_, ?_⟩
    · simp only [Constructed, validateCollection_eq_ok, hlen]
      exact ⟨⟨h.1, trivial⟩, hes⟩
    · rw [generatedDataElementFromXelis, heq, NativeXelisDataElement.fromXelis]
  | .fields fields => by
    simp only [WithinLimits] at h
    obtain ⟨es, hes, heq⟩ := exists_xelis_fields h.2.2
    have hlen : es.length = fields.length := by
      rw [← length_generatedFields, heq, length_fieldsFromXelis]
    refine ⟨.fields es, ?_, ?_⟩
    · simp only [Constructed, validateFields_eq_ok, hlen]
      exact ⟨⟨h.1, nodup_xelis_keys h.2.2 h.2.1 heq, trivial⟩, hes⟩
    · rw [generatedDataElementFromXelis, heq, NativeXelisDataElement.fromXelis]

lemma exists_xelis_array {values : List DataElement} (h : ArrayWithinLimits values) :
    ∃ es, ArrayConstructed es ∧ generatedArray es = arrayFromXelis values :=
  match values with
  | [] => ⟨[], by simp [ArrayConstructed], rfl⟩
  | value :: values => by
    simp only [ArrayWithinLimits] at h
    obtain ⟨e, he, heq⟩ := exists_xelis h.1
    obtain ⟨es, hes, heqs⟩ := exists_xelis_array h.2
    exact ⟨e :: es, by simp only [ArrayConstructed]; exact ⟨he, hes⟩, by
      rw [generatedArray, heq, heqs, arrayFromXelis]⟩

lemma exists_xelis_fields {fields : List (DataValue × DataElement)}
    (h : FieldsWithinLimits fields) :
    ∃ es, FieldsConstructed es ∧ generatedFields es = fieldsFromXelis fields :=
  match fields with
  | [] => ⟨[], by simp [FieldsConstructed], rfl⟩
  | (key, value) :: fields => by
    simp only [FieldsWithinLimits] at h
    obtain ⟨k, hk, heqk⟩ := exists_xelis_value h.1
    obtain ⟨e, he, heq⟩ := exists_xelis h.2.1
    obtain ⟨es, hes, heqs⟩ := exists_xelis_fields h.2.2
    exact ⟨(k, e) :: es, by simp only [FieldsConstructed]; exact ⟨hk, he, hes⟩, by
      rw [generatedFields, heqk, heq, heqs, fieldsFromXelis]⟩

end

/-- **The wire loses nothing.** What a caller constructs is accepted at the native side, which sends
it back as it was; what the native side holds within the limits of the protocol is accepted by the
package and read back as it was, with its widths and the order of its fields. -/
theorem wire_is_lossless {hashFromStr : String → Except String String}
    {bigIntParse : String → Option ℤ} (hhash : HashReads hashFromStr)
    (hparse : ParsesDecimal bigIntParse) :
    (∀ e, Constructed e → ∃ d,
      (generatedDataElementFromXelis e).intoXelis hashFromStr = .ok d ∧
      xelisDataElementFromGenerated bigIntParse (.fromXelis d) = .ok e) ∧
    ∀ d, WithinLimits d →
      (NativeXelisDataElement.fromXelis d).intoXelis hashFromStr = .ok d ∧
      ∃ e, Constructed e ∧ xelisDataElementFromGenerated bigIntParse (.fromXelis d) = .ok e := by
  constructor
  · intro e he
    obtain ⟨d, hd, heq⟩ := exists_native he
    refine ⟨d, ?_, ?_⟩
    · rw [← heq]
      exact intoXelis_fromXelis hhash hd
    · rw [heq]
      exact xelisDataElementFromGenerated_generated hparse he
  · intro d hd
    obtain ⟨e, he, heq⟩ := exists_xelis hd
    refine ⟨intoXelis_fromXelis hhash hd, e, he, ?_⟩
    rw [← heq]
    exact xelisDataElementFromGenerated_generated hparse he

/-- Fields whose keys are one number in two widths, with an empty array below. -/
def twoWidths : XelisDataElement :=
  .fields [(.unsigned .u8 1, .array []), (.unsigned .u16 1, .value (.blob [0, 255]))]

theorem twoWidths_round_trip : ∃ d,
    (generatedDataElementFromXelis twoWidths).intoXelis .ok = .ok d ∧
    xelisDataElementFromGenerated parseDecimal (.fromXelis d) = .ok twoWidths :=
  (wire_is_lossless hashReads_ok parsesDecimal_parseDecimal).1 _ (by
    simp only [twoWidths, Constructed, FieldsConstructed, ArrayConstructed]
    exact ⟨rfl, rfl, ⟨rfl, trivial⟩, rfl, rfl, trivial⟩)

end XelisWallet.DartData
