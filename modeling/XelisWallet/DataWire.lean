import XelisWallet.AddressBook

/-!
The typed wire of data elements (`models/address_dtos.rs`).

An element is sent with the width of each integer and the order of its fields. It is read back with
the limits of the protocol, and within them it comes back as it was.
-/

namespace XelisWallet.DataWire

open Fallible AddressBook

inductive NativeXelisUnsignedIntegerType
  | u8
  | u16
  | u32
  | u64
  | u128
  deriving DecidableEq

inductive NativeXelisDataValue
  | boolValue (value : Bool)
  | stringValue (value : String)
  | unsignedInteger (integerType : NativeXelisUnsignedIntegerType) (decimalValue : String)
  | hashValue (hexValue : String)
  | blobValue (bytes : List UInt8)
  deriving DecidableEq

/-- A field is the pair of its key and its value. -/
inductive NativeXelisDataElement
  | value (value : NativeXelisDataValue)
  | array (values : List NativeXelisDataElement)
  | fields (fields : List (NativeXelisDataValue × NativeXelisDataElement))

def dataElementCollectionLimit : ℕ := 255

def dataElementBlobLimit : ℕ := 65535

/-! ### Sending -/

/-- The hash of a data value is its own hexadecimal text. -/
def NativeXelisDataValue.fromXelis : DataValue → NativeXelisDataValue
  | .bool value => .boolValue value
  | .string value => .stringValue value
  | .u8 value => .unsignedInteger .u8 (toString value.toNat)
  | .u16 value => .unsignedInteger .u16 (toString value.toNat)
  | .u32 value => .unsignedInteger .u32 (toString value.toNat)
  | .u64 value => .unsignedInteger .u64 (toString value.toNat)
  | .u128 value => .unsignedInteger .u128 (toString value)
  | .hash value => .hashValue value
  | .blob bytes => .blobValue bytes

mutual

def NativeXelisDataElement.fromXelis : DataElement → NativeXelisDataElement
  | .value value => .value (.fromXelis value)
  | .array values => .array (arrayFromXelis values)
  | .fields fields => .fields (fieldsFromXelis fields)

def arrayFromXelis : List DataElement → List NativeXelisDataElement
  | [] => []
  | value :: values => .fromXelis value :: arrayFromXelis values

def fieldsFromXelis :
    List (DataValue × DataElement) → List (NativeXelisDataValue × NativeXelisDataElement)
  | [] => []
  | (key, value) :: fields => (.fromXelis key, .fromXelis value) :: fieldsFromXelis fields

end

/-! ### Reading back -/

/-- The kind and the message of an error; its code is that of an invalid input. -/
abbrev WireError := String × String

def ensureCollectionLimit (length : ℕ) (collection : String) : Except WireError Unit :=
  ensure (length ≤ dataElementCollectionLimit)
    ("DATA_ELEMENT_COLLECTION_TOO_LARGE",
      "Data-element " ++ collection ++ " contains " ++ toString length ++
        " entries; the protocol limit is " ++ toString dataElementCollectionLimit)

/-- `str::parse` of an unsigned integer: digits after an optional plus sign. -/
def parseInteger (max : ℕ) (text : String) : Option ℕ :=
  let digits := match text.toList with
    | '+' :: cs => cs
    | cs => cs
  if digits ≠ [] ∧ digits.all Char.isDigit ∧ Nat.ofDigitChars 10 digits 0 ≤ max then
    some (Nat.ofDigitChars 10 digits 0)
  else none

/-- The inner `parse` of `parse_unsigned`, for integers up to `max`. -/
def parseCanonical (max : ℕ) (decimalValue : String) : Except WireError ℕ := do
  let value ← context (parseInteger max decimalValue)
    ("DATA_ELEMENT_UNSIGNED_INVALID",
      "Data-element unsigned integer is invalid or outside its declared width")
  ensure (toString value = decimalValue)
    ("DATA_ELEMENT_UNSIGNED_NON_CANONICAL",
      "Data-element unsigned integer must use canonical base-10 notation")
  return value

def parseUnsigned (integerType : NativeXelisUnsignedIntegerType) (decimalValue : String) :
    Except WireError DataValue :=
  match integerType with
  | .u8 => return .u8 (.ofNat (← parseCanonical (2 ^ 8 - 1) decimalValue))
  | .u16 => return .u16 (.ofNat (← parseCanonical (2 ^ 16 - 1) decimalValue))
  | .u32 => return .u32 (.ofNat (← parseCanonical (2 ^ 32 - 1) decimalValue))
  | .u64 => return .u64 (.ofNat (← parseCanonical (2 ^ 64 - 1) decimalValue))
  | .u128 => return .u128 (← parseCanonical (2 ^ 128 - 1) decimalValue)

section Reading

-- `Hash::from_str`, with the text of its error
variable (hashFromStr : String → Except String String)

def NativeXelisDataValue.intoXelis : NativeXelisDataValue → Except WireError DataValue
  | .boolValue value => return .bool value
  | .stringValue value => return .string value
  | .unsignedInteger integerType decimalValue => parseUnsigned integerType decimalValue
  | .hashValue hexValue => do
    let value ← (hashFromStr hexValue).mapError fun error => ("DATA_ELEMENT_HASH_INVALID", error)
    return .hash value
  | .blobValue bytes => do
    ensure (bytes.length ≤ dataElementBlobLimit)
      ("DATA_ELEMENT_BLOB_TOO_LARGE",
        "Data-element blob contains " ++ toString bytes.length ++
          " bytes; the protocol limit is " ++ toString dataElementBlobLimit)
    return .blob bytes

mutual

def NativeXelisDataElement.intoXelis : NativeXelisDataElement → Except WireError DataElement
  | .value value => return .value (← value.intoXelis hashFromStr)
  | .array values => do
    ensureCollectionLimit values.length "array"
    return .array (← arrayIntoXelis values)
  | .fields fields => do
    ensureCollectionLimit fields.length "fields"
    return .fields (← fieldsIntoXelis fields [])

def arrayIntoXelis : List NativeXelisDataElement → Except WireError (List DataElement)
  | [] => return []
  | value :: values => do
    let value ← value.intoXelis
    return value :: (← arrayIntoXelis values)

/-- The loop over the fields, after those in `converted`. -/
def fieldsIntoXelis :
    List (NativeXelisDataValue × NativeXelisDataElement) → List (DataValue × DataElement) →
      Except WireError (List (DataValue × DataElement))
  | [], converted => return converted
  | (key, value) :: fields, converted => do
    let key ← key.intoXelis hashFromStr
    ensure (key ∉ converted.map Prod.fst)
      ("DATA_ELEMENT_FIELD_DUPLICATE", "Data-element fields contain a duplicate key")
    let value ← value.intoXelis
    fieldsIntoXelis fields (converted ++ [(key, value)])

end

end Reading

/-! ### The limits of the protocol -/

/-- A value the protocol can hold: a hash is 64 digits, and the length of a blob is a 16-bit
number. -/
def ValueFits : DataValue → Prop
  | .u128 value => value < 2 ^ 128
  | .hash value => JsonText.IsHex 64 value
  | .blob bytes => bytes.length ≤ dataElementBlobLimit
  | _ => True

mutual

/-- An element the protocol can hold: collections have at most 255 members, and the keys of fields
are different. -/
def WithinLimits : DataElement → Prop
  | .value value => ValueFits value
  | .array values => values.length ≤ dataElementCollectionLimit ∧ ArrayWithinLimits values
  | .fields fields => fields.length ≤ dataElementCollectionLimit ∧
      (fields.map Prod.fst).Nodup ∧ FieldsWithinLimits fields

def ArrayWithinLimits : List DataElement → Prop
  | [] => True
  | value :: values => WithinLimits value ∧ ArrayWithinLimits values

def FieldsWithinLimits : List (DataValue × DataElement) → Prop
  | [] => True
  | (key, value) :: fields => ValueFits key ∧ WithinLimits value ∧ FieldsWithinLimits fields

end

/-! ### The round trip -/

lemma parseInteger_toString {max n : ℕ} (h : n ≤ max) :
    parseInteger max (toString n) = some n := by
  have hlist : (toString n).toList = Nat.toDigits 10 n := by
    rw [Nat.toString_eq_ofList_toDigits, String.toList_ofList]
  have hdigits : ∀ c ∈ Nat.toDigits 10 n, c.isDigit = true :=
    fun c hc => Nat.isDigit_of_mem_toDigits (by omega) (by omega) hc
  have hstrip : (match Nat.toDigits 10 n with
      | '+' :: cs => cs
      | cs => cs) = Nat.toDigits 10 n := by
    split
    case h_1 cs heq =>
      have hplus := hdigits '+' (by simp [heq])
      exact absurd hplus (by decide)
    case h_2 => rfl
  rw [parseInteger, hlist, hstrip, Nat.ofDigitChars_ten_toDigits, if_pos]
  exact ⟨Nat.toDigits_ne_nil, List.all_eq_true.mpr hdigits, h⟩

lemma parseCanonical_toString {max n : ℕ} (h : n ≤ max) :
    parseCanonical max (toString n) = .ok n := by
  simp only [parseCanonical, bind_eq_ok, context_eq_ok, ensure_eq_ok, exists_const, pure_eq_ok]
  exact ⟨n, parseInteger_toString h, rfl, rfl⟩

lemma length_arrayFromXelis (values : List DataElement) :
    (arrayFromXelis values).length = values.length := by
  induction values with
  | nil => rfl
  | cons value values ih => simp [arrayFromXelis, ih]

lemma length_fieldsFromXelis (fields : List (DataValue × DataElement)) :
    (fieldsFromXelis fields).length = fields.length := by
  induction fields with
  | nil => rfl
  | cons field fields ih =>
    obtain ⟨key, value⟩ := field
    simp [fieldsFromXelis, ih]

/-- A hash is read back from its text. -/
def HashReads (hashFromStr : String → Except String String) : Prop :=
  ∀ h, JsonText.IsHex 64 h → hashFromStr h = .ok h

section RoundTrip

variable {hashFromStr : String → Except String String}

lemma value_intoXelis_fromXelis (hhash : HashReads hashFromStr) {value : DataValue}
    (h : ValueFits value) :
    (NativeXelisDataValue.fromXelis value).intoXelis hashFromStr = .ok value := by
  cases value with
  | bool | string => rfl
  | u8 value | u16 value | u32 value | u64 value =>
    have hle := Nat.le_sub_one_of_lt value.toNat_lt
    simp only [NativeXelisDataValue.fromXelis, NativeXelisDataValue.intoXelis, parseUnsigned,
      parseCanonical_toString hle, bind_eq_ok, pure_eq_ok, Except.ok.injEq, exists_eq_left',
      UInt8.ofNat_toNat, UInt16.ofNat_toNat, UInt32.ofNat_toNat, UInt64.ofNat_toNat]
  | u128 value =>
    have hle : value ≤ 2 ^ 128 - 1 := Nat.le_sub_one_of_lt h
    simp only [NativeXelisDataValue.fromXelis, NativeXelisDataValue.intoXelis, parseUnsigned,
      parseCanonical_toString hle]
    rfl
  | hash value =>
    simp only [NativeXelisDataValue.fromXelis, NativeXelisDataValue.intoXelis, hhash value h]
    rfl
  | blob bytes =>
    simp only [NativeXelisDataValue.fromXelis, NativeXelisDataValue.intoXelis, bind_eq_ok,
      ensure_eq_ok, exists_const, pure_eq_ok, and_true]
    exact h

mutual

/-- **The round trip** of an element within the limits of the protocol. -/
theorem intoXelis_fromXelis (hhash : HashReads hashFromStr) {element : DataElement}
    (h : WithinLimits element) :
    (NativeXelisDataElement.fromXelis element).intoXelis hashFromStr = .ok element :=
  match element with
  | .value value => by
    rw [WithinLimits] at h
    simp only [NativeXelisDataElement.fromXelis, NativeXelisDataElement.intoXelis,
      value_intoXelis_fromXelis hhash h]
    rfl
  | .array values => by
    simp only [WithinLimits] at h
    obtain ⟨hlen, hvalues⟩ := h
    simp only [NativeXelisDataElement.fromXelis, NativeXelisDataElement.intoXelis,
      ensureCollectionLimit, length_arrayFromXelis, bind_eq_ok, ensure_eq_ok, exists_const,
      pure_eq_ok]
    exact ⟨hlen, values, arrayIntoXelis_arrayFromXelis hhash hvalues, rfl⟩
  | .fields fields => by
    simp only [WithinLimits] at h
    obtain ⟨hlen, hnodup, hfields⟩ := h
    simp only [NativeXelisDataElement.fromXelis, NativeXelisDataElement.intoXelis,
      ensureCollectionLimit, length_fieldsFromXelis, bind_eq_ok, ensure_eq_ok, exists_const,
      pure_eq_ok]
    exact ⟨hlen, fields, fieldsIntoXelis_fieldsFromXelis hhash hfields hnodup, rfl⟩

lemma arrayIntoXelis_arrayFromXelis (hhash : HashReads hashFromStr) {values : List DataElement}
    (h : ArrayWithinLimits values) :
    arrayIntoXelis hashFromStr (arrayFromXelis values) = .ok values :=
  match values with
  | [] => rfl
  | value :: values => by
    simp only [ArrayWithinLimits] at h
    simp only [arrayFromXelis, arrayIntoXelis, intoXelis_fromXelis hhash h.1,
      arrayIntoXelis_arrayFromXelis hhash h.2]
    rfl

lemma fieldsIntoXelis_fieldsFromXelis (hhash : HashReads hashFromStr)
    {fields converted : List (DataValue × DataElement)} (h : FieldsWithinLimits fields)
    (hnodup : ((converted ++ fields).map Prod.fst).Nodup) :
    fieldsIntoXelis hashFromStr (fieldsFromXelis fields) converted = .ok (converted ++ fields) :=
  match fields with
  | [] => by
    rw [fieldsFromXelis, fieldsIntoXelis, List.append_nil]
    rfl
  | (key, value) :: fields => by
    simp only [FieldsWithinLimits] at h
    obtain ⟨hkey, hvalue, hfields⟩ := h
    have hnew : key ∉ converted.map Prod.fst := by
      rw [List.map_append, List.nodup_append] at hnodup
      exact fun hmem => hnodup.2.2 key hmem key (by simp) rfl
    have hsplit : converted ++ [(key, value)] ++ fields = converted ++ (key, value) :: fields := by
      simp
    simp only [fieldsFromXelis, fieldsIntoXelis, value_intoXelis_fromXelis hhash hkey,
      intoXelis_fromXelis hhash hvalue, bind_eq_ok, ensure_eq_ok, exists_const, Except.ok.injEq,
      exists_eq_left']
    refine ⟨hnew, ?_⟩
    rw [fieldsIntoXelis_fieldsFromXelis hhash hfields (hsplit ▸ hnodup), hsplit]

end

end RoundTrip

end XelisWallet.DataWire
