import XelisWallet.Cursors
import XelisWallet.Fallible
import XelisWallet.Payload
import XelisWallet.Text

/-!
The Dart side of an XSWD payload: the decoder that reads the value back from the tokens and
checks the same limits on its own.

`_XswdPayloadDecoder` has the tokens, an index into them and the number of bytes of text it has
seen; a method that throws leaves them as they are by then. The tokens are those of the generated
class, whose lengths are any integers, and so are the limits.
-/

namespace XelisWallet.PayloadDecoder

open Fallible Json Payload Cursors Cursors.Method

/-- The `StateError`s of the decoder. -/
inductive DecodeError
  | root
  | tokenCount
  | trailing
  | depth
  | unexpectedKey
  | missingKey
  | duplicateKey
  | truncated
  | tokenFields
  | containerLength
  | textLength
  | totalTextLength
  | integer
  | nonCanonicalInteger
  | float
  deriving DecidableEq, Repr

def DecodeError.message : DecodeError → String
  | .root => "Invalid XSWD payload root."
  | .tokenCount => "Invalid XSWD payload token count."
  | .trailing => "Invalid trailing XSWD payload tokens."
  | .depth => "Invalid XSWD payload depth."
  | .unexpectedKey => "Unexpected XSWD payload object key."
  | .missingKey => "Missing XSWD payload object key."
  | .duplicateKey => "Duplicate XSWD payload object key."
  | .truncated => "Truncated XSWD payload token stream."
  | .tokenFields => "Invalid XSWD payload token fields."
  | .containerLength => "Invalid XSWD payload container length."
  | .textLength => "Invalid XSWD payload text length."
  | .totalTextLength => "Invalid XSWD payload total text length."
  | .integer => "Invalid XSWD payload integer."
  | .nonCanonicalInteger => "Non-canonical XSWD payload integer."
  | .float => "Invalid XSWD payload floating-point value."

/-- The class that is generated for `NativeXswdPayloadToken`. -/
structure NativeXswdPayloadToken (F : Type) where
  kind : TokenKind
  boolValue : Option Bool
  textValue : Option String
  floatValue : Option F
  length : Option ℤ
  deriving DecidableEq, Repr

structure XelisXswdProjectionLimits where
  maxDepth : ℤ
  maxTokens : ℤ
  maxContainerMembers : ℤ
  maxTextBytes : ℤ
  maxTotalTextBytes : ℤ
  deriving DecidableEq, Repr

/-- What the bridge makes of a native token. -/
def ofNative {F : Type} (token : Token F) : NativeXswdPayloadToken F :=
  ⟨token.kind, token.boolValue, token.textValue, token.floatValue, token.length.map Int.ofNat⟩

/-- The limits that the two sides share. -/
def limitsOfNative (L : ProjectionLimits) : XelisXswdProjectionLimits :=
  ⟨L.maxDepth, L.maxTokens, L.maxContainerMembers, L.maxTextBytes, L.maxTotalTextBytes⟩

/-! ### Integers -/

/-- A non-empty run of digits of a base, as a number. -/
def parseDigits (base : ℕ) (isDigit : Char → Bool) (cs : List Char) : Option ℕ :=
  if cs ≠ [] ∧ cs.all isDigit then some (Nat.ofDigitChars base cs 0) else none

/-- The digits of `BigInt.parse` after the sign: hexadecimal after `0x`, else decimal. -/
def parseMagnitude : List Char → Option ℕ
  | '0' :: 'x' :: cs => parseDigits 16 isHexDigit cs
  | '0' :: 'X' :: cs => parseDigits 16 isHexDigit cs
  | cs => parseDigits 10 Char.isDigit cs
where
  isHexDigit (c : Char) : Bool :=
    c.isDigit || ('a' ≤ c && c ≤ 'f') || ('A' ≤ c && c ≤ 'F')

/-- What `\s` matches. -/
def isSpace (c : Char) : Bool :=
  c.toNat == 0xFEFF || (Text.isWhitespace c && c.toNat != 0x85)

/-- `BigInt.parse`: white space around an optional sign and the digits. -/
def parseBigInt (s : String) : Option ℤ :=
  let cs := s.toList.dropWhile isSpace
  let cs := (cs.reverse.dropWhile isSpace).reverse
  match cs with
  | '-' :: cs => (parseMagnitude cs).map fun n => -(n : ℤ)
  | '+' :: cs => (parseMagnitude cs).map fun n => (n : ℤ)
  | cs => (parseMagnitude cs).map fun n => (n : ℤ)

def parseCanonicalInteger (s : String) : Except DecodeError ℤ :=
  match parseBigInt s with
  | none => .error .integer
  | some n => if toString n ≠ s then .error .nonCanonicalInteger else .ok n

/-! ### Tokens -/

variable {F : Type} (L : XelisXswdProjectionLimits)

def validateTokenFields (token : NativeXswdPayloadToken F)
    (hasBool hasText hasFloat hasLength : Bool) : Except DecodeError Unit :=
  if token.boolValue.isSome ≠ hasBool ∨ token.textValue.isSome ≠ hasText ∨
      token.floatValue.isSome ≠ hasFloat ∨ token.length.isSome ≠ hasLength then
    .error .tokenFields
  else .ok ()

/-- The `!` operator on a field that was checked to be there. -/
def unwrap {α : Type} : Option α → Except DecodeError α
  | none => .error .tokenFields
  | some a => .ok a

def readNull (token : NativeXswdPayloadToken F) : Except DecodeError (XswdValue F) := do
  validateTokenFields token false false false false
  return .null

def readBool (token : NativeXswdPayloadToken F) : Except DecodeError (XswdValue F) := do
  validateTokenFields token true false false false
  return .bool (← unwrap token.boolValue)

/-- The text of a string, an integer or a key. -/
def readText (token : NativeXswdPayloadToken F) : Except DecodeError String := do
  validateTokenFields token false true false false
  unwrap token.textValue

def readInteger (token : NativeXswdPayloadToken F) : Except DecodeError (XswdValue F) := do
  return .integer (← parseCanonicalInteger (← readText token))

def readFloat [Double F] (token : NativeXswdPayloadToken F) :
    Except DecodeError (XswdValue F) := do
  validateTokenFields token false false true false
  let value ← unwrap token.floatValue
  ensure (Double.isFinite value) .float
  return .float value

def readLength (token : NativeXswdPayloadToken F) : Except DecodeError ℤ := do
  validateTokenFields token false false false true
  unwrap token.length

def validateContainerLength (length : ℤ) : Except DecodeError Unit :=
  if length < 0 ∨ length > L.maxContainerMembers then .error .containerLength else .ok ()

/-! ### Values -/

/-- A method of a decoder; the state beside the cursor is `_totalTextBytes`. -/
abbrev Decoding (tokens : List (NativeXswdPayloadToken F)) (α : Type) :=
  Method DecodeError tokens ℕ α

variable {tokens : List (NativeXswdPayloadToken F)}

def addText (value : String) : Decoding tokens Unit :=
  update fun totalTextBytes =>
    if value.utf8ByteSize > L.maxTextBytes then (.error .textLength, totalTextBytes)
    else
      let totalTextBytes := totalTextBytes + value.utf8ByteSize
      if totalTextBytes > L.maxTotalTextBytes then (.error .totalTextLength, totalTextBytes)
      else (.ok (), totalTextBytes)

def readString (token : NativeXswdPayloadToken F) : Decoding tokens (XswdValue F) := do
  let value ← lift (readText token)
  addText L value
  return .string value

/-- `_readArray`, with the `_readValue` of the depth below. -/
def readArray (readValue : Decoding tokens (XswdValue F)) (length : ℤ) :
    Decoding tokens (XswdValue F) := do
  lift (validateContainerLength L length)
  return .array (← collect (fun _ => readValue) length.toNat [])

/-- One round of the loop of `_readObject`, with the fields read so far. -/
def readField (readValue : Decoding tokens (XswdValue F)) (fields : List (String × XswdValue F)) :
    Decoding tokens (String × XswdValue F) := do
  let keyToken ← take .truncated
  lift (ensure (keyToken.kind = .objectKey) .missingKey)
  let key ← lift (readText keyToken)
  addText L key
  lift (ensure (key ∉ fields.map (·.1)) .duplicateKey)
  return (key, ← readValue)

def readObject (readValue : Decoding tokens (XswdValue F)) (length : ℤ) :
    Decoding tokens (XswdValue F) := do
  lift (validateContainerLength L length)
  return .object (← collect (readField L readValue) length.toNat [])

/-- What `_readValue` does with the token it has taken. -/
def readToken [Double F] (readValue : Decoding tokens (XswdValue F))
    (token : NativeXswdPayloadToken F) : Decoding tokens (XswdValue F) :=
  match token.kind with
  | .null => lift (readNull token)
  | .bool => lift (readBool token)
  | .stringValue => readString L token
  | .integer => lift (readInteger token)
  | .float => lift (readFloat token)
  | .arrayStart => do readArray L readValue (← lift (readLength token))
  | .objectStart => do readObject L readValue (← lift (readLength token))
  | .objectKey => lift (.error .unexpectedKey)

/-- `_readValue` at depth `maxDepth + 1 - remaining`, which is over the limit at `0`. -/
def readValue [Double F] : (remaining : ℕ) → Decoding tokens (XswdValue F)
  | 0 => lift (.error .depth)
  | remaining + 1 => do readToken L (readValue remaining) (← take .truncated)

/-- `decode` of a new decoder, from depth 1, with the decoder as it is left. -/
def decode [Double F] (tokens : List (NativeXswdPayloadToken F)) :
    Except DecodeError (XswdValue F) × Cursor tokens ℕ :=
  if tokens.isEmpty ∨ tokens.length > L.maxTokens then (.error .tokenCount, .start tokens 0)
  else
    match readValue L L.maxDepth.toNat (.start tokens 0) with
    | (.error e, c) => (.error e, c)
    | (.ok value, c) => if c.index ≠ tokens.length then (.error .trailing, c) else (.ok value, c)

/-- `_xswdPayloadFromGenerated`, with the decoder as it is left. -/
def xswdPayloadFromGenerated [Double F] (tokens : List (NativeXswdPayloadToken F)) :
    Except DecodeError (XswdValue F) × Cursor tokens ℕ :=
  match decode L tokens with
  | (.ok (.object fields), c) => (.ok (.object fields), c)
  | (.ok _, c) => (.error .root, c)
  | (.error e, c) => (.error e, c)

/-- What comes of the tokens of a projection, under the limits it was made with. -/
def payloadFromGenerated [Double F] (L : ProjectionLimits) (tokens : List (Token F)) :
    Except DecodeError (XswdValue F) :=
  (xswdPayloadFromGenerated (limitsOfNative L) (tokens.map ofNative)).1

end XelisWallet.PayloadDecoder
