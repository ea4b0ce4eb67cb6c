import XelisWallet.Json

/-!
The native side of an XSWD payload: the limits of a projection and the flat stream of tokens
it writes while it counts tokens and bytes of text.
-/

namespace XelisWallet.Payload

open Checked Json

/-- The size of `usize`, which is at least 32 bits wide. -/
structure Platform where
  usizeMax : ℕ
  wide : 2 ^ 32 - 1 ≤ usizeMax

structure ProjectionLimits where
  maxDepth : ℕ
  maxTokens : ℕ
  maxContainerMembers : ℕ
  maxTextBytes : ℕ
  maxTotalTextBytes : ℕ
  deriving DecidableEq, Repr

inductive ProjectionLimitsError
  | depth
  | tokens
  | containerMembers
  | textBytes
  | totalTextBytes
  deriving DecidableEq, Repr

def ProjectionLimitsError.code : ProjectionLimitsError → String
  | .depth => "XSWD_LIMIT_MAX_DEPTH_INVALID"
  | .tokens => "XSWD_LIMIT_MAX_TOKENS_INVALID"
  | .containerMembers => "XSWD_LIMIT_MAX_CONTAINER_MEMBERS_INVALID"
  | .textBytes => "XSWD_LIMIT_MAX_TEXT_BYTES_INVALID"
  | .totalTextBytes => "XSWD_LIMIT_MAX_TOTAL_TEXT_BYTES_INVALID"

namespace ProjectionLimits

def default : ProjectionLimits := ⟨64, 65536, 4096, 4 * 1024 * 1024, 8 * 1024 * 1024⟩

/-- The largest limits that are accepted. -/
def technicalMax : ProjectionLimits := ⟨128, 262144, 65536, 8 * 1024 * 1024, 16 * 1024 * 1024⟩

def validate (l : ProjectionLimits) : Except ProjectionLimitsError ProjectionLimits :=
  if l.maxDepth = 0 ∨ l.maxDepth > technicalMax.maxDepth then .error .depth
  else if l.maxTokens = 0 ∨ l.maxTokens > technicalMax.maxTokens then .error .tokens
  else if l.maxContainerMembers = 0 ∨
      l.maxContainerMembers > technicalMax.maxContainerMembers then .error .containerMembers
  else if l.maxTextBytes = 0 ∨ l.maxTextBytes > technicalMax.maxTextBytes then .error .textBytes
  else if l.maxTotalTextBytes = 0 ∨ l.maxTotalTextBytes > technicalMax.maxTotalTextBytes ∨
      l.maxTotalTextBytes < l.maxTextBytes then .error .totalTextBytes
  else .ok l

lemma le_technicalMax_of_validate {l l' : ProjectionLimits} (h : l.validate = .ok l') :
    l' = l ∧ 0 < l.maxTokens ∧ l.maxContainerMembers ≤ technicalMax.maxContainerMembers ∧
      l.maxTotalTextBytes ≤ technicalMax.maxTotalTextBytes := by
  unfold validate at h
  split_ifs at h
  cases h
  refine ⟨rfl, ?_, ?_, ?_⟩ <;> omega

example : default.validate = .ok default := by decide

end ProjectionLimits

inductive TokenKind
  | null
  | bool
  | stringValue
  | integer
  | float
  | arrayStart
  | objectStart
  | objectKey
  deriving DecidableEq, Repr

/-- `NativeXswdPayloadToken`. -/
structure Token (F : Type) where
  kind : TokenKind
  boolValue : Option Bool
  textValue : Option String
  floatValue : Option F
  length : Option ℕ
  deriving DecidableEq, Repr

namespace Token

variable {F : Type}

def withKind (kind : TokenKind) : Token F := ⟨kind, none, none, none, none⟩

def null : Token F := withKind .null

def bool (b : Bool) : Token F := { withKind .bool with boolValue := some b }

def string (s : String) : Token F := { withKind .stringValue with textValue := some s }

def integer (decimal : String) : Token F := { withKind .integer with textValue := some decimal }

def float (x : F) : Token F := { (withKind .float : Token F) with floatValue := some x }

def arrayStart (length : ℕ) : Token F := { withKind .arrayStart with length := some length }

def objectStart (length : ℕ) : Token F := { withKind .objectStart with length := some length }

def objectKey (key : String) : Token F := { withKind .objectKey with textValue := some key }

end Token

inductive PayloadProjectionError
  | serialization
  | rootNotObject
  | depthLimit
  | tokenLimit
  | containerLimit
  | textLimit
  | totalTextLimit
  | unsupportedNumber
  deriving DecidableEq, Repr

def PayloadProjectionError.code : PayloadProjectionError → String
  | .serialization => "serialization"
  | .rootNotObject => "root_not_object"
  | .depthLimit => "depth_limit"
  | .tokenLimit => "token_limit"
  | .containerLimit => "container_limit"
  | .textLimit => "text_limit"
  | .totalTextLimit => "total_text_limit"
  | .unsupportedNumber => "unsupported_number"

/-- `PayloadProjection`, without the limits it was made with. -/
structure Projection (F : Type) where
  tokens : List (Token F)
  totalTextBytes : ℕ

variable {F : Type} [Double F] (P : Platform) (L : ProjectionLimits)

/-- `as u32`. -/
def asU32 (n : ℕ) : ℕ := n % 2 ^ 32

def checkDepth (depth : ℕ) (p : Projection F) : Except PayloadProjectionError (Projection F) :=
  if depth > L.maxDepth then .error .depthLimit else .ok p

def push (token : Token F) (p : Projection F) : Except PayloadProjectionError (Projection F) :=
  if p.tokens.length ≥ L.maxTokens then .error .tokenLimit
  else .ok { p with tokens := p.tokens ++ [token] }

def validateContainerLength (length : ℕ) (p : Projection F) :
    Except PayloadProjectionError (Projection F) :=
  if length > L.maxContainerMembers then .error .containerLimit else .ok p

def addText (s : String) (p : Projection F) : Except PayloadProjectionError (Projection F) :=
  if s.utf8ByteSize > L.maxTextBytes then .error .textLimit
  else
    match checkedAdd P.usizeMax p.totalTextBytes s.utf8ByteSize with
    | none => .error .totalTextLimit
    | some total =>
      if total > L.maxTotalTextBytes then .error .totalTextLimit
      else .ok { p with totalTextBytes := total }

def projectNumber (n : Number F) (p : Projection F) :
    Except PayloadProjectionError (Projection F) :=
  match n.asI64 with
  | some i => push L (.integer (toString i)) p
  | none =>
    match n.asU64 with
    | some u => push L (.integer (toString u)) p
    | none =>
      match n.asF64 with
      | some x => push L (.float x) p
      | none => .error .unsupportedNumber

mutual

def projectValue : Value F → ℕ → Projection F → Except PayloadProjectionError (Projection F)
  | .null, depth, p => do
      let p ← checkDepth L depth p
      push L .null p
  | .bool b, depth, p => do
      let p ← checkDepth L depth p
      push L (.bool b) p
  | .string s, depth, p => do
      let p ← checkDepth L depth p
      let p ← addText P L s p
      push L (.string s) p
  | .number n, depth, p => do
      let p ← checkDepth L depth p
      projectNumber L n p
  | .array values, depth, p => do
      let p ← checkDepth L depth p
      let p ← validateContainerLength L values.length p
      let p ← push L (.arrayStart (asU32 values.length)) p
      projectArray values (depth + 1) p
  | .object fields, depth, p => do
      let p ← checkDepth L depth p
      let p ← validateContainerLength L fields.length p
      let p ← push L (.objectStart (asU32 fields.length)) p
      projectFields fields (depth + 1) p

def projectArray : List (Value F) → ℕ → Projection F →
    Except PayloadProjectionError (Projection F)
  | [], _, p => .ok p
  | value :: values, depth, p => do
      let p ← projectValue value depth p
      projectArray values depth p

def projectFields : List (String × Value F) → ℕ → Projection F →
    Except PayloadProjectionError (Projection F)
  | [], _, p => .ok p
  | (key, value) :: fields, depth, p => do
      let p ← addText P L key p
      let p ← push L (.objectKey key) p
      let p ← projectValue value depth p
      projectFields fields depth p

end

/-- `NativeXswdPayload::project` of what the request serializes to, if it does. -/
def project (value : Option (Value F)) : Except PayloadProjectionError (List (Token F)) :=
  match value with
  | none => .error .serialization
  | some value =>
    if value.isObject then do
      let p ← projectValue P L value 1 ⟨[], 0⟩
      return p.tokens
    else .error .rootNotObject

end XelisWallet.Payload
