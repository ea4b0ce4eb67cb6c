import XelisWallet.NativeError

/-!
The classification of errors of the wallet library.

An error of an operation is an `anyhow::Error`, which hides its type. It is classified by the typed
error that is found in it: an error of a JSON-RPC call, or of the wallet, which may hold an
`anyhow::Error` again. Three policies differ in what they make of an error without a type and of
one error of the cryptography.

An `anyhow::Error` is given by its text and by what its two `downcast_ref` find, through whatever
contexts were put around the cause. The payloads that no classification reads are left out.
-/

namespace XelisWallet.ErrorClassification

open NativeError (NativeXelisErrorCode)

/-! ### The errors -/

inductive ProofGenerationError
  | insufficientFunds
  | other

inductive GenerationError
  | proof (error : ProofGenerationError)
  | other

mutual

/-- `anyhow::Error`: its text `{:#}`, and the two `downcast_ref`. -/
inductive AnyhowError
  | mk (text : String) (jsonRpc : Option JsonRPCError) (wallet : Option WalletError)

inductive JsonRPCError
  | noResponse
  | timedOut
  | httpError
  | connectionError
  | socketError
  | sendError
  | invalidBatch
  | missingResult
  | serializationError
  | eventNotRegistered
  | any (inner : AnyhowError)
  | parseError
  | invalidRequest
  | methodNotFound
  | invalidParams
  | internalError (data : Option String)
  | serverError (code : Int16) (data : Option String)

inductive WalletError
  | any (error : AnyhowError) (kind : String)
  | networkError (error : NetworkError)
  | notOnlineMode
  | noNetworkHandler
  | noAPIServer
  | rpcServerNotRunning
  | alreadyOnlineMode
  | assetAlreadyRegistered
  | rpcServerAlreadyRunning
  | txNotBuilt
  | notEnoughFunds
  | notEnoughFundsForFee
  | proofGenerationError (error : ProofGenerationError)
  | generationError (error : GenerationError)
  | assetNotTracked
  | balanceNotFound
  | databaseError
  | invalidEncryptedValue
  | noSalt
  | noMasterKeyFound
  | noPasswordSaltFound
  | invalidSaltSize
  | noSaltFound
  | noHandlerAvailable
  | unsupported
  | aeadCipherFormatError
  | decompressionError
  | invalidDatetime
  | transactionTooBig
  | invalidKeyPair
  | invalidSignature
  | expectedOneTx
  | tooManyTx
  | txOwnerIsReceiver
  | invalidAddressParams
  | extraDataTooBig
  | rescanTopoheightTooHigh
  | invalidFeeProvided
  | emptyName
  | notTransactionSigner
  | cipher
  | cryptoError
  | algorithmHashingError
  | ciphertextDecode
  | nonceGeneration
  | poisonError
  | semaphoreError

inductive NetworkError
  | alreadyRunning
  | notRunning
  | taskError
  | daemonAPIError (error : AnyhowError)
  | networkMismatch

end

/-- The names that the libraries give to their errors, and the texts. -/
structure Library where
  /-- `WalletError::kind`. -/
  kind : WalletError → String
  /-- The `&'static str` of a `JsonRPCError`. -/
  jsonRpcKind : JsonRPCError → String
  walletText : WalletError → String
  jsonRpcText : JsonRPCError → String

/-! ### Classifications -/

inductive NativeXelisErrorSource
  | xelisWalletFlutter
  | xelisWallet
  | xelisCommon
  | dependency
  | unknown
  deriving DecidableEq, Repr

structure NativeErrorClassification where
  source : NativeXelisErrorSource
  code : NativeXelisErrorCode
  nativeKind : Option String
  nativeCode : Option Int32
  deriving DecidableEq, Repr

inductive WalletOperationErrorPolicy
  | standard
  | authentication
  deriving DecidableEq, Repr

def nativeKindOption (nativeKind : String) : Option String :=
  if nativeKind ≠ "UNSPECIFIED" then some nativeKind else none

def typedClassification (source : NativeXelisErrorSource) (code : NativeXelisErrorCode)
    (nativeKind : String) : NativeErrorClassification :=
  ⟨source, code, nativeKindOption nativeKind, none⟩

def JsonRPCError.code : JsonRPCError → NativeXelisErrorCode
  | .noResponse | .timedOut | .httpError | .connectionError | .socketError | .sendError => .network
  | .invalidBatch | .missingResult | .serializationError => .serialization
  | .eventNotRegistered => .notFound
  | .any _ => .internal
  | .parseError | .invalidRequest | .methodNotFound | .invalidParams | .internalError _
  | .serverError _ _ => .remoteRejected

def JsonRPCError.nativeCode : JsonRPCError → Option Int32
  | .parseError => some (-32700)
  | .invalidRequest => some (-32600)
  | .methodNotFound => some (-32601)
  | .invalidParams => some (-32602)
  | .internalError _ => some (-32603)
  | .serverError code _ => some code.toInt32
  | _ => none

section Classify

variable (L : Library)

mutual

def classifyAnyhowErrorWithPolicy (error : AnyhowError) (policy : WalletOperationErrorPolicy) :
    Option NativeErrorClassification :=
  match error with
  | .mk _ (some jsonRpcError) _ => some (classifyJsonRpcError jsonRpcError)
  | .mk _ none (some error) => some (classifyWalletErrorWithPolicy error policy)
  | .mk _ none none => none

def classifyWalletErrorWithPolicy (error : WalletError) (policy : WalletOperationErrorPolicy) :
    NativeErrorClassification :=
  match error, policy with
  | .cryptoError, .authentication =>
    typedClassification .xelisWallet .authenticationOrCorruptData (L.kind .cryptoError)
  | .any error kind, policy =>
    (classifyAnyhowErrorWithPolicy error policy).getD
      (typedClassification .xelisWallet .internal kind)
  | error, _ => classifyWalletError error

def classifyWalletError (error : WalletError) : NativeErrorClassification :=
  let nativeKind := L.kind error
  match error with
  | .any error kind =>
    (classifyAnyhowErrorWithPolicy error .standard).getD
      (typedClassification .xelisWallet .internal kind)
  | .networkError error => classifyNetworkError error
  | .notOnlineMode | .noNetworkHandler | .noAPIServer | .rpcServerNotRunning =>
    typedClassification .xelisWallet .offline nativeKind
  | .alreadyOnlineMode | .assetAlreadyRegistered | .rpcServerAlreadyRunning | .txNotBuilt =>
    typedClassification .xelisWallet .conflict nativeKind
  | .notEnoughFunds | .notEnoughFundsForFee =>
    typedClassification .xelisWallet .insufficientFunds nativeKind
  | .proofGenerationError .insufficientFunds | .generationError (.proof .insufficientFunds) =>
    typedClassification .xelisCommon .insufficientFunds nativeKind
  | .assetNotTracked | .balanceNotFound => typedClassification .xelisWallet .notFound nativeKind
  | .databaseError => typedClassification .xelisWallet .storage nativeKind
  | .invalidEncryptedValue | .noSalt | .noMasterKeyFound | .noPasswordSaltFound | .invalidSaltSize
  | .noSaltFound => typedClassification .xelisWallet .authenticationOrCorruptData nativeKind
  | .noHandlerAvailable | .unsupported => typedClassification .xelisWallet .unsupported nativeKind
  | .aeadCipherFormatError | .generationError _ | .proofGenerationError _ | .decompressionError =>
    typedClassification .xelisCommon .invalidInput nativeKind
  | .invalidDatetime | .transactionTooBig | .invalidKeyPair | .invalidSignature | .expectedOneTx
  | .tooManyTx | .txOwnerIsReceiver | .invalidAddressParams | .extraDataTooBig
  | .rescanTopoheightTooHigh | .invalidFeeProvided | .emptyName | .notTransactionSigner =>
    typedClassification .xelisWallet .invalidInput nativeKind
  | .cipher | .cryptoError | .algorithmHashingError | .ciphertextDecode | .nonceGeneration
  | .poisonError | .semaphoreError => typedClassification .xelisWallet .internal nativeKind

def classifyNetworkError (error : NetworkError) : NativeErrorClassification :=
  match error with
  | .alreadyRunning => typedClassification .xelisWallet .conflict "NETWORK_ALREADY_RUNNING"
  | .notRunning => typedClassification .xelisWallet .offline "NETWORK_NOT_RUNNING"
  | .taskError => typedClassification .xelisWallet .internal "NETWORK_TASK_ERROR"
  | .daemonAPIError error =>
    (classifyAnyhowErrorWithPolicy error .standard).getD
      (typedClassification .xelisWallet .network "DAEMON_API_ERROR")
  | .networkMismatch => typedClassification .xelisWallet .networkMismatch "NETWORK_MISMATCH"

def classifyJsonRpcError (error : JsonRPCError) : NativeErrorClassification :=
  let untyped : NativeErrorClassification :=
    ⟨.xelisCommon, error.code, nativeKindOption (L.jsonRpcKind error), error.nativeCode⟩
  match error with
  | .any inner => (classifyAnyhowErrorWithPolicy inner .standard).getD untyped
  | _ => untyped

end

def classifyAnyhowError (error : AnyhowError) : Option NativeErrorClassification :=
  classifyAnyhowErrorWithPolicy L error .standard

def classifyStorageOperationError : AnyhowError → Option NativeErrorClassification
  | .mk _ (some jsonRpcError) _ => some (classifyJsonRpcError L jsonRpcError)
  | .mk _ none none => none
  -- an untyped `Any` must not turn a storage boundary into an internal error
  | .mk _ none (some (.any error _)) => classifyStorageOperationError error
  | .mk _ none (some walletError) => some (classifyWalletError L walletError)

end Classify

/-! ### The errors of the bridge -/

structure NativeXelisError where
  version : UInt16
  source : NativeXelisErrorSource
  code : NativeXelisErrorCode
  nativeKind : Option String
  nativeCode : Option Int32
  diagnosticMessage : String
  deriving DecidableEq, Repr

def nativeXelisErrorVersion : UInt16 := 1

def JsonRPCError.data : JsonRPCError → Option String
  | .internalError data | .serverError _ data => data
  | _ => none

def appendJsonRpcData (diagnostic : String) (error : JsonRPCError) : String :=
  match error.data with
  | some data => diagnostic ++ "\nRPC data: " ++ data
  | none => diagnostic

def anyhowDiagnosticMessage : AnyhowError → String
  | .mk text (some rpcError) _ => appendJsonRpcData text rpcError
  | .mk text none _ => text

section Bridge

variable (L : Library)

def jsonRpcDiagnosticMessage (error : JsonRPCError) : String :=
  let diagnostic := match error with
    | .any inner => anyhowDiagnosticMessage inner
    | _ => L.jsonRpcText error
  appendJsonRpcData diagnostic error

def walletDiagnosticMessage : WalletError → String
  | .any inner _ => anyhowDiagnosticMessage inner
  | .networkError (.daemonAPIError inner) => anyhowDiagnosticMessage inner
  | error => L.walletText error

namespace NativeXelisError

def fromClassification (classification : NativeErrorClassification) (diagnosticMessage : String) :
    NativeXelisError :=
  ⟨nativeXelisErrorVersion, classification.source, classification.code, classification.nativeKind,
    classification.nativeCode, diagnosticMessage⟩

def fromWalletOperationWithPolicy (error : AnyhowError) (fallbackCode : NativeXelisErrorCode)
    (fallbackKind : String) (policy : WalletOperationErrorPolicy) : NativeXelisError :=
  fromClassification
    ((classifyAnyhowErrorWithPolicy L error policy).getD
      (typedClassification .xelisWallet fallbackCode fallbackKind))
    (anyhowDiagnosticMessage error)

def fromWalletOperation (error : AnyhowError) (fallbackCode : NativeXelisErrorCode)
    (fallbackKind : String) : NativeXelisError :=
  fromWalletOperationWithPolicy L error fallbackCode fallbackKind .standard

def fromWalletAuthenticationOperation (error : AnyhowError) (fallbackCode : NativeXelisErrorCode)
    (fallbackKind : String) : NativeXelisError :=
  fromWalletOperationWithPolicy L error fallbackCode fallbackKind .authentication

def fromWalletStorageOperation (error : AnyhowError) (fallbackKind : String) : NativeXelisError :=
  fromClassification
    ((classifyStorageOperationError L error).getD
      (typedClassification .xelisWallet .storage fallbackKind))
    (anyhowDiagnosticMessage error)

/-- `From<WalletError>`. -/
def ofWalletError (error : WalletError) : NativeXelisError :=
  fromClassification (classifyWalletError L error) (walletDiagnosticMessage L error)

/-- `From<JsonRPCError>`. -/
def ofJsonRPCError (error : JsonRPCError) : NativeXelisError :=
  fromClassification (classifyJsonRpcError L error) (jsonRpcDiagnosticMessage L error)

/-- All but the message. -/
def classification (error : NativeXelisError) : NativeErrorClassification :=
  ⟨error.source, error.code, error.nativeKind, error.nativeCode⟩

@[simp] lemma classification_fromClassification (c : NativeErrorClassification)
    (diagnosticMessage : String) :
    (fromClassification c diagnosticMessage).classification = c := rfl

end NativeXelisError

end Bridge

/-! ### Wrappers -/

section Wrappers

/-- `WalletError::Any` around a cause, as many as there are texts and kinds. -/
def wrapped : List (String × String) → AnyhowError → AnyhowError
  | [], cause => cause
  | (text, kind) :: wrappers, cause => .mk text none (some (.any (wrapped wrappers cause) kind))

variable {L : Library} {cause : AnyhowError} {c : NativeErrorClassification}

lemma classifyAnyhow_wrapped {policy : WalletOperationErrorPolicy}
    (h : classifyAnyhowErrorWithPolicy L cause policy = some c)
    (wrappers : List (String × String)) :
    classifyAnyhowErrorWithPolicy L (wrapped wrappers cause) policy = some c := by
  induction wrappers with
  | nil => exact h
  | cons wrapper wrappers ih =>
    obtain ⟨text, kind⟩ := wrapper
    rw [wrapped, classifyAnyhowErrorWithPolicy, classifyWalletErrorWithPolicy, ih]
    rfl

/-- The storage policy looks through the wrappers, also when there is nothing to find. -/
lemma classifyStorage_wrapped (wrappers : List (String × String)) :
    classifyStorageOperationError L (wrapped wrappers cause) =
      classifyStorageOperationError L cause := by
  induction wrappers with
  | nil => rfl
  | cons wrapper wrappers ih =>
    obtain ⟨text, kind⟩ := wrapper
    rw [wrapped, classifyStorageOperationError, ih]

lemma classifyWalletErrorWithPolicy_standard (e : WalletError) :
    classifyWalletErrorWithPolicy L e .standard = classifyWalletError L e := by
  cases e with
  | any => rw [classifyWalletErrorWithPolicy, classifyWalletError]
  | _ => rw [classifyWalletErrorWithPolicy] <;> simp

lemma classifyAnyhow_jsonRpc (text : String) (j : JsonRPCError) (e : Option WalletError)
    (policy : WalletOperationErrorPolicy) :
    classifyAnyhowErrorWithPolicy L (.mk text (some j) e) policy =
      some (classifyJsonRpcError L j) := by
  rw [classifyAnyhowErrorWithPolicy]

open NativeXelisError

lemma fromWalletOperation_wrapped {policy : WalletOperationErrorPolicy}
    (h : classifyAnyhowErrorWithPolicy L cause policy = some c)
    (wrappers : List (String × String)) (fallbackCode : NativeXelisErrorCode)
    (fallbackKind : String) :
    (fromWalletOperationWithPolicy L (wrapped wrappers cause) fallbackCode fallbackKind
      policy).classification = c := by
  rw [fromWalletOperationWithPolicy, classification_fromClassification,
    classifyAnyhow_wrapped h wrappers, Option.getD_some]

lemma fromWalletStorageOperation_wrapped (wrappers : List (String × String))
    (fallbackKind : String) :
    (fromWalletStorageOperation L (wrapped wrappers cause) fallbackKind).classification =
      (fromWalletStorageOperation L cause fallbackKind).classification := by
  rw [fromWalletStorageOperation, classifyStorage_wrapped]
  rfl

end Wrappers

open NativeXelisError

/-- **Wrappers change nothing.** However many `Any` are around an error of the wallet, the three
policies report what they report for the error alone, which the standard one reports as the error
itself. A cause without a type is a storage error with the kind of the storage operation, and a
JSON-RPC cause is that error under all three. -/
theorem wrappers_change_nothing (L : Library) (wrappers : List (String × String)) (text : String)
    (fallbackCode : NativeXelisErrorCode) (fallbackKind : String) :
    (∀ e : WalletError, let alone : AnyhowError := .mk text none (some e)
      ((fromWalletOperation L (wrapped wrappers alone) fallbackCode fallbackKind).classification =
        (fromWalletOperation L alone fallbackCode fallbackKind).classification ∧
        (fromWalletOperation L alone fallbackCode fallbackKind).classification =
          (ofWalletError L e).classification) ∧
      (fromWalletAuthenticationOperation L (wrapped wrappers alone) fallbackCode
          fallbackKind).classification =
        (fromWalletAuthenticationOperation L alone fallbackCode fallbackKind).classification ∧
      (fromWalletStorageOperation L (wrapped wrappers alone) fallbackKind).classification =
        (fromWalletStorageOperation L alone fallbackKind).classification) ∧
    (fromWalletStorageOperation L (wrapped wrappers (.mk text none none))
        fallbackKind).classification =
      ⟨.xelisWallet, .storage, nativeKindOption fallbackKind, none⟩ ∧
    ∀ (j : JsonRPCError) (e : Option WalletError), let cause : AnyhowError := .mk text (some j) e
      (fromWalletOperation L (wrapped wrappers cause) fallbackCode fallbackKind).classification =
        (ofJsonRPCError L j).classification ∧
      (fromWalletAuthenticationOperation L (wrapped wrappers cause) fallbackCode
          fallbackKind).classification = (ofJsonRPCError L j).classification ∧
      (fromWalletStorageOperation L (wrapped wrappers cause) fallbackKind).classification =
        (ofJsonRPCError L j).classification := by
  refine ⟨fun e => ⟨?_, ?_, ?_⟩, ?_, fun j e => ⟨?_, ?_, ?_⟩⟩
  · have halone : classifyAnyhowErrorWithPolicy L (.mk text none (some e)) .standard =
        some (classifyWalletError L e) := by
      rw [classifyAnyhowErrorWithPolicy, classifyWalletErrorWithPolicy_standard]
    have hreport := fromWalletOperation_wrapped halone
    exact ⟨(hreport wrappers _ _).trans (hreport [] _ _).symm, hreport [] _ _⟩
  · have halone : classifyAnyhowErrorWithPolicy L (.mk text none (some e)) .authentication =
        some (classifyWalletErrorWithPolicy L e .authentication) := by
      rw [classifyAnyhowErrorWithPolicy]
    have hreport := fromWalletOperation_wrapped halone
    exact (hreport wrappers _ _).trans (hreport [] _ _).symm
  · exact fromWalletStorageOperation_wrapped wrappers fallbackKind
  · rw [fromWalletStorageOperation_wrapped, fromWalletStorageOperation,
      classifyStorageOperationError]
    rfl
  · exact fromWalletOperation_wrapped (classifyAnyhow_jsonRpc text j e _) _ _ _
  · exact fromWalletOperation_wrapped (classifyAnyhow_jsonRpc text j e _) _ _ _
  · rw [fromWalletStorageOperation_wrapped, fromWalletStorageOperation,
      classifyStorageOperationError]
    rfl

end XelisWallet.ErrorClassification
