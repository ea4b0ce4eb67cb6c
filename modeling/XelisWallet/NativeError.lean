import Mathlib.Tactic.Common

/-!
The errors that cross the native bridge.

An error made here has its code, its kind and its message. One that wraps an error of a wallet or
storage operation is what it was made from, with a code and a kind to fall back on;
`ErrorClassification` says what such an error is classified as.
-/

namespace XelisWallet.NativeError

inductive NativeXelisErrorCode
  | invalidInput
  | offline
  | network
  | remoteRejected
  | insufficientFunds
  | conflict
  | notFound
  | unsupported
  | storage
  | serialization
  | initialization
  | internal
  | authenticationOrCorruptData
  | networkMismatch
  | cancelled
  | operationInProgress
  | operationFailed
  | streamLagged
  | streamClosedUnexpectedly
  deriving DecidableEq, Repr

inductive NativeXelisError
  /-- `xelis_wallet_flutter`. -/
  | flutter (code : NativeXelisErrorCode) (nativeKind diagnosticMessage : String)
  /-- `xelis_wallet`. -/
  | wallet (code : NativeXelisErrorCode) (nativeKind diagnosticMessage : String)
  /-- `from_wallet_operation`. -/
  | walletOperation (error : String) (fallbackCode : NativeXelisErrorCode) (fallbackKind : String)
  /-- `from_wallet_operation`, of an error of a library, whose text is not modelled. -/
  | upstreamOperation (fallbackCode : NativeXelisErrorCode) (fallbackKind : String)
  /-- `from_wallet_storage_operation`. -/
  | storageOperation (fallbackKind : String)
  deriving DecidableEq, Repr

end XelisWallet.NativeError
