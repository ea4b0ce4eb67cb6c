import XelisWallet.ErrorClassification

/-!
How the result of submitting a transaction is classified: only known transport and offline
failures keep the prepared transaction; every other failure is final.
-/

namespace XelisWallet.Submission

open ErrorClassification (AnyhowError WalletError)

inductive SubmitErrorClass
  | retryable
  | daemonRejected
  | localFailure
  deriving DecidableEq, Repr

inductive SubmissionResolution
  | submitted
  | retryable (error : WalletError)
  | daemonRejected (error : WalletError)
  | localFailure (error : WalletError)

def isDaemonRejection : AnyhowError → Bool
  | .mk _ (some .parseError) _ | .mk _ (some .invalidRequest) _ | .mk _ (some .methodNotFound) _
  | .mk _ (some .invalidParams) _ | .mk _ (some (.internalError _)) _
  | .mk _ (some (.serverError ..)) _ => true
  | _ => false

def isRetryableRpcError : AnyhowError → Bool
  | .mk _ (some .noResponse) _ | .mk _ (some .timedOut) _ | .mk _ (some .httpError) _
  | .mk _ (some .connectionError) _ | .mk _ (some .socketError) _
  | .mk _ (some .sendError) _ => true
  | _ => false

def classifySubmitError : WalletError → SubmitErrorClass
  | .any error _ =>
      if isRetryableRpcError error then .retryable
      else if isDaemonRejection error then .daemonRejected
      else .localFailure
  | .notOnlineMode | .noNetworkHandler => .retryable
  | _ => .localFailure

def resolveSubmission : Except WalletError Unit → SubmissionResolution
  | .ok () => .submitted
  | .error error =>
    match classifySubmitError error with
    | .retryable => .retryable error
    | .daemonRejected => .daemonRejected error
    | .localFailure => .localFailure error

/-- Whether the prepared transaction survives the resolution. -/
def SubmissionResolution.isRetryable : SubmissionResolution → Bool
  | .retryable _ => true
  | _ => false

end XelisWallet.Submission
