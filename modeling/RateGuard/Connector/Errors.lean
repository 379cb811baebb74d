import Mathlib.Data.List.Basic

/-!
# Errors of the connector

Every failure of a call carries a code and says whether another attempt may help. Correlation
identifiers are left out.
-/

namespace RateGuard

/-- Whether a failure may be retried. -/
inductive ConnectorFailureCategory where
  | retryable | nonRetryable | reviewRequired
  deriving DecidableEq, Repr

/-- Value in the details of an error. -/
inductive DetailValue where
  | text (value : String)
  | number (value : Int)
  deriving DecidableEq, Repr

/-- `ConnectorError`. -/
structure ConnectorError where
  /-- Code. -/
  code : String
  /-- Message. -/
  message : String
  /-- Whether it may be retried. -/
  category : ConnectorFailureCategory
  /-- Details. -/
  details : List (String × DetailValue)
  deriving DecidableEq, Repr

/-- What a call raises: an error of the connector, or any other exception. -/
inductive ConnectorRaised where
  | connector (error : ConnectorError)
  | other (kind : String)
  deriving DecidableEq, Repr

end RateGuard
