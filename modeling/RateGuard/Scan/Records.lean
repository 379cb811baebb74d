import RateGuard.Foundation.Decimal
import RateGuard.Portfolio.PredicateEvaluator

/-!
# Records of a portfolio scan

The job of a connector-backed scan, its batches and the aggregate of a finished job.
Times count microseconds. Identities of tenants and missions, texts that are only
shown and figures in floating point are left out.
-/

open DecimalFloat

namespace RateGuard

/-- Microseconds of some seconds. -/
def seconds (count : Nat) : Nat := 1000000 * count

/-- Status of a scan. -/
inductive ImpactStatus where
  | notRun | queued | running | complete | partialScan | cancelled | failed
  deriving DecidableEq, Repr

/-- Whether a job of the status is closed. -/
def ImpactStatus.isTerminal : ImpactStatus → Bool
  | complete | partialScan | cancelled | failed => true
  | notRun | queued | running => false

/-- State of a batch. -/
inductive BatchState where
  | pending | leased | done | incomplete
  deriving DecidableEq, Repr

/-- Answer to a request for a lease. -/
inductive LeaseResult where
  | acquired | alreadyDone | leasedElsewhere | attemptsExhausted | notFound | jobClosed
  deriving DecidableEq, Repr

/-- Row that the authoritative source does not apply to. -/
structure OutOfScopeRow where
  /-- Index of the row. -/
  index : Nat
  /-- Reason. -/
  code : String
  deriving DecidableEq, Repr

/-- Row with differing premiums, as written. -/
structure AffectedRow where
  /-- Index of the row. -/
  index : Nat
  /-- Premium of the oracle. -/
  expected : String
  /-- Premium of the connector. -/
  candidate : String
  deriving DecidableEq, Repr

/-- Row that could not be compared. -/
structure InconclusiveRow where
  /-- Index of the row. -/
  index : Nat
  /-- Error code. -/
  code : String
  /-- Whether another attempt may help. -/
  transient : Bool
  deriving DecidableEq, Repr

/-- Row results of a batch; matching rows are only counted. -/
structure Tally where
  /-- Number of matching rows. -/
  matched : Nat
  /-- Rows out of scope. -/
  outOfScope : List OutOfScopeRow
  /-- Affected rows. -/
  affected : List AffectedRow
  /-- Rows without a comparison. -/
  inconclusive : List InconclusiveRow
  deriving DecidableEq, Repr

/-- Nothing counted. -/
def Tally.empty : Tally := ⟨0, [], [], []⟩

/-- Indices of the rows that a tally lists. -/
def Tally.indices (tally : Tally) : List Nat :=
  tally.outOfScope.map (·.index) ++ tally.affected.map (·.index) ++
    tally.inconclusive.map (·.index)

/-- Rows that another attempt may resolve. -/
def Tally.unresolvedTransient (tally : Tally) : List Nat :=
  (tally.inconclusive.filter (·.transient)).map (·.index)

/-- Figures of the requests of a batch. -/
structure RequestFigures where
  /-- Retried requests. -/
  retries : Nat
  /-- Requests sent. -/
  requests : Nat
  /-- Errors by code. -/
  errorClasses : List (String × Nat)
  /-- Whether the circuit breaker opened. -/
  breakerOpened : Bool
  /-- Revision of the engine that answered last. -/
  connectorRevision : Option String
  deriving DecidableEq, Repr

/-- Result of processing a batch. -/
structure BatchResult extends Tally, RequestFigures
  deriving DecidableEq, Repr

/-- Checkpoint of a batch. -/
structure BatchRecord extends BatchResult where
  /-- Number of the batch. -/
  batchNo : Nat
  /-- First row. -/
  rowStart : Nat
  /-- Row after the last. -/
  rowEnd : Nat
  /-- State of the batch. -/
  state : BatchState
  /-- Leases granted so far. -/
  attempts : Nat
  /-- Holder of the lease. -/
  leaseOwner : Option String
  /-- End of the lease. -/
  leaseExpiresAt : Option Nat
  /-- Time spent on the last attempt. -/
  durationMs : Nat
  /-- Time of the last result. -/
  completedAt : Option Nat
  /-- Time of the last change. -/
  updatedAt : Nat
  deriving DecidableEq, Repr

/-- A batch that was never leased. -/
def BatchRecord.fresh (now batchNo rowStart rowEnd : Nat) : BatchRecord where
  toBatchResult := ⟨Tally.empty, ⟨0, 0, [], false, none⟩⟩
  batchNo := batchNo
  rowStart := rowStart
  rowEnd := rowEnd
  state := .pending
  attempts := 0
  leaseOwner := none
  leaseExpiresAt := none
  durationMs := 0
  completedAt := none
  updatedAt := now

/-- Number of rows of a batch. -/
def BatchRecord.rows (batch : BatchRecord) : Nat := batch.rowEnd - batch.rowStart

/-- Decision of a scan. -/
inductive ImpactDecision where
  | block | passEligible | reviewRequired | cancelled
  deriving DecidableEq, Repr

/-- Completeness of a scan. -/
inductive Completeness where
  | complete | partialScan | cancelled
  deriving DecidableEq, Repr

/-- Sums over the affected rows, in cents. -/
structure ImpactFigures where
  /-- Overcharged rows. -/
  overchargeCount : Nat
  /-- Sum of the overcharges. -/
  overchargeTotal : Decimal
  /-- Undercharged rows. -/
  underchargeCount : Nat
  /-- Sum of the undercharges. -/
  underchargeTotal : Decimal
  /-- Sum of the signed differences. -/
  signedNetDelta : Decimal
  /-- Sum of the absolute differences. -/
  absoluteExposure : Decimal
  /-- Mean of the absolute differences. -/
  meanAbsDelta : Option Decimal
  /-- Mean of the signed differences. -/
  meanSignedDelta : Option Decimal
  deriving DecidableEq

/-- Result of a scan. -/
structure ImpactAggregate extends ImpactFigures where
  /-- Final status. -/
  status : ImpactStatus
  /-- Decision. -/
  impactDecision : ImpactDecision
  /-- Completeness. -/
  completeness : Completeness
  /-- What the scan lacks. -/
  incompleteReasons : List String
  /-- Whether more rows may be affected. -/
  exposureIsLowerBound : Bool
  /-- Rows of the portfolio. -/
  rowsTotal : Nat
  /-- Rows covered by batches. -/
  rowsInScope : Int
  /-- Rows of batches with a result. -/
  processedPolicies : Nat
  /-- Rows that the source applies to. -/
  eligiblePolicies : Int
  /-- Rows out of scope. -/
  outOfScopePolicies : Nat
  /-- Rows out of scope by reason. -/
  outOfScopeReasons : List (String × Nat)
  /-- Rows with a comparison. -/
  successfulComparisons : Nat
  /-- Affected rows. -/
  mismatches : Nat
  /-- Rows without a comparison. -/
  inconclusive : Nat
  /-- Rows that another attempt may resolve. -/
  inconclusiveTransient : Nat
  /-- Rows of batches without a result. -/
  unprocessedPolicies : Int
  /-- Batches planned. -/
  batchCount : Int
  /-- Batches done. -/
  batchesDone : Nat
  /-- Batches with transient failures left. -/
  batchesIncomplete : Nat
  /-- Other batches. -/
  batchesPending : Nat
  /-- Retried requests. -/
  retryCount : Nat
  /-- Requests sent. -/
  requestCount : Nat
  /-- Errors by code. -/
  errorClasses : List (String × Nat)
  /-- Whether a circuit breaker opened. -/
  breakerOpened : Bool
  /-- Revisions of the engines that answered. -/
  connectorRevisions : List String
  /-- Budgets that ran out. -/
  budgetExhausted : List String
  /-- Reason of a halt. -/
  haltReason : Option String
  deriving DecidableEq

/-- Job of a scan. -/
structure ImpactJob where
  /-- Status. -/
  status : ImpactStatus
  /-- Product whose policies are compared. -/
  product : String
  /-- Most items the connector prices at once; zero without batch quotes. -/
  batchMaxItems : Nat
  /-- Batches planned. -/
  batchCount : Int
  /-- Rows of the portfolio. -/
  rowsTotal : Nat
  /-- Rows covered by batches. -/
  rowsInScope : Int
  /-- Whether a cancellation was requested. -/
  cancelRequested : Bool
  /-- Reason of a halt. -/
  haltReason : Option String
  /-- Budgets that ran out. -/
  budgetExhausted : List String
  /-- Stored result. -/
  aggregate : Option ImpactAggregate
  /-- Time of the stored result. -/
  finalizedAt : Option Nat

/-- Budgets of a scan. -/
structure ImpactConfig where
  /-- Most policies of a scan. -/
  maxPolicies : Nat
  /-- Rows of a full batch. -/
  batchSize : Nat
  /-- Most batches outstanding at once. -/
  maxInflightBatches : Nat
  /-- Time budget of a batch in seconds. -/
  batchTimeoutSeconds : Nat
  /-- Most leases of a batch. -/
  maxBatchAttempts : Nat
  /-- Time budget of a scan in seconds. -/
  maxMissionSeconds : Nat
  /-- Largest difference that still matches. -/
  premiumTolerance : FiniteDecimal
  /-- A batch has a row. -/
  positive : 0 < batchSize
  /-- A batch may be outstanding. -/
  inflight : 0 < maxInflightBatches
  /-- A batch may be leased. -/
  attempted : 0 < maxBatchAttempts

end RateGuard
