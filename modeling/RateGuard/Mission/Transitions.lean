import RateGuard.Foundation.DateTime

/-!
# Mission records and status transitions

The stored record of a mission as far as its execution reads it, the table of allowed
transitions and the policy that changes a status. A write replaces the fields of the
stored record and merges its metadata key by key.
-/

open CalendarDate

namespace RateGuard

/-- Status of a mission, legacy ones included. -/
inductive RunStatus where
  | draft | validating | created | pending | queued | processing | running | inProgress
  | waitingRetry | needsReview | completed | failed | cancelled | archived
  deriving DecidableEq, Repr

/-- Value of a status. -/
def RunStatus.value : RunStatus → String
  | draft => "DRAFT"
  | validating => "VALIDATING"
  | created => "CREATED"
  | pending => "PENDING"
  | queued => "QUEUED"
  | processing => "PROCESSING"
  | running => "RUNNING"
  | inProgress => "IN_PROGRESS"
  | waitingRetry => "WAITING_RETRY"
  | needsReview => "NEEDS_REVIEW"
  | completed => "COMPLETED"
  | failed => "FAILED"
  | cancelled => "CANCELLED"
  | archived => "ARCHIVED"

/-- `ALLOWED_TRANSITIONS`. -/
def allowedTransitions : RunStatus → List RunStatus
  | .draft => [.validating, .queued, .cancelled, .failed]
  | .validating => [.queued, .failed, .cancelled]
  | .queued => [.running, .cancelled, .failed]
  | .running => [.waitingRetry, .needsReview, .completed, .failed, .cancelled]
  | .waitingRetry => [.queued, .running, .cancelled, .failed]
  | .needsReview => [.completed, .cancelled, .archived]
  | .completed => [.archived]
  | .failed => [.waitingRetry, .queued, .archived, .cancelled]
  | .cancelled => [.archived]
  | .archived | .created | .pending | .processing | .inProgress => []

/-- `TERMINAL_STATUSES`. -/
def terminalStatuses : List RunStatus := [.completed, .failed, .cancelled, .archived]

/-- `DIRECT_CANCELLABLE_STATUSES`. -/
def directCancellableStatuses : List RunStatus := [.queued, .validating, .waitingRetry, .draft]

/-- `RETRYABLE_STATUSES`. -/
def retryableStatuses : List RunStatus := [.failed, .waitingRetry]

/-- `MAX_RETRY_ATTEMPTS`. -/
def maxRetryAttempts : Int := 5

/-- What is stored as a heartbeat: a text, a moment, or any other value by its truth. -/
inductive HeartbeatValue where
  | text (text : String)
  | moment (moment : Moment)
  | other (truthy : Bool)

/-- Metadata of a mission that its execution reads; a missing key is `none`. -/
structure MissionMetadata where
  /-- Last heartbeat of the lease. -/
  lastHeartbeatAt : Option HeartbeatValue
  /-- Job that holds the lease. -/
  leaseOwner : Option String
  /-- Number of the attempt. -/
  attemptNumber : Option Int
  /-- Whether a cancellation was requested. -/
  cancellationRequested : Option Bool

/-- Stored record of a mission. -/
structure MissionRecord where
  /-- Status. -/
  status : RunStatus
  /-- Stage of the workflow. -/
  workflowStage : String
  /-- Stage at work. -/
  currentStage : Option String
  /-- Reason of the status. -/
  statusReason : Option String
  /-- Start of the execution. -/
  startedAt : Option DateTime
  /-- End of the execution. -/
  completedAt : Option DateTime
  /-- Number of the attempt. -/
  attemptNumber : Int
  /-- Whether a cancellation was requested. -/
  cancellationRequested : Bool
  /-- Metadata. -/
  metadata : MissionMetadata

/-- Metadata after a merge: keys that are written replace stored ones. -/
def MissionMetadata.merge (stored written : MissionMetadata) : MissionMetadata where
  lastHeartbeatAt := written.lastHeartbeatAt.or stored.lastHeartbeatAt
  leaseOwner := written.leaseOwner.or stored.leaseOwner
  attemptNumber := written.attemptNumber.or stored.attemptNumber
  cancellationRequested := written.cancellationRequested.or stored.cancellationRequested

/-- Stored record after a record is written. -/
def MissionRecord.merge (stored written : MissionRecord) : MissionRecord :=
  { written with metadata := stored.metadata.merge written.metadata }

/-- `validate_transition`. -/
def validateTransition (current target : RunStatus) : Bool :=
  current = target || (allowedTransitions current).contains target

/-- Arguments of a transition. -/
structure TransitionRequest where
  /-- Status to reach. -/
  target : RunStatus
  /-- Reason to record. -/
  statusReason : Option String
  /-- Stage of the workflow to record. -/
  workflowStage : Option String
  /-- Metadata to record. -/
  extraMetadata : MissionMetadata
  /-- Status the caller observed. -/
  expected : Option RunStatus

/-- No metadata. -/
def MissionMetadata.empty : MissionMetadata := ⟨none, none, none, none⟩

/-- `apply_transition` on the record that was read: the record to write, or the error. -/
def applyTransition (request : TransitionRequest) (now : DateTime) (record : MissionRecord) :
    Except String MissionRecord :=
  if request.expected.any (· ≠ record.status) then
    .error ("Concurrent modification: expected status '" ++
      (request.expected.getD record.status).value ++ "' but found '" ++ record.status.value ++ "'.")
  else if !validateTransition record.status request.target then
    .error ("Invalid status transition: " ++ record.status.value ++ " -> " ++ request.target.value)
  else
    .ok { record with
      status := request.target
      workflowStage := request.workflowStage.getD record.workflowStage
      statusReason := request.statusReason.or record.statusReason
      startedAt := if request.target = .running then record.startedAt.or (some now)
        else record.startedAt
      completedAt := if terminalStatuses.contains request.target then
        record.completedAt.or (some now) else record.completedAt
      metadata := record.metadata.merge request.extraMetadata }

/-- Attempt that a retry looks at: zero and a missing number count as the first one. -/
def MissionMetadata.attempt (metadata : MissionMetadata) (default : Int) : Int :=
  let number := metadata.attemptNumber.getD default
  if number = 0 then 1 else number

/-- `is_retryable`. -/
def MissionRecord.isRetryable (record : MissionRecord) : Bool :=
  retryableStatuses.contains record.status && record.metadata.attempt 1 < maxRetryAttempts

/-- Whether a cancellation is asked for in the record or its metadata. -/
def MissionRecord.wantsCancellation (record : MissionRecord) : Bool :=
  record.cancellationRequested || record.metadata.cancellationRequested.getD false

/-- A transition that is applied is allowed, and reaches its target. -/
theorem applyTransition_allowed {request : TransitionRequest} {now : DateTime}
    {record written : MissionRecord} (applied : applyTransition request now record = .ok written) :
    validateTransition record.status request.target = true ∧ written.status = request.target ∧
      request.expected.all (· = record.status) = true := by
  unfold applyTransition at applied
  split at applied
  · cases applied
  · rename_i unexpected
    split at applied
    · cases applied
    · rename_i valid
      cases applied
      refine ⟨by simpa using valid, rfl, ?_⟩
      cases observed : request.expected with
      | none => rfl
      | some status => simpa [observed] using unexpected

end RateGuard
