import RateGuard.Mission.Lease

/-!
# Programs over a stored mission

The request handlers and the worker touch the stored record of a mission one access at
a time, and what they write is a copy that they read or changed earlier. A process is
such a program: each access says how it goes on, and how it goes on if the store
raises. The worker's store raises; that of the handlers swallows a failing write.
-/

open CalendarDate

namespace RateGuard

/-- Program over the stored record of one mission. -/
inductive Process where
  /-- Reads the record. -/
  | read (next : DateTime → MissionRecord → Process) (raised : Process)
  /-- Calls the store without a look at the record's fields: its presence, or an event. -/
  | aside (next raised : Process)
  /-- Writes a whole record over the stored one. -/
  | write (written : MissionRecord) (next raised : Process)
  /-- Renews the heartbeat, and nothing else, in the stored record. -/
  | touch (next : Process)
  /-- Publishes a job message, or fails to. -/
  | publish (jobId : String) (next : Process)
  /-- Answers the delivery: acknowledged or for redelivery. -/
  | answer (acknowledged : Bool)
  /-- Ends. -/
  | finished

/-- How a store treats an error: the worker's raises, the handlers' goes on. -/
inductive StoreMode where
  | strict | lenient
  deriving DecidableEq

/-- `apply_transition` as a process: the record is read, checked and written. -/
def transition (mode : StoreMode) (request : TransitionRequest) (raised : Process)
    (done : Except String MissionRecord → Process) : Process :=
  .read (fun now record =>
    match applyTransition request now record with
    | .error error => done (.error error)
    | .ok written =>
      .write written (done (.ok written)) (if mode = .strict then raised else done (.ok written)))
    raised

/-- `_fail_mission`, after which the delivery is answered for redelivery. -/
def failMission (reason : String) : Process :=
  transition .strict ⟨.failed, some reason, some "FAILED", .empty, none⟩ (.answer false)
    fun _ => .answer false

/-- What the worker does when the supervisor raises. -/
def supervisorFailed : Process := failMission "Supervisor Execution Failure"

/-- What is left once a final transition was tried: its result is written unless it was refused. -/
def recordResult (rest : Process) : Except String MissionRecord → Process
  | .error _ => rest
  | .ok record => .write record rest supervisorFailed

/-- `AssuranceSupervisor._finalize_cancelled` and the answer that follows. -/
def finalizeCancelled : Process :=
  transition .strict
    ⟨.cancelled, some "Cooperative cancellation honored between stages.", some "CANCELLED",
      .empty, none⟩
    supervisorFailed (recordResult (.aside (.answer true) supervisorFailed))

/-- `AssuranceSupervisor._update_mission_record` and the answer that follows. -/
def updateMissionRecord (target : RunStatus) (workflowStage : String) : Process :=
  .aside (transition .strict ⟨target, none, some workflowStage, .empty, none⟩ supervisorFailed
    (recordResult (.answer true))) supervisorFailed

/-- `AssuranceSupervisor._mark_stage`. -/
def markStage (stageName : String) (next : Process) : Process :=
  .read (fun _ record =>
    .write { record with currentStage := some stageName } (.aside next supervisorFailed)
      supervisorFailed) supervisorFailed

/-- A look for a requested cancellation, which a failing read does not find. -/
def cancellationCheck (next : Process) : Process :=
  .read (fun _ record => if record.wantsCancellation then finalizeCancelled else next) next

/-- What the supervisor does to the stored mission between its stages. -/
inductive SupervisorAction where
  /-- Marks a stage. -/
  | mark (stageName : String)
  /-- Looks for a cancellation. -/
  | check
  /-- Renews the heartbeat. -/
  | heartbeat
  deriving DecidableEq

/-- A list of actions, then the end of the mission. -/
def supervise (ending : Process) : List SupervisorAction → Process
  | [] => ending
  | .mark stageName :: rest => markStage stageName (supervise ending rest)
  | .check :: rest => cancellationCheck (supervise ending rest)
  | .heartbeat :: rest => .touch (supervise ending rest)

/-- Course that an execution takes, as the mission and the outside world decide it. -/
structure MissionCourse where
  /-- The message names a mission that can be built. -/
  envelopeValid : Bool
  /-- The sources of the mission are found. -/
  sourcesResolved : Bool
  /-- The mission passes its validation. -/
  requestValid : Bool
  /-- There are differences to prioritize. -/
  prioritized : Bool
  /-- The sources are equivalent, which ends the mission early. -/
  cleanEquivalence : Bool
  /-- The boundary tests are selected. -/
  selected : Bool
  /-- Rounds of additional probes. -/
  probeRounds : Nat
  /-- The portfolio scan has to be justified. -/
  justified : Bool
  /-- Polls of the portfolio scan of a connector. -/
  polls : Nat
  /-- A mismatch is explained. -/
  explained : Bool
  /-- Decisions asked for in remediation. -/
  remediationDecisions : Nat
  /-- Number of actions after which the supervisor raises. -/
  raisesAfter : Option Nat

/-- A look for a cancellation where one is made. -/
def checkIf (made : Bool) : List SupervisorAction := if made then [.check] else []

/-- Actions of the connector scan: a heartbeat and a look for a cancellation at each poll. -/
def scanPolls (polls : Nat) : List SupervisorAction :=
  (List.replicate polls [SupervisorAction.heartbeat, SupervisorAction.check]).flatten

/-- Actions of `AssuranceSupervisor.run_mission` from the impact analysis on. -/
def MissionCourse.driftStages (course : MissionCourse) : List SupervisorAction :=
  .check :: .mark "IMPACT_ANALYSIS" :: .check :: .mark "RISK_DIRECTED_TESTING" ::
    (checkIf course.selected ++ (List.replicate course.probeRounds .check ++
      .check :: .mark "RECONCILIATION" :: .check :: .mark "PORTFOLIO_ANALYSIS" ::
        (checkIf course.justified ++ (scanPolls course.polls ++ (checkIf course.explained ++
          .check :: .mark "REMEDIATION" ::
            (List.replicate course.remediationDecisions .check ++ [.check, .mark "DECISION"]))))))

/-- Actions of `AssuranceSupervisor.run_mission` after its validation. -/
def MissionCourse.stages (course : MissionCourse) : List SupervisorAction :=
  .check :: .mark "SEMANTIC_ANALYSIS" :: (checkIf course.prioritized ++
    if course.cleanEquivalence then [] else course.driftStages)

/-- Actions of `AssuranceSupervisor.run_mission`. -/
def MissionCourse.actions (course : MissionCourse) : List SupervisorAction :=
  .mark "VALIDATION" :: if course.requestValid then course.stages else []

/-- `AssuranceSupervisor.run_mission` and the answer that follows. -/
def runMission (course : MissionCourse) : Process :=
  .read (fun _ record => .aside (.write record
    (match course.raisesAfter with
      | some count => supervise supervisorFailed (course.actions.take count)
      | none => supervise
        (if course.requestValid then updateMissionRecord .completed "FINISHED"
          else updateMissionRecord .failed "FAILED") course.actions)
    supervisorFailed) supervisorFailed) supervisorFailed

/-- `MissionExecutionService.execute_job` once the lease is held. -/
def executeMission (course : MissionCourse) : Process :=
  if !course.envelopeValid then failMission "Message envelope validation failed"
  else if !course.sourcesResolved then supervisorFailed
  else runMission course

/-- `MissionExecutionService.execute_job` after it acquired the lease of a record. -/
def executeJob (record : MissionRecord) (course : MissionCourse) : Process :=
  .write record (executeMission course) (executeMission course)

/-- `cancel_assurance_mission`. -/
def cancelAssuranceMission : Process :=
  .read (fun _ record =>
    if record.status = .cancelled then .finished
    else if directCancellableStatuses.contains record.status then
      transition .lenient
        ⟨.cancelled, some "Cancelled by user request.", some "CANCELLED", .empty, none⟩
        .finished fun _ => .finished
    else if record.status = .running then
      .write { record with
        metadata := { record.metadata with cancellationRequested := some true }
        cancellationRequested := true
        statusReason := some "Cancellation requested; awaiting cooperative stop by worker." }
        .finished .finished
    else .finished) .finished

/-- Transition of a retry. -/
def retryTransition (nextAttempt : Int) (observed : RunStatus) : TransitionRequest where
  target := .queued
  statusReason := some ("Retry attempt " ++ toString nextAttempt ++ " queued by user request.")
  workflowStage := some "QUEUED"
  extraMetadata := { MissionMetadata.empty with
    attemptNumber := some nextAttempt
    cancellationRequested := some false }
  expected := some observed

/-- What a retry does once the mission is queued. -/
def publishRetry (missionId : String) (nextAttempt : Int) :
    Except String MissionRecord → Process
  | .error _ => .finished
  | .ok record =>
    let publication := .publish ("JOB-" ++ missionId ++ "-RETRY" ++ toString nextAttempt) .finished
    .write { record with attemptNumber := nextAttempt, cancellationRequested := false }
      publication publication

/-- `retry_assurance_mission`. -/
def retryAssuranceMission (missionId : String) : Process :=
  .read (fun _ record =>
    if !record.isRetryable then .finished
    else
      let nextAttempt := record.metadata.attempt record.attemptNumber + 1
      transition .lenient (retryTransition nextAttempt record.status) .finished
        (publishRetry missionId nextAttempt)) .finished

end RateGuard
