import RateGuard.Mission.System

/-!
# Conduct of the processes

Every write of a handler or a worker follows from the copy that it holds: the status
moves along an allowed transition, a requested cancellation stays unless the mission is
queued again, and the heartbeat is left as it was. A delivery that executed a mission
acknowledges its message only after a copy on which the mission does not run.
-/

open CalendarDate

namespace RateGuard

/-- What a write makes of the copy that its writer holds. -/
structure WriteRule (targets : List RunStatus) (copy written : MissionRecord) : Prop where
  /-- The status moves along an allowed transition. -/
  valid : validateTransition copy.status written.status = true
  /-- The status stays, or becomes one of the writer's targets. -/
  target : written.status = copy.status ∨ written.status ∈ targets
  /-- A requested cancellation stays in the record. -/
  requested : written.status ≠ .queued → copy.cancellationRequested = true →
    written.cancellationRequested = true
  /-- A requested cancellation stays in the metadata. -/
  flagged : written.status ≠ .queued → copy.metadata.cancellationRequested = some true →
    written.metadata.cancellationRequested = some true
  /-- The heartbeat stays. -/
  heartbeat : written.metadata.lastHeartbeatAt = copy.metadata.lastHeartbeatAt

/-- What a process may do. -/
structure Conduct where
  /-- Statuses that its writes may set. -/
  targets : List RunStatus
  /-- Copies after which it may acknowledge a message. -/
  acknowledges : MissionRecord → Prop
  /-- Whether it may end without an answer. -/
  ends : Prop

/-- Conduct of each kind of party. -/
def PartyKind.conduct : PartyKind → Conduct
  | .request => ⟨[.cancelled, .queued], fun _ => False, True⟩
  | .execution | .closing =>
    ⟨[.completed, .failed, .cancelled], fun copy => copy.status ≠ .running, False⟩
  | .late => ⟨[], fun copy => copy.status ≠ .running, False⟩
  | .duplicate => ⟨[], fun _ => True, False⟩
  | .departed => ⟨[], fun _ => False, True⟩

/-- Whether a process keeps to its conduct, from the copy that it holds on. -/
def Process.Lawful (conduct : Conduct) : Process → MissionRecord → Prop
  | .read next raised, copy =>
    (∀ now record, (next now record).Lawful conduct record) ∧ raised.Lawful conduct copy
  | .aside next raised, copy => next.Lawful conduct copy ∧ raised.Lawful conduct copy
  | .write written next raised, copy =>
    WriteRule conduct.targets copy written ∧ next.Lawful conduct written ∧
      raised.Lawful conduct copy
  | .touch next, copy | .publish _ next, copy => next.Lawful conduct copy
  | .answer acknowledged, copy => acknowledged = true → conduct.acknowledges copy
  | .finished, _ => conduct.ends

/-- A record may be written as it is. -/
theorem WriteRule.refl (targets : List RunStatus) (copy : MissionRecord) :
    WriteRule targets copy copy where
  valid := validateTransition_self _
  target := .inl rfl
  requested := fun _ same => same
  flagged := fun _ same => same
  heartbeat := rfl

/-- A write that changes no status, flag or heartbeat keeps to every rule. -/
theorem WriteRule.of_same {targets : List RunStatus} {copy written : MissionRecord}
    (status : written.status = copy.status)
    (requested : written.cancellationRequested = copy.cancellationRequested)
    (metadata : written.metadata = copy.metadata) : WriteRule targets copy written where
  valid := by rw [status]; exact validateTransition_self _
  target := .inl status
  requested := fun _ same => requested ▸ same
  flagged := fun _ same => metadata ▸ same
  heartbeat := by rw [metadata]

/-- What a transition that is applied leaves of the cancellation and the metadata. -/
theorem applyTransition_written {request : TransitionRequest} {now : DateTime}
    {record written : MissionRecord} (applied : applyTransition request now record = .ok written) :
    written.cancellationRequested = record.cancellationRequested ∧
      written.metadata = record.metadata.merge request.extraMetadata := by
  unfold applyTransition at applied
  split at applied
  · cases applied
  · split at applied
    · cases applied
    · cases applied
      exact ⟨rfl, rfl⟩

/-- A transition without metadata of its own keeps to the rule of its target. -/
theorem applyTransition_rule {request : TransitionRequest} {now : DateTime}
    {record written : MissionRecord} {targets : List RunStatus}
    (applied : applyTransition request now record = .ok written)
    (target : request.target ∈ targets)
    (heartbeat : request.extraMetadata.lastHeartbeatAt = none)
    (cancellation : request.target ≠ .queued →
      request.extraMetadata.cancellationRequested = none) : WriteRule targets record written := by
  obtain ⟨valid, reached, -⟩ := applyTransition_allowed applied
  obtain ⟨requested, metadata⟩ := applyTransition_written applied
  constructor
  · rw [reached]
    exact valid
  · exact .inr (reached ▸ target)
  · intro _ same
    rw [requested]
    exact same
  · intro open_ same
    rw [reached] at open_
    rw [metadata, MissionMetadata.merge, cancellation open_, Option.none_or]
    exact same
  · rw [metadata, MissionMetadata.merge, heartbeat, Option.none_or]

/-- A transition that expects nothing is refused only where it is not allowed. -/
theorem applyTransition_refused {request : TransitionRequest} {now : DateTime}
    {record : MissionRecord} {error : String} (free : request.expected = none)
    (refused : applyTransition request now record = .error error) :
    validateTransition record.status request.target = false := by
  unfold applyTransition at refused
  rw [free, Option.any_none, if_neg Bool.false_ne_true] at refused
  split at refused
  · simpa using ‹(!validateTransition record.status request.target) = true›
  · cases refused

/-- A transition keeps to a conduct if all that may follow it does. -/
theorem transition_lawful {conduct : Conduct} {mode : StoreMode} {request : TransitionRequest}
    {raised : Process} {done : Except String MissionRecord → Process}
    (onRaise : ∀ copy, raised.Lawful conduct copy)
    (onRefusal : ∀ now record error, applyTransition request now record = .error error →
      (done (.error error)).Lawful conduct record)
    (onWrite : ∀ now record written, applyTransition request now record = .ok written →
      WriteRule conduct.targets record written ∧ (done (.ok written)).Lawful conduct written ∧
        (mode = .lenient → (done (.ok written)).Lawful conduct record))
    (copy : MissionRecord) : (transition mode request raised done).Lawful conduct copy := by
  refine ⟨fun now record => ?_, onRaise copy⟩
  beta_reduce
  split
  · rename_i error refused
    exact onRefusal now record error refused
  · rename_i written applied
    obtain ⟨rule, after, unwritten⟩ := onWrite now record written applied
    refine ⟨rule, after, ?_⟩
    cases mode with
    | strict => exact onRaise record
    | lenient => exact unwritten rfl

/-- Conduct of a delivery that executes a mission. -/
def executionConduct : Conduct := PartyKind.execution.conduct

/-- A mission may be failed whatever was read before. -/
theorem failMission_lawful (reason : String) (copy : MissionRecord) :
    (failMission reason).Lawful executionConduct copy := by
  have unanswered : ∀ record, (Process.answer false).Lawful executionConduct record :=
    fun _ acknowledged => absurd acknowledged Bool.false_ne_true
  apply transition_lawful unanswered
  · intro _ record _ _
    exact unanswered record
  · intro now record written applied
    refine ⟨applyTransition_rule applied ?_ rfl fun _ => rfl, unanswered written,
      fun _ => unanswered record⟩
    exact List.mem_cons_of_mem _ List.mem_cons_self

/-- What is left after a final transition keeps to the conduct of an execution. -/
theorem finalTransition_lawful {request : TransitionRequest} {rest : Process}
    (target : request.target ∈ executionConduct.targets) (free : request.expected = none)
    (plain : request.extraMetadata = .empty)
    (onRest : ∀ copy : MissionRecord, copy.status ≠ .running → rest.Lawful executionConduct copy)
    (copy : MissionRecord) :
    (transition .strict request supervisorFailed (recordResult rest)).Lawful executionConduct
      copy := by
  have ended : request.target ≠ .running ∧
      validateTransition .running request.target = true := by
    rcases List.mem_cons.mp target with completed | others
    · rw [completed]
      decide
    · rcases List.mem_cons.mp others with failed | cancelled
      · rw [failed]
        decide
      · rw [List.mem_singleton.mp cancelled]
        decide
  apply transition_lawful (failMission_lawful _)
  · intro now record error refused
    apply onRest
    intro running
    have invalid := applyTransition_refused free refused
    rw [running, ended.2] at invalid
    cases invalid
  · intro now record written applied
    have reached : written.status = request.target := (applyTransition_allowed applied).2.1
    refine ⟨applyTransition_rule applied target (by rw [plain]; rfl) fun _ => by rw [plain]; rfl,
      ⟨.refl _ _, onRest written (reached ▸ ended.1), failMission_lawful _ written⟩, ?_⟩
    intro lenient
    cases lenient

/-- A cancelled execution keeps to its conduct. -/
theorem finalizeCancelled_lawful (copy : MissionRecord) :
    finalizeCancelled.Lawful executionConduct copy := by
  apply finalTransition_lawful _ rfl rfl
  · intro record idle
    exact ⟨fun _ => idle, failMission_lawful _ record⟩
  · decide

/-- An execution that ends its mission keeps to its conduct. -/
theorem updateMissionRecord_lawful {target : RunStatus}
    (final : target ∈ executionConduct.targets) (workflowStage : String) (copy : MissionRecord) :
    (updateMissionRecord target workflowStage).Lawful executionConduct copy := by
  refine ⟨?_, failMission_lawful _ copy⟩
  apply finalTransition_lawful final rfl rfl
  intro record idle _
  exact idle

/-- A list of actions keeps to the conduct of an execution if its ending does. -/
theorem supervise_lawful {ending : Process}
    (onEnd : ∀ copy, ending.Lawful executionConduct copy) (actions : List SupervisorAction)
    (copy : MissionRecord) : (supervise ending actions).Lawful executionConduct copy := by
  induction actions generalizing copy with
  | nil => exact onEnd copy
  | cons action rest ih =>
    cases action with
    | mark stageName =>
      refine ⟨fun _ record => ⟨.of_same rfl rfl rfl, ⟨ih _, failMission_lawful _ _⟩,
        failMission_lawful _ record⟩, failMission_lawful _ copy⟩
    | check =>
      refine ⟨fun _ record => ?_, ih copy⟩
      beta_reduce
      split
      · exact finalizeCancelled_lawful record
      · exact ih record
    | heartbeat => exact ih copy

/-- A supervised mission keeps to the conduct of an execution. -/
theorem runMission_lawful (course : MissionCourse) (copy : MissionRecord) :
    (runMission course).Lawful executionConduct copy := by
  refine ⟨fun _ record => ⟨⟨.refl _ _, ?_, failMission_lawful _ record⟩,
    failMission_lawful _ record⟩, failMission_lawful _ copy⟩
  cases course.raisesAfter with
  | some count => exact supervise_lawful (failMission_lawful _) _ record
  | none =>
    apply supervise_lawful
    intro last
    cases course.requestValid with
    | true => exact updateMissionRecord_lawful (by decide) _ last
    | false => exact updateMissionRecord_lawful (by decide) _ last

/-- What a delivery does with the lease it acquired keeps to the conduct of an execution. -/
theorem executeJob_lawful (record : MissionRecord) (course : MissionCourse) :
    (executeJob record course).Lawful executionConduct record := by
  have executed : (executeMission course).Lawful executionConduct record := by
    unfold executeMission
    split
    · exact failMission_lawful _ record
    · split
      · exact failMission_lawful _ record
      · exact runMission_lawful course record
  exact ⟨.refl _ _, executed, executed⟩

/-- A request may end. -/
theorem finished_lawful (copy : MissionRecord) :
    Process.finished.Lawful PartyKind.request.conduct copy := trivial

/-- A cancellation keeps to the conduct of a request. -/
theorem cancelAssuranceMission_lawful (copy : MissionRecord) :
    cancelAssuranceMission.Lawful PartyKind.request.conduct copy := by
  refine ⟨fun _ record => ?_, trivial⟩
  beta_reduce
  split
  · exact trivial
  · split
    · refine transition_lawful finished_lawful ?_ ?_ record
      · intros
        exact trivial
      · intro now read written applied
        exact ⟨applyTransition_rule applied List.mem_cons_self rfl fun _ => rfl, trivial,
          fun _ => trivial⟩
    · split
      · refine ⟨⟨validateTransition_self _, .inl rfl, fun _ _ => rfl, fun _ _ => rfl, rfl⟩,
          trivial, trivial⟩
      · exact trivial

/-- A retry keeps to the conduct of a request. -/
theorem retryAssuranceMission_lawful (missionId : String) (copy : MissionRecord) :
    (retryAssuranceMission missionId).Lawful PartyKind.request.conduct copy := by
  refine ⟨fun _ record => ?_, trivial⟩
  beta_reduce
  split
  · exact trivial
  · refine transition_lawful finished_lawful ?_ ?_ record
    · intros
      exact trivial
    · intro now read written applied
      have rule : WriteRule PartyKind.request.conduct.targets read written :=
        applyTransition_rule applied (List.mem_cons_of_mem _ List.mem_cons_self) rfl
          fun other => absurd rfl other
      have queued : written.status = .queued := (applyTransition_allowed applied).2.1
      refine ⟨rule, ⟨⟨validateTransition_self _, .inl rfl, fun open_ => absurd queued open_,
        fun _ same => same, rfl⟩, trivial, trivial⟩, fun _ => ⟨⟨rule.valid, rule.target,
          fun open_ => absurd queued open_, fun open_ => absurd queued open_, rule.heartbeat⟩,
          trivial, trivial⟩⟩

end RateGuard
