import RateGuard.Foundation.Dictionary

/-!
# Stages of a mission

A mission has twenty stages. Each ends in an outcome, which says why where the stage was not simply
completed. The recorder keeps the last outcome of each stage.
-/

namespace RateGuard

/-- `MissionStage`. -/
inductive MissionStage where
  | requestValidation | sourceALoad | sourceBLoadOrConnectorCheck | compatibilityGate | semanticDiff
  | dependencyImpact | testCandidateGeneration | testSelection | oracleExecution | targetExecution
  | reconciliation | portfolioImpact | pipelineImpact | cohortDistribution | remediation
  | revalidation | explanationFacts | explanationDraft | decision | evidenceFinalization
  deriving DecidableEq, Repr

/-- The value of a stage. -/
def MissionStage.value : MissionStage → String
  | .requestValidation => "REQUEST_VALIDATION"
  | .sourceALoad => "SOURCE_A_LOAD"
  | .sourceBLoadOrConnectorCheck => "SOURCE_B_LOAD_OR_CONNECTOR_CHECK"
  | .compatibilityGate => "COMPATIBILITY_GATE"
  | .semanticDiff => "SEMANTIC_DIFF"
  | .dependencyImpact => "DEPENDENCY_IMPACT"
  | .testCandidateGeneration => "TEST_CANDIDATE_GENERATION"
  | .testSelection => "TEST_SELECTION"
  | .oracleExecution => "ORACLE_EXECUTION"
  | .targetExecution => "TARGET_EXECUTION"
  | .reconciliation => "RECONCILIATION"
  | .portfolioImpact => "PORTFOLIO_IMPACT"
  | .pipelineImpact => "PIPELINE_IMPACT"
  | .cohortDistribution => "COHORT_DISTRIBUTION"
  | .remediation => "REMEDIATION"
  | .revalidation => "REVALIDATION"
  | .explanationFacts => "EXPLANATION_FACTS"
  | .explanationDraft => "EXPLANATION_DRAFT"
  | .decision => "DECISION"
  | .evidenceFinalization => "EVIDENCE_FINALIZATION"

/-- `MISSION_STAGE_ORDER`. -/
def missionStageOrder : List MissionStage :=
  [.requestValidation, .sourceALoad, .sourceBLoadOrConnectorCheck, .compatibilityGate,
    .semanticDiff, .dependencyImpact, .testCandidateGeneration, .testSelection, .oracleExecution,
    .targetExecution, .reconciliation, .portfolioImpact, .pipelineImpact, .cohortDistribution,
    .remediation, .revalidation, .explanationFacts, .explanationDraft, .decision,
    .evidenceFinalization]

/-- Every stage has its place in the order. -/
theorem mem_missionStageOrder (stage : MissionStage) : stage ∈ missionStageOrder := by
  cases stage <;> decide

/-- `StageStatus`. -/
inductive StageStatus where
  | completed | failed | reviewRequired | notApplicable
  deriving DecidableEq, Repr

/-- `StageOutcome` without its time, which is an outcome only with the reason that its status
needs. -/
structure StageOutcome where
  /-- Stage. -/
  stage : MissionStage
  /-- Status. -/
  status : StageStatus
  /-- Reason. -/
  reason : Option String
  /-- A stage that is not completed says why. -/
  explained : status ≠ .completed → reason ≠ none ∧ reason ≠ some ""

/-- The check of `StageOutcome`. -/
def StageOutcome.make (stage : MissionStage) (status : StageStatus) (reason : Option String) :
    Option StageOutcome :=
  if explained : status ≠ .completed → reason ≠ none ∧ reason ≠ some "" then
    some ⟨stage, status, reason, explained⟩
  else none

/-- Whether a stage was completed or does not apply. -/
def StageStatus.Clear (status : StageStatus) : Prop := status = .completed ∨ status = .notApplicable

/-- A reason explains any status. -/
theorem reason_explains {reason : String} (given : reason ≠ "") :
    some reason ≠ none ∧ some reason ≠ some "" :=
  ⟨Option.some_ne_none reason, fun same => given (Option.some.inj same)⟩

/-- Outcome of a completed stage. -/
def StageOutcome.completed (stage : MissionStage) : StageOutcome :=
  ⟨stage, .completed, none, fun incomplete => absurd rfl incomplete⟩

/-- Outcome of a stage that does not apply. -/
def StageOutcome.skipped (stage : MissionStage) (reason : String) (given : reason ≠ "") :
    StageOutcome :=
  ⟨stage, .notApplicable, some reason, fun _ => reason_explains given⟩

/-- `StageRecorder`: the last outcome of each stage, under its stage. -/
structure StageRecorder where
  /-- Outcomes. -/
  recorded : List (MissionStage × StageOutcome)
  /-- They are filed under their stages. -/
  filed : ∀ entry ∈ recorded, entry.2.stage = entry.1

namespace StageRecorder

/-- Nothing is recorded. -/
def empty : StageRecorder := ⟨[], List.forall_mem_nil _⟩

/-- `StageRecorder.record` of an outcome. -/
def record (recorder : StageRecorder) (outcome : StageOutcome) : StageRecorder where
  recorded := Dictionary.change recorder.recorded outcome.stage fun _ => outcome
  filed entry member := by
    rcases Dictionary.mem_change member with rfl | old
    · rfl
    · exact recorder.filed entry old

/-- `outcome_for`. -/
def outcomeFor (recorder : StageRecorder) (stage : MissionStage) : Option StageOutcome :=
  recorder.recorded.lookup stage

/-- `missing_stages`. -/
def missingStages (recorder : StageRecorder) : List MissionStage :=
  missionStageOrder.filter fun stage => (recorder.outcomeFor stage).isNone

/-- `outcomes`. -/
def outcomes (recorder : StageRecorder) : List StageOutcome :=
  missionStageOrder.filterMap recorder.outcomeFor

/-- Stages that are recorded as not applicable. -/
def skip (recorder : StageRecorder) (reason : String) (given : reason ≠ "")
    (stages : List MissionStage) : StageRecorder :=
  stages.foldl (fun filled stage => filled.record (.skipped stage reason given)) recorder

/-- `_finalize_stage_outcomes` without the result: the missing stages do not apply. -/
def backfill (recorder : StageRecorder) (reason : String) (given : reason ≠ "") : StageRecorder :=
  recorder.skip reason given recorder.missingStages

/-- What is recorded for a stage after a record. -/
@[simp] theorem outcomeFor_record (recorder : StageRecorder) (outcome : StageOutcome)
    (stage : MissionStage) :
    (recorder.record outcome).outcomeFor stage =
      if stage = outcome.stage then some outcome else recorder.outcomeFor stage :=
  Dictionary.lookup_change recorder.recorded outcome.stage stage _

/-- The outcome of a stage is about it. -/
theorem outcomeFor_stage {recorder : StageRecorder} {stage : MissionStage}
    {outcome : StageOutcome} (found : recorder.outcomeFor stage = some outcome) :
    outcome.stage = stage :=
  recorder.filed (stage, outcome) (Dictionary.mem_of_lookup found)

/-- A stage is missing exactly if nothing is recorded for it. -/
theorem mem_missingStages {recorder : StageRecorder} {stage : MissionStage} :
    stage ∈ recorder.missingStages ↔ recorder.outcomeFor stage = none := by
  unfold missingStages
  rw [List.mem_filter, Option.isNone_iff_eq_none]
  exact and_iff_right (mem_missionStageOrder stage)

/-- What is recorded for a stage after others were skipped. -/
theorem outcomeFor_skip (recorder : StageRecorder) (reason : String) (given : reason ≠ "")
    (stages : List MissionStage) (stage : MissionStage) :
    (recorder.skip reason given stages).outcomeFor stage =
      if stage ∈ stages then some (.skipped stage reason given) else recorder.outcomeFor stage := by
  induction stages generalizing recorder with
  | nil => rfl
  | cons first rest ih =>
    have step : (recorder.skip reason given (first :: rest)) =
        (recorder.record (.skipped first reason given)).skip reason given rest := rfl
    rw [step, ih, outcomeFor_record]
    by_cases later : stage ∈ rest
    · rw [if_pos later, if_pos (List.mem_cons_of_mem first later)]
    · rw [if_neg later]
      by_cases own : stage = first
      · subst own
        rw [if_pos List.mem_cons_self]
        exact if_pos rfl
      · have absent : stage ∉ first :: rest := fun member =>
          (List.mem_cons.mp member).elim own later
        rw [if_neg absent]
        exact if_neg own

/-- Behind a backfill every stage has its outcome, and the recorded ones stay. -/
theorem outcomeFor_backfill (recorder : StageRecorder) (reason : String) (given : reason ≠ "")
    (stage : MissionStage) :
    (recorder.backfill reason given).outcomeFor stage =
      some ((recorder.outcomeFor stage).getD (.skipped stage reason given)) := by
  unfold backfill
  rw [outcomeFor_skip]
  cases found : recorder.outcomeFor stage with
  | none => exact if_pos (mem_missingStages.mpr found)
  | some outcome =>
    have present : stage ∉ recorder.missingStages := fun missing =>
      nomatch found.symm.trans (mem_missingStages.mp missing)
    exact if_neg present

/-- An outcome in the order of the stages is that of its stage. -/
theorem mem_outcomes {recorder : StageRecorder} {outcome : StageOutcome}
    (member : outcome ∈ recorder.outcomes) : recorder.outcomeFor outcome.stage = some outcome := by
  obtain ⟨stage, -, found⟩ := List.mem_filterMap.mp member
  rw [outcomeFor_stage found]
  exact found

/-- If no stage is missing, the outcomes are those of all stages in order. -/
theorem outcomes_stages {recorder : StageRecorder}
    (complete : ∀ stage, recorder.outcomeFor stage ≠ none) :
    recorder.outcomes.map (·.stage) = missionStageOrder := by
  unfold outcomes
  generalize missionStageOrder = stages
  induction stages with
  | nil => rfl
  | cons stage rest ih =>
    obtain ⟨outcome, found⟩ := Option.ne_none_iff_exists'.mp (complete stage)
    rw [List.filterMap_cons_some found, List.map_cons, ih, outcomeFor_stage found]

end StageRecorder

end RateGuard
