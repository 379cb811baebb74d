import RateGuard.Explanations.Draft
import RateGuard.Foundation.EarlyExit
import RateGuard.Remediation.Revalidation
import RateGuard.Supervisor.Probing
import RateGuard.Supervisor.Stages

/-!
# Investigation of a mission

The state of a running mission and what its stages are built from: an outcome is recorded, a
cancellation is looked for, a decision is asked of Gemini within the budget. An investigation ends
with a record of the mission or with an exception.
-/

open DecimalFloat CalendarDate TopologicalSort EarlyExit

namespace RateGuard

/-- Identifiers that a response schema admits, between two numbers of them. -/
abbrev BoundedIds (least most : Nat) : Type :=
  { ids : List String // least ≤ ids.length ∧ ids.length ≤ most }

/-- `MAX_SELECTED_DIFFERENCES`. -/
def maxSelectedDifferences : Nat := 10

/-- `MAX_SELECTED_TESTS`. -/
def maxSelectedTests : Nat := 8

/-- `MAX_ADDITIONAL_PROBE_TESTS`. -/
def maxAdditionalProbeTests : Nat := 5

/-- `MAX_REMEDIATION_FINDINGS`. -/
def maxRemediationFindings : Nat := 20

/-- `MAX_REGRESSION_TESTS`. -/
def maxRegressionTests : Nat := 5

/-- A decision of Gemini that passed its schema. -/
structure GeminiDecision (α : Type) where
  /-- What is decided. -/
  decided : α
  /-- Rationale. -/
  rationale : String
  /-- Whether a human should look at it. -/
  needsHumanReview : Bool

/-- `GeminiDecisionClient.decide`: a decision, or the category of the failure. -/
abbrev GeminiReply (α : Type) := Except String (GeminiDecision α)

/-- `EvidenceSufficiencyDecision`. -/
structure EvidenceSufficiency where
  /-- Whether the evidence suffices. -/
  sufficient : Bool
  /-- Scenarios to probe otherwise. -/
  additionalTestIds : BoundedIds 0 maxAdditionalProbeTests

/-- `RemediationRevalidationSelectionDecision`. -/
structure RevalidationSelection where
  /-- Scenarios that failed before. -/
  targetedTestIds : BoundedIds 0 maxSelectedTests
  /-- Control scenarios. -/
  regressionTestIds : BoundedIds 0 maxRegressionTests

/-- `ExplanationDraftDecision`: its text is bounded. -/
abbrev DraftText : Type := { text : List Char // 1 ≤ text.length ∧ text.length ≤ 1200 }

/-- Gemini: its reply to each decision it is asked for, by the number of calls before. -/
structure GeminiClient where
  /-- Prioritizes differences. -/
  prioritizeDifferences : Nat → GeminiReply (BoundedIds 0 maxSelectedDifferences)
  /-- Selects tests. -/
  selectBoundaryTests : Nat → GeminiReply (BoundedIds 1 maxSelectedTests)
  /-- Decides whether the evidence suffices. -/
  evidenceSufficiency : Nat → GeminiReply EvidenceSufficiency
  /-- Decides whether the portfolio is scanned. -/
  portfolioJustification : Nat → GeminiReply Bool
  /-- Drafts an explanation. -/
  explanationDraft : Nat → GeminiReply DraftText
  /-- Selects findings that matter to an alignment. -/
  proposeAlignmentOptions : Nat → GeminiReply (BoundedIds 1 maxRemediationFindings)
  /-- Selects findings to correct. -/
  proposeRemediation : Nat → GeminiReply (BoundedIds 1 maxRemediationFindings)
  /-- Selects scenarios to rerun. -/
  selectRevalidationTests : Nat → GeminiReply RevalidationSelection

/-- `AnalysisStatus`, as far as a mission sets it. -/
inductive AnalysisStatus where
  | notRun | succeeded | failed
  deriving DecidableEq, Repr

/-- `SectionResult` without its texts. -/
structure SectionResult (α : Type) where
  /-- Status. -/
  status : AnalysisStatus
  /-- Data. -/
  data : Option α

/-- A section that did not run. -/
def SectionResult.notRun {α : Type} : SectionResult α := ⟨.notRun, none⟩

/-- A section with its data. -/
def SectionResult.succeeded {α : Type} (data : α) : SectionResult α := ⟨.succeeded, some data⟩

/-- Status of a release decision. -/
inductive ReleaseStatus where
  | pass | reviewRequired | blockDeployment
  deriving DecidableEq, Repr

/-- `ReleaseDecision`. -/
structure ReleaseDecision where
  /-- Status. -/
  status : ReleaseStatus
  /-- Summary. -/
  summary : String
  /-- Reasons. -/
  blockingReasons : List String
  /-- Recommendation. -/
  recommendation : String

/-- Overall status of a result. -/
inductive OverallStatus where
  | running | failed | cancelled | completed
  deriving DecidableEq, Repr

/-- `ExperimentsData`, as far as it counts experiments. -/
structure ExperimentsData where
  /-- Agreements. -/
  matchCount : Nat
  /-- Proven differences. -/
  mismatchCount : Nat
  /-- Probes without a conclusion. -/
  inconclusiveCount : Nat
  /-- Experiments. -/
  experiments : List RuntimeExperiment

/-- Root cause that a mission names. -/
structure MissionRootCause where
  /-- Node. -/
  nodeId : String
  /-- Title. -/
  title : String
  /-- Type of the divergence. -/
  divergenceType : String

/-- `ReconciliationData`. -/
structure ReconciliationData where
  /-- Differences. -/
  mismatchCount : Nat
  /-- First node that diverges. -/
  firstDivergentNode : Option String
  /-- Root cause. -/
  rootCause : Option MissionRootCause

/-- `AI_RUNTIME_NOT_INVOKED_STATUS` and its like. -/
inductive ModelStatus where
  | notInvoked | live | fallback
  deriving DecidableEq, Repr

/-- `AssuranceResultV2`, as far as the mission reads it again, and its decision. -/
structure AssuranceResult where
  /-- Overall status. -/
  overallStatus : OverallStatus
  /-- Validation. -/
  validation : SectionResult (List ValidationIssue)
  /-- Semantic analysis: the findings. -/
  semanticAnalysis : SectionResult (List MaterialFinding)
  /-- Experiments. -/
  experiments : SectionResult ExperimentsData
  /-- Reconciliation. -/
  reconciliation : SectionResult ReconciliationData
  /-- Portfolio: the absolute exposure. -/
  blastRadius : SectionResult Decimal
  /-- Facts of an explanation. -/
  explanationFacts : SectionResult ExplanationFacts
  /-- Draft of an explanation. -/
  explanationDraft : SectionResult ExplanationDraft
  /-- Remediation. -/
  remediation : SectionResult RemediationProposal
  /-- Revalidation. -/
  revalidation : SectionResult RevalidationResult
  /-- Decision. -/
  releaseDecision : Option ReleaseDecision
  /-- Outcomes of the stages. -/
  stageOutcomes : List StageOutcome
  /-- What Gemini did. -/
  modelStatus : ModelStatus

/-- The result before anything runs. -/
def AssuranceResult.begun : AssuranceResult where
  overallStatus := .running
  validation := .notRun
  semanticAnalysis := .notRun
  experiments := .notRun
  reconciliation := .notRun
  blastRadius := .notRun
  explanationFacts := .notRun
  explanationDraft := .notRun
  remediation := .notRun
  revalidation := .notRun
  releaseDecision := none
  stageOutcomes := []
  modelStatus := .notInvoked

/-- Evidence of a call of Gemini. -/
structure GeminiInvocation where
  /-- Decision it was asked for. -/
  decisionType : String
  /-- Category of the failure, if it failed. -/
  failureCategory : Option String
  deriving DecidableEq

/-- `AgentAction` of a decision, without its texts. -/
structure DecisionAction where
  /-- Decision. -/
  decisionType : String
  /-- Whether Gemini decided. -/
  isGeminiDecision : Bool
  /-- Why it did not. -/
  fallbackReason : Option String
  /-- Whether a human should look at it. -/
  needsHumanReview : Bool
  deriving DecidableEq

/-- `_InvestigationBudget`. -/
structure InvestigationBudget where
  /-- Calls of Gemini. -/
  geminiCallCount : Nat
  /-- Whether one succeeded. -/
  anyGeminiSuccess : Bool
  /-- Whether one failed. -/
  anyGeminiAttempted : Bool

/-- What the probes showed so far. -/
structure ProbeEvidence where
  /-- What the connector was asked. -/
  quotes : QuoteHistory
  /-- Experiments. -/
  experiments : List RuntimeExperiment
  /-- Agreements. -/
  matchCount : Nat
  /-- Proven differences. -/
  mismatchCount : Nat
  /-- Probes without a conclusion. -/
  inconclusiveCount : Nat

/-- No probe was run. -/
def ProbeEvidence.empty : ProbeEvidence := ⟨[], [], 0, 0, 0⟩

/-- A probe more. -/
def ProbeEvidence.add (evidence : ProbeEvidence) (probe : ExecutedProbe) : ProbeEvidence where
  quotes := evidence.quotes ++ probe.quote.toList
  experiments := evidence.experiments ++ [probe.experiment]
  matchCount := evidence.matchCount + if probe.experiment.outcome = .matched then 1 else 0
  mismatchCount := evidence.mismatchCount + if probe.experiment.outcome = .mismatched then 1 else 0
  inconclusiveCount :=
    evidence.inconclusiveCount + if probe.experiment.outcome = .inconclusive then 1 else 0

/-- `connector_probe_outcomes`. -/
def ProbeEvidence.connectorOutcomes (evidence : ProbeEvidence) : List ConnectorProbeStatus :=
  evidence.quotes.map Prod.snd

/-- `executed_test_ids`. -/
def ProbeEvidence.executedTestIds (evidence : ProbeEvidence) : List String :=
  evidence.experiments.map (·.experimentId)

/-- A running investigation. -/
structure Investigation where
  /-- Outcomes of the stages. -/
  recorder : StageRecorder
  /-- Times that a cancellation was looked for. -/
  cancellationChecks : Nat
  /-- Budget. -/
  budget : InvestigationBudget
  /-- Evidence of the calls of Gemini. -/
  invocations : List GeminiInvocation
  /-- Decisions. -/
  agentActions : List DecisionAction
  /-- Probes. -/
  evidence : ProbeEvidence
  /-- Result so far. -/
  result : AssuranceResult

/-- An investigation before anything runs. -/
def Investigation.begun : Investigation where
  recorder := .empty
  cancellationChecks := 0
  budget := ⟨0, false, false⟩
  invocations := []
  agentActions := []
  evidence := .empty
  result := .begun

/-- What a run of a mission returns and leaves as evidence. -/
structure AssuranceRecord where
  /-- Report. -/
  report : AssuranceResult
  /-- Decisions. -/
  agentActivity : List DecisionAction
  /-- Evidence of the calls of Gemini. -/
  invocations : List GeminiInvocation
  /-- What the connector was asked. -/
  quotes : QuoteHistory

/-- How an investigation ends early. -/
inductive MissionEnding where
  | finished (record : AssuranceRecord)
  | raised (fault : MissionFault)

/-- A part of an investigation. -/
abbrev Supervised (α : Type) := Program Investigation MissionEnding α

/-- `AgentConfig`, as far as a mission reads it. -/
structure AgentConfig where
  /-- Calls of Gemini in a mission. -/
  maxGeminiCallsPerMission : Nat
  /-- Rounds of additional probes. -/
  maxProbeRounds : Nat

/-- Records the outcome of a stage. -/
def recordStage (stage : MissionStage) (status : StageStatus) (reason : Option String) :
    Supervised Unit :=
  match StageOutcome.make stage status reason with
  | some outcome => modify fun state => { state with recorder := state.recorder.record outcome }
  | none => throw (.raised (.missingReason stage.value))

/-- Changes the result. -/
def setResult (change : AssuranceResult → AssuranceResult) : Supervised Unit :=
  modify fun state => { state with result := change state.result }

/-- Appends a decision. -/
def appendAction (action : DecisionAction) : Supervised Unit :=
  modify fun state => { state with agentActions := state.agentActions ++ [action] }

/-- Runs an engine. -/
def attempt {α : Type} (result : Except MissionFault α) : Supervised α :=
  match result with
  | .ok value => pure value
  | .error fault => throw (.raised fault)

/-- Record of an investigation with a given result. -/
def Investigation.concluded (state : Investigation) (report : AssuranceResult) : AssuranceRecord :=
  ⟨report, state.agentActions, state.invocations, state.evidence.quotes⟩

/-- Reason for which the stages behind a cancellation did not run. -/
def cancelledReason : String := "Mission was cancelled before this stage was reached."

/-- That reason is one. -/
theorem cancelledReason_ne : cancelledReason ≠ "" := by decide

/-- `_finalize_cancelled`. -/
def Investigation.finalizeCancelled (state : Investigation) : AssuranceRecord :=
  state.concluded { state.result with
    overallStatus := .cancelled
    stageOutcomes := (state.recorder.backfill cancelledReason cancelledReason_ne).outcomes }

/-- Looks for a cancellation, and ends the mission if there is one. -/
def checkCancelled (cancelled : Nat → Bool) : Supervised Unit := do
  let state ← get
  let next := { state with cancellationChecks := state.cancellationChecks + 1 }
  if cancelled state.cancellationChecks then throw (.finished next.finalizeCancelled)
  else set next

/-- Investigation after a call of Gemini. -/
def Investigation.asked {α : Type} (state : Investigation) (decisionType : String)
    (reply : GeminiReply α) : Investigation :=
  match reply with
  | .ok _ => { state with
      budget := { state.budget with
        geminiCallCount := state.budget.geminiCallCount + 1
        anyGeminiSuccess := true }
      invocations := state.invocations ++ [⟨decisionType, none⟩] }
  | .error category => { state with
      budget := { state.budget with
        geminiCallCount := state.budget.geminiCallCount + 1
        anyGeminiAttempted := true }
      invocations := state.invocations ++ [⟨decisionType, some category⟩] }

/-- `_ask_gemini`: no reply once the budget is spent. -/
def askGemini {α : Type} (config : AgentConfig) (decisionType : String)
    (decide : Nat → GeminiReply α) : Supervised (Option (GeminiReply α)) := do
  let state ← get
  if config.maxGeminiCallsPerMission ≤ state.budget.geminiCallCount then pure none
  else
    let reply := decide state.budget.geminiCallCount
    set (state.asked decisionType reply)
    pure (some reply)

/-- Reason for which a decision is not Gemini's. -/
def fallbackReason {α : Type} : Option (GeminiReply α) → String
  | none => "CALL_BUDGET_EXHAUSTED"
  | some (.error category) => category
  | some (.ok _) => "NO_VALID_IDS_IN_RESPONSE"

/-- Whether Gemini asks for a human to look at its decision. -/
def asksForReview {α : Type} : Option (GeminiReply α) → Bool
  | some (.ok decision) => decision.needsHumanReview
  | _ => false

/-- Identifiers of a decision that are in a pool. -/
def validIds {α : Type} (ids : α → List String) (pool : List String) :
    Option (GeminiReply α) → List String
  | some (.ok decision) => (ids decision.decided).filter pool.contains
  | _ => []

/-- Action of a decision that Gemini took or did not. -/
def decisionAction {α : Type} (decisionType : String) (reply : Option (GeminiReply α))
    (isGemini : Bool) : DecisionAction where
  decisionType := decisionType
  isGeminiDecision := isGemini
  fallbackReason := if isGemini then none else some (fallbackReason reply)
  needsHumanReview := isGemini && asksForReview reply

/-- Asks Gemini for identifiers of a pool. None are chosen if it names none of them. -/
def chooseIds {least most : Nat} (config : AgentConfig) (decisionType : String)
    (pool : List String) (decide : Nat → GeminiReply (BoundedIds least most)) :
    Supervised (List String) := do
  let reply ← askGemini config decisionType decide
  let chosen := validIds Subtype.val pool reply
  appendAction (decisionAction decisionType reply (!chosen.isEmpty))
  pure chosen

end RateGuard
