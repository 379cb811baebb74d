import RateGuard.Supervisor.Investigation

/-!
# Run of a mission

The supervisor runs the stages of a mission in turn. The engines, the connector and the impact
runner decide what is found; Gemini is asked along the way which of the found things to look at.
-/

open DecimalFloat CalendarDate TopologicalSort EarlyExit

namespace RateGuard

/-- What the impact runner found, and which analytics it computed. -/
structure ImpactRun where
  /-- Aggregate. -/
  aggregate : ImpactAggregate
  /-- Whether it distributes the impact over cohorts. -/
  hasCohorts : Bool
  /-- Whether it has the impact on renewals. -/
  hasPipeline : Bool

/-- A mission with everything that its findings depend on. -/
structure MissionSetting where
  /-- Mission. -/
  mission : AssuranceMission
  /-- First source. -/
  leftPkg : CompiledSource
  /-- Second source. -/
  target : MissionTarget
  /-- Verified control cases. -/
  controlCases : List ControlCase
  /-- Why the first source should be uploaded again. -/
  sourceCompatibilityNotice : Option String
  /-- Registered connectors. -/
  registry : ConnectorRegistry
  /-- Connector of the second source. -/
  sendQuote : SendQuote
  /-- Impact runner, after all that the connector was asked before. -/
  impactRunner : Option (QuoteHistory → Except String ImpactRun)
  /-- Portfolio. -/
  portfolio : Portfolio
  /-- Engine that reconciles two packages: mismatches and root causes. -/
  reconcilePackages : PackageContent → PackageContent →
    Except Failure (Nat × List MissionRootCause)
  /-- Whether an amount is positive as a float. -/
  positiveFloat : Decimal → Bool
  /-- Printed coverage of an impact. -/
  coveragePct : ImpactAggregate → String
  /-- Order of computations. -/
  sorter : Sorter String
  /-- Inherited members of predicates. -/
  inherited : InheritedMembers
  /-- Printed control cases. -/
  printed : ControlCase → String → String
  /-- Descriptions of differences. -/
  description : SemanticDifference → String
  /-- Lowercase of the scripts. -/
  lowering : Lowering
  /-- Identifiers drawn for findings. -/
  findingId : Nat → String
  /-- Identifier drawn for a remediation. -/
  remediationId : String
  /-- Identifier drawn for a derived package. -/
  derivedPackageId : String

/-- What advises a mission without a say in its findings: Gemini, its budgets, and whether a
cancellation is found by the number of times it was looked for before. -/
structure MissionAdvice where
  /-- Gemini. -/
  gemini : GeminiClient
  /-- Budgets. -/
  config : AgentConfig
  /-- Cancellations. -/
  cancelled : Nat → Bool

/-- `DEFAULT_MAX_PROBES`. -/
def defaultMaxProbes : Int := 15

/-- An engine of the packages. -/
def fromEngine {α : Type} (result : Except Failure α) : Except MissionFault α :=
  result.mapError .engine

/-- Records stages that completed. -/
def recordCompleted (stages : List MissionStage) : Supervised Unit :=
  stages.forM fun stage => recordStage stage .completed none

namespace MissionSetting

variable (setting : MissionSetting) (advice : MissionAdvice)

/-- Reasons for a review that are known from the beginning. -/
def startingReasons : List String :=
  reviewReasons setting.mission setting.leftPkg setting.target.rightPkg
    setting.sourceCompatibilityNotice

/-- Reason for which the stages behind a failed validation did not run. -/
def unreachedReason : String := "Mission failed request validation before this stage was reached."

/-- That reason is one. -/
theorem unreachedReason_ne : unreachedReason ≠ "" := by decide

/-- Record of a mission that failed its validation. -/
def finalizeFailed (state : Investigation) (issues : List ValidationIssue) : AssuranceRecord :=
  state.concluded { state.result with
    overallStatus := .failed
    validation := ⟨.failed, some issues⟩
    stageOutcomes := (state.recorder.backfill unreachedReason unreachedReason_ne).outcomes }

/-- Stage 1: the request is validated. -/
def validateRequest : Supervised Unit := do
  let issues := validateMission setting.registry setting.mission
  if issues = [] then
    recordCompleted [.requestValidation, .sourceALoad]
    setResult fun result => { result with validation := .succeeded [] }
  else
    recordStage .requestValidation .failed (some ("; ".intercalate
      (issues.map fun issue => issue.field ++ ": " ++ issue.message)))
    let state ← get
    throw (.finished (finalizeFailed state issues))

/-- The second source is there, or a connector stands for it. -/
def recordTarget : Supervised Unit :=
  if setting.target.rightPkg.isSome ∨ setting.target.targetConnector.isSome then
    recordStage .sourceBLoadOrConnectorCheck .completed none
  else
    recordStage .sourceBLoadOrConnectorCheck .notApplicable
      (some "No Source B (IPIR package or connector) was provided for this mission.")

/-- The compatibility gate. -/
def compatibilityGate : Supervised Unit := do
  setting.recordTarget
  if setting.startingReasons = [] then recordStage .compatibilityGate .completed none
  else
    recordStage .compatibilityGate .reviewRequired (some (" ".intercalate setting.startingReasons))
  checkCancelled advice.cancelled

/-- Findings of a comparison. -/
def findings (diff : SemanticDiffResult) : List MaterialFinding :=
  toMaterialFindings ((List.range diff.differences.length).map setting.findingId) diff

/-- What the comparison found. -/
structure Compared where
  /-- Differences. -/
  rawDiffResult : Option SemanticDiffResult
  /-- Findings. -/
  semDiffs : List MaterialFinding

/-- Gemini may prioritize findings, which only guides its later choices. -/
def prioritizeDifferences (semDiffs : List MaterialFinding) : Supervised Unit := do
  if semDiffs.isEmpty then pure ()
  else
    checkCancelled advice.cancelled
    let _ ← chooseIds advice.config "PRIORITIZE_DIFFERENCES" (semDiffs.map (·.findingId))
      advice.gemini.prioritizeDifferences

/-- Stage 2: semantic analysis. -/
def semanticAnalysis : Supervised Compared := do
  match setting.target.rightPkg with
  | some right =>
    let diff ← attempt (fromEngine (comparePackages setting.leftPkg.toPackageContent
      right.toPackageContent))
    setResult fun result =>
      { result with semanticAnalysis := .succeeded (setting.findings diff) }
    prioritizeDifferences advice (setting.findings diff)
    recordStage .semanticDiff .completed none
    pure ⟨some diff, setting.findings diff⟩
  | none =>
    recordStage .semanticDiff .notApplicable (some
      (if setting.target.targetConnector.isSome then
        "A live connector target has no AST to compare against; semantic diff requires two IPIR " ++
        "packages."
      else "No comparison target (Source B) was provided for this mission."))
    pure ⟨none, []⟩

/-- Plan for the differences of two packages. -/
def planDifferences (diff : SemanticDiffResult) (predicates : List ImpactPredicate) :
    Except MissionFault PricingTestPlan :=
  fromEngine (generatePlan setting.printed setting.description setting.sorter
    setting.leftPkg.toPackageContent diff predicates setting.controlCases defaultMaxProbes)

/-- `analyze` of the impact engine. -/
def impactPredicates (diff : SemanticDiffResult) : Except MissionFault (List ImpactPredicate) :=
  fromEngine (candidatePredicates setting.sorter diff setting.leftPkg.toPackageContent)

/-- Probe of two packages that do not differ. -/
def cleanProbe (right : CompiledSource) (scenario : TestScenario) :
    Except MissionFault RuntimeExperiment := do
  let expected ← fromEngine (calculatePolicyPremium setting.sorter
    setting.leftPkg.toPackageContent scenario.toPricingTestScenario)
  let actual ← fromEngine (calculatePolicyPremium setting.sorter right.toPackageContent
    scenario.toPricingTestScenario)
  let equal ← arithmetic (expected.finalPremium.eq actual.finalPremium)
  pure (comparedExperiment scenario .boundary expected.finalPremium actual.finalPremium equal)

/-- Probes of two packages that do not differ: the first five of the plan. -/
def cleanProbes (right : CompiledSource) (diff : SemanticDiffResult) :
    Except MissionFault (List RuntimeExperiment) := do
  let predicates ← setting.impactPredicates diff
  let plan ← setting.planDifferences diff predicates
  (plan.selectedScenarios.take 5).mapM (setting.cleanProbe right)

/-- Decision on packages that neither differ nor price any probe differently. -/
def cleanDecision : ReleaseDecision :=
  if setting.startingReasons = [] then {
    status := .pass
    summary := "Full behavioral and semantic equivalence verified. Zero pricing drift or " ++
      "financial exposure detected."
    blockingReasons := []
    recommendation := "Approve pricing engine release for production deployment." }
  else {
    status := .reviewRequired
    summary := "Semantic and behavioral evidence agree, but this mission cannot issue a PASS: " ++
      " ".intercalate setting.startingReasons
    blockingReasons := setting.startingReasons
    recommendation := "Resolve the flagged issue, then re-run assurance verification." }

/-- Decision on packages that do not differ but price a probe differently. -/
def blindSpotDecision (mismatches probes : Nat) : ReleaseDecision where
  status := .blockDeployment
  summary := toString mismatches ++ " of " ++ toString probes ++ " behavioral verification probes " ++
    "reproduced a premium mismatch despite 0 detected AST differences."
  blockingReasons := [toString mismatches ++ " behavioral mismatch(es) reproduced despite a clean " ++
    "semantic AST comparison -- semantic-diff coverage gap."]
  recommendation := "Do not deploy. Investigate why the semantic diff engine did not detect a " ++
    "difference that produces divergent runtime premiums."

/-- Closes a mission without differences: the decision, then the stages that do not apply. -/
def closeClean (reason : String) (given : reason ≠ "") : Supervised AssuranceRecord := do
  recordStage .decision .completed none
  modify fun state => { state with recorder := state.recorder.backfill reason given }
  recordStage .evidenceFinalization .completed none
  let state ← get
  pure (state.concluded { state.result with
    overallStatus := .completed
    stageOutcomes := state.recorder.outcomes })

/-- Reason for the stages that a mission without differences does not need. -/
def cleanReason : String :=
  "Not applicable: zero behavioral mismatches reproduced in the clean-equivalence fast path."

/-- That reason is one. -/
theorem cleanReason_ne : cleanReason ≠ "" := by decide

/-- Reason for the stages that a blind spot leaves out. -/
def blindSpotReason : String :=
  "Not applicable: mission resolved via the semantic-diff-blind-spot fast path."

/-- That reason is one. -/
theorem blindSpotReason_ne : blindSpotReason ≠ "" := by decide

/-- Data of clean probes. -/
def cleanData (experiments : List RuntimeExperiment) : ExperimentsData where
  matchCount := outcomeCount .matched experiments
  mismatchCount := experiments.length - outcomeCount .matched experiments
  inconclusiveCount := 0
  experiments := experiments

/-- Node that stands for what the comparison did not see. -/
def blindSpot : String := "semantic_diff_blind_spot"

/-- Reconciliation of a blind spot. -/
def blindSpotReconciliation (mismatches : Nat) : ReconciliationData where
  mismatchCount := mismatches
  firstDivergentNode := some blindSpot
  rootCause := some ⟨blindSpot, "Semantic Diff Coverage Gap", "SEMANTIC_DIFF_BLIND_SPOT"⟩

/-- The branch of packages that do not differ. -/
def cleanEquivalence (right : CompiledSource) (diff : SemanticDiffResult) :
    Supervised AssuranceRecord := do
  recordCompleted [.dependencyImpact, .testCandidateGeneration, .testSelection, .oracleExecution,
    .targetExecution]
  let experiments ← attempt (setting.cleanProbes right diff)
  let data := cleanData experiments
  setResult fun result => { result with experiments := .succeeded data }
  if data.mismatchCount = 0 then
    setResult fun result => { result with
      blastRadius := .succeeded zeroCents
      releaseDecision := some setting.cleanDecision }
    closeClean cleanReason cleanReason_ne
  else
    setResult fun result => { result with
      reconciliation := .succeeded (blindSpotReconciliation data.mismatchCount)
      releaseDecision := some (blindSpotDecision data.mismatchCount experiments.length) }
    recordStage .reconciliation .completed none
    recordStage .portfolioImpact .notApplicable (some
      "Portfolio scan skipped pending root-cause triage of the semantic-diff blind spot.")
    closeClean blindSpotReason blindSpotReason_ne

/-- Stage 3: impact analysis. -/
def traceImpact (compared : Compared) : Supervised (Option (List ImpactPredicate)) := do
  match compared.rawDiffResult with
  | some diff =>
    let predicates ← attempt (setting.impactPredicates diff)
    recordStage .dependencyImpact .completed none
    checkCancelled advice.cancelled
    pure (some predicates)
  | none =>
    recordStage .dependencyImpact .notApplicable (some
      (if setting.target.targetConnector.isSome then
        "A live connector target has no AST diffs to trace impact from."
      else "Dependency impact graph traversal skipped: no comparison target available."))
    checkCancelled advice.cancelled
    pure none

/-- Scenario of an identifier in a pool; the last one counts. -/
def scenarioOf (pool : List TestScenario) (id : String) : Option TestScenario :=
  pool.reverse.find? fun scenario => scenario.id = id

/-- Plan for a connector, from the first source alone. -/
def planConnector : Except MissionFault PricingTestPlan :=
  setting.planDifferences {
    leftPackageId := setting.leftPkg.id
    rightPackageId := setting.leftPkg.id
    leftVersion := setting.leftPkg.version
    rightVersion := setting.leftPkg.version
    differences := [] } []

/-- Plan of the tests, and the tests that are selected of it. -/
abbrev Selection := PricingTestPlan × List TestScenario

/-- Selection of tests for a connector: all that the plan selects. -/
def selectConnectorTests : Supervised Selection := do
  let plan ← attempt setting.planConnector
  recordCompleted [.testCandidateGeneration, .testSelection]
  pure (plan, plan.selectedScenarios)

/-- Selection of tests for two packages: Gemini may choose among the candidates. -/
def selectPackageTests (diff : SemanticDiffResult) (predicates : List ImpactPredicate) :
    Supervised Selection := do
  let plan ← attempt (setting.planDifferences diff predicates)
  recordStage .testCandidateGeneration .completed none
  checkCancelled advice.cancelled
  let chosen ← chooseIds advice.config "SELECT_BOUNDARY_TESTS"
    (plan.candidateScenarios.map (·.id)) advice.gemini.selectBoundaryTests
  recordStage .testSelection .completed none
  pure (plan, if chosen.isEmpty then plan.selectedScenarios
    else chosen.filterMap (scenarioOf plan.candidateScenarios))

/-- Stage 4: tests are planned and selected. Without a target there is no plan to read from. -/
def selectTests (compared : Compared) (predicates : Option (List ImpactPredicate)) :
    Supervised Selection := do
  match setting.target.targetConnector with
  | some _ => setting.selectConnectorTests
  | none =>
    match compared.rawDiffResult, predicates with
    | some diff, some predicates => setting.selectPackageTests advice diff predicates
    | _, _ =>
      recordStage .testCandidateGeneration .notApplicable (some
        "No comparison target available to generate targeted test candidates from.")
      recordStage .testSelection .notApplicable (some
        "No test candidates were generated for this mission.")
      throw (.raised .missingPlan)

/-- `_execute_probe`. -/
def probe (category : ExperimentCategory) (scenario : TestScenario) : Supervised Unit := do
  let state ← get
  let executed ← attempt (executedProbe setting.sorter setting.mission setting.leftPkg
    setting.target setting.sendQuote state.evidence.quotes category scenario)
  modify fun state => { state with evidence := state.evidence.add executed }

/-- Candidates that were not probed. -/
def remainingPool (plan : PricingTestPlan) (evidence : ProbeEvidence) : List TestScenario :=
  plan.candidateScenarios.filter fun scenario => !evidence.executedTestIds.contains scenario.id

/-- Probes that Gemini asks for of the remaining pool. -/
def additionalProbes (remaining : List TestScenario)
    (reply : Option (GeminiReply EvidenceSufficiency)) : List TestScenario :=
  ((validIds (·.additionalTestIds.val) (remaining.map (·.id)) reply).take
    maxAdditionalProbeTests).filterMap (scenarioOf remaining)

/-- Whether Gemini decided that there is enough evidence. -/
def endsProbing : Option (GeminiReply EvidenceSufficiency) → Bool
  | some (.ok decision) =>
    decision.decided.sufficient || decision.decided.additionalTestIds.val.isEmpty
  | _ => false

/-- A round of additional probes, and whether there may be another one. -/
def probeRound (plan : PricingTestPlan) : Supervised Bool := do
  let state ← get
  let remaining := remainingPool plan state.evidence
  if remaining.isEmpty then pure false
  else
    let reply ← askGemini advice.config "EVIDENCE_SUFFICIENCY" advice.gemini.evidenceSufficiency
    let extra := if endsProbing reply then [] else additionalProbes remaining reply
    appendAction (decisionAction "EVIDENCE_SUFFICIENCY" reply (endsProbing reply || !extra.isEmpty))
    extra.forM (setting.probe .additionalProbe)
    pure (!extra.isEmpty)

/-- Rounds of additional probes, while there are proven differences and calls left. -/
def probeRounds (plan : PricingTestPlan) : Nat → Supervised Unit
  | 0 => pure ()
  | rounds + 1 => do
    let state ← get
    if 0 < state.evidence.mismatchCount ∧
        state.budget.geminiCallCount < advice.config.maxGeminiCallsPerMission then
      checkCancelled advice.cancelled
      let more ← setting.probeRound advice plan
      if more then probeRounds plan rounds else pure ()
    else pure ()

/-- Data of the probes. -/
def probeData (evidence : ProbeEvidence) : ExperimentsData where
  matchCount := evidence.matchCount
  mismatchCount := evidence.mismatchCount
  inconclusiveCount := evidence.inconclusiveCount
  experiments := evidence.experiments

/-- The probes of stage 4. -/
def executeProbes (selection : Selection) : Supervised Unit := do
  selection.2.forM (setting.probe .riskDirected)
  setting.probeRounds advice selection.1 advice.config.maxProbeRounds
  let state ← get
  setResult fun result => { result with experiments := .succeeded (probeData state.evidence) }

end MissionSetting

end RateGuard
