import RateGuard.Supervisor.Run

/-!
# Release decision of a mission

The stages behind the probes: what explains a difference, what it costs, how it could be corrected,
and the decision. The decision blocks on proven differences, asks for a review where the evidence is
incomplete, and passes otherwise.
-/

open DecimalFloat CalendarDate TopologicalSort EarlyExit

namespace RateGuard

/-- `connector_all_probes_failed`. -/
def ProbeEvidence.allProbesFailed (evidence : ProbeEvidence) : Bool :=
  evidence.connectorOutcomes.all (· ≠ .success)

/-- `connector_any_partial_response`. -/
def ProbeEvidence.anyPartialResponse (evidence : ProbeEvidence) : Bool :=
  evidence.connectorOutcomes.contains .partialResponse

/-- The value of a status. -/
def ImpactStatus.value : ImpactStatus → String
  | notRun => "NOT_RUN"
  | queued => "QUEUED"
  | running => "RUNNING"
  | complete => "COMPLETE"
  | partialScan => "PARTIAL"
  | cancelled => "CANCELLED"
  | failed => "FAILED"

/-- Printed reasons, or what stands for them. -/
def reasonsOr (reasons : List String) (default : String) : String :=
  if reasons.isEmpty then default else "; ".intercalate reasons

namespace MissionSetting

variable (setting : MissionSetting) (advice : MissionAdvice)

/-- Outcome of the execution of the target by a connector. -/
def connectorExecution (evidence : ProbeEvidence) : StageStatus × Option String :=
  if evidence.connectorOutcomes.isEmpty then
    (.reviewRequired, some "No connector probes were executed for this mission.")
  else if evidence.allProbesFailed then
    (.reviewRequired, some ("All " ++ toString evidence.connectorOutcomes.length ++
      " connector probe(s) failed to return a premium."))
  else if evidence.anyPartialResponse then
    (.reviewRequired,
      some "One or more connector probes returned a partial/incomplete response.")
  else (.completed, none)

/-- The executions of stage 4 are recorded. -/
def recordExecution (selection : Selection) : Supervised Unit := do
  if setting.target.targetConnector.isSome then
    recordStage .oracleExecution .completed none
    let state ← get
    let execution := connectorExecution state.evidence
    recordStage .targetExecution execution.1 execution.2
  else if selection.2.isEmpty then
    recordStage .oracleExecution .notApplicable
      (some "No test scenarios were generated to execute.")
    recordStage .targetExecution .notApplicable
      (some "No test scenarios were generated to execute.")
  else
    recordStage .oracleExecution .completed none
    if setting.target.rightPkg.isSome then recordStage .targetExecution .completed none
    else
      recordStage .targetExecution .notApplicable (some "No comparison target available.")

/-- Reconciliation of two packages. -/
def packageReconciliation (reconciled : Nat × List MissionRootCause) : ReconciliationData where
  mismatchCount := reconciled.1
  firstDivergentNode := reconciled.2.head?.map (·.nodeId)
  rootCause := reconciled.2.head?

/-- Reconciliation with a connector: only the premium is known to differ. -/
def connectorReconciliation (mismatches : Nat) : ReconciliationData where
  mismatchCount := mismatches
  firstDivergentNode := some "connector_final_premium"
  rootCause := some ⟨"connector_final_premium", "Connector Premium Divergence",
    "CONNECTOR_PREMIUM_MISMATCH"⟩

/-- Records that no difference is left to reconcile. -/
def reconcileNothing : Supervised Unit :=
  recordStage .reconciliation .notApplicable
    (some "Zero price divergences reproduced during experiment probing.")

/-- Stage 5: reconciliation. -/
def reconcileStage : Supervised Unit := do
  let state ← get
  if state.evidence.mismatchCount = 0 then reconcileNothing
  else
    match setting.target.rightPkg, setting.target.targetConnector with
    | some right, _ =>
      let reconciled ← attempt (fromEngine (setting.reconcilePackages
        setting.leftPkg.toPackageContent right.toPackageContent))
      setResult fun result => { result with
        reconciliation := .succeeded (packageReconciliation reconciled) }
      recordStage .reconciliation .completed none
    | none, some _ =>
      match state.evidence.experiments.find? (·.outcome = .mismatched) with
      | some _ =>
        setResult fun result => { result with
          reconciliation := .succeeded (connectorReconciliation state.evidence.mismatchCount) }
        recordStage .reconciliation .completed none
      | none => throw (.raised .noElement)
    | none, none => reconcileNothing

/-- Whether the portfolio is scanned: Gemini may waive it where no difference was proven. -/
def justifyPortfolio : Supervised Bool := do
  let state ← get
  if setting.target.rightPkg.isSome ∧ state.evidence.mismatchCount = 0 then
    checkCancelled advice.cancelled
    let reply ← askGemini advice.config "PORTFOLIO_JUSTIFICATION"
      advice.gemini.portfolioJustification
    match reply with
    | some (.ok decision) =>
      appendAction (decisionAction "PORTFOLIO_JUSTIFICATION" reply true)
      pure decision.decided
    | _ =>
      appendAction (decisionAction "PORTFOLIO_JUSTIFICATION" reply false)
      pure true
  else pure true

/-- Note that a connector is unavailable. -/
def unavailableNote : String :=
  "Portfolio repricing was not attempted: every connector probe failed to return a premium, so the " ++
  "connector is treated as unavailable."

/-- What the impact runner found, or why it was not run. -/
inductive ConnectorImpact where
  | found (run : ImpactRun)
  | note (text : String)
  | unavailable

/-- `connector_impact` and `connector_impact_note`. -/
def connectorImpact (evidence : ProbeEvidence) : Except MissionFault ConnectorImpact :=
  match setting.target.targetConnector, setting.impactRunner with
  | some _, some runner =>
    if evidence.connectorOutcomes.isEmpty || evidence.allProbesFailed then
      .ok (.note unavailableNote)
    else ((runner evidence.quotes).map .found).mapError .external
  | _, _ => .ok .unavailable

/-- Runs the impact runner; a cancelled scan ends the mission. -/
def runImpact : Supervised ConnectorImpact := do
  let state ← get
  let impact ← attempt (setting.connectorImpact state.evidence)
  match impact with
  | .found run =>
    if run.aggregate.status = .cancelled then throw (.finished state.finalizeCancelled)
    else pure impact
  | _ => pure impact

/-- Outcome of the portfolio stage of a scan by a connector. -/
def impactOutcome (aggregate : ImpactAggregate) : StageStatus × Option String :=
  if aggregate.completeness = .complete then (.completed, none)
  else (.reviewRequired, some ("Connector impact scan incomplete: " ++
    reasonsOr aggregate.incompleteReasons "see impact evidence"))

/-- Stage 6 with two packages or without an impact: the portfolio is scanned unless it was
waived. -/
def scanPortfolio (runPortfolio : Bool) : Supervised (Option PortfolioExposureResult) := do
  match setting.target.rightPkg with
  | some right =>
    if runPortfolio then
      let exposure ← attempt (fromEngine (analyze setting.sorter setting.inherited
        setting.portfolio setting.leftPkg.toPackageContent right.toPackageContent))
      setResult fun result => { result with
        blastRadius := .succeeded exposure.exposure.totalAbsolute }
      recordStage .portfolioImpact .completed none
      pure (some exposure)
    else
      recordStage .portfolioImpact .notApplicable
        (some "Waived by Gemini justification (zero premium mismatches reproduced).")
      pure none
  | none =>
    recordStage .portfolioImpact .notApplicable (some
      (if setting.target.targetConnector.isSome then
        "No connector impact runner is configured for this execution; portfolio scanning of a " ++
        "connector target was not performed."
      else "Portfolio blast radius evaluation requires a full IPIR target package."))
    pure none

/-- The portfolio stage. -/
def portfolioStage (impact : ConnectorImpact) (runPortfolio : Bool) :
    Supervised (Option PortfolioExposureResult) := do
  match impact with
  | .found run =>
    setResult fun result => { result with
      blastRadius := .succeeded run.aggregate.absoluteExposure }
    recordStage .portfolioImpact (impactOutcome run.aggregate).1 (impactOutcome run.aggregate).2
    pure none
  | .note text =>
    if setting.target.rightPkg.isSome then setting.scanPortfolio runPortfolio
    else
      recordStage .portfolioImpact .reviewRequired (some text)
      pure none
  | .unavailable => setting.scanPortfolio runPortfolio

/-- Records a stage of the analytics that were computed or not. -/
def recordAnalytics (stage : MissionStage) (computed : Bool) : Supervised Unit :=
  if computed then recordStage stage .completed none
  else recordStage stage .notApplicable (some
    "Portfolio blast-radius scan did not run for this mission (see PORTFOLIO_IMPACT stage).")

/-- The analytics of the portfolio stage. -/
def analyticsStages (impact : ConnectorImpact) (exposure : Option PortfolioExposureResult) :
    Supervised Unit := do
  match impact with
  | .found run =>
    recordAnalytics .cohortDistribution run.hasCohorts
    recordAnalytics .pipelineImpact run.hasPipeline
  | _ =>
    recordAnalytics .cohortDistribution exposure.isSome
    recordAnalytics .pipelineImpact exposure.isSome

/-- Facts of the first experiment that does not agree, if its premiums are numbers. -/
def missionFacts (experiment : RuntimeExperiment) (cause : MissionRootCause) :
    Option ExplanationFacts :=
  match experiment.expectedPremium, experiment.actualPremium with
  | some expected, some actual =>
    (buildExplanationFacts experiment.experimentId.toList expected actual cause.title.toList
      setting.leftPkg.effectivePeriod.start "USD".toList).toOption
  | _, _ => none

/-- Records that there is nothing to explain. -/
def explainNothing (reason : String) : Supervised Unit := do
  recordStage .explanationFacts .notApplicable (some reason)
  recordStage .explanationDraft .notApplicable (some reason)

/-- Drafted text of a decision. -/
def draftedText : Option (GeminiReply DraftText) → Option (List Char)
  | some (.ok decision) => some decision.decided.val
  | _ => none

/-- Reason for which a draft is not Gemini's. -/
def draftReason : Option (GeminiReply DraftText) → String
  | some (.ok _) => "UNSUPPORTED_FACT_VALUE"
  | reply => fallbackReason reply

/-- Action of a draft. -/
def draftAction (reply : Option (GeminiReply DraftText)) (draft : ExplanationDraft) :
    DecisionAction :=
  if draft.source = .gemini then decisionAction "EXPLANATION_DRAFT" reply true
  else { decisionAction "EXPLANATION_DRAFT" reply false with
    fallbackReason := some (draftReason reply) }

/-- Explains facts; a draft of Gemini that cites anything else is replaced. -/
def explainFacts (facts : ExplanationFacts) : Supervised Unit := do
  setResult fun result => { result with explanationFacts := .succeeded facts }
  recordStage .explanationFacts .completed none
  checkCancelled advice.cancelled
  let reply ← askGemini advice.config "EXPLANATION_DRAFT" advice.gemini.explanationDraft
  let draft := buildExplanationDraft setting.lowering facts (draftedText reply)
  appendAction (draftAction reply draft)
  setResult fun result => { result with explanationDraft := .succeeded draft }
  recordStage .explanationDraft .completed none

/-- Root cause of the reconciliation. -/
def rootCauseOf (result : AssuranceResult) : Option MissionRootCause :=
  result.reconciliation.data.bind (·.rootCause)

/-- Stages 6d and 6e: explanation. -/
def explainStage : Supervised Unit := do
  let state ← get
  match state.evidence.experiments.find? (!·.agrees), rootCauseOf state.result with
  | some experiment, some cause =>
    match setting.missionFacts experiment cause with
    | some facts => setting.explainFacts advice facts
    | none => explainNothing ("The reproduced mismatch has no numeric expected/actual premium pair " ++
        "to explain (e.g. a connector-failure probe).")
  | _, _ => explainNothing "No reproduced premium mismatch to explain."

/-- Identifiers or, if none are given, others. -/
def idsOr (ids others : List String) : List String := if ids.isEmpty then others else ids

/-- Scenarios to rerun: those that failed and control scenarios. -/
structure Reruns where
  /-- Scenarios that failed. -/
  targeted : List String
  /-- Control scenarios. -/
  regression : List String

/-- Selection of scenarios to rerun; Gemini may choose among them. -/
def selectReruns (plan : PricingTestPlan) (evidence : ProbeEvidence) : Supervised Reruns := do
  let targeted := (evidence.experiments.filter (!·.agrees)).map (·.experimentId)
  let control := (plan.candidateScenarios.filter fun scenario =>
    scenario.classification = .control && !targeted.contains scenario.id).map (·.id)
  let regression := control.take maxRegressionTests
  if targeted.isEmpty && control.isEmpty then pure ⟨targeted, regression⟩
  else
    checkCancelled advice.cancelled
    let reply ← askGemini advice.config "SELECT_REVALIDATION_TESTS"
      advice.gemini.selectRevalidationTests
    match reply with
    | some (.ok _) =>
      appendAction (decisionAction "SELECT_REVALIDATION_TESTS" reply true)
      pure ⟨idsOr (validIds (·.targetedTestIds.val) targeted reply) targeted,
        idsOr (validIds (·.regressionTestIds.val) control reply) regression⟩
    | _ =>
      appendAction (decisionAction "SELECT_REVALIDATION_TESTS" reply false)
      pure ⟨targeted, regression⟩

/-- Proposes a remediation for findings, of which Gemini may choose, and revalidates it. -/
def proposeRemediation (plan : PricingTestPlan) (right : CompiledSource)
    (semDiffs : List MaterialFinding) : Supervised Unit := do
  checkCancelled advice.cancelled
  let chosen ← chooseIds advice.config "PROPOSE_REMEDIATION" (semDiffs.map (·.findingId))
    advice.gemini.proposeRemediation
  let targets := if chosen.isEmpty then semDiffs
    else semDiffs.filter fun finding => chosen.contains finding.findingId
  let proposal := generateRemediationProposal setting.remediationId setting.derivedPackageId targets
  setResult fun result => { result with remediation := .succeeded proposal }
  let state ← get
  let reruns ← selectReruns advice plan state.evidence
  let revalidated ← attempt (fromEngine (revalidateRemediation setting.sorter setting.inherited
    setting.portfolio setting.leftPkg.toPackageContent right.toPackageContent proposal
    ⟨plan.candidateScenarios.map (·.toPricingTestScenario), reruns.targeted, reruns.regression⟩))
  setResult fun result => { result with revalidation := .succeeded revalidated }
  recordCompleted [.remediation, .revalidation]

/-- Asks Gemini which findings matter to an alignment; nothing is corrected. -/
def proposeAlignment (semDiffs : List MaterialFinding) : Supervised Unit := do
  checkCancelled advice.cancelled
  let _ ← chooseIds advice.config "PROPOSE_ALIGNMENT_OPTIONS" (semDiffs.map (·.findingId))
    advice.gemini.proposeAlignmentOptions
  recordStage .remediation .notApplicable
    (some "Equivalence mode is symmetric; a directional patch is only generated on demand.")
  recordStage .revalidation .notApplicable
    (some "Revalidation is generated together with the on-demand alignment option.")

/-- Stage 7: remediation. -/
def remediateStage (plan : PricingTestPlan) (semDiffs : List MaterialFinding) :
    Supervised Unit := do
  match setting.target.rightPkg with
  | some right =>
    match setting.mission.mode with
    | .equivalence => proposeAlignment advice semDiffs
    | .releaseConformance => setting.proposeRemediation advice plan right semDiffs
  | none =>
    recordStage .remediation .notApplicable (some
      (if setting.target.targetConnector.isSome then
        "A live connector target cannot be auto-patched; remediation requires a comparable IPIR " ++
        "package for Source B."
      else "Remediation proposal not required: no confirmed semantic differences."))
    recordStage .revalidation .notApplicable
      (some "No remediation was generated for this mission.")

/-- Connector and engine version, printed. -/
def connectorName : String :=
  (setting.target.targetConnector.map fun connector =>
    connector.connectorId ++ "@" ++ connector.engineVersion).getD ""

/-- What the portfolio says against a release. -/
def exposureBlocks (impact : ConnectorImpact) (blastRadius : Option Decimal) : List String :=
  match impact with
  | .found run =>
    if run.aggregate.mismatches = 0 then []
    else ["Connector-backed portfolio repricing found " ++ toString run.aggregate.mismatches ++
      " policies priced differently by connector '" ++ setting.connectorName ++
      "'; absolute exposure $" ++ String.ofList run.aggregate.absoluteExposure.text ++
      (if run.aggregate.exposureIsLowerBound then " (a lower bound: only " ++
        setting.coveragePct run.aggregate ++ "% of eligible policies were compared)" else "") ++
      "."]
  | .note _ => []
  | .unavailable =>
    match blastRadius with
    | some exposure =>
      if setting.positiveFloat exposure then
        ["Financial exposure of $" ++ String.ofList exposure.text ++
          " exceeds zero-drift tolerance."]
      else []
    | none => []

/-- What the portfolio leaves open. -/
def exposureReviews (impact : ConnectorImpact) : List String :=
  match impact with
  | .found run =>
    if run.aggregate.mismatches = 0 ∧ run.aggregate.completeness ≠ .complete then
      ["Connector portfolio impact is " ++ run.aggregate.status.value ++ " (coverage " ++
        setting.coveragePct run.aggregate ++ "%, " ++ toString run.aggregate.inconclusive ++
        " inconclusive, " ++ toString run.aggregate.unprocessedPolicies ++ " unprocessed): " ++
        reasonsOr run.aggregate.incompleteReasons "incomplete" ++
        ". No mismatch was proven, but zero impact cannot be inferred from incomplete data."]
    else []
  | .note text => [text]
  | .unavailable => []

/-- What the probes leave open. -/
def probeReviews (evidence : ProbeEvidence) : List String :=
  let connector := (setting.target.targetConnector.map (·.connectorId)).getD ""
  (if setting.target.targetConnector.isSome ∧ evidence.connectorOutcomes.isEmpty ∧
      evidence.inconclusiveCount = 0 then
    ["No probe could be executed against connector '" ++ connector ++ "' (no executable probe could " ++
      "be generated from the compiled source); no pricing conclusion can be drawn."]
  else []) ++
  (if evidence.inconclusiveCount = 0 then []
  else
    let reasons := (((evidence.experiments.filter (·.outcome = .inconclusive)).filterMap
      (·.inconclusiveReason)).filter (· ≠ "")).dedup.insertionSort (· ≤ ·)
    [toString evidence.inconclusiveCount ++ " of " ++ toString evidence.experiments.length ++
      " probe(s) were inconclusive (" ++
      (if reasons.isEmpty then "no detail" else ", ".intercalate reasons) ++
      "); the candidate implementation could not be evaluated for them, which is not evidence of a " ++
      "pricing defect."]) ++
  (if setting.target.targetConnector.isSome ∧ evidence.anyPartialResponse then
    ["Connector '" ++ connector ++ "' returned one or more partial/incomplete responses; premium " ++
      "comparison evidence is incomplete for at least one probe."]
  else [])

/-- `_mandatory_evidence_ok`. -/
def mandatoryEvidenceOk (result : AssuranceResult) : Bool :=
  result.validation.status = .succeeded && result.experiments.status = .succeeded &&
    (result.semanticAnalysis.status = .succeeded || result.semanticAnalysis.status = .notRun)

/-- What is found against a release. -/
def provenBlocks (evidence : ProbeEvidence) (impact : ConnectorImpact)
    (blastRadius : Option Decimal) (differences : Nat) : List String :=
  (if evidence.mismatchCount = 0 then []
  else [toString evidence.mismatchCount ++ " price calculation mismatches reproduced."]) ++
    setting.exposureBlocks impact blastRadius ++
    (if differences = 0 then []
    else [toString differences ++ " AST semantic differences identified."])

/-- What is missing for a release. -/
def missingBlocks (proven : List String) (result : AssuranceResult)
    (missing : List MissionStage) : List String :=
  (if mandatoryEvidenceOk result || !proven.isEmpty then []
  else ["Mandatory deterministic evidence is incomplete; a PASS decision cannot be issued."]) ++
    (if missing.isEmpty then []
    else [toString missing.length ++ " mission stage(s) were never accounted for: " ++
      printedTexts (missing.map (·.value)) ++ "."])

/-- The decision on what blocks a release and what asks for a review. -/
def decisionOn (blocks reviews : List String) : ReleaseDecision :=
  if !blocks.isEmpty then {
    status := .blockDeployment
    summary := "Deployment blocked: " ++ " ".intercalate blocks
    blockingReasons := blocks
    recommendation := "Apply proposed rating engine remediation patch and re-run assurance " ++
      "verification before releasing." }
  else if !reviews.isEmpty then {
    status := .reviewRequired
    summary := "No pricing drift was proven, but this mission cannot issue a PASS: " ++
      " ".intercalate reviews
    blockingReasons := reviews
    recommendation := "Resolve the flagged issue, then re-run assurance verification." }
  else {
    status := .pass
    summary := "Assurance mission verified full compliance and equivalence."
    blockingReasons := []
    recommendation := "Approve pricing engine release." }

/-- Stages that are recorded with the decision. -/
def closingStages : List MissionStage := [.decision, .evidenceFinalization]

/-- The decision in a state. -/
def releaseDecision (state : Investigation) (impact : ConnectorImpact) (differences : Nat) :
    ReleaseDecision :=
  let proven := setting.provenBlocks state.evidence impact state.result.blastRadius.data differences
  decisionOn
    (proven ++ missingBlocks proven state.result
      (state.recorder.missingStages.filter (!closingStages.contains ·)))
    (setting.startingReasons ++ setting.exposureReviews impact ++
      setting.probeReviews state.evidence)

/-- Outcome of the last stage. -/
def finalOutcome (missing : List MissionStage) : StageStatus × Option String :=
  if missing.isEmpty then (.completed, none)
  else (.failed, some ("Missing stages: " ++ printedTexts (missing.map (·.value))))

/-- `ai_runtime`. -/
def modelStatusOf (budget : InvestigationBudget) : ModelStatus :=
  if budget.anyGeminiSuccess then .live
  else if budget.anyGeminiAttempted then .fallback else .notInvoked

/-- Report of a mission with a decision. -/
def completedReport (state : Investigation) : AssuranceResult :=
  { state.result with
    overallStatus := .completed
    stageOutcomes := state.recorder.outcomes
    modelStatus := modelStatusOf state.budget }

/-- The last stage. -/
def finalizeEvidence : Supervised AssuranceRecord := do
  let state ← get
  let outcome := finalOutcome
    (state.recorder.missingStages.filter fun stage => stage ≠ .evidenceFinalization)
  recordStage .evidenceFinalization outcome.1 outcome.2
  let final ← get
  pure (final.concluded (completedReport final))

/-- Stage 8: the decision. -/
def decide (impact : ConnectorImpact) (differences : Nat) : Supervised AssuranceRecord := do
  let state ← get
  setResult fun result => { result with
    releaseDecision := some (setting.releaseDecision state impact differences) }
  recordStage .decision .completed none
  finalizeEvidence

/-- The stages behind the comparison of sources that differ, or of a source and a connector. -/
def investigate (compared : Compared) : Supervised AssuranceRecord := do
  checkCancelled advice.cancelled
  let predicates ← setting.traceImpact advice compared
  let selection ← setting.selectTests advice compared predicates
  setting.executeProbes advice selection
  setting.recordExecution selection
  checkCancelled advice.cancelled
  setting.reconcileStage
  checkCancelled advice.cancelled
  let runPortfolio ← setting.justifyPortfolio advice
  let impact ← setting.runImpact
  let exposure ← setting.portfolioStage impact runPortfolio
  analyticsStages impact exposure
  setting.explainStage advice
  checkCancelled advice.cancelled
  setting.remediateStage advice selection.1 compared.semDiffs
  checkCancelled advice.cancelled
  setting.decide impact compared.semDiffs.length

/-- `run_mission`. -/
def runMission : Supervised AssuranceRecord := do
  setting.validateRequest
  setting.compatibilityGate advice
  let compared ← setting.semanticAnalysis advice
  match setting.target.rightPkg, compared.rawDiffResult with
  | some right, some diff =>
    if compared.semDiffs.isEmpty then setting.cleanEquivalence right diff
    else setting.investigate advice compared
  | _, _ => setting.investigate advice compared

/-- What a mission returns, or the exception that ends it. -/
def missionRecord : Except MissionFault AssuranceRecord :=
  match setting.runMission advice .begun with
  | .ok (record, _) => .ok record
  | .error (.finished record) => .ok record
  | .error (.raised fault) => .error fault

end MissionSetting

end RateGuard
