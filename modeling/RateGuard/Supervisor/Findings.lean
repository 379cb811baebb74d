import RateGuard.Supervisor.Closing

/-!
# Findings of a mission

An investigation runs all stages up to the decision. The decision is made on its findings: the
probes, the impact on the portfolio and the exposure. Gemini may ask for more probes, but only
behind a proven difference.
-/

open DecimalFloat CalendarDate TopologicalSort EarlyExit

namespace RateGuard

/-- What the decision of an investigation rests on. -/
structure MissionFindings where
  /-- Probes. -/
  evidence : ProbeEvidence
  /-- Impact of a connector. -/
  impact : MissionSetting.ConnectorImpact
  /-- Exposure of the portfolio. -/
  exposure : Option Decimal

namespace MissionSetting

/-- Findings that the investigation of a setting may make: the probes of the selection, with more
behind a proven difference, and the impact behind them. -/
structure Finds (setting : MissionSetting) (found : MissionFindings) : Prop where
  /-- Probes. -/
  probes : ∃ selection probes, setting.Selects selection ∧
    executedProbes setting.sorter setting.mission setting.leftPkg setting.target setting.sendQuote
      .riskDirected [] selection.2 = .ok probes ∧
    (probes.foldl ProbeEvidence.add .empty).Grows setting.target found.evidence
  /-- Impact. -/
  impact : setting.connectorImpact found.evidence = .ok found.impact
  /-- A connector without an impact leaves no exposure. -/
  exposure : setting.target.rightPkg = none → found.impact = .unavailable → found.exposure = none

variable (setting : MissionSetting)

/-- What the findings and the differences prove against a release. -/
def blocks (found : MissionFindings) (differences : Nat) : List String :=
  setting.provenBlocks found.evidence found.impact found.exposure differences

/-- What the findings leave open. -/
def reviews (found : MissionFindings) : List String :=
  setting.startingReasons ++ setting.exposureReviews found.impact ++
    setting.probeReviews found.evidence

/-- Findings that leave a stage open. -/
def Doubtful (found : MissionFindings) : Prop :=
  (setting.startingReasons ≠ [] ∨ setting.target.targetConnector.isSome ∧
    (connectorExecution found.evidence).1 ≠ .completed) ∨ found.impact.Open

end MissionSetting

variable {setting : MissionSetting} {advice : MissionAdvice}

/-- A note on an impact says something. -/
theorem connectorImpact_noted {evidence : ProbeEvidence} {text : String}
    (found : setting.connectorImpact evidence = .ok (.note text)) : text ≠ "" := by
  unfold MissionSetting.connectorImpact at found
  cases connected : setting.target.targetConnector with
  | none =>
    rw [connected] at found
    cases found
  | some connector =>
    rw [connected] at found
    cases runs : setting.impactRunner with
    | none =>
      rw [runs] at found
      cases found
    | some runner =>
      rw [runs] at found
      dsimp only at found
      split at found
      · have same : MissionSetting.unavailableNote = text := by
          injection found with note
          injection note
        rw [← same]
        exact append_ne (by decide)
      · cases ran : runner evidence.quotes with
        | ok run =>
          rw [ran] at found
          cases found
        | error kind =>
          rw [ran] at found
          cases found

/-- Stages behind the remediation. -/
def investigatedStages : List MissionStage :=
  [.revalidation, .remediation, .explanationDraft, .explanationFacts, .pipelineImpact,
    .cohortDistribution, .portfolioImpact, .reconciliation, .targetExecution, .oracleExecution,
    .testSelection, .testCandidateGeneration, .dependencyImpact, .semanticDiff, .compatibilityGate,
    .sourceBLoadOrConnectorCheck, .sourceALoad, .requestValidation]

/-- Only the closing stages are not among them. -/
theorem mem_investigatedStages {stage : MissionStage}
    (earlier : stage ∉ MissionSetting.closingStages) : stage ∈ investigatedStages := by
  revert earlier
  cases stage <;> decide

/-- The digest behind the validation. -/
def Digest.validatedFirst : Digest := { Digest.begun with validated := true }

/-- An investigation decides on findings of its setting. -/
theorem investigate_decides {compared : MissionSetting.Compared}
    (compares : setting.Compares compared) :
    Triple (Standing [.semanticDiff, .compatibilityGate, .sourceBLoadOrConnectorCheck, .sourceALoad,
        .requestValidation] (setting.startingReasons ≠ []) .validatedFirst)
      (setting.investigate advice compared)
      (fun record _ => ∃ found, setting.Finds found ∧
        record.Decides (MissionSetting.decisionOn (setting.blocks found compared.semDiffs.length)
          (setting.reviews found)) (setting.Doubtful found)) setting.Settled := by
  refine Triple.bind (Standing.checked _) fun _ => ?_
  refine Triple.bind (traceImpact_stands compared) fun predicates => Triple.given fun traced => ?_
  refine Triple.bind (selectTests_stands compares traced) fun selection => ?_
  refine Triple.given fun selects => ?_
  refine Triple.bind (executeProbes_stand selection rfl) fun _ => Triple.some fun probes => ?_
  refine Triple.given fun ran => Triple.some fun evidence => Triple.given fun grows => ?_
  refine Triple.bind (recordExecution_stands selection) fun _ => ?_
  refine Triple.bind (Standing.checked _) fun _ => ?_
  refine Triple.bind (reconcileStage_stands grows.sound) fun _ => ?_
  refine Triple.bind (Standing.checked _) fun _ => ?_
  refine Triple.bind justifyPortfolio_stands fun runPortfolio => ?_
  refine Triple.bind runImpact_stands fun impact => Triple.given fun impacted => ?_
  have noted (text : String) (same : impact = .note text) : text ≠ "" :=
    connectorImpact_noted (same ▸ impacted)
  refine Triple.bind (portfolioStage_stands impact runPortfolio noted) fun scanned => ?_
  refine Triple.some fun exposure => Triple.given fun exposed => ?_
  refine Triple.bind (analyticsStages_stand impact scanned) fun _ => ?_
  refine Triple.bind explainStage_stands fun _ => Triple.bind (Standing.checked _) fun _ => ?_
  refine Triple.bind (remediateStage_stands selection.1 compared.semDiffs) fun _ => ?_
  refine Triple.bind (Standing.checked _) fun _ => ?_
  have finds : setting.Finds ⟨evidence, impact, exposure⟩ :=
    ⟨⟨selection, probes, selects, ran, grows⟩, impacted, exposed⟩
  refine Triple.weaken (decide_stands impact compared.semDiffs.length
      (fun _ earlier => mem_investigatedStages earlier) rfl)
    (fun _ standing => standing) (fun record _ decides => ⟨_, finds, decides⟩) fun _ held => held

end RateGuard
