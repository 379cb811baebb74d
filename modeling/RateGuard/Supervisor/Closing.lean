import RateGuard.Supervisor.Course

/-!
# Closing of a mission

The stages behind the reconciliation, and the decision. When the decision is made no stage is
missing, so it rests on what was found and on what was left open alone.
-/

open DecimalFloat CalendarDate TopologicalSort EarlyExit

namespace RateGuard

variable {setting : MissionSetting} {advice : MissionAdvice} {done : List MissionStage}
  {doubt : Prop} {digest : Digest}

/-- An impact that leaves something open. -/
def MissionSetting.ConnectorImpact.Open : MissionSetting.ConnectorImpact → Prop
  | .found run => run.aggregate.completeness ≠ .complete
  | .note _ => True
  | .unavailable => False

/-- A scan that is not complete says why. -/
theorem impactOutcome_explained (aggregate : ImpactAggregate)
    (incomplete : (MissionSetting.impactOutcome aggregate).1 ≠ .completed) :
    (MissionSetting.impactOutcome aggregate).2 ≠ none ∧
      (MissionSetting.impactOutcome aggregate).2 ≠ some "" := by
  unfold MissionSetting.impactOutcome at incomplete ⊢
  by_cases whole : aggregate.completeness = .complete
  · rw [if_pos whole] at incomplete
    exact absurd rfl incomplete
  · rw [if_neg whole]
    exact reason_explains (append_ne (by decide))

/-- The exposure of the portfolio is read, and nothing else. -/
theorem Standing.exposed (exposure : Decimal) :
    Triple (Standing done doubt digest)
      (setResult fun result => { result with blastRadius := .succeeded exposure })
      (fun _ => Standing done doubt { digest with exposure := some exposure })
      setting.Settled :=
  Standing.changed (fun _ same => by rw [← same]; rfl) fun _ => rfl

/-- The scan of the portfolio of two packages. -/
theorem scanPortfolio_stands (runPortfolio : Bool) :
    Triple (Standing done doubt digest) (setting.scanPortfolio runPortfolio)
      (fun _ state => ∃ exposure, (setting.target.rightPkg = none → exposure = digest.exposure) ∧
        Standing (.portfolioImpact :: done) doubt { digest with exposure := exposure } state)
      setting.Settled := by
  unfold MissionSetting.scanPortfolio
  cases setting.target.rightPkg with
  | some right =>
    refine Triple.ite (fun _ => ?_) fun _ => ?_
    · refine Triple.bind (Standing.attempted (fromEngine_foreign _)) fun found => ?_
      refine Triple.given fun _ => Triple.bind (Standing.exposed _) fun _ => ?_
      exact Triple.bind (Standing.completed _) fun _ =>
        Triple.pure fun _ standing => ⟨_, nofun, standing⟩
    · exact Triple.bind (Standing.skipped _ (by decide)) fun _ =>
        Triple.pure fun _ standing => ⟨_, nofun, standing⟩
  | none =>
    refine Triple.bind (Standing.skipped _ ?_) fun _ =>
      Triple.pure fun _ standing => ⟨_, fun _ => rfl, standing⟩
    split <;> decide

/-- The portfolio stage, with a doubt if the impact leaves something open. -/
theorem portfolioStage_stands (impact : MissionSetting.ConnectorImpact) (runPortfolio : Bool)
    (noted : ∀ text, impact = .note text → text ≠ "") :
    Triple (Standing done doubt digest) (setting.portfolioStage impact runPortfolio)
      (fun _ state => ∃ exposure, (setting.target.rightPkg = none → impact = .unavailable →
          exposure = digest.exposure) ∧
        Standing (.portfolioImpact :: done) (doubt ∨ impact.Open)
          { digest with exposure := exposure } state) setting.Settled := by
  have scanned : Triple (Standing done doubt digest) (setting.scanPortfolio runPortfolio)
      (fun _ state => ∃ exposure, (setting.target.rightPkg = none → impact = .unavailable →
          exposure = digest.exposure) ∧
        Standing (.portfolioImpact :: done) (doubt ∨ impact.Open)
          { digest with exposure := exposure } state) setting.Settled := by
    refine Triple.weaken (scanPortfolio_stands runPortfolio) (fun _ standing => standing) ?_
      fun _ held => held
    rintro value state ⟨exposure, same, standing⟩
    have ledger : Ledger (.portfolioImpact :: done) (doubt ∨ impact.Open) state.recorder :=
      ⟨standing.ledger.recorded, fun stage outcome found =>
        (standing.ledger.clear stage outcome found).imp_right .inl⟩
    exact ⟨exposure, fun right _ => same right, ledger, standing.digest, standing.undecided⟩
  unfold MissionSetting.portfolioStage
  cases impact with
  | unavailable => exact scanned
  | found run =>
    refine Triple.bind (Standing.exposed _) fun _ => ?_
    have recorded : Triple
        (Standing done doubt { digest with exposure := some run.aggregate.absoluteExposure })
        (recordStage .portfolioImpact (MissionSetting.impactOutcome run.aggregate).1
          (MissionSetting.impactOutcome run.aggregate).2)
        (fun _ => Standing (.portfolioImpact :: done)
          (doubt ∨ MissionSetting.ConnectorImpact.Open (.found run))
          { digest with exposure := some run.aggregate.absoluteExposure }) setting.Settled := by
      refine Standing.record _ (impactOutcome_explained _) .inl ?_
      by_cases whole : run.aggregate.completeness = .complete
      · exact .inl (.inl (by rw [MissionSetting.impactOutcome, if_pos whole]))
      · exact .inr (.inr whole)
    exact Triple.bind recorded fun _ => Triple.pure fun _ standing => ⟨_, nofun, standing⟩
  | note text =>
    refine Triple.ite (fun _ => scanned) fun _ => ?_
    have recorded : Triple (Standing done doubt digest)
        (recordStage .portfolioImpact .reviewRequired (some text))
        (fun _ => Standing (.portfolioImpact :: done)
          (doubt ∨ MissionSetting.ConnectorImpact.Open (.note text)) digest) setting.Settled :=
      Standing.record _ (fun _ => reason_explains (noted text rfl)) .inl (.inr (.inr trivial))
    exact Triple.bind recorded fun _ => Triple.pure fun _ standing => ⟨_, nofun, standing⟩

/-- The analytics. -/
theorem analyticsStages_stand (impact : MissionSetting.ConnectorImpact)
    (exposure : Option PortfolioExposureResult) :
    Triple (Standing done doubt digest) (MissionSetting.analyticsStages impact exposure)
      (fun _ => Standing (.pipelineImpact :: .cohortDistribution :: done) doubt digest)
      setting.Settled := by
  have recorded {done : List MissionStage} (stage : MissionStage) (computed : Bool) :
      Triple (Standing done doubt digest) (MissionSetting.recordAnalytics stage computed)
        (fun _ => Standing (stage :: done) doubt digest) setting.Settled := by
    unfold MissionSetting.recordAnalytics
    exact Triple.ite (fun _ => Standing.completed stage) fun _ => Standing.skipped stage (by decide)
  unfold MissionSetting.analyticsStages
  cases impact with
  | found run => exact Triple.bind (recorded _ _) fun _ => recorded _ _
  | note text => exact Triple.bind (recorded _ _) fun _ => recorded _ _
  | unavailable => exact Triple.bind (recorded _ _) fun _ => recorded _ _

/-- The explanation. -/
theorem explainStage_stands :
    Triple (Standing done doubt digest) (setting.explainStage advice)
      (fun _ => Standing (.explanationDraft :: .explanationFacts :: done) doubt digest)
      setting.Settled := by
  have nothing {reason : String} (given : reason ≠ "") :
      Triple (Standing done doubt digest) (MissionSetting.explainNothing reason)
        (fun _ => Standing (.explanationDraft :: .explanationFacts :: done) doubt digest)
        setting.Settled :=
    Triple.bind (Standing.skipped _ given) fun _ => Standing.skipped _ given
  have explained (facts : ExplanationFacts) :
      Triple (Standing done doubt digest) (setting.explainFacts advice facts)
        (fun _ => Standing (.explanationDraft :: .explanationFacts :: done) doubt digest)
        setting.Settled := by
    unfold MissionSetting.explainFacts
    refine Triple.bind (Standing.unread ?_ ?_ ?_ ?_ ?_) fun _ => ?_
    iterate 5 exact fun _ => rfl
    refine Triple.bind (Standing.completed _) fun _ => Triple.bind (Standing.checked _) fun _ => ?_
    refine Triple.bind (Standing.asked _ _ _) fun reply => ?_
    refine Triple.bind (Standing.appended _) fun _ => ?_
    refine Triple.bind (Standing.unread ?_ ?_ ?_ ?_ ?_) fun _ => Standing.completed _
    iterate 5 exact fun _ => rfl
  refine Triple.read fun current => Triple.forget ?_
  cases current.evidence.experiments.find? (!·.agrees) with
  | none => exact nothing (by decide)
  | some experiment =>
    cases MissionSetting.rootCauseOf current.result with
    | none => exact nothing (by decide)
    | some cause =>
      dsimp only
      cases setting.missionFacts experiment cause with
      | none => exact nothing (by decide)
      | some facts => exact explained facts

/-- The remediation. -/
theorem remediateStage_stands (plan : PricingTestPlan) (semDiffs : List MaterialFinding) :
    Triple (Standing done doubt digest) (setting.remediateStage advice plan semDiffs)
      (fun _ => Standing (.revalidation :: .remediation :: done) doubt digest)
      setting.Settled := by
  unfold MissionSetting.remediateStage
  cases setting.target.rightPkg with
  | none =>
    refine Triple.bind (Standing.skipped _ ?_) fun _ => Standing.skipped _ (by decide)
    split <;> decide
  | some right =>
    cases setting.mission.mode with
    | equivalence =>
      refine Triple.bind (Standing.checked _) fun _ => Triple.bind (Standing.chose _ _ _ _) fun _ => ?_
      exact Triple.bind (Standing.skipped _ (by decide)) fun _ => Standing.skipped _ (by decide)
    | releaseConformance =>
      have selected (evidence : ProbeEvidence) :
          Triple (Standing done doubt digest) (MissionSetting.selectReruns advice plan evidence)
            (fun _ => Standing done doubt digest) setting.Settled := by
        unfold MissionSetting.selectReruns
        refine Triple.ite (fun _ => Triple.pure fun _ standing => standing) fun _ => ?_
        refine Triple.bind (Standing.checked _) fun _ => ?_
        refine Triple.bind (Standing.asked _ _ _) fun reply => ?_
        have kept (action : DecisionAction) (reruns : MissionSetting.Reruns) :
            Triple (Standing done doubt digest) (do appendAction action; pure reruns)
              (fun _ => Standing done doubt digest) setting.Settled :=
          Triple.bind (Standing.appended _) fun _ => Triple.pure fun _ standing => standing
        rcases reply with _ | _ | decision
        · exact kept _ _
        · exact kept _ _
        · exact kept _ _
      refine Triple.bind (Standing.checked _) fun _ => ?_
      refine Triple.bind (Standing.chose _ _ _ _) fun chosen => ?_
      refine Triple.bind (Standing.unread ?_ ?_ ?_ ?_ ?_) fun _ => ?_
      iterate 5 exact fun _ => rfl
      refine Triple.read fun current => Triple.forget ?_
      refine Triple.bind (selected _) fun reruns => ?_
      refine Triple.bind (Standing.attempted (fromEngine_foreign _)) fun revalidated => ?_
      refine Triple.given fun _ => Triple.bind (Standing.unread ?_ ?_ ?_ ?_ ?_) fun _ => ?_
      iterate 5 exact fun _ => rfl
      exact Standing.allCompleted _

/-- The last stage is completed where no other one is missing. -/
theorem finalOutcome_complete {recorder : StageRecorder}
    (complete : ∀ stage, stage ≠ .evidenceFinalization → recorder.outcomeFor stage ≠ none) :
    MissionSetting.finalOutcome
      (recorder.missingStages.filter fun stage => stage ≠ .evidenceFinalization) =
        (.completed, none) := by
  have none : (recorder.missingStages.filter fun stage => stage ≠ .evidenceFinalization) = [] := by
    refine List.filter_eq_nil_iff.mpr fun stage missing last => ?_
    exact complete stage (of_decide_eq_true last) (StageRecorder.mem_missingStages.mp missing)
  rw [none]
  rfl

/-- An investigation with its decision. -/
structure Decided (done : List MissionStage) (doubt : Prop) (decision : ReleaseDecision)
    (state : Investigation) : Prop where
  /-- The outcomes of the stages. -/
  ledger : Ledger done doubt state.recorder
  /-- The decision. -/
  decision : state.result.releaseDecision = some decision

/-- A stage is completed behind a decision. -/
theorem Decided.completed {decision : ReleaseDecision} (stage : MissionStage) :
    Triple (Decided done doubt decision) (recordStage stage .completed none)
      (fun _ => Decided (stage :: done) doubt decision) setting.Settled := by
  rw [recordStage_completed]
  exact Triple.modify fun state decided =>
    ⟨decided.ledger.record (.completed stage) id (.inl (.inl rfl)), decided.decision⟩

/-- A stage does not apply behind a decision. -/
theorem Decided.skipped {decision : ReleaseDecision} (stage : MissionStage) {reason : String}
    (given : reason ≠ "") :
    Triple (Decided done doubt decision) (recordStage stage .notApplicable (some reason))
      (fun _ => Decided (stage :: done) doubt decision) setting.Settled := by
  rw [recordStage_explained stage fun _ => reason_explains given]
  exact Triple.modify fun state decided =>
    ⟨decided.ledger.record (.skipped stage reason given) id (.inl (.inr rfl)), decided.decision⟩

/-- What a decided mission leaves: all stages, in order, and its decision. -/
structure AssuranceRecord.Decides (record : AssuranceRecord) (decision : ReleaseDecision)
    (doubt : Prop) : Prop where
  /-- The stages are accounted for. -/
  accounted : record.Accounted
  /-- The decision. -/
  decision : record.report.releaseDecision = some decision
  /-- The mission completed. -/
  completed : record.report.overallStatus = .completed
  /-- Without a doubt no stage went wrong. -/
  clear : ∀ outcome ∈ record.report.stageOutcomes, outcome.status.Clear ∨ doubt

/-- The last stage accounts for all of them. -/
theorem finalizeEvidence_stands {decision : ReleaseDecision}
    (covers : ∀ stage, stage ≠ .evidenceFinalization → stage ∈ done) :
    Triple (Decided done doubt decision) MissionSetting.finalizeEvidence
      (fun record _ => record.Decides decision doubt) setting.Settled := by
  have closes : Triple (Decided done doubt decision)
      (do
        recordStage .evidenceFinalization .completed none
        let final ← get
        pure (final.concluded (MissionSetting.completedReport final)))
      (fun record _ => record.Decides decision doubt) setting.Settled := by
    refine Triple.bind (Decided.completed _) fun _ => Triple.read fun final => ?_
    refine Triple.pure fun state both => ?_
    obtain ⟨rfl, decided⟩ := both
    refine ⟨StageRecorder.outcomes_stages fun stage => decided.ledger.recorded stage ?_,
      decided.decision, rfl, fun outcome member =>
        decided.ledger.clear outcome.stage outcome (StageRecorder.mem_outcomes member)⟩
    by_cases own : stage = .evidenceFinalization
    · exact own ▸ List.mem_cons_self
    · exact List.mem_cons_of_mem _ (covers stage own)
  refine Triple.read fun current => ?_
  intro state both
  obtain ⟨rfl, decided⟩ := both
  rw [finalOutcome_complete fun stage other => decided.ledger.recorded stage (covers stage other)]
  exact closes state decided

/-- The decision: no stage is missing, so it rests on what blocks and on what is open. -/
theorem decide_stands (impact : MissionSetting.ConnectorImpact) (differences : Nat)
    (covers : ∀ stage, stage ∉ MissionSetting.closingStages → stage ∈ done)
    (ready : digest.validated && digest.probed && digest.compared) :
    Triple (Standing done doubt digest) (setting.decide impact differences)
      (fun record _ => record.Decides (MissionSetting.decisionOn
        (setting.provenBlocks digest.evidence impact digest.exposure differences)
        (setting.startingReasons ++ setting.exposureReviews impact ++
          setting.probeReviews digest.evidence)) doubt) setting.Settled := by
  have every (stage : MissionStage) (other : stage ≠ .evidenceFinalization) :
      stage ∈ MissionStage.decision :: done := by
    by_cases own : stage = .decision
    · exact own ▸ List.mem_cons_self
    · refine List.mem_cons_of_mem _ (covers stage fun closing => ?_)
      simp only [MissionSetting.closingStages, List.mem_cons, List.not_mem_nil, or_false] at closing
      exact closing.elim own other
  have decided (current : Investigation) :
      Triple (fun state => state = current ∧ Standing done doubt digest state)
      (setResult fun result => { result with
        releaseDecision := some (setting.releaseDecision current impact differences) })
      (fun _ => Decided done doubt (MissionSetting.decisionOn
        (setting.provenBlocks digest.evidence impact digest.exposure differences)
        (setting.startingReasons ++ setting.exposureReviews impact ++
          setting.probeReviews digest.evidence))) setting.Settled := by
    refine Triple.modify fun state both => ?_
    obtain ⟨rfl, standing⟩ := both
    refine ⟨standing.ledger, ?_⟩
    have missing : (state.recorder.missingStages.filter
        (!MissionSetting.closingStages.contains ·)) = [] := by
      refine List.filter_eq_nil_iff.mpr fun stage absent outside => ?_
      have other : stage ∉ MissionSetting.closingStages := by simpa using outside
      exact standing.ledger.recorded stage (covers stage other)
        (StageRecorder.mem_missingStages.mp absent)
    have mandatory : MissionSetting.mandatoryEvidenceOk state.result = true := by
      have same : MissionSetting.mandatoryEvidenceOk state.result =
          (state.digest.validated && state.digest.probed && state.digest.compared) := rfl
      rw [same, standing.digest]
      exact ready
    have evidence : state.evidence = digest.evidence := congrArg Digest.evidence standing.digest
    have exposure : state.result.blastRadius.data = digest.exposure :=
      congrArg Digest.exposure standing.digest
    dsimp only
    unfold MissionSetting.releaseDecision MissionSetting.missingBlocks
    rw [missing, mandatory, evidence, exposure]
    simp
  refine Triple.read fun current => Triple.bind (decided current) fun _ => ?_
  refine Triple.bind (Decided.completed _) fun _ => ?_
  exact finalizeEvidence_stands every

/-- Behind a backfill all stages are recorded. -/
theorem Ledger.backfill {recorder : StageRecorder} (ledger : Ledger done doubt recorder)
    (reason : String) (given : reason ≠ "") :
    Ledger missionStageOrder doubt (recorder.backfill reason given) where
  recorded stage _ := by
    rw [StageRecorder.outcomeFor_backfill]
    exact Option.some_ne_none _
  clear stage outcome found := by
    rw [StageRecorder.outcomeFor_backfill] at found
    cases recorded : recorder.outcomeFor stage with
    | none =>
      rw [recorded] at found
      cases found
      exact .inl (.inr rfl)
    | some earlier =>
      rw [recorded] at found
      cases found
      exact ledger.clear stage earlier recorded

/-- A mission without differences is closed with its decision. -/
theorem closeClean_decides {decision : ReleaseDecision} (reason : String) (given : reason ≠ "") :
    Triple (Decided done doubt decision) (MissionSetting.closeClean reason given)
      (fun record _ => record.Decides decision doubt) setting.Settled := by
  unfold MissionSetting.closeClean
  refine Triple.bind (Decided.completed _) fun _ => ?_
  have filled : Triple (Decided (.decision :: done) doubt decision)
      (modify fun state => { state with recorder := state.recorder.backfill reason given })
      (fun _ => Decided missionStageOrder doubt decision) setting.Settled :=
    Triple.modify fun _ decided => ⟨decided.ledger.backfill reason given, decided.decision⟩
  refine Triple.bind filled fun _ => Triple.bind (Decided.completed _) fun _ => ?_
  refine Triple.read fun current => Triple.pure fun state both => ?_
  obtain ⟨rfl, decided⟩ := both
  refine ⟨StageRecorder.outcomes_stages fun stage => decided.ledger.recorded stage ?_,
    decided.decision, rfl, fun outcome member =>
      decided.ledger.clear outcome.stage outcome (StageRecorder.mem_outcomes member)⟩
  exact List.mem_cons_of_mem _ (mem_missionStageOrder stage)

/-- Probes of packages that do not differ raise what the engines raise. -/
theorem cleanProbes_foreign (right : CompiledSource) (diff : SemanticDiffResult) :
    Raises setting.Foreign (setting.cleanProbes right diff) := by
  unfold MissionSetting.cleanProbes
  refine (fromEngine_foreign _).bind fun predicates => (fromEngine_foreign _).bind fun plan => ?_
  refine Raises.mapM fun scenario => ?_
  unfold MissionSetting.cleanProbe
  exact (fromEngine_foreign _).bind fun _ => (fromEngine_foreign _).bind fun _ =>
    (arithmetic_foreign _).bind fun _ => Raises.ok

/-- The result is changed by a decision. -/
theorem Standing.decided {change : AssuranceResult → AssuranceResult} {decision : ReleaseDecision}
    (sets : ∀ result, (change result).releaseDecision = some decision) :
    Triple (Standing done doubt digest) (setResult change)
      (fun _ => Decided done doubt decision) setting.Settled :=
  Triple.modify fun state standing => ⟨standing.ledger, sets state.result⟩

/-- Packages that do not differ are decided on by their probes. -/
theorem cleanEquivalence_decides (right : CompiledSource) (diff : SemanticDiffResult) :
    Triple (Standing done doubt digest) (setting.cleanEquivalence right diff)
      (fun record _ => ∃ experiments, setting.cleanProbes right diff = .ok experiments ∧
        record.Decides (if (MissionSetting.cleanData experiments).mismatchCount = 0 then
            setting.cleanDecision
          else MissionSetting.blindSpotDecision
            (MissionSetting.cleanData experiments).mismatchCount experiments.length) doubt)
      setting.Settled := by
  unfold MissionSetting.cleanEquivalence
  refine Triple.bind (Standing.allCompleted _) fun _ => ?_
  refine Triple.bind (Standing.attempted (cleanProbes_foreign right diff)) fun experiments => ?_
  refine Triple.given fun ran => ?_
  have probed {done : List MissionStage} : Triple (Standing done doubt digest)
      (setResult fun result =>
        { result with experiments := .succeeded (MissionSetting.cleanData experiments) })
      (fun _ => Standing done doubt { digest with probed := true }) setting.Settled :=
    Standing.changed (fun _ same => by rw [← same]; rfl) fun _ => rfl
  refine Triple.bind probed fun _ => ?_
  by_cases equal : (MissionSetting.cleanData experiments).mismatchCount = 0
  · rw [if_pos equal]
    refine Triple.bind (Standing.decided fun _ => rfl) fun _ => ?_
    refine Triple.weaken (closeClean_decides _ MissionSetting.cleanReason_ne)
      (fun _ decided => decided) (fun record _ decides => ⟨experiments, ran, ?_⟩) fun _ held => held
    rw [if_pos equal]
    exact decides
  · rw [if_neg equal]
    refine Triple.bind (Standing.decided fun _ => rfl) fun _ => ?_
    refine Triple.bind (Decided.completed _) fun _ => ?_
    refine Triple.bind (Decided.skipped _ (by decide)) fun _ => ?_
    refine Triple.weaken (closeClean_decides _ MissionSetting.blindSpotReason_ne)
      (fun _ decided => decided) (fun record _ decides => ⟨experiments, ran, ?_⟩) fun _ held => held
    rw [if_neg equal]
    exact decides

end RateGuard
