import RateGuard.Supervisor.Accounting
import RateGuard.Supervisor.Evidence

/-!
# Course of a mission

What each stage of a mission leaves behind it. The probes leave their evidence, which only grows;
the stages behind them leave it as it is.
-/

open DecimalFloat CalendarDate TopologicalSort EarlyExit

namespace RateGuard

variable {setting : MissionSetting} {advice : MissionAdvice} {done : List MissionStage}
  {doubt : Prop} {digest : Digest}

/-- A text in front of which another one stands is not empty. -/
theorem append_ne {front back : String} (given : front ≠ "") : front ++ back ≠ "" :=
  fun empty => given (String.append_eq_empty_iff.mp empty).1

/-- The validation. -/
theorem validateRequest_stands :
    Triple (Standing [] False .begun) setting.validateRequest
      (fun _ => Standing [.sourceALoad, .requestValidation] False
        { Digest.begun with validated := true }) setting.Settled := by
  unfold MissionSetting.validateRequest
  refine Triple.ite (fun _ => ?_) fun invalid => ?_
  · refine Triple.bind (Standing.allCompleted _) fun _ => Standing.changed ?_ fun _ => rfl
    intro state same
    have evidence : state.evidence = .empty := congrArg Digest.evidence same
    have exposure : state.result.blastRadius.data = none := congrArg Digest.exposure same
    have probed := congrArg Digest.probed same
    have compared := congrArg Digest.compared same
    unfold Investigation.digest at probed compared ⊢
    dsimp only at probed compared ⊢
    rw [evidence, exposure, probed, compared]
    rfl
  · have given : "; ".intercalate ((validateMission setting.registry setting.mission).map
        fun issue => issue.field ++ ": " ++ issue.message) ≠ "" := by
      refine intercalate_ne (fun none => invalid (List.map_eq_nil_iff.mp none)) ?_
      intro text member
      obtain ⟨issue, -, rfl⟩ := List.mem_map.mp member
      intro empty
      have colon := (String.append_eq_empty_iff.mp (String.append_eq_empty_iff.mp empty).1).2
      exact absurd colon (by decide)
    generalize "; ".intercalate ((validateMission setting.registry setting.mission).map
      fun issue => issue.field ++ ": " ++ issue.message) = text at given ⊢
    have failed : Triple (Standing [] False .begun)
        (recordStage .requestValidation .failed (some text))
        (fun _ => Standing [.requestValidation] True .begun) setting.Settled :=
      Standing.record _ (fun _ => reason_explains given) (fun _ => trivial) (.inr trivial)
    refine Triple.bind failed fun _ => Triple.read fun current => ?_
    refine Triple.throw fun state both => ?_
    obtain ⟨rfl, standing⟩ := both
    exact ⟨backfill_accounted state.recorder _ _, standing.undecided, nofun⟩

/-- Every reason to begin with says something. -/
theorem startingReasons_ne {text : String} (member : text ∈ setting.startingReasons) :
    text ≠ "" := by
  unfold MissionSetting.startingReasons reviewReasons at member
  rcases List.mem_append.mp member with member | member
  · rcases List.mem_append.mp member with member | member
    · split at member
      · exact absurd member (by simp)
      · rw [List.mem_singleton.mp member]
        exact append_ne (by decide)
    · split at member
      · rw [List.mem_singleton.mp member]
        decide
      · exact absurd member (by simp)
  · cases found : setting.target.rightPkg with
    | none =>
      rw [found] at member
      exact absurd member (by simp)
    | some right =>
      rw [found] at member
      have reason : text ∈ compatibilityReasons setting.leftPkg right := member
      unfold compatibilityReasons at reason
      split at reason
      · rw [List.mem_singleton.mp reason]
        exact append_ne (append_ne (append_ne (append_ne (by decide))))
      · split at reason
        · rw [List.mem_singleton.mp reason]
          exact append_ne (append_ne (append_ne (append_ne (by decide))))
        · split at reason
          · exact absurd reason (by simp)
          · rw [List.mem_singleton.mp reason]
            exact append_ne (append_ne (append_ne (append_ne (by decide))))

/-- The compatibility gate. -/
theorem compatibilityGate_stands :
    Triple (Standing done False digest) (setting.compatibilityGate advice)
      (fun _ => Standing (.compatibilityGate :: .sourceBLoadOrConnectorCheck :: done)
        (setting.startingReasons ≠ []) digest) setting.Settled := by
  have target : Triple (Standing done False digest) setting.recordTarget
      (fun _ => Standing (.sourceBLoadOrConnectorCheck :: done) False digest)
      setting.Settled := by
    unfold MissionSetting.recordTarget
    exact Triple.ite (fun _ => Standing.completed _) fun _ => Standing.skipped _ (by decide)
  unfold MissionSetting.compatibilityGate
  refine Triple.bind target fun _ => ?_
  by_cases none : setting.startingReasons = []
  · rw [if_pos none]
    exact Triple.bind (Standing.record _ (fun same => absurd rfl same) False.elim (.inl (.inl rfl)))
      fun _ => Standing.checked _
  · rw [if_neg none]
    have given : " ".intercalate setting.startingReasons ≠ "" :=
      intercalate_ne none fun _ => startingReasons_ne
    exact Triple.bind (Standing.record _ (fun _ => reason_explains given) False.elim (.inr none))
      fun _ => Standing.checked _

/-- What the comparison of a mission gives. -/
def MissionSetting.Compares (setting : MissionSetting) (compared : MissionSetting.Compared) :
    Prop :=
  match setting.target.rightPkg with
  | some right => ∃ diff, fromEngine (comparePackages setting.leftPkg.toPackageContent
      right.toPackageContent) = .ok diff ∧ compared = ⟨some diff, setting.findings diff⟩
  | none => compared = ⟨none, []⟩

/-- Engines of the packages raise their own failures only. -/
theorem fromEngine_foreign {α : Type} (result : Except Failure α) :
    Raises setting.Foreign (fromEngine result) := by
  cases result with
  | ok value => exact Raises.ok
  | error failure => exact Raises.error trivial

/-- The semantic analysis. -/
theorem semanticAnalysis_stands (comparable : digest.compared = true) :
    Triple (Standing done doubt digest) (setting.semanticAnalysis advice)
      (fun compared state => setting.Compares compared ∧
        Standing (.semanticDiff :: done) doubt digest state) setting.Settled := by
  unfold MissionSetting.semanticAnalysis MissionSetting.Compares
  cases setting.target.rightPkg with
  | none =>
    refine Triple.bind (Standing.skipped _ ?_) fun _ => Triple.pure fun _ standing => ⟨rfl, standing⟩
    split <;> decide
  | some right =>
    refine Triple.bind (Standing.attempted (fromEngine_foreign _)) fun diff => ?_
    have shown : Triple (Standing done doubt digest)
        (setResult fun result =>
          { result with semanticAnalysis := .succeeded (setting.findings diff) })
        (fun _ => Standing done doubt digest) setting.Settled := by
      refine Standing.changed (fun state same => ?_) fun _ => rfl
      rw [← same]
      have now := (congrArg Digest.compared same).trans comparable
      unfold Investigation.digest at now ⊢
      dsimp only at now ⊢
      rw [now]
      rfl
    refine Triple.given fun made => Triple.bind shown fun _ => ?_
    · have advised : Triple (Standing done doubt digest)
          (MissionSetting.prioritizeDifferences advice (setting.findings diff))
          (fun _ => Standing done doubt digest) setting.Settled := by
        unfold MissionSetting.prioritizeDifferences
        refine Triple.ite (fun _ => Triple.pure fun _ standing => standing) fun _ => ?_
        exact Triple.bind (Standing.checked _) fun _ => Triple.bind (Standing.chose _ _ _ _)
          fun _ => Triple.pure fun _ standing => standing
      refine Triple.bind advised fun _ => Triple.bind (Standing.completed _) fun _ => ?_
      exact Triple.pure fun _ standing => ⟨⟨diff, made, rfl⟩, standing⟩

/-- Exceptions of the decimals are those of an engine. -/
theorem arithmetic_foreign {α : Type} (result : Except Signal α) :
    Raises setting.Foreign (arithmetic result) := by
  cases result with
  | ok value => exact Raises.ok
  | error signal => exact Raises.error trivial

/-- A probe raises what the engines and the connector raise. -/
theorem executedProbe_foreign (history : QuoteHistory) (category : ExperimentCategory)
    (scenario : TestScenario) :
    Raises setting.Foreign (executedProbe setting.sorter setting.mission setting.leftPkg
      setting.target setting.sendQuote history category scenario) := by
  have dated (package : PackageContent) (scenario : PricingTestScenario) :
      Raises setting.Foreign (datedPremium setting.sorter package scenario) := by
    unfold datedPremium
    split
    · exact Raises.ok
    · exact Raises.ok
    · exact Raises.error trivial
  have quoted (request : ConnectorQuoteRequest) :
      Raises setting.Foreign (quoteViaConnector setting.sendQuote history request) := by
    unfold quoteViaConnector
    split
    · exact Raises.ok
    · exact Raises.error trivial
    · dsimp only
      split
      · exact Raises.ok
      · exact (arithmetic_foreign _).bind fun _ => Raises.ok
  have asked (scenario : PricingTestScenario) : Raises setting.Foreign (askTarget setting.sorter
      setting.mission setting.target setting.sendQuote history scenario) := by
    unfold askTarget
    split
    · exact (quoted _).bind fun _ => Raises.ok
    · refine (dated _ _).bind fun premium => ?_
      cases premium with
      | ok value => exact Raises.ok
      | error reason => exact Raises.ok
    · exact Raises.ok
  unfold executedProbe
  refine (dated _ _).bind fun premium => ?_
  cases premium with
  | error reason => exact Raises.ok
  | ok expected =>
    refine (asked _).bind fun answer => ?_
    cases answer.actual with
    | none => exact Raises.ok
    | some actual => exact (arithmetic_foreign _).bind fun _ => Raises.ok

/-- A probe adds to the evidence. -/
theorem probe_stands (category : ExperimentCategory) (scenario : TestScenario) :
    Triple (Standing done doubt digest) (setting.probe category scenario)
      (fun _ state => ∃ executed, executedProbe setting.sorter setting.mission setting.leftPkg
          setting.target setting.sendQuote digest.evidence.quotes category scenario =
            .ok executed ∧
        Standing done doubt { digest with evidence := digest.evidence.add executed } state)
      setting.Settled := by
  refine Triple.read fun current => ?_
  have start : Triple (fun state => state = current ∧ Standing done doubt digest state)
      (attempt (executedProbe setting.sorter setting.mission setting.leftPkg setting.target
        setting.sendQuote current.evidence.quotes category scenario))
      (fun executed state => executedProbe setting.sorter setting.mission setting.leftPkg
          setting.target setting.sendQuote digest.evidence.quotes category scenario =
            .ok executed ∧ Standing done doubt digest state) setting.Settled := by
    intro state both
    obtain ⟨rfl, standing⟩ := both
    have quotes : state.evidence.quotes = digest.evidence.quotes :=
      congrArg (·.evidence.quotes) standing.digest
    rw [quotes]
    exact Standing.attempted (executedProbe_foreign _ _ _) state standing
  refine Triple.bind start fun executed => Triple.modify fun state both => ?_
  obtain ⟨ran, standing⟩ := both
  refine ⟨executed, ran, standing.ledger, ?_, standing.undecided⟩
  rw [← standing.digest]
  rfl

/-- Probes in turn add to the evidence. -/
theorem probes_stand (category : ExperimentCategory) (scenarios : List TestScenario) :
    Triple (Standing done doubt digest) (scenarios.forM (setting.probe category))
      (fun _ state => ∃ probes, executedProbes setting.sorter setting.mission setting.leftPkg
          setting.target setting.sendQuote category digest.evidence.quotes scenarios = .ok probes ∧
        Standing done doubt
          { digest with evidence := probes.foldl ProbeEvidence.add digest.evidence } state)
      setting.Settled := by
  induction scenarios generalizing digest with
  | nil => exact Triple.pure fun _ standing => ⟨[], rfl, standing⟩
  | cons scenario rest ih =>
    refine Triple.bind (probe_stands category scenario) fun _ => Triple.some fun executed => ?_
    refine Triple.given fun ran => Triple.weaken ih (fun _ standing => standing) ?_ fun _ held => held
    rintro value state ⟨probes, others, standing⟩
    refine ⟨executed :: probes, ?_, standing⟩
    unfold executedProbes
    rw [ran]
    change executedProbes setting.sorter setting.mission setting.leftPkg setting.target
      setting.sendQuote category (digest.evidence.quotes ++ executed.quote.toList) rest >>= _ = _
    have later : executedProbes setting.sorter setting.mission setting.leftPkg setting.target
        setting.sendQuote category (digest.evidence.quotes ++ executed.quote.toList) rest =
          .ok probes := others
    rw [later]
    rfl

/-- The evidence of an investigation grew. -/
def Grown (setting : MissionSetting) (done : List MissionStage) (doubt : Prop) (digest : Digest)
    (state : Investigation) : Prop :=
  ∃ later, digest.evidence.Grows setting.target later ∧
    Standing done doubt { digest with evidence := later } state

/-- A round of additional probes behind a proven difference. -/
theorem probeRound_stands (plan : PricingTestPlan) (sound : digest.evidence.Sound setting.target)
    (differs : 0 < digest.evidence.mismatchCount) :
    Triple (Standing done doubt digest) (setting.probeRound advice plan)
      (fun _ => Grown setting done doubt digest) setting.Settled := by
  refine Triple.read fun current => ?_
  refine Triple.forget ?_
  refine Triple.ite (fun _ => ?_) fun _ => ?_
  · exact Triple.pure fun _ standing => ⟨_, .refl sound, standing⟩
  · refine Triple.bind (Standing.asked _ _ _) fun reply => ?_
    refine Triple.bind (Standing.appended _) fun _ => ?_
    refine Triple.bind (probes_stand _ _) fun _ => Triple.some fun probes => ?_
    exact Triple.given fun ran => Triple.pure fun _ standing =>
      ⟨_, sound.grows differs (executedProbes_faithful ran), standing⟩

/-- The rounds of additional probes: the induction is on the rounds that are left. -/
theorem probeRounds_stand (plan : PricingTestPlan) (rounds : Nat)
    (sound : digest.evidence.Sound setting.target) :
    Triple (Standing done doubt digest) (setting.probeRounds advice plan rounds)
      (fun _ => Grown setting done doubt digest) setting.Settled := by
  induction rounds generalizing digest with
  | zero => exact Triple.pure fun _ standing => ⟨_, .refl sound, standing⟩
  | succ rounds ih =>
    refine Triple.read fun current => ?_
    by_cases differs : 0 < digest.evidence.mismatchCount
    · refine Triple.forget ?_
      refine Triple.ite (fun _ => ?_) fun _ => ?_
      · refine Triple.bind (Standing.checked _) fun _ => ?_
        refine Triple.bind (probeRound_stands plan sound differs) fun more => ?_
        refine Triple.some fun later => Triple.given fun grows => ?_
        refine Triple.ite (fun _ => ?_) fun _ => ?_
        · refine Triple.weaken (ih grows.sound) (fun _ standing => standing) ?_ fun _ held => held
          rintro value state ⟨last, further, standing⟩
          exact ⟨last, grows.trans further, standing⟩
        · exact Triple.pure fun _ standing => ⟨later, grows, standing⟩
      · exact Triple.pure fun _ standing => ⟨_, .refl sound, standing⟩
    · intro state both
      obtain ⟨rfl, standing⟩ := both
      have evidence : state.evidence = digest.evidence := congrArg Digest.evidence standing.digest
      rw [evidence, if_neg fun both => differs both.1]
      exact ⟨_, .refl sound, standing⟩

/-- The probes of a mission: those of the selection, and more if one of them differs. -/
theorem executeProbes_stand (selection : MissionSetting.Selection)
    (fresh : digest.evidence = .empty) :
    Triple (Standing done doubt digest) (setting.executeProbes advice selection)
      (fun _ state => ∃ probes, executedProbes setting.sorter setting.mission setting.leftPkg
          setting.target setting.sendQuote .riskDirected [] selection.2 = .ok probes ∧
        ∃ later, (probes.foldl ProbeEvidence.add .empty).Grows setting.target later ∧
          Standing done doubt { digest with evidence := later, probed := true } state)
      setting.Settled := by
  refine Triple.bind (probes_stand _ _) fun _ => Triple.some fun probes => ?_
  refine Triple.given fun ran => ?_
  rw [fresh] at ran ⊢
  have sound := (ProbeEvidence.empty_sound.addAll (executedProbes_faithful ran)).1
  refine Triple.bind (probeRounds_stand selection.1 _ sound) fun _ => Triple.some fun later => ?_
  refine Triple.given fun grows => Triple.read fun current => ?_
  refine Triple.modify fun state both => ⟨probes, ran, later, grows, ?_⟩
  obtain ⟨rfl, standing⟩ := both
  refine ⟨standing.ledger, ?_, standing.undecided⟩
  have evidence := congrArg Digest.evidence standing.digest
  have validated := congrArg Digest.validated standing.digest
  have compared := congrArg Digest.compared standing.digest
  have exposure := congrArg Digest.exposure standing.digest
  unfold Investigation.digest at evidence validated compared exposure ⊢
  dsimp only at evidence validated compared exposure ⊢
  rw [evidence, validated, compared, exposure]
  rfl

/-- The impact analysis. -/
theorem traceImpact_stands (compared : MissionSetting.Compared) :
    Triple (Standing done doubt digest) (setting.traceImpact advice compared)
      (fun predicates state => (compared.rawDiffResult ≠ none → predicates ≠ none) ∧
        Standing (.dependencyImpact :: done) doubt digest state) setting.Settled := by
  unfold MissionSetting.traceImpact
  cases compared.rawDiffResult with
  | some diff =>
    refine Triple.bind (Standing.attempted (fromEngine_foreign _)) fun predicates => ?_
    refine Triple.given fun _ => Triple.bind (Standing.completed _) fun _ => ?_
    refine Triple.bind (Standing.checked _) fun _ => ?_
    exact Triple.pure fun _ standing => ⟨fun _ => Option.some_ne_none predicates, standing⟩
  | none =>
    refine Triple.bind (Standing.skipped _ ?_) fun _ => Triple.bind (Standing.checked _) fun _ =>
      Triple.pure fun _ standing => ⟨fun absurd => (absurd rfl).elim, standing⟩
    split <;> decide

/-- There is a target to select tests for, and they are those of the plan for a connector. -/
def MissionSetting.Selects (setting : MissionSetting) (selection : MissionSetting.Selection) :
    Prop :=
  (setting.target.rightPkg ≠ none ∨ setting.target.targetConnector.isSome) ∧
    (setting.target.targetConnector.isSome →
      setting.planConnector = .ok selection.1 ∧ selection.2 = selection.1.selectedScenarios)

/-- The selection of tests. Only a mission without a target has no plan to select from. -/
theorem selectTests_stands {compared : MissionSetting.Compared}
    (compares : setting.Compares compared) {predicates : Option (List ImpactPredicate)}
    (traced : compared.rawDiffResult ≠ none → predicates ≠ none) :
    Triple (Standing done doubt digest) (setting.selectTests advice compared predicates)
      (fun selection state => setting.Selects selection ∧
        Standing (.testSelection :: .testCandidateGeneration :: done) doubt digest state)
      setting.Settled := by
  have present (diff : SemanticDiffResult) (found : compared.rawDiffResult = some diff) :
      setting.target.rightPkg ≠ none := by
    intro missing
    unfold MissionSetting.Compares at compares
    rw [missing] at compares
    rw [compares] at found
    cases found
  unfold MissionSetting.selectTests MissionSetting.Selects
  cases connected : setting.target.targetConnector with
  | some connector =>
    refine Triple.bind (Standing.attempted (fromEngine_foreign _)) fun plan => ?_
    refine Triple.given fun planned => Triple.bind (Standing.allCompleted _) fun _ => ?_
    exact Triple.pure fun _ standing => ⟨⟨.inr rfl, fun _ => ⟨planned, rfl⟩⟩, standing⟩
  | none =>
    cases differs : compared.rawDiffResult with
    | none =>
      have missing : setting.target.rightPkg = none := by
        unfold MissionSetting.Compares at compares
        cases right : setting.target.rightPkg with
        | none => rfl
        | some package =>
          rw [right] at compares
          obtain ⟨diff, -, rfl⟩ := compares
          cases differs
      refine Triple.bind (Standing.skipped _ (by decide)) fun _ => ?_
      refine Triple.bind (Standing.skipped _ (by decide)) fun _ => ?_
      exact Triple.throw fun _ _ => ⟨missing, connected⟩
    | some diff =>
      obtain ⟨found, rfl⟩ := Option.ne_none_iff_exists'.mp
        (traced (differs ▸ Option.some_ne_none diff))
      refine Triple.bind (Standing.attempted (fromEngine_foreign _)) fun plan => ?_
      refine Triple.given fun _ => Triple.bind (Standing.completed _) fun _ => ?_
      refine Triple.bind (Standing.checked _) fun _ => ?_
      refine Triple.bind (Standing.chose _ _ _ _) fun _ => ?_
      exact Triple.bind (Standing.completed _) fun _ =>
        Triple.pure fun _ standing => ⟨⟨.inl (present diff differs), nofun⟩, standing⟩

/-- An execution by a connector that was not completed says why. -/
theorem connectorExecution_explained (evidence : ProbeEvidence)
    (incomplete : (MissionSetting.connectorExecution evidence).1 ≠ .completed) :
    (MissionSetting.connectorExecution evidence).2 ≠ none ∧
      (MissionSetting.connectorExecution evidence).2 ≠ some "" := by
  unfold MissionSetting.connectorExecution at incomplete ⊢
  by_cases none : evidence.connectorOutcomes.isEmpty
  · rw [if_pos none]
    exact reason_explains (by decide)
  · rw [if_neg none] at incomplete ⊢
    by_cases failed : evidence.allProbesFailed
    · rw [if_pos failed]
      exact reason_explains (append_ne (append_ne (by decide)))
    · rw [if_neg failed] at incomplete ⊢
      by_cases open_ : evidence.anyPartialResponse
      · rw [if_pos open_]
        exact reason_explains (by decide)
      · rw [if_neg open_] at incomplete
        exact absurd rfl incomplete

/-- The executions are recorded, with a doubt if the connector left one. -/
theorem recordExecution_stands (selection : MissionSetting.Selection) :
    Triple (Standing done doubt digest) (setting.recordExecution selection)
      (fun _ => Standing (.targetExecution :: .oracleExecution :: done)
        (doubt ∨ setting.target.targetConnector.isSome ∧
          (MissionSetting.connectorExecution digest.evidence).1 ≠ .completed) digest)
      setting.Settled := by
  unfold MissionSetting.recordExecution
  refine Triple.ite (fun connected => ?_) fun _ => Triple.ite (fun _ => ?_) fun _ => ?_
  · refine Triple.bind (Standing.completed _) fun _ => Triple.read fun current => ?_
    intro state both
    obtain ⟨rfl, standing⟩ := both
    have evidence : state.evidence = digest.evidence := congrArg Digest.evidence standing.digest
    rw [evidence]
    refine Standing.record .targetExecution (connectorExecution_explained _) .inl ?_ state standing
    by_cases clear : (MissionSetting.connectorExecution digest.evidence).1 = .completed
    · exact .inl (.inl clear)
    · exact .inr (.inr ⟨connected, clear⟩)
  · exact Triple.bind (Standing.skipped _ (by decide)) fun _ =>
      Standing.record _ (fun _ => reason_explains (by decide)) .inl (.inl (.inr rfl))
  · refine Triple.bind (Standing.completed _) fun _ => Triple.ite (fun _ => ?_) fun _ => ?_
    · exact Standing.record _ (fun same => absurd rfl same) .inl (.inl (.inl rfl))
    · exact Standing.record _ (fun _ => reason_explains (by decide)) .inl (.inl (.inr rfl))

/-- A change of the result where the decision does not read it. -/
theorem Standing.unread {change : AssuranceResult → AssuranceResult}
    (validation : ∀ result, (change result).validation = result.validation)
    (experiments : ∀ result, (change result).experiments = result.experiments)
    (semanticAnalysis : ∀ result, (change result).semanticAnalysis = result.semanticAnalysis)
    (blastRadius : ∀ result, (change result).blastRadius = result.blastRadius)
    (undecided : ∀ result, (change result).releaseDecision = result.releaseDecision) :
    Triple (Standing done doubt digest) (setResult change)
      (fun _ => Standing done doubt digest) setting.Settled := by
  refine Standing.changed (fun state same => ?_) undecided
  rw [← same]
  unfold Investigation.digest
  dsimp only
  rw [validation, experiments, semanticAnalysis, blastRadius]

/-- The reconciliation: a counted difference is found. -/
theorem reconcileStage_stands (sound : digest.evidence.Sound setting.target) :
    Triple (Standing done doubt digest) setting.reconcileStage
      (fun _ => Standing (.reconciliation :: done) doubt digest) setting.Settled := by
  refine Triple.read fun current => ?_
  intro state both
  obtain ⟨rfl, standing⟩ := both
  have evidence : state.evidence = digest.evidence := congrArg Digest.evidence standing.digest
  rw [evidence]
  have nothing : Triple (Standing done doubt digest) MissionSetting.reconcileNothing
      (fun _ => Standing (.reconciliation :: done) doubt digest) setting.Settled :=
    Standing.skipped _ (by decide)
  by_cases none : digest.evidence.mismatchCount = 0
  · rw [if_pos none]
    exact nothing state standing
  · rw [if_neg none]
    cases found : setting.target.rightPkg with
    | some right =>
      refine Triple.bind (Standing.attempted (fromEngine_foreign _)) (fun reconciled => ?_) state
        standing
      refine Triple.given fun _ => Triple.bind (Standing.unread ?_ ?_ ?_ ?_ ?_) fun _ =>
        Standing.completed _
      all_goals exact fun _ => rfl
    | none =>
      cases connected : setting.target.targetConnector with
      | none => exact nothing state standing
      | some connector =>
        cases first : digest.evidence.experiments.find? (·.outcome = .mismatched) with
        | some experiment =>
          have settled : Triple (Standing done doubt digest)
              (do
                setResult fun result => { result with
                  reconciliation := .succeeded
                    (MissionSetting.connectorReconciliation digest.evidence.mismatchCount) }
                recordStage .reconciliation .completed Option.none)
              (fun _ => Standing (.reconciliation :: done) doubt digest) setting.Settled := by
            refine Triple.bind (Standing.unread ?_ ?_ ?_ ?_ ?_) fun _ => Standing.completed _
            all_goals exact fun _ => rfl
          exact settled state standing
        | none =>
          refine absurd ?_ none
          rw [sound.mismatched]
          exact List.countP_eq_zero.mpr (List.find?_eq_none.mp first)

/-- The justification of the portfolio. -/
theorem justifyPortfolio_stands :
    Triple (Standing done doubt digest) (setting.justifyPortfolio advice)
      (fun _ => Standing done doubt digest) setting.Settled := by
  refine Triple.read fun current => ?_
  refine Triple.forget ?_
  refine Triple.ite (fun _ => ?_) fun _ => Triple.pure fun _ standing => standing
  refine Triple.bind (Standing.checked _) fun _ => Triple.bind (Standing.asked _ _ _) fun reply => ?_
  have kept (action : DecisionAction) (run : Bool) :
      Triple (Standing done doubt digest) (do appendAction action; pure run)
        (fun _ => Standing done doubt digest) setting.Settled :=
    Triple.bind (Standing.appended _) fun _ => Triple.pure fun _ standing => standing
  rcases reply with _ | _ | decision
  · exact kept _ _
  · exact kept _ _
  · exact kept _ _

/-- The impact runner. -/
theorem runImpact_stands :
    Triple (Standing done doubt digest) setting.runImpact
      (fun impact state => setting.connectorImpact digest.evidence = .ok impact ∧
        Standing done doubt digest state) setting.Settled := by
  have foreign (evidence : ProbeEvidence) :
      Raises setting.Foreign (setting.connectorImpact evidence) := by
    unfold MissionSetting.connectorImpact
    cases setting.target.targetConnector with
    | none => exact Raises.ok
    | some connector =>
      cases setting.impactRunner with
      | none => exact Raises.ok
      | some runner =>
        dsimp only
        split
        · exact Raises.ok
        · cases runner evidence.quotes with
          | ok run => exact Raises.ok
          | error kind => exact Raises.error trivial
  refine Triple.read fun current => ?_
  intro state both
  obtain ⟨rfl, standing⟩ := both
  have evidence : state.evidence = digest.evidence := congrArg Digest.evidence standing.digest
  rw [evidence]
  have start : Triple (fun other => other = state ∧ Standing done doubt digest other)
      (attempt (setting.connectorImpact digest.evidence))
      (fun impact other => other = state ∧ setting.connectorImpact digest.evidence = .ok impact ∧
        Standing done doubt digest other) setting.Settled := by
    cases ran : setting.connectorImpact digest.evidence with
    | ok impact => exact Triple.pure fun _ both => ⟨both.1, rfl, both.2⟩
    | error fault => exact Triple.throw fun _ _ => foreign _ _ ran
  refine Triple.bind start (fun impact => ?_) state ⟨rfl, standing⟩
  cases impact with
  | found run =>
    refine Triple.ite (fun _ => ?_) fun _ => Triple.pure fun _ both => both.2
    refine Triple.throw fun other both => ?_
    obtain ⟨rfl, -, standing⟩ := both
    exact ⟨backfill_accounted other.recorder _ _, standing.undecided, nofun⟩
  | note text => exact Triple.pure fun _ both => both.2
  | unavailable => exact Triple.pure fun _ both => both.2

end RateGuard
