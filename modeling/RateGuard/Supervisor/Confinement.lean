import RateGuard.Supervisor.Advice
import RateGuard.Testing.PlanBounds

/-!
# Confinement over a mission

Every stage of a mission keeps Gemini confined, so every record of a mission does.
-/

open DecimalFloat CalendarDate TopologicalSort EarlyExit Outcome

namespace RateGuard

variable {setting : MissionSetting} {advice : MissionAdvice} {asked : Bool} {left : Nat}

/-- Gemini may have been asked. -/
theorem Advised.loud {state : Investigation} (advised : Advised setting advice.config asked left state) :
    Advised setting advice.config true left state :=
  ⟨{ advised.ledger with silent := nofun }, advised.confinement⟩

/-- Fewer additional probes are left. -/
theorem Advised.fewer {state : Investigation} {less : Nat} (fewer : less ≤ left)
    (advised : Advised setting advice.config asked left state) :
    Advised setting advice.config asked less state :=
  ⟨advised.ledger, { advised.confinement with
    bounded := (Nat.add_le_add_left fewer _).trans advised.confinement.bounded }⟩

/-- The validation. -/
theorem validateRequest_confined :
    Triple (Advised setting advice.config asked left) setting.validateRequest
      (fun _ => Advised setting advice.config asked left)
      (MissionEnding.Confined setting advice.config) := by
  unfold MissionSetting.validateRequest
  refine Triple.ite (fun _ => ?_) fun _ => ?_
  · refine Triple.bind (Advised.completed _) fun _ => Advised.changed ?_ ?_ ?_ ?_
    all_goals exact fun _ => rfl
  · refine Triple.bind (Advised.record _ _ _) fun _ => Triple.read fun current => ?_
    refine Triple.throw fun state both => ?_
    obtain ⟨rfl, advised⟩ := both
    exact advised.concluded rfl rfl nofun

/-- The compatibility gate. -/
theorem compatibilityGate_confined :
    Triple (Advised setting advice.config asked left) (setting.compatibilityGate advice)
      (fun _ => Advised setting advice.config asked left)
      (MissionEnding.Confined setting advice.config) := by
  have target : Triple (Advised setting advice.config asked left) setting.recordTarget
      (fun _ => Advised setting advice.config asked left)
      (MissionEnding.Confined setting advice.config) := by
    unfold MissionSetting.recordTarget
    exact Triple.ite (fun _ => Advised.record _ _ _) fun _ => Advised.record _ _ _
  unfold MissionSetting.compatibilityGate
  refine Triple.bind target fun _ => Triple.ite (fun _ => ?_) fun _ => ?_
  · exact Triple.bind (Advised.record _ _ _) fun _ => Advised.checked _
  · exact Triple.bind (Advised.record _ _ _) fun _ => Advised.checked _

/-- Gemini is asked to prioritize findings if there are any. -/
theorem prioritizeDifferences_confined (semDiffs : List MaterialFinding) :
    Triple (Advised setting advice.config asked left)
      (MissionSetting.prioritizeDifferences advice semDiffs)
      (fun _ => Advised setting advice.config (asked || !semDiffs.isEmpty) left)
      (MissionEnding.Confined setting advice.config) := by
  unfold MissionSetting.prioritizeDifferences
  refine Triple.ite (fun none => ?_) fun some => ?_
  · rw [none, Bool.not_true, Bool.or_false]
    exact Triple.pure fun _ advised => advised
  · have present : (!semDiffs.isEmpty) = true := by simpa using some
    rw [present, Bool.or_true]
    refine Triple.bind (Advised.checked _) fun _ => Triple.bind (Advised.chose _ _ _) fun _ => ?_
    exact Triple.pure fun _ chosen => chosen.2

/-- The semantic analysis: Gemini is asked only if there are findings. -/
theorem semanticAnalysis_confined :
    Triple (Advised setting advice.config false left) (setting.semanticAnalysis advice)
      (fun compared state => setting.Compares compared ∧
        Advised setting advice.config (!compared.semDiffs.isEmpty) left state)
      (MissionEnding.Confined setting advice.config) := by
  unfold MissionSetting.semanticAnalysis MissionSetting.Compares
  cases setting.target.rightPkg with
  | none =>
    exact Triple.bind (Advised.record _ _ _) fun _ => Triple.pure fun _ advised => ⟨rfl, advised⟩
  | some right =>
    refine Triple.bind (Advised.attempted _) fun diff => Triple.given fun made => ?_
    refine Triple.bind (Advised.changed ?_ ?_ ?_ ?_) fun _ => ?_
    iterate 4 exact fun _ => rfl
    refine Triple.bind (prioritizeDifferences_confined _) fun _ => ?_
    refine Triple.bind (Advised.record _ _ _) fun _ => ?_
    exact Triple.pure fun _ advised => ⟨⟨diff, made, rfl⟩, advised⟩

/-- Experiments are shown that are planned and bounded. -/
theorem Advised.showed {data : ExperimentsData}
    (planned : ∀ experiment ∈ data.experiments, setting.Planned experiment)
    (bounded : additionalCount data.experiments ≤
      maxAdditionalProbeTests * advice.config.maxProbeRounds) :
    Triple (Advised setting advice.config asked left)
      (setResult fun result => { result with experiments := .succeeded data })
      (fun _ => Advised setting advice.config asked left)
      (MissionEnding.Confined setting advice.config) := by
  refine Triple.modify fun state advised => ⟨advised.ledger, ?_⟩
  refine { advised.confinement with probed := fun shown member => ?_ }
  cases member
  exact ⟨planned, bounded⟩

/-- The probes of packages that do not differ are planned. -/
theorem cleanProbes_planned {right : CompiledSource} {diff : SemanticDiffResult}
    {experiments : List RuntimeExperiment}
    (made : MissionSetting.Compared.Made setting diff)
    (ran : setting.cleanProbes right diff = .ok experiments) :
    (∀ experiment ∈ experiments, setting.Planned experiment) ∧
      additionalCount experiments = 0 := by
  obtain ⟨predicates, analyzed, ran⟩ := bind_eq_ok ran
  obtain ⟨plan, planned, ran⟩ := bind_eq_ok ran
  have source (experiment : RuntimeExperiment) (member : experiment ∈ experiments) :
      ∃ scenario ∈ plan.selectedScenarios, experiment.experimentId = scenario.id ∧
        experiment.riskInputs = scenario.riskValues ∧ experiment.category = .boundary := by
    obtain ⟨scenario, inside, probed⟩ := mapM_source ran member
    obtain ⟨expected, -, probed⟩ := bind_eq_ok probed
    obtain ⟨actual, -, probed⟩ := bind_eq_ok probed
    obtain ⟨equal, -, probed⟩ := bind_eq_ok probed
    cases probed
    exact ⟨scenario, List.mem_of_mem_take inside, rfl, rfl, rfl⟩
  constructor
  · intro experiment member
    obtain ⟨scenario, inside, named, valued, -⟩ := source experiment member
    exact ⟨plan, scenario, .inr ⟨diff, predicates, made, analyzed, planned⟩, .inl inside, named,
      valued⟩
  · refine List.countP_eq_zero.mpr fun experiment member further => ?_
    obtain ⟨scenario, -, -, -, boundary⟩ := source experiment member
    rw [boundary] at further
    exact absurd further (by decide)

/-- A mission without differences is closed without a word of Gemini. -/
theorem closeClean_confined (reason : String) (given : reason ≠ "") :
    Triple (Advised setting advice.config false left) (MissionSetting.closeClean reason given)
      (fun record _ => record.Confined setting advice.config)
      (MissionEnding.Confined setting advice.config) := by
  unfold MissionSetting.closeClean
  refine Triple.bind (Advised.record _ _ _) fun _ => ?_
  have filled : Triple (Advised setting advice.config false left)
      (modify fun state => { state with recorder := state.recorder.backfill reason given })
      (fun _ => Advised setting advice.config false left)
      (MissionEnding.Confined setting advice.config) :=
    Triple.modify fun _ advised => ⟨advised.ledger, advised.confinement⟩
  refine Triple.bind filled fun _ => Triple.bind (Advised.record _ _ _) fun _ => ?_
  refine Triple.read fun current => Triple.pure fun state both => ?_
  obtain ⟨rfl, advised⟩ := both
  refine advised.concluded rfl rfl fun _ => ?_
  change state.result.modelStatus.Honest state.invocations
  rw [advised.confinement.unset]
  exact advised.ledger.silent rfl

/-- Packages that do not differ. -/
theorem cleanEquivalence_confined {right : CompiledSource} {diff : SemanticDiffResult}
    (made : MissionSetting.Compared.Made setting diff) :
    Triple (Advised setting advice.config false left) (setting.cleanEquivalence right diff)
      (fun record _ => record.Confined setting advice.config)
      (MissionEnding.Confined setting advice.config) := by
  unfold MissionSetting.cleanEquivalence
  refine Triple.bind (Advised.completed _) fun _ => ?_
  refine Triple.bind (Advised.attempted _) fun experiments => Triple.given fun ran => ?_
  obtain ⟨planned, few⟩ := cleanProbes_planned made ran
  have bounded : additionalCount (MissionSetting.cleanData experiments).experiments ≤
      maxAdditionalProbeTests * advice.config.maxProbeRounds := few.trans_le (Nat.zero_le _)
  refine Triple.bind (Advised.showed planned bounded) fun _ => ?_
  refine Triple.ite (fun _ => ?_) fun _ => ?_
  · refine Triple.bind (Advised.changed ?_ ?_ ?_ ?_) fun _ => closeClean_confined _ _
    all_goals exact fun _ => rfl
  · refine Triple.bind (Advised.changed ?_ ?_ ?_ ?_) fun _ => ?_
    iterate 4 exact fun _ => rfl
    refine Triple.bind (Advised.record _ _ _) fun _ => ?_
    exact Triple.bind (Advised.record _ _ _) fun _ => closeClean_confined _ _

/-- The impact analysis. -/
theorem traceImpact_confined (compared : MissionSetting.Compared) :
    Triple (Advised setting advice.config asked left) (setting.traceImpact advice compared)
      (fun predicates state => (∀ diff found, compared.rawDiffResult = some diff →
          predicates = some found → setting.impactPredicates diff = .ok found) ∧
        Advised setting advice.config asked left state)
      (MissionEnding.Confined setting advice.config) := by
  unfold MissionSetting.traceImpact
  cases compared.rawDiffResult with
  | some diff =>
    refine Triple.bind (Advised.attempted _) fun predicates => Triple.given fun analyzed => ?_
    refine Triple.bind (Advised.record _ _ _) fun _ => Triple.bind (Advised.checked _) fun _ => ?_
    refine Triple.pure fun _ advised => ⟨fun other found same made => ?_, advised⟩
    cases same
    cases made
    exact analyzed
  | none =>
    refine Triple.bind (Advised.record _ _ _) fun _ => Triple.bind (Advised.checked _) fun _ => ?_
    exact Triple.pure fun _ advised => ⟨nofun, advised⟩

/-- A scenario of an identifier is in the pool. -/
theorem scenarioOf_mem {pool : List TestScenario} {id : String} {scenario : TestScenario}
    (found : MissionSetting.scenarioOf pool id = some scenario) : scenario ∈ pool :=
  List.mem_reverse.mp (List.mem_of_find?_eq_some found)

/-- A plan of a mission and scenarios of it. -/
def PlanOf (setting : MissionSetting) (selection : MissionSetting.Selection) : Prop :=
  setting.Plans selection.1 ∧ ∀ scenario ∈ selection.2,
    scenario ∈ selection.1.selectedScenarios ∨ scenario ∈ selection.1.candidateScenarios

/-- The selection of tests. -/
theorem selectTests_confined {compared : MissionSetting.Compared}
    (compares : setting.Compares compared) {predicates : Option (List ImpactPredicate)}
    (traced : ∀ diff found, compared.rawDiffResult = some diff → predicates = some found →
      setting.impactPredicates diff = .ok found) :
    Triple (Advised setting advice.config true left)
      (setting.selectTests advice compared predicates)
      (fun selection state => PlanOf setting selection ∧
        Advised setting advice.config true left state)
      (MissionEnding.Confined setting advice.config) := by
  have made (diff : SemanticDiffResult) (found : compared.rawDiffResult = some diff) :
      MissionSetting.Compared.Made setting diff := by
    unfold MissionSetting.Compares at compares
    cases present : setting.target.rightPkg with
    | none =>
      rw [present] at compares
      rw [compares] at found
      cases found
    | some right =>
      rw [present] at compares
      obtain ⟨other, run, rfl⟩ := compares
      cases found
      exact ⟨right, present, fromEngine_ok run⟩
  unfold MissionSetting.selectTests
  cases setting.target.targetConnector with
  | some connector =>
    refine Triple.bind (Advised.attempted _) fun plan => Triple.given fun planned => ?_
    refine Triple.bind (Advised.completed _) fun _ => Triple.pure fun _ advised => ?_
    exact ⟨⟨.inl planned, fun _ => .inl⟩, advised⟩
  | none =>
    have unplanned : Triple (Advised setting advice.config true left)
        (do
          recordStage .testCandidateGeneration .notApplicable (some
            "No comparison target available to generate targeted test candidates from.")
          recordStage .testSelection .notApplicable (some
            "No test candidates were generated for this mission.")
          throw (.raised .missingPlan))
        (fun selection state => PlanOf setting selection ∧
          Advised setting advice.config true left state)
        (MissionEnding.Confined setting advice.config) :=
      Triple.bind (Advised.record _ _ _) fun _ => Triple.bind (Advised.record _ _ _) fun _ =>
        Triple.throw fun _ _ => trivial
    cases differs : compared.rawDiffResult with
    | none => exact unplanned
    | some diff =>
      cases found : predicates with
      | none => exact unplanned
      | some predicates =>
        refine Triple.bind (Advised.attempted _) fun plan => Triple.given fun planned => ?_
        have plans : setting.Plans plan :=
          .inr ⟨diff, predicates, made diff differs, traced diff predicates differs found, planned⟩
        refine Triple.bind (Advised.record _ _ _) fun _ => ?_
        refine Triple.bind (Advised.checked _) fun _ => ?_
        refine Triple.bind (Advised.chose _ _ _) fun chosen => Triple.given fun _ => ?_
        refine Triple.bind (Advised.record _ _ _) fun _ => Triple.pure fun _ advised => ?_
        refine ⟨⟨plans, fun scenario member => ?_⟩, advised⟩
        dsimp only at member
        split at member
        · exact .inl member
        · obtain ⟨id, -, taken⟩ := List.mem_filterMap.mp member
          exact .inr (scenarioOf_mem taken)

/-- A probe is about its scenario. -/
theorem executedProbe_about {sorter : Sorter String} {mission : AssuranceMission}
    {source : CompiledSource} {target : MissionTarget} {sendQuote : SendQuote}
    {history : QuoteHistory} {category : ExperimentCategory} {scenario : TestScenario}
    {probe : ExecutedProbe}
    (executed : executedProbe sorter mission source target sendQuote history category scenario =
      .ok probe) :
    probe.experiment.experimentId = scenario.id ∧
      probe.experiment.riskInputs = scenario.riskValues ∧
      probe.experiment.category = category := by
  unfold executedProbe at executed
  obtain ⟨dated, -, executed⟩ := bind_eq_ok executed
  cases dated with
  | error reason =>
    cases executed
    exact ⟨rfl, rfl, rfl⟩
  | ok expected =>
    obtain ⟨answer, -, executed⟩ := bind_eq_ok executed
    cases premium : answer.actual with
    | none =>
      rw [premium] at executed
      cases executed
      exact ⟨rfl, rfl, rfl⟩
    | some actual =>
      rw [premium] at executed
      obtain ⟨equal, -, made⟩ := bind_eq_ok executed
      cases made
      exact ⟨rfl, rfl, rfl⟩

/-- A probe of the plan; an additional one is one less to be left. -/
theorem probe_confined {plan : PricingTestPlan} (plans : setting.Plans plan)
    {scenario : TestScenario}
    (inside : scenario ∈ plan.selectedScenarios ∨ scenario ∈ plan.candidateScenarios)
    (category : ExperimentCategory) :
    Triple (Advised setting advice.config true
        (left + if category = .additionalProbe then 1 else 0))
      (setting.probe category scenario)
      (fun _ => Advised setting advice.config true left)
      (MissionEnding.Confined setting advice.config) := by
  refine Triple.read fun current => Triple.forget ?_
  refine Triple.bind (Advised.attempted _) fun executed => Triple.given fun ran => ?_
  obtain ⟨named, valued, categorized⟩ := executedProbe_about ran
  refine Triple.modify fun state advised => ⟨advised.ledger, ?_⟩
  refine { advised.confinement with planned := fun experiment member => ?_, bounded := ?_ }
  · rcases List.mem_append.mp member with earlier | last
    · exact advised.confinement.planned experiment earlier
    · rw [List.mem_singleton.mp last]
      exact ⟨plan, scenario, plans, inside, named, valued⟩
  · have before := advised.confinement.bounded
    unfold additionalCount at before
    unfold additionalCount ProbeEvidence.add
    rw [List.countP_append, List.countP_singleton, categorized]
    simp only [decide_eq_true_eq]
    omega

/-- Probes of the plan in turn. -/
theorem probes_confined {plan : PricingTestPlan} (plans : setting.Plans plan)
    {scenarios : List TestScenario} (inside : ∀ scenario ∈ scenarios,
      scenario ∈ plan.selectedScenarios ∨ scenario ∈ plan.candidateScenarios)
    (category : ExperimentCategory) :
    Triple (Advised setting advice.config true
        (left + if category = .additionalProbe then scenarios.length else 0))
      (scenarios.forM (setting.probe category))
      (fun _ => Advised setting advice.config true left)
      (MissionEnding.Confined setting advice.config) := by
  induction scenarios with
  | nil => exact Triple.pure fun _ advised => advised.fewer (Nat.le_add_right _ _)
  | cons scenario rest ih =>
    refine Triple.bind ?_ fun _ => ih fun other member => inside other (List.mem_cons_of_mem _ member)
    refine Triple.weaken (probe_confined plans (inside scenario List.mem_cons_self) category)
      (fun _ advised => advised.fewer ?_) (fun _ _ advised => advised) fun _ held => held
    rw [List.length_cons]
    split <;> omega

/-- The probes that Gemini asks for are candidates, and few. -/
theorem additionalProbes_spec {remaining : List TestScenario}
    (reply : Option (GeminiReply EvidenceSufficiency)) :
    (∀ scenario ∈ MissionSetting.additionalProbes remaining reply, scenario ∈ remaining) ∧
      (MissionSetting.additionalProbes remaining reply).length ≤ maxAdditionalProbeTests := by
  unfold MissionSetting.additionalProbes
  constructor
  · intro scenario member
    obtain ⟨id, -, found⟩ := List.mem_filterMap.mp member
    exact scenarioOf_mem found
  · exact (List.length_filterMap_le _ _).trans (List.length_take_le _ _)

/-- Probing ends only with an answer. -/
theorem endsProbing_answers {reply : Option (GeminiReply EvidenceSufficiency)}
    (ends : MissionSetting.endsProbing reply = true) : answers reply = true := by
  rcases reply with _ | _ | decision
  · cases ends
  · cases ends
  · rfl

/-- Additional probes were asked for in an answer. -/
theorem additionalProbes_answers {remaining : List TestScenario}
    {reply : Option (GeminiReply EvidenceSufficiency)}
    (some : (MissionSetting.additionalProbes remaining reply).isEmpty = false) :
    answers reply = true := by
  rcases reply with _ | _ | decision
  · cases some
  · cases some
  · rfl

/-- A round of additional probes. -/
theorem probeRound_confined {plan : PricingTestPlan} (plans : setting.Plans plan) :
    Triple (Advised setting advice.config true (left + maxAdditionalProbeTests))
      (setting.probeRound advice plan) (fun _ => Advised setting advice.config true left)
      (MissionEnding.Confined setting advice.config) := by
  refine Triple.read fun current => Triple.forget ?_
  refine Triple.ite (fun _ => Triple.pure fun _ advised => advised.fewer (Nat.le_add_right _ _)) ?_
  refine fun _ => Triple.bind (Advised.heard _ _) fun reply => ?_
  generalize extra : (if MissionSetting.endsProbing reply then []
    else MissionSetting.additionalProbes (MissionSetting.remainingPool plan current.evidence)
      reply) = scenarios
  have candidates : (∀ scenario ∈ scenarios,
      scenario ∈ MissionSetting.remainingPool plan current.evidence) ∧
      scenarios.length ≤ maxAdditionalProbeTests := by
    rw [← extra]
    split
    · exact ⟨nofun, Nat.zero_le _⟩
    · exact additionalProbes_spec reply
  have answered (own : (MissionSetting.endsProbing reply || !scenarios.isEmpty) = true) :
      answers reply = true := by
    rcases Bool.or_eq_true _ _ ▸ own with ends | some
    · exact endsProbing_answers ends
    · rw [← extra] at some
      split at some
      · cases some
      · exact additionalProbes_answers ((Bool.not_eq_true' _).mp some)
  have noted : Triple
      (Heard setting advice.config (left + maxAdditionalProbeTests) "EVIDENCE_SUFFICIENCY"
        (answers reply))
      (appendAction (decisionAction "EVIDENCE_SUFFICIENCY" reply
        (MissionSetting.endsProbing reply || !scenarios.isEmpty)))
      (fun _ => Advised setting advice.config true (left + maxAdditionalProbeTests))
      (MissionEnding.Confined setting advice.config) :=
    Heard.appended answered (decisionAction_explained _ _ _)
  refine Triple.bind noted fun _ => Triple.bind ?_ fun _ => Triple.pure fun _ advised => advised
  have ran : Triple (Advised setting advice.config true (left + scenarios.length))
      (scenarios.forM (setting.probe .additionalProbe))
      (fun _ => Advised setting advice.config true left)
      (MissionEnding.Confined setting advice.config) :=
    probes_confined plans (fun scenario member =>
      .inr (List.mem_filter.mp (candidates.1 scenario member)).1) .additionalProbe
  exact Triple.weaken ran (fun _ advised => advised.fewer (Nat.add_le_add_left candidates.2 _))
    (fun _ _ advised => advised) fun _ held => held

/-- The rounds of additional probes: the induction is on the rounds that are left. -/
theorem probeRounds_confined {plan : PricingTestPlan} (plans : setting.Plans plan) (rounds : Nat) :
    Triple (Advised setting advice.config true (maxAdditionalProbeTests * rounds))
      (setting.probeRounds advice plan rounds) (fun _ => Advised setting advice.config true 0)
      (MissionEnding.Confined setting advice.config) := by
  induction rounds with
  | zero => exact Triple.pure fun _ advised => advised
  | succ rounds ih =>
    have idle : Triple (Advised setting advice.config true (maxAdditionalProbeTests * (rounds + 1)))
        (pure ()) (fun _ => Advised setting advice.config true 0)
        (MissionEnding.Confined setting advice.config) :=
      Triple.pure fun _ advised => advised.fewer (Nat.zero_le _)
    refine Triple.read fun current => Triple.forget (Triple.ite (fun _ => ?_) fun _ => idle)
    refine Triple.bind (Advised.checked _) fun _ => ?_
    refine Triple.bind (probeRound_confined plans) fun more => Triple.ite (fun _ => ih) fun _ => ?_
    exact Triple.pure fun _ advised => advised.fewer (Nat.zero_le _)

/-- The probes of a mission. -/
theorem executeProbes_confined {selection : MissionSetting.Selection}
    (planned : PlanOf setting selection) :
    Triple (Advised setting advice.config true
        (maxAdditionalProbeTests * advice.config.maxProbeRounds))
      (setting.executeProbes advice selection) (fun _ => Advised setting advice.config true 0)
      (MissionEnding.Confined setting advice.config) := by
  refine Triple.bind (probes_confined planned.1 planned.2 .riskDirected) fun _ => ?_
  refine Triple.bind (probeRounds_confined planned.1 _) fun _ => Triple.read fun current => ?_
  refine Triple.modify fun state both => ?_
  obtain ⟨rfl, advised⟩ := both
  refine ⟨advised.ledger, { advised.confinement with probed := fun shown member => ?_ }⟩
  cases member
  exact ⟨advised.confinement.planned, advised.confinement.bounded⟩

/-- The executions are recorded. -/
theorem recordExecution_confined (selection : MissionSetting.Selection) :
    Triple (Advised setting advice.config asked left) (setting.recordExecution selection)
      (fun _ => Advised setting advice.config asked left)
      (MissionEnding.Confined setting advice.config) := by
  unfold MissionSetting.recordExecution
  refine Triple.ite (fun _ => ?_) fun _ => Triple.ite (fun _ => ?_) fun _ => ?_
  · refine Triple.bind (Advised.record _ _ _) fun _ => Triple.read fun current => ?_
    exact Triple.forget (Advised.record _ _ _)
  · exact Triple.bind (Advised.record _ _ _) fun _ => Advised.record _ _ _
  · refine Triple.bind (Advised.record _ _ _) fun _ => ?_
    exact Triple.ite (fun _ => Advised.record _ _ _) fun _ => Advised.record _ _ _

/-- The reconciliation. -/
theorem reconcileStage_confined :
    Triple (Advised setting advice.config asked left) setting.reconcileStage
      (fun _ => Advised setting advice.config asked left)
      (MissionEnding.Confined setting advice.config) := by
  refine Triple.read fun current => Triple.forget (Triple.ite (fun _ => Advised.record _ _ _) ?_)
  intro _
  cases setting.target.rightPkg with
  | some right =>
    refine Triple.bind (Advised.attempted _) fun reconciled => Triple.given fun _ => ?_
    refine Triple.bind (Advised.changed ?_ ?_ ?_ ?_) fun _ => Advised.record _ _ _
    all_goals exact fun _ => rfl
  | none =>
    cases setting.target.targetConnector with
    | none => exact Advised.record _ _ _
    | some connector =>
      dsimp only
      cases current.evidence.experiments.find? (·.outcome = .mismatched) with
      | none => exact Triple.throw fun _ _ => trivial
      | some experiment =>
        refine Triple.bind (Advised.changed ?_ ?_ ?_ ?_) fun _ => Advised.record _ _ _
        all_goals exact fun _ => rfl

/-- The justification of the portfolio. -/
theorem justifyPortfolio_confined :
    Triple (Advised setting advice.config true left) (setting.justifyPortfolio advice)
      (fun _ => Advised setting advice.config true left)
      (MissionEnding.Confined setting advice.config) := by
  refine Triple.read fun current => Triple.forget (Triple.ite (fun _ => ?_) fun _ => ?_)
  · refine Triple.bind (Advised.checked _) fun _ => Triple.bind (Advised.heard _ _) fun reply => ?_
    have noted (isGemini run : Bool) (backed : isGemini = true → answers reply = true) :
        Triple (Heard setting advice.config left "PORTFOLIO_JUSTIFICATION" (answers reply))
          (do
            appendAction (decisionAction "PORTFOLIO_JUSTIFICATION" reply isGemini)
            pure run)
          (fun _ => Advised setting advice.config true left)
          (MissionEnding.Confined setting advice.config) :=
      Triple.bind (Heard.appended backed (decisionAction_explained _ _ _)) fun _ =>
        Triple.pure fun _ advised => advised
    rcases reply with _ | _ | decision
    · exact noted _ _ nofun
    · exact noted _ _ nofun
    · exact noted _ _ fun _ => rfl
  · exact Triple.pure fun _ advised => advised

/-- The impact runner. -/
theorem runImpact_confined :
    Triple (Advised setting advice.config asked left) setting.runImpact
      (fun _ => Advised setting advice.config asked left)
      (MissionEnding.Confined setting advice.config) := by
  refine Triple.read fun current => ?_
  have ran : Triple (fun state => state = current ∧
      Advised setting advice.config asked left state)
      (attempt (setting.connectorImpact current.evidence))
      (fun _ state => state = current ∧ Advised setting advice.config asked left state)
      (MissionEnding.Confined setting advice.config) := by
    cases setting.connectorImpact current.evidence with
    | ok impact => exact Triple.pure fun _ both => both
    | error fault => exact Triple.throw fun _ _ => trivial
  refine Triple.bind ran fun impact => ?_
  cases impact with
  | found run =>
    refine Triple.ite (fun _ => ?_) fun _ => Triple.pure fun _ both => both.2
    refine Triple.throw fun state both => ?_
    obtain ⟨rfl, advised⟩ := both
    exact advised.concluded rfl rfl nofun
  | note text => exact Triple.pure fun _ both => both.2
  | unavailable => exact Triple.pure fun _ both => both.2

/-- The scan of the portfolio of two packages. -/
theorem scanPortfolio_confined (runPortfolio : Bool) :
    Triple (Advised setting advice.config asked left) (setting.scanPortfolio runPortfolio)
      (fun _ => Advised setting advice.config asked left)
      (MissionEnding.Confined setting advice.config) := by
  unfold MissionSetting.scanPortfolio
  cases setting.target.rightPkg with
  | some right =>
    refine Triple.ite (fun _ => ?_) fun _ => ?_
    · refine Triple.bind (Advised.attempted _) fun exposure => Triple.given fun _ => ?_
      refine Triple.bind (Advised.changed ?_ ?_ ?_ ?_) fun _ => ?_
      iterate 4 exact fun _ => rfl
      exact Triple.bind (Advised.record _ _ _) fun _ => Triple.pure fun _ advised => advised
    · exact Triple.bind (Advised.record _ _ _) fun _ => Triple.pure fun _ advised => advised
  | none => exact Triple.bind (Advised.record _ _ _) fun _ => Triple.pure fun _ advised => advised

/-- The portfolio stage. -/
theorem portfolioStage_confined (impact : MissionSetting.ConnectorImpact) (runPortfolio : Bool) :
    Triple (Advised setting advice.config asked left) (setting.portfolioStage impact runPortfolio)
      (fun _ => Advised setting advice.config asked left)
      (MissionEnding.Confined setting advice.config) := by
  unfold MissionSetting.portfolioStage
  cases impact with
  | unavailable => exact scanPortfolio_confined _
  | found run =>
    refine Triple.bind (Advised.changed ?_ ?_ ?_ ?_) fun _ => ?_
    iterate 4 exact fun _ => rfl
    exact Triple.bind (Advised.record _ _ _) fun _ => Triple.pure fun _ advised => advised
  | note text =>
    refine Triple.ite (fun _ => scanPortfolio_confined _) fun _ => ?_
    exact Triple.bind (Advised.record _ _ _) fun _ => Triple.pure fun _ advised => advised

/-- The analytics. -/
theorem analyticsStages_confined (impact : MissionSetting.ConnectorImpact)
    (exposure : Option PortfolioExposureResult) :
    Triple (Advised setting advice.config asked left)
      (MissionSetting.analyticsStages impact exposure)
      (fun _ => Advised setting advice.config asked left)
      (MissionEnding.Confined setting advice.config) := by
  have recorded (stage : MissionStage) (computed : Bool) :
      Triple (Advised setting advice.config asked left)
        (MissionSetting.recordAnalytics stage computed)
        (fun _ => Advised setting advice.config asked left)
        (MissionEnding.Confined setting advice.config) := by
    unfold MissionSetting.recordAnalytics
    exact Triple.ite (fun _ => Advised.record _ _ _) fun _ => Advised.record _ _ _
  unfold MissionSetting.analyticsStages
  cases impact with
  | found run => exact Triple.bind (recorded _ _) fun _ => recorded _ _
  | note text => exact Triple.bind (recorded _ _) fun _ => recorded _ _
  | unavailable => exact Triple.bind (recorded _ _) fun _ => recorded _ _

/-- A draft of Gemini was an answer. -/
theorem geminiDraft_answers {facts : ExplanationFacts} {reply : Option (GeminiReply DraftText)}
    (own : (buildExplanationDraft setting.lowering facts
      (MissionSetting.draftedText reply)).source = .gemini) : answers reply = true := by
  rcases reply with _ | _ | decision
  · cases own
  · cases own
  · rfl

/-- The action of a draft that is Gemini's exactly if the draft is. -/
theorem draftAction_spec (reply : Option (GeminiReply DraftText)) (draft : ExplanationDraft) :
    (MissionSetting.draftAction reply draft).decisionType = "EXPLANATION_DRAFT" ∧
      ((MissionSetting.draftAction reply draft).isGeminiDecision = true →
        draft.source = .gemini) ∧
      (MissionSetting.draftAction reply draft).fallbackReason.isSome =
        !(MissionSetting.draftAction reply draft).isGeminiDecision := by
  unfold MissionSetting.draftAction
  by_cases own : draft.source = .gemini
  · rw [if_pos own]
    exact ⟨rfl, fun _ => own, rfl⟩
  · rw [if_neg own]
    exact ⟨rfl, nofun, rfl⟩

/-- The explanation. -/
theorem explainStage_confined :
    Triple (Advised setting advice.config true left) (setting.explainStage advice)
      (fun _ => Advised setting advice.config true left)
      (MissionEnding.Confined setting advice.config) := by
  have nothing (reason : String) : Triple (Advised setting advice.config true left)
      (MissionSetting.explainNothing reason) (fun _ => Advised setting advice.config true left)
      (MissionEnding.Confined setting advice.config) :=
    Triple.bind (Advised.record _ _ _) fun _ => Advised.record _ _ _
  have explained (facts : ExplanationFacts) : Triple (Advised setting advice.config true left)
      (setting.explainFacts advice facts) (fun _ => Advised setting advice.config true left)
      (MissionEnding.Confined setting advice.config) := by
    unfold MissionSetting.explainFacts
    refine Triple.bind (Advised.changed ?_ ?_ ?_ ?_) fun _ => ?_
    iterate 4 exact fun _ => rfl
    refine Triple.bind (Advised.record _ _ _) fun _ => Triple.bind (Advised.checked _) fun _ => ?_
    refine Triple.bind (Advised.heard _ _) fun reply => ?_
    obtain ⟨kind, own, explains⟩ := draftAction_spec reply
      (buildExplanationDraft setting.lowering facts (MissionSetting.draftedText reply))
    rw [← kind]
    refine Triple.bind (Heard.appended (fun gemini => geminiDraft_answers (own gemini)) explains) ?_
    refine fun _ => Triple.bind (Advised.changed ?_ ?_ ?_ ?_) fun _ => Advised.record _ _ _
    all_goals exact fun _ => rfl
  refine Triple.read fun current => Triple.forget ?_
  cases current.evidence.experiments.find? (!·.agrees) with
  | none => exact nothing _
  | some experiment =>
    cases MissionSetting.rootCauseOf current.result with
    | none => exact nothing _
    | some cause =>
      dsimp only
      cases setting.missionFacts experiment cause with
      | none => exact nothing _
      | some facts => exact explained facts

/-- The scenarios to rerun. -/
theorem selectReruns_confined (plan : PricingTestPlan) (evidence : ProbeEvidence) :
    Triple (Advised setting advice.config true left)
      (MissionSetting.selectReruns advice plan evidence)
      (fun _ => Advised setting advice.config true left)
      (MissionEnding.Confined setting advice.config) := by
  unfold MissionSetting.selectReruns
  refine Triple.ite (fun _ => Triple.pure fun _ advised => advised) fun _ => ?_
  refine Triple.bind (Advised.checked _) fun _ => Triple.bind (Advised.heard _ _) fun reply => ?_
  have noted (isGemini : Bool) (reruns : MissionSetting.Reruns)
      (backed : isGemini = true → answers reply = true) :
      Triple (Heard setting advice.config left "SELECT_REVALIDATION_TESTS" (answers reply))
        (do
          appendAction (decisionAction "SELECT_REVALIDATION_TESTS" reply isGemini)
          pure reruns)
        (fun _ => Advised setting advice.config true left)
        (MissionEnding.Confined setting advice.config) :=
    Triple.bind (Heard.appended backed (decisionAction_explained _ _ _)) fun _ =>
      Triple.pure fun _ advised => advised
  rcases reply with _ | _ | decision
  · exact noted _ _ nofun
  · exact noted _ _ nofun
  · exact noted _ _ fun _ => rfl

/-- A proposal for findings of the comparison. -/
theorem proposeRemediation_confined (plan : PricingTestPlan) {right : CompiledSource}
    {diff : SemanticDiffResult} (made : MissionSetting.Compared.Made setting diff)
    (directed : setting.mission.mode = .releaseConformance) :
    Triple (Advised setting advice.config true left)
      (setting.proposeRemediation advice plan right (setting.findings diff))
      (fun _ => Advised setting advice.config true left)
      (MissionEnding.Confined setting advice.config) := by
  unfold MissionSetting.proposeRemediation
  refine Triple.bind (Advised.checked _) fun _ => Triple.bind (Advised.chose _ _ _) fun chosen => ?_
  refine Triple.given fun _ => ?_
  generalize picked : (if chosen.isEmpty then setting.findings diff
    else (setting.findings diff).filter fun finding => chosen.contains finding.findingId) = targets
  have part : targets.Sublist (setting.findings diff) := by
    rw [← picked]
    split
    · exact List.Sublist.refl _
    · exact List.filter_sublist
  have proposed : Triple (Advised setting advice.config true left)
      (setResult fun result => { result with
        remediation := .succeeded (generateRemediationProposal setting.remediationId
          setting.derivedPackageId targets) })
      (fun _ => Advised setting advice.config true left)
      (MissionEnding.Confined setting advice.config) := by
    refine Triple.modify fun state advised => ⟨advised.ledger, ?_⟩
    refine { advised.confinement with corrected := fun proposal member => ?_ }
    cases member
    exact ⟨directed, diff, targets, made, part, rfl⟩
  refine Triple.bind proposed fun _ => Triple.read fun current => Triple.forget ?_
  refine Triple.bind (selectReruns_confined _ _) fun reruns => ?_
  refine Triple.bind (Advised.attempted _) fun revalidated => Triple.given fun _ => ?_
  refine Triple.bind (Advised.changed ?_ ?_ ?_ ?_) fun _ => Advised.completed _
  all_goals exact fun _ => rfl

/-- The remediation. -/
theorem remediateStage_confined (plan : PricingTestPlan) {compared : MissionSetting.Compared}
    (compares : setting.Compares compared) :
    Triple (Advised setting advice.config true left)
      (setting.remediateStage advice plan compared.semDiffs)
      (fun _ => Advised setting advice.config true left)
      (MissionEnding.Confined setting advice.config) := by
  unfold MissionSetting.remediateStage
  cases present : setting.target.rightPkg with
  | none => exact Triple.bind (Advised.record _ _ _) fun _ => Advised.record _ _ _
  | some right =>
    cases mode : setting.mission.mode with
    | equivalence =>
      refine Triple.bind (Advised.checked _) fun _ => Triple.bind (Advised.chose _ _ _) fun _ => ?_
      refine Triple.given fun _ => ?_
      exact Triple.bind (Advised.record _ _ _) fun _ => Advised.record _ _ _
    | releaseConformance =>
      unfold MissionSetting.Compares at compares
      rw [present] at compares
      obtain ⟨diff, run, rfl⟩ := compares
      exact proposeRemediation_confined plan ⟨right, present, fromEngine_ok run⟩ mode

/-- The status that a completed mission tells of Gemini is honest. -/
theorem modelStatusOf_honest {budget : InvestigationBudget} {actions : List DecisionAction}
    {invocations : List GeminiInvocation}
    (ledger : GeminiLedger advice.config asked budget actions invocations) :
    (MissionSetting.modelStatusOf budget).Honest invocations := by
  unfold MissionSetting.modelStatusOf
  rw [ledger.succeeded, ledger.attempted]
  by_cases silent : answeredCalls invocations = []
  · rw [silent]
    by_cases failed : invocations.any (·.failureCategory.isSome) = true
    · rw [if_neg (by simp), if_pos failed]
      refine ⟨fun none => ?_, silent⟩
      rw [none] at failed
      cases failed
    · rw [if_neg (by simp), if_neg failed]
      refine List.eq_nil_iff_forall_not_mem.mpr fun call member => ?_
      have succeeded : call.failureCategory.isNone = true := by
        by_contra open_
        exact failed (List.any_eq_true.mpr
          ⟨call, member, Option.isSome_iff_ne_none.mpr (by simpa using open_)⟩)
      have answered : call.decisionType ∈ answeredCalls invocations :=
        List.mem_map_of_mem (List.mem_filter.mpr ⟨member, succeeded⟩)
      rw [silent] at answered
      cases answered
  · rw [if_pos (by simpa using silent)]
    exact silent

/-- The decision. -/
theorem decide_confined (impact : MissionSetting.ConnectorImpact) (differences : Nat) :
    Triple (Advised setting advice.config true left) (setting.decide impact differences)
      (fun record _ => record.Confined setting advice.config)
      (MissionEnding.Confined setting advice.config) := by
  refine Triple.read fun current => Triple.forget ?_
  refine Triple.bind (Advised.changed ?_ ?_ ?_ ?_) fun _ => ?_
  iterate 4 exact fun _ => rfl
  refine Triple.bind (Advised.record _ _ _) fun _ => ?_
  refine Triple.read fun state => Triple.forget (Triple.bind (Advised.record _ _ _) fun _ => ?_)
  refine Triple.read fun final => Triple.pure fun state both => ?_
  obtain ⟨rfl, advised⟩ := both
  exact advised.concluded rfl rfl fun _ => modelStatusOf_honest advised.ledger

/-- An investigation. -/
theorem investigate_confined {compared : MissionSetting.Compared}
    (compares : setting.Compares compared) :
    Triple (Advised setting advice.config true
        (maxAdditionalProbeTests * advice.config.maxProbeRounds))
      (setting.investigate advice compared) (fun record _ => record.Confined setting advice.config)
      (MissionEnding.Confined setting advice.config) := by
  refine Triple.bind (Advised.checked _) fun _ => ?_
  refine Triple.bind (traceImpact_confined compared) fun predicates => ?_
  refine Triple.given fun traced => ?_
  refine Triple.bind (selectTests_confined compares traced) fun selection => ?_
  refine Triple.given fun planned => Triple.bind (executeProbes_confined planned) fun _ => ?_
  refine Triple.bind (recordExecution_confined selection) fun _ => ?_
  refine Triple.bind (Advised.checked _) fun _ => Triple.bind reconcileStage_confined fun _ => ?_
  refine Triple.bind (Advised.checked _) fun _ => ?_
  refine Triple.bind justifyPortfolio_confined fun runPortfolio => ?_
  refine Triple.bind runImpact_confined fun impact => ?_
  refine Triple.bind (portfolioStage_confined impact runPortfolio) fun exposure => ?_
  refine Triple.bind (analyticsStages_confined impact exposure) fun _ => ?_
  refine Triple.bind explainStage_confined fun _ => Triple.bind (Advised.checked _) fun _ => ?_
  refine Triple.bind (remediateStage_confined selection.1 compares) fun _ => ?_
  exact Triple.bind (Advised.checked _) fun _ => decide_confined impact _

/-- A mission. -/
theorem runMission_confined :
    Triple (Advised setting advice.config false
        (maxAdditionalProbeTests * advice.config.maxProbeRounds))
      (setting.runMission advice) (fun record _ => record.Confined setting advice.config)
      (MissionEnding.Confined setting advice.config) := by
  refine Triple.bind validateRequest_confined fun _ => ?_
  refine Triple.bind compatibilityGate_confined fun _ => ?_
  refine Triple.bind semanticAnalysis_confined fun compared => Triple.given fun compares => ?_
  have investigated : Triple
      (Advised setting advice.config (!compared.semDiffs.isEmpty)
        (maxAdditionalProbeTests * advice.config.maxProbeRounds))
      (setting.investigate advice compared) (fun record _ => record.Confined setting advice.config)
      (MissionEnding.Confined setting advice.config) :=
    Triple.weaken (investigate_confined compares) (fun _ advised => advised.loud)
      (fun _ _ confined => confined) fun _ held => held
  cases present : setting.target.rightPkg with
  | none => exact investigated
  | some right =>
    have made := compares
    unfold MissionSetting.Compares at made
    rw [present] at made
    obtain ⟨diff, run, rfl⟩ := made
    refine Triple.ite (fun empty => ?_) fun _ => investigated
    have none : (setting.findings diff).isEmpty = true := empty
    dsimp only
    rw [none]
    exact cleanEquivalence_confined ⟨right, present, fromEngine_ok run⟩

/-- An investigation before anything runs is confined. -/
theorem begun_confined : Advised setting advice.config false
    (maxAdditionalProbeTests * advice.config.maxProbeRounds) .begun where
  ledger := ⟨fun _ => rfl, rfl, rfl, rfl, Nat.zero_le _, List.Sublist.refl _, List.forall_mem_nil _⟩
  confinement := ⟨List.forall_mem_nil _, (Nat.zero_add _).le, nofun, nofun, rfl, nofun⟩

/-- Every record of a mission confines Gemini. -/
theorem missionRecord_confined {record : AssuranceRecord}
    (ran : setting.missionRecord advice = .ok record) : record.Confined setting advice.config := by
  have ends : Triple (Advised setting advice.config false
      (maxAdditionalProbeTests * advice.config.maxProbeRounds))
      (setting.runMission advice) (fun record _ => record.Confined setting advice.config)
      (MissionEnding.Confined setting advice.config) := runMission_confined
  have outcome := ends .begun begun_confined
  unfold MissionSetting.missionRecord at ran
  cases run : setting.runMission advice .begun with
  | ok found =>
    rw [run] at ran outcome
    cases ran
    exact outcome
  | error ending =>
    rw [run] at ran outcome
    cases ending with
    | finished other =>
      cases ran
      exact outcome
    | raised fault => cases ran

/-- Gemini is called within its budget, every decision that is shown as its own was in turn an
answer of its and any other one says why, and the status of a completed mission tells whether it
answered. -/
theorem mission_gemini_accounted {record : AssuranceRecord}
    (ran : setting.missionRecord advice = .ok record) :
    GeminiAccounted advice.config record.agentActivity record.invocations ∧
      (record.report.overallStatus = .completed →
        record.report.modelStatus.Honest record.invocations) :=
  have confined := missionRecord_confined ran
  ⟨confined.accounted, confined.honest⟩

/-- One identifier. -/
def oneId {least most : Nat} (low : least ≤ 1) (high : 1 ≤ most) (id : String) :
    BoundedIds least most := ⟨[id], low, high⟩

/-- Gemini that asks for probes again and again. -/
def eagerGemini : GeminiClient where
  prioritizeDifferences _ := .ok ⟨oneId (Nat.zero_le 1) (Nat.le_add_left 1 9) "finding", "", false⟩
  selectBoundaryTests _ := .ok ⟨oneId (Nat.le_refl 1) (Nat.le_add_left 1 7) "RG-002", "", false⟩
  evidenceSufficiency _ :=
    .ok ⟨⟨false, oneId (Nat.zero_le 1) (Nat.le_add_left 1 4) "RG-003"⟩, "", true⟩
  portfolioJustification _ := .ok ⟨false, "", false⟩
  explanationDraft _ := .error "TIMEOUT"
  proposeAlignmentOptions _ :=
    .ok ⟨oneId (Nat.le_refl 1) (Nat.le_add_left 1 19) "finding", "", false⟩
  proposeRemediation _ := .ok ⟨oneId (Nat.le_refl 1) (Nat.le_add_left 1 19) "finding", "", false⟩
  selectRevalidationTests _ :=
    .ok ⟨⟨oneId (Nat.zero_le 1) (Nat.le_add_left 1 7) "RG-002",
      oneId (Nat.zero_le 1) (Nat.le_add_left 1 4) "RG-001"⟩, "", false⟩

/-- Its advice, with a budget of six calls. -/
def eagerAdvice : MissionAdvice := ⟨eagerGemini, ⟨6, 2⟩, fun _ => false⟩

/-- A release check of the package of covers against one of another table and base rate. -/
def coverSetting : MissionSetting :=
  { flatSetting ⟨"target", "IPIR", false, none, none⟩
      ⟨some { homeSource steeperPackage with
        constants := [⟨"base_rate", ⟨false, 12000, -2⟩, none⟩] }, none⟩
      fun _ _ => .error (.other "RuntimeError") with
    mission := ⟨"release check", .releaseConformance, "home", "US",
      ⟨"intent", "IPIR", false, none, none⟩, some ⟨"target", "IPIR", false, none, none⟩⟩
    leftPkg := homeSource bracketPackage
    controlCases := [coverCase] }

/-- The eager mission spends its budget, and its decisions are accounted for. -/
theorem mission_gemini_accounted_eager :
    ∃ record, coverSetting.missionRecord eagerAdvice = .ok record ∧
      record.invocations.length = 6 ∧
      GeminiAccounted eagerAdvice.config record.agentActivity record.invocations ∧
      record.report.modelStatus.Honest record.invocations := by
  have found : (coverSetting.missionRecord eagerAdvice).toOption.map (fun record =>
      (record.invocations.length, record.report.overallStatus)) = some (6, .completed) := by
    decide +kernel
  cases ran : coverSetting.missionRecord eagerAdvice with
  | error fault =>
    rw [ran] at found
    cases found
  | ok record =>
    rw [ran] at found
    have spent : record.invocations.length = 6 := congrArg Prod.fst (Option.some.inj found)
    have completed : record.report.overallStatus = .completed :=
      congrArg Prod.snd (Option.some.inj found)
    have accounted := mission_gemini_accounted ran
    exact ⟨record, rfl, spent, accounted.1, accounted.2 completed⟩

/-- Gemini chooses among what the engines found: every probe is a scenario of a plan of the mission,
the additional ones are bounded by the rounds, and a proposal is the one for findings of the
comparison, in the mode that has a source of authority. -/
theorem mission_choices_confined {record : AssuranceRecord}
    (ran : setting.missionRecord advice = .ok record) :
    (∀ data ∈ record.report.experiments.data,
      (∀ experiment ∈ data.experiments, setting.Planned experiment) ∧
        additionalCount data.experiments ≤
          maxAdditionalProbeTests * advice.config.maxProbeRounds) ∧
      ∀ proposal ∈ record.report.remediation.data, setting.Corrects proposal :=
  have confined := missionRecord_confined ran
  ⟨confined.probed, confined.corrected⟩

/-- The eager mission makes probes of its plan and a proposal for its findings. -/
theorem mission_choices_confined_eager :
    ∃ record data proposal, coverSetting.missionRecord eagerAdvice = .ok record ∧
      record.report.experiments.data = some data ∧ data.experiments.length = 2 ∧
      record.report.remediation.data = some proposal ∧
      (∀ experiment ∈ data.experiments, coverSetting.Planned experiment) ∧
      coverSetting.Corrects proposal := by
  have found : (coverSetting.missionRecord eagerAdvice).toOption.map (fun record =>
      (record.report.experiments.data.map (·.experiments.length),
        record.report.remediation.data.isSome)) = some (some 2, true) := by decide +kernel
  cases ran : coverSetting.missionRecord eagerAdvice with
  | error fault =>
    rw [ran] at found
    cases found
  | ok record =>
    rw [ran] at found
    obtain ⟨data, shown, two⟩ := Option.map_eq_some_iff.mp
      (congrArg Prod.fst (Option.some.inj found))
    obtain ⟨proposal, proposed⟩ := Option.isSome_iff_exists.mp
      (congrArg Prod.snd (Option.some.inj found))
    have confined := mission_choices_confined ran
    exact ⟨record, data, proposal, rfl, shown, two, proposed, (confined.1 data shown).1,
      confined.2 proposal proposed⟩

end RateGuard
