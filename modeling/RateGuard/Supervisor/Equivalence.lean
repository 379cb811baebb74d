import RateGuard.Supervisor.Decision

/-!
# What a passing mission means

A mission passes exactly if nothing was flagged before it began and the two sides were seen to price
alike: two packages do not differ and agree on the first probes of their plan; a connector answers
every probe of the plan with the premium of the oracle, and its impact on the portfolio is complete
and finds no difference.
-/

open DecimalFloat CalendarDate TopologicalSort EarlyExit Outcome

namespace RateGuard

section Quotes

variable (sorter : Sorter String) (mission : AssuranceMission) (left : CompiledSource)
  (connector : ConnectorSelection) (sendQuote : SendQuote)

/-- Quote that is asked for a scenario. -/
def quoteFor (scenario : TestScenario) : ConnectorQuoteRequest :=
  quoteRequest mission connector scenario.toPricingTestScenario scenario.effectiveDate

/-- A connector answers a scenario with the premium of the oracle. -/
def QuoteAgrees (history : QuoteHistory) (scenario : TestScenario) : Prop :=
  ∃ result body text actual,
    calculatePolicyPremium sorter left.toPackageContent scenario.toPricingTestScenario =
        .ok result ∧
      sendQuote history (quoteFor mission connector scenario) = .ok body ∧
      body.outputs.lookup "final_premium" = some text ∧ readDecimal text = .ok actual ∧
      result.finalPremium.eq actual = .ok true

/-- A connector answers scenarios in turn with the premiums of the oracle. -/
def QuotesAgree : QuoteHistory → List TestScenario → Prop
  | _, [] => True
  | history, scenario :: rest =>
    QuoteAgrees sorter mission left connector sendQuote history scenario ∧
      QuotesAgree (history ++ [(quoteFor mission connector scenario, .success)]) rest

end Quotes

variable {sorter : Sorter String} {mission : AssuranceMission} {left : CompiledSource}
  {target : MissionTarget} {sendQuote : SendQuote} {history : QuoteHistory}
  {connector : ConnectorSelection} {category : ExperimentCategory} {scenario : TestScenario}

/-- A text without a character is no number. -/
theorem readDecimal_empty {actual : Decimal} : readDecimal "" ≠ .ok actual := nofun

/-- A connector that agrees leaves a probe that matches. -/
theorem QuoteAgrees.executed (category : ExperimentCategory)
    (connected : target.targetConnector = some connector)
    (agrees : QuoteAgrees sorter mission left connector sendQuote history scenario) :
    ∃ probe, executedProbe sorter mission left target sendQuote history category scenario =
        .ok probe ∧ probe.experiment.outcome = .matched ∧
      probe.quote = some (quoteFor mission connector scenario, .success) := by
  obtain ⟨result, body, text, actual, priced, sent, found, read, equal⟩ := agrees
  have solid : text ≠ "" := by
    rintro rfl
    exact readDecimal_empty read
  have dated : datedPremium sorter left.toPackageContent scenario.toPricingTestScenario =
      .ok (.ok result.finalPremium) := by
    unfold datedPremium
    rw [priced]
  have quoted : quoteViaConnector sendQuote history (quoteFor mission connector scenario) =
      .ok ⟨some actual, .success, none⟩ := by
    unfold quoteViaConnector
    rw [sent]
    dsimp only
    rw [found, Option.getD_some, if_neg solid, read]
    rfl
  have asked : askTarget sorter mission target sendQuote history
      scenario.toPricingTestScenario = .ok ⟨some actual, none, none,
        some (quoteFor mission connector scenario, .success)⟩ := by
    unfold askTarget
    rw [connected]
    change (quoteViaConnector sendQuote history (quoteFor mission connector scenario) >>= _) = _
    rw [quoted]
    rfl
  refine ⟨⟨comparedExperiment scenario category result.finalPremium actual true,
    some (quoteFor mission connector scenario, .success)⟩, ?_, rfl, rfl⟩
  unfold executedProbe
  rw [dated]
  change (askTarget sorter mission target sendQuote history
    scenario.toPricingTestScenario >>= _) = _
  rw [asked]
  change (arithmetic (result.finalPremium.eq actual) >>= _) = _
  rw [equal]
  rfl

/-- A result of the decimals is one. -/
theorem arithmetic_ok {α : Type} {result : Except Signal α} {value : α}
    (computed : arithmetic result = .ok value) : result = .ok value := by
  cases result with
  | ok other =>
    cases computed
    rfl
  | error signal => cases computed

/-- A premium is that of the oracle. -/
theorem datedPremium_ok {package : PackageContent} {scenario : PricingTestScenario}
    {expected : Decimal} (dated : datedPremium sorter package scenario = .ok (.ok expected)) :
    ∃ result, calculatePolicyPremium sorter package scenario = .ok result ∧
      result.finalPremium = expected := by
  unfold datedPremium at dated
  cases priced : calculatePolicyPremium sorter package scenario with
  | ok result =>
    rw [priced] at dated
    cases dated
    exact ⟨result, rfl, rfl⟩
  | error failure =>
    rw [priced] at dated
    cases failure <;> cases dated

/-- A premium of a connector was read from its reply. -/
theorem quoteViaConnector_replied {request : ConnectorQuoteRequest} {answer : QuoteAnswer}
    {actual : Decimal} (answered : quoteViaConnector sendQuote history request = .ok answer)
    (premium : answer.premium = some actual) :
    ∃ body text, sendQuote history request = .ok body ∧
      body.outputs.lookup "final_premium" = some text ∧ readDecimal text = .ok actual := by
  unfold quoteViaConnector at answered
  cases sent : sendQuote history request with
  | error raised =>
    rw [sent] at answered
    cases raised with
    | connector error =>
      cases answered
      cases premium
    | other kind => cases answered
  | ok body =>
    rw [sent] at answered
    dsimp only at answered
    split at answered
    · cases answered
      cases premium
    · obtain ⟨value, read, made⟩ := bind_eq_ok answered
      cases made
      cases premium
      cases found : body.outputs.lookup "final_premium" with
      | none =>
        rw [found] at read
        exact absurd (arithmetic_ok read) readDecimal_empty
      | some text =>
        rw [found] at read
        exact ⟨body, text, rfl, found, arithmetic_ok read⟩

/-- A probe that matches was answered with the premium of the oracle. -/
theorem QuoteAgrees.of_matched (connected : target.targetConnector = some connector)
    {probe : ExecutedProbe}
    (executed : executedProbe sorter mission left target sendQuote history category scenario =
      .ok probe) (matched : probe.experiment.outcome = .matched) :
    QuoteAgrees sorter mission left connector sendQuote history scenario := by
  unfold executedProbe at executed
  obtain ⟨dated, first, executed⟩ := bind_eq_ok executed
  cases dated with
  | error reason =>
    cases executed
    cases matched
  | ok expected =>
    obtain ⟨answer, answered, executed⟩ := bind_eq_ok executed
    unfold askTarget at answered
    rw [connected] at answered
    obtain ⟨quoted, replied, made⟩ := bind_eq_ok answered
    cases made
    dsimp only at executed
    cases premium : quoted.premium with
    | none =>
      rw [premium] at executed
      cases executed
      cases matched
    | some actual =>
      rw [premium] at executed
      obtain ⟨equal, compared, made⟩ := bind_eq_ok executed
      cases made
      have same : equal = true := by
        by_contra other
        have outcome : (if equal then ExperimentOutcome.matched else .mismatched) = .matched :=
          matched
        rw [if_neg other] at outcome
        cases outcome
      obtain ⟨result, priced, rfl⟩ := datedPremium_ok first
      obtain ⟨body, text, sent, found, read⟩ := quoteViaConnector_replied replied premium
      exact ⟨result, body, text, actual, priced, sent, found, read, same ▸ arithmetic_ok compared⟩

/-- Probes that all pass. -/
def allPass (probes : List ExecutedProbe) : Prop :=
  ∀ status ∈ MissionSetting.probeSignals probes, status = .pass

/-- An experiment passes exactly if it matched. -/
theorem signal_pass {experiment : RuntimeExperiment} :
    experiment.signal = .pass ↔ experiment.outcome = .matched := by
  unfold RuntimeExperiment.signal
  cases experiment.outcome <;> simp

/-- Probes of scenarios all pass exactly if the connector answers in turn as the oracle does: the
induction is on the scenarios. -/
theorem executedProbes_pass_iff (category : ExperimentCategory)
    (connected : target.targetConnector = some connector) {scenarios : List TestScenario} :
    (∃ probes, executedProbes sorter mission left target sendQuote category history scenarios =
        .ok probes ∧ allPass probes) ↔
      QuotesAgree sorter mission left connector sendQuote history scenarios := by
  induction scenarios generalizing history with
  | nil => exact ⟨fun _ => trivial, fun _ => ⟨[], rfl, nofun⟩⟩
  | cons scenario rest ih =>
    constructor
    · rintro ⟨probes, executed, passes⟩
      obtain ⟨probe, first, executed⟩ := bind_eq_ok executed
      obtain ⟨later, others, made⟩ := bind_eq_ok executed
      cases made
      have matched := signal_pass.mp (passes _ List.mem_cons_self)
      have agrees := QuoteAgrees.of_matched connected first matched
      obtain ⟨same, again, -, quote⟩ := agrees.executed category connected
      rw [first] at again
      cases again
      rw [quote] at others
      exact ⟨agrees, ih.mp ⟨later, others, fun status member =>
        passes status (List.mem_cons_of_mem _ member)⟩⟩
    · rintro ⟨agrees, others⟩
      obtain ⟨probe, first, matched, quote⟩ := agrees.executed category connected
      obtain ⟨later, ran, passes⟩ := ih.mpr others
      refine ⟨probe :: later, ?_, fun status member => ?_⟩
      · unfold executedProbes
        rw [first]
        change (executedProbes sorter mission left target sendQuote category
          (history ++ probe.quote.toList) rest >>= _) = _
        rw [quote, Option.toList_some, ran]
        rfl
      · rcases List.mem_cons.mp member with rfl | other
        · exact signal_pass.mpr matched
        · exact passes status other

/-- The quotes of scenarios that a connector answered. -/
def answeredQuotes (mission : AssuranceMission) (connector : ConnectorSelection)
    (scenarios : List TestScenario) : QuoteHistory :=
  scenarios.map fun scenario => (quoteFor mission connector scenario, .success)

/-- Probes that all pass asked for the quotes of their scenarios. -/
theorem foldl_add_quotes (connected : target.targetConnector = some connector)
    {scenarios : List TestScenario} {probes : List ExecutedProbe}
    (executed : executedProbes sorter mission left target sendQuote category history scenarios =
      .ok probes) (passes : allPass probes) (evidence : ProbeEvidence) :
    (probes.foldl ProbeEvidence.add evidence).quotes =
      evidence.quotes ++ answeredQuotes mission connector scenarios := by
  induction scenarios generalizing history probes evidence with
  | nil =>
    cases executed
    exact (List.append_nil _).symm
  | cons scenario rest ih =>
    obtain ⟨probe, first, executed⟩ := bind_eq_ok executed
    obtain ⟨later, others, made⟩ := bind_eq_ok executed
    cases made
    have matched := signal_pass.mp (passes _ List.mem_cons_self)
    obtain ⟨same, again, -, quote⟩ :=
      (QuoteAgrees.of_matched connected first matched).executed category connected
    rw [first] at again
    cases again
    rw [List.foldl_cons, ih others fun status member =>
      passes status (List.mem_cons_of_mem _ member)]
    unfold ProbeEvidence.add
    rw [quote]
    exact List.append_assoc evidence.quotes [_] _

namespace MissionSetting

variable (setting : MissionSetting)

/-- The impact runner, if there is one, compares the whole portfolio and finds no difference. -/
def ImpactAgrees (quotes : QuoteHistory) : Prop :=
  ∀ runner ∈ setting.impactRunner, ∃ run, runner quotes = .ok run ∧
    run.aggregate.mismatches = 0 ∧ run.aggregate.completeness = .complete

/-- A connector answers every probe of the plan with the premium of the oracle, and its impact
agrees. -/
def ConnectorAgrees (connector : ConnectorSelection) : Prop :=
  ∃ plan, setting.planConnector = .ok plan ∧ plan.selectedScenarios ≠ [] ∧
    QuotesAgree setting.sorter setting.mission setting.leftPkg connector setting.sendQuote []
      plan.selectedScenarios ∧
    setting.ImpactAgrees (answeredQuotes setting.mission connector plan.selectedScenarios)

/-- Two packages have the same premium for a scenario. -/
def PremiumsAgree (right : CompiledSource) (scenario : TestScenario) : Prop :=
  ∃ expected actual,
    calculatePolicyPremium setting.sorter setting.leftPkg.toPackageContent
        scenario.toPricingTestScenario = .ok expected ∧
      calculatePolicyPremium setting.sorter right.toPackageContent
        scenario.toPricingTestScenario = .ok actual ∧
      expected.finalPremium.eq actual.finalPremium = .ok true

/-- Two packages do not differ, and agree on the first probes of their plan. -/
def PackagesAgree (right : CompiledSource) : Prop :=
  ∃ diff predicates plan,
    comparePackages setting.leftPkg.toPackageContent right.toPackageContent = .ok diff ∧
      diff.differences = [] ∧ setting.impactPredicates diff = .ok predicates ∧
      setting.planDifferences diff predicates = .ok plan ∧
      ∀ scenario ∈ plan.selectedScenarios.take 5, setting.PremiumsAgree right scenario

/-- The two sides were seen to price alike. -/
def TargetAgrees : Prop :=
  match setting.target.rightPkg, setting.target.targetConnector with
  | some right, _ => setting.PackagesAgree right
  | none, some connector => setting.ConnectorAgrees connector
  | none, none => False

/-- Nothing was flagged before the mission began, and the two sides were seen to price alike. -/
def Equivalent : Prop := setting.startingReasons = [] ∧ setting.TargetAgrees

end MissionSetting

variable {setting : MissionSetting} {advice : MissionAdvice}

/-- Behind quotes that were all answered the impact runner runs if there is one. -/
theorem connectorImpact_answered {evidence : ProbeEvidence} {scenarios : List TestScenario}
    (connected : setting.target.targetConnector = some connector)
    (quotes : evidence.quotes = answeredQuotes setting.mission connector scenarios)
    (some : scenarios ≠ []) :
    setting.connectorImpact evidence = setting.impactRunner.elim (.ok .unavailable) fun runner =>
      ((runner (answeredQuotes setting.mission connector scenarios)).map .found).mapError
        .external := by
  obtain ⟨first, rest, rfl⟩ := List.exists_cons_of_ne_nil some
  have heard : (evidence.connectorOutcomes.isEmpty || evidence.allProbesFailed) = false := by
    unfold ProbeEvidence.allProbesFailed ProbeEvidence.connectorOutcomes
    rw [quotes]
    rfl
  unfold MissionSetting.connectorImpact
  rw [connected]
  cases setting.impactRunner with
  | none => rfl
  | some runner =>
    dsimp only
    rw [heard, quotes]
    rfl

/-- An impact that passes has no difference and is complete. -/
theorem impactSignals_pass {impact : MissionSetting.ConnectorImpact}
    (passes : ∀ status ∈ MissionSetting.impactSignals impact, status = .pass) {run : ImpactRun}
    (found : impact = .found run) :
    run.aggregate.mismatches = 0 ∧ run.aggregate.completeness = .complete := by
  subst found
  have passed := passes _ (List.mem_singleton.mpr rfl)
  by_cases equal : run.aggregate.mismatches = 0
  · by_cases whole : run.aggregate.completeness = .complete
    · exact ⟨equal, whole⟩
    · simp [equal, whole] at passed
  · simp [equal] at passed

/-- Probes and an impact that pass are an agreement of the connector. -/
theorem connectorSignals_pass (connected : setting.target.targetConnector = some connector)
    {signals : List ReleaseStatus} (made : setting.connectorSignals = .ok signals)
    (passes : ∀ status ∈ signals, status = .pass) : setting.ConnectorAgrees connector := by
  unfold MissionSetting.connectorSignals at made
  obtain ⟨probes, probed, made⟩ := bind_eq_ok made
  obtain ⟨plan, planned, ran⟩ := bind_eq_ok probed
  by_cases blocked : .blockDeployment ∈ MissionSetting.probeSignals probes
  · rw [if_pos blocked] at made
    cases made
    cases passes _ blocked
  · rw [if_neg blocked] at made
    obtain ⟨impact, impacted, made⟩ := bind_eq_ok made
    cases made
    have matched : allPass probes := fun status member =>
      passes status (List.mem_append_left _ (List.mem_append_right _ member))
    have impactPasses (status : ReleaseStatus)
        (member : status ∈ MissionSetting.impactSignals impact) : status = .pass :=
      passes status (List.mem_append_right _ member)
    have some : plan.selectedScenarios ≠ [] := by
      intro none
      rw [none] at ran
      cases ran
      cases passes .reviewRequired (List.mem_append_left _ (List.mem_append_left _ (by simp)))
    refine ⟨plan, planned, some, (executedProbes_pass_iff _ connected).mp ⟨probes, ran, matched⟩, ?_⟩
    intro runner runs
    rw [connectorImpact_answered connected (foldl_add_quotes connected ran matched .empty) some,
      Option.mem_def.mp runs] at impacted
    change ((runner (answeredQuotes setting.mission connector plan.selectedScenarios)).map
      MissionSetting.ConnectorImpact.found).mapError MissionFault.external = .ok impact at impacted
    cases reached : runner (answeredQuotes setting.mission connector plan.selectedScenarios) with
    | error kind =>
      rw [reached] at impacted
      cases impacted
    | ok run =>
      rw [reached] at impacted
      cases impacted
      exact ⟨run, rfl, impactSignals_pass impactPasses rfl⟩

/-- An agreement of the connector gives signals that pass. -/
theorem ConnectorAgrees.signals (connected : setting.target.targetConnector = some connector)
    (agrees : setting.ConnectorAgrees connector) :
    ∃ signals, setting.connectorSignals = .ok signals ∧ ∀ status ∈ signals, status = .pass := by
  obtain ⟨plan, planned, some, answers, impacts⟩ := agrees
  obtain ⟨probes, ran, matched⟩ :=
    (executedProbes_pass_iff .riskDirected connected).mpr answers
  have probed : setting.connectorProbes = .ok probes := by
    unfold MissionSetting.connectorProbes
    rw [planned]
    exact ran
  have present : probes.isEmpty = false := by
    obtain ⟨first, rest, scenarios⟩ := List.exists_cons_of_ne_nil some
    rw [scenarios] at ran
    obtain ⟨probe, -, ran⟩ := bind_eq_ok ran
    obtain ⟨later, -, made⟩ := bind_eq_ok ran
    cases made
    rfl
  have clean : .blockDeployment ∉ MissionSetting.probeSignals probes := fun member =>
    nomatch matched _ member
  obtain ⟨impact, impacted, closed⟩ : ∃ impact,
      setting.connectorImpact (probes.foldl ProbeEvidence.add .empty) = .ok impact ∧
        ∀ status ∈ MissionSetting.impactSignals impact, status = .pass := by
    rw [connectorImpact_answered connected (foldl_add_quotes connected ran matched .empty) some]
    cases runs : setting.impactRunner with
    | none => exact ⟨.unavailable, rfl, nofun⟩
    | some runner =>
      obtain ⟨run, reached, equal, whole⟩ := impacts runner runs
      refine ⟨.found run, ?_, fun status member => ?_⟩
      · change ((runner (answeredQuotes setting.mission connector plan.selectedScenarios)).map
          MissionSetting.ConnectorImpact.found).mapError MissionFault.external = _
        rw [reached]
        rfl
      · rw [List.mem_singleton.mp member, if_neg (not_not.mpr equal), if_pos whole]
  refine ⟨MissionSetting.repricingSignals probes impact, ?_, fun status member => ?_⟩
  · unfold MissionSetting.connectorSignals
    rw [probed]
    change (if .blockDeployment ∈ MissionSetting.probeSignals probes then _ else _) = _
    rw [if_neg clean, impacted]
    rfl
  · unfold MissionSetting.repricingSignals at member
    rw [present] at member
    rcases List.mem_append.mp member with early | late
    · exact matched status early
    · exact closed status late

/-- A probe of two packages passes exactly if their premiums agree. -/
theorem cleanProbe_pass_iff {right : CompiledSource} :
    (∃ experiment, setting.cleanProbe right scenario = .ok experiment ∧ experiment.signal = .pass) ↔
      setting.PremiumsAgree right scenario := by
  constructor
  · rintro ⟨experiment, probed, passes⟩
    obtain ⟨expected, first, probed⟩ := bind_eq_ok probed
    obtain ⟨actual, second, probed⟩ := bind_eq_ok probed
    obtain ⟨equal, compared, made⟩ := bind_eq_ok probed
    cases made
    have outcome : (if equal then ExperimentOutcome.matched else .mismatched) = .matched :=
      signal_pass.mp passes
    have same : equal = true := by
      by_contra other
      rw [if_neg other] at outcome
      cases outcome
    exact ⟨expected, actual, fromEngine_ok first, fromEngine_ok second,
      same ▸ arithmetic_ok compared⟩
  · rintro ⟨expected, actual, first, second, equal⟩
    refine ⟨comparedExperiment scenario .boundary expected.finalPremium actual.finalPremium true,
      ?_, rfl⟩
    unfold MissionSetting.cleanProbe
    rw [first, second]
    change (arithmetic (expected.finalPremium.eq actual.finalPremium) >>= _) = _
    rw [equal]
    rfl

/-- What two packages say passes exactly if they agree. -/
theorem packageSignals_pass_iff {right : CompiledSource} :
    (∃ signals, setting.packageSignals right = .ok signals ∧
      ∀ status ∈ signals, status = .pass) ↔ setting.PackagesAgree right := by
  constructor
  · rintro ⟨signals, made, passes⟩
    unfold MissionSetting.packageSignals at made
    obtain ⟨diff, compared, made⟩ := bind_eq_ok made
    by_cases same : diff.differences = []
    · rw [if_pos (List.isEmpty_iff.mpr same)] at made
      obtain ⟨experiments, ran, made⟩ := bind_eq_ok made
      cases made
      obtain ⟨predicates, analyzed, ran⟩ := bind_eq_ok ran
      obtain ⟨plan, planned, ran⟩ := bind_eq_ok ran
      refine ⟨diff, predicates, plan, fromEngine_ok compared, same, analyzed, planned, ?_⟩
      intro scenario member
      obtain ⟨experiment, inside, probed⟩ := mapM_step ran member
      exact cleanProbe_pass_iff.mp ⟨experiment, probed, passes _ (List.mem_map_of_mem inside)⟩
    · rw [if_neg fun empty => same (List.isEmpty_iff.mp empty)] at made
      cases made
      obtain ⟨first, rest, differences⟩ := List.exists_cons_of_ne_nil same
      rw [differences] at passes
      cases passes .blockDeployment List.mem_cons_self
  · rintro ⟨diff, predicates, plan, compared, same, analyzed, planned, agree⟩
    have probes : ∀ scenarios : List TestScenario,
        (∀ scenario ∈ scenarios, setting.PremiumsAgree right scenario) →
        ∃ experiments, scenarios.mapM (setting.cleanProbe right) = .ok experiments ∧
          ∀ status ∈ experiments.map (·.signal), status = .pass := by
      intro scenarios
      induction scenarios with
      | nil => exact fun _ => ⟨[], rfl, nofun⟩
      | cons scenario rest ih =>
        intro each
        obtain ⟨experiment, probed, passes⟩ :=
          cleanProbe_pass_iff.mpr (each scenario List.mem_cons_self)
        obtain ⟨others, ran, later⟩ := ih fun other member =>
          each other (List.mem_cons_of_mem _ member)
        refine ⟨experiment :: others, ?_, fun status member => ?_⟩
        · rw [List.mapM_cons, probed]
          change (rest.mapM (setting.cleanProbe right) >>= _) = _
          rw [ran]
          rfl
        · rcases List.mem_cons.mp member with rfl | other
          · exact passes
          · exact later status other
    obtain ⟨experiments, ran, passes⟩ := probes (plan.selectedScenarios.take 5) agree
    refine ⟨experiments.map (·.signal), ?_, passes⟩
    unfold MissionSetting.packageSignals MissionSetting.cleanProbes
    rw [compared]
    change (if diff.differences.isEmpty then _ else _) = _
    rw [if_pos (List.isEmpty_iff.mpr same), analyzed]
    change (setting.planDifferences diff predicates >>= _) >>= _ = _
    rw [planned]
    change ((plan.selectedScenarios.take 5).mapM (setting.cleanProbe right) >>= _) = _
    rw [ran]
    rfl

/-- What the target says passes exactly if it agrees. -/
theorem targetSignals_pass_iff :
    (∃ signals, setting.targetSignals = .ok signals ∧ ∀ status ∈ signals, status = .pass) ↔
      setting.TargetAgrees := by
  unfold MissionSetting.targetSignals MissionSetting.TargetAgrees
  cases setting.target.rightPkg with
  | some right => exact packageSignals_pass_iff
  | none =>
    cases connected : setting.target.targetConnector with
    | some connector =>
      exact ⟨fun ⟨_, made, passes⟩ => connectorSignals_pass connected made passes,
        ConnectorAgrees.signals connected⟩
    | none => exact ⟨fun ⟨_, made, _⟩ => (nomatch made), False.elim⟩

/-- What is known from the beginning passes exactly if there is nothing. -/
theorem startingSignals_pass_iff :
    (∀ status ∈ setting.startingSignals, status = .pass) ↔ setting.startingReasons = [] := by
  constructor
  · intro passes
    by_contra some
    cases passes _ (review_mem_starting.mpr some)
  · intro none status member
    unfold MissionSetting.startingSignals at member
    rw [none] at member
    cases member

/-- The evidence of a mission passes exactly if its sides are equivalent. -/
theorem signals_pass_iff :
    (∃ signals, setting.signals = .ok signals ∧ worst signals = .pass) ↔ setting.Equivalent := by
  unfold MissionSetting.Equivalent
  rw [← startingSignals_pass_iff, ← targetSignals_pass_iff]
  constructor
  · rintro ⟨signals, made, passes⟩
    obtain ⟨found, shown, made⟩ := bind_eq_ok made
    cases made
    have each := worst_pass.mp passes
    exact ⟨fun status member => each status (List.mem_append_left _ member), found, shown,
      fun status member => each status (List.mem_append_right _ member)⟩
  · rintro ⟨early, found, shown, late⟩
    refine ⟨setting.startingSignals ++ found, ?_, worst_pass.mpr fun status member => ?_⟩
    · unfold MissionSetting.signals
      rw [shown]
      rfl
    · exact (List.mem_append.mp member).elim (early status) (late status)

/-- A mission with a decision passes exactly if nothing was flagged before it began and its two
sides were seen to price alike. -/
theorem mission_pass_iff {record : AssuranceRecord} {decision : ReleaseDecision}
    (ran : setting.missionRecord advice = .ok record)
    (decided : record.report.releaseDecision = some decision) :
    decision.status = .pass ↔ setting.Equivalent := by
  obtain ⟨doubt, backs, -⟩ := missionRecord_backs ran decided
  obtain ⟨signals, made, status⟩ := backs.worst
  rw [← signals_pass_iff, status]
  constructor
  · exact fun passes => ⟨signals, made, passes⟩
  · rintro ⟨others, same, passes⟩
    rw [made] at same
    cases same
    exact passes

/-- A mission of the flat package and a connector that quotes its premium. -/
def quotedSetting : MissionSetting :=
  flatSetting ⟨"target", "API_CONNECTOR", false, some "rating-api", some "1.0"⟩
    ⟨none, some ⟨"rating-api", "1.0"⟩⟩
    fun _ _ => .ok ⟨"request", "1.0", [("final_premium", "100.00")]⟩

/-- The mission passes, and the connector agrees with the oracle. -/
theorem mission_pass_iff_quoted :
    ∃ record decision, quotedSetting.missionRecord silentAdvice = .ok record ∧
      record.report.releaseDecision = some decision ∧ decision.status = .pass ∧
      quotedSetting.Equivalent := by
  have passed : decidedStatus (quotedSetting.missionRecord silentAdvice) = some .pass := by
    decide +kernel
  obtain ⟨record, decision, ran, decided, status⟩ := decidedStatus_eq_some passed
  exact ⟨record, decision, ran, decided, status, (mission_pass_iff ran decided).mp status⟩

end RateGuard
