import RateGuard.Supervisor.Release

/-!
# Evidence of the probes

What the counters of the probes say about them. A probe of a connector that got no premium is
inconclusive, so a connector that failed leaves a probe without a conclusion.
-/

open DecimalFloat CalendarDate TopologicalSort Outcome

namespace RateGuard

/-- An answer with a premium is a success. -/
theorem quoteViaConnector_premium {sendQuote : SendQuote} {history : QuoteHistory}
    {request : ConnectorQuoteRequest} {answer : QuoteAnswer}
    (answered : quoteViaConnector sendQuote history request = .ok answer) :
    answer.premium = none ∨ answer.status = .success := by
  unfold quoteViaConnector at answered
  cases sent : sendQuote history request with
  | error raised =>
    rw [sent] at answered
    cases raised with
    | connector error =>
      cases answered
      exact .inl rfl
    | other kind => cases answered
  | ok body =>
    rw [sent] at answered
    dsimp only at answered
    split at answered
    · cases answered
      exact .inl rfl
    · obtain ⟨premium, -, made⟩ := bind_eq_ok answered
      cases made
      exact .inr rfl

variable {sorter : Sorter String} {mission : AssuranceMission} {left : CompiledSource}
  {target : MissionTarget} {sendQuote : SendQuote} {history : QuoteHistory}

/-- A connector is asked for a quote, and only a success gives a premium. -/
theorem askTarget_quote {scenario : PricingTestScenario} {answer : TargetAnswer}
    (answered : askTarget sorter mission target sendQuote history scenario = .ok answer) :
    (target.targetConnector.isSome → answer.quote ≠ none) ∧
      ∀ quote ∈ answer.quote, quote.2 ≠ .success → answer.actual = none := by
  unfold askTarget at answered
  cases connected : target.targetConnector with
  | some connector =>
    rw [connected] at answered
    obtain ⟨quoted, sent, made⟩ := bind_eq_ok answered
    cases made
    refine ⟨fun _ => Option.some_ne_none _, fun quote member failed => ?_⟩
    cases member
    exact (quoteViaConnector_premium sent).resolve_right failed
  | none =>
    rw [connected] at answered
    refine ⟨nofun, ?_⟩
    cases found : target.rightPkg with
    | none =>
      rw [found] at answered
      cases answered
      exact nofun
    | some right =>
      rw [found] at answered
      obtain ⟨priced, -, made⟩ := bind_eq_ok answered
      cases priced with
      | ok premium =>
        cases made
        exact nofun
      | error reason =>
        cases made
        exact nofun

/-- What a probe says of its scenario and its quote. -/
structure ExecutedProbe.Faithful (target : MissionTarget) (scenario : TestScenario)
    (probe : ExecutedProbe) : Prop where
  /-- It is about the scenario. -/
  scenario : probe.experiment.experimentId = scenario.id
  /-- A connector that was not asked leaves it without a conclusion. -/
  unasked : target.targetConnector.isSome → probe.quote = none →
    probe.experiment.outcome = .inconclusive
  /-- So does a connector that failed. -/
  failed : ∀ quote ∈ probe.quote, quote.2 ≠ .success → probe.experiment.outcome = .inconclusive

/-- Every probe is faithful. -/
theorem executedProbe_faithful {category : ExperimentCategory} {scenario : TestScenario}
    {probe : ExecutedProbe}
    (executed : executedProbe sorter mission left target sendQuote history category scenario =
      .ok probe) : probe.Faithful target scenario := by
  unfold executedProbe at executed
  obtain ⟨dated, -, executed⟩ := bind_eq_ok executed
  cases dated with
  | error reason =>
    cases executed
    exact ⟨rfl, fun _ _ => rfl, nofun⟩
  | ok expected =>
    obtain ⟨answer, answered, executed⟩ := bind_eq_ok executed
    obtain ⟨asked, failed⟩ := askTarget_quote answered
    cases premium : answer.actual with
    | none =>
      rw [premium] at executed
      cases executed
      exact ⟨rfl, fun _ _ => rfl, fun _ _ _ => rfl⟩
    | some actual =>
      rw [premium] at executed
      obtain ⟨equal, -, made⟩ := bind_eq_ok executed
      cases made
      refine ⟨rfl, fun connected silent => absurd silent (asked connected), ?_⟩
      intro quote member failure
      exact absurd (failed quote member failure) (by rw [premium]; exact Option.some_ne_none _)

/-- The probes of scenarios are faithful, each to its scenario. -/
theorem executedProbes_faithful {category : ExperimentCategory} {scenarios : List TestScenario}
    {probes : List ExecutedProbe}
    (executed : executedProbes sorter mission left target sendQuote category history scenarios =
      .ok probes) :
    List.Forall₂ (fun scenario probe => probe.Faithful target scenario) scenarios probes := by
  induction scenarios generalizing history probes with
  | nil =>
    cases executed
    exact .nil
  | cons scenario rest ih =>
    obtain ⟨probe, first, executed⟩ := bind_eq_ok executed
    obtain ⟨later, others, made⟩ := bind_eq_ok executed
    cases made
    exact .cons (executedProbe_faithful first) (ih others)

/-- The counters count the experiments, and a connector that was not asked or failed leaves a probe
without a conclusion. -/
structure ProbeEvidence.Sound (target : MissionTarget) (evidence : ProbeEvidence) : Prop where
  /-- Agreements are counted. -/
  matched : evidence.matchCount = outcomeCount .matched evidence.experiments
  /-- Proven differences are counted. -/
  mismatched : evidence.mismatchCount = outcomeCount .mismatched evidence.experiments
  /-- Probes without a conclusion are counted. -/
  inconclusive : evidence.inconclusiveCount = outcomeCount .inconclusive evidence.experiments
  /-- A failure of the connector leaves no conclusion. -/
  failed : ∀ status ∈ evidence.connectorOutcomes, status ≠ .success →
    0 < evidence.inconclusiveCount
  /-- A connector that was never asked leaves no conclusion. -/
  unasked : target.targetConnector.isSome → evidence.connectorOutcomes = [] →
    evidence.inconclusiveCount = evidence.experiments.length
  /-- Only probes ask for quotes. -/
  asked : evidence.experiments = [] → evidence.connectorOutcomes = []

/-- No probe was run. -/
theorem ProbeEvidence.empty_sound : ProbeEvidence.empty.Sound target :=
  ⟨rfl, rfl, rfl, nofun, fun _ _ => rfl, fun _ => rfl⟩

/-- Experiments of an outcome with one more. -/
theorem outcomeCount_append (outcome : ExperimentOutcome) (experiments : List RuntimeExperiment)
    (experiment : RuntimeExperiment) :
    outcomeCount outcome (experiments ++ [experiment]) =
      outcomeCount outcome experiments + if experiment.outcome = outcome then 1 else 0 := by
  unfold outcomeCount
  rw [List.countP_append, List.countP_singleton]
  simp only [decide_eq_true_eq]

/-- A faithful probe keeps the evidence sound. -/
theorem ProbeEvidence.Sound.add {evidence : ProbeEvidence} (sound : evidence.Sound target)
    {scenario : TestScenario} {probe : ExecutedProbe} (faithful : probe.Faithful target scenario) :
    (evidence.add probe).Sound target where
  matched := by
    rw [ProbeEvidence.add, outcomeCount_append, ← sound.matched]
  mismatched := by
    rw [ProbeEvidence.add, outcomeCount_append, ← sound.mismatched]
  inconclusive := by
    rw [ProbeEvidence.add, outcomeCount_append, ← sound.inconclusive]
  failed status member failure := by
    have split : status ∈ evidence.connectorOutcomes ∨
        status ∈ probe.quote.toList.map Prod.snd := by
      rw [ProbeEvidence.connectorOutcomes, ProbeEvidence.add, List.map_append] at member
      exact List.mem_append.mp member
    rcases split with old | new
    · exact Nat.add_pos_left (sound.failed status old failure) _
    · obtain ⟨quote, asked, rfl⟩ := List.mem_map.mp new
      have outcome := faithful.failed quote (Option.mem_toList.mp asked) failure
      refine Nat.add_pos_right _ ?_
      rw [if_pos outcome]
      exact Nat.one_pos
  unasked connected silent := by
    rw [ProbeEvidence.connectorOutcomes, ProbeEvidence.add, List.map_append,
      List.append_eq_nil_iff] at silent
    have before := sound.unasked connected silent.1
    have quiet : probe.quote = none :=
      Option.toList_eq_nil_iff.mp (List.map_eq_nil_iff.mp silent.2)
    rw [ProbeEvidence.add, List.length_append, ← before,
      if_pos (faithful.unasked connected quiet)]
    rfl
  asked none := by
    rw [ProbeEvidence.add] at none
    exact absurd (List.append_eq_nil_iff.mp none).2 (List.cons_ne_nil _ [])

/-- Evidence that only grew: a proven difference stays, and without one nothing was added. -/
structure ProbeEvidence.Grows (target : MissionTarget) (evidence later : ProbeEvidence) : Prop where
  /-- It is sound. -/
  sound : later.Sound target
  /-- Proven differences stay. -/
  mismatched : evidence.mismatchCount ≤ later.mismatchCount
  /-- Without one nothing was added. -/
  same : evidence.mismatchCount = 0 → later = evidence

/-- Faithful probes keep the evidence sound, and proven differences stay. -/
theorem ProbeEvidence.Sound.addAll {evidence : ProbeEvidence} (sound : evidence.Sound target)
    {scenarios : List TestScenario} {probes : List ExecutedProbe}
    (faithful : List.Forall₂ (fun scenario probe => ExecutedProbe.Faithful target scenario probe)
      scenarios probes) :
    (probes.foldl ProbeEvidence.add evidence).Sound target ∧
      evidence.mismatchCount ≤ (probes.foldl ProbeEvidence.add evidence).mismatchCount := by
  induction faithful generalizing evidence with
  | nil => exact ⟨sound, Nat.le_refl _⟩
  | cons first _ ih =>
    obtain ⟨later, more⟩ := ih (sound.add first)
    exact ⟨later, (Nat.le_add_right _ _).trans more⟩

/-- Evidence grows to itself. -/
theorem ProbeEvidence.Grows.refl {evidence : ProbeEvidence} (sound : evidence.Sound target) :
    evidence.Grows target evidence :=
  ⟨sound, Nat.le_refl _, fun _ => rfl⟩

/-- Evidence that grows twice grows. -/
theorem ProbeEvidence.Grows.trans {first second third : ProbeEvidence}
    (one : first.Grows target second) (two : second.Grows target third) :
    first.Grows target third where
  sound := two.sound
  mismatched := one.mismatched.trans two.mismatched
  same none := by
    have kept := one.same none
    rw [kept] at two
    exact two.same none

/-- Evidence of a proven difference grows with faithful probes. -/
theorem ProbeEvidence.Sound.grows {evidence : ProbeEvidence} (sound : evidence.Sound target)
    (differs : 0 < evidence.mismatchCount) {scenarios : List TestScenario}
    {probes : List ExecutedProbe}
    (faithful : List.Forall₂ (fun scenario probe => ExecutedProbe.Faithful target scenario probe)
      scenarios probes) :
    evidence.Grows target (probes.foldl ProbeEvidence.add evidence) where
  sound := (sound.addAll faithful).1
  mismatched := (sound.addAll faithful).2
  same none := absurd none (Nat.pos_iff_ne_zero.mp differs)

end RateGuard
