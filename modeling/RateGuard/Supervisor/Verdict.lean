import Mathlib.Data.Multiset.Lattice
import RateGuard.Supervisor.Findings

/-!
# Verdict on a mission

What the evidence of a mission says about a release, piece by piece: a piece passes, asks for a
review or blocks. The decision of a mission is the worst of what its evidence says. Gemini, its
budgets and the times at which a cancellation is looked for have no part in it.
-/

open DecimalFloat CalendarDate TopologicalSort EarlyExit Outcome

namespace RateGuard

/-- How bad a status is. -/
def ReleaseStatus.rank : ReleaseStatus → Nat
  | pass => 0
  | reviewRequired => 1
  | blockDeployment => 2

/-- No two statuses are equally bad. -/
theorem ReleaseStatus.rank_injective : Function.Injective ReleaseStatus.rank := by
  intro one other same
  cases one <;> cases other <;> first | rfl | exact absurd same (by decide)

/-- Statuses from good to bad. -/
instance : LinearOrder ReleaseStatus :=
  LinearOrder.lift' ReleaseStatus.rank ReleaseStatus.rank_injective

/-- Passing is the best status. -/
instance : OrderBot ReleaseStatus where
  bot := .pass
  bot_le status := Nat.zero_le status.rank

/-- The worst of statuses; without any it passes. -/
def worst (signals : List ReleaseStatus) : ReleaseStatus := Multiset.sup ↑signals

/-- Blocking is the worst status. -/
theorem worst_block {signals : List ReleaseStatus} (member : .blockDeployment ∈ signals) :
    worst signals = .blockDeployment := by
  have above : ReleaseStatus.blockDeployment ≤ worst signals :=
    Multiset.le_sup (Multiset.mem_coe.mpr member)
  cases found : worst signals with
  | blockDeployment => rfl
  | reviewRequired => exact absurd (found ▸ above) (by decide)
  | pass => exact absurd (found ▸ above) (by decide)

/-- Without a block a review is the worst status. -/
theorem worst_review {signals : List ReleaseStatus} (open_ : .blockDeployment ∉ signals)
    (member : .reviewRequired ∈ signals) : worst signals = .reviewRequired := by
  have above : ReleaseStatus.reviewRequired ≤ worst signals :=
    Multiset.le_sup (Multiset.mem_coe.mpr member)
  have below : worst signals ≤ .reviewRequired := by
    refine Multiset.sup_le.mpr fun status inside => ?_
    cases status with
    | blockDeployment => exact absurd (Multiset.mem_coe.mp inside) open_
    | reviewRequired => exact le_refl _
    | pass => exact bot_le
  exact le_antisymm below above

/-- The worst of statuses passes only if all of them do. -/
theorem worst_pass {signals : List ReleaseStatus} :
    worst signals = .pass ↔ ∀ status ∈ signals, status = .pass := by
  refine ⟨fun passes status member => ?_, fun each => ?_⟩
  · have below : status ≤ worst signals := Multiset.le_sup (Multiset.mem_coe.mpr member)
    rw [passes] at below
    exact le_bot_iff.mp below
  · exact le_bot_iff.mp (Multiset.sup_le.mpr fun status member =>
      (each status (Multiset.mem_coe.mp member)).le)

/-- What an experiment says. -/
def RuntimeExperiment.signal (experiment : RuntimeExperiment) : ReleaseStatus :=
  match experiment.outcome with
  | .matched => .pass
  | .mismatched => .blockDeployment
  | .inconclusive => .reviewRequired

namespace MissionSetting

variable (setting : MissionSetting)

/-- What the sources say before anything runs. -/
def startingSignals : List ReleaseStatus := setting.startingReasons.map fun _ => .reviewRequired

/-- What an impact says. -/
def impactSignals : ConnectorImpact → List ReleaseStatus
  | .found run =>
    [if run.aggregate.mismatches ≠ 0 then .blockDeployment
      else if run.aggregate.completeness = .complete then .pass else .reviewRequired]
  | .note _ => [.reviewRequired]
  | .unavailable => []

/-- What two packages say: their differences, or the probes of packages that do not differ. -/
def packageSignals (right : CompiledSource) : Except MissionFault (List ReleaseStatus) := do
  let diff ← fromEngine (comparePackages setting.leftPkg.toPackageContent right.toPackageContent)
  if diff.differences.isEmpty then
    let experiments ← setting.cleanProbes right diff
    .ok (experiments.map (·.signal))
  else .ok (diff.differences.map fun _ => .blockDeployment)

/-- The probes that the plan for a connector selects. -/
def connectorProbes : Except MissionFault (List ExecutedProbe) := do
  let plan ← setting.planConnector
  executedProbes setting.sorter setting.mission setting.leftPkg setting.target setting.sendQuote
    .riskDirected [] plan.selectedScenarios

/-- What probes say. -/
def probeSignals (probes : List ExecutedProbe) : List ReleaseStatus :=
  probes.map (·.experiment.signal)

/-- What probes say together with an impact; without any probe there is no conclusion. -/
def repricingSignals (probes : List ExecutedProbe) (impact : ConnectorImpact) :
    List ReleaseStatus :=
  (if probes.isEmpty then [.reviewRequired] else []) ++ probeSignals probes ++ impactSignals impact

/-- What a connector says: its probes and, unless they block, its impact on the portfolio. -/
def connectorSignals : Except MissionFault (List ReleaseStatus) := do
  let probes ← setting.connectorProbes
  if .blockDeployment ∈ probeSignals probes then .ok (probeSignals probes)
  else
    let impact ← setting.connectorImpact (probes.foldl ProbeEvidence.add .empty)
    .ok (repricingSignals probes impact)

/-- What the target says; without one there is no plan. -/
def targetSignals : Except MissionFault (List ReleaseStatus) :=
  match setting.target.rightPkg, setting.target.targetConnector with
  | some right, _ => setting.packageSignals right
  | none, some _ => setting.connectorSignals
  | none, none => .error .missingPlan

/-- What the evidence of a mission says. -/
def signals : Except MissionFault (List ReleaseStatus) := do
  let found ← setting.targetSignals
  .ok (setting.startingSignals ++ found)

end MissionSetting

/-- A decision is as bad as signals that block and ask for reviews where it does. -/
theorem decisionOn_worst {blocks reviews : List String} {signals : List ReleaseStatus}
    (blocked : .blockDeployment ∈ signals ↔ blocks ≠ [])
    (reviewed : blocks = [] → (.reviewRequired ∈ signals ↔ reviews ≠ [])) :
    (MissionSetting.decisionOn blocks reviews).status = worst signals := by
  unfold MissionSetting.decisionOn
  by_cases proven : blocks = []
  · have open_ := reviewed proven
    have unblocked : .blockDeployment ∉ signals := fun member => blocked.mp member proven
    rw [proven, if_neg (by simp)]
    by_cases none : reviews = []
    · rw [none, if_neg (by simp)]
      refine (worst_pass.mpr fun status member => ?_).symm
      cases status with
      | pass => rfl
      | reviewRequired => exact absurd none (open_.mp member)
      | blockDeployment => exact absurd member unblocked
    · rw [if_pos (by simpa using none)]
      exact (worst_review unblocked (open_.mpr none)).symm
  · rw [if_pos (by simpa using proven)]
    exact (worst_block (blocked.mpr proven)).symm

/-- Experiments of an outcome are counted exactly if there are any. -/
theorem outcomeCount_ne {outcome : ExperimentOutcome} {experiments : List RuntimeExperiment} :
    outcomeCount outcome experiments ≠ 0 ↔
      ∃ experiment ∈ experiments, experiment.outcome = outcome := by
  unfold outcomeCount
  rw [← Nat.pos_iff_ne_zero, List.countP_pos_iff]
  simp only [decide_eq_true_eq]

/-- Experiments block exactly if one of them shows a difference. -/
theorem block_mem_shown {experiments : List RuntimeExperiment} :
    .blockDeployment ∈ experiments.map (·.signal) ↔ outcomeCount .mismatched experiments ≠ 0 := by
  rw [outcomeCount_ne, List.mem_map]
  refine exists_congr fun experiment => and_congr_right fun _ => ?_
  unfold RuntimeExperiment.signal
  cases experiment.outcome <;> simp

/-- Experiments ask for a review exactly if one of them has no conclusion. -/
theorem review_mem_shown {experiments : List RuntimeExperiment} :
    .reviewRequired ∈ experiments.map (·.signal) ↔ outcomeCount .inconclusive experiments ≠ 0 := by
  rw [outcomeCount_ne, List.mem_map]
  refine exists_congr fun experiment => and_congr_right fun _ => ?_
  unfold RuntimeExperiment.signal
  cases experiment.outcome <;> simp

/-- The experiments of added probes. -/
theorem foldl_add_experiments (evidence : ProbeEvidence) (probes : List ExecutedProbe) :
    (probes.foldl ProbeEvidence.add evidence).experiments =
      evidence.experiments ++ probes.map (·.experiment) := by
  induction probes generalizing evidence with
  | nil => exact (List.append_nil _).symm
  | cons probe rest ih =>
    rw [List.foldl_cons, ih, List.map_cons]
    exact List.append_assoc evidence.experiments [probe.experiment] _

/-- Evidence of probes alone. -/
structure ProbeEvidence.Of (target : MissionTarget) (probes : List ExecutedProbe)
    (evidence : ProbeEvidence) : Prop where
  /-- Its experiments are theirs. -/
  experiments : evidence.experiments = probes.map (·.experiment)
  /-- It is sound. -/
  sound : evidence.Sound target

/-- Probes of a connector block exactly if a difference is counted. -/
theorem ProbeEvidence.Of.blocked {target : MissionTarget} {probes : List ExecutedProbe}
    {evidence : ProbeEvidence} (shows : evidence.Of target probes) :
    .blockDeployment ∈ MissionSetting.probeSignals probes ↔ evidence.mismatchCount ≠ 0 := by
  rw [shows.sound.mismatched, shows.experiments, ← block_mem_shown, List.map_map]
  rfl

/-- They ask for a review exactly if one without a conclusion is counted. -/
theorem ProbeEvidence.Of.reviewed {target : MissionTarget} {probes : List ExecutedProbe}
    {evidence : ProbeEvidence} (shows : evidence.Of target probes) :
    .reviewRequired ∈ MissionSetting.probeSignals probes ↔ evidence.inconclusiveCount ≠ 0 := by
  rw [shows.sound.inconclusive, shows.experiments, ← review_mem_shown, List.map_map]
  rfl

variable {setting : MissionSetting}

/-- What is known from the beginning never blocks. -/
theorem block_mem_starting : .blockDeployment ∉ setting.startingSignals := by
  unfold MissionSetting.startingSignals
  simp

/-- What is known from the beginning asks for a review exactly if there is anything. -/
theorem review_mem_starting :
    .reviewRequired ∈ setting.startingSignals ↔ setting.startingReasons ≠ [] := by
  unfold MissionSetting.startingSignals
  simp [List.eq_nil_iff_forall_not_mem]

/-- An impact blocks exactly if the portfolio does. -/
theorem block_mem_impact {impact : MissionSetting.ConnectorImpact} {exposure : Option Decimal}
    (exposed : impact = .unavailable → exposure = none) :
    .blockDeployment ∈ MissionSetting.impactSignals impact ↔
      setting.exposureBlocks impact exposure ≠ [] := by
  unfold MissionSetting.impactSignals MissionSetting.exposureBlocks
  cases impact with
  | found run =>
    by_cases equal : run.aggregate.mismatches = 0
    · by_cases whole : run.aggregate.completeness = .complete <;> simp [equal, whole]
    · simp [equal]
  | note text => simp
  | unavailable => simp [exposed rfl]

/-- An impact that does not block asks for a review exactly if it leaves something open. -/
theorem review_mem_impact {impact : MissionSetting.ConnectorImpact} {exposure : Option Decimal}
    (equal : setting.exposureBlocks impact exposure = []) :
    .reviewRequired ∈ MissionSetting.impactSignals impact ↔ setting.exposureReviews impact ≠ [] := by
  unfold MissionSetting.exposureBlocks at equal
  unfold MissionSetting.impactSignals MissionSetting.exposureReviews
  cases impact with
  | found run =>
    by_cases same : run.aggregate.mismatches = 0
    · by_cases whole : run.aggregate.completeness = .complete <;> simp [same, whole]
    · simp [same] at equal
  | note text => simp
  | unavailable => simp

/-- An impact that leaves nothing open is closed. -/
theorem impact_closed {impact : MissionSetting.ConnectorImpact}
    (passes : ∀ status ∈ MissionSetting.impactSignals impact, status = .pass) : ¬impact.Open := by
  unfold MissionSetting.impactSignals at passes
  cases impact with
  | found run =>
    intro incomplete
    have passed := passes _ (List.mem_singleton.mpr rfl)
    rw [if_neg incomplete] at passed
    split at passed <;> cases passed
  | note text => cases passes _ (List.mem_singleton.mpr rfl)
  | unavailable => exact id

/-- Probes of a connector leave something open exactly if there are none or one of them has no
conclusion: a connector that failed left a probe without a conclusion. -/
theorem probeReviews_ne {evidence : ProbeEvidence} (sound : evidence.Sound setting.target)
    (connected : setting.target.targetConnector.isSome) :
    setting.probeReviews evidence ≠ [] ↔
      evidence.experiments = [] ∨ evidence.inconclusiveCount ≠ 0 := by
  unfold MissionSetting.probeReviews
  by_cases concluded : evidence.inconclusiveCount = 0
  · have failures : evidence.anyPartialResponse = false := by
      unfold ProbeEvidence.anyPartialResponse
      by_contra partly
      have member : ConnectorProbeStatus.partialResponse ∈ evidence.connectorOutcomes := by
        simpa using partly
      exact absurd concluded (Nat.pos_iff_ne_zero.mp (sound.failed _ member (by decide)))
    by_cases silent : evidence.connectorOutcomes = []
    · have none : evidence.experiments = [] :=
        List.eq_nil_of_length_eq_zero ((sound.unasked connected silent).symm.trans concluded)
      simp [connected, silent, concluded, none]
    · have some : evidence.experiments ≠ [] := fun none => silent (sound.asked none)
      simp [silent, concluded, failures, some]
  · simp [concluded]

/-- Probes of a connector that all have a conclusion complete its execution. -/
theorem connectorExecution_completed {evidence : ProbeEvidence}
    (sound : evidence.Sound setting.target)
    (connected : setting.target.targetConnector.isSome) (some : evidence.experiments ≠ [])
    (concluded : evidence.inconclusiveCount = 0) :
    (MissionSetting.connectorExecution evidence).1 = .completed := by
  have successes (status : ConnectorProbeStatus) (member : status ∈ evidence.connectorOutcomes) :
      status = .success := by
    by_contra failure
    exact absurd concluded (Nat.pos_iff_ne_zero.mp (sound.failed status member failure))
  have asked : evidence.connectorOutcomes ≠ [] := fun silent =>
    some (List.eq_nil_of_length_eq_zero ((sound.unasked connected silent).symm.trans concluded))
  obtain ⟨first, rest, outcomes⟩ := List.exists_cons_of_ne_nil asked
  have succeeded : evidence.allProbesFailed = false := by
    unfold ProbeEvidence.allProbesFailed
    have one := successes first (outcomes ▸ List.mem_cons_self)
    rw [outcomes, one]
    rfl
  have whole : evidence.anyPartialResponse = false := by
    unfold ProbeEvidence.anyPartialResponse
    by_contra partly
    have member : ConnectorProbeStatus.partialResponse ∈ evidence.connectorOutcomes := by
      simpa using partly
    cases successes _ member
  unfold MissionSetting.connectorExecution
  rw [succeeded, whole, if_neg (by simpa using asked)]
  rfl

/-- A decision that its signals give: it is the worst of them, and nothing that passes leaves a
doubt. -/
structure MissionSetting.Backs (setting : MissionSetting) (decision : ReleaseDecision)
    (doubt : Prop) : Prop where
  /-- The worst signal. -/
  worst : ∃ signals, setting.signals = .ok signals ∧ decision.status = worst signals
  /-- Nothing is doubtful. -/
  sure : decision.status = .pass → ¬doubt

/-- Findings without a proven difference are decided on as the probes and the impact say. -/
theorem repricing_worst {found : MissionFindings} {probes : List ExecutedProbe}
    (shows : found.evidence.Of setting.target probes)
    (connected : setting.target.targetConnector.isSome)
    (agreed : found.evidence.mismatchCount = 0)
    (exposed : found.impact = .unavailable → found.exposure = none) :
    (MissionSetting.decisionOn (setting.blocks found 0) (setting.reviews found)).status =
      worst (setting.startingSignals ++ MissionSetting.repricingSignals probes found.impact) := by
  have silent : found.evidence.experiments = [] ↔ probes = [] := by
    rw [shows.experiments, List.map_eq_nil_iff]
  have proven : setting.blocks found 0 = setting.exposureBlocks found.impact found.exposure := by
    unfold MissionSetting.blocks MissionSetting.provenBlocks
    simp [agreed]
  have parts : setting.reviews found ≠ [] ↔ (setting.startingReasons ≠ [] ∨
      setting.exposureReviews found.impact ≠ []) ∨ setting.probeReviews found.evidence ≠ [] := by
    unfold MissionSetting.reviews
    simp only [ne_eq, List.append_eq_nil_iff, not_and_or]
  unfold MissionSetting.repricingSignals
  refine decisionOn_worst ?_ fun equal => ?_
  · rw [proven, ← block_mem_impact exposed]
    have quiet : .blockDeployment ∉ MissionSetting.probeSignals probes := fun member =>
      shows.blocked.mp member agreed
    by_cases empty : probes.isEmpty <;> simp [block_mem_starting, quiet, empty]
  · rw [proven] at equal
    rw [parts, ← review_mem_starting, ← review_mem_impact equal,
      probeReviews_ne shows.sound connected, silent, ← shows.reviewed]
    by_cases empty : probes = []
    · simp [empty]
    · have some : probes.isEmpty = false := by simpa using empty
      simp only [some, empty, List.mem_append, Bool.false_eq_true, if_false, List.not_mem_nil,
        false_or]
      exact or_assoc.symm.trans or_right_comm

/-- Findings that pass leave no stage open. -/
theorem repricing_sure {found : MissionFindings} {probes : List ExecutedProbe}
    (shows : found.evidence.Of setting.target probes)
    (connected : setting.target.targetConnector.isSome)
    (passes : ∀ status ∈ setting.startingSignals ++
      MissionSetting.repricingSignals probes found.impact, status = .pass) :
    ¬setting.Doubtful found := by
  unfold MissionSetting.repricingSignals at passes
  have clean (status : ReleaseStatus) (other : status ≠ .pass) : status ∉
      setting.startingSignals ++ ((if probes.isEmpty then [.reviewRequired] else []) ++
        MissionSetting.probeSignals probes ++ MissionSetting.impactSignals found.impact) :=
    fun member => other (passes status member)
  have open_ := clean .reviewRequired (by decide)
  simp only [List.mem_append, not_or, review_mem_starting, shows.reviewed] at open_
  obtain ⟨starting, ⟨asked, concluded⟩, -⟩ := open_
  have some : found.evidence.experiments ≠ [] := by
    rw [shows.experiments]
    intro empty
    rw [List.map_eq_nil_iff] at empty
    exact asked (by simp [empty])
  have completed := connectorExecution_completed shows.sound connected some (not_not.mp concluded)
  rintro ((reasons | ⟨-, incomplete⟩) | impact)
  · exact starting reasons
  · exact incomplete completed
  · refine impact_closed (fun status member => passes status ?_) impact
    exact List.mem_append_right _ (List.mem_append_right _ member)

/-- Proven differences block. -/
theorem decisionOn_blocks {blocks reviews : List String} (proven : blocks ≠ []) :
    (MissionSetting.decisionOn blocks reviews).status = .blockDeployment := by
  unfold MissionSetting.decisionOn
  rw [if_pos (by simpa using proven)]

/-- The signals of a connector back the decision of an investigation. -/
theorem connector_backs {found : MissionFindings} (finds : setting.Finds found)
    (alone : setting.target.rightPkg = none)
    (connected : setting.target.targetConnector.isSome) :
    setting.Backs (MissionSetting.decisionOn (setting.blocks found 0) (setting.reviews found))
      (setting.Doubtful found) := by
  obtain ⟨selection, probes, selects, ran, grows⟩ := finds.probes
  obtain ⟨planned, selected⟩ := selects.2 connected
  rw [selected] at ran
  have shows : (probes.foldl ProbeEvidence.add .empty).Of setting.target probes :=
    ⟨foldl_add_experiments .empty probes,
      (ProbeEvidence.empty_sound.addAll (executedProbes_faithful ran)).1⟩
  have probed : setting.connectorProbes = .ok probes := by
    unfold MissionSetting.connectorProbes
    rw [planned]
    exact ran
  have whole (further : List ReleaseStatus) (made : setting.connectorSignals = .ok further) :
      setting.signals = .ok (setting.startingSignals ++ further) := by
    obtain ⟨connector, connected⟩ := Option.isSome_iff_exists.mp connected
    unfold MissionSetting.signals MissionSetting.targetSignals
    rw [alone, connected]
    change (setting.connectorSignals >>= _) = _
    rw [made]
    rfl
  by_cases differs : .blockDeployment ∈ MissionSetting.probeSignals probes
  · have made : setting.connectorSignals = .ok (MissionSetting.probeSignals probes) := by
      unfold MissionSetting.connectorSignals
      rw [probed]
      exact if_pos differs
    have counted : found.evidence.mismatchCount ≠ 0 := fun none =>
      shows.blocked.mp differs (Nat.le_zero.mp (none ▸ grows.mismatched))
    have proven : setting.blocks found 0 ≠ [] := by
      unfold MissionSetting.blocks MissionSetting.provenBlocks
      simp [counted]
    refine ⟨⟨_, whole _ made, ?_⟩, fun passes => ?_⟩
    · rw [decisionOn_blocks proven]
      exact (worst_block (List.mem_append_right _ differs)).symm
    · rw [decisionOn_blocks proven] at passes
      cases passes
  · have none : (probes.foldl ProbeEvidence.add .empty).mismatchCount = 0 :=
      not_not.mp fun counted => differs (shows.blocked.mpr counted)
    have same := grows.same none
    have impacted := finds.impact
    rw [same] at impacted
    rw [← same] at shows none
    have made : setting.connectorSignals =
        .ok (MissionSetting.repricingSignals probes found.impact) := by
      unfold MissionSetting.connectorSignals
      rw [probed]
      change (if .blockDeployment ∈ MissionSetting.probeSignals probes then _ else _) = _
      rw [if_neg differs, impacted]
      rfl
    have status := repricing_worst shows connected none (finds.exposure alone)
    refine ⟨⟨_, whole _ made, status⟩, fun passes => ?_⟩
    exact repricing_sure shows connected (worst_pass.mp (status.symm.trans passes))

end RateGuard
