import RateGuard.Supervisor.Decision

/-!
# Confinement of Gemini

Gemini is asked within a budget, and every decision that is shown as its own was an answer of its.
It chooses among what the engines found: the probes of a mission are scenarios of a plan, the
additional ones are bounded by the rounds, and a proposal corrects findings of the comparison.
-/

open DecimalFloat CalendarDate TopologicalSort EarlyExit Outcome

namespace RateGuard

/-- Decisions that Gemini took. -/
def geminiDecisions (actions : List DecisionAction) : List String :=
  (actions.filter (·.isGeminiDecision)).map (·.decisionType)

/-- Calls that Gemini answered. -/
def answeredCalls (invocations : List GeminiInvocation) : List String :=
  (invocations.filter (·.failureCategory.isNone)).map (·.decisionType)

/-- A status that tells of the calls what they were. -/
def ModelStatus.Honest (invocations : List GeminiInvocation) : ModelStatus → Prop
  | .live => answeredCalls invocations ≠ []
  | .fallback => invocations ≠ [] ∧ answeredCalls invocations = []
  | .notInvoked => invocations = []

/-- Calls within the budget, decisions in the order of the calls that answered them, and a reason
for every other decision. -/
structure GeminiAccounted (config : AgentConfig) (actions : List DecisionAction)
    (invocations : List GeminiInvocation) : Prop where
  /-- The budget is kept. -/
  within : invocations.length ≤ config.maxGeminiCallsPerMission
  /-- Every decision of Gemini was a call that it answered. -/
  answered : (geminiDecisions actions).Sublist (answeredCalls invocations)
  /-- Every other decision says why. -/
  explained : ∀ action ∈ actions, action.fallbackReason.isSome = !action.isGeminiDecision

/-- Number of additional probes. -/
def additionalCount (experiments : List RuntimeExperiment) : Nat :=
  experiments.countP fun experiment => experiment.category = .additionalProbe

namespace MissionSetting

variable (setting : MissionSetting)

/-- A comparison of the two packages of a mission. -/
def Compared.Made (diff : SemanticDiffResult) : Prop :=
  ∃ right, setting.target.rightPkg = some right ∧
    comparePackages setting.leftPkg.toPackageContent right.toPackageContent = .ok diff

/-- A plan that the planner makes for a mission. -/
def Plans (plan : PricingTestPlan) : Prop :=
  setting.planConnector = .ok plan ∨ ∃ diff predicates, Compared.Made setting diff ∧
    setting.impactPredicates diff = .ok predicates ∧
    setting.planDifferences diff predicates = .ok plan

/-- An experiment with a scenario of a plan. -/
def Planned (experiment : RuntimeExperiment) : Prop :=
  ∃ plan scenario, setting.Plans plan ∧
    (scenario ∈ plan.selectedScenarios ∨ scenario ∈ plan.candidateScenarios) ∧
    experiment.experimentId = scenario.id ∧ experiment.riskInputs = scenario.riskValues

/-- A proposal for findings of the comparison, in the mode that has a source of authority. -/
def Corrects (proposal : RemediationProposal) : Prop :=
  setting.mission.mode = .releaseConformance ∧ ∃ diff targets, Compared.Made setting diff ∧
    targets.Sublist (setting.findings diff) ∧
    proposal = generateRemediationProposal setting.remediationId setting.derivedPackageId targets

end MissionSetting

/-- What a record says of Gemini. -/
structure AssuranceRecord.Confined (record : AssuranceRecord) (setting : MissionSetting)
    (config : AgentConfig) : Prop where
  /-- Its calls and decisions are accounted for. -/
  accounted : GeminiAccounted config record.agentActivity record.invocations
  /-- The status of a completed mission is honest. -/
  honest : record.report.overallStatus = .completed →
    record.report.modelStatus.Honest record.invocations
  /-- The probes are planned, and the additional ones bounded. -/
  probed : ∀ data ∈ record.report.experiments.data,
    (∀ experiment ∈ data.experiments, setting.Planned experiment) ∧
      additionalCount data.experiments ≤ maxAdditionalProbeTests * config.maxProbeRounds
  /-- A proposal corrects findings. -/
  corrected : ∀ proposal ∈ record.report.remediation.data, setting.Corrects proposal

/-- An ending whose record confines Gemini. -/
def MissionEnding.Confined (setting : MissionSetting) (config : AgentConfig) :
    MissionEnding → Prop
  | .finished record => record.Confined setting config
  | .raised _ => True

/-- The calls of an investigation, which are none unless Gemini was asked. -/
structure GeminiLedger (config : AgentConfig) (asked : Bool) (budget : InvestigationBudget)
    (actions : List DecisionAction) (invocations : List GeminiInvocation) : Prop where
  /-- Gemini was asked if there are calls. -/
  silent : asked = false → invocations = []
  /-- Calls are counted. -/
  counted : budget.geminiCallCount = invocations.length
  /-- A success is one of the calls. -/
  succeeded : budget.anyGeminiSuccess = !(answeredCalls invocations).isEmpty
  /-- A failure is one of the calls. -/
  attempted : budget.anyGeminiAttempted = invocations.any (·.failureCategory.isSome)
  /-- They are accounted for. -/
  accounted : GeminiAccounted config actions invocations

/-- What an investigation made so far, with some additional probes left. -/
structure Confinement (setting : MissionSetting) (config : AgentConfig) (left : Nat)
    (evidence : ProbeEvidence) (result : AssuranceResult) : Prop where
  /-- The probes are planned. -/
  planned : ∀ experiment ∈ evidence.experiments, setting.Planned experiment
  /-- The additional ones are bounded. -/
  bounded : additionalCount evidence.experiments + left ≤
    maxAdditionalProbeTests * config.maxProbeRounds
  /-- So are those that are shown. -/
  probed : ∀ data ∈ result.experiments.data,
    (∀ experiment ∈ data.experiments, setting.Planned experiment) ∧
      additionalCount data.experiments ≤ maxAdditionalProbeTests * config.maxProbeRounds
  /-- A proposal corrects findings. -/
  corrected : ∀ proposal ∈ result.remediation.data, setting.Corrects proposal
  /-- Nothing is said of Gemini. -/
  unset : result.modelStatus = .notInvoked
  /-- The mission is running. -/
  running : result.overallStatus ≠ .completed

/-- An investigation in which Gemini is confined. -/
structure Advised (setting : MissionSetting) (config : AgentConfig) (asked : Bool) (left : Nat)
    (state : Investigation) : Prop where
  /-- Its calls. -/
  ledger : GeminiLedger config asked state.budget state.agentActions state.invocations
  /-- What was made. -/
  confinement : Confinement setting config left state.evidence state.result

section Parts

variable {setting : MissionSetting} {advice : MissionAdvice} {config : AgentConfig} {asked : Bool}
  {left : Nat}

/-- A record of the result so far, which is not complete. -/
theorem Advised.concluded {state : Investigation} (advised : Advised setting config asked left state)
    {report : AssuranceResult} (experiments : report.experiments = state.result.experiments)
    (remediation : report.remediation = state.result.remediation)
    (honest : report.overallStatus = .completed → report.modelStatus.Honest state.invocations) :
    (state.concluded report).Confined setting config where
  accounted := advised.ledger.accounted
  honest := honest
  probed := by
    change ∀ data ∈ report.experiments.data, _
    rw [experiments]
    exact advised.confinement.probed
  corrected := by
    change ∀ proposal ∈ report.remediation.data, _
    rw [remediation]
    exact advised.confinement.corrected

/-- An outcome is recorded. -/
theorem Advised.record (stage : MissionStage) (status : StageStatus) (reason : Option String) :
    Triple (Advised setting config asked left) (recordStage stage status reason)
      (fun _ => Advised setting config asked left) (MissionEnding.Confined setting config) := by
  unfold recordStage
  cases StageOutcome.make stage status reason with
  | some outcome => exact Triple.modify fun _ advised => ⟨advised.ledger, advised.confinement⟩
  | none => exact Triple.throw fun _ _ => trivial

/-- Stages are completed. -/
theorem Advised.completed (stages : List MissionStage) :
    Triple (Advised setting config asked left) (recordCompleted stages)
      (fun _ => Advised setting config asked left) (MissionEnding.Confined setting config) :=
  Triple.forEach fun _ _ => Advised.record _ _ _

/-- A cancellation ends the mission with what was made. -/
theorem Advised.checked (cancelled : Nat → Bool) :
    Triple (Advised setting config asked left) (checkCancelled cancelled)
      (fun _ => Advised setting config asked left) (MissionEnding.Confined setting config) := by
  refine Triple.read fun current => Triple.ite (fun _ => ?_) fun _ => ?_
  · refine Triple.throw fun state both => ?_
    obtain ⟨rfl, advised⟩ := both
    exact advised.concluded rfl rfl nofun
  · refine Triple.set fun state both => ?_
    obtain ⟨rfl, advised⟩ := both
    exact ⟨advised.ledger, advised.confinement⟩

/-- The result is changed otherwise. -/
theorem Advised.changed {change : AssuranceResult → AssuranceResult}
    (experiments : ∀ result, (change result).experiments = result.experiments)
    (remediation : ∀ result, (change result).remediation = result.remediation)
    (status : ∀ result, (change result).modelStatus = result.modelStatus)
    (overall : ∀ result, (change result).overallStatus = result.overallStatus) :
    Triple (Advised setting config asked left) (setResult change)
      (fun _ => Advised setting config asked left) (MissionEnding.Confined setting config) := by
  refine Triple.modify fun state advised => ⟨advised.ledger, ?_⟩
  have made := advised.confinement
  refine ⟨made.planned, made.bounded, ?_, ?_, ?_, ?_⟩
  · dsimp only
    rw [experiments]
    exact made.probed
  · dsimp only
    rw [remediation]
    exact made.corrected
  · exact (status state.result).trans made.unset
  · dsimp only
    rw [overall]
    exact made.running

/-- An engine is run. -/
theorem Advised.attempted {α : Type} (result : Except MissionFault α) :
    Triple (Advised setting config asked left) (attempt result)
      (fun value state => result = .ok value ∧ Advised setting config asked left state)
      (MissionEnding.Confined setting config) := by
  cases result with
  | ok value => exact Triple.pure fun _ advised => ⟨rfl, advised⟩
  | error fault => exact Triple.throw fun _ _ => trivial

/-- Whether there is an answer. -/
def answers {α : Type} : Option (GeminiReply α) → Bool
  | some (.ok _) => true
  | _ => false

/-- An investigation that just asked Gemini for a decision: an answer is not yet accounted for. -/
structure Heard (setting : MissionSetting) (config : AgentConfig) (left : Nat)
    (decisionType : String) (answered : Bool) (state : Investigation) : Prop where
  /-- It is confined. -/
  advised : Advised setting config true left state
  /-- A decision of Gemini may be added for an answer. -/
  fresh : answered = true → (geminiDecisions state.agentActions ++ [decisionType]).Sublist
    (answeredCalls state.invocations)

/-- A call more that failed. -/
theorem answeredCalls_failed (invocations : List GeminiInvocation) (decisionType : String)
    (category : String) :
    answeredCalls (invocations ++ [⟨decisionType, some category⟩]) = answeredCalls invocations := by
  unfold answeredCalls
  rw [List.filter_append]
  simp

/-- A call more that was answered. -/
theorem answeredCalls_answered (invocations : List GeminiInvocation) (decisionType : String) :
    answeredCalls (invocations ++ [⟨decisionType, none⟩]) =
      answeredCalls invocations ++ [decisionType] := by
  unfold answeredCalls
  rw [List.filter_append, List.map_append]
  rfl

/-- Gemini is asked while there is a call left. -/
theorem Advised.heard {α : Type} (decisionType : String) (decide : Nat → GeminiReply α) :
    Triple (Advised setting config asked left) (askGemini config decisionType decide)
      (fun reply => Heard setting config left decisionType (answers reply))
      (MissionEnding.Confined setting config) := by
  refine Triple.read fun current => Triple.ite (fun _ => ?_) fun spare => ?_
  · refine Triple.pure fun state both => ⟨⟨?_, both.2.confinement⟩, nofun⟩
    exact { both.2.ledger with silent := nofun }
  · refine Triple.bind (Triple.set fun state both => ?_) fun _ => Triple.pure fun _ heard => heard
    obtain ⟨rfl, advised⟩ := both
    have ledger := advised.ledger
    have room : state.invocations.length + 1 ≤ config.maxGeminiCallsPerMission := by
      rw [← ledger.counted]
      exact Nat.lt_of_not_le spare
    unfold Investigation.asked
    cases decide state.budget.geminiCallCount with
    | error category =>
      refine ⟨⟨⟨nofun, ?_, ?_, ?_, ?_, ?_, ledger.accounted.explained⟩, advised.confinement⟩, nofun⟩
      · rw [List.length_append, ledger.counted]
        rfl
      · rw [answeredCalls_failed]
        exact ledger.succeeded
      · simp
      · rw [List.length_append]
        exact room
      · rw [answeredCalls_failed]
        exact ledger.accounted.answered
    | ok decision =>
      refine ⟨⟨⟨nofun, ?_, ?_, ?_, ?_, ?_, ledger.accounted.explained⟩, advised.confinement⟩,
        fun _ => ?_⟩
      · rw [List.length_append, ledger.counted]
        rfl
      · rw [answeredCalls_answered]
        simp
      · rw [List.any_append, ← ledger.attempted]
        simp
      · rw [List.length_append]
        exact room
      · rw [answeredCalls_answered]
        exact ledger.accounted.answered.trans (List.sublist_append_left _ _)
      · rw [answeredCalls_answered]
        exact ledger.accounted.answered.append (List.Sublist.refl _)

/-- A decision is appended for which Gemini was asked: it is Gemini's only if there was an answer,
and else it says why. -/
theorem Heard.appended {action : DecisionAction} {answered : Bool}
    (backed : action.isGeminiDecision = true → answered = true)
    (explained : action.fallbackReason.isSome = !action.isGeminiDecision) :
    Triple (Heard setting config left action.decisionType answered) (appendAction action)
      (fun _ => Advised setting config true left) (MissionEnding.Confined setting config) := by
  refine Triple.modify fun state heard => ⟨?_, heard.advised.confinement⟩
  have ledger := heard.advised.ledger
  refine { ledger with accounted := ⟨ledger.accounted.within, ?_, ?_⟩ }
  · unfold geminiDecisions
    rw [List.filter_append, List.map_append]
    cases own : action.isGeminiDecision with
    | true =>
      rw [List.filter_cons_of_pos own]
      exact heard.fresh (backed own)
    | false =>
      rw [List.filter_cons_of_neg (by rw [own]; nofun)]
      rw [List.filter_nil, List.map_nil, List.append_nil]
      exact ledger.accounted.answered
  · intro other member
    rcases List.mem_append.mp member with earlier | last
    · exact ledger.accounted.explained other earlier
    · rw [List.mem_singleton.mp last]
      exact explained

/-- A decision says why exactly if it is not Gemini's. -/
theorem decisionAction_explained {α : Type} (decisionType : String)
    (reply : Option (GeminiReply α)) (isGemini : Bool) :
    (decisionAction decisionType reply isGemini).fallbackReason.isSome = !isGemini := by
  cases isGemini <;> rfl

/-- Identifiers of a pool were an answer. -/
theorem validIds_answers {α : Type} {ids : α → List String} {pool : List String}
    {reply : Option (GeminiReply α)} (some : (validIds ids pool reply).isEmpty = false) :
    answers reply = true := by
  rcases reply with _ | _ | decision
  · cases some
  · cases some
  · rfl

/-- They are in the pool. -/
theorem mem_validIds {α : Type} {ids : α → List String} {pool : List String}
    {reply : Option (GeminiReply α)} {id : String} (member : id ∈ validIds ids pool reply) :
    id ∈ pool := by
  rcases reply with _ | _ | decision
  · cases member
  · cases member
  · exact List.contains_iff_mem.mp (List.mem_filter.mp member).2

/-- Gemini is asked for identifiers of a pool. -/
theorem Advised.chose {least most : Nat} (decisionType : String) (pool : List String)
    (decide : Nat → GeminiReply (BoundedIds least most)) :
    Triple (Advised setting config asked left) (chooseIds config decisionType pool decide)
      (fun chosen state => (∀ id ∈ chosen, id ∈ pool) ∧ Advised setting config true left state)
      (MissionEnding.Confined setting config) := by
  refine Triple.bind (Advised.heard _ _) fun reply => ?_
  have noted : Triple (Heard setting config left decisionType (answers reply))
      (appendAction (decisionAction decisionType reply (!(validIds Subtype.val pool reply).isEmpty)))
      (fun _ => Advised setting config true left) (MissionEnding.Confined setting config) :=
    Heard.appended (fun own => validIds_answers ((Bool.not_eq_true' _).mp own))
      (decisionAction_explained _ _ _)
  refine Triple.bind noted fun _ => Triple.pure fun _ advised => ⟨fun _ => mem_validIds, advised⟩

end Parts

end RateGuard
