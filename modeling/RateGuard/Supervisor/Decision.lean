import RateGuard.Diff.Soundness
import RateGuard.Explanations.Fallback
import RateGuard.Supervisor.Verdict

/-!
# Decision of a mission

However a mission goes, it ends with a record that accounts for every stage, or with an exception of
an engine, of the connector or of the impact runner. A decision in the record is the worst of what
the evidence says, whatever Gemini answered, whatever its budgets were and whenever a cancellation
was looked for; and a mission that passes left no stage open.
-/

open DecimalFloat CalendarDate TopologicalSort EarlyExit Outcome

namespace RateGuard

variable {setting : MissionSetting} {advice : MissionAdvice}

/-- An engine that returns did so. -/
theorem fromEngine_ok {α : Type} {result : Except Failure α} {value : α}
    (returned : fromEngine result = .ok value) : result = .ok value := by
  cases result with
  | ok other =>
    cases returned
    rfl
  | error failure => cases returned

/-- The findings are as many as the differences. -/
theorem findings_length (setting : MissionSetting) (diff : SemanticDiffResult) :
    (setting.findings diff).length = diff.differences.length := by
  unfold MissionSetting.findings toMaterialFindings
  rw [List.length_map, List.length_zip, List.length_map, List.length_range, Nat.min_self]

/-- Differences of two packages back a decision to block. -/
theorem package_backs {right : CompiledSource} {diff : SemanticDiffResult}
    (present : setting.target.rightPkg = some right)
    (compared : fromEngine (comparePackages setting.leftPkg.toPackageContent
      right.toPackageContent) = .ok diff)
    (differs : diff.differences ≠ []) (found : MissionFindings) :
    setting.Backs (MissionSetting.decisionOn
        (setting.blocks found (setting.findings diff).length) (setting.reviews found))
      (setting.Doubtful found) := by
  have counted : diff.differences.length ≠ 0 := fun none =>
    differs (List.eq_nil_of_length_eq_zero none)
  have proven : setting.blocks found (setting.findings diff).length ≠ [] := by
    unfold MissionSetting.blocks MissionSetting.provenBlocks
    rw [findings_length, if_neg counted]
    simp
  have made : setting.packageSignals right =
      .ok (diff.differences.map fun _ => .blockDeployment) := by
    unfold MissionSetting.packageSignals
    rw [compared]
    exact if_neg (by simpa using differs)
  have whole : setting.signals = .ok (setting.startingSignals ++
      diff.differences.map fun _ => .blockDeployment) := by
    unfold MissionSetting.signals MissionSetting.targetSignals
    rw [present]
    change (setting.packageSignals right >>= _) = _
    rw [made]
    rfl
  obtain ⟨first, rest, differences⟩ := List.exists_cons_of_ne_nil differs
  refine ⟨⟨_, whole, ?_⟩, fun passes => ?_⟩
  · rw [decisionOn_blocks proven, differences]
    exact (worst_block (List.mem_append_right _ List.mem_cons_self)).symm
  · rw [decisionOn_blocks proven] at passes
    cases passes

/-- Probes of packages that do not differ have a conclusion. -/
theorem cleanProbes_conclude {right : CompiledSource} {diff : SemanticDiffResult}
    {experiments : List RuntimeExperiment}
    (ran : setting.cleanProbes right diff = .ok experiments) {experiment : RuntimeExperiment}
    (member : experiment ∈ experiments) : experiment.outcome ≠ .inconclusive := by
  unfold MissionSetting.cleanProbes at ran
  obtain ⟨predicates, -, ran⟩ := bind_eq_ok ran
  obtain ⟨plan, -, ran⟩ := bind_eq_ok ran
  obtain ⟨scenario, -, probed⟩ := mapM_source ran member
  unfold MissionSetting.cleanProbe at probed
  obtain ⟨expected, -, probed⟩ := bind_eq_ok probed
  obtain ⟨actual, -, probed⟩ := bind_eq_ok probed
  obtain ⟨equal, -, probed⟩ := bind_eq_ok probed
  cases probed
  have concluded : (if equal then ExperimentOutcome.matched else .mismatched) ≠ .inconclusive := by
    split <;> decide
  exact concluded

/-- Probes of packages that do not differ back the decision on them. -/
theorem clean_backs {right : CompiledSource} {diff : SemanticDiffResult}
    {experiments : List RuntimeExperiment}
    (present : setting.target.rightPkg = some right)
    (compared : fromEngine (comparePackages setting.leftPkg.toPackageContent
      right.toPackageContent) = .ok diff)
    (same : diff.differences = []) (ran : setting.cleanProbes right diff = .ok experiments) :
    setting.Backs (if (MissionSetting.cleanData experiments).mismatchCount = 0 then
        setting.cleanDecision
      else MissionSetting.blindSpotDecision (MissionSetting.cleanData experiments).mismatchCount
        experiments.length) (setting.startingReasons ≠ []) := by
  have made : setting.packageSignals right = .ok (experiments.map (·.signal)) := by
    unfold MissionSetting.packageSignals
    rw [compared]
    change (if diff.differences.isEmpty then _ else _) = _
    rw [if_pos (by simp [same]), ran]
    rfl
  have whole : setting.signals =
      .ok (setting.startingSignals ++ experiments.map (·.signal)) := by
    unfold MissionSetting.signals MissionSetting.targetSignals
    rw [present]
    change (setting.packageSignals right >>= _) = _
    rw [made]
    rfl
  have conclusive : .reviewRequired ∉ experiments.map (·.signal) := by
    rw [review_mem_shown, outcomeCount_ne]
    rintro ⟨experiment, member, open_⟩
    exact cleanProbes_conclude ran member open_
  by_cases equal : (MissionSetting.cleanData experiments).mismatchCount = 0
  · rw [if_pos equal]
    have matched (experiment : RuntimeExperiment) (member : experiment ∈ experiments) :
        experiment.outcome = .matched := by
      have all : outcomeCount .matched experiments = experiments.length :=
        Nat.le_antisymm List.countP_le_length (Nat.le_of_sub_eq_zero equal)
      exact of_decide_eq_true (List.countP_eq_length.mp all experiment member)
    have passing (status : ReleaseStatus) (member : status ∈ experiments.map (·.signal)) :
        status = .pass := by
      obtain ⟨experiment, inside, rfl⟩ := List.mem_map.mp member
      unfold RuntimeExperiment.signal
      rw [matched experiment inside]
    unfold MissionSetting.cleanDecision
    by_cases none : setting.startingReasons = []
    · rw [if_pos none]
      refine ⟨⟨_, whole, (worst_pass.mpr fun status member => ?_).symm⟩, fun _ some => some none⟩
      rcases List.mem_append.mp member with early | late
      · unfold MissionSetting.startingSignals at early
        rw [none] at early
        cases early
      · exact passing status late
    · rw [if_neg none]
      refine ⟨⟨_, whole, (worst_review (fun member => ?_) ?_).symm⟩, nofun⟩
      · rcases List.mem_append.mp member with early | late
        · exact block_mem_starting early
        · cases passing _ late
      · exact List.mem_append_left _ (review_mem_starting.mpr none)
  · rw [if_neg equal]
    refine ⟨⟨_, whole, (worst_block (List.mem_append_right _ ?_)).symm⟩, nofun⟩
    rw [block_mem_shown, outcomeCount_ne]
    by_contra agreed
    refine equal (Nat.sub_eq_zero_of_le (le_of_eq (List.countP_eq_length.mpr ?_).symm))
    intro experiment member
    cases outcome : experiment.outcome with
    | matched => rfl
    | mismatched => exact absurd ⟨experiment, member, outcome⟩ agreed
    | inconclusive => exact absurd outcome (cleanProbes_conclude ran member)

/-- A mission with a decision that its setting backs. -/
def MissionSetting.Resolved (setting : MissionSetting) (record : AssuranceRecord) : Prop :=
  ∃ decision doubt, setting.Backs decision doubt ∧ record.Decides decision doubt

/-- An investigation is resolved. -/
theorem investigate_resolves {compared : MissionSetting.Compared}
    (compares : setting.Compares compared)
    (differs : setting.target.rightPkg ≠ none → compared.semDiffs ≠ []) :
    Triple (Standing [.semanticDiff, .compatibilityGate, .sourceBLoadOrConnectorCheck, .sourceALoad,
        .requestValidation] (setting.startingReasons ≠ []) .validatedFirst)
      (setting.investigate advice compared) (fun record _ => setting.Resolved record)
      setting.Settled := by
  refine Triple.weaken (investigate_decides compares) (fun _ standing => standing) ?_
    fun _ held => held
  rintro record state ⟨found, finds, decides⟩
  refine ⟨_, _, ?_, decides⟩
  unfold MissionSetting.Compares at compares
  cases present : setting.target.rightPkg with
  | some right =>
    rw [present] at compares differs
    obtain ⟨diff, made, rfl⟩ := compares
    refine package_backs present made (fun same => differs nofun ?_) found
    refine List.eq_nil_of_length_eq_zero ?_
    rw [findings_length, same]
    rfl
  | none =>
    rw [present] at compares
    subst compares
    obtain ⟨selection, -, selects, -⟩ := finds.probes
    exact connector_backs finds present (selects.1.resolve_left fun absent => absent present)

/-- Packages that do not differ are resolved. -/
theorem cleanEquivalence_resolves {right : CompiledSource} {diff : SemanticDiffResult}
    (present : setting.target.rightPkg = some right)
    (compared : fromEngine (comparePackages setting.leftPkg.toPackageContent
      right.toPackageContent) = .ok diff) (same : diff.differences = []) :
    Triple (Standing [.semanticDiff, .compatibilityGate, .sourceBLoadOrConnectorCheck, .sourceALoad,
        .requestValidation] (setting.startingReasons ≠ []) .validatedFirst)
      (setting.cleanEquivalence right diff) (fun record _ => setting.Resolved record)
      setting.Settled := by
  refine Triple.weaken (cleanEquivalence_decides right diff) (fun _ standing => standing) ?_
    fun _ held => held
  rintro record state ⟨experiments, ran, decides⟩
  exact ⟨_, _, clean_backs present compared same ran, decides⟩

/-- A mission is resolved, or settled early. -/
theorem runMission_resolves :
    Triple (Standing [] False .begun) (setting.runMission advice)
      (fun record _ => setting.Resolved record) setting.Settled := by
  refine Triple.bind validateRequest_stands fun _ => Triple.bind compatibilityGate_stands fun _ => ?_
  refine Triple.bind (semanticAnalysis_stands rfl) fun compared => Triple.given fun compares => ?_
  cases present : setting.target.rightPkg with
  | none => exact investigate_resolves compares fun absent => absurd present absent
  | some right =>
    have made := compares
    unfold MissionSetting.Compares at made
    rw [present] at made
    obtain ⟨diff, found, rfl⟩ := made
    refine Triple.ite (fun empty => ?_) fun differs => ?_
    · refine cleanEquivalence_resolves present found (List.eq_nil_of_length_eq_zero ?_)
      have none : setting.findings diff = [] := List.isEmpty_iff.mp empty
      rw [← findings_length setting, none]
      rfl
    · exact investigate_resolves compares fun _ same => differs (List.isEmpty_iff.mpr same)

/-- A mission stands before anything runs. -/
theorem begun_stands : Standing [] False .begun Investigation.begun where
  ledger := ⟨nofun, fun _ outcome found => nomatch (show none = some outcome from found)⟩
  digest := rfl
  undecided := rfl

/-- How a mission ends. -/
theorem missionRecord_ends (setting : MissionSetting) (advice : MissionAdvice) :
    (∃ record, setting.missionRecord advice = .ok record ∧
      (setting.Resolved record ∨ record.Open)) ∨
    ∃ fault, setting.missionRecord advice = .error fault ∧ setting.Foreign fault := by
  have ends : Triple (Standing [] False .begun) (setting.runMission advice)
      (fun record _ => setting.Resolved record) setting.Settled := runMission_resolves
  have outcome := ends .begun begun_stands
  unfold MissionSetting.missionRecord
  cases run : setting.runMission advice .begun with
  | ok found =>
    rw [run] at outcome
    exact .inl ⟨found.1, rfl, .inl outcome⟩
  | error ending =>
    rw [run] at outcome
    cases ending with
    | finished record => exact .inl ⟨record, rfl, .inr outcome⟩
    | raised fault => exact .inr ⟨fault, rfl, outcome⟩

/-- A mission returns a record that accounts for every stage in order and has a decision exactly if
the mission completed, or it ends with an exception of an engine, the connector or the impact runner;
only a mission without a target fails for want of a plan. -/
theorem mission_accounted (setting : MissionSetting) (advice : MissionAdvice) :
    (∃ record, setting.missionRecord advice = .ok record ∧ record.Accounted ∧
      (record.report.overallStatus = .completed ↔ record.report.releaseDecision ≠ none)) ∨
    ∃ fault, setting.missionRecord advice = .error fault ∧ setting.Foreign fault := by
  refine (missionRecord_ends setting advice).imp_left ?_
  rintro ⟨record, ran, ⟨decision, doubt, -, decides⟩ | unfinished⟩
  · refine ⟨record, ran, decides.accounted, fun _ none => ?_, fun _ => decides.completed⟩
    rw [decides.decision] at none
    cases none
  · exact ⟨record, ran, unfinished.accounted, fun completed =>
      absurd completed unfinished.incomplete, fun some => absurd unfinished.undecided some⟩

/-- The decision in a record is backed by its setting. -/
theorem missionRecord_backs {record : AssuranceRecord} {decision : ReleaseDecision}
    (ran : setting.missionRecord advice = .ok record)
    (decided : record.report.releaseDecision = some decision) :
    ∃ doubt, setting.Backs decision doubt ∧ record.Decides decision doubt := by
  rcases missionRecord_ends setting advice with ⟨other, same, found⟩ | ⟨fault, raised, -⟩
  · rw [ran] at same
    cases same
    rcases found with ⟨chosen, doubt, backs, decides⟩ | unfinished
    · rw [decides.decision] at decided
      cases decided
      exact ⟨doubt, backs, decides⟩
    · rw [unfinished.undecided] at decided
      cases decided
  · rw [ran] at raised
    cases raised

/-- The decision of a mission is the worst of what its evidence says: Gemini, its budgets and the
cancellations have no say in it. A mission that passes left no stage open. -/
theorem mission_decides_worst {record : AssuranceRecord} {decision : ReleaseDecision}
    (ran : setting.missionRecord advice = .ok record)
    (decided : record.report.releaseDecision = some decision) :
    ∃ signals, setting.signals = .ok signals ∧ decision.status = worst signals ∧
      (decision.status = .pass → ∀ outcome ∈ record.report.stageOutcomes, outcome.status.Clear) := by
  obtain ⟨doubt, backs, decides⟩ := missionRecord_backs ran decided
  obtain ⟨signals, made, status⟩ := backs.worst
  exact ⟨signals, made, status, fun passes outcome member =>
    (decides.clear outcome member).resolve_right (backs.sure passes)⟩

/-- A package of home insurance. -/
def homeSource (package : IPIRPackage) : CompiledSource :=
  { package.toPackageContent with line := .homeowners, country := "US", stateOrProvince := none }

/-- A mission of the flat package and some target. -/
def flatSetting (sourceB : PricingSourceRef) (target : MissionTarget) (sendQuote : SendQuote) :
    MissionSetting where
  mission := ⟨"release check", .equivalence, "home", "US",
    ⟨"intent", "IPIR", false, none, none⟩, some sourceB⟩
  leftPkg := homeSource flatPackage
  target := target
  controlCases := []
  sourceCompatibilityNotice := none
  registry := [("rating-api", ["1.0"])]
  sendQuote := sendQuote
  impactRunner := none
  portfolio := ⟨[], List.nodup_nil⟩
  reconcilePackages := fun _ _ => .ok (0, [])
  positiveFloat := fun exposure => (exposure.eq zeroCents).toOption == some false
  coveragePct := fun _ => "100.00"
  sorter := byGenerations String
  inherited := fun _ _ => none
  printed := fun _ _ => ""
  description := fun _ => ""
  lowering := basicLowering
  findingId := fun _ => "finding"
  remediationId := "remediation"
  derivedPackageId := "derived"

/-- Gemini that does not answer in time. -/
def silentGemini : GeminiClient where
  prioritizeDifferences _ := .error "TIMEOUT"
  selectBoundaryTests _ := .error "TIMEOUT"
  evidenceSufficiency _ := .error "TIMEOUT"
  portfolioJustification _ := .error "TIMEOUT"
  explanationDraft _ := .error "TIMEOUT"
  proposeAlignmentOptions _ := .error "TIMEOUT"
  proposeRemediation _ := .error "TIMEOUT"
  selectRevalidationTests _ := .error "TIMEOUT"

/-- No advice. -/
def silentAdvice : MissionAdvice := ⟨silentGemini, ⟨10, 2⟩, fun _ => false⟩

/-- Status that a mission is decided with. -/
def decidedStatus (result : Except MissionFault AssuranceRecord) : Option ReleaseStatus :=
  (result.toOption.bind (·.report.releaseDecision)).map (·.status)

/-- A mission of a decided status left a record with its decision. -/
theorem decidedStatus_eq_some {result : Except MissionFault AssuranceRecord}
    {status : ReleaseStatus} (found : decidedStatus result = some status) :
    ∃ record decision, result = .ok record ∧ record.report.releaseDecision = some decision ∧
      decision.status = status := by
  obtain ⟨decision, decided, rfl⟩ := Option.map_eq_some_iff.mp found
  cases result with
  | error fault => cases decided
  | ok record => exact ⟨record, decision, rfl, decided, rfl⟩

/-- A mission of the flat package and the one of twice its premium. -/
def doubledSetting : MissionSetting :=
  flatSetting ⟨"target", "IPIR", false, none, none⟩ ⟨some (homeSource doubledPackage), none⟩
    fun _ _ => .error (.other "RuntimeError")

/-- The comparison does not see the changed calculation, but the probe does. -/
theorem mission_decides_worst_doubled :
    ∃ record decision signals, doubledSetting.missionRecord silentAdvice = .ok record ∧
      record.report.releaseDecision = some decision ∧ decision.status = .blockDeployment ∧
      doubledSetting.signals = .ok signals ∧ worst signals = .blockDeployment := by
  have blocked : decidedStatus (doubledSetting.missionRecord silentAdvice) =
      some .blockDeployment := by decide +kernel
  obtain ⟨record, decision, ran, decided, status⟩ := decidedStatus_eq_some blocked
  obtain ⟨signals, made, same, -⟩ := mission_decides_worst ran decided
  exact ⟨record, decision, signals, ran, decided, status, made, same.symm.trans status⟩

end RateGuard
