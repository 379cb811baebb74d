import RateGuard.Diff.Reflexive
import RateGuard.Oracle.Calculator
import RateGuard.Portfolio.Soundness
import RateGuard.Remediation.Proposal

/-!
# Revalidation of a remediation

The repricing of a portfolio and of chosen scenarios that certifies a proposal.
The package it reprices is a clone of the intent package whatever the proposal
says, so a revalidation that ends always passes; it tests the proposal exactly
when correcting the proposed changes turns the defective package into the intent.
-/

open DecimalFloat CalendarDate TopologicalSort Outcome KeyedList

namespace RateGuard

/-- Reruns one scenario and counts it, and counts it again when it passes. -/
def rerunScenario (sorter : Sorter String) (intent patched : PackageContent)
    (pool : List PricingTestScenario) (counts : Nat × Nat) (id : String) :
    Except Failure (Nat × Nat) :=
  match lastWith (·.id) pool id with
  | none => .ok counts
  | some scenario => do
    let expected ← calculatePolicyPremium sorter intent scenario
    let actual ← calculatePolicyPremium sorter patched scenario
    if ← raising (expected.finalPremium.eq actual.finalPremium) then
      return (counts.1 + 1, counts.2 + 1)
    else return (counts.1 + 1, counts.2)

/-- `_rerun_scenarios` for one list of identifiers: scenarios rerun and passed. -/
def rerunScenarios (sorter : Sorter String) (intent patched : PackageContent)
    (pool : List PricingTestScenario) (ids : List String) : Except Failure (Nat × Nat) :=
  ids.foldlM (rerunScenario sorter intent patched pool) (0, 0)

/-- Decision of a revalidation. -/
inductive RevalidationDecision where
  | pass | blockDeployment
  deriving DecidableEq, Repr

/-- Exposure before and after a remediation. -/
structure RevalidationResult where
  /-- Revalidated proposal. -/
  remediationId : String
  /-- Absolute variance of the defective package. -/
  beforeAbsoluteExposure : Decimal
  /-- Absolute variance of the patched package. -/
  afterAbsoluteExposure : Decimal
  /-- Policies affected by the defective package. -/
  beforeAffectedPolicies : Nat
  /-- Policies affected by the patched package. -/
  afterAffectedPolicies : Nat
  /-- Eliminated exposure in percent, before it becomes a float. -/
  exposureEliminatedPct : Decimal
  /-- Release decision. -/
  newReleaseDecision : RevalidationDecision
  /-- Targeted scenarios rerun and passed. -/
  targeted : Nat × Nat
  /-- Regression scenarios rerun and passed. -/
  regression : Nat × Nat
  deriving DecidableEq

/-- Eliminated part of an exposure in percent; no exposure counts as eliminated. -/
def eliminatedPct (before after : Decimal) : Except Signal Decimal := do
  if ← before.eq (.ofInt 0) then return .ofInt 100
  else
    let eliminated ← Decimal.sub decimalContext before after
    let ratio ← Decimal.div decimalContext eliminated before
    Decimal.mul decimalContext ratio (.ofInt 100)

/-- Package that a revalidation reprices: the intent under the derived identifier. -/
def patchedPackage (intent : PackageContent) (proposal : RemediationProposal) : PackageContent :=
  { intent with id := proposal.derivedPackageId }

/-- Scenarios and the identifiers chosen among them. -/
structure RerunSelection where
  /-- Scenarios by identifier. -/
  pool : List PricingTestScenario
  /-- Scenarios that failed before. -/
  targeted : List String
  /-- Control scenarios. -/
  regression : List String

/-- `revalidate_remediation`. -/
def revalidateRemediation (sorter : Sorter String) (inherited : InheritedMembers)
    (portfolio : Portfolio) (intent defective : PackageContent) (proposal : RemediationProposal)
    (selection : RerunSelection) : Except Failure RevalidationResult := do
  let patched := patchedPackage intent proposal
  let before ← analyze sorter inherited portfolio intent defective
  let after ← analyze sorter inherited portfolio intent patched
  let eliminated ← raising (eliminatedPct before.exposure.totalAbsolute
    after.exposure.totalAbsolute)
  let targeted ← rerunScenarios sorter intent patched selection.pool selection.targeted
  let regression ← rerunScenarios sorter intent patched selection.pool selection.regression
  return {
    remediationId := proposal.remediationId
    beforeAbsoluteExposure := before.exposure.totalAbsolute
    afterAbsoluteExposure := after.exposure.totalAbsolute
    beforeAffectedPolicies := before.financiallyAffectedCount
    afterAffectedPolicies := after.financiallyAffectedCount
    exposureEliminatedPct := eliminated
    newReleaseDecision :=
      if after.financiallyAffectedCount = 0 then .pass else .blockDeployment
    targeted := targeted
    regression := regression }

/-- A package compared with a copy under another identifier does not differ. -/
theorem comparePackages_renamed {package : PackageContent} {id : String}
    {result : SemanticDiffResult}
    (compared : comparePackages package { package with id } = .ok result) :
    result.differences = [] := by
  rw [comparePackages_nodes package { package with id } rfl rfl rfl rfl rfl] at compared
  cases modifiers : compareById (fun node : PricingModifier => node.id) compareModifier
      package.modifiers package.modifiers with
  | error failure =>
    rw [modifiers] at compared
    cases compared
  | ok differences =>
    rw [modifiers] at compared
    cases compared
    dsimp only
    rw [compareEffectivePeriods_eq_nil.mpr rfl, compareModifiers_reflexive modifiers]
    rfl

/-- The analysis of a package against a copy exposes nothing. -/
theorem analyze_renamed {sorter : Sorter String} {inherited : InheritedMembers}
    {portfolio : Portfolio} {package : PackageContent} {id : String}
    {result : PortfolioExposureResult}
    (analyzed : analyze sorter inherited portfolio package { package with id } = .ok result) :
    result.exposure = Exposure.zero := by
  obtain ⟨differences, compared, analyzed⟩ := bind_eq_ok analyzed
  obtain ⟨predicates, derived, analyzed⟩ := bind_eq_ok analyzed
  obtain ⟨exposure, repriced, analyzed⟩ := bind_eq_ok analyzed
  obtain ⟨average, -, analyzed⟩ := bind_eq_ok analyzed
  cases analyzed
  obtain ⟨_, -, traversed⟩ := bind_eq_ok derived
  rw [comparePackages_renamed compared] at traversed
  have empty : predicates = [] := (Except.ok.inj traversed).symm
  rw [empty] at repriced
  have none : portfolio.policies.filter (isExposed inherited []) = [] :=
    List.filter_eq_nil_iff.mpr fun _ _ => Bool.false_ne_true
  rw [none] at repriced
  cases repriced
  rfl

/-- Every revalidation that ends passes, whatever the proposal changes. -/
theorem revalidateRemediation_passes {sorter : Sorter String} {inherited : InheritedMembers}
    {portfolio : Portfolio} {intent defective : PackageContent} {proposal : RemediationProposal}
    {selection : RerunSelection} {result : RevalidationResult}
    (revalidated : revalidateRemediation sorter inherited portfolio intent defective proposal
      selection = .ok result) :
    result.newReleaseDecision = .pass ∧ result.afterAffectedPolicies = 0 ∧
      result.afterAbsoluteExposure = zeroCents := by
  obtain ⟨before, -, revalidated⟩ := bind_eq_ok revalidated
  obtain ⟨after, analyzed, revalidated⟩ := bind_eq_ok revalidated
  obtain ⟨eliminated, -, revalidated⟩ := bind_eq_ok revalidated
  obtain ⟨targeted, -, revalidated⟩ := bind_eq_ok revalidated
  obtain ⟨regression, -, revalidated⟩ := bind_eq_ok revalidated
  cases revalidated
  have nothing := analyze_renamed analyzed
  simp [PortfolioExposureResult.financiallyAffectedCount, nothing, Exposure.zero]

/-- Tables that are the same up to the order of rows. -/
structure SameTable (left right : RateTable) : Prop where
  /-- The tables have one identifier. -/
  id : left.id = right.id
  /-- The dimensions are the same. -/
  dimensions : left.dimensions = right.dimensions
  /-- The rows are the same in some order. -/
  rows : left.rows.Perm right.rows
  /-- The active dates are the same. -/
  period : left.effectivePeriod = right.effectivePeriod

/-- Packages of the same pricing content: the same up to names and the order of inputs,
constants and rows. -/
structure SamePricing (left right : PackageContent) : Prop where
  /-- The pricing dates are the same. -/
  period : left.effectivePeriod = right.effectivePeriod
  /-- The transactions are the same. -/
  transactions : left.transactionTypes = right.transactionTypes
  /-- The inputs are the same in some order. -/
  inputs : left.inputs.Perm right.inputs
  /-- The constants are the same in some order. -/
  constants : left.constants.Perm right.constants
  /-- The tables are the same. -/
  tables : List.Forall₂ SameTable left.tables right.tables
  /-- The rules are the same. -/
  rules : left.rules = right.rules
  /-- The calculations are the same. -/
  calculations : left.calculations = right.calculations
  /-- The rounding rules are the same. -/
  roundingRules : left.roundingRules = right.roundingRules
  /-- The modifiers are the same. -/
  modifiers : left.modifiers = right.modifiers
  /-- The constraints are the same. -/
  constraints : left.constraints = right.constraints
  /-- The fees are the same. -/
  fees : left.fees = right.fees
  /-- The outputs are the same. -/
  outputs : left.outputs = right.outputs

/-- Packages of the same pricing content price alike on every date. -/
theorem SamePricing.pricesAlike {left right : PackageContent} (same : SamePricing left right)
    (pinned : String → Prop) (known : Context) (date : Date) :
    PricesAlike Eq pinned known date left right where
  active := by rw [same.period]
  transactions _ := by rw [same.transactions]
  inputs := same.inputs
  constants := ⟨left.constants, List.forall₂_same.mpr fun _ _ => ⟨rfl, rfl, rfl⟩, same.constants⟩
  tables := same.tables.imp fun table other sameTable => {
    id := sameTable.id
    active := by rw [sameTable.period]
    lookup := fun _ _ states => lookupTable_rel eq_congruence states.contexts
      ⟨sameTable.id, sameTable.dimensions,
        ⟨table.rows, List.forall₂_same.mpr fun _ _ => ⟨rfl, rfl⟩, sameTable.rows⟩,
        sameTable.period⟩
      fun row _ => states.textKeys_of_eq _ _ }
  rules := same.rules
  calculations := same.calculations
  rounding _ _ := by rw [same.roundingRules]
  modifiers := by
    rw [← same.modifiers, List.forall₂_same]
    exact fun modifier _ => ⟨rfl, rfl, rfl, rfl, rfl, .inl (by
      cases modifier.value with
      | amount value => exact .amount rfl
      | reference ref => exact .reference ref)⟩
  constraints := by
    rw [← same.constraints, List.forall₂_same]
    exact fun _ _ => ⟨rfl, rfl, rfl, rfl, rfl⟩
  fees := by
    rw [← same.fees, List.forall₂_same]
    exact fun _ _ => ⟨rfl, rfl, rfl, rfl⟩
  outputs := by rw [same.outputs]

/-- Packages of the same pricing content have the same premiums. -/
theorem SamePricing.agree (sorter : Sorter String) {left : IPIRPackage} {right : PackageContent}
    (same : SamePricing left.toPackageContent right) (risk : RiskInput) (date : Date)
    (transaction : TransactionType) (strict : Bool) :
    Agree (ResultRel Decimal.Same)
      (evaluatePackage sorter left.toPackageContent risk date transaction strict)
      (evaluatePackage sorter right risk date transaction strict) :=
  (evaluatePackage_rel eq_congruence sorter (same.pricesAlike _ _ date) left.valid.separated
    transaction).mono fun _ _ premiums => by
      have equal : _ = _ := premiums
      rw [ResultRel, equal]
      exact Decimal.Same.refl _

/-- Packages of the same pricing content price a scenario alike. -/
theorem SamePricing.agree_scenario (sorter : Sorter String) {left : IPIRPackage}
    {right : PackageContent} (same : SamePricing left.toPackageContent right)
    (scenario : PricingTestScenario) :
    Agree (ResultRel Decimal.Same)
      (calculatePolicyPremium sorter left.toPackageContent scenario)
      (calculatePolicyPremium sorter right scenario) := by
  have entries : isRatingEntry left.toPackageContent = isRatingEntry right := by
    funext entry
    have declared : (left.inputs.map (·.id)).contains entry.1 =
        (right.inputs.map (·.id)).contains entry.1 := by
      rw [Bool.eq_iff_iff, List.contains_iff_mem, List.contains_iff_mem]
      exact (same.inputs.map (·.id)).mem_iff
    simp only [isRatingEntry, declared]
  have inputs : ratingInputs left.toPackageContent scenario.riskValues =
      ratingInputs right scenario.riskValues := by
    simp only [ratingInputs, entries]
  unfold calculatePolicyPremium
  rw [same.period, inputs]
  exact Agree.ite Iff.rfl (same.agree sorter _ _ _ _) (.failure _ _)

/-- Scenarios that a revalidation reruns. -/
def RerunSelection.Reruns (selection : RerunSelection) (scenario : PricingTestScenario) : Prop :=
  ∃ id, (id ∈ selection.targeted ∨ id ∈ selection.regression) ∧
    lastWith (·.id) selection.pool id = some scenario

/-- A reported difference that the proposal does not correct. -/
def Omits (intent defective : PackageContent) (proposal : RemediationProposal) : Prop :=
  ∃ result, comparePackages intent defective = .ok result ∧
    ∃ difference ∈ result.differences, proposal.proposes difference = false

/-- The corrected package prices some policy or rerun scenario unlike the intent. -/
def ChangesPremium (sorter : Sorter String) (portfolio : Portfolio) (selection : RerunSelection)
    (intent corrected : PackageContent) : Prop :=
  (∃ policy ∈ portfolio.policies, ¬Agree (ResultRel Decimal.Same)
    (pricePolicy sorter intent policy) (pricePolicy sorter corrected policy)) ∨
  ∃ scenario, selection.Reruns scenario ∧ ¬Agree (ResultRel Decimal.Same)
    (calculatePolicyPremium sorter intent scenario)
    (calculatePolicyPremium sorter corrected scenario)

/-- A revalidation tests the proposal and nothing else: it reprices the corrected package, and an
omission that changes a premium leaves neither a pass nor a full elimination. -/
def TestsProposal (sorter : Sorter String) (inherited : InheritedMembers) (portfolio : Portfolio)
    (intent defective : PackageContent) (proposal : RemediationProposal)
    (selection : RerunSelection) : Prop :=
  (∃ corrected, correct intent defective proposal = some corrected ∧
    SamePricing (patchedPackage intent proposal) corrected) ∧
  ∀ result corrected, revalidateRemediation sorter inherited portfolio intent defective proposal
      selection = .ok result →
    correct intent defective proposal = some corrected → Omits intent defective proposal →
    ChangesPremium sorter portfolio selection intent corrected →
    result.newReleaseDecision ≠ .pass ∧ result.exposureEliminatedPct.eq (.ofInt 100) ≠ .ok true

/-- A revalidation tests the proposal exactly when correcting the proposed changes turns the
defective package into one of the intent's pricing content. -/
theorem revalidateRemediation_tests_iff (sorter : Sorter String) (inherited : InheritedMembers)
    (portfolio : Portfolio) (intent : IPIRPackage) (defective : PackageContent)
    (proposal : RemediationProposal) (selection : RerunSelection) :
    TestsProposal sorter inherited portfolio intent.toPackageContent defective proposal selection ↔
      ∃ corrected, correct intent.toPackageContent defective proposal = some corrected ∧
        SamePricing intent.toPackageContent corrected := by
  constructor
  · rintro ⟨⟨corrected, found, same⟩, -⟩
    exact ⟨corrected, found, { same with }⟩
  · rintro ⟨corrected, found, same⟩
    refine ⟨⟨corrected, found, { same with }⟩, fun result other _ again _ changes => ?_⟩
    rw [found] at again
    cases again
    rcases changes with ⟨policy, -, differs⟩ | ⟨scenario, -, differs⟩
    · exact absurd (same.agree sorter _ _ _ _) differs
    · exact absurd (same.agree_scenario sorter scenario) differs

/-- Content of a package whose premium is the sum of a base rate and a load. -/
def loadedContent (baseRate load : FiniteDecimal) : PackageContent :=
  { flatContent baseRate (.expression .add [.reference "base_rate", .reference "load"]) with
    constants := [⟨"base_rate", baseRate, none⟩, ⟨"load", load, none⟩] }

/-- Package of a base rate of one hundred and a load of ten. -/
def loadedPackage : IPIRPackage where
  toPackageContent := loadedContent ⟨false, 10000, -2⟩ ⟨false, 1000, -2⟩
  valid := by decide

/-- The package with both amounts wrong. -/
def overloadedPackage : IPIRPackage where
  toPackageContent := loadedContent ⟨false, 12000, -2⟩ ⟨false, 1500, -2⟩
  valid := by decide

/-- Proposal that corrects the base rate only. -/
def partialProposal : RemediationProposal :=
  generateRemediationProposal "REM-1" "IPIR_PATCHED_1"
    [findingOf "FND-1" (fieldDifference "constant" "constants" "base_rate" "value" .valueChange
      .constant .critical (some (.decimal (.finite false 10000 (-2))))
      (some (.decimal (.finite false 12000 (-2)))))]

/-- Revalidation of the partial proposal. -/
def certifiedRevalidation : RevalidationResult where
  remediationId := "REM-1"
  beforeAbsoluteExposure := .finite false 2500 (-2)
  afterAbsoluteExposure := zeroCents
  beforeAffectedPolicies := 1
  afterAffectedPolicies := 0
  exposureEliminatedPct := .finite false 100 0
  newReleaseDecision := .pass
  targeted := (0, 0)
  regression := (0, 0)

/-- A revalidation does not test the proposal: one that omits a finding passes with full
elimination, while the package it asks for still overcharges. -/
theorem revalidateRemediation_untested :
    ¬∀ (sorter : Sorter String) (inherited : InheritedMembers) (portfolio : Portfolio)
      (intent defective : IPIRPackage) (proposal : RemediationProposal)
      (selection : RerunSelection),
      TestsProposal sorter inherited portfolio intent.toPackageContent defective.toPackageContent
        proposal selection := by
  intro tests
  obtain ⟨-, reports⟩ := tests (byGenerations String) (fun _ _ => none) singlePortfolio
    loadedPackage overloadedPackage partialProposal ⟨[], [], []⟩
  have omitted : Omits loadedPackage.toPackageContent overloadedPackage.toPackageContent
      partialProposal :=
    ⟨_, rfl, _, List.mem_cons_of_mem _ List.mem_cons_self, by decide⟩
  have changes : ChangesPremium (byGenerations String) singlePortfolio ⟨[], [], []⟩
      loadedPackage.toPackageContent (loadedContent ⟨false, 10000, -2⟩ ⟨false, 1500, -2⟩) := by
    refine .inl ⟨_, List.mem_cons_self, fun agree => ?_⟩
    have premiums : Option.Rel Decimal.Same (some (.finite false 11000 (-2)))
        (some (.finite false 11500 (-2))) := premium_rel agree
    cases premiums with
    | some same => exact absurd same (by simp [Decimal.Same, Decimal.number, signed])
  have certified := reports certifiedRevalidation (loadedContent ⟨false, 10000, -2⟩
    ⟨false, 1500, -2⟩) rfl rfl omitted changes
  exact certified.1 rfl

end RateGuard
