import RateGuard.Oracle.Calculator
import RateGuard.Oracle.Tracing
import RateGuard.Reconciliation.RootCause

/-!
# Reconciliation of a scenario

The premium and the trace of a canonical run against those of a quote. The verdict reads the
premiums; the divergences and the root cause come from the aligned traces.
-/

open DecimalFloat CalendarDate TopologicalSort Outcome

namespace RateGuard

/-- What reconciliation reads of the quote of a rating engine. -/
structure TargetQuoteResult where
  /-- Quoted premium. -/
  finalPremium : Decimal
  /-- Recorded steps. -/
  trace : List TraceStep

/-- A run taken as the quote of a rating engine. -/
def OracleResult.quote (result : OracleResult) : TargetQuoteResult :=
  ⟨result.finalPremium, result.trace⟩

/-- Verdicts on a scenario. -/
inductive ReconciliationStatus where
  | matched | mismatched
  deriving DecidableEq, Repr

/-- Outcome of reconciling a scenario. -/
structure PremiumReconciliationResult where
  /-- Reconciled scenario. -/
  scenarioId : String
  /-- Canonical premium. -/
  expectedPremium : Decimal
  /-- Quoted premium. -/
  actualPremium : Decimal
  /-- Magnitude of their difference. -/
  absoluteVariance : Decimal
  /-- That magnitude in percent of the canonical premium, to four places. -/
  percentageVariance : Decimal
  /-- Whether the premiums are equal. -/
  premiumMatches : Bool
  /-- Whether the traces diverge. -/
  traceDiverged : Bool
  /-- Their divergences. -/
  traceDifferences : List TraceDifference
  /-- Node that is blamed. -/
  firstDivergentNode : Option String
  /-- Its finding. -/
  rootCause : Option RootCauseFinding
  /-- Findings that contribute. -/
  contributingRootCauses : List RootCauseFinding
  /-- Nodes that diverge. -/
  relatedSemanticDifferenceIds : List String
  /-- Verdict on the premiums. -/
  status : ReconciliationStatus
  /-- Currency of the canonical premium. -/
  currency : String

/-- Magnitude of the difference of two premiums and its percentage. -/
def premiumVariance (expected actual : Decimal) : Except Signal (Decimal × Decimal) := do
  let magnitude ← absolute (← Decimal.sub decimalContext expected actual)
  return (magnitude, ← percentageVariance expected magnitude)

/-- `ReconciliationEngine.reconcile`. -/
def ReconciliationEngine.reconcile (sorter : Sorter String) (scenario : PricingTestScenario)
    (expected : OracleResult) (actual : TargetQuoteResult) (diffResult : SemanticDiffResult)
    (package : PackageContent) : Except Failure PremiumReconciliationResult := do
  let variance ← raising (premiumVariance expected.finalPremium actual.finalPremium)
  let premiumMatches ← raising (expected.finalPremium.eq actual.finalPremium)
  let traceDiffs ← raising (alignAndCompareTraces expected.trace actual.trace)
  let analysis ← performRootCauseAnalysis sorter traceDiffs diffResult package
  let percentage ← raising (variance.2.quantize decimalContext (-4) .halfEven)
  return {
    scenarioId := scenario.id
    expectedPremium := expected.finalPremium
    actualPremium := actual.finalPremium
    absoluteVariance := variance.1
    percentageVariance := percentage
    premiumMatches := premiumMatches
    traceDiverged := !traceDiffs.isEmpty
    traceDifferences := traceDiffs
    firstDivergentNode := analysis.primaryNodeId
    rootCause := analysis.primary
    contributingRootCauses := analysis.contributing
    relatedSemanticDifferenceIds := divergentNodeIds traceDiffs
    status := if premiumMatches then .matched else .mismatched
    currency := expected.currency }

/-- The difference of a number with itself, however written, is zero. -/
theorem sub_of_same {left right : FiniteDecimal}
    (same : Decimal.Same left.toDecimal right.toDecimal) :
    ∃ negative exponent, Decimal.sub decimalContext left.toDecimal right.toDecimal =
      .ok (.finite negative 0 exponent) := by
  have zero : Decimal.alignedSum left.negative left.coefficient left.exponent (!right.negative)
      right.coefficient right.exponent = 0 := by
    have value := alignedSum_value left.negative (!right.negative) left.coefficient
      right.coefficient left.exponent right.exponent
    have equal := finite_same_value same
    rw [signed_not, Int.cast_neg, neg_mul, ← equal, add_neg_cancel] at value
    have scale : (10 : ℚ) ^ min left.exponent right.exponent ≠ 0 := by positivity
    exact_mod_cast (mul_eq_zero.mp value).resolve_right scale
  have aligned : Decimal.sub decimalContext left.toDecimal right.toDecimal =
      Decimal.fitSigned decimalContext
        (Decimal.zeroSumSign decimalContext left.negative (!right.negative))
        (Decimal.alignedSum left.negative left.coefficient left.exponent (!right.negative)
          right.coefficient right.exponent)
        (min left.exponent right.exponent) := rfl
  rw [aligned, zero]
  exact ⟨_, _, rfl⟩

/-- A zero is rounded to four places. -/
theorem quantize_zero (negative : Bool) (exponent : Int) :
    (Decimal.quantize decimalContext (.finite negative 0 exponent) (-4) .halfEven).isOk = true := by
  unfold Decimal.quantize
  dsimp only
  rw [if_neg (by decide), if_pos rfl]
  rfl

/-- Equal premiums have a variance. -/
theorem premiumVariance_of_same {left right : FiniteDecimal}
    (same : Decimal.Same left.toDecimal right.toDecimal) :
    ∃ variance, premiumVariance left.toDecimal right.toDecimal = .ok variance ∧
      (variance.2.quantize decimalContext (-4) .halfEven).isOk = true := by
  obtain ⟨negative, exponent, difference⟩ := sub_of_same same
  unfold premiumVariance
  rw [difference]
  have magnitude : absolute (.finite negative 0 exponent) = .ok (.finite false 0
      (min (max exponent decimalContext.etiny) decimalContext.emax)) := rfl
  dsimp only [bind, Except.bind]
  rw [magnitude]
  dsimp only
  generalize min (max exponent decimalContext.etiny) decimalContext.emax = scale
  unfold percentageVariance
  cases isZero : left.toDecimal.eq (.ofInt 0) with
  | error signal => cases isZero
  | ok equal =>
    cases equal with
    | true => exact ⟨_, rfl, quantize_zero _ _⟩
    | false =>
      have nonzero : left.coefficient ≠ 0 := by
        intro coefficient
        have zero : Decimal.Same left.toDecimal (FiniteDecimal.toDecimal ⟨false, 0, 0⟩) := by
          unfold FiniteDecimal.toDecimal
          rw [coefficient]
          exact zero_same _ _ _ _
        have equal := (finite_eq_iff left ⟨false, 0, 0⟩).mpr zero
        cases isZero.symm.trans equal
      have ratio : ∃ exponent, Decimal.div decimalContext (.finite false 0 scale)
          left.toDecimal = .ok (.finite (false != left.negative) 0 exponent) := by
        unfold FiniteDecimal.toDecimal Decimal.div Decimal.finiteDiv
        dsimp only
        rw [if_neg nonzero, if_pos rfl]
        exact ⟨_, rfl⟩
      obtain ⟨quotient, divided⟩ := ratio
      have percentage : ∃ negative exponent, Decimal.mul decimalContext
          (.finite (false != left.negative) 0 quotient) (.ofInt 100) =
          .ok (.finite negative 0 exponent) := ⟨_, _, rfl⟩
      obtain ⟨sign, place, multiplied⟩ := percentage
      refine ⟨(.finite false 0 scale, .finite sign 0 place), ?_, quantize_zero _ _⟩
      dsimp only [bind, Except.bind]
      rw [if_neg Bool.false_ne_true, divided]
      dsimp only
      rw [multiplied]
      rfl

/-- Premiums whose difference can be measured have a variance. -/
theorem premiumVariance_of_measure {left right : Decimal}
    (measured : (measureDifference left right).isOk = true) :
    ∃ variance, premiumVariance left right = .ok variance ∧
      (variance.2.quantize decimalContext (-4) .halfEven).isOk = true := by
  obtain ⟨result, measures⟩ := exists_of_isOk measured
  obtain ⟨difference, subtracted, measures⟩ := bind_eq_ok measures
  obtain ⟨magnitude, taken, measures⟩ := bind_eq_ok measures
  obtain ⟨percentage, divided, _⟩ := bind_eq_ok measures
  unfold premiumVariance
  rw [subtracted]
  dsimp only [bind, Except.bind]
  rw [taken]
  obtain ⟨isZero, compared, divided⟩ := bind_eq_ok divided
  unfold percentageVariance
  dsimp only
  rw [compared]
  cases isZero with
  | true => exact ⟨_, rfl, quantize_zero _ _⟩
  | false =>
    obtain ⟨ratio, quotient, divided⟩ := bind_eq_ok divided
    obtain ⟨percent, multiplied, divided⟩ := bind_eq_ok divided
    obtain ⟨rounded, quantized, _⟩ := bind_eq_ok divided
    refine ⟨(magnitude, percent), ?_, ?_⟩
    · dsimp only [bind, Except.bind]
      rw [if_neg Bool.false_ne_true, quotient]
      dsimp only
      rw [multiplied]
      rfl
    · dsimp only
      rw [quantized]
      rfl

/-- Two traces that name the same nodes with equal results. -/
structure EqualTraces (expected actual : List TraceStep) : Prop where
  /-- The same nodes. -/
  nodes : ∀ nodeId, nodeId ∈ expected.map (·.nodeId) ↔ nodeId ∈ actual.map (·.nodeId)
  /-- Equal results. -/
  results : ∀ step ∈ expected, ∀ other ∈ actual, step.nodeId = other.nodeId →
    EqualResults step.result other.result

/-- Some node of both traces has visibly different results. -/
def DivergeVisibly (expected actual : List TraceStep) : Prop :=
  ∃ step ∈ expected, ∃ other ∈ actual, step.nodeId = other.nodeId ∧
    VisiblyDiffer step.result other.result

/-- When two traces are reconciled as they should be: a node shows their divergence, or nothing
hides one; visible differences can be measured; and the graph that explains them has no cycle. -/
structure Reconcilable (expected actual : List TraceStep) (package : PackageContent) : Prop where
  /-- Without a visible difference the nodes are the same and none has two values of one text. -/
  shown : DivergeVisibly expected actual ∨
    ((∀ nodeId, nodeId ∈ expected.map (·.nodeId) ↔ nodeId ∈ actual.map (·.nodeId)) ∧
      ∀ step ∈ expected, ∀ other ∈ actual, step.nodeId = other.nodeId →
        ¬ShareText step.result other.result)
  /-- Visible differences of numbers are measured without a signal. -/
  measurable : ∀ step ∈ expected, ∀ other ∈ actual, step.nodeId = other.nodeId →
    VisiblyDiffer step.result other.result → Quantifiable step.result other.result
  /-- The dependency graph builds where a difference is explained. -/
  acyclic : DivergeVisibly expected actual → Acyclic (dependencyEdges package)

/-- The alignment is empty exactly for equal traces when a node shows a divergence or nothing
hides one. -/
theorem alignAndCompareTraces_faithful {expected actual : List TraceStep}
    (alignable : Alignable expected actual) :
    (alignAndCompareTraces expected actual = .ok [] ↔ EqualTraces expected actual) ↔
      (DivergeVisibly expected actual ∨
        ((∀ nodeId, nodeId ∈ expected.map (·.nodeId) ↔ nodeId ∈ actual.map (·.nodeId)) ∧
          ∀ step ∈ expected, ∀ other ∈ actual, step.nodeId = other.nodeId →
            ¬ShareText step.result other.result)) := by
  rw [alignAndCompareTraces_empty_iff alignable]
  constructor
  · intro faithful
    by_cases visible : DivergeVisibly expected actual
    · exact .inl visible
    · have unseen : ∀ step ∈ expected, ∀ other ∈ actual, step.nodeId = other.nodeId →
          ¬VisiblyDiffer step.result other.result := fun step member other inside same differ =>
        visible ⟨step, member, other, inside, same, differ⟩
      have equal := faithful.mp unseen
      exact .inr ⟨equal.nodes, fun step member other inside same =>
        ((equalResults_iff _ _).mp (equal.results step member other inside same)).2⟩
  · intro shown
    constructor
    · intro unseen
      rcases shown with ⟨step, member, other, inside, same, differ⟩ | ⟨nodes, unshared⟩
      · exact absurd differ (unseen step member other inside same)
      · exact ⟨nodes, fun step member other inside same => (equalResults_iff _ _).mpr
          ⟨unseen step member other inside same, unshared step member other inside same⟩⟩
    · intro equal step member other inside same
      exact ((equalResults_iff _ _).mp (equal.results step member other inside same)).1

/-- What reconciliation makes of an alignment that returns. -/
theorem performRootCauseAnalysis_outcome (sorter : Sorter String)
    (traceDiffs : List TraceDifference) (diffResult : SemanticDiffResult)
    (package : PackageContent) :
    ((performRootCauseAnalysis sorter traceDiffs diffResult package).isOk = true ↔
      (traceDiffs ≠ [] → Acyclic (dependencyEdges package))) ∧
    ∀ analysis, performRootCauseAnalysis sorter traceDiffs diffResult package = .ok analysis →
      traceDiffs ≠ [] → analysis.primary.isSome = true := by
  cases traceDiffs with
  | nil =>
    exact ⟨⟨fun _ nonempty => absurd rfl nonempty, fun _ => rfl⟩,
      fun _ _ nonempty => absurd rfl nonempty⟩
  | cons first rest =>
    rw [← checkDependencies_iff sorter package]
    dsimp only [performRootCauseAnalysis]
    cases built : checkDependencies sorter package with
    | ok _ =>
      refine ⟨⟨fun _ _ => rfl, fun _ => rfl⟩, fun analysis analysed _ => ?_⟩
      rw [← Except.ok.inj analysed]
      rfl
    | error failure =>
      refine ⟨⟨fun succeeds => (by cases succeeds), fun builds => ?_⟩, fun _ analysed => ?_⟩
      · cases builds (List.cons_ne_nil _ _)
      · cases analysed

/-- A lifted result that returns was returned. -/
theorem raising_returned {α : Type} {run : Except Signal α} {value : α}
    (returned : raising run = .ok value) : run = .ok value := by
  cases run with
  | ok result => rw [Except.ok.inj returned]
  | error signal => cases returned

/-- The premium of a run is finite and the result of its last step. -/
theorem RunTrace.premium {package : PackageContent} {result : OracleResult}
    (runTrace : RunTrace package result) :
    ∃ finite : FiniteDecimal, finite.toDecimal = result.finalPremium ∧
      ∃ step ∈ result.trace, step.nodeId = result.finalOutputId ∧
        step.result = .decimal finite.toDecimal := by
  obtain ⟨before, ends⟩ := runTrace.last
  have member : ⟨result.finalOutputId, .output, .finalOutput, .decimal result.finalPremium⟩ ∈
      result.trace := by
    rw [ends]
    exact List.mem_append_right _ List.mem_cons_self
  obtain ⟨finite, same⟩ := @toDecimalSafe_finite _ (runTrace.recordable _ member)
    result.finalPremium rfl
  exact ⟨finite, same, _, member, rfl, by rw [same]⟩

/-- What a reconciliation that returns has computed. -/
theorem reconcile_parts {sorter : Sorter String} {scenario : PricingTestScenario}
    {expected : OracleResult} {actual : TargetQuoteResult} {diffResult : SemanticDiffResult}
    {package : PackageContent} {reconciled : PremiumReconciliationResult}
    (succeeds : ReconciliationEngine.reconcile sorter scenario expected actual diffResult package =
      .ok reconciled) :
    ∃ traceDiffs analysis, alignAndCompareTraces expected.trace actual.trace = .ok traceDiffs ∧
      performRootCauseAnalysis sorter traceDiffs diffResult package = .ok analysis ∧
      reconciled.traceDiverged = !traceDiffs.isEmpty ∧ reconciled.rootCause = analysis.primary := by
  obtain ⟨variance, _, succeeds⟩ := bind_eq_ok succeeds
  obtain ⟨premiumMatches, _, succeeds⟩ := bind_eq_ok succeeds
  obtain ⟨traceDiffs, aligned, succeeds⟩ := bind_eq_ok succeeds
  obtain ⟨analysis, analysed, succeeds⟩ := bind_eq_ok succeeds
  obtain ⟨percentage, _, succeeds⟩ := bind_eq_ok succeeds
  rw [← Except.ok.inj succeeds]
  exact ⟨traceDiffs, analysis, raising_returned aligned, analysed, rfl, rfl⟩

/-- A reconciliation whose parts return returns. -/
theorem reconcile_of_parts {sorter : Sorter String} {scenario : PricingTestScenario}
    {expected : OracleResult} {actual : TargetQuoteResult} {diffResult : SemanticDiffResult}
    {package : PackageContent} {variance : Decimal × Decimal} {premiumMatches : Bool}
    {traceDiffs : List TraceDifference} {analysis : RootCauseAnalysis}
    (varies : premiumVariance expected.finalPremium actual.finalPremium = .ok variance)
    (rounds : (variance.2.quantize decimalContext (-4) .halfEven).isOk = true)
    (compared : expected.finalPremium.eq actual.finalPremium = .ok premiumMatches)
    (aligned : alignAndCompareTraces expected.trace actual.trace = .ok traceDiffs)
    (analysed : performRootCauseAnalysis sorter traceDiffs diffResult package = .ok analysis) :
    (ReconciliationEngine.reconcile sorter scenario expected actual diffResult package).isOk =
      true := by
  obtain ⟨percentage, rounded⟩ := exists_of_isOk rounds
  unfold ReconciliationEngine.reconcile
  rw [varies, compared, aligned]
  dsimp only [raising, bind, Except.bind]
  rw [analysed]
  dsimp only
  rw [rounded]
  rfl

/-- A reconciliation of two priced runs returns exactly when the visible differences can be
measured and, if there are any, the dependency graph has no cycle. -/
theorem reconcile_isOk_iff {sorter : Sorter String} {left right : PackageContent}
    {expected actual : OracleResult} (leftTrace : RunTrace left expected)
    (rightTrace : RunTrace right actual) (sameOutput : expected.finalOutputId = actual.finalOutputId)
    (scenario : PricingTestScenario) (diffResult : SemanticDiffResult) (package : PackageContent) :
    (ReconciliationEngine.reconcile sorter scenario expected actual.quote diffResult package).isOk =
        true ↔
      (∀ step ∈ expected.trace, ∀ other ∈ actual.trace, step.nodeId = other.nodeId →
        VisiblyDiffer step.result other.result → Quantifiable step.result other.result) ∧
      (DivergeVisibly expected.trace actual.trace → Acyclic (dependencyEdges package)) := by
  have alignable : Alignable expected.trace actual.trace :=
    ⟨leftTrace.recordable, rightTrace.recordable, rightTrace.distinct⟩
  have diverged : ∀ traceDiffs, alignAndCompareTraces expected.trace actual.trace = .ok traceDiffs →
      (traceDiffs ≠ [] ↔ DivergeVisibly expected.trace actual.trace) := by
    intro traceDiffs aligned
    have empty := alignAndCompareTraces_empty_iff alignable
    rw [aligned, Except.ok.injEq] at empty
    rw [ne_eq, empty]
    unfold DivergeVisibly
    push Not
    rfl
  constructor
  · intro succeeds
    obtain ⟨reconciled, found⟩ := exists_of_isOk succeeds
    obtain ⟨traceDiffs, analysis, aligned, analysed, _, _⟩ := reconcile_parts found
    refine ⟨(alignAndCompareTraces_isOk_iff alignable).mp ?_, fun visible => ?_⟩
    · change (alignAndCompareTraces expected.trace actual.quote.trace).isOk = true
      rw [aligned]
      rfl
    · refine ((performRootCauseAnalysis_outcome sorter traceDiffs diffResult package).1.mp ?_) ?_
      · rw [analysed]
        rfl
      · exact (diverged traceDiffs aligned).mpr visible
  · rintro ⟨measures, builds⟩
    obtain ⟨traceDiffs, aligned⟩ := exists_of_isOk
      ((alignAndCompareTraces_isOk_iff alignable).mpr measures)
    obtain ⟨analysis, analysed⟩ := exists_of_isOk
      ((performRootCauseAnalysis_outcome sorter traceDiffs diffResult package).1.mpr
        fun nonempty => builds ((diverged traceDiffs aligned).mp nonempty))
    obtain ⟨left, leftPremium, step, member, named, read⟩ := leftTrace.premium
    obtain ⟨right, rightPremium, other, inside, otherNamed, otherRead⟩ := rightTrace.premium
    have varies : ∃ variance,
        premiumVariance expected.finalPremium actual.quote.finalPremium = .ok variance ∧
        (variance.2.quantize decimalContext (-4) .halfEven).isOk = true := by
      change ∃ variance, premiumVariance expected.finalPremium actual.finalPremium = .ok variance ∧ _
      rw [← leftPremium, ← rightPremium]
      by_cases same : Decimal.Same left.toDecimal right.toDecimal
      · exact premiumVariance_of_same same
      · have visible : VisiblyDiffer step.result other.result := by
          rw [read, otherRead]
          exact same
        have measurable := measures step member other inside
          (named.trans (sameOutput.trans otherNamed.symm)) visible
        rw [read, otherRead] at measurable
        exact premiumVariance_of_measure (measurable _ _ rfl rfl)
    obtain ⟨variance, found, rounds⟩ := varies
    cases compared : expected.finalPremium.eq actual.quote.finalPremium with
    | ok premiumMatches => exact reconcile_of_parts found rounds compared aligned analysed
    | error signal =>
      have comparison : expected.finalPremium.eq actual.finalPremium = .error signal := compared
      rw [← leftPremium, ← rightPremium] at comparison
      cases comparison

/-- A reconciliation of two runs with different premiums reports a divergence and a root cause. -/
theorem reconcile_reports {sorter : Sorter String} {left right : PackageContent}
    {expected actual : OracleResult} (leftTrace : RunTrace left expected)
    (rightTrace : RunTrace right actual) (sameOutput : expected.finalOutputId = actual.finalOutputId)
    {scenario : PricingTestScenario} {diffResult : SemanticDiffResult} {package : PackageContent}
    {reconciled : PremiumReconciliationResult}
    (succeeds : ReconciliationEngine.reconcile sorter scenario expected actual.quote diffResult
      package = .ok reconciled)
    (differ : ¬Decimal.Same expected.finalPremium actual.finalPremium) :
    reconciled.traceDiverged = true ∧ reconciled.rootCause.isSome = true := by
  have alignable : Alignable expected.trace actual.trace :=
    ⟨leftTrace.recordable, rightTrace.recordable, rightTrace.distinct⟩
  obtain ⟨left, leftPremium, step, member, named, read⟩ := leftTrace.premium
  obtain ⟨right, rightPremium, other, inside, otherNamed, otherRead⟩ := rightTrace.premium
  obtain ⟨traceDiffs, analysis, aligned, analysed, diverged, cause⟩ := reconcile_parts succeeds
  have nonempty : traceDiffs ≠ [] := by
    rintro rfl
    have unseen := (alignAndCompareTraces_empty_iff alignable).mp aligned step member other inside
      (named.trans (sameOutput.trans otherNamed.symm))
    rw [read, otherRead, leftPremium, rightPremium] at unseen
    exact unseen differ
  refine ⟨?_, ?_⟩
  · rw [diverged, Bool.not_eq_true', List.isEmpty_eq_false_iff]
    exact nonempty
  · rw [cause]
    exact (performRootCauseAnalysis_outcome sorter traceDiffs diffResult package).2 analysis analysed
      nonempty

/-- Two priced runs with one output are aligned and reconciled as they should be exactly when
their traces are reconcilable. -/
theorem reconcile_iff (sorter : Sorter String) (left right : IPIRPackage)
    (leftRisk rightRisk : RiskInput) (leftDate rightDate : Date)
    (leftTransaction rightTransaction : TransactionType) (leftStrict rightStrict : Bool)
    (expected actual : OracleResult)
    (leftPriced : evaluatePackage sorter left.toPackageContent leftRisk leftDate leftTransaction
      leftStrict = .ok expected)
    (rightPriced : evaluatePackage sorter right.toPackageContent rightRisk rightDate
      rightTransaction rightStrict = .ok actual)
    (sameOutput : expected.finalOutputId = actual.finalOutputId) (scenario : PricingTestScenario)
    (diffResult : SemanticDiffResult) (package : PackageContent) :
    ((alignAndCompareTraces expected.trace actual.trace = .ok [] ↔
        EqualTraces expected.trace actual.trace) ∧
      ∃ reconciled,
        ReconciliationEngine.reconcile sorter scenario expected actual.quote diffResult package =
          .ok reconciled ∧
        (¬Decimal.Same expected.finalPremium actual.finalPremium →
          reconciled.traceDiverged = true ∧ reconciled.rootCause.isSome = true)) ↔
      Reconcilable expected.trace actual.trace package := by
  have leftTrace := evaluatePackage_runTrace leftPriced
  have rightTrace := evaluatePackage_runTrace rightPriced
  have faithful := alignAndCompareTraces_faithful
    ⟨leftTrace.recordable, rightTrace.recordable, rightTrace.distinct⟩
  have returns := @reconcile_isOk_iff sorter _ _ _ _ leftTrace rightTrace sameOutput scenario
    diffResult package
  constructor
  · rintro ⟨aligned, reconciled, succeeds, _⟩
    obtain ⟨measures, builds⟩ := returns.mp (by rw [succeeds]; rfl)
    exact ⟨faithful.mp aligned, measures, builds⟩
  · intro reconcilable
    obtain ⟨reconciled, succeeds⟩ := exists_of_isOk
      (returns.mpr ⟨reconcilable.measurable, reconcilable.acyclic⟩)
    exact ⟨faithful.mpr reconcilable.shown, reconciled, succeeds,
      reconcile_reports leftTrace rightTrace sameOutput succeeds⟩

/-- The flat package with a constant that nothing reads. -/
def sparePackage : IPIRPackage where
  toPackageContent :=
    { flatPackage.toPackageContent with
      constants := [⟨"base_rate", ⟨false, 10000, -2⟩, none⟩, ⟨"spare_rate", ⟨false, 5, 0⟩, none⟩] }
  valid := by decide

/-- Trace of the flat package. -/
def flatTrace : List TraceStep :=
  [⟨"base_rate", .constant, .setConstant, .decimal (.finite false 10000 (-2))⟩,
   ⟨"total", .calculation, .evaluateCalculation, .decimal (.finite false 10000 (-2))⟩,
   ⟨"premium", .output, .finalOutput, .decimal (.finite false 10000 (-2))⟩]

/-- Trace of the package with the constant that nothing reads. -/
def spareTrace : List TraceStep :=
  flatTrace.take 1 ++ [⟨"spare_rate", .constant, .setConstant, .decimal (.finite false 5 0)⟩] ++
    flatTrace.drop 1

/-- Scenario without risk values. -/
def plainScenario : PricingTestScenario where
  id := "RG-001"
  riskValues := ⟨[], List.nodup_nil⟩
  effectiveDate := sampleDay
  transactionType := .newBusiness

/-- Runs of the flat package and of the one with a constant that nothing reads. -/
theorem flat_and_spare_priced :
    ∃ expected actual,
      evaluatePackage (byGenerations String) flatPackage.toPackageContent ⟨[], List.nodup_nil⟩
        sampleDay .newBusiness false = .ok expected ∧
      evaluatePackage (byGenerations String) sparePackage.toPackageContent ⟨[], List.nodup_nil⟩
        sampleDay .newBusiness false = .ok actual ∧
      expected.finalOutputId = actual.finalOutputId ∧ expected.trace = flatTrace ∧
      actual.trace = spareTrace := by
  have left : (evaluatePackage (byGenerations String) flatPackage.toPackageContent
      ⟨[], List.nodup_nil⟩ sampleDay .newBusiness false).toOption.map
      (fun result => (result.finalOutputId, result.trace)) = some ("premium", flatTrace) := by
    decide +kernel
  have right : (evaluatePackage (byGenerations String) sparePackage.toPackageContent
      ⟨[], List.nodup_nil⟩ sampleDay .newBusiness false).toOption.map
      (fun result => (result.finalOutputId, result.trace)) = some ("premium", spareTrace) := by
    decide +kernel
  obtain ⟨expected, pricedLeft, readsLeft⟩ := exists_of_reading left
  obtain ⟨actual, pricedRight, readsRight⟩ := exists_of_reading right
  refine ⟨expected, actual, pricedLeft, pricedRight, ?_, ?_, ?_⟩
  · exact (congrArg Prod.fst readsLeft).trans (congrArg Prod.fst readsRight).symm
  · exact congrArg Prod.snd readsLeft
  · exact congrArg Prod.snd readsRight

/-- Two runs of which one names a node more. -/
theorem reconcile_iff_spare :
    ∃ expected actual : OracleResult,
      ((alignAndCompareTraces expected.trace actual.trace = .ok [] ↔
          EqualTraces expected.trace actual.trace) ∧
        ∃ reconciled,
          ReconciliationEngine.reconcile (byGenerations String) plainScenario expected actual.quote
            startDifference flatPackage.toPackageContent = .ok reconciled ∧
          (¬Decimal.Same expected.finalPremium actual.finalPremium →
            reconciled.traceDiverged = true ∧ reconciled.rootCause.isSome = true)) ↔
        Reconcilable expected.trace actual.trace flatPackage.toPackageContent := by
  obtain ⟨expected, actual, pricedLeft, pricedRight, sameOutput, _, _⟩ := flat_and_spare_priced
  exact ⟨expected, actual, reconcile_iff (byGenerations String) flatPackage sparePackage
    ⟨[], List.nodup_nil⟩ ⟨[], List.nodup_nil⟩ sampleDay sampleDay .newBusiness .newBusiness false
    false expected actual pricedLeft pricedRight sameOutput plainScenario startDifference
    flatPackage.toPackageContent⟩

/-- A node that only the actual trace names goes unseen. -/
theorem alignAndCompareTraces_misses :
    ∃ expected actual : OracleResult,
      evaluatePackage (byGenerations String) flatPackage.toPackageContent ⟨[], List.nodup_nil⟩
        sampleDay .newBusiness false = .ok expected ∧
      evaluatePackage (byGenerations String) sparePackage.toPackageContent ⟨[], List.nodup_nil⟩
        sampleDay .newBusiness false = .ok actual ∧
      expected.finalOutputId = actual.finalOutputId ∧
      alignAndCompareTraces expected.trace actual.trace = .ok [] ∧
      ¬EqualTraces expected.trace actual.trace := by
  obtain ⟨expected, actual, pricedLeft, pricedRight, sameOutput, left, right⟩ :=
    flat_and_spare_priced
  refine ⟨expected, actual, pricedLeft, pricedRight, sameOutput, ?_, fun equal => ?_⟩
  · rw [left, right]
    rfl
  · have named := (equal.nodes "spare_rate").mpr (by rw [right]; decide +kernel)
    rw [left] at named
    revert named
    decide +kernel

end RateGuard
