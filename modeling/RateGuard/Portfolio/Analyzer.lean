import RateGuard.Oracle.Evaluator
import RateGuard.Portfolio.PredicateEvaluator

/-!
# Portfolio exposure

The blast-radius analysis of a portfolio: the policies some predicate matches
are repriced with both packages and their variances summed up. The policies are
listed in the order in which their identifiers are visited; that order is free.
Trace divergence, the breakdown by predicate, cohorts, percentages of the
portfolio and timings are left out.
-/

open DecimalFloat CalendarDate TopologicalSort

namespace RateGuard

/-- Edges of the dependency graph of a package. -/
def dependencyEdges (package : PackageContent) : List (String × String) :=
  package.tables.flatMap (fun table => table.dimensions.map fun dimension =>
      (dimension.inputRef, table.id)) ++
    package.calculations.flatMap (fun node => node.dependsOn.map fun ref => (ref, node.id)) ++
    package.modifiers.map (fun modifier => (modifier.appliesTo, modifier.id)) ++
    package.constraints.map (fun constraint => (constraint.appliesTo, constraint.id)) ++
    package.fees.map (fun fee => (fee.appliesTo, fee.id)) ++
    package.coverages.flatMap (fun coverage =>
      coverage.calculationRefs.map (fun ref => (ref, coverage.id)) ++
        coverage.outputRef.toList.map fun ref => (coverage.id, ref)) ++
    package.outputs.map fun output => (output.sourceRef, output.id)

/-- Nodes of the dependency graph, the ends of edges included. -/
def dependencyNodes (package : PackageContent) : List String :=
  (package.nodeIds ++ (dependencyEdges package).flatMap fun edge => [edge.1, edge.2]).dedup

/-- Refuses a package whose dependency graph has a cycle. -/
def checkDependencies (sorter : Sorter String) (package : PackageContent) :
    Except Failure Unit :=
  match sorter.sort (dependencyNodes package) (dependencyEdges package) with
  | some _ => .ok ()
  | none => .error .cyclicDependencies

/-- Candidate risk predicates of the differences of two packages. -/
def candidatePredicates (sorter : Sorter String) (result : SemanticDiffResult)
    (package : PackageContent) : Except Failure (List ImpactPredicate) := do
  checkDependencies sorter package
  result.differences.mapM fun difference => derivePredicate difference package

/-- Risk values of a policy. -/
def SyntheticPolicy.riskValues (policy : SyntheticPolicy) : List (String × RiskValue) :=
  [("territory", .literal (.str policy.territory)), ("roof_age", .literal (.int policy.roofAge)),
   ("deductible", .literal (.int policy.deductible)),
   ("protection_class", .literal (.int policy.protectionClass)),
   ("construction_type", .literal (.str policy.constructionType)),
   ("dwelling_limit", .literal (.int policy.dwellingLimit)),
   ("multi_policy", .literal (.bool policy.multiPolicy)),
   ("claims_free", .literal (.bool policy.claimsFree)),
   ("claims_free_years", .literal (.int policy.claimsFreeYears))]

/-- Risk input of a policy. -/
def SyntheticPolicy.risk (policy : SyntheticPolicy) : RiskInput where
  values := policy.riskValues
  distinct := by simp [riskValues]

/-- Magnitude of a decimal, rounded to the context. -/
def absolute : Decimal → Except Signal Decimal
  | .finite _ coefficient exponent => Decimal.fit decimalContext false coefficient exponent
  | .infinity _ => .ok (.infinity false)
  | .nan true => .error .invalidOperation
  | .nan false => .ok (.nan false)

/-- Premiums of a policy under both packages and their variance. -/
structure Repricing where
  /-- Canonical premium. -/
  expected : Decimal
  /-- Target premium. -/
  actual : Decimal
  /-- Magnitude of their difference. -/
  absoluteVariance : Decimal
  /-- The magnitude in percent of the canonical premium. -/
  percentageVariance : Decimal
  /-- Whether the premiums are equal. -/
  premiumMatches : Bool

/-- Variance in percent, zero for an expected premium of zero. -/
def percentageVariance (expected magnitude : Decimal) : Except Signal Decimal := do
  if ← expected.eq (.ofInt 0) then return .ofInt 0
  else
    let ratio ← Decimal.div decimalContext magnitude expected
    Decimal.mul decimalContext ratio (.ofInt 100)

/-- Reconciles two premiums. -/
def reconcile (expected actual : Decimal) : Except Signal Repricing := do
  let magnitude ← absolute (← Decimal.sub decimalContext expected actual)
  let percentage ← percentageVariance expected magnitude
  return {
    expected := expected
    actual := actual
    absoluteVariance := magnitude
    percentageVariance := ← percentage.quantize decimalContext (-4) .halfEven
    premiumMatches := ← expected.eq actual }

/-- Evaluation of a policy. -/
def pricePolicy (sorter : Sorter String) (package : PackageContent) (policy : SyntheticPolicy) :
    Except Failure OracleResult :=
  evaluatePackage sorter package policy.risk policy.effectiveDate policy.transactionType false

/-- `reprice_policy`. -/
def repricePolicy (sorter : Sorter String) (canonical target : PackageContent)
    (policy : SyntheticPolicy) : Except Failure Repricing := do
  let expected ← pricePolicy sorter canonical policy
  let actual ← pricePolicy sorter target policy
  raising (reconcile expected.finalPremium actual.finalPremium)

/-- Sums over the financially affected policies. -/
structure Exposure where
  /-- Financially affected policies. -/
  affected : List String
  /-- Sum of the canonical premiums. -/
  totalExpected : Decimal
  /-- Sum of the target premiums. -/
  totalTarget : Decimal
  /-- Sum of the signed variances. -/
  totalSigned : Decimal
  /-- Sum of the absolute variances. -/
  totalAbsolute : Decimal
  /-- Largest absolute variance. -/
  maxSingle : Decimal
  /-- Undercharged policies. -/
  underchargedCount : Nat
  /-- Sum of their variances. -/
  totalUndercharge : Decimal
  /-- Overcharged policies. -/
  overchargedCount : Nat
  /-- Sum of their variances. -/
  totalOvercharge : Decimal

/-- Zero amount in cents. -/
def zeroCents : Decimal := .finite false 0 (-2)

/-- Nothing affected. -/
def Exposure.zero : Exposure :=
  ⟨[], zeroCents, zeroCents, zeroCents, zeroCents, zeroCents, 0, zeroCents, 0, zeroCents⟩

/-- Adds an affected policy to the sums. -/
def Exposure.add (exposure : Exposure) (policyId : String) (repriced : Repricing) :
    Except Signal Exposure := do
  let totalExpected ← Decimal.add decimalContext exposure.totalExpected repriced.expected
  let totalTarget ← Decimal.add decimalContext exposure.totalTarget repriced.actual
  let variance ← Decimal.sub decimalContext repriced.actual repriced.expected
  let magnitude ← absolute variance
  let summed := { exposure with
    affected := exposure.affected ++ [policyId]
    totalExpected := totalExpected
    totalTarget := totalTarget
    totalSigned := ← Decimal.add decimalContext exposure.totalSigned variance
    totalAbsolute := ← Decimal.add decimalContext exposure.totalAbsolute magnitude
    maxSingle := if ← exposure.maxSingle.lt magnitude then magnitude else exposure.maxSingle }
  if ← variance.lt (.ofInt 0) then
    return { summed with
      underchargedCount := exposure.underchargedCount + 1
      totalUndercharge := ← Decimal.add decimalContext exposure.totalUndercharge magnitude }
  else if ← Decimal.lt (.ofInt 0) variance then
    return { summed with
      overchargedCount := exposure.overchargedCount + 1
      totalOvercharge := ← Decimal.add decimalContext exposure.totalOvercharge variance }
  else return summed

/-- Reprices a policy and adds it to the sums when its premiums differ. -/
def exposePolicy (sorter : Sorter String) (canonical target : PackageContent)
    (exposure : Exposure) (policy : SyntheticPolicy) : Except Failure Exposure := do
  let repriced ← repricePolicy sorter canonical target policy
  if repriced.premiumMatches then return exposure
  else raising (exposure.add policy.policyId repriced)

/-- Sums over a list of policies, all of them repriced. -/
def reprice (sorter : Sorter String) (canonical target : PackageContent)
    (policies : List SyntheticPolicy) : Except Failure Exposure :=
  policies.foldlM (exposePolicy sorter canonical target) Exposure.zero

/-- Whether some predicate matches a policy. -/
def isExposed (inherited : InheritedMembers) (predicates : List ImpactPredicate)
    (policy : SyntheticPolicy) : Bool :=
  predicates.any (matchesPredicate inherited policy)

/-- Result of the analysis. -/
structure PortfolioExposureResult where
  /-- Size of the portfolio. -/
  totalPolicies : Nat
  /-- Policies some predicate matches. -/
  exposedPolicyCount : Nat
  /-- Policies several predicates match. -/
  multiDefectPolicyCount : Nat
  /-- Sums over the exposed policies. -/
  exposure : Exposure
  /-- Mean absolute variance of the affected policies. -/
  averageVariance : Decimal

/-- Financially affected policies. -/
def PortfolioExposureResult.financiallyAffectedCount (result : PortfolioExposureResult) : Nat :=
  result.exposure.affected.length

/-- Mean absolute variance in cents, zero when nothing is affected. -/
def averageVariance (exposure : Exposure) : Except Signal Decimal := do
  if exposure.affected.length = 0 then return zeroCents
  else
    let mean ← Decimal.div decimalContext exposure.totalAbsolute
      (.ofInt exposure.affected.length)
    mean.quantize decimalContext (-2) .halfEven

/-- Number of distinct predicates that match a policy. -/
def matchedCount (inherited : InheritedMembers) (predicates : List ImpactPredicate)
    (policy : SyntheticPolicy) : Nat :=
  ((predicates.filter (matchesPredicate inherited policy)).map (·.id)).dedup.length

/-- A portfolio: policies of distinct identifiers, in the order they are visited. -/
structure Portfolio where
  /-- The policies. -/
  policies : List SyntheticPolicy
  /-- Identifiers are distinct. -/
  distinct : (policies.map (·.policyId)).Nodup

/-- `PortfolioAnalyzer.analyze`: only exposed policies are repriced. -/
def analyze (sorter : Sorter String) (inherited : InheritedMembers) (portfolio : Portfolio)
    (canonical target : PackageContent) : Except Failure PortfolioExposureResult := do
  let differences ← comparePackages canonical target
  let predicates ← candidatePredicates sorter differences canonical
  let exposed := portfolio.policies.filter (isExposed inherited predicates)
  let exposure ← reprice sorter canonical target exposed
  return {
    totalPolicies := portfolio.policies.length
    exposedPolicyCount := exposed.length
    multiDefectPolicyCount := exposed.countP fun policy =>
      1 < matchedCount inherited predicates policy
    exposure := exposure
    averageVariance := ← raising (averageVariance exposure) }

end RateGuard
