import RateGuard.Oracle.Evaluator

/-!
# Premium calculator

The wrapper that prices a dictionary of risk values on an explicit date: the date
must lie in the effective period of the package, and entries that are execution
context instead of rating inputs are dropped.
-/

open DecimalFloat CalendarDate TopologicalSort

namespace RateGuard

/-- Scenario that can be priced. -/
structure PricingTestScenario where
  /-- Identifier of the scenario. -/
  id : String
  /-- Risk values. -/
  riskValues : RiskInput
  /-- Calculation date. -/
  effectiveDate : Date
  /-- Transaction. -/
  transactionType : TransactionType

/-- Keys of a probe that are no rating inputs unless a package declares them. -/
def contextKeys : List String := ["effective_date", "transaction_type"]

/-- Whether an entry of a probe is passed on as a risk input. -/
def isRatingEntry (package : PackageContent) (entry : String × RiskValue) : Bool :=
  (!contextKeys.contains entry.1 || (package.inputs.map (·.id)).contains entry.1) &&
    match entry.2 with
    | .literal _ => true
    | .date _ => false

/-- Risk input of a scenario for a package. -/
def ratingInputs (package : PackageContent) (risk : RiskInput) : RiskInput where
  values := risk.values.filter (isRatingEntry package)
  distinct := risk.distinct.sublist (List.filter_sublist.map _)

/-- `calculate_policy_premium` on the date of a scenario. -/
def calculatePolicyPremium (sorter : Sorter String) (package : PackageContent)
    (scenario : PricingTestScenario) : Except Failure OracleResult :=
  if isActive (some package.effectivePeriod) scenario.effectiveDate then
    evaluatePackage sorter package (ratingInputs package scenario.riskValues)
      scenario.effectiveDate scenario.transactionType false
  else .error (.calculationDate scenario.effectiveDate package.id)

end RateGuard
