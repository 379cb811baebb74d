import RateGuard.Impact.Predicates

/-!
# Policies and predicate matching

Synthetic policies and the test whether a policy satisfies a risk predicate.
Numbers compare as decimals; anything else compares as text, and only for
equality: an order clause holds for every policy that has the field.
-/

open DecimalFloat CalendarDate

namespace RateGuard

/-- Written name of a transaction. -/
def TransactionType.name : TransactionType → String
  | newBusiness => "NEW_BUSINESS"
  | renewal => "RENEWAL"
  | policyChange => "POLICY_CHANGE"

/-- One policy of a synthetic portfolio. -/
structure SyntheticPolicy where
  /-- Policy identifier. -/
  policyId : String
  /-- Product. -/
  productId : String
  /-- State. -/
  state : String
  /-- Policy form. -/
  form : String
  /-- Transaction. -/
  transactionType : TransactionType
  /-- Effective date. -/
  effectiveDate : Date
  /-- Territory. -/
  territory : String
  /-- Age of the roof. -/
  roofAge : Int
  /-- Deductible. -/
  deductible : Int
  /-- Protection class. -/
  protectionClass : Int
  /-- Construction type. -/
  constructionType : String
  /-- Dwelling limit. -/
  dwellingLimit : Int
  /-- Holder of several policies. -/
  multiPolicy : Bool
  /-- Free of claims. -/
  claimsFree : Bool
  /-- Years free of claims. -/
  claimsFreeYears : Int
  /-- Recorded canonical premium. -/
  canonicalPremium : FiniteDecimal
  /-- Recorded target premium. -/
  targetPremium : Option FiniteDecimal

/-- Declared fields by name. -/
def SyntheticPolicy.fields (policy : SyntheticPolicy) : List (String × Option Value) :=
  [("policy_id", some (.str policy.policyId)), ("product_id", some (.str policy.productId)),
   ("state", some (.str policy.state)), ("form", some (.str policy.form)),
   ("transaction_type", some (.str policy.transactionType.name)),
   ("effective_date", some (.date policy.effectiveDate)),
   ("territory", some (.str policy.territory)), ("roof_age", some (.int policy.roofAge)),
   ("deductible", some (.int policy.deductible)),
   ("protection_class", some (.int policy.protectionClass)),
   ("construction_type", some (.str policy.constructionType)),
   ("dwelling_limit", some (.int policy.dwellingLimit)),
   ("multi_policy", some (.bool policy.multiPolicy)),
   ("claims_free", some (.bool policy.claimsFree)),
   ("claims_free_years", some (.int policy.claimsFreeYears)),
   ("canonical_premium", some (.decimal policy.canonicalPremium.toDecimal)),
   ("target_premium", policy.targetPremium.map fun value => .decimal value.toDecimal)]

/-- Texts of the members a record inherits, by name. -/
abbrev InheritedMembers := SyntheticPolicy → String → Option String

/-- `getattr(policy, field, None)`: a declared field, else an inherited member. -/
def SyntheticPolicy.attribute (inherited : InheritedMembers) (policy : SyntheticPolicy)
    (field : String) : Option Value :=
  match policy.fields.lookup field with
  | some value => value
  | none => (inherited policy field).map .str

/-- Whether a relation between two numbers holds. -/
def numbersSatisfy (operator : ComparisonOperator) (value target : Decimal) : Bool :=
  match operator with
  | .eq => value.eq target == .ok true
  | .ne => value.eq target != .ok true
  | .gte => value.lt target != .ok true
  | .gt => value.le target != .ok true
  | .lte => target.lt value != .ok true
  | .lt => target.le value != .ok true

/-- Whether a relation between two texts holds; orders are not checked. -/
def textsSatisfy (operator : ComparisonOperator) (value target : List Char) : Bool :=
  match operator with
  | .eq => value == target
  | .ne => value != target
  | .gt | .gte | .lt | .lte => true

/-- Number of a value that is an integer or a decimal. -/
def Value.number? : Value → Option Decimal
  | int value => some (.ofInt value)
  | decimal value => some value
  | str _ | bool _ | date _ => none

/-- Whether a field value satisfies a clause. -/
def valueSatisfies (operator : ComparisonOperator) (value target : Value) : Bool :=
  match value.number?, target.number? with
  | some value, some target => numbersSatisfy operator value target
  | _, _ => textsSatisfy operator value.text target.text

/-- Whether a policy satisfies a clause; a policy without the field does not. -/
def satisfiesClause (inherited : InheritedMembers) (policy : SyntheticPolicy)
    (clause : PredicateClause) : Bool :=
  match policy.attribute inherited clause.field with
  | none => false
  | some value => valueSatisfies clause.operator value clause.value.toValue

/-- Whether a date is in the window of a predicate; half a window admits every date. -/
def inWindow (predicate : ImpactPredicate) (date : Date) : Bool :=
  match predicate.temporalStart, predicate.temporalEnd with
  | some start, some stop => start ≤ date && date < stop
  | _, _ => true

/-- `matches_predicate`. -/
def matchesPredicate (inherited : InheritedMembers) (policy : SyntheticPolicy)
    (predicate : ImpactPredicate) : Bool :=
  inWindow predicate policy.effectiveDate &&
    predicate.clauses.all (satisfiesClause inherited policy)

/-- Every policy satisfies a predicate without conditions. -/
theorem matchesPredicate_global (inherited : InheritedMembers) (policy : SyntheticPolicy)
    (difference : SemanticDifference) :
    matchesPredicate inherited policy (globalPredicate difference) = true := rfl

end RateGuard
