import RateGuard.Ipir.Expression

/-!
# Rating packages

The nodes of an IPIR 0.1 package and the checks its schema makes. Rules about
one node are fields of the node, so a node that breaks them cannot be built;
rules across nodes make a package valid. Names, descriptions and provenance are
left out because no evaluation reads them.
-/

open DecimalFloat CalendarDate

namespace RateGuard

/-- Supported policy transaction contexts. -/
inductive TransactionType where
  | newBusiness | renewal | policyChange
  deriving DecidableEq, Repr

/-- Data types of risk and policy inputs. -/
inductive InputDataType where
  | integer | decimal | money | string | boolean | category | date
  deriving DecidableEq, Repr

/-- Rate table lookup strategies. -/
inductive TableLookupType where
  | exact | range
  deriving DecidableEq, Repr

/-- Pricing modifier categories. -/
inductive ModifierType where
  | percentageDiscount | percentageSurcharge | flatDiscount | flatSurcharge
  deriving DecidableEq, Repr

/-- Premium constraint categories. -/
inductive ConstraintType where
  | minimum | maximum
  deriving DecidableEq, Repr

/-- Date range of rate versioning; an end never precedes its start. -/
structure EffectivePeriod where
  /-- First active date. -/
  start : Date
  /-- Last active date, if any. -/
  endDate : Option Date
  /-- The range is not reversed. -/
  ordered : ∀ last ∈ endDate, start ≤ last

/-- Integer or decimal bound of an input or a range. -/
inductive Bound where
  | int (value : Int)
  | decimal (value : FiniteDecimal)
  deriving DecidableEq

/-- A bound as a decimal. -/
def Bound.toDecimal : Bound → Decimal
  | int value => .ofInt value
  | decimal value => value.toDecimal

/-- Two optional bounds in numeric order. -/
def boundsOrdered (minimum maximum : Option Bound) : Bool :=
  match minimum, maximum with
  | some low, some high => !(Decimal.lt high.toDecimal low.toDecimal == .ok true)
  | _, _ => true

/-- Definition of a risk factor or policy input required for rating. -/
structure PricingInput where
  /-- Node identifier. -/
  id : String
  /-- Declared type. -/
  dataType : InputDataType
  /-- Whether pricing fails without it. -/
  required : Bool
  /-- Accepted texts, if restricted. -/
  allowedValues : Option (List String)
  /-- Smallest accepted number. -/
  minimum : Option Bound
  /-- Largest accepted number. -/
  maximum : Option Bound
  /-- The bounds are not reversed. -/
  ordered : boundsOrdered minimum maximum
  /-- Booleans restrict no texts. -/
  unrestricted : dataType = .boolean → allowedValues = none

/-- Named constant used by calculations. -/
structure PricingConstant where
  /-- Node identifier. -/
  id : String
  /-- Constant value. -/
  value : FiniteDecimal
  /-- Dates on which it resolves. -/
  effectivePeriod : Option EffectivePeriod

/-- Specification of a table dimension key. -/
structure TableDimension where
  /-- Context entry looked up. -/
  inputRef : String
  /-- Matching strategy. -/
  lookupType : TableLookupType
  deriving DecidableEq

/-- Numeric bracket of a range dimension, with at least one bound. -/
structure RangeMatch where
  /-- Lower bound. -/
  minimum : Option Bound
  /-- Upper bound. -/
  maximum : Option Bound
  /-- Declared inclusion of the lower bound. -/
  includeMinimum : Bool
  /-- Declared inclusion of the upper bound. -/
  includeMaximum : Bool
  /-- A bracket is bounded on some side. -/
  bounded : minimum.isSome ∨ maximum.isSome
  /-- The bounds are not reversed. -/
  ordered : boundsOrdered minimum maximum
  deriving DecidableEq

/-- Lookup key of one dimension of a row. -/
inductive RowMatch where
  | exact (value : Literal)
  | range (bracket : RangeMatch)
  deriving DecidableEq

/-- Row of a rate table. -/
structure TableRow where
  /-- One key for each dimension. -/
  rowMatches : List RowMatch
  /-- Factor or amount of the row. -/
  value : FiniteDecimal
  /-- Declared precedence among overlapping rows. -/
  priority : Option Int

/-- Lookup table of one or two dimensions. -/
structure RateTable where
  /-- Node identifier. -/
  id : String
  /-- Key dimensions. -/
  dimensions : List TableDimension
  /-- Rows in declaration order. -/
  rows : List TableRow
  /-- Dates on which the table is looked up. -/
  effectivePeriod : Option EffectivePeriod
  /-- Declared full coverage. -/
  requiresTotalCoverage : Bool
  /-- Declared value outside every row. -/
  defaultValue : Option FiniteDecimal
  /-- One or two dimensions. -/
  dimensioned : dimensions.length = 1 ∨ dimensions.length = 2
  /-- Every row has a key for every dimension. -/
  keyed : ∀ row ∈ rows, row.rowMatches.length = dimensions.length

/-- Conditional rule: a condition and the operand of each outcome. -/
structure PricingRule where
  /-- Node identifier. -/
  id : String
  /-- Deciding condition. -/
  condition : Condition
  /-- Result when it holds. -/
  whenTrue : Operand
  /-- Result when it does not. -/
  whenFalse : Operand
  /-- Dates on which the rule is evaluated. -/
  effectivePeriod : Option EffectivePeriod

/-- Rounding direction and decimal precision of a calculation step. -/
structure RoundingRule where
  /-- Rule identifier. -/
  id : String
  /-- Decimal places. -/
  precision : Nat
  /-- Rounding direction. -/
  mode : Rounding
  /-- At most ten decimal places. -/
  bounded : precision ≤ 10

/-- Execution step of the calculation. -/
structure CalculationNode where
  /-- Node identifier. -/
  id : String
  /-- Base operand. -/
  expression : Operand
  /-- Declared dependencies: calculations, modifiers, constraints and fees. -/
  dependsOn : List String
  /-- Rounding rule by reference. -/
  roundingRuleRef : Option String
  /-- Rounding rule in place. -/
  roundingRule : Option RoundingRule
  /-- Dates on which the node runs. -/
  effectivePeriod : Option EffectivePeriod

/-- Value of a modifier: an amount or a reference. -/
inductive ModifierValue where
  | amount (value : FiniteDecimal)
  | reference (ref : String)
  deriving DecidableEq

/-- Discount, surcharge or credit of a calculation step. -/
structure PricingModifier where
  /-- Node identifier. -/
  id : String
  /-- Category. -/
  modifierType : ModifierType
  /-- Declared target. -/
  appliesTo : String
  /-- Amount or rate. -/
  value : ModifierValue
  /-- Condition of application. -/
  eligibility : Option Condition
  /-- Order among modifiers. -/
  sequence : Option Int
  /-- Dates on which the modifier applies. -/
  effectivePeriod : Option EffectivePeriod

/-- Minimum or maximum premium bound. -/
structure PremiumConstraint where
  /-- Node identifier. -/
  id : String
  /-- Category. -/
  constraintType : ConstraintType
  /-- Bound. -/
  amount : FiniteDecimal
  /-- Declared target. -/
  appliesTo : String
  /-- Order among constraints. -/
  sequence : Option Int
  /-- Dates on which the constraint applies. -/
  effectivePeriod : Option EffectivePeriod

/-- Fixed policy or transaction fee. -/
structure PricingFee where
  /-- Node identifier. -/
  id : String
  /-- Fee amount. -/
  amount : FiniteDecimal
  /-- Declared target. -/
  appliesTo : String
  /-- Order among fees. -/
  sequence : Option Int
  /-- Dates on which the fee applies. -/
  effectivePeriod : Option EffectivePeriod

/-- Association of calculation nodes with a coverage premium. -/
structure CoverageDefinition where
  /-- Node identifier. -/
  id : String
  /-- Associated calculations. -/
  calculationRefs : List String
  /-- Output of the coverage. -/
  outputRef : Option String

/-- Declaration of a target output premium field. -/
structure PricingOutput where
  /-- Node identifier. -/
  id : String
  /-- Node whose value is the output. -/
  sourceRef : String
  /-- Declared currency. -/
  currency : Option String

/-- Content of a package before the checks across its nodes. -/
structure PackageContent where
  /-- Package identifier. -/
  id : String
  /-- Package version. -/
  version : String
  /-- Dates on which the package prices. -/
  effectivePeriod : EffectivePeriod
  /-- Supported transactions. -/
  transactionTypes : List TransactionType
  /-- Risk inputs. -/
  inputs : List PricingInput
  /-- Constants. -/
  constants : List PricingConstant
  /-- Rate tables. -/
  tables : List RateTable
  /-- Conditional rules. -/
  rules : List PricingRule
  /-- Calculation nodes. -/
  calculations : List CalculationNode
  /-- Shared rounding rules. -/
  roundingRules : List RoundingRule
  /-- Modifiers. -/
  modifiers : List PricingModifier
  /-- Premium constraints. -/
  constraints : List PremiumConstraint
  /-- Fees. -/
  fees : List PricingFee
  /-- Coverage definitions. -/
  coverages : List CoverageDefinition
  /-- Outputs; the first one is the premium. -/
  outputs : List PricingOutput

/-- Identifiers of all nodes in validation order. -/
def PackageContent.nodeIds (package : PackageContent) : List String :=
  package.inputs.map (·.id) ++ package.constants.map (·.id) ++ package.tables.map (·.id) ++
    package.rules.map (·.id) ++ package.calculations.map (·.id) ++ package.modifiers.map (·.id) ++
    package.constraints.map (·.id) ++ package.fees.map (·.id) ++
    package.coverages.map (·.id) ++
    package.outputs.map (·.id)

/-- Identifier and shape rules of every node. -/
def PackageContent.nodesWellFormed (package : PackageContent) : Bool :=
  isIdentifier package.id && package.nodeIds.all isIdentifier &&
    package.roundingRules.all (isIdentifier ·.id) &&
    package.tables.all (fun table => table.dimensions.all (isIdentifier ·.inputRef)) &&
    package.rules.all (fun rule =>
      rule.condition.wellFormed && rule.whenTrue.wellFormed && rule.whenFalse.wellFormed) &&
    package.calculations.all (fun node => node.expression.wellFormed &&
      node.dependsOn.all isIdentifier && node.roundingRuleRef.all isIdentifier &&
      node.roundingRule.all (isIdentifier ·.id)) &&
    package.modifiers.all (fun modifier => isIdentifier modifier.appliesTo &&
      modifier.eligibility.all Condition.wellFormed &&
      match modifier.value with
      | .amount _ => true
      | .reference ref => isIdentifier ref) &&
    package.constraints.all (isIdentifier ·.appliesTo) &&
    package.fees.all (isIdentifier ·.appliesTo) &&
    package.coverages.all (fun coverage => coverage.calculationRefs.all isIdentifier &&
      coverage.outputRef.all isIdentifier) &&
    package.outputs.all (isIdentifier ·.sourceRef)

/-- Checks of the package validator. -/
structure PackageContent.Valid (package : PackageContent) : Prop where
  /-- Every node passes its own validator. -/
  wellFormed : package.nodesWellFormed
  /-- There is pricing logic. -/
  calculations_nonempty : package.calculations ≠ []
  /-- There is an output to compare. -/
  outputs_nonempty : package.outputs ≠ []
  /-- Identifiers are unique across all nodes. -/
  ids_distinct : package.nodeIds.Nodup
  /-- Rounding rule identifiers are unique. -/
  rounding_ids_distinct : (package.roundingRules.map (·.id)).Nodup
  /-- Every output reads an existing node. -/
  outputs_resolve : ∀ output ∈ package.outputs, output.sourceRef ∈ package.nodeIds

/-- Validity is decided by running the checks. -/
instance (package : PackageContent) : Decidable package.Valid :=
  decidable_of_iff
    (package.nodesWellFormed ∧ package.calculations.isEmpty = false ∧
      package.outputs.isEmpty = false ∧ package.nodeIds.Nodup ∧
      (package.roundingRules.map (·.id)).Nodup ∧
      ∀ output ∈ package.outputs, output.sourceRef ∈ package.nodeIds)
    ⟨fun ⟨formed, calculations, outputs, ids, rounding, resolve⟩ =>
      ⟨formed, by simpa using calculations, by simpa using outputs, ids, rounding, resolve⟩,
     fun valid => ⟨valid.wellFormed, by simpa using valid.calculations_nonempty,
      by simpa using valid.outputs_nonempty, valid.ids_distinct, valid.rounding_ids_distinct,
      valid.outputs_resolve⟩⟩

/-- A validated IPIR 0.1 package. -/
structure IPIRPackage extends PackageContent where
  /-- The validator accepted the content. -/
  valid : toPackageContent.Valid

end RateGuard
