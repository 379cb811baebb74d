import RateGuard.Foundation.TopologicalSort
import RateGuard.IpirV2.Expression

/-!
# Packages of IPIR 0.2

The nodes of a 0.2 package and the checks of its validator: strict identifiers, references
that resolve, an acyclic graph of declared and discovered dependencies, table coverage,
and outputs that agree with the rounding of their calculations. Inputs, constants and
tables are those of IPIR 0.1. Source metadata, product, attestation, and everything of a
control case but its identifier are left out because no evaluation reads them.
-/

open DecimalFloat CalendarDate TopologicalSort

namespace RateGuard

/-- Calculation of a 0.2 package; rounding is part of the expression. -/
structure CalculationNodeV2 where
  /-- Node identifier. -/
  id : String
  /-- Expression of the value. -/
  expression : ExpressionV2
  /-- Declared dependencies. -/
  dependsOn : List String
  /-- Dates on which the node runs. -/
  effectivePeriod : Option EffectivePeriod

/-- Output with its explicit rounding contract. -/
structure PricingOutputV2 where
  /-- Node identifier. -/
  id : String
  /-- Node whose value is the output. -/
  sourceRef : String
  /-- Declared currency. -/
  currency : String
  /-- Declared decimal places. -/
  scale : Fin 11
  /-- Declared rounding direction. -/
  roundingMode : Rounding

/-- Content of a 0.2 package before the checks across its nodes. -/
structure PackageV2 where
  /-- Version of the schema. -/
  schemaVersion : String
  /-- Package identifier. -/
  packageId : String
  /-- Package version. -/
  packageVersion : String
  /-- Dates on which the package prices. -/
  effectivePeriod : EffectivePeriod
  /-- Supported transactions. -/
  transactionTypes : List TransactionType
  /-- Risk inputs. -/
  inputs : List PricingInput
  /-- Constants. -/
  constants : List PricingConstant
  /-- Rate tables. -/
  tables : List RateTable
  /-- Calculations in worksheet order. -/
  calculations : List CalculationNodeV2
  /-- Outputs; the first one is the premium. -/
  outputs : List PricingOutputV2
  /-- Identifiers of the control cases. -/
  controlCases : List String

/-- Whether a text is a version of the 0.2 schema. A line feed may follow, as the end of the pattern
allows it. -/
def isSchemaVersion (version : String) : Bool :=
  match version.toList with
  | '0' :: '.' :: '2' :: '.' :: patch =>
    let digits := if patch.getLast? = some '\n' then patch.dropLast else patch
    digits ≠ [] && digits.all Text.isDigit
  | _ => false

/-- Identifiers of all nodes in validation order. -/
def PackageV2.nodeIds (package : PackageV2) : List String :=
  package.inputs.map (·.id) ++ package.constants.map (·.id) ++ package.tables.map (·.id) ++
    package.calculations.map (·.id) ++ package.outputs.map (·.id)

/-- Whether a currency is a code of three uppercase letters. -/
def isCurrencyCode (currency : String) : Bool :=
  currency.toList.length == 3 && currency.toList.any Char.isUpper &&
    !currency.toList.any Char.isLower

/-- Identifier and shape rules of every node. -/
def PackageV2.nodesWellFormed (package : PackageV2) : Bool :=
  isSchemaVersion package.schemaVersion && isIdentifierV2 package.packageId &&
    package.nodeIds.all isIdentifierV2 &&
    package.tables.all (fun table => table.dimensions.all (isIdentifier ·.inputRef)) &&
    package.calculations.all (fun node =>
      node.expression.wellFormed && node.dependsOn.all isIdentifierV2) &&
    package.outputs.all (fun output =>
      isIdentifierV2 output.sourceRef && isCurrencyCode output.currency)

/-- Whether a reference of an expression resolves. -/
def PackageV2.Resolves (package : PackageV2) : ExpressionRef → Prop
  | .node id => id ∈ package.nodeIds
  | .table id => id ∈ package.tables.map (·.id)

/-- Whether a reference resolves is decided by membership. -/
instance (package : PackageV2) (ref : ExpressionRef) : Decidable (package.Resolves ref) :=
  match ref with
  | .node id => inferInstanceAs (Decidable (id ∈ package.nodeIds))
  | .table id => inferInstanceAs (Decidable (id ∈ package.tables.map (·.id)))

/-- Nodes that an expression refers to by node reference. -/
def ExpressionV2.nodeRefs (expression : ExpressionV2) : List String :=
  expression.refs.filterMap fun
    | .node id => some id
    | .table _ => none

/-- Edges between calculations: from declared dependencies and from references in the
expression. -/
def PackageV2.derivedEdges (package : PackageV2) : List (String × String) :=
  package.calculations.flatMap fun node =>
    ((node.dependsOn ++ node.expression.nodeRefs).filter
      (package.calculations.map (·.id)).contains).map fun dependency => (dependency, node.id)

/-- Whether an output declares the rounding at the top of a calculation. -/
def PricingOutputV2.Agrees (output : PricingOutputV2) : ExpressionV2 → Prop
  | .round _ scale mode => scale = output.scale ∧ mode = output.roundingMode
  | _ => True

/-- Whether an output agrees with a calculation is decided by comparison. -/
instance (output : PricingOutputV2) (expression : ExpressionV2) :
    Decidable (output.Agrees expression) :=
  match expression with
  | .round _ scale mode =>
    inferInstanceAs (Decidable (scale = output.scale ∧ mode = output.roundingMode))
  | .literal _ | .reference _ | .negate _ | .binary .. | .nary .. | .conditional ..
  | .tableLookup _ => inferInstanceAs (Decidable True)

/-- Checks of the 0.2 validator. -/
structure PackageV2.Valid (package : PackageV2) : Prop where
  /-- Every node passes its own validator. -/
  wellFormed : package.nodesWellFormed
  /-- There is pricing logic. -/
  calculations_nonempty : package.calculations ≠ []
  /-- There is an output to compare. -/
  outputs_nonempty : package.outputs ≠ []
  /-- Identifiers are unique across all nodes. -/
  ids_distinct : package.nodeIds.Nodup
  /-- Identifiers of control cases are unique. -/
  cases_distinct : package.controlCases.Nodup
  /-- References in expressions resolve. -/
  refs_resolve : ∀ node ∈ package.calculations, ∀ ref ∈ node.expression.refs,
    package.Resolves ref
  /-- Declared dependencies resolve. -/
  dependencies_resolve : ∀ node ∈ package.calculations, ∀ dependency ∈ node.dependsOn,
    dependency ∈ package.nodeIds
  /-- Every output reads an existing node. -/
  outputs_resolve : ∀ output ∈ package.outputs, output.sourceRef ∈ package.nodeIds
  /-- Dependencies have no cycle. -/
  acyclic : Acyclic package.derivedEdges
  /-- No table has a finding of the coverage check. -/
  covered : ∀ table ∈ package.tables, validateRangeCoverage table = []
  /-- Outputs agree with the rounding of their calculations. -/
  outputs_agree : ∀ output ∈ package.outputs, ∀ node ∈ package.calculations,
    node.id = output.sourceRef → output.Agrees node.expression

/-- Dependencies run between calculations. -/
theorem derivedEdges_inside {package : PackageV2} {edge : String × String}
    (member : edge ∈ package.derivedEdges) :
    edge.1 ∈ package.calculations.map (·.id) ∧ edge.2 ∈ package.calculations.map (·.id) := by
  obtain ⟨node, belongs, member⟩ := List.mem_flatMap.mp member
  obtain ⟨dependency, noted, rfl⟩ := List.mem_map.mp member
  exact ⟨List.contains_iff_mem.mp (List.mem_filter.mp noted).2, List.mem_map_of_mem belongs⟩

/-- Dependencies have no cycle exactly when the calculations can be sorted. -/
theorem derivedEdges_acyclic_iff {package : PackageV2} :
    Acyclic package.derivedEdges ↔ ((byGenerations String).sort
      (package.calculations.map (·.id)) package.derivedEdges).isSome = true := by
  constructor
  · exact (byGenerations String).total _ _
  · intro sorted
    obtain ⟨order, sorted⟩ := Option.isSome_iff_exists.mp sorted
    have perm := (byGenerations String).perm _ _ _ sorted
    refine ((byGenerations String).respects _ _ _ (fun _ => derivedEdges_inside) sorted).acyclic ?_
    intro edge member
    obtain ⟨source, target⟩ := derivedEdges_inside member
    exact ⟨perm.mem_iff.mpr source, perm.mem_iff.mpr target⟩

/-- Validity is decided by running the checks. -/
instance (package : PackageV2) : Decidable package.Valid :=
  decidable_of_iff
    (package.nodesWellFormed = true ∧ package.calculations.isEmpty = false ∧
      package.outputs.isEmpty = false ∧ package.nodeIds.Nodup ∧ package.controlCases.Nodup ∧
      (∀ node ∈ package.calculations, ∀ ref ∈ node.expression.refs, package.Resolves ref) ∧
      (∀ node ∈ package.calculations, ∀ dependency ∈ node.dependsOn,
        dependency ∈ package.nodeIds) ∧
      (∀ output ∈ package.outputs, output.sourceRef ∈ package.nodeIds) ∧
      ((byGenerations String).sort (package.calculations.map (·.id))
        package.derivedEdges).isSome = true ∧
      (∀ table ∈ package.tables, (validateRangeCoverage table).isEmpty = true) ∧
      ∀ output ∈ package.outputs, ∀ node ∈ package.calculations,
        node.id = output.sourceRef → output.Agrees node.expression)
    ⟨fun ⟨formed, calculations, outputs, ids, cases, refs, dependencies, resolve, sorted, covered,
        agree⟩ =>
      { wellFormed := formed
        calculations_nonempty := by simpa using calculations
        outputs_nonempty := by simpa using outputs
        ids_distinct := ids
        cases_distinct := cases
        refs_resolve := refs
        dependencies_resolve := dependencies
        outputs_resolve := resolve
        acyclic := derivedEdges_acyclic_iff.mpr sorted
        covered := fun table member => List.isEmpty_iff.mp (covered table member)
        outputs_agree := agree },
     fun valid => ⟨valid.wellFormed, by simpa using valid.calculations_nonempty,
      by simpa using valid.outputs_nonempty, valid.ids_distinct, valid.cases_distinct,
      valid.refs_resolve, valid.dependencies_resolve, valid.outputs_resolve,
      derivedEdges_acyclic_iff.mp valid.acyclic,
      fun table member => List.isEmpty_iff.mpr (valid.covered table member),
      valid.outputs_agree⟩⟩

end RateGuard
