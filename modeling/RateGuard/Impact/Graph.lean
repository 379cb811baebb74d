import RateGuard.Oracle.Scheduling
import RateGuard.Reconciliation.RootCause

/-!
# Graphs of priced packages

The dependency graph is built from declared links, which include the target a modifier, a
constraint or a fee names. An evaluation follows the links between calculations only. It prices a
package whose other links lead in a circle, and the graph refuses the package.
-/

open DecimalFloat CalendarDate TopologicalSort Outcome

namespace RateGuard

/-- What a modifier, a constraint or a fee adjusts: its identifier and its declared target. -/
def adjustments (package : PackageContent) : List (String × String) :=
  package.modifiers.map (fun modifier => (modifier.id, modifier.appliesTo)) ++
    package.constraints.map (fun constraint => (constraint.id, constraint.appliesTo)) ++
    package.fees.map fun fee => (fee.id, fee.appliesTo)

/-- The target of an adjustment precedes it in the graph. -/
theorem adjustment_edge {package : PackageContent} {id target : String}
    (adjusts : (id, target) ∈ adjustments package) : (target, id) ∈ dependencyEdges package := by
  unfold adjustments at adjusts
  unfold dependencyEdges
  simp only [List.mem_append, List.mem_map, Prod.mk.injEq] at adjusts ⊢
  rcases adjusts with (⟨modifier, member, rfl, rfl⟩ | ⟨constraint, member, rfl, rfl⟩) |
    ⟨fee, member, rfl, rfl⟩
  · exact .inl (.inl (.inl (.inl (.inr ⟨modifier, member, rfl, rfl⟩))))
  · exact .inl (.inl (.inl (.inr ⟨constraint, member, rfl, rfl⟩)))
  · exact .inl (.inl (.inr ⟨fee, member, rfl, rfl⟩))

/-- What a calculation declares precedes it in the graph. -/
theorem dependsOn_edge {package : PackageContent} {node : CalculationNode}
    (member : node ∈ package.calculations) {ref : String} (depends : ref ∈ node.dependsOn) :
    (ref, node.id) ∈ dependencyEdges package := by
  unfold dependencyEdges
  simp only [List.mem_append, List.mem_flatMap, List.mem_map, Prod.mk.injEq]
  exact .inl (.inl (.inl (.inl (.inl (.inr ⟨node, member, ref, depends, rfl, rfl⟩)))))

/-- Calculations of a priced package do not depend on each other in a circle. -/
theorem calculationEdges_acyclic {sorter : Sorter String} {package : PackageContent}
    {risk : RiskInput} {date : Date} {transaction : TransactionType} {strict : Bool}
    {result : OracleResult}
    (priced : evaluatePackage sorter package risk date transaction strict = .ok result) :
    Acyclic (calculationEdges package.calculations) := by
  obtain ⟨_, _, priced⟩ := bind_eq_ok priced
  obtain ⟨prepared, _, priced⟩ := bind_eq_ok priced
  obtain ⟨calculated, calculates, _⟩ := bind_eq_ok priced
  obtain ⟨nodes, sorted, _⟩ := bind_eq_ok calculates
  obtain ⟨ids, found, _⟩ := sorted_order sorted
  exact (sorter.acyclic calculationEdges_inside).mp (by rw [found]; rfl)

/-- The graph of a priced package builds exactly when its declared links lead in no circle. Those
between its calculations never do, and the link from a calculation to an adjustment that it declares
always does. -/
theorem checkDependencies_priced (sorter : Sorter String) (package : IPIRPackage)
    (risk : RiskInput) (date : Date) (transaction : TransactionType) (strict : Bool)
    (result : OracleResult)
    (priced : evaluatePackage sorter package.toPackageContent risk date transaction strict =
      .ok result) :
    (checkDependencies sorter package.toPackageContent = .ok () ↔
      Acyclic (dependencyEdges package.toPackageContent)) ∧
    Acyclic (calculationEdges package.calculations) ∧
    ∀ node ∈ package.calculations, ∀ id ∈ node.dependsOn,
      (id, node.id) ∈ adjustments package.toPackageContent →
      checkDependencies sorter package.toPackageContent = .error .cyclicDependencies := by
  refine ⟨checkDependencies_iff sorter package.toPackageContent, calculationEdges_acyclic priced, ?_⟩
  intro node member id depends adjusts
  have circular : ¬Acyclic (dependencyEdges package.toPackageContent) := by
    rintro ⟨rank, rises⟩
    have forth := rises _ (dependsOn_edge member depends)
    have back := rises _ (adjustment_edge adjusts)
    exact Nat.lt_irrefl _ (forth.trans back)
  rw [← checkDependencies_iff sorter] at circular
  unfold checkDependencies at circular ⊢
  split
  · next order found =>
    rw [found] at circular
    exact absurd rfl circular
  · rfl

/-- The flat package with a discount of ten percent, which names a target. -/
def aimedContent (target : String) : PackageContent :=
  { flatContent ⟨false, 10000, -2⟩ (.reference "base_rate") with
    calculations := [⟨"total", .reference "base_rate", ["base_rate", "discount"], none, none, none⟩]
    modifiers := [⟨"discount", .percentageDiscount, target, .amount ⟨false, 1, -1⟩, none, none,
      none⟩] }

/-- The discount of the base rate. -/
def aimedPackage : IPIRPackage where
  toPackageContent := aimedContent "base_rate"
  valid := by decide

/-- The discount of the calculation that declares it. -/
def circularPackage : IPIRPackage where
  toPackageContent := aimedContent "total"
  valid := by decide

/-- The graph of a package with a discount of its base rate builds. -/
theorem checkDependencies_aimed :
    (checkDependencies (byGenerations String) aimedPackage.toPackageContent = .ok () ↔
      Acyclic (dependencyEdges aimedPackage.toPackageContent)) ∧
    Acyclic (calculationEdges aimedPackage.calculations) ∧
    ∀ node ∈ aimedPackage.calculations, ∀ id ∈ node.dependsOn,
      (id, node.id) ∈ adjustments aimedPackage.toPackageContent →
      checkDependencies (byGenerations String) aimedPackage.toPackageContent =
        .error .cyclicDependencies := by
  have priced : (evaluatePackage (byGenerations String) aimedPackage.toPackageContent
      ⟨[], by decide⟩ sampleDay .newBusiness true).isOk = true := by decide +kernel
  obtain ⟨result, evaluated⟩ := exists_of_isOk priced
  exact checkDependencies_priced (byGenerations String) aimedPackage ⟨[], by decide⟩ sampleDay
    .newBusiness true result evaluated

/-- Not every priced package has a graph: a discount of the calculation that declares it is priced,
and refused. -/
theorem checkDependencies_refuses :
    ¬∀ (sorter : Sorter String) (package : IPIRPackage) (risk : RiskInput) (date : Date)
      (transaction : TransactionType) (strict : Bool) (result : OracleResult),
      evaluatePackage sorter package.toPackageContent risk date transaction strict = .ok result →
      checkDependencies sorter package.toPackageContent = .ok () := by
  intro always
  have priced : (evaluatePackage (byGenerations String) circularPackage.toPackageContent
      ⟨[], by decide⟩ sampleDay .newBusiness true).isOk = true := by decide +kernel
  obtain ⟨result, evaluated⟩ := exists_of_isOk priced
  have built := always (byGenerations String) circularPackage _ _ _ _ result evaluated
  have refused : (checkDependencies (byGenerations String)
      circularPackage.toPackageContent).isOk = false := by decide +kernel
  rw [built] at refused
  cases refused

end RateGuard
