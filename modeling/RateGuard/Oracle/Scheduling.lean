import RateGuard.Foundation.KeyedList
import RateGuard.Foundation.Outcome
import RateGuard.Oracle.Evaluator

/-!
# Runs of the calculations

The sorted calculations are the package's own, each once, and none comes before one it
depends on. A calculation that runs goes through its phases one after another.
-/

open CalendarDate DecimalFloat TopologicalSort KeyedList Outcome

namespace RateGuard

/-- Distinct identifiers within every kind of node. -/
structure SectionsDistinct (package : PackageContent) : Prop where
  /-- Inputs. -/
  inputs : (package.inputs.map (·.id)).Nodup
  /-- Constants. -/
  constants : (package.constants.map (·.id)).Nodup
  /-- Tables. -/
  tables : (package.tables.map (·.id)).Nodup
  /-- Rules. -/
  rules : (package.rules.map (·.id)).Nodup
  /-- Calculations. -/
  calculations : (package.calculations.map (·.id)).Nodup
  /-- Modifiers. -/
  modifiers : (package.modifiers.map (·.id)).Nodup
  /-- Constraints. -/
  constraints : (package.constraints.map (·.id)).Nodup
  /-- Fees. -/
  fees : (package.fees.map (·.id)).Nodup

/-- Valid packages have distinct identifiers within every kind of node. -/
theorem PackageContent.Valid.sections_distinct {package : PackageContent}
    (valid : package.Valid) : SectionsDistinct package := by
  have distinct := valid.ids_distinct
  simp only [PackageContent.nodeIds, List.append_assoc] at distinct
  obtain ⟨inputs, others, -⟩ := List.nodup_append.mp distinct
  obtain ⟨constants, others, -⟩ := List.nodup_append.mp others
  obtain ⟨tables, others, -⟩ := List.nodup_append.mp others
  obtain ⟨rules, others, -⟩ := List.nodup_append.mp others
  obtain ⟨calculations, others, -⟩ := List.nodup_append.mp others
  obtain ⟨modifiers, others, -⟩ := List.nodup_append.mp others
  obtain ⟨constraints, others, -⟩ := List.nodup_append.mp others
  obtain ⟨fees, -, -⟩ := List.nodup_append.mp others
  exact ⟨inputs, constants, tables, rules, calculations, modifiers, constraints, fees⟩

/-- Edges between calculations along their declared dependencies. -/
def calculationEdges (nodes : List CalculationNode) : List (String × String) :=
  nodes.flatMap fun node =>
    (node.dependsOn.filter (nodes.map (·.id)).contains).map fun dependency => (dependency, node.id)

/-- A sorted list is the nodes in an order of their identifiers. -/
theorem sorted_order {sorter : Sorter String} {nodes order : List CalculationNode}
    (sorted : topologicalSortCalculations sorter nodes = .ok order) :
    ∃ ids, sorter.sort (nodes.map (·.id)) (calculationEdges nodes) = some ids ∧
      order = inKeyOrder (·.id) nodes ids := by
  simp only [topologicalSortCalculations] at sorted
  split at sorted
  · rename_i ids found
    exact ⟨ids, found, (Except.ok.inj sorted).symm⟩
  · cases sorted

/-- The sorted nodes are the nodes of the package, each once. -/
theorem sorted_perm {sorter : Sorter String} {nodes order : List CalculationNode}
    (distinct : (nodes.map (·.id)).Nodup)
    (sorted : topologicalSortCalculations sorter nodes = .ok order) : order.Perm nodes := by
  obtain ⟨ids, found, rfl⟩ := sorted_order sorted
  exact inKeyOrder_perm distinct (sorter.perm _ _ _ found)

/-- A calculation depends on calculations by edges. -/
theorem mem_calculationEdges {nodes : List CalculationNode} {earlier : String}
    {node : CalculationNode} (member : node ∈ nodes) (depends : earlier ∈ node.dependsOn)
    (calculated : earlier ∈ nodes.map (·.id)) : (earlier, node.id) ∈ calculationEdges nodes := by
  refine List.mem_flatMap.mpr ⟨node, member, List.mem_map.mpr ⟨earlier, ?_, rfl⟩⟩
  exact List.mem_filter.mpr ⟨depends, List.contains_iff_mem.mpr calculated⟩

/-- Edges join calculations. -/
theorem calculationEdges_inside {nodes : List CalculationNode} :
    ∀ edge ∈ calculationEdges nodes,
      edge.1 ∈ nodes.map (·.id) ∧ edge.2 ∈ nodes.map (·.id) := by
  intro edge member
  obtain ⟨node, listed, found⟩ := List.mem_flatMap.mp member
  obtain ⟨dependency, filtered, rfl⟩ := List.mem_map.mp found
  exact ⟨List.contains_iff_mem.mp (List.mem_filter.mp filtered).2, List.mem_map_of_mem listed⟩

/-- Sorted calculations depend on no later one and not on themselves. -/
theorem sorted_forward {sorter : Sorter String} {nodes order : List CalculationNode}
    (distinct : (nodes.map (·.id)).Nodup)
    (sorted : topologicalSortCalculations sorter nodes = .ok order) :
    order.Pairwise (fun earlier later => later.id ∉ earlier.dependsOn) ∧
      ∀ node ∈ order, node.id ∉ node.dependsOn := by
  have same := sorted_perm distinct sorted
  obtain ⟨ids, found, rfl⟩ := sorted_order sorted
  have respects := sorter.respects _ _ _ calculationEdges_inside found
  have keys : (inKeyOrder (·.id) nodes ids).map (·.id) = ids :=
    inKeyOrder_keys _ _ _ fun id member => (sorter.perm _ _ _ found).mem_iff.mp member
  constructor
  · have forward := respects.forward
    rw [← keys, List.pairwise_map] at forward
    refine forward.imp_of_mem fun {earlier later} one two apart depends => apart ?_
    exact mem_calculationEdges (same.mem_iff.mp one) depends
      (List.mem_map_of_mem (same.mem_iff.mp two))
  · intro node member depends
    have inside := same.mem_iff.mp member
    refine respects.irreflexive node.id ?_
      (mem_calculationEdges inside depends (List.mem_map_of_mem inside))
    exact (sorter.perm _ _ _ found).mem_iff.mpr (List.mem_map_of_mem inside)

/-- Phases of an active calculation that ran. -/
structure Ran (rules : List RoundingRule) (active : ActiveNodes) (running after : Running)
    (node : CalculationNode) where
  /-- Base value. -/
  base : Decimal
  /-- State and value after the modifiers. -/
  modified : Evaluation × Decimal
  /-- State and value after the constraints. -/
  constrained : Evaluation × Decimal
  /-- State and value after the fees. -/
  charged : Evaluation × Decimal
  /-- State after recording the value. -/
  recorded : Evaluation
  /-- The base value is the rounded expression. -/
  based : baseValue rules running.state.context node = .ok base
  /-- Modifiers come first. -/
  modifies : (declared (·.id) node running.modifiers active.modifiers).foldlM applyModifier
    (running.state, base) = .ok modified
  /-- Constraints follow. -/
  constrains : (declared (·.id) node running.constraints active.constraints).foldlM
    applyConstraint modified = .ok constrained
  /-- Fees come last. -/
  charges : (declared (·.id) node running.fees active.fees).foldlM (applyFee node.expression)
    constrained = .ok charged
  /-- The value is assigned and recorded. -/
  records : (charged.1.set node.id (.decimal charged.2)).addStep
    ⟨node.id, .calculation, .evaluateCalculation, .decimal charged.2⟩ = .ok recorded
  /-- The nodes it declared count as applied. -/
  applied : after = ⟨recorded,
    running.modifiers ++ (declared (·.id) node running.modifiers active.modifiers).map (·.id),
    running.constraints ++
      (declared (·.id) node running.constraints active.constraints).map (·.id),
    running.fees ++ (declared (·.id) node running.fees active.fees).map (·.id)⟩

/-- An active calculation runs through its phases. -/
theorem runCalculation_active {rules : List RoundingRule} {active : ActiveNodes} {date : Date}
    {running after : Running} {node : CalculationNode}
    (applies : isActive node.effectivePeriod date = true)
    (ran : runCalculation rules active date running node = .ok after) :
    Nonempty (Ran rules active running after node) := by
  unfold runCalculation at ran
  rw [if_pos applies] at ran
  obtain ⟨base, based, ran⟩ := bind_eq_ok ran
  obtain ⟨modified, modifies, ran⟩ := bind_eq_ok ran
  obtain ⟨constrained, constrains, ran⟩ := bind_eq_ok ran
  obtain ⟨charged, charges, ran⟩ := bind_eq_ok ran
  obtain ⟨recorded, records, ran⟩ := bind_eq_ok ran
  exact ⟨base, modified, constrained, charged, recorded, based, modifies, constrains, charges,
    records, (Except.ok.inj ran).symm⟩

/-- An inactive calculation changes nothing. -/
theorem runCalculation_inactive {rules : List RoundingRule} {active : ActiveNodes} {date : Date}
    {running : Running} {node : CalculationNode}
    (inactive : isActive node.effectivePeriod date = false) :
    runCalculation rules active date running node = .ok running := by
  unfold runCalculation
  rw [if_neg (by rw [inactive]; exact Bool.false_ne_true)]
  rfl

end RateGuard
