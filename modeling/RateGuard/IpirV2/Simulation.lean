import RateGuard.Foundation.KeyedList
import RateGuard.IpirV2.Phases

/-!
# Meaning of a lowered package

A lowered package prices a risk exactly as the 0.2 package does, whenever the eager phases
of the 0.1 evaluator go through: every active table has a factor, every conditional has a
value before the calculations, and the declared order puts each calculation after those it
strictly refers to.
-/

open DecimalFloat CalendarDate TopologicalSort

namespace RateGuard

/-- Edges between calculations from declared dependencies only. -/
def PackageV2.declaredEdges (package : PackageV2) : List (String × String) :=
  package.calculations.flatMap fun node =>
    (node.dependsOn.filter (package.calculations.map (·.id)).contains).map
      fun dependency => (dependency, node.id)

/-- Calculations in the order the 0.1 evaluator runs them. -/
def PackageV2.declaredOrder (package : PackageV2) (sorter : Sorter String) :
    Option (List CalculationNodeV2) :=
  (sorter.sort (package.calculations.map (·.id)) package.declaredEdges).map
    (inOrder package.calculations)

/-- Whether the eager phases go through from what is known of a risk. -/
structure Eager (sorter : Sorter String) (package : PackageV2) (date : Date) (known : Known) :
    Prop where
  /-- Every active table has a factor. -/
  tables : known.failed = []
  /-- Every conditional has a recordable value before the calculations. -/
  conditionals : ∀ node ∈ package.calculations, ∀ conditional ∈ node.expression.conditionals,
    ∃ value, evaluateDirect known.context conditional = .ok value ∧ value.recordable = true
  /-- The declared order puts active calculations after those they strictly refer to. -/
  ordered : ∀ nodes, package.declaredOrder sorter = some nodes →
    Follows (·.expression.strictRefs) date nodes

/-- Ordered calculations have the order's identifiers. -/
theorem inOrder_ids (nodes : List CalculationNodeV2) (order : List String)
    (named : ∀ id ∈ order, id ∈ nodes.map (·.id)) : (inOrder nodes order).map (·.id) = order :=
  KeyedList.inKeyOrder_keys CalculationNodeV2.id nodes order named

/-- Ordered calculations are among the calculations. -/
theorem inOrder_subset (nodes : List CalculationNodeV2) (order : List String) :
    inOrder nodes order ⊆ nodes := KeyedList.inKeyOrder_subset CalculationNodeV2.id nodes order

/-- Calculations in an order of their identifiers are the same calculations. -/
theorem inOrder_perm {nodes : List CalculationNodeV2} {order : List String}
    (distinct : (nodes.map (·.id)).Nodup) (perm : order.Perm (nodes.map (·.id))) :
    (inOrder nodes order).Perm nodes := KeyedList.inKeyOrder_perm distinct perm

/-- Identifiers of calculations are distinct. -/
theorem PackageV2.Valid.calculations_distinct {package : PackageV2} (valid : package.Valid) :
    (package.calculations.map (·.id)).Nodup := by
  have distinct := valid.ids_distinct
  unfold PackageV2.nodeIds at distinct
  exact (List.nodup_append.mp (List.nodup_append.mp distinct).1).2.1

/-- No calculation has the identifier of an input, a constant or a table. -/
theorem PackageV2.Valid.calculations_apart {package : PackageV2} (valid : package.Valid)
    {node : CalculationNodeV2} (member : node ∈ package.calculations) :
    node.id ∉ package.inputs.map (·.id) ++ package.constants.map (·.id) ++
      package.tables.map (·.id) := by
  have distinct := valid.ids_distinct
  unfold PackageV2.nodeIds at distinct
  have apart := (List.nodup_append.mp (List.nodup_append.mp distinct).1).2.2
  exact fun earlier => apart node.id earlier node.id (List.mem_map_of_mem member) rfl

/-- A reference to a calculation is a reference by node. -/
theorem PackageV2.Valid.calculation_ref {package : PackageV2} (valid : package.Valid)
    {node : CalculationNodeV2} (member : node ∈ package.calculations) {ref : ExpressionRef}
    (referred : ref ∈ node.expression.refs) {target : CalculationNodeV2}
    (calculated : target ∈ package.calculations) (same : ref.id = target.id) :
    ref = .node target.id := by
  cases ref with
  | node id => exact congrArg ExpressionRef.node same
  | table id =>
    have resolved : id ∈ package.tables.map (·.id) :=
      valid.refs_resolve node member _ referred
    have apart := valid.calculations_apart calculated
    rw [← show id = target.id from same] at apart
    exact absurd (List.mem_append_right _ resolved) apart

/-- A reference to a calculation is an edge of the expressions. -/
theorem PackageV2.Valid.expression_edge {package : PackageV2} (valid : package.Valid)
    {node : CalculationNodeV2} (member : node ∈ package.calculations) {ref : ExpressionRef}
    (referred : ref ∈ node.expression.refs) {target : CalculationNodeV2}
    (calculated : target ∈ package.calculations) (same : ref.id = target.id) :
    (target.id, node.id) ∈ package.expressionEdges := by
  have named := valid.calculation_ref member referred calculated same
  subst named
  have noted : target.id ∈ node.expression.nodeRefs :=
    List.mem_filterMap.mpr ⟨_, referred, rfl⟩
  have inside : (package.calculations.map (·.id)).contains target.id = true :=
    List.contains_iff_mem.mpr (List.mem_map_of_mem calculated)
  exact List.mem_flatMap.mpr ⟨node, member,
    List.mem_map.mpr ⟨target.id, List.mem_filter.mpr ⟨noted, inside⟩, rfl⟩⟩

/-- Edges of the expressions are discovered dependencies. -/
theorem PackageV2.expressionEdges_subset (package : PackageV2) :
    package.expressionEdges ⊆ package.derivedEdges := by
  intro edge member
  obtain ⟨node, belongs, member⟩ := List.mem_flatMap.mp member
  obtain ⟨dependency, noted, rfl⟩ := List.mem_map.mp member
  obtain ⟨referred, inside⟩ := List.mem_filter.mp noted
  exact List.mem_flatMap.mpr ⟨node, belongs, List.mem_map.mpr
    ⟨dependency, List.mem_filter.mpr ⟨List.mem_append_right _ referred, inside⟩, rfl⟩⟩

/-- Declared edges are dependencies. -/
theorem PackageV2.declaredEdges_subset (package : PackageV2) :
    package.declaredEdges ⊆ package.derivedEdges := by
  intro edge member
  obtain ⟨node, belongs, member⟩ := List.mem_flatMap.mp member
  obtain ⟨dependency, noted, rfl⟩ := List.mem_map.mp member
  obtain ⟨referred, inside⟩ := List.mem_filter.mp noted
  exact List.mem_flatMap.mpr ⟨node, belongs, List.mem_map.mpr
    ⟨dependency, List.mem_filter.mpr ⟨List.mem_append_left _ referred, inside⟩, rfl⟩⟩

/-- No calculation refers to itself. -/
theorem PackageV2.Valid.irreflexive {package : PackageV2} (valid : package.Valid)
    {node : CalculationNodeV2} (member : node ∈ package.calculations) {ref : ExpressionRef}
    (referred : ref ∈ node.expression.refs) : ref.id ≠ node.id := by
  intro same
  obtain ⟨rank, rises⟩ := valid.acyclic
  have edge := valid.expression_edge member referred member same
  exact Nat.lt_irrefl _ (rises _ (package.expressionEdges_subset edge))

/-- Edges of the expressions join calculations. -/
theorem PackageV2.expressionEdges_inside (package : PackageV2) :
    ∀ edge ∈ package.expressionEdges, edge.1 ∈ package.calculations.map (·.id) ∧
      edge.2 ∈ package.calculations.map (·.id) := by
  intro edge member
  obtain ⟨node, belongs, member⟩ := List.mem_flatMap.mp member
  obtain ⟨dependency, noted, rfl⟩ := List.mem_map.mp member
  exact ⟨List.contains_iff_mem.mp (List.mem_filter.mp noted).2, List.mem_map_of_mem belongs⟩

/-- The direct evaluation has an order, in which no calculation refers to a later one. -/
theorem PackageV2.Valid.direct_order {package : PackageV2} (valid : package.Valid)
    (sorter : Sorter String) (date : Date) :
    ∃ nodes : List CalculationNodeV2, nodes.Perm package.calculations ∧
      Follows (·.expression.refs) date nodes ∧
      ∀ context, calculateDirect sorter package date context =
        nodes.foldlM (addCalculation date) context := by
  obtain ⟨rank, rises⟩ := valid.acyclic
  have acyclic : Acyclic package.expressionEdges :=
    ⟨rank, fun edge member => rises edge (package.expressionEdges_subset member)⟩
  obtain ⟨order, sorted⟩ := Option.isSome_iff_exists.mp
    (sorter.total (package.calculations.map (·.id)) package.expressionEdges acyclic)
  have perm := sorter.perm _ _ _ sorted
  have forward := (sorter.respects _ _ _ package.expressionEdges_inside sorted).forward
  rw [← inOrder_ids package.calculations order fun id member => perm.mem_iff.mp member,
    List.pairwise_map] at forward
  refine ⟨inOrder package.calculations order, inOrder_perm valid.calculations_distinct perm,
    ?_, fun context => ?_⟩
  · refine forward.imp_of_mem fun {earlier later} first second unlinked _ ref referred same => ?_
    exact unlinked (valid.expression_edge (inOrder_subset _ _ first) referred
      (inOrder_subset _ _ second) same)
  · unfold calculateDirect
    rw [sorted]

/-- The declared order is an order of the calculations. -/
theorem PackageV2.Valid.declared_order {package : PackageV2} (valid : package.Valid)
    (sorter : Sorter String) :
    ∃ nodes : List CalculationNodeV2, nodes.Perm package.calculations ∧
      package.declaredOrder sorter = some nodes := by
  obtain ⟨rank, rises⟩ := valid.acyclic
  have acyclic : Acyclic package.declaredEdges :=
    ⟨rank, fun edge member => rises edge (package.declaredEdges_subset member)⟩
  obtain ⟨order, sorted⟩ := Option.isSome_iff_exists.mp
    (sorter.total (package.calculations.map (·.id)) package.declaredEdges acyclic)
  refine ⟨inOrder package.calculations order,
    inOrder_perm valid.calculations_distinct (sorter.perm _ _ _ sorted), ?_⟩
  unfold PackageV2.declaredOrder
  rw [sorted]
  rfl

/-- Runs along an order that follows all references and along another one end alike, provided
conditionals have values and the other order follows the strict references. -/
theorem run_iff_run {package : PackageV2} (valid : package.Valid) {date : Date}
    {direct declared : List CalculationNodeV2} (directPerm : direct.Perm package.calculations)
    (directFollows : Follows (·.expression.refs) date direct)
    (declaredPerm : declared.Perm package.calculations) {start solution : Context}
    (unknown : ∀ node ∈ package.calculations, start node.id = none)
    (conditionals : ∀ node ∈ package.calculations, ∀ conditional ∈ node.expression.conditionals,
      ∃ value, evaluateDirect start conditional = .ok value) :
    declared.foldlM (addCalculation date) start = .ok solution ↔
      direct.foldlM (addCalculation date) start = .ok solution ∧
        Follows (·.expression.strictRefs) date declared := by
  have distinct : ∀ {nodes : List CalculationNodeV2}, nodes.Perm package.calculations →
      (nodes.map (·.id)).Nodup := fun perm =>
    (perm.map _).nodup_iff.mpr valid.calculations_distinct
  have inside : ∀ {nodes : List CalculationNodeV2}, nodes.Perm package.calculations →
      ∀ node ∈ nodes, node ∈ package.calculations := fun perm node member =>
    perm.mem_iff.mp member
  constructor
  · intro ran
    obtain ⟨solves, follows⟩ := run_solves (distinct declaredPerm)
      (fun node member => unknown node (inside declaredPerm node member)) ran
    refine ⟨run_of_solution (distinct directPerm)
      (solves.perm (declaredPerm.trans directPerm.symm))
      (fun node member => unknown node (inside directPerm node member))
      (fun node member ref referred => valid.irreflexive (inside directPerm node member) referred)
      directFollows ?_, follows⟩
    exact fun node member context _ carries value => calculationValue_carried carries
  · rintro ⟨ran, follows⟩
    obtain ⟨solves, _⟩ := run_solves (distinct directPerm)
      (fun node member => unknown node (inside directPerm node member)) ran
    refine run_of_solution (distinct declaredPerm)
      (solves.perm (directPerm.trans declaredPerm.symm))
      (fun node member => unknown node (inside declaredPerm node member))
      (fun node member ref referred => valid.irreflexive (inside declaredPerm node member)
        (node.expression.strictRefs_subset referred)) follows ?_
    intro node member context further carries value valued
    refine calculationValue_kept carries (fun conditional within found evaluated => ?_) valued
    obtain ⟨early, known⟩ := conditionals node (inside declaredPerm node member) conditional within
    have later := evaluateDirect_carried conditional (solves.extends_start.carries _) known
    rw [evaluated] at later
    rw [Except.ok.inj later]
    exact evaluateDirect_carried conditional (further.carries _) known

/-- Whether every entry of a context is recordable. -/
def Recordable (context : Context) : Prop :=
  ∀ id value, context id = some value → value.recordable = true

/-- Assigning a recordable value keeps all entries recordable. -/
theorem Recordable.set {context : Context} {id : String} {value : Value}
    (entries : Recordable context) (recordable : value.recordable = true) :
    Recordable (context.set id value) := by
  intro other found entry
  by_cases same : other = id
  · subst same
    rw [context.set_same] at entry
    exact Option.some.inj entry ▸ recordable
  · rw [context.set_other _ same] at entry
    exact entries other found entry

/-- Resolved rules keep all entries recordable. -/
theorem resolveRules_recordable {date : Date} {rules : List PricingRule} {state after : Evaluation}
    (entries : Recordable state.context)
    (resolved : rules.foldlM (resolveRule date) state = .ok after) : Recordable after.context := by
  refine Outcome.foldlM_keeps (fun state => Recordable state.context) ?_ entries resolved
  intro state rule after _ entries recorded
  unfold resolveRule at recorded
  split at recorded
  · obtain ⟨holds, _, recorded⟩ := Outcome.bind_eq_ok recorded
    obtain ⟨value, _, recorded⟩ := Outcome.bind_eq_ok recorded
    obtain ⟨same, recordable⟩ := addStep_eq_ok recorded
    rw [same]
    exact entries.set recordable
  · cases recorded
    exact entries

/-- Calculations keep all entries recordable. -/
theorem run_recordable {date : Date} {nodes : List CalculationNodeV2} {start solution : Context}
    (entries : Recordable start)
    (ran : nodes.foldlM (addCalculation date) start = .ok solution) : Recordable solution := by
  refine Outcome.foldlM_keeps Recordable ?_ entries ran
  intro context node after _ entries added
  rcases addCalculation_cases added with ⟨_, rfl⟩ | ⟨_, value, _, recordable, rfl⟩
  · exact entries
  · exact entries.set recordable

/-- A lowered calculation runs as its calculation. -/
theorem runCalculation_agrees {syntheses : List Synthesis} {start : Context}
    (reflected : ∀ context, Extends start context → AllReflected syntheses context) {date : Date}
    {lowered : CalculationNode} {node : CalculationNodeV2}
    (related : LoweredNode syntheses lowered node) (unknown : start node.id = none)
    {running : Running} (extended : Extends start running.state.context) :
    Outcome.Agree
      (fun (running : Running) context => running.state.context = context ∧ Extends start context)
      (runCalculation [] ⟨[], [], []⟩ date running lowered)
      (addCalculation date running.state.context node) := by
  unfold runCalculation addCalculation
  rw [related.effectivePeriod,
    related.value running.state.context (reflected running.state.context extended), related.id]
  cases isActive node.effectivePeriod date with
  | false => exact .success ⟨rfl, extended⟩
  | true =>
    rw [if_pos rfl, if_pos rfl]
    cases calculationValue running.state.context node with
    | error failed => exact .failure _ _
    | ok value =>
      change Outcome.Agree _ ((running.state.set node.id (.decimal value)).addStep
          ⟨node.id, .calculation, .evaluateCalculation, .decimal value⟩ >>= fun recorded =>
            (.ok ⟨recorded, running.modifiers ++ [], running.constraints ++ [],
              running.fees ++ []⟩ : Except Failure Running))
        (if (Value.decimal value).recordable = true then
          .ok (running.state.context.set node.id (.decimal value))
          else .error (Failure.schema node.id))
      unfold Evaluation.addStep
      by_cases recordable : (Value.decimal value).recordable = true
      · rw [if_pos recordable, if_pos recordable]
        refine .success ⟨rfl, ?_⟩
        intro id found entry
        have different : id ≠ node.id := by
          rintro rfl
          rw [unknown] at entry
          cases entry
        rw [Context.set_other _ _ different]
        exact extended id found entry
      · rw [if_neg recordable, if_neg recordable]
        exact .failure _ _

/-- Lowered calculations are found where their calculations are. -/
theorem find_lowered {syntheses : List Synthesis} {lowered : List CalculationNode}
    {nodes : List CalculationNodeV2}
    (related : List.Forall₂ (LoweredNode syntheses) lowered nodes) (order : List String) :
    List.Forall₂ (fun left right => LoweredNode syntheses left right ∧ right ∈ nodes)
      (order.filterMap fun id => lowered.find? (·.id == id)) (inOrder nodes order) := by
  have found : ∀ id, (lowered.find? (·.id == id) = none ∧ nodes.find? (·.id == id) = none) ∨
      ∃ left right, lowered.find? (·.id == id) = some left ∧
        nodes.find? (·.id == id) = some right ∧ LoweredNode syntheses left right := by
    intro id
    induction related with
    | nil => exact .inl ⟨rfl, rfl⟩
    | @cons left right _ _ head _ ih =>
      rw [List.find?_cons, List.find?_cons, head.id]
      cases right.id == id with
      | true => exact .inr ⟨left, right, rfl, rfl, head⟩
      | false => exact ih
  unfold inOrder
  induction order with
  | nil => exact .nil
  | cons id rest ih =>
    rcases found id with ⟨left, right⟩ | ⟨left, right, leftFound, rightFound, head⟩
    · rw [List.filterMap_cons, List.filterMap_cons, left, right]
      exact ih
    · rw [List.filterMap_cons, List.filterMap_cons, leftFound, rightFound]
      exact .cons ⟨head, List.mem_of_find?_eq_some rightFound⟩ ih

/-- Lowered calculations have the same identifiers and declared edges. -/
theorem lowered_graph {syntheses : List Synthesis} {lowered : List CalculationNode}
    {nodes : List CalculationNodeV2}
    (related : List.Forall₂ (LoweredNode syntheses) lowered nodes) (ids : List String) :
    lowered.map (·.id) = nodes.map (·.id) ∧
      (lowered.flatMap fun node =>
        (node.dependsOn.filter ids.contains).map fun dependency => (dependency, node.id)) =
      nodes.flatMap fun node =>
        (node.dependsOn.filter ids.contains).map fun dependency => (dependency, node.id) := by
  induction related with
  | nil => exact ⟨rfl, rfl⟩
  | cons head _ ih =>
    rw [List.map_cons, List.map_cons, List.flatMap_cons, List.flatMap_cons, head.id,
      head.dependsOn, ih.1, ih.2]
    exact ⟨rfl, rfl⟩

/-- The 0.1 evaluator runs lowered calculations in the declared order of the package. -/
theorem calculate_agrees {package : PackageV2} {syntheses : List Synthesis}
    {lowered : List CalculationNode} (rules : List PricingRule)
    (related : List.Forall₂ (LoweredNode syntheses) lowered package.calculations)
    {sorter : Sorter String} {nodes : List CalculationNodeV2}
    (ordered : package.declaredOrder sorter = some nodes) {state : Evaluation}
    (unknown : ∀ node ∈ package.calculations, state.context node.id = none)
    (reflected : ∀ context, Extends state.context context → AllReflected syntheses context)
    (date : Date) :
    Outcome.Agree (fun (after : Evaluation) context => after.context = context)
      (calculate sorter (loweredContent package lowered rules) date state)
      (nodes.foldlM (addCalculation date) state.context) := by
  obtain ⟨order, sorted, rfl⟩ := Option.map_eq_some_iff.mp ordered
  obtain ⟨ids, edges⟩ := lowered_graph related (package.calculations.map (·.id))
  have sorts : topologicalSortCalculations sorter lowered =
      .ok (order.filterMap fun id => lowered.find? (·.id == id)) := by
    unfold topologicalSortCalculations
    dsimp only
    unfold PackageV2.declaredEdges at sorted
    rw [ids, edges, sorted]
  have runs : Outcome.Agree (fun (running : Running) context =>
        running.state.context = context ∧ Extends state.context context)
      ((order.filterMap fun id => lowered.find? (·.id == id)).foldlM
        (runCalculation [] ⟨[], [], []⟩ date) ⟨state, [], [], []⟩)
      ((inOrder package.calculations order).foldlM (addCalculation date) state.context) := by
    refine Outcome.Agree.foldlM (find_lowered related order) ?_ ⟨rfl, .refl _⟩
    rintro running _ lowered node ⟨found, member⟩ ⟨rfl, extended⟩
    exact runCalculation_agrees reflected found (unknown node member) extended
  have whole : calculate sorter (loweredContent package lowered rules) date state =
      (fun running : Running => running.state) <$> (order.filterMap fun id =>
        lowered.find? (·.id == id)).foldlM (runCalculation [] ⟨[], [], []⟩ date)
          ⟨state, [], [], []⟩ := by
    unfold calculate
    rw [show topologicalSortCalculations sorter (loweredContent package lowered rules).calculations =
      _ from sorts]
    rfl
  rw [whole, ← id_map ((inOrder package.calculations order).foldlM _ state.context)]
  exact runs.map fun running context held => held.1

/-- The output of a lowered package is its output by its own meaning. -/
theorem premium_finish (package : PackageV2) (lowered : List CalculationNode)
    (rules : List PricingRule) {state : Evaluation} (entries : Recordable state.context)
    (date : Date) (transaction : TransactionType) :
    premium (finish (loweredContent package lowered rules) date transaction state) =
      (directOutput package state.context).toOption := by
  have every : ∀ ids : List String, (ids.find? fun id =>
      (state.context id).any fun value => !value.recordable) = none := by
    intro ids
    refine List.find?_eq_none.mpr fun id _ => ?_
    cases entry : state.context id with
    | none => exact Bool.false_ne_true
    | some value =>
      rw [Option.any_some, entries id value entry]
      exact Bool.false_ne_true
  unfold finish directOutput
  cases outputs : package.outputs with
  | nil =>
    rw [show (loweredContent package lowered rules).outputs = [] by
      rw [loweredContent, outputs, List.map_nil]]
    rfl
  | cons output rest =>
    rw [show (loweredContent package lowered rules).outputs =
      ⟨output.id, output.sourceRef, some output.currency⟩ :: rest.map fun output =>
        ⟨output.id, output.sourceRef, some output.currency⟩ by
      rw [loweredContent, outputs, List.map_cons]]
    dsimp only
    cases entry : state.context output.sourceRef with
    | none => rfl
    | some value =>
      dsimp only
      cases raising value.toDecimal with
      | error failed => rfl
      | ok number =>
        change premium (state.addStep ⟨output.id, .output, .finalOutput, .decimal number⟩ >>=
          fun final => _) = _
        unfold Evaluation.addStep
        by_cases recordable : (Value.decimal number).recordable = true
        · rw [if_pos recordable]
          have clean : unrecordable (loweredContent package lowered rules) state.context = none :=
            every _
          simp only [bind, Except.bind]
          rw [clean, if_pos recordable]
          rfl
        · rw [if_neg recordable]
          change none = (if _ then _ else _ : Except Failure Decimal).toOption
          rw [if_neg recordable]
          rfl

/-- A package and what its lowering consists of. -/
structure LoweredFrom (package : PackageV2) (content : PackageContent)
    (syntheses : List Synthesis) (calculations : List CalculationNode) : Prop where
  /-- The 0.1 content. -/
  content : content = loweredContent package calculations (syntheses.map (·.rule))
  /-- Synthesized rules evaluate as their conditionals. -/
  chain : Chain syntheses
  /-- The conditionals are those of all calculations. -/
  conditionals : syntheses.map (·.conditional) =
    package.calculations.flatMap (·.expression.conditionals)
  /-- Calculations are lowered one by one. -/
  nodes : List.Forall₂ (LoweredNode syntheses) calculations package.calculations
  /-- Rules are distinct. -/
  distinct : (syntheses.map (·.rule.id)).Nodup
  /-- No rule has the identifier of a node. -/
  apart : ∀ synthesis ∈ syntheses, synthesis.rule.id ∉ package.nodeIds

/-- The nodes of a lowered package are the synthesized rules and the nodes of its package. -/
theorem loweredContent_nodeIds {package : PackageV2} {calculations : List CalculationNode}
    (rules : List PricingRule)
    (ids : calculations.map (·.id) = package.calculations.map (·.id)) :
    (loweredContent package calculations rules).nodeIds.Perm
      (rules.map (·.id) ++ package.nodeIds) := by
  unfold PackageContent.nodeIds PackageV2.nodeIds loweredContent
  dsimp only
  rw [ids, List.map_map, List.map_nil, List.map_nil, List.map_nil, List.map_nil, List.append_nil,
    List.append_nil, List.append_nil, List.append_nil, ← List.append_assoc, ← List.append_assoc]
  exact (List.perm_append_comm.append_right _).append_right _

/-- A lowered package comes from its package. -/
theorem lowerToV01_from {package : PackageV2} {lowered : IPIRPackage}
    (lowers : lowerToV01 package = .ok lowered) :
    ∃ syntheses calculations,
      LoweredFrom package lowered.toPackageContent syntheses calculations := by
  obtain ⟨⟨calculations, context⟩, one, lowers⟩ := Outcome.bind_eq_ok lowers
  obtain ⟨syntheses, effect, conditionals, nodes⟩ := lowerCalculations_means one
  dsimp only at lowers
  split at lowers
  · next valid =>
    cases lowers
    have rules : context.synthesizedRules = syntheses.map (·.rule) := effect.rules
    have ids := (lowered_graph nodes []).1
    have distinct := valid.ids_distinct
    rw [(loweredContent_nodeIds context.synthesizedRules ids).nodup_iff, rules, List.map_map,
      List.nodup_append] at distinct
    refine ⟨syntheses, calculations, congrArg (loweredContent package calculations) rules,
      effect.chain, conditionals, nodes, distinct.1, ?_⟩
    exact fun synthesis member inside =>
      distinct.2.2 _ (List.mem_map.mpr ⟨synthesis, member, rfl⟩) _ inside rfl
  · cases lowers

/-- What an expression of a package refers to is a node. -/
theorem PackageV2.Valid.ref_node {package : PackageV2} (valid : package.Valid)
    {node : CalculationNodeV2} (member : node ∈ package.calculations) {ref : ExpressionRef}
    (referred : ref ∈ node.expression.refs) : ref.id ∈ package.nodeIds := by
  have resolved := valid.refs_resolve node member ref referred
  cases ref with
  | node id => exact resolved
  | table id =>
    unfold PackageV2.nodeIds
    exact List.mem_append_left _ (List.mem_append_left _ (List.mem_append_right _ resolved))

section Lowered

variable {package : PackageV2} {content : PackageContent} {syntheses : List Synthesis}
  {calculations : List CalculationNode}

/-- A conditional of a calculation has a rule. -/
theorem LoweredFrom.synthesis (origin : LoweredFrom package content syntheses calculations)
    {node : CalculationNodeV2} (member : node ∈ package.calculations) {conditional : ExpressionV2}
    (inside : conditional ∈ node.expression.conditionals) :
    ∃ synthesis ∈ syntheses, synthesis.conditional = conditional := by
  have listed : conditional ∈ syntheses.map (·.conditional) := by
    rw [origin.conditionals]
    exact List.mem_flatMap.mpr ⟨node, member, inside⟩
  exact List.mem_map.mp listed

/-- A rule stands for a conditional of a calculation. -/
theorem LoweredFrom.calculation (origin : LoweredFrom package content syntheses calculations)
    {synthesis : Synthesis} (member : synthesis ∈ syntheses) :
    ∃ node ∈ package.calculations, synthesis.conditional ∈ node.expression.conditionals := by
  have listed : synthesis.conditional ∈ syntheses.map (·.conditional) :=
    List.mem_map_of_mem member
  rw [origin.conditionals] at listed
  exact List.mem_flatMap.mp listed

/-- References of calculations are never rules. -/
theorem LoweredFrom.ref_apart (origin : LoweredFrom package content syntheses calculations)
    (valid : package.Valid) {node : CalculationNodeV2} (member : node ∈ package.calculations)
    {ref : ExpressionRef} (referred : ref ∈ node.expression.refs) :
    ∀ synthesis ∈ syntheses, synthesis.rule.id ≠ ref.id := by
  intro synthesis belongs same
  have node := valid.ref_node member referred
  rw [← same] at node
  exact origin.apart synthesis belongs node

/-- Conditionals refer to no rule. -/
theorem LoweredFrom.conditionals_apart (origin : LoweredFrom package content syntheses calculations)
    (valid : package.Valid) : Apart syntheses := by
  intro synthesis member ref referred
  obtain ⟨node, belongs, inside⟩ := origin.calculation member
  exact origin.ref_apart valid belongs (node.expression.conditional_refs _ inside ref referred)

/-- Contexts that differ at most in the entries of rules. -/
def AlikeOff (syntheses : List Synthesis) (left right : Context) : Prop :=
  ∀ id, (∀ synthesis ∈ syntheses, synthesis.rule.id ≠ id) → left id = right id

/-- Calculations run alike where contexts differ at most in the entries of rules. -/
theorem LoweredFrom.addCalculation_alike
    (origin : LoweredFrom package content syntheses calculations) (valid : package.Valid)
    (date : Date) {node : CalculationNodeV2} (member : node ∈ package.calculations)
    {left right : Context} (alike : AlikeOff syntheses left right) :
    Outcome.Agree (AlikeOff syntheses) (addCalculation date left node)
      (addCalculation date right node) := by
  have carries : ∀ {first second : Context}, AlikeOff syntheses first second →
      Carries first second node.expression.refs := by
    intro first second same ref referred found entry
    rw [← same ref.id (origin.ref_apart valid member referred)]
    exact entry
  have back : AlikeOff syntheses right left := fun id elsewhere => (alike id elsewhere).symm
  have values : Outcome.Agree Eq (calculationValue left node) (calculationValue right node) := by
    cases valued : calculationValue left node with
    | ok value =>
      rw [calculationValue_carried (carries alike) valued]
      exact .success rfl
    | error failed =>
      cases other : calculationValue right node with
      | ok value =>
        rw [calculationValue_carried (carries back) other] at valued
        cases valued
      | error fault => exact .failure _ _
  unfold addCalculation
  refine Outcome.Agree.ite Iff.rfl ?_ (.success alike)
  refine values.bind fun value other same => ?_
  subst same
  refine Outcome.Agree.ite Iff.rfl (.success fun id elsewhere => ?_) (.failure _ _)
  by_cases here : id = node.id
  · rw [here, Context.set_same, Context.set_same]
  · rw [Context.set_other _ _ here, Context.set_other _ _ here]
    exact alike id elsewhere

/-- A run of calculations does not depend on the entries of rules. -/
theorem LoweredFrom.run_alike (origin : LoweredFrom package content syntheses calculations)
    (valid : package.Valid) (date : Date) {nodes : List CalculationNodeV2}
    (inside : ∀ node ∈ nodes, node ∈ package.calculations) {left right : Context}
    (alike : AlikeOff syntheses left right) :
    Outcome.Agree (AlikeOff syntheses) (nodes.foldlM (addCalculation date) left)
      (nodes.foldlM (addCalculation date) right) := by
  have same : List.Forall₂ (fun first second => first = second ∧ first ∈ package.calculations)
      nodes nodes := List.forall₂_same.mpr fun node member => ⟨rfl, inside node member⟩
  refine Outcome.Agree.foldlM same ?_ alike
  rintro first second node _ ⟨rfl, member⟩ held
  exact origin.addCalculation_alike valid date member held

/-- The output does not depend on the entries of rules. -/
theorem LoweredFrom.output_alike (origin : LoweredFrom package content syntheses calculations)
    (valid : package.Valid) {left right : Context} (alike : AlikeOff syntheses left right) :
    directOutput package left = directOutput package right := by
  unfold directOutput
  cases outputs : package.outputs with
  | nil => rfl
  | cons output rest =>
    have source : output.sourceRef ∈ package.nodeIds :=
      valid.outputs_resolve output (by rw [outputs]; exact List.mem_cons_self)
    have elsewhere : ∀ synthesis ∈ syntheses, synthesis.rule.id ≠ output.sourceRef :=
      fun synthesis member same => origin.apart synthesis member (same ▸ source)
    dsimp only
    rw [alike output.sourceRef elsewhere]

/-- Phases of the 0.1 evaluator on a lowered package, from its inputs and constants on. -/
def eagerPhases (sorter : Sorter String) (content : PackageContent) (date : Date)
    (state : Evaluation) : Except Failure Evaluation := do
  let state ← content.tables.foldlM (resolveTable date) state
  let state ← content.rules.foldlM (resolveRule date) state
  calculate sorter content date state

/-- The 0.1 evaluator of a lowered package. -/
theorem LoweredFrom.evaluate_eq (origin : LoweredFrom package content syntheses calculations)
    (sorter : Sorter String) (risk : RiskInput) (date : Date) (transaction : TransactionType)
    (strict : Bool) :
    evaluatePackage sorter content risk date transaction strict = (do
      checkApplicable content date transaction
      let state ← opened package.inputs package.constants risk date strict
      let state ← eagerPhases sorter content date state
      finish content date transaction state) := by
  rw [origin.content]
  unfold evaluatePackage prepare opened eagerPhases
  simp only [bind_assoc]
  rfl

/-- Calculations are unknown before they run. -/
theorem PackageV2.Valid.unknown {package : PackageV2} (valid : package.Valid) {context : Context}
    (within : Within (package.inputs.map (·.id) ++ package.constants.map (·.id) ++
      package.tables.map (·.id)) context) :
    ∀ node ∈ package.calculations, context node.id = none := by
  intro node member
  cases entry : context node.id with
  | none => rfl
  | some value => exact absurd (within _ _ entry).1 (valid.calculations_apart member)

/-- States after the tables and after the rules of a lowered package. -/
structure Prepared (package : PackageV2) (syntheses : List Synthesis) (tables rules : Context) :
    Prop where
  /-- Entries of the rules reflect their conditionals. -/
  resolves : Resolves syntheses tables rules
  /-- Every conditional has a value. -/
  valued : Valued tables syntheses
  /-- Calculations are unknown. -/
  unknown : ∀ node ∈ package.calculations, rules node.id = none
  /-- Every entry is recordable. -/
  entries : Recordable rules
  /-- The tables are kept. -/
  kept : Extends tables rules

/-- Resolved tables and rules prepare the calculations. -/
theorem LoweredFrom.prepared (origin : LoweredFrom package content syntheses calculations)
    (valid : package.Valid) {date : Date} {tables rules : Evaluation}
    (within : Within (package.inputs.map (·.id) ++ package.constants.map (·.id) ++
      package.tables.map (·.id)) tables.context)
    (ruled : (syntheses.map (·.rule)).foldlM (resolveRule date) tables = .ok rules) :
    Prepared package syntheses tables.context rules.context := by
  have apart := origin.conditionals_apart valid
  obtain ⟨resolves, valued⟩ := resolveRules_ok origin.chain origin.distinct apart ruled
  have kept : ∀ id ∈ package.nodeIds, rules.context id = tables.context id := fun id named =>
    resolves.others id fun synthesis belongs same => origin.apart synthesis belongs (same ▸ named)
  refine ⟨resolves, valued, ?_, resolveRules_recordable (fun id value entry =>
    (within id value entry).2) ruled, ?_⟩
  · intro node member
    have named : node.id ∈ package.nodeIds := by
      unfold PackageV2.nodeIds
      exact List.mem_append_left _ (List.mem_append_right _ (List.mem_map_of_mem member))
    rw [kept node.id named]
    exact valid.unknown within node member
  · intro id value entry
    have named : id ∈ package.nodeIds := by
      unfold PackageV2.nodeIds
      exact List.mem_append_left _ (List.mem_append_left _ (within id value entry).1)
    rw [kept id named]
    exact entry

/-- Rules stay reflected while more becomes known. -/
theorem Prepared.reflected {tables rules : Context}
    (prepared : Prepared package syntheses tables rules) (context : Context)
    (further : Extends rules context) : AllReflected syntheses context := by
  intro synthesis member
  obtain ⟨value, entry, evaluated⟩ := prepared.resolves.reflected synthesis member
  exact ⟨value, further _ _ entry, evaluateDirect_carried _ (further.carries _) evaluated⟩

/-- Every conditional has a value once the rules are resolved. -/
theorem Prepared.conditionals {tables rules : Context}
    (prepared : Prepared package syntheses tables rules)
    (origin : LoweredFrom package content syntheses calculations) :
    ∀ node ∈ package.calculations, ∀ conditional ∈ node.expression.conditionals,
      ∃ value, evaluateDirect rules conditional = .ok value := by
  intro node member conditional inside
  obtain ⟨synthesis, belongs, rfl⟩ := origin.synthesis member inside
  obtain ⟨value, evaluated, _⟩ := prepared.valued synthesis belongs
  exact ⟨value, evaluateDirect_carried _ (prepared.kept.carries _) evaluated⟩

/-- The direct calculations reach the same output from the tables and from the rules. -/
theorem LoweredFrom.direct_iff (origin : LoweredFrom package content syntheses calculations)
    (valid : package.Valid) (date : Date) {nodes : List CalculationNodeV2}
    (inside : ∀ node ∈ nodes, node ∈ package.calculations) {left right : Context}
    (alike : AlikeOff syntheses left right) {premium : Decimal}
    (reached : ∃ context, nodes.foldlM (addCalculation date) left = .ok context ∧
      directOutput package context = .ok premium) :
    ∃ context, nodes.foldlM (addCalculation date) right = .ok context ∧
      directOutput package context = .ok premium := by
  obtain ⟨context, ran, output⟩ := reached
  have runs := origin.run_alike valid date inside alike
  rw [ran] at runs
  cases other : nodes.foldlM (addCalculation date) right with
  | error failed =>
    rw [other] at runs
    cases runs
  | ok solution =>
    rw [other] at runs
    cases runs with
    | success held => exact ⟨solution, rfl, origin.output_alike valid held ▸ output⟩

/-- The calculations of the 0.1 evaluator reach an output exactly when the direct ones do and
the declared order follows the strict references. -/
theorem LoweredFrom.calculate_iff (origin : LoweredFrom package content syntheses calculations)
    (valid : package.Valid) (sorter : Sorter String) (date : Date) {tables : Context}
    {rules : Evaluation} (prepared : Prepared package syntheses tables rules.context)
    (premium : Decimal) :
    (∃ after, calculate sorter content date rules = .ok after ∧
        directOutput package after.context = .ok premium) ↔
      (∃ context, calculateDirect sorter package date tables = .ok context ∧
        directOutput package context = .ok premium) ∧
      ∀ nodes, package.declaredOrder sorter = some nodes →
        Follows (·.expression.strictRefs) date nodes := by
  obtain ⟨direct, directPerm, directFollows, directRuns⟩ := valid.direct_order sorter date
  obtain ⟨declared, declaredPerm, ordered⟩ := valid.declared_order sorter
  have inside : ∀ node ∈ direct, node ∈ package.calculations :=
    fun node member => directPerm.mem_iff.mp member
  have agrees := calculate_agrees (syntheses.map (·.rule)) origin.nodes ordered prepared.unknown
    prepared.reflected date
  have same : ∀ solution, declared.foldlM (addCalculation date) rules.context = .ok solution ↔
      direct.foldlM (addCalculation date) rules.context = .ok solution ∧
        Follows (·.expression.strictRefs) date declared := fun solution =>
    run_iff_run valid directPerm directFollows declaredPerm prepared.unknown
      (prepared.conditionals origin)
  rw [← origin.content] at agrees
  rw [directRuns]
  constructor
  · rintro ⟨after, ran, output⟩
    rw [ran] at agrees
    cases declaredRun : declared.foldlM (addCalculation date) rules.context with
    | error failed =>
      rw [declaredRun] at agrees
      cases agrees
    | ok solution =>
      rw [declaredRun] at agrees
      cases agrees with
      | success equal =>
        obtain ⟨directRun, follows⟩ := (same solution).mp declaredRun
        refine ⟨origin.direct_iff valid date inside prepared.resolves.others
          ⟨solution, directRun, equal ▸ output⟩, fun nodes sorted => ?_⟩
        rw [ordered] at sorted
        rw [← Option.some.inj sorted]
        exact follows
  · rintro ⟨reached, follows⟩
    obtain ⟨solution, directRun, output⟩ := origin.direct_iff valid date inside
      (fun id elsewhere => (prepared.resolves.others id elsewhere).symm) reached
    have declaredRun := (same solution).mpr ⟨directRun, follows declared ordered⟩
    rw [declaredRun] at agrees
    cases ran : calculate sorter content date rules with
    | error failed =>
      rw [ran] at agrees
      cases agrees
    | ok after =>
      rw [ran] at agrees
      cases agrees with
      | success equal =>
        refine ⟨after, rfl, ?_⟩
        rw [equal]
        exact output

/-- The calculations of the 0.1 evaluator keep all entries recordable. -/
theorem LoweredFrom.calculate_recordable
    (origin : LoweredFrom package content syntheses calculations) (valid : package.Valid)
    {sorter : Sorter String} {date : Date} {tables : Context} {rules after : Evaluation}
    (prepared : Prepared package syntheses tables rules.context)
    (ran : calculate sorter content date rules = .ok after) : Recordable after.context := by
  obtain ⟨declared, _, ordered⟩ := valid.declared_order sorter
  have agrees := calculate_agrees (syntheses.map (·.rule)) origin.nodes ordered prepared.unknown
    prepared.reflected date
  rw [← origin.content, ran] at agrees
  cases declaredRun : declared.foldlM (addCalculation date) rules.context with
  | error failed =>
    rw [declaredRun] at agrees
    cases agrees
  | ok solution =>
    rw [declaredRun] at agrees
    cases agrees with
    | success equal =>
      rw [equal]
      exact run_recordable prepared.entries declaredRun

/-- What is known without a failed table. -/
theorem Known.complete {known : Known} (complete : known.failed = []) :
    known = ⟨known.context, []⟩ := by
  obtain ⟨context, failed⟩ := known
  obtain rfl : failed = [] := complete
  rfl

/-- The eager phases run the tables of the package and the synthesized rules. -/
theorem LoweredFrom.eagerPhases_eq (origin : LoweredFrom package content syntheses calculations)
    (sorter : Sorter String) (date : Date) (state : Evaluation) :
    eagerPhases sorter content date state = (do
      let state ← package.tables.foldlM (resolveTable date) state
      let state ← (syntheses.map (·.rule)).foldlM (resolveRule date) state
      calculate sorter content date state) := by
  rw [origin.content]
  rfl

/-- The eager phases reach an output exactly when the direct evaluation does and all of them
go through. -/
theorem LoweredFrom.phases_iff (origin : LoweredFrom package content syntheses calculations)
    (valid : package.Valid) (sorter : Sorter String) {risk : RiskInput} {date : Date}
    {strict : Bool} {state : Evaluation}
    (opens : opened package.inputs package.constants risk date strict = .ok state) {known : Known}
    (tables : package.tables.foldl (addTable date) ⟨state.context, []⟩ = known)
    (premium : Decimal) :
    (∃ after, eagerPhases sorter content date state = .ok after ∧
        directOutput package after.context = .ok premium) ↔
      (∃ context, calculateDirect sorter package date known.context = .ok context ∧
        directOutput package context = .ok premium) ∧ Eager sorter package date known := by
  have opened_entries := opened_within opens
  rw [origin.eagerPhases_eq]
  constructor
  · rintro ⟨after, ran, output⟩
    obtain ⟨tabled, looked, ran⟩ := Outcome.bind_eq_ok ran
    obtain ⟨ruled, resolved, ran⟩ := Outcome.bind_eq_ok ran
    have prepared := origin.prepared valid (resolveTables_within opened_entries looked) resolved
    have added := (resolveTables_iff date package.tables state tabled.context).mp
      ⟨tabled, looked, rfl⟩
    rw [tables] at added
    subst added
    obtain ⟨reached, ordered⟩ := (origin.calculate_iff valid sorter date prepared premium).mp
      ⟨after, ran, output⟩
    refine ⟨reached, rfl, ?_, ordered⟩
    intro node member conditional inside
    obtain ⟨synthesis, belongs, rfl⟩ := origin.synthesis member inside
    exact prepared.valued synthesis belongs
  · rintro ⟨reached, eager⟩
    rw [Known.complete eager.tables] at tables
    obtain ⟨tabled, looked, same⟩ := (resolveTables_iff date package.tables state _).mpr tables
    have valued : Valued tabled.context syntheses := by
      intro synthesis member
      obtain ⟨node, belongs, inside⟩ := origin.calculation member
      rw [same]
      exact eager.conditionals node belongs _ inside
    obtain ⟨ruled, resolved⟩ := resolveRules_of_valued origin.chain origin.distinct
      (origin.conditionals_apart valid) valued
    have prepared := origin.prepared valid (resolveTables_within opened_entries looked) resolved
    rw [same] at prepared
    obtain ⟨after, ran, output⟩ :=
      (origin.calculate_iff valid sorter date prepared premium).mpr ⟨reached, eager.ordered⟩
    refine ⟨after, ?_, output⟩
    rw [looked]
    change ((syntheses.map (·.rule)).foldlM (resolveRule date) tabled >>= _) = _
    rw [resolved]
    exact ran

/-- The eager phases keep all entries recordable. -/
theorem LoweredFrom.phases_recordable
    (origin : LoweredFrom package content syntheses calculations) (valid : package.Valid)
    {sorter : Sorter String} {risk : RiskInput} {date : Date} {strict : Bool}
    {state after : Evaluation}
    (opens : opened package.inputs package.constants risk date strict = .ok state)
    (ran : eagerPhases sorter content date state = .ok after) : Recordable after.context := by
  rw [origin.eagerPhases_eq] at ran
  obtain ⟨tabled, looked, ran⟩ := Outcome.bind_eq_ok ran
  obtain ⟨ruled, resolved, ran⟩ := Outcome.bind_eq_ok ran
  exact origin.calculate_recordable valid
    (origin.prepared valid (resolveTables_within (opened_within opens) looked) resolved) ran

end Lowered

/-- A computation has a value exactly when it succeeds with it. -/
theorem toOption_eq_some {ε α : Type} {run : Except ε α} {value : α} :
    run.toOption = some value ↔ run = .ok value := by
  cases run with
  | error failed => exact ⟨fun same => (by cases same), fun same => by cases same⟩
  | ok found => exact ⟨fun same => congrArg Except.ok (Option.some.inj same),
      fun same => congrArg some (Except.ok.inj same)⟩

/-- A lowered package gives a premium exactly when it is the premium of the package and the eager
phases go through. -/
theorem lowered_premium_iff {package : PackageV2} (valid : package.Valid) {lowered : IPIRPackage}
    (lowers : lowerToV01 package = .ok lowered) (sorter : Sorter String) (risk : RiskInput)
    (date : Date) (transaction : TransactionType) (strict : Bool) (amount : Decimal) :
    premium (evaluatePackage sorter lowered.toPackageContent risk date transaction strict) =
        some amount ↔
      evaluateDirectly sorter package risk date transaction strict = .ok amount ∧
        ∀ found, known package risk date strict = .ok found → Eager sorter package date found := by
  obtain ⟨syntheses, calculations, origin⟩ := lowerToV01_from lowers
  rw [origin.evaluate_eq]
  unfold evaluateDirectly known
  have applicable : checkApplicable lowered.toPackageContent date transaction = .ok () ↔
      package.applies date transaction = true := by
    rw [origin.content]
    unfold checkApplicable PackageV2.applies loweredContent
    dsimp only
    cases isActive (some package.effectivePeriod) date with
    | false => exact ⟨fun same => (by cases same), fun same => by cases same⟩
    | true =>
      cases package.transactionTypes.contains transaction with
      | false => exact ⟨fun same => (by cases same), fun same => by cases same⟩
      | true => exact ⟨fun _ => rfl, fun _ => rfl⟩
  by_cases applies : package.applies date transaction = true
  · rw [applicable.mpr applies, if_pos applies]
    cases opens : opened package.inputs package.constants risk date strict with
    | error failed =>
      exact ⟨fun same => (by cases same), fun both => by cases both.1⟩
    | ok state =>
      have phases := origin.phases_iff valid sorter opens rfl amount
      have finished : premium (eagerPhases sorter lowered.toPackageContent date state >>= fun after =>
            finish lowered.toPackageContent date transaction after) = some amount ↔
          ∃ after, eagerPhases sorter lowered.toPackageContent date state = .ok after ∧
            directOutput package after.context = .ok amount := by
        cases ran : eagerPhases sorter lowered.toPackageContent date state with
        | error failed =>
          exact ⟨fun same => (by cases same), fun ⟨_, same, _⟩ => (by cases same)⟩
        | ok after =>
          have read := premium_finish package calculations (syntheses.map (·.rule))
            (origin.phases_recordable valid opens ran) date transaction
          rw [← origin.content] at read
          change premium (finish lowered.toPackageContent date transaction after) = some amount ↔ _
          rw [read, toOption_eq_some]
          exact ⟨fun output => ⟨after, rfl, output⟩, fun ⟨_, same, output⟩ =>
            Except.ok.inj same ▸ output⟩
      refine finished.trans (phases.trans (and_congr ?_ ?_))
      · change _ ↔ (calculateDirect sorter package date _ >>= fun context =>
          directOutput package context) = .ok amount
        constructor
        · rintro ⟨context, ran, output⟩
          rw [ran]
          exact output
        · intro ran
          obtain ⟨context, ran, output⟩ := Outcome.bind_eq_ok ran
          exact ⟨context, ran, output⟩
      · exact ⟨fun eager found same => Except.ok.inj same ▸ eager, fun every => every _ rfl⟩
  · rw [if_neg applies]
    cases checked : checkApplicable lowered.toPackageContent date transaction with
    | ok _ => exact absurd (applicable.mp checked) applies
    | error failed => exact ⟨fun same => (by cases same), fun both => by cases both.1⟩

/-- A lowered package prices as the package itself exactly where that has no premium or the eager
phases go through. -/
theorem lowering_keeps_premium {package : PackageV2} (valid : package.Valid) {lowered : IPIRPackage}
    (lowers : lowerToV01 package = .ok lowered) (sorter : Sorter String) (risk : RiskInput)
    (date : Date) (transaction : TransactionType) (strict : Bool) :
    premium (evaluatePackage sorter lowered.toPackageContent risk date transaction strict) =
        (evaluateDirectly sorter package risk date transaction strict).toOption ↔
      (evaluateDirectly sorter package risk date transaction strict).toOption = none ∨
        ∀ found, known package risk date strict = .ok found →
          Eager sorter package date found := by
  have prices := lowered_premium_iff valid lowers sorter risk date transaction strict
  cases direct : evaluateDirectly sorter package risk date transaction strict with
  | error failed =>
    refine ⟨fun _ => .inl rfl, fun _ => ?_⟩
    refine Option.eq_none_iff_forall_ne_some.mpr fun amount priced => ?_
    have meant := ((prices amount).mp priced).1
    rw [direct] at meant
    cases meant
  | ok amount =>
    constructor
    · exact fun same => .inr ((prices amount).mp same).2
    · rintro (unpriced | eager)
      · cases unpriced
      · exact (prices amount).mpr ⟨direct, eager⟩

/-- First day of the sample worksheets. -/
def worksheetDay : Date where
  year := 2025
  month := 7
  day := 1
  yearValid := by decide
  dayValid := by decide

/-- Decimal places of cents. -/
def cents : Fin 11 := 2

/-- Package of some calculations whose premium is in cents. -/
def worksheet (calculations : List CalculationNodeV2) : PackageV2 where
  schemaVersion := "0.2.0"
  packageId := "worksheet"
  packageVersion := "1.0.0"
  effectivePeriod := ⟨worksheetDay, none, fun _ absent => absurd absent (Option.not_mem_none _)⟩
  transactionTypes := [.newBusiness]
  inputs := []
  constants := []
  tables := []
  calculations := calculations
  outputs := [⟨"total", "premium", "USD", cents, .halfUp⟩]
  controlCases := []

/-- Premium of one hundred, rounded to cents. -/
def plainNode : CalculationNodeV2 where
  id := "premium"
  expression := .round (.literal (.int 100)) cents .halfUp
  dependsOn := []
  effectivePeriod := none

/-- Base premium of one hundred. -/
def baseNode : CalculationNodeV2 := ⟨"base", .literal (.int 100), [], none⟩

/-- Premium that is at least fifty, by a conditional on the base premium. -/
def floorNode : CalculationNodeV2 where
  id := "premium"
  expression := .round (.conditional
    (.comparison (.reference "base") .gt (.literal (.int 50))) (.reference "base")
    (.literal (.int 50))) cents .halfUp
  dependsOn := ["base"]
  effectivePeriod := none

/-- The sample worksheets have no table to check. -/
theorem worksheet_valid (calculations : List CalculationNodeV2)
    (formed : (worksheet calculations).nodesWellFormed = true) (nonempty : calculations ≠ [])
    (distinct : (worksheet calculations).nodeIds.Nodup)
    (refs : ∀ node ∈ calculations, ∀ ref ∈ node.expression.refs,
      (worksheet calculations).Resolves ref)
    (dependencies : ∀ node ∈ calculations, ∀ dependency ∈ node.dependsOn,
      dependency ∈ (worksheet calculations).nodeIds)
    (source : "premium" ∈ (worksheet calculations).nodeIds)
    (acyclic : Acyclic (worksheet calculations).derivedEdges)
    (agrees : ∀ output ∈ (worksheet calculations).outputs, ∀ node ∈ calculations,
      node.id = output.sourceRef → output.Agrees node.expression) :
    (worksheet calculations).Valid where
  wellFormed := formed
  calculations_nonempty := nonempty
  outputs_nonempty := List.cons_ne_nil _ _
  ids_distinct := distinct
  cases_distinct := List.nodup_nil
  refs_resolve := refs
  dependencies_resolve := dependencies
  outputs_resolve := by
    intro output member
    obtain rfl := List.mem_singleton.mp member
    exact source
  acyclic := acyclic
  covered := fun _ member => absurd member List.not_mem_nil
  outputs_agree := agrees

/-- Rank of the base premium before the premium. -/
def worksheetRank (id : String) : Nat := if id = "premium" then 1 else 0

/-- A premium without a conditional is kept. -/
theorem lowering_keeps_premium_plain : ∃ lowered, lowerToV01 (worksheet [plainNode]) = .ok lowered ∧
    premium (evaluatePackage (byGenerations String) lowered.toPackageContent ⟨[], List.nodup_nil⟩
      worksheetDay .newBusiness false) = some (.finite false 10000 (-2)) := by
  have valid : (worksheet [plainNode]).Valid :=
    worksheet_valid _ (by decide +kernel) (List.cons_ne_nil _ _) (by decide +kernel)
      (by decide +kernel) (by decide +kernel) (by decide +kernel)
      ⟨worksheetRank, by decide +kernel⟩ (by decide +kernel)
  have succeeds : (lowerToV01 (worksheet [plainNode])).isOk = true := by decide +kernel
  obtain ⟨lowered, lowers⟩ := Outcome.exists_of_isOk succeeds
  have keeps := lowering_keeps_premium valid lowers (byGenerations String) ⟨[], List.nodup_nil⟩
    worksheetDay .newBusiness false
  have direct : (evaluateDirectly (byGenerations String) (worksheet [plainNode])
      ⟨[], List.nodup_nil⟩ worksheetDay .newBusiness false).toOption =
        some (.finite false 10000 (-2)) := by decide +kernel
  refine ⟨lowered, lowers, (keeps.mpr (.inr fun found same => ?_)).trans direct⟩
  cases Except.ok.inj same
  refine ⟨rfl, ?_, ?_⟩
  · intro node member conditional inside
    obtain rfl := List.mem_singleton.mp member
    cases inside
  · intro nodes ordered
    have single : (worksheet [plainNode]).declaredOrder (byGenerations String) =
      some [plainNode] := rfl
    rw [single] at ordered
    rw [← Option.some.inj ordered]
    exact List.pairwise_singleton _ _

/-- The worksheet with a floor is valid. -/
theorem floor_valid : (worksheet [baseNode, floorNode]).Valid :=
  worksheet_valid _ (by decide +kernel) (List.cons_ne_nil _ _) (by decide +kernel)
    (by decide +kernel) (by decide +kernel) (by decide +kernel)
    ⟨worksheetRank, by decide +kernel⟩ (by decide +kernel)

/-- Lowering does not keep the premium: the conditional becomes a rule, which runs before the
base premium it refers to. -/
theorem lowering_loses_premium :
    ¬∀ (package : PackageV2) (lowered : IPIRPackage), package.Valid →
      lowerToV01 package = .ok lowered →
      ∀ (sorter : Sorter String) (risk : RiskInput) (date : Date) (transaction : TransactionType)
        (strict : Bool),
        premium (evaluatePackage sorter lowered.toPackageContent risk date transaction strict) =
          (evaluateDirectly sorter package risk date transaction strict).toOption := by
  intro keeps
  have succeeds : (lowerToV01 (worksheet [baseNode, floorNode])).isOk = true := by decide +kernel
  obtain ⟨lowered, lowers⟩ := Outcome.exists_of_isOk succeeds
  have same := keeps _ lowered floor_valid lowers (byGenerations String) ⟨[], List.nodup_nil⟩
    worksheetDay .newBusiness false
  have direct : (evaluateDirectly (byGenerations String) (worksheet [baseNode, floorNode])
      ⟨[], List.nodup_nil⟩ worksheetDay .newBusiness false).toOption =
        some (.finite false 10000 (-2)) := by decide +kernel
  rw [direct] at same
  obtain ⟨_, eager⟩ := (lowered_premium_iff floor_valid lowers _ _ _ _ _ _).mp same
  have found : known (worksheet [baseNode, floorNode]) ⟨[], List.nodup_nil⟩ worksheetDay false =
      .ok ⟨fun _ => none, []⟩ := rfl
  obtain ⟨value, evaluated, _⟩ := (eager _ found).conditionals floorNode (by simp [worksheet])
    _ (by simp [floorNode, ExpressionV2.conditionals, ConditionV2.conditionals]; rfl)
  rw [evaluateDirect, conditionDirect] at evaluated
  cases evaluated

end RateGuard
