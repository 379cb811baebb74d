import RateGuard.Oracle.Charges
import RateGuard.Oracle.Independence
import RateGuard.Oracle.Reordering

/-!
# Order of the package lists

With declared dependencies the order of a package's inputs, constants, tables, rules and
calculations decides nothing: the phases before the calculations commute within themselves, and
any two orders of the calculations along their dependencies end in one context.
-/

open DecimalFloat CalendarDate TopologicalSort Outcome

namespace RateGuard

/-- Identifiers of inputs and constants. -/
def PackageContent.knownIds (package : PackageContent) : List String :=
  package.inputs.map (·.id) ++ package.constants.map (·.id)

/-- Identifiers of modifiers, constraints and fees. -/
def PackageContent.chargeIds (package : PackageContent) : List String :=
  package.modifiers.map (·.id) ++ (package.constraints.map (·.id) ++ package.fees.map (·.id))

/-- Whether the nodes of a package declare what they depend on. -/
structure DependenciesDeclared (package : PackageContent) : Prop where
  /-- Expressions refer to declared dependencies. -/
  expressions : ∀ node ∈ package.calculations, node.expression.refs ⊆ node.dependsOn
  /-- Table dimensions are inputs or constants. -/
  tables : ∀ table ∈ package.tables,
    table.dimensions.map (·.inputRef) ⊆ package.knownIds
  /-- Rules refer to inputs, constants or tables. -/
  rules : ∀ rule ∈ package.rules, rule.refs ⊆ package.knownIds ++ package.tables.map (·.id)
  /-- Modifiers refer to inputs or constants. -/
  modifiers : ∀ modifier ∈ package.modifiers, modifier.refs ⊆ package.knownIds
  /-- At most one calculation declares a modifier, a constraint or a fee. -/
  once : ∀ id ∈ package.chargeIds, ∀ node ∈ package.calculations,
    ∀ other ∈ package.calculations, id ∈ node.dependsOn → id ∈ other.dependsOn → node = other

/-- Whether packages differ only in the order of some of their lists. -/
structure Reordered (package other : PackageContent) : Prop where
  /-- Inputs are permuted. -/
  inputs : package.inputs.Perm other.inputs
  /-- Constants are permuted. -/
  constants : package.constants.Perm other.constants
  /-- Tables are permuted. -/
  tables : package.tables.Perm other.tables
  /-- Rules are permuted. -/
  rules : package.rules.Perm other.rules
  /-- Calculations are permuted. -/
  calculations : package.calculations.Perm other.calculations
  /-- Everything else is the same. -/
  rest : other = { package with
    inputs := other.inputs
    constants := other.constants
    tables := other.tables
    rules := other.rules
    calculations := other.calculations }

/-- Presetting fees keeps contexts the same. -/
theorem presetFees_same (date : Date) (fees : List PricingFee) {left right : Evaluation}
    (same : SameContext left right) :
    SameContext (fees.foldl (presetFee date) left) (fees.foldl (presetFee date) right) := by
  induction fees generalizing left right with
  | nil => exact same
  | cons fee rest ih => exact ih (same.set _ _)

/-- Presetting constraints keeps contexts the same. -/
theorem presetConstraints_same (date : Date) (constraints : List PremiumConstraint)
    {left right : Evaluation} (same : SameContext left right) :
    SameContext (constraints.foldl (presetConstraint date) left)
      (constraints.foldl (presetConstraint date) right) := by
  induction constraints generalizing left right with
  | nil => exact same
  | cons constraint rest ih => exact ih (same.set _ _)

/-- Presetting a modifier keeps contexts the same. -/
theorem presetModifier_same (date : Date) (modifier : PricingModifier) {left right : Evaluation}
    (same : SameContext left right) :
    Agree SameContext (presetModifier date left modifier) (presetModifier date right modifier) := by
  have context : left.context = right.context := same
  unfold presetModifier
  refine Agree.ite Iff.rfl ?_ (.success (same.set _ _))
  rw [context]
  refine Agree.bind_same _ fun eligible => ?_
  cases eligible with
  | true =>
    simp only [if_true]
    exact Agree.bind_same _ fun factor => .success (same.set _ _)
  | false =>
    simp only [Bool.false_eq_true, if_false]
    exact .success (same.set _ _)

/-- Steps of one footprint each, none writing what another reads or writes, may be permuted. -/
theorem foldlM_footprints {α : Type} {step : Evaluation → α → Except Failure Evaluation}
    (reads writes : α → List String) {lefts rights : List α}
    (footprint : ∀ x ∈ lefts, Footprint Evaluation.context (reads x) (writes x)
      fun state => step state x)
    (unread : ∀ x ∈ lefts, ∀ y ∈ lefts, x ≠ y → ∀ entry ∈ writes x, entry ∉ reads y)
    (apart : ∀ x ∈ lefts, ∀ y ∈ lefts, x ≠ y → ∀ entry ∈ writes x, entry ∉ writes y)
    (distinct : lefts.Nodup) (perm : lefts.Perm rights) {left right : Evaluation}
    (same : SameContext left right) :
    Agree SameContext (lefts.foldlM step left) (rights.foldlM step right) := by
  refine Agree.foldlM_linear SameContext (fun _ _ => False) (fun _ => rfl)
    (fun _ _ _ first second => first.trans second) (fun c d x member related =>
      (footprint x member).respects related) ?_ distinct perm ?_ ?_ same
  · intro state x y one two different _ _
    exact (footprint x one).commute (footprint y two) (unread x one y two different)
      (unread y two x one different.symm) (apart x one y two different) state
  · exact List.pairwise_of_forall fun _ _ wrong => wrong
  · exact List.pairwise_of_forall fun _ _ wrong => wrong

/-- Identifiers of different kinds of nodes of a valid package are different. -/
structure SectionsApart (package : PackageContent) : Prop where
  /-- Tables are no inputs or constants. -/
  tables : ∀ table ∈ package.tables, table.id ∉ package.knownIds
  /-- Rules are no inputs, constants or tables. -/
  rules : ∀ rule ∈ package.rules, rule.id ∉ package.knownIds ++ package.tables.map (·.id)
  /-- Calculations are no inputs or constants. -/
  calculations : ∀ node ∈ package.calculations, node.id ∉ package.knownIds
  /-- Modifiers are no inputs or constants. -/
  modifiers : ∀ modifier ∈ package.modifiers, modifier.id ∉ package.knownIds
  /-- Modifiers are no calculations. -/
  applied : ∀ modifier ∈ package.modifiers, ∀ node ∈ package.calculations, modifier.id ≠ node.id

/-- Valid packages keep the kinds of nodes apart. -/
theorem PackageContent.Valid.sections_apart {package : PackageContent} (valid : package.Valid) :
    SectionsApart package := by
  have distinct := valid.ids_distinct
  unfold PackageContent.nodeIds at distinct
  obtain ⟨distinct, -, -⟩ := List.nodup_append.mp distinct
  obtain ⟨distinct, -, -⟩ := List.nodup_append.mp distinct
  obtain ⟨distinct, -, -⟩ := List.nodup_append.mp distinct
  obtain ⟨distinct, -, -⟩ := List.nodup_append.mp distinct
  obtain ⟨distinct, -, modifiers⟩ := List.nodup_append.mp distinct
  obtain ⟨distinct, -, calculations⟩ := List.nodup_append.mp distinct
  obtain ⟨distinct, -, rules⟩ := List.nodup_append.mp distinct
  obtain ⟨-, -, tables⟩ := List.nodup_append.mp distinct
  exact {
    tables := fun table member known => tables _ known _ (List.mem_map_of_mem member) rfl
    rules := fun rule member known => rules _ known _ (List.mem_map_of_mem member) rfl
    calculations := fun node member known => calculations _
      (List.mem_append_left _ (List.mem_append_left _ known)) _ (List.mem_map_of_mem member) rfl
    modifiers := fun modifier member known => modifiers _ (List.mem_append_left _
      (List.mem_append_left _ (List.mem_append_left _ known))) _ (List.mem_map_of_mem member) rfl
    applied := fun modifier member node calculated same => modifiers node.id
      (List.mem_append_right _ (List.mem_map_of_mem calculated)) modifier.id
      (List.mem_map_of_mem member) same.symm }

/-- The phases before the calculations resolve the same values from reordered lists. -/
theorem prepare_perm {package other : PackageContent} (valid : package.Valid)
    (declares : DependenciesDeclared package) (reordered : Reordered package other)
    (risk : RiskInput) (date : Date) (strict : Bool) :
    Agree SameContext (prepare package risk date strict) (prepare other risk date strict) := by
  have distinct := valid.sections_distinct
  have apart := valid.sections_apart
  have fees : other.fees = package.fees := by rw [reordered.rest]
  have constraints : other.constraints = package.constraints := by rw [reordered.rest]
  have modifiers : other.modifiers = package.modifiers := by rw [reordered.rest]
  unfold prepare
  rw [fees, constraints, modifiers]
  refine (validateRiskInputs_perm reordered.inputs risk strict).bind_ok
    fun entries entries' validated permuted => ?_
  refine (setInputs_perm permuted (validated_distinct distinct.inputs validated)).bind
    fun _ _ same => ?_
  refine (setConstants_perm date reordered.constants distinct.constants same).bind
    fun _ _ same => ?_
  have presets := presetConstraints_same date package.constraints
    (presetFees_same date package.fees same)
  refine (Agree.foldlM_same (fun _ _ modifier _ same => presetModifier_same date modifier same)
    presets).bind fun _ _ same => ?_
  have tables := foldlM_footprints (fun table : RateTable => table.dimensions.map (·.inputRef))
    (fun table => [table.id])
    (fun table _ => resolveTable_footprint date table)
    (fun table member next inside _ entry written read => by
      rw [List.mem_singleton.mp written] at read
      exact apart.tables table member (declares.tables next inside read))
    (fun table member next inside different entry written again => by
      refine different (KeyedList.eq_of_key distinct.tables member inside ?_)
      rw [← List.mem_singleton.mp written, List.mem_singleton.mp again])
    distinct.tables.of_map reordered.tables same
  refine tables.bind fun _ _ same => ?_
  exact foldlM_footprints PricingRule.refs (fun rule => [rule.id])
    (fun rule _ => resolveRule_footprint date rule)
    (fun rule member next inside _ entry written read => by
      rw [List.mem_singleton.mp written] at read
      exact apart.rules rule member (declares.rules next inside read))
    (fun rule member next inside different entry written again => by
      refine different (KeyedList.eq_of_key distinct.rules member inside ?_)
      rw [← List.mem_singleton.mp written, List.mem_singleton.mp again])
    distinct.rules.of_map reordered.rules same

/-- Nodes that are not applied yet are declared as if nothing were. -/
theorem declared_fresh {α : Type} {id : α → String} {node : CalculationNode}
    {applied : List String} {active : List α}
    (fresh : ∀ charge ∈ node.dependsOn, charge ∉ applied) :
    declared id node applied active = declared id node [] active := by
  unfold declared
  refine List.filter_congr fun candidate _ => ?_
  by_cases lists : id candidate ∈ node.dependsOn
  · have unapplied := fresh _ lists
    simp [unapplied]
  · simp [lists]

/-- Identifiers of the active charges. -/
def ActiveNodes.ids (active : ActiveNodes) : List String :=
  active.modifiers.map (·.id) ++ (active.constraints.map (·.id) ++ active.fees.map (·.id))

/-- Charges applied so far. -/
def Running.applied (running : Running) : List String :=
  running.modifiers ++ (running.constraints ++ running.fees)

/-- Nodes a calculation declares are active and listed. -/
theorem declared_listed {α : Type} {id : α → String} {node : CalculationNode}
    {applied : List String} {active : List α} {charge : String}
    (found : charge ∈ (declared id node applied active).map id) :
    charge ∈ node.dependsOn ∧ charge ∈ active.map id := by
  obtain ⟨candidate, member, rfl⟩ := List.mem_map.mp found
  obtain ⟨inside, lists⟩ := List.mem_filter.mp member
  rw [Bool.and_eq_true, List.contains_iff_mem] at lists
  exact ⟨lists.1, List.mem_map_of_mem inside⟩

/-- A calculation whose charges are not applied yet runs as it does alone, and applies active
charges it lists. -/
theorem runCalculation_alone (rules : List RoundingRule) (active : ActiveNodes) (date : Date)
    (running : Running) (node : CalculationNode)
    (fresh : ∀ charge ∈ node.dependsOn, charge ∉ running.applied) :
    Agree (fun after state => after.state = state ∧ ∀ charge ∈ after.applied,
        charge ∈ running.applied ∨ (charge ∈ node.dependsOn ∧ charge ∈ active.ids))
      (runCalculation rules active date running node)
      (runAlone rules active date running.state node) := by
  have modifiers : declared (·.id) node running.modifiers active.modifiers =
      declared (·.id) node [] active.modifiers := declared_fresh fun charge lists applied =>
    fresh charge lists (List.mem_append_left _ applied)
  have constraints : declared (·.id) node running.constraints active.constraints =
      declared (·.id) node [] active.constraints := declared_fresh fun charge lists applied =>
    fresh charge lists (List.mem_append_right _ (List.mem_append_left _ applied))
  have fees : declared (·.id) node running.fees active.fees =
      declared (·.id) node [] active.fees := declared_fresh fun charge lists applied =>
    fresh charge lists (List.mem_append_right _ (List.mem_append_right _ applied))
  rw [← id_map (runCalculation rules active date running node)]
  unfold runAlone
  have alike : Agree (fun (after : Running) next => after.state = next.state ∧
      ∀ charge ∈ after.applied,
        charge ∈ running.applied ∨ (charge ∈ node.dependsOn ∧ charge ∈ active.ids))
      (runCalculation rules active date running node)
      (runCalculation rules active date ⟨running.state, [], [], []⟩ node) := by
    unfold runCalculation
    rw [modifiers, constraints, fees]
    refine Agree.ite Iff.rfl ?_ (.success ⟨rfl, fun charge applied => .inl applied⟩)
    refine Agree.bind_same _ fun base => Agree.bind_same _ fun modified =>
      Agree.bind_same _ fun constrained => Agree.bind_same _ fun charged =>
      Agree.bind_same _ fun recorded => .success ⟨rfl, fun charge applied => ?_⟩
    simp only [Running.applied, List.mem_append] at applied ⊢
    rcases applied with (before | now) | (before | now) | (before | now)
    · exact .inl (.inl before)
    · obtain ⟨lists, found⟩ := declared_listed now
      exact .inr ⟨lists, List.mem_append_left _ found⟩
    · exact .inl (.inr (.inl before))
    · obtain ⟨lists, found⟩ := declared_listed now
      exact .inr ⟨lists, List.mem_append_right _ (List.mem_append_left _ found)⟩
    · exact .inl (.inr (.inr before))
    · obtain ⟨lists, found⟩ := declared_listed now
      exact .inr ⟨lists, List.mem_append_right _ (List.mem_append_right _ found)⟩
  exact alike.map fun _ _ held => held

/-- Calculations that share no charge run as they do alone. -/
theorem runs_alone (rules : List RoundingRule) (active : ActiveNodes) (date : Date)
    {nodes : List CalculationNode}
    (once : nodes.Pairwise fun node other => ∀ charge ∈ active.ids,
      charge ∈ node.dependsOn → charge ∉ other.dependsOn) (running : Running)
    (fresh : ∀ node ∈ nodes, ∀ charge ∈ node.dependsOn, charge ∉ running.applied) :
    Agree (fun after state => after.state = state)
      (nodes.foldlM (runCalculation rules active date) running)
      (nodes.foldlM (runAlone rules active date) running.state) := by
  induction nodes generalizing running with
  | nil => exact .success rfl
  | cons node rest ih =>
    rw [List.foldlM_cons, List.foldlM_cons]
    obtain ⟨apart, others⟩ := List.pairwise_cons.mp once
    refine (runCalculation_alone rules active date running node
      (fresh node List.mem_cons_self)).bind fun after state held => ?_
    obtain ⟨rfl, applied⟩ := held
    refine ih others after fun later member charge lists found => ?_
    cases applied charge found with
    | inl before => exact fresh later (List.mem_cons_of_mem node member) charge lists before
    | inr now => exact apart later member charge now.2 now.1 lists

/-- Permuted calculations have permuted edges. -/
theorem calculationEdges_perm {nodes others : List CalculationNode} (perm : nodes.Perm others) :
    (calculationEdges nodes).Perm (calculationEdges others) := by
  have known : (nodes.map (·.id)).contains = (others.map (·.id)).contains := by
    funext id
    rw [Bool.eq_iff_iff, List.contains_iff_mem, List.contains_iff_mem]
    exact (perm.map (·.id)).mem_iff
  unfold calculationEdges
  rw [known]
  exact perm.flatMap_right _

/-- Permuted calculations are sorted both times or neither time. -/
theorem sorted_iff (sorter : Sorter String) {nodes others : List CalculationNode}
    (perm : nodes.Perm others) :
    Agree (fun _ _ => True) (topologicalSortCalculations sorter nodes)
      (topologicalSortCalculations sorter others) := by
  have both := sorter.isSome_iff (perm.map (·.id)) (calculationEdges_perm perm)
    calculationEdges_inside
  unfold topologicalSortCalculations
  dsimp only
  unfold calculationEdges at both
  cases first : sorter.sort (nodes.map (·.id)) (nodes.flatMap fun node =>
      (node.dependsOn.filter (nodes.map (·.id)).contains).map fun dependency =>
        (dependency, node.id)) with
  | none =>
    rw [first] at both
    cases second : sorter.sort (others.map (·.id)) (others.flatMap fun node =>
        (node.dependsOn.filter (others.map (·.id)).contains).map fun dependency =>
          (dependency, node.id)) with
    | none => exact .failure _ _
    | some order =>
      rw [second] at both
      exact absurd (both.mpr rfl) Bool.false_ne_true
  | some order =>
    rw [first] at both
    cases second : sorter.sort (others.map (·.id)) (others.flatMap fun node =>
        (node.dependsOn.filter (others.map (·.id)).contains).map fun dependency =>
          (dependency, node.id)) with
    | none =>
      rw [second] at both
      exact absurd (both.mp rfl) Bool.false_ne_true
    | some order => exact .success trivial

/-- Active charges are charges of the package. -/
theorem activeNodes_ids {package : PackageContent} {date : Date} {charge : String}
    (found : charge ∈ (activeNodes package date).ids) : charge ∈ package.chargeIds := by
  have inside : ∀ {α : Type} {id : α → String} {period : α → Option EffectivePeriod}
      {sequence : α → Option Int} {nodes : List α},
      charge ∈ (activeInSequence period sequence date nodes).map id → charge ∈ nodes.map id := by
    intro α id period sequence nodes found
    obtain ⟨node, member, rfl⟩ := List.mem_map.mp found
    unfold activeInSequence at member
    rw [List.mem_insertionSort] at member
    exact List.mem_map_of_mem (List.mem_of_mem_filter member)
  simp only [ActiveNodes.ids, PackageContent.chargeIds, List.mem_append] at found ⊢
  exact found.imp inside fun later => later.imp inside inside

/-- Two orders of the calculations along their dependencies end in one context. -/
theorem runs_linear {package : PackageContent} (valid : package.Valid)
    (declares : DependenciesDeclared package) (date : Date) {first second : List CalculationNode}
    (firstPerm : first.Perm package.calculations) (secondPerm : second.Perm package.calculations)
    (firstForward : first.Pairwise fun earlier later => later.id ∉ earlier.dependsOn)
    (secondForward : second.Pairwise fun earlier later => later.id ∉ earlier.dependsOn)
    {left right : Evaluation} (same : SameContext left right) :
    Agree SameContext
      (first.foldlM (runAlone package.roundingRules (activeNodes package date) date) left)
      (second.foldlM (runAlone package.roundingRules (activeNodes package date) date) right) := by
  have distinct := valid.sections_distinct
  have apart := valid.sections_apart
  have isModifier : ∀ modifier ∈ (activeNodes package date).modifiers,
      modifier ∈ package.modifiers := by
    intro modifier member
    change modifier ∈ activeInSequence _ _ date package.modifiers at member
    unfold activeInSequence at member
    rw [List.mem_insertionSort] at member
    exact List.mem_of_mem_filter member
  have footprint : ∀ node ∈ first, Footprint Evaluation.context
      (node.dependsOn ++ package.knownIds) (calculationWrites (activeNodes package date) node)
      (fun state => runAlone package.roundingRules (activeNodes package date) date state node) := by
    intro node member
    refine runAlone_footprint _ _ date node
      (List.Subset.trans (declares.expressions node (firstPerm.mem_iff.mp member))
        (List.subset_append_left _ _)) fun modifier active => ?_
    exact List.Subset.trans (declares.modifiers modifier (isModifier modifier active))
      (List.subset_append_right _ _)
  -- What a calculation writes is its own or a modifier no other calculation declares.
  have writes : ∀ node ∈ first, ∀ entry ∈ calculationWrites (activeNodes package date) node,
      entry = node.id ∨ (entry ∈ node.dependsOn ∧
        ∃ modifier ∈ package.modifiers, modifier.id = entry) := by
    intro node _ entry written
    cases List.mem_cons.mp written with
    | inl own => exact .inl own
    | inr applied =>
      obtain ⟨lists, found⟩ := declared_listed applied
      obtain ⟨modifier, member, same⟩ := List.mem_map.mp found
      exact .inr ⟨lists, modifier, isModifier modifier member, same⟩
  have unread : ∀ node ∈ first, ∀ other ∈ first, node ≠ other → node.id ∉ other.dependsOn →
      ∀ entry ∈ calculationWrites (activeNodes package date) node,
      entry ∉ other.dependsOn ++ package.knownIds := by
    intro node member other inside different unrelated entry written
    have calculated := firstPerm.mem_iff.mp member
    rw [List.mem_append]
    rintro (depends | known)
    · rcases writes node member entry written with rfl | ⟨lists, modifier, found, rfl⟩
      · exact unrelated depends
      · exact different (declares.once _ (List.mem_append_left _ (List.mem_map_of_mem found)) node
          calculated other (firstPerm.mem_iff.mp inside) lists depends)
    · rcases writes node member entry written with rfl | ⟨_, modifier, found, rfl⟩
      · exact apart.calculations node calculated known
      · exact apart.modifiers modifier found known
  have separate : ∀ node ∈ first, ∀ other ∈ first, node ≠ other →
      ∀ entry ∈ calculationWrites (activeNodes package date) node,
      entry ∉ calculationWrites (activeNodes package date) other := by
    intro node member other inside different entry written again
    have calculated := firstPerm.mem_iff.mp member
    have calculatedOther := firstPerm.mem_iff.mp inside
    rcases writes node member entry written with own | ⟨lists, modifier, found, rfl⟩
    · rcases writes other inside entry again with same | ⟨_, modifier, found, same⟩
      · exact different (KeyedList.eq_of_key distinct.calculations calculated calculatedOther
          (own.symm.trans same))
      · exact apart.applied modifier found node calculated (same.trans own)
    · rcases writes other inside _ again with same | ⟨listsToo, _⟩
      · exact apart.applied modifier found other calculatedOther same
      · exact different (declares.once _ (List.mem_append_left _ (List.mem_map_of_mem found)) node
          calculated other calculatedOther lists listsToo)
  refine Agree.foldlM_linear SameContext (fun node other => node.id ∈ other.dependsOn)
    (fun _ => rfl) (fun _ _ _ one two => one.trans two)
    (fun c d node member related => (footprint node member).respects related)
    (fun state node other member inside different unrelated unrelated' => ?_)
    (firstPerm.nodup_iff.mpr distinct.calculations.of_map) (firstPerm.trans secondPerm.symm)
    firstForward secondForward same
  exact (footprint node member).commute (footprint other inside)
    (unread node member other inside different unrelated)
    (unread other inside node member different.symm unrelated')
    (separate node member other inside different) state

/-- Sorted calculations declare every charge once. -/
theorem charges_apart {package : PackageContent} (valid : package.Valid)
    (declares : DependenciesDeclared package) (date : Date) {nodes : List CalculationNode}
    (perm : nodes.Perm package.calculations) :
    nodes.Pairwise fun node other => ∀ charge ∈ (activeNodes package date).ids,
      charge ∈ node.dependsOn → charge ∉ other.dependsOn := by
  have distinct : nodes.Nodup :=
    perm.nodup_iff.mpr valid.sections_distinct.calculations.of_map
  refine distinct.pairwise_of_forall_ne fun node member other inside different => ?_
  intro charge active lists listsToo
  exact different (declares.once charge (activeNodes_ids active) node (perm.mem_iff.mp member)
    other (perm.mem_iff.mp inside) lists listsToo)

/-- The calculations of reordered packages end in one context. -/
theorem calculate_perm (sorter : Sorter String) {package other : PackageContent}
    (valid : package.Valid) (declares : DependenciesDeclared package)
    (reordered : Reordered package other) (date : Date) {left right : Evaluation}
    (same : SameContext left right) :
    Agree SameContext (calculate sorter package date left) (calculate sorter other date right) := by
  have rules : other.roundingRules = package.roundingRules := by rw [reordered.rest]
  have active : activeNodes other date = activeNodes package date := by
    unfold activeNodes
    rw [reordered.rest]
  have perm := reordered.calculations
  have distinct := valid.sections_distinct.calculations
  have distinctOther := (perm.map (·.id)).nodup_iff.mp distinct
  unfold calculate
  rw [rules, active]
  have sorts := sorted_iff sorter perm
  cases first : topologicalSortCalculations sorter package.calculations with
  | error failed =>
    cases second : topologicalSortCalculations sorter other.calculations with
    | error otherFailed => exact .failure _ _
    | ok order =>
      rw [first, second] at sorts
      cases sorts
  | ok nodes =>
    cases second : topologicalSortCalculations sorter other.calculations with
    | error failed =>
      rw [first, second] at sorts
      cases sorts
    | ok order =>
      have nodesPerm := sorted_perm distinct first
      have orderPerm := (sorted_perm distinctOther second).trans perm.symm
      have aloneLeft := runs_alone package.roundingRules (activeNodes package date) date
        (charges_apart valid declares date nodesPerm) ⟨left, [], [], []⟩
        fun _ _ _ _ => List.not_mem_nil
      have aloneRight := runs_alone package.roundingRules (activeNodes package date) date
        (charges_apart valid declares date orderPerm) ⟨right, [], [], []⟩
        fun _ _ _ _ => List.not_mem_nil
      have linear := runs_linear valid declares date nodesPerm orderPerm
        (sorted_forward distinct first).1 (sorted_forward distinctOther second).1 same
      have runs := (aloneLeft.trans linear).trans aloneRight.symm
      refine runs.bind fun running running' chained => ?_
      obtain ⟨_, ⟨_, rfl, contexts⟩, rfl⟩ := chained
      exact .success contexts

/-- Finishing reordered packages in one context gives one premium. -/
theorem finish_perm {package other : PackageContent} (reordered : Reordered package other)
    (date : Date) (transaction : TransactionType) {left right : Evaluation}
    (same : SameContext left right) :
    Agree (fun result result' => result.finalPremium = result'.finalPremium)
      (finish package date transaction left) (finish other date transaction right) := by
  have outputs : other.outputs = package.outputs := by rw [reordered.rest]
  have context : left.context = right.context := same
  have ids : package.resolvedIds.Perm other.resolvedIds := by
    rw [reordered.rest]
    unfold PackageContent.resolvedIds
    exact ((((((((reordered.inputs.map _).append (reordered.constants.map _)).append
      (.refl _)).append (.refl _)).append (.refl _)).append (reordered.tables.map _)).append
      (reordered.rules.map _)).append (reordered.calculations.map _))
  have faults : ∀ context : Context,
      unrecordable package context = none ↔ unrecordable other context = none := by
    intro context
    unfold unrecordable
    rw [List.find?_eq_none, List.find?_eq_none]
    exact ⟨fun none id member => none id (ids.mem_iff.mpr member),
      fun none id member => none id (ids.mem_iff.mp member)⟩
  unfold finish
  rw [outputs]
  cases package.outputs with
  | nil => exact .failure _ _
  | cons output _ =>
    dsimp only
    rw [context]
    cases right.context output.sourceRef with
    | none => exact .failure _ _
    | some value =>
      refine Agree.bind_same _ fun premium => ?_
      refine (addStep_same same _ _ rfl).bind fun final final' finals => ?_
      have finals : final.context = final'.context := finals
      rw [finals]
      have fault := faults final'.context
      cases leftFault : unrecordable package final'.context with
      | none =>
        rw [fault.mp leftFault]
        exact .success rfl
      | some id =>
        cases rightFault : unrecordable other final'.context with
        | none =>
          rw [fault.mpr rightFault] at leftFault
          cases leftFault
        | some id' => exact .failure _ _

/-- With declared dependencies, permuting the inputs, constants, tables, rules and calculations
of a package leaves its evaluation failing as before or giving the same premium. -/
theorem evaluatePackage_perm (sorter : Sorter String) (package : IPIRPackage)
    (declares : DependenciesDeclared package.toPackageContent) (other : PackageContent)
    (reordered : Reordered package.toPackageContent other) (risk : RiskInput) (date : Date)
    (transaction : TransactionType) (strict : Bool) :
    Agree (fun result result' => result.finalPremium = result'.finalPremium)
      (evaluatePackage sorter package.toPackageContent risk date transaction strict)
      (evaluatePackage sorter other risk date transaction strict) := by
  have applicable : checkApplicable other date transaction =
      checkApplicable package.toPackageContent date transaction := by
    rw [reordered.rest]
    rfl
  unfold evaluatePackage
  rw [applicable]
  refine Agree.bind_same _ fun _ => ?_
  refine (prepare_perm package.valid declares reordered risk date strict).bind fun _ _ same => ?_
  refine (calculate_perm sorter package.valid declares reordered date same).bind fun _ _ same => ?_
  exact finish_perm reordered date transaction same

/-- Sample calculation of the base rate. -/
def subtotalNode : CalculationNode :=
  ⟨"subtotal", .reference "base_rate", ["base_rate"], none, none, none⟩

/-- Sample calculation of the subtotal and the fee. -/
def stagedNode : CalculationNode :=
  ⟨"total", .expression .add [.reference "subtotal", .reference "policy_fee"],
    ["subtotal", "policy_fee"], none, none, none⟩

/-- Content of a sample package with two stages in some order. -/
def stagedContent (nodes : List CalculationNode) : PackageContent :=
  { chargedContent operandFee with calculations := nodes }

/-- Sample package that lists the later stage first. -/
def stagedPackage : IPIRPackage where
  toPackageContent := stagedContent [stagedNode, subtotalNode]
  valid := by decide

/-- The sample package declares its dependencies. -/
theorem stagedPackage_declares : DependenciesDeclared stagedPackage.toPackageContent where
  expressions := by
    intro node member
    cases List.mem_cons.mp member with
    | inl same =>
      subst same
      exact List.Subset.refl _
    | inr later =>
      cases List.mem_singleton.mp later
      exact List.Subset.refl _
  tables _ member := absurd member List.not_mem_nil
  rules _ member := absurd member List.not_mem_nil
  modifiers _ member := absurd member List.not_mem_nil
  once := by
    intro id charge node member other inside lists listsToo
    have same : id = "policy_fee" := List.mem_singleton.mp charge
    subst same
    have only : ∀ candidate ∈ [stagedNode, subtotalNode],
        "policy_fee" ∈ candidate.dependsOn → candidate = stagedNode := by
      intro candidate found depends
      cases List.mem_cons.mp found with
      | inl first => exact first
      | inr later =>
        cases List.mem_singleton.mp later
        exact absurd depends (by decide)
    rw [only node member lists, only other inside listsToo]

/-- The sample package prices alike with its stages in their natural order. -/
theorem evaluatePackage_perm_staged :
    Agree (fun result result' => result.finalPremium = result'.finalPremium)
      (evaluatePackage (byGenerations String) stagedPackage.toPackageContent
        ⟨[], List.nodup_nil⟩ chargedDay .newBusiness false)
      (evaluatePackage (byGenerations String) (stagedContent [subtotalNode, stagedNode])
        ⟨[], List.nodup_nil⟩ chargedDay .newBusiness false) := by
  have reordered : Reordered stagedPackage.toPackageContent
      (stagedContent [subtotalNode, stagedNode]) := {
    inputs := .refl _
    constants := .refl _
    tables := .refl _
    rules := .refl _
    calculations := List.Perm.swap _ _ _
    rest := rfl }
  exact evaluatePackage_perm (byGenerations String) stagedPackage stagedPackage_declares
    (stagedContent [subtotalNode, stagedNode]) reordered ⟨[], List.nodup_nil⟩ chargedDay
    .newBusiness false

end RateGuard
