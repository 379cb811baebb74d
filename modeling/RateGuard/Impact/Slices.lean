import RateGuard.Impact.Graph
import RateGuard.Oracle.Independence

/-!
# Slices of a package

What a change of one node can reach. An evaluation reads values along references: a table its
dimensions, a rule, a modifier and a calculation what they refer to, a calculation the adjustments
it declares, and the output its source; an applied modifier also takes a value from the calculation
that applies it. Outside the nodes that the changed one reaches along these references, two
evaluations have the same values. The dependency graph has links for some of the references only, so
that its descendants hold the output wherever declared links lead to it as references do.
-/

open DecimalFloat CalendarDate TopologicalSort Outcome

namespace RateGuard

/-- References along which an evaluation reads values: from the node that is read to the one that
reads. -/
def flowEdges (package : PackageContent) : List (String × String) :=
  package.tables.flatMap (fun table => table.dimensions.map fun dimension =>
      (dimension.inputRef, table.id)) ++
    package.rules.flatMap (fun rule => rule.refs.map fun ref => (ref, rule.id)) ++
    package.modifiers.flatMap (fun modifier => modifier.refs.map fun ref => (ref, modifier.id)) ++
    package.calculations.flatMap (fun node => node.expression.refs.map fun ref => (ref, node.id)) ++
    package.calculations.flatMap (fun node =>
      (node.dependsOn.filter ((adjustments package).map Prod.fst).contains).map fun id =>
        (id, node.id)) ++
    package.calculations.flatMap (fun node =>
      (node.dependsOn.filter (package.modifiers.map (·.id)).contains).map fun id =>
        (node.id, id)) ++
    package.outputs.map fun output => (output.sourceRef, output.id)

/-- Whether two nodes of one identifier are the same, unless it is the changed one. -/
def SameUnless {α : Type} (changed : String) (id : α → String) (left right : α) : Prop :=
  id right = id left ∧ (id left ≠ changed → right = left)

/-- Whether two packages differ at most in the content of one node. -/
structure ChangedAt (changed : String) (left right : PackageContent) : Prop where
  /-- The package prices on the same dates. -/
  effectivePeriod : right.effectivePeriod = left.effectivePeriod
  /-- It supports the same transactions. -/
  transactionTypes : right.transactionTypes = left.transactionTypes
  /-- Inputs are the same. -/
  inputs : right.inputs = left.inputs
  /-- Calculations are the same. -/
  calculations : right.calculations = left.calculations
  /-- Rounding rules are the same. -/
  roundingRules : right.roundingRules = left.roundingRules
  /-- Coverages are the same. -/
  coverages : right.coverages = left.coverages
  /-- Outputs are the same. -/
  outputs : right.outputs = left.outputs
  /-- Other constants are the same. -/
  constants : List.Forall₂ (SameUnless changed (·.id)) left.constants right.constants
  /-- Other tables are the same. -/
  tables : List.Forall₂ (SameUnless changed (·.id)) left.tables right.tables
  /-- Other rules are the same. -/
  rules : List.Forall₂ (SameUnless changed (·.id)) left.rules right.rules
  /-- Other modifiers are the same. -/
  modifiers : List.Forall₂ (SameUnless changed (·.id)) left.modifiers right.modifiers
  /-- Other constraints are the same. -/
  constraints : List.Forall₂ (SameUnless changed (·.id)) left.constraints right.constraints
  /-- Other fees are the same. -/
  fees : List.Forall₂ (SameUnless changed (·.id)) left.fees right.fees

/-- Nodes of a slice: the changed one and what it reaches along references. -/
structure Slice (package : PackageContent) (changed : String) (slice : String → Prop) : Prop where
  /-- The changed node is in it. -/
  base : slice changed
  /-- A table of a dimension in it is in it. -/
  tables : ∀ table ∈ package.tables, ∀ ref ∈ table.dimensions.map (·.inputRef),
    slice ref → slice table.id
  /-- A rule of a reference in it is in it. -/
  rules : ∀ rule ∈ package.rules, ∀ ref ∈ rule.refs, slice ref → slice rule.id
  /-- A modifier of a reference in it is in it. -/
  modifiers : ∀ modifier ∈ package.modifiers, ∀ ref ∈ modifier.refs, slice ref → slice modifier.id
  /-- A calculation of a reference in it is in it. -/
  expressions : ∀ node ∈ package.calculations, ∀ ref ∈ node.expression.refs,
    slice ref → slice node.id
  /-- A calculation of an adjustment in it is in it. -/
  adjusted : ∀ node ∈ package.calculations, ∀ id ∈ node.dependsOn,
    id ∈ (adjustments package).map Prod.fst → slice id → slice node.id
  /-- A modifier of a calculation in it is in it. -/
  applied : ∀ node ∈ package.calculations, ∀ id ∈ node.dependsOn,
    id ∈ package.modifiers.map (·.id) → slice node.id → slice id
  /-- An output of a source in it is in it. -/
  outputs : ∀ output ∈ package.outputs, slice output.sourceRef → slice output.id

/-- What a node reaches along references is a slice. -/
theorem reaches_slice (package : PackageContent) (changed : String) :
    Slice package changed (Reaches (flowEdges package) changed) := by
  have extend : ∀ {first second : String}, (first, second) ∈ flowEdges package →
      Reaches (flowEdges package) changed first → Reaches (flowEdges package) changed second :=
    fun edge path => path.tail edge
  constructor
  · exact .refl
  · intro table member ref reads
    obtain ⟨dimension, inside, rfl⟩ := List.mem_map.mp reads
    refine extend ?_
    simp only [flowEdges, List.mem_append, List.mem_flatMap, List.mem_map, Prod.mk.injEq]
    exact .inl (.inl (.inl (.inl (.inl (.inl ⟨table, member, dimension, inside, rfl, rfl⟩)))))
  · intro rule member ref reads
    refine extend ?_
    simp only [flowEdges, List.mem_append, List.mem_flatMap, List.mem_map, Prod.mk.injEq]
    exact .inl (.inl (.inl (.inl (.inl (.inr ⟨rule, member, ref, reads, rfl, rfl⟩)))))
  · intro modifier member ref reads
    refine extend ?_
    simp only [flowEdges, List.mem_append, List.mem_flatMap, List.mem_map, Prod.mk.injEq]
    exact .inl (.inl (.inl (.inl (.inr ⟨modifier, member, ref, reads, rfl, rfl⟩))))
  · intro node member ref reads
    refine extend ?_
    simp only [flowEdges, List.mem_append, List.mem_flatMap, List.mem_map, Prod.mk.injEq]
    exact .inl (.inl (.inl (.inr ⟨node, member, ref, reads, rfl, rfl⟩)))
  · intro node member id depends adjusts
    refine extend ?_
    simp only [flowEdges, List.mem_append, List.mem_flatMap]
    refine .inl (.inl (.inr ⟨node, member, List.mem_map.mpr ⟨id, ?_, rfl⟩⟩))
    exact List.mem_filter.mpr ⟨depends, List.contains_iff_mem.mpr adjusts⟩
  · intro node member id depends modifies
    refine extend ?_
    simp only [flowEdges, List.mem_append, List.mem_flatMap]
    refine .inl (.inr ⟨node, member, List.mem_map.mpr ⟨id, ?_, rfl⟩⟩)
    exact List.mem_filter.mpr ⟨depends, List.contains_iff_mem.mpr modifies⟩
  · intro output member
    refine extend ?_
    simp only [flowEdges, List.mem_append, List.mem_map, Prod.mk.injEq]
    exact .inr ⟨output, member, rfl, rfl⟩

/-- Contexts that agree outside a slice. -/
def AgreeOff (slice : String → Prop) (first second : Context) : Prop :=
  ∀ id, ¬slice id → first id = second id

section Phases

variable {slice : String → Prop} {changed : String}

/-- A constant reads nothing and writes its own entry. -/
theorem setConstant_footprint (date : Date) (constant : PricingConstant) :
    Footprint Evaluation.context [] [constant.id] (fun state => setConstant date state constant) where
  frame := by
    intro state after resolved entry unwritten
    unfold setConstant at resolved
    by_cases active : isActive constant.effectivePeriod date = true
    · rw [if_pos active] at resolved
      rw [(addStep_eq_ok resolved).1]
      exact set_frame state _ (List.ne_of_not_mem_cons unwritten)
    · rw [if_neg active] at resolved
      exact congrFun (congrArg Evaluation.context (Except.ok.inj resolved).symm) entry
  reading := by
    intro state other _
    unfold setConstant
    exact Agree.ite Iff.rfl (((Carried.refl state other).set _ _).addStep _)
      (.success (Carried.refl state other))

/-- A preset modifier reads its references and writes its own entry. -/
theorem presetModifier_footprint (date : Date) (modifier : PricingModifier) :
    Footprint Evaluation.context modifier.refs [modifier.id]
      (fun state => presetModifier date state modifier) where
  frame := by
    intro state after resolved entry unwritten
    unfold presetModifier at resolved
    have other := List.ne_of_not_mem_cons unwritten
    by_cases active : isActive modifier.effectivePeriod date = true
    · rw [if_pos active] at resolved
      obtain ⟨eligible, _, resolved⟩ := bind_eq_ok resolved
      cases eligible with
      | true =>
        rw [if_pos rfl] at resolved
        obtain ⟨factor, _, resolved⟩ := bind_eq_ok resolved
        cases resolved
        exact set_frame state _ other
      | false =>
        rw [if_neg Bool.false_ne_true] at resolved
        cases resolved
        exact set_frame state _ other
    · rw [if_neg active] at resolved
      cases resolved
      exact set_frame state _ other
  reading := by
    intro state other agree
    have agree : AgreeOn modifier.refs state.context other.context := agree
    obtain ⟨value, eligible⟩ := modifier_agree agree
    have factor : presetFactor state.context modifier = presetFactor other.context modifier := by
      unfold presetFactor
      rw [value]
    unfold presetModifier
    rw [eligible, factor]
    refine Agree.ite Iff.rfl ?_ (.success ((Carried.refl state other).set _ _))
    refine Agree.bind_same _ fun holds => ?_
    refine Agree.ite Iff.rfl ?_ (.success ((Carried.refl state other).set _ _))
    exact Agree.bind_same _ fun found => .success ((Carried.refl state other).set _ _)

/-- A phase over nodes of which one changed keeps agreement outside a slice. -/
theorem phase_agreeOff {α : Type} {id : α → String} {reads : α → List String}
    {step : Evaluation → α → Except Failure Evaluation}
    (footprint : ∀ node, Footprint Evaluation.context (reads node) [id node] (step · node))
    {lefts rights : List α} (nodes : List.Forall₂ (SameUnless changed id) lefts rights)
    (base : slice changed)
    (closed : ∀ node ∈ lefts, ∀ ref ∈ reads node, slice ref → slice (id node))
    {state other after next : Evaluation} (agree : AgreeOff slice state.context other.context)
    (left : lefts.foldlM step state = .ok after) (right : rights.foldlM step other = .ok next) :
    AgreeOff slice after.context next.context := by
  induction nodes generalizing state other with
  | nil =>
    cases left
    cases right
    exact agree
  | @cons first second rest others same _ ih =>
    rw [List.foldlM_cons] at left right
    obtain ⟨middle, one, left⟩ := bind_eq_ok left
    obtain ⟨between, two, right⟩ := bind_eq_ok right
    refine ih (fun node member => closed node (List.mem_cons_of_mem _ member)) ?_ left right
    by_cases inside : slice (id first)
    · intro entry outside
      have apart : entry ∉ [id first] := fun member =>
        outside (List.mem_singleton.mp member ▸ inside)
      have apart' : entry ∉ [id second] := same.1 ▸ apart
      rw [(footprint first).frame one entry apart, (footprint second).frame two entry apart']
      exact agree entry outside
    · have equal : second = first := same.2 fun isChanged => inside (isChanged ▸ base)
      subst equal
      have reading := (footprint second).reading fun entry member =>
        agree entry fun inner => inside (closed second List.mem_cons_self entry member inner)
      rw [one, two] at reading
      cases reading with
      | success carried => exact fun entry outside => carried entry (agree entry outside)

/-- Presets of nodes of which one changed keep agreement outside a slice. -/
theorem presets_agreeOff {α : Type} {id : α → String} (value : α → Value)
    {lefts rights : List α} (nodes : List.Forall₂ (SameUnless changed id) lefts rights)
    (base : slice changed) {state other : Evaluation}
    (agree : AgreeOff slice state.context other.context) :
    AgreeOff slice
      (lefts.foldl (fun state node => state.set (id node) (value node)) state).context
      (rights.foldl (fun state node => state.set (id node) (value node)) other).context := by
  induction nodes generalizing state other with
  | nil => exact agree
  | @cons first second rest others same _ ih =>
    rw [List.foldl_cons, List.foldl_cons]
    apply ih
    intro entry outside
    by_cases own : entry = id first
    · have equal : second = first := same.2 fun isChanged =>
        outside (own.trans isChanged ▸ base)
      rw [equal, own]
      exact (Context.set_same _ _ _).trans (Context.set_same _ _ _).symm
    · rw [set_frame state _ own, set_frame other _ (by rw [same.1]; exact own)]
      exact agree entry outside

end Phases

section Calculations

variable {slice : String → Prop} {changed : String}

/-- Lists of applied nodes that agree outside a slice. -/
def ListsOff (slice : String → Prop) (first second : List String) : Prop :=
  ∀ id, ¬slice id → (id ∈ first ↔ id ∈ second)

/-- Two running evaluations that agree outside a slice. -/
structure RunningOff (slice : String → Prop) (left right : Running) : Prop where
  /-- Values. -/
  context : AgreeOff slice left.state.context right.state.context
  /-- Applied modifiers. -/
  modifiers : ListsOff slice left.modifiers right.modifiers
  /-- Applied constraints. -/
  constraints : ListsOff slice left.constraints right.constraints
  /-- Applied fees. -/
  fees : ListsOff slice left.fees right.fees

/-- Declared active nodes of a list, by its elements. -/
theorem mem_declared_active {α : Type} {id : α → String} {period : α → Option EffectivePeriod}
    {sequence : α → Option Int} {date : Date} {nodes : List α} {node : CalculationNode}
    {applied : List String} {candidate : α} :
    candidate ∈ declared id node applied (activeInSequence period sequence date nodes) ↔
      candidate ∈ nodes ∧ isActive (period candidate) date = true ∧
        id candidate ∈ node.dependsOn ∧ id candidate ∉ applied := by
  unfold declared activeInSequence
  rw [List.mem_filter, List.mem_insertionSort, List.mem_filter, and_assoc, Bool.and_eq_true,
    List.contains_iff_mem, Bool.not_eq_true', ← Bool.not_eq_true, List.contains_iff_mem]

/-- Outside a slice the same nodes are declared. -/
theorem declared_off {α : Type} {id : α → String} (period : α → Option EffectivePeriod)
    (sequence : α → Option Int) (date : Date) {lefts rights : List α}
    (nodes : List.Forall₂ (SameUnless changed id) lefts rights) (base : slice changed)
    (node : CalculationNode) {applied other : List String} (lists : ListsOff slice applied other) :
    ListsOff slice
      (applied ++ (declared id node applied (activeInSequence period sequence date lefts)).map id)
      (other ++ (declared id node other (activeInSequence period sequence date rights)).map id) := by
  intro entry outside
  rw [List.mem_append, List.mem_append, lists entry outside]
  refine or_congr_right ?_
  have apart : entry ≠ changed := fun same => outside (same ▸ base)
  rw [List.mem_map, List.mem_map]
  constructor
  · rintro ⟨candidate, member, rfl⟩
    obtain ⟨inside, active, depends, fresh⟩ := mem_declared_active.mp member
    obtain ⟨partner, partnered, same⟩ := exists_right nodes inside
    rw [same.2 apart] at partnered
    exact ⟨candidate, mem_declared_active.mpr
      ⟨partnered, active, depends, fun found => fresh ((lists _ outside).mpr found)⟩, rfl⟩
  · rintro ⟨candidate, member, rfl⟩
    obtain ⟨inside, active, depends, fresh⟩ := mem_declared_active.mp member
    obtain ⟨partner, partnered, same⟩ := exists_left nodes inside
    have equal : candidate = partner := same.2 (same.1 ▸ apart)
    subst equal
    exact ⟨candidate, mem_declared_active.mpr
      ⟨partnered, active, depends, fun found => fresh ((lists _ outside).mp found)⟩, rfl⟩

/-- A calculation that declares nothing of a slice declares the same nodes in the same order. -/
theorem declared_same {α : Type} {id : α → String} (period : α → Option EffectivePeriod)
    (sequence : α → Option Int) (date : Date) {lefts rights : List α}
    (nodes : List.Forall₂ (SameUnless changed id) lefts rights) (base : slice changed)
    (node : CalculationNode)
    (untouched : ∀ candidate ∈ lefts, id candidate ∈ node.dependsOn → ¬slice (id candidate))
    {applied other : List String} (lists : ListsOff slice applied other) :
    declared id node applied (activeInSequence period sequence date lefts) =
      declared id node other (activeInSequence period sequence date rights) := by
  unfold declared activeInSequence
  have trans : IsTrans α fun first second =>
      (sequence first).getD 0 ≤ (sequence second).getD 0 := ⟨fun _ _ _ => le_trans⟩
  have total : Std.Total fun (first second : α) =>
      (sequence first).getD 0 ≤ (sequence second).getD 0 := ⟨fun _ _ => le_total _ _⟩
  rw [KeyedList.filter_insertionSort, KeyedList.filter_insertionSort, List.filter_filter,
    List.filter_filter]
  congr 1
  induction nodes with
  | nil => rfl
  | @cons first second rest others same _ ih =>
    have tail := ih fun candidate member =>
      untouched candidate (List.mem_cons_of_mem _ member)
    by_cases depends : id first ∈ node.dependsOn
    · have outside := untouched first List.mem_cons_self depends
      have equal : second = first := same.2 fun isChanged => outside (isChanged ▸ base)
      subst equal
      have kept : (node.dependsOn.contains (id second) && !applied.contains (id second)) =
          (node.dependsOn.contains (id second) && !other.contains (id second)) := by
        have member := lists (id second) outside
        rw [← List.contains_iff_mem, ← List.contains_iff_mem, ← Bool.eq_iff_iff] at member
        rw [member]
      rw [List.filter_cons, List.filter_cons, kept, tail]
    · have unlisted : node.dependsOn.contains (id first) = false :=
        Bool.eq_false_of_not_eq_true fun found => depends (List.contains_iff_mem.mp found)
      have unlisted' : node.dependsOn.contains (id second) = false := same.1 ▸ unlisted
      rw [List.filter_cons, List.filter_cons, unlisted, unlisted', tail]
      rfl

/-- Modifiers that a calculation of a slice applies are in the slice. -/
theorem declared_inside {package : PackageContent} (sliced : Slice package changed slice)
    {modifiers : List PricingModifier}
    (same : modifiers.map (·.id) = package.modifiers.map (·.id)) {date : Date}
    {node : CalculationNode} (member : node ∈ package.calculations) (inside : slice node.id)
    {applied : List String} {entry : String}
    (found : entry ∈ (declared (·.id) node applied
      (activeInSequence (·.effectivePeriod) (·.sequence) date modifiers)).map (·.id)) :
    slice entry := by
  obtain ⟨candidate, listed, rfl⟩ := List.mem_map.mp found
  obtain ⟨modifies, -, depends, -⟩ := mem_declared_active.mp listed
  exact sliced.applied node member _ depends (same ▸ List.mem_map_of_mem modifies) inside

/-- Nodes of corresponding lists have the same identifiers. -/
theorem sameUnless_ids {α : Type} {id : α → String} {lefts rights : List α}
    (nodes : List.Forall₂ (SameUnless changed id) lefts rights) : rights.map id = lefts.map id := by
  induction nodes with
  | nil => rfl
  | cons same _ ih => rw [List.map_cons, List.map_cons, same.1, ih]

/-- A calculation outside a slice keeps agreement outside it. -/
theorem runCalculation_outside {left right : PackageContent} (changes : ChangedAt changed left right)
    (sliced : Slice left changed slice) (date : Date) {node : CalculationNode}
    (member : node ∈ left.calculations) (outside : ¬slice node.id) {running other : Running}
    (agree : RunningOff slice running other) :
    Agree (RunningOff slice)
      (runCalculation left.roundingRules (activeNodes left date) date running node)
      (runCalculation left.roundingRules (activeNodes right date) date other node) := by
  have base : baseValue left.roundingRules running.state.context node =
      baseValue left.roundingRules other.state.context node := by
    unfold baseValue
    rw [evaluateExpression_agree node.expression fun ref read =>
      agree.context ref fun inner => outside (sliced.expressions node member ref read inner)]
  have adjusts : ∀ id ∈ node.dependsOn, id ∈ (adjustments left).map Prod.fst → ¬slice id :=
    fun id depends adjusted inner => outside (sliced.adjusted node member id depends adjusted inner)
  have modifiers := declared_same (·.effectivePeriod) (·.sequence) date changes.modifiers
    sliced.base node (fun candidate listed depends => adjusts _ depends (by
      refine List.mem_map.mpr ⟨(candidate.id, candidate.appliesTo), ?_, rfl⟩
      exact List.mem_append_left _ (List.mem_append_left _ (List.mem_map_of_mem listed))))
    agree.modifiers
  have constraints := declared_same (·.effectivePeriod) (·.sequence) date changes.constraints
    sliced.base node (fun candidate listed depends => adjusts _ depends (by
      refine List.mem_map.mpr ⟨(candidate.id, candidate.appliesTo), ?_, rfl⟩
      exact List.mem_append_left _ (List.mem_append_right _ (List.mem_map_of_mem listed))))
    agree.constraints
  have fees := declared_same (·.effectivePeriod) (·.sequence) date changes.fees
    sliced.base node (fun candidate listed depends => adjusts _ depends (by
      refine List.mem_map.mpr ⟨(candidate.id, candidate.appliesTo), ?_, rfl⟩
      exact List.mem_append_right _ (List.mem_map_of_mem listed)))
    agree.fees
  have lists : ∀ {first second : List String} (more : List String),
      ListsOff slice first second → ListsOff slice (first ++ more) (second ++ more) := by
    intro first second more same id apart
    rw [List.mem_append, List.mem_append, same id apart]
  unfold runCalculation
  refine Agree.ite Iff.rfl ?_ (.success agree)
  unfold activeNodes
  dsimp only
  rw [base, ← modifiers, ← constraints, ← fees]
  refine Agree.bind_same _ fun value => ?_
  have start : Alike running.state other.state (running.state, value) (other.state, value) :=
    ⟨rfl, Carried.refl _ _⟩
  refine (Agree.foldlM_same (fun first second modifier listed alike => ?_) start).bind
    fun modified modified' alike => ?_
  · obtain ⟨modifies, -, depends, -⟩ := mem_declared_active.mp listed
    refine applyModifier_alike (fun ref read => agree.context ref fun inner => ?_) alike
    have inside := sliced.modifiers modifier modifies ref read inner
    refine adjusts modifier.id depends ?_ inside
    refine List.mem_map.mpr ⟨(modifier.id, modifier.appliesTo), ?_, rfl⟩
    exact List.mem_append_left _ (List.mem_append_left _ (List.mem_map_of_mem modifies))
  refine (Agree.foldlM_same (fun first second constraint _ alike =>
    applyConstraint_alike constraint alike) alike).bind fun constrained constrained' alike => ?_
  refine (Agree.foldlM_same (fun first second fee _ alike =>
    applyFee_alike node.expression fee alike) alike).bind fun charged charged' alike => ?_
  obtain ⟨final, result⟩ := charged
  obtain ⟨final', result'⟩ := charged'
  obtain ⟨same, carried⟩ := alike
  have same : result = result' := same
  subst same
  refine ((carried.set _ _).addStep _).bind fun _ _ kept => .success ?_
  exact ⟨fun id apart => kept id (agree.context id apart), lists _ agree.modifiers,
    lists _ agree.constraints, lists _ agree.fees⟩

/-- A calculation of a slice keeps agreement outside it. -/
theorem runCalculation_inside {left right : PackageContent} (changes : ChangedAt changed left right)
    (sliced : Slice left changed slice) {date : Date} {node : CalculationNode}
    (member : node ∈ left.calculations) (inside : slice node.id)
    {running other after next : Running} (agree : RunningOff slice running other)
    (first : runCalculation left.roundingRules (activeNodes left date) date running node =
      .ok after)
    (second : runCalculation left.roundingRules (activeNodes right date) date other node =
      .ok next) : RunningOff slice after next := by
  have context : AgreeOff slice after.state.context next.state.context := by
    intro entry apart
    have own : entry ≠ node.id := fun same => apart (same ▸ inside)
    rw [runCalculation_frame first own fun found =>
        apart (declared_inside sliced rfl member inside found),
      runCalculation_frame second own fun found =>
        apart (declared_inside sliced (sameUnless_ids changes.modifiers) member inside found)]
    exact agree.context entry apart
  cases applies : isActive node.effectivePeriod date with
  | false =>
    rw [runCalculation_inactive applies] at first second
    cases first
    cases second
    exact agree
  | true =>
    obtain ⟨one⟩ := runCalculation_active applies first
    obtain ⟨two⟩ := runCalculation_active applies second
    refine ⟨context, ?_, ?_, ?_⟩
    · rw [one.applied, two.applied]
      exact declared_off _ _ date changes.modifiers sliced.base node agree.modifiers
    · rw [one.applied, two.applied]
      exact declared_off _ _ date changes.constraints sliced.base node agree.constraints
    · rw [one.applied, two.applied]
      exact declared_off _ _ date changes.fees sliced.base node agree.fees

/-- Runs of the calculations keep agreement outside a slice. -/
theorem calculations_off {left right : PackageContent} (changes : ChangedAt changed left right)
    (sliced : Slice left changed slice) {date : Date} {nodes : List CalculationNode}
    (members : ∀ node ∈ nodes, node ∈ left.calculations) {running other after next : Running}
    (agree : RunningOff slice running other)
    (first : nodes.foldlM (runCalculation left.roundingRules (activeNodes left date) date) running =
      .ok after)
    (second : nodes.foldlM (runCalculation left.roundingRules (activeNodes right date) date) other =
      .ok next) : RunningOff slice after next := by
  induction nodes generalizing running other with
  | nil =>
    cases first
    cases second
    exact agree
  | cons node rest ih =>
    rw [List.foldlM_cons] at first second
    obtain ⟨middle, one, first⟩ := bind_eq_ok first
    obtain ⟨between, two, second⟩ := bind_eq_ok second
    have member := members node List.mem_cons_self
    refine ih (fun node later => members node (List.mem_cons_of_mem _ later)) ?_ first second
    by_cases inside : slice node.id
    · exact runCalculation_inside changes sliced member inside agree one two
    · have step := runCalculation_outside changes sliced date member inside agree
      rw [one, two] at step
      cases step with
      | success holds => exact holds

end Calculations

section Evaluations

variable {slice : String → Prop} {changed : String} {left right : PackageContent}

/-- Prepared evaluations agree outside a slice. -/
theorem prepare_off (changes : ChangedAt changed left right) (sliced : Slice left changed slice)
    {risk : RiskInput} {date : Date} {strict : Bool} {prepared other : Evaluation}
    (first : prepare left risk date strict = .ok prepared)
    (second : prepare right risk date strict = .ok other) :
    AgreeOff slice prepared.context other.context := by
  unfold prepare at first second
  rw [changes.inputs] at second
  obtain ⟨inputs, valid, first⟩ := bind_eq_ok first
  obtain ⟨inputs', valid', second⟩ := bind_eq_ok second
  rw [valid] at valid'
  cases valid'
  obtain ⟨opened, opens, first⟩ := bind_eq_ok first
  obtain ⟨opened', opens', second⟩ := bind_eq_ok second
  rw [opens] at opens'
  cases opens'
  obtain ⟨fixed, fixes, first⟩ := bind_eq_ok first
  obtain ⟨fixed', fixes', second⟩ := bind_eq_ok second
  have constants : AgreeOff slice fixed.context fixed'.context :=
    phase_agreeOff (setConstant_footprint date) changes.constants sliced.base
      (fun _ _ _ read => absurd read List.not_mem_nil) (fun _ _ => rfl) fixes fixes'
  have fees := presets_agreeOff (fun fee : PricingFee =>
    .decimal (presetAmount fee.effectivePeriod fee.amount date)) changes.fees sliced.base constants
  have constraints := presets_agreeOff (fun constraint : PremiumConstraint =>
    .decimal (presetAmount constraint.effectivePeriod constraint.amount date))
    changes.constraints sliced.base fees
  obtain ⟨preset, presets, first⟩ := bind_eq_ok first
  obtain ⟨preset', presets', second⟩ := bind_eq_ok second
  have modifiers : AgreeOff slice preset.context preset'.context :=
    phase_agreeOff (presetModifier_footprint date) changes.modifiers sliced.base sliced.modifiers
      constraints presets presets'
  obtain ⟨looked, looks, first⟩ := bind_eq_ok first
  obtain ⟨looked', looks', second⟩ := bind_eq_ok second
  have tables : AgreeOff slice looked.context looked'.context :=
    phase_agreeOff (resolveTable_footprint date) changes.tables sliced.base sliced.tables
      modifiers looks looks'
  exact phase_agreeOff (resolveRule_footprint date) changes.rules sliced.base sliced.rules
    tables first second

/-- The premium is the number of the source of the first output. -/
theorem finish_premium {package : PackageContent} {date : Date} {transaction : TransactionType}
    {state : Evaluation} {result : OracleResult}
    (finished : finish package date transaction state = .ok result) {output : PricingOutput}
    (head : package.outputs.head? = some output) :
    ∃ value, state.context output.sourceRef = some value ∧
      raising value.toDecimal = .ok result.finalPremium := by
  unfold finish at finished
  split at finished
  · cases finished
  · next first rest outputs =>
    rw [outputs] at head
    cases head
    split at finished
    · cases finished
    · next value entry =>
      obtain ⟨premium, converted, finished⟩ := bind_eq_ok finished
      obtain ⟨final, -, finished⟩ := bind_eq_ok finished
      split at finished
      · cases finished
      · cases finished
        exact ⟨value, entry, converted⟩

/-- Outside a slice the first output has one premium. -/
theorem premium_off {sorter : Sorter String} (distinct : (left.calculations.map (·.id)).Nodup)
    (changes : ChangedAt changed left right) (sliced : Slice left changed slice)
    {risk : RiskInput} {date : Date} {transaction : TransactionType} {strict : Bool}
    {first second : OracleResult}
    (one : evaluatePackage sorter left risk date transaction strict = .ok first)
    (two : evaluatePackage sorter right risk date transaction strict = .ok second)
    {output : PricingOutput} (head : left.outputs.head? = some output)
    (outside : ¬slice output.id) : first.finalPremium = second.finalPremium := by
  obtain ⟨_, -, one⟩ := bind_eq_ok one
  obtain ⟨_, -, two⟩ := bind_eq_ok two
  obtain ⟨prepared, prepares, one⟩ := bind_eq_ok one
  obtain ⟨prepared', prepares', two⟩ := bind_eq_ok two
  obtain ⟨calculated, calculates, one⟩ := bind_eq_ok one
  obtain ⟨calculated', calculates', two⟩ := bind_eq_ok two
  have start := prepare_off changes sliced prepares prepares'
  unfold calculate at calculates calculates'
  rw [changes.calculations, changes.roundingRules] at calculates'
  obtain ⟨nodes, sorted, calculates⟩ := bind_eq_ok calculates
  obtain ⟨nodes', sorted', calculates'⟩ := bind_eq_ok calculates'
  rw [sorted] at sorted'
  cases sorted'
  obtain ⟨running, runs, calculates⟩ := bind_eq_ok calculates
  obtain ⟨running', runs', calculates'⟩ := bind_eq_ok calculates'
  cases calculates
  cases calculates'
  have members : ∀ node ∈ nodes, node ∈ left.calculations := fun node member =>
    (sorted_perm distinct sorted).mem_iff.mp member
  have opened : RunningOff slice ⟨prepared, [], [], []⟩ ⟨prepared', [], [], []⟩ :=
    ⟨start, fun _ _ => Iff.rfl, fun _ _ => Iff.rfl, fun _ _ => Iff.rfl⟩
  have ran := calculations_off changes sliced members opened runs runs'
  obtain ⟨value, entry, number⟩ := finish_premium one head
  obtain ⟨value', entry', number'⟩ := finish_premium two (by rw [changes.outputs]; exact head)
  have listed : output ∈ left.outputs := List.mem_of_mem_head? (by rw [head]; rfl)
  have same := ran.context output.sourceRef fun inner => outside (sliced.outputs output listed inner)
  rw [entry, entry'] at same
  cases same
  rw [number] at number'
  exact Except.ok.inj number'

end Evaluations

/-- Identifiers of the nodes whose content prices: neither inputs nor calculations, coverages and
outputs. -/
def contentIds (package : PackageContent) : List String :=
  package.constants.map (·.id) ++ package.tables.map (·.id) ++ package.rules.map (·.id) ++
    package.modifiers.map (·.id) ++ package.constraints.map (·.id) ++ package.fees.map (·.id)

/-- Such a node is no output. -/
theorem contentIds_inner {package : PackageContent} (distinct : package.nodeIds.Nodup)
    {changed : String} (member : changed ∈ contentIds package) :
    changed ∉ package.outputs.map (·.id) := by
  intro found
  unfold PackageContent.nodeIds at distinct
  have apart := (List.nodup_append.mp distinct).2.2
  refine apart changed ?_ changed found rfl
  unfold contentIds at member
  simp only [List.mem_append] at member ⊢
  tauto

/-- A premium is that of a result. -/
theorem premium_eq_some {run : Except Failure OracleResult} {value : Decimal}
    (priced : premium run = some value) :
    ∃ result, run = .ok result ∧ result.finalPremium = value := by
  cases run with
  | error failure => cases priced
  | ok result => exact ⟨result, rfl, Option.some.inj priced⟩

/-- Whether declared links lead to the first output where references do. -/
def LinksFollowReferences (package : PackageContent) (changed : String) : Prop :=
  ∀ output, package.outputs.head? = some output →
    Precedes (flowEdges package) changed output.id → Precedes (dependencyEdges package) changed output.id

/-- A node that a declared path leads to is a descendant. -/
theorem mem_getDescendants {package : PackageContent} {changed other : String}
    (path : Precedes (dependencyEdges package) changed other) (apart : other ≠ changed) :
    other ∈ getDescendants package changed := by
  unfold getDescendants descendants
  rw [List.mem_insertionSort, List.mem_filter]
  obtain ⟨edge, -, member⟩ := Relation.TransGen.tail'_iff.mp path
  refine ⟨(dependencyEdges_ends package _ member).2, ?_⟩
  exact Bool.and_eq_true_iff.mpr ⟨bne_iff_ne.mpr apart, (precedes_iff _ _ _).mpr path⟩

/-- Where declared links follow the references from the changed node to the first output, a change
of premium puts the output among the descendants of the node. -/
theorem getDescendants_complete (sorter : Sorter String) (left right : IPIRPackage)
    (changed : String) (changes : ChangedAt changed left.toPackageContent right.toPackageContent)
    (node : changed ∈ contentIds left.toPackageContent)
    (follows : LinksFollowReferences left.toPackageContent changed)
    (risk : RiskInput) (date : Date) (transaction : TransactionType) (strict : Bool)
    (first second : OracleResult)
    (one : evaluatePackage sorter left.toPackageContent risk date transaction strict = .ok first)
    (two : evaluatePackage sorter right.toPackageContent risk date transaction strict = .ok second)
    (differs : ¬Decimal.Same first.finalPremium second.finalPremium) :
    ∃ output, left.outputs.head? = some output ∧
      output.id ∈ getDescendants left.toPackageContent changed := by
  obtain ⟨output, rest, outputs⟩ := List.exists_cons_of_ne_nil left.valid.outputs_nonempty
  have head : left.outputs.head? = some output := by rw [outputs]; rfl
  have apart : output.id ≠ changed := by
    rintro rfl
    refine contentIds_inner left.valid.ids_distinct node (List.mem_map_of_mem ?_)
    rw [outputs]
    exact List.mem_cons_self
  refine ⟨output, head, mem_getDescendants (follows output head ?_) apart⟩
  by_contra unreached
  have outside : ¬Reaches (flowEdges left.toPackageContent) changed output.id := by
    rw [reaches_iff]
    rintro (same | path)
    · exact apart same.symm
    · exact unreached path
  have same := premium_off left.valid.sections_distinct.calculations changes
    (reaches_slice left.toPackageContent changed) one two head outside
  exact differs (same ▸ Decimal.Same.refl _)

/-- A package whose premium is a base rate, with the declared dependencies of its calculation. -/
def declaringContent (baseRate : FiniteDecimal) (dependsOn : List String) : PackageContent :=
  { flatContent baseRate (.reference "base_rate") with
    calculations := [⟨"total", .reference "base_rate", dependsOn, none, none, none⟩] }

/-- The base rate is declared. -/
def linkedPackage : IPIRPackage where
  toPackageContent := declaringContent ⟨false, 10000, -2⟩ ["base_rate"]
  valid := by decide

/-- The base rate is declared and higher. -/
def raisedLinkedPackage : IPIRPackage where
  toPackageContent := declaringContent ⟨false, 12000, -2⟩ ["base_rate"]
  valid := by decide

/-- Such packages differ in the base rate. -/
theorem declaring_changedAt (one two : FiniteDecimal) (dependsOn : List String) :
    ChangedAt "base_rate" (declaringContent one dependsOn) (declaringContent two dependsOn) where
  effectivePeriod := rfl
  transactionTypes := rfl
  inputs := rfl
  calculations := rfl
  roundingRules := rfl
  coverages := rfl
  outputs := rfl
  constants := .cons ⟨rfl, fun other => absurd rfl other⟩ .nil
  tables := .nil
  rules := .nil
  modifiers := .nil
  constraints := .nil
  fees := .nil

/-- One hundred is not one hundred and twenty. -/
theorem premiums_apart :
    ¬Decimal.Same (.finite false 10000 (-2)) (.finite false 12000 (-2)) := by
  intro same
  have numbers := Number.rational.inj same
  norm_num [signed] at numbers

/-- A change of a declared base rate reaches the output. -/
theorem getDescendants_complete_linked :
    ∃ output, linkedPackage.outputs.head? = some output ∧
      output.id ∈ getDescendants linkedPackage.toPackageContent "base_rate" := by
  have one : premium (evaluatePackage (byGenerations String) linkedPackage.toPackageContent
      ⟨[], by decide⟩ sampleDay .newBusiness true) = some (.finite false 10000 (-2)) := by
    decide +kernel
  have two : premium (evaluatePackage (byGenerations String) raisedLinkedPackage.toPackageContent
      ⟨[], by decide⟩ sampleDay .newBusiness true) = some (.finite false 12000 (-2)) := by
    decide +kernel
  obtain ⟨first, evaluated, low⟩ := premium_eq_some one
  obtain ⟨second, evaluated', high⟩ := premium_eq_some two
  refine getDescendants_complete (byGenerations String) linkedPackage raisedLinkedPackage "base_rate"
    (declaring_changedAt _ _ _) (by decide) ?_ ⟨[], by decide⟩ sampleDay .newBusiness true
    first second evaluated evaluated' (by rw [low, high]; exact premiums_apart)
  intro output head _
  cases head
  decide

/-- Not every change of premium reaches the output in the graph: a base rate need not be declared
where it is referred to. -/
theorem getDescendants_misses :
    ¬∀ (sorter : Sorter String) (left right : IPIRPackage) (changed : String),
      ChangedAt changed left.toPackageContent right.toPackageContent →
      changed ∈ contentIds left.toPackageContent →
      checkDependencies sorter left.toPackageContent = .ok () →
      ∀ (risk : RiskInput) (date : Date) (transaction : TransactionType) (strict : Bool)
        (first second : OracleResult),
      evaluatePackage sorter left.toPackageContent risk date transaction strict = .ok first →
      evaluatePackage sorter right.toPackageContent risk date transaction strict = .ok second →
      ¬Decimal.Same first.finalPremium second.finalPremium →
      ∃ output, left.outputs.head? = some output ∧
        output.id ∈ getDescendants left.toPackageContent changed := by
  intro always
  have one : premium (evaluatePackage (byGenerations String) flatPackage.toPackageContent
      ⟨[], by decide⟩ sampleDay .newBusiness true) = some (.finite false 10000 (-2)) := by
    decide +kernel
  have two : premium (evaluatePackage (byGenerations String) raisedPackage.toPackageContent
      ⟨[], by decide⟩ sampleDay .newBusiness true) = some (.finite false 12000 (-2)) := by
    decide +kernel
  obtain ⟨first, evaluated, low⟩ := premium_eq_some one
  obtain ⟨second, evaluated', high⟩ := premium_eq_some two
  have built : checkDependencies (byGenerations String) flatPackage.toPackageContent = .ok () :=
    (checkDependencies_iff _ _).mpr ⟨fun id => if id = "total" then 0 else 1, by decide⟩
  obtain ⟨output, -, found⟩ := always (byGenerations String) flatPackage raisedPackage "base_rate"
    (declaring_changedAt _ _ []) (by decide) built _ _ _ _ first second evaluated evaluated'
    (by rw [low, high]; exact premiums_apart)
  have none : getDescendants flatPackage.toPackageContent "base_rate" = [] := by decide +kernel
  rw [none] at found
  cases found

end RateGuard
