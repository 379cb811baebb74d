import RateGuard.Diff.Soundness

/-!
# Comparison of equal nodes

Nodes compared with themselves do not differ, so packages with the same other nodes differ in
what is reported of their periods and modifiers.
-/

open DecimalFloat CalendarDate Outcome KeyedList

namespace RateGuard

/-- A list that differs in one element of an unchanged key finds the same elements, but for that
key. -/
theorem lastWith_replace {α : Type} (id : α → String) (before after : List α) {node other : α}
    (same : id other = id node) (distinct : ((before ++ node :: after).map id).Nodup)
    (key : String) :
    (lastWith id (before ++ node :: after) key = some node ∧
      lastWith id (before ++ other :: after) key = some other) ∨
    lastWith id (before ++ node :: after) key = lastWith id (before ++ other :: after) key := by
  by_cases named : id node = key
  · have distinctOther : ((before ++ other :: after).map id).Nodup := by
      simpa [same] using distinct
    have member : node ∈ before ++ node :: after := by simp
    have otherMember : other ∈ before ++ other :: after := by simp
    have first := lastWith_of_mem distinct member
    have second := lastWith_of_mem distinctOther otherMember
    rw [same, named] at second
    rw [named] at first
    exact .inl ⟨first, second⟩
  · refine .inr ?_
    have named' : id other ≠ key := fun equal => named (same.symm.trans equal)
    unfold lastWith
    simp only [List.reverse_append, List.reverse_cons, List.append_assoc, List.find?_append,
      List.find?_cons, List.find?_nil, beq_eq_false_iff_ne.mpr named,
      beq_eq_false_iff_ne.mpr named']

/-- A comparison succeeds when it does for every key. -/
theorem compareById_succeeds {α : Type} {id : α → String}
    {compare : String → Option α → Option α → Except Failure (List SemanticDifference)}
    {left right : List α}
    (each : ∀ key, ∃ part, compare key (lastWith id left key) (lastWith id right key) = .ok part) :
    ∃ differences, compareById id compare left right = .ok differences := by
  have traversed : ∀ keys : List String, ∃ parts, keys.mapM (fun key =>
      compare key (lastWith id left key) (lastWith id right key)) = .ok parts := by
    intro keys
    induction keys with
    | nil => exact ⟨[], rfl⟩
    | cons key rest ih =>
      obtain ⟨part, found⟩ := each key
      obtain ⟨parts, tail⟩ := ih
      exact ⟨part :: parts, by rw [List.mapM_cons, found, tail]; rfl⟩
  obtain ⟨parts, found⟩ := traversed (sortedUnion (left.map id) (right.map id))
  refine ⟨parts.flatten, ?_⟩
  dsimp only [compareById]
  rw [found]
  rfl

/-- Every reported difference is one of some key. -/
theorem compareById_source {α : Type} {id : α → String}
    {compare : String → Option α → Option α → Except Failure (List SemanticDifference)}
    {left right : List α} {differences : List SemanticDifference}
    (compared : compareById id compare left right = .ok differences)
    {difference : SemanticDifference} (member : difference ∈ differences) :
    ∃ key part, compare key (lastWith id left key) (lastWith id right key) = .ok part ∧
      difference ∈ part := by
  obtain ⟨parts, traversed, flat⟩ := bind_eq_ok compared
  cases flat
  obtain ⟨part, inside, found⟩ := List.mem_flatten.mp member
  obtain ⟨key, -, computed⟩ := mapM_source traversed inside
  exact ⟨key, part, computed, found⟩

/-- A list compared with itself reports nothing when no node differs from itself. -/
theorem compareById_self {α : Type} {id : α → String}
    {compare : String → Option α → Option α → Except Failure (List SemanticDifference)}
    {nodes : List α} (same : ∀ key node, node ∈ nodes →
      compare key (some node) (some node) = .ok [])
    (absent : ∀ key, compare key none none = .ok []) :
    compareById id compare nodes nodes = .ok [] := by
  have each : ∀ key, compare key (lastWith id nodes key) (lastWith id nodes key) = .ok [] := by
    intro key
    cases found : lastWith id nodes key with
    | none => exact absent key
    | some node => exact same key node (lastWith_eq_some found).1
  have succeeds : ∃ differences, compareById id compare nodes nodes = .ok differences :=
    compareById_succeeds fun key => ⟨[], each key⟩
  obtain ⟨differences, compared⟩ := succeeds
  rw [compared]
  congr 1
  refine List.eq_nil_iff_forall_not_mem.mpr fun difference member => ?_
  obtain ⟨key, part, computed, inside⟩ := compareById_source compared member
  rw [each key] at computed
  cases computed
  exact List.not_mem_nil inside

/-- A number does not differ from itself. -/
theorem compareNumbers_self (idKind kind key field : String) (type : DifferenceType)
    (nodeType : DifferenceNode) (severity : DifferenceSeverity) (value : FiniteDecimal) :
    compareNumbers idKind kind key field type nodeType severity value value = [] :=
  compareNumbers_eq_nil.mpr (Decimal.Same.refl _)

/-- A table does not differ from itself. -/
theorem compareRateTables_self (table : RateTable) : compareRateTables table table = [] := by
  refine List.flatMap_eq_nil_iff.mpr fun key _ => ?_
  cases lastWith formatMatchKey table.rows key with
  | none => rfl
  | some row =>
    have equal : numbersDiffer row.value row.value = false :=
      numbersDiffer_eq_false.mpr (Decimal.Same.refl _)
    simp only [compareRows, equal, Bool.false_eq_true, if_false]

/-- Modifiers with one amount and order differ in their starts only. -/
theorem compareModifier_periods (key : String) (modifier : PricingModifier)
    (period : Option EffectivePeriod) {value : FiniteDecimal}
    (amount : modifier.value = .amount value) :
    compareModifier key (some modifier) (some { modifier with effectivePeriod := period }) =
      .ok (compareEffectivePeriods ("modifiers." ++ key) key .modifier modifier.effectivePeriod
        period) := by
  have numbers := compareNumbers_self "modifier" "modifiers" key "value" .modifierChange .modifier
    .high value
  have sequences : compareSequences "modifier" "modifiers" key .modifier modifier.sequence
      modifier.sequence = [] := compareSequences_eq_nil.mpr rfl
  simp only [compareModifier, modifierNumber, amount, numbers, sequences, List.append_nil, bind,
    Except.bind]
  rfl

/-- A modifier does not differ from itself. -/
theorem compareModifier_self (key : String) (modifier : PricingModifier) {value : FiniteDecimal}
    (amount : modifier.value = .amount value) :
    compareModifier key (some modifier) (some modifier) = .ok [] := by
  have same := compareModifier_periods key modifier modifier.effectivePeriod amount
  rw [show compareEffectivePeriods ("modifiers." ++ key) key .modifier modifier.effectivePeriod
    modifier.effectivePeriod = [] from compareEffectivePeriods_eq_nil.mpr rfl] at same
  exact same

/-- Contents with the same other nodes differ in the period and the modifiers. -/
theorem comparePackages_nodes (left right : PackageContent) (inputs : right.inputs = left.inputs)
    (constants : right.constants = left.constants) (tables : right.tables = left.tables)
    (constraints : right.constraints = left.constraints) (fees : right.fees = left.fees) :
    comparePackages left right =
      (compareById (fun node : PricingModifier => node.id) compareModifier left.modifiers
        right.modifiers).map fun differences =>
        ⟨left.id, right.id, left.version, right.version,
          compareEffectivePeriods "package" left.id .package (some left.effectivePeriod)
            (some right.effectivePeriod) ++ differences⟩ := by
  have sameInputs : compareById (fun node : PricingInput => node.id)
      (fun key x y => .ok (compareInput key x y)) left.inputs left.inputs = .ok [] :=
    compareById_self (fun _ _ _ => rfl) fun _ => rfl
  have sameConstants : compareById (fun node : PricingConstant => node.id)
      (fun key x y => .ok (compareConstant key x y)) left.constants left.constants = .ok [] :=
    compareById_self (fun _ _ _ => congrArg Except.ok (compareNumbers_self ..)) fun _ => rfl
  have sameTables : compareById (fun table : RateTable => table.id)
      (fun _ x y => .ok (compareTable x y)) left.tables left.tables = .ok [] :=
    compareById_self (fun _ table _ => congrArg Except.ok (compareRateTables_self table))
      fun _ => rfl
  have sameConstraints : compareById (fun node : PremiumConstraint => node.id)
      (fun key x y => .ok (compareConstraint key x y)) left.constraints left.constraints =
        .ok [] := by
    refine compareById_self (fun key node _ => congrArg Except.ok ?_) fun _ => rfl
    rw [compareConstraint, compareNumbers_self, compareSequences_eq_nil.mpr rfl]
    rfl
  have sameFees : compareById (fun node : PricingFee => node.id)
      (fun key x y => .ok (compareFee key x y)) left.fees left.fees = .ok [] := by
    refine compareById_self (fun key node _ => congrArg Except.ok ?_) fun _ => rfl
    rw [compareFee, compareNumbers_self, compareSequences_eq_nil.mpr rfl]
    rfl
  unfold comparePackages
  rw [inputs, constants, tables, constraints, fees, sameInputs, sameConstants, sameTables,
    sameConstraints, sameFees]
  cases compareById (fun node : PricingModifier => node.id) compareModifier left.modifiers
      right.modifiers with
  | error failure => rfl
  | ok differences =>
    simp only [bind, Except.bind, Except.map, pure, Except.pure, List.append_nil]

/-- Reported differences of modifiers compared with themselves are none. -/
theorem compareModifiers_reflexive {modifiers : List PricingModifier}
    {differences : List SemanticDifference}
    (compared : compareById (fun node : PricingModifier => node.id) compareModifier modifiers
      modifiers = .ok differences) : differences = [] := by
  refine List.eq_nil_iff_forall_not_mem.mpr fun difference member => ?_
  obtain ⟨key, part, computed, inside⟩ := compareById_source compared member
  cases found : lastWith (fun node : PricingModifier => node.id) modifiers key with
  | none =>
    rw [found] at computed
    cases computed
    exact List.not_mem_nil inside
  | some modifier =>
    rw [found] at computed
    obtain ⟨value, _, amount, _, _⟩ := compareModifier_parts computed
    rw [compareModifier_self key modifier amount] at computed
    cases computed
    exact List.not_mem_nil inside

end RateGuard
