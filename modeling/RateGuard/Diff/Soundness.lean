import RateGuard.Diff.Unchecked

/-!
# Soundness of the package comparison

Packages that the comparison finds equal, and that agree on everything it does
not check, have the same premium for every risk, date and transaction. Equal
numbers may be written differently, and text keys match the written number;
so text keys read inputs, or compared numbers are written alike.
-/

open DecimalFloat CalendarDate TopologicalSort Outcome KeyedList

namespace RateGuard

/-- Text keys of exact dimensions read risk inputs. -/
def TextKeysReadInputs (package : PackageContent) : Prop :=
  ∀ table ∈ package.tables, ∀ row ∈ table.rows, ∀ pair ∈ table.dimensions.zip row.rowMatches,
    pair.1.lookupType = .exact → ∀ text, pair.2 = .exact (.str text) →
      package.IsInput pair.1.inputRef

/-- Numbers of two packages that are equal are written alike. -/
def WrittenAlike (left right : PackageContent) : Prop :=
  ∀ number ∈ left.numbers, ∀ other ∈ right.numbers,
    Decimal.Same number.toDecimal other.toDecimal → number = other

variable {rel : Decimal → Decimal → Prop} {pinned : String → Prop} {known : Context}

/-- Entries with known values match text keys alike. -/
theorem StateRel.textKeys {first second : Evaluation}
    (states : StateRel rel pinned known first second) {dimensions : List TableDimension}
    {keys : List RowMatch}
    (marked : ∀ pair ∈ dimensions.zip keys, pair.1.lookupType = .exact →
      ∀ text, pair.2 = .exact (.str text) → pinned pair.1.inputRef) :
    TextKeysAgree first.context second.context dimensions keys :=
  fun pair member exact text key =>
    (states.first _ (marked pair member exact text key)).trans
      (states.second _ (marked pair member exact text key)).symm

/-- Equal entries match text keys alike. -/
theorem StateRel.textKeys_of_eq {first second : Evaluation}
    (states : StateRel Eq pinned known first second) (dimensions : List TableDimension)
    (keys : List RowMatch) : TextKeysAgree first.context second.context dimensions keys := by
  intro pair _ _ _ _
  have entry := states.contexts pair.1.inputRef
  generalize first.context pair.1.inputRef = one at entry ⊢
  generalize second.context pair.1.inputRef = two at entry ⊢
  cases entry with
  | none => rfl
  | some values =>
    cases values with
    | int value => rfl
    | decimal holds => rw [holds]
    | str value => rfl
    | bool value => rfl
    | date value => rfl

/-- Lists of nodes compared by identifier have distinct identifiers in valid packages. -/
structure DistinctNodes (package : PackageContent) : Prop where
  /-- Constants. -/
  constants : (package.constants.map (·.id)).Nodup
  /-- Tables. -/
  tables : (package.tables.map (·.id)).Nodup
  /-- Modifiers. -/
  modifiers : (package.modifiers.map (·.id)).Nodup
  /-- Constraints. -/
  constraints : (package.constraints.map (·.id)).Nodup
  /-- Fees. -/
  fees : (package.fees.map (·.id)).Nodup

/-- Valid packages have distinct nodes of every kind. -/
theorem PackageContent.Valid.distinctNodes {package : PackageContent} (valid : package.Valid) :
    DistinctNodes package := by
  have distinct := valid.ids_distinct
  simp only [PackageContent.nodeIds, List.append_assoc] at distinct
  obtain ⟨-, others, -⟩ := List.nodup_append.mp distinct
  obtain ⟨constants, others, -⟩ := List.nodup_append.mp others
  obtain ⟨tables, others, -⟩ := List.nodup_append.mp others
  obtain ⟨-, others, -⟩ := List.nodup_append.mp others
  obtain ⟨-, others, -⟩ := List.nodup_append.mp others
  obtain ⟨modifiers, others, -⟩ := List.nodup_append.mp others
  obtain ⟨constraints, others, -⟩ := List.nodup_append.mp others
  obtain ⟨fees, -, -⟩ := List.nodup_append.mp others
  exact ⟨constants, tables, modifiers, constraints, fees⟩

/-- No difference of numbers is reported exactly when they denote one value. -/
theorem compareNumbers_eq_nil {idKind kind key field : String} {type : DifferenceType}
    {nodeType : DifferenceNode} {severity : DifferenceSeverity} {left right : FiniteDecimal} :
    compareNumbers idKind kind key field type nodeType severity left right = [] ↔
      Decimal.Same left.toDecimal right.toDecimal := by
  unfold compareNumbers
  rw [← numbersDiffer_eq_false]
  cases numbersDiffer left right <;> simp

/-- Reported differences of numbers have the given type. -/
theorem compareNumbers_type {idKind kind key field : String} {type : DifferenceType}
    {nodeType : DifferenceNode} {severity : DifferenceSeverity} {left right : FiniteDecimal}
    {difference : SemanticDifference} (reported : difference ∈
      compareNumbers idKind kind key field type nodeType severity left right) :
    difference.differenceType = type := by
  unfold compareNumbers at reported
  split at reported
  · obtain rfl := List.mem_singleton.mp reported
    rfl
  · cases reported

/-- No difference of sequences is reported exactly when they are the same. -/
theorem compareSequences_eq_nil {idKind kind key : String} {nodeType : DifferenceNode}
    {left right : Option Int} :
    compareSequences idKind kind key nodeType left right = [] ↔ left = right := by
  unfold compareSequences
  by_cases same : left = right <;> simp [same]

/-- Reported differences of sequences are changes of order. -/
theorem compareSequences_type {idKind kind key : String} {nodeType : DifferenceNode}
    {left right : Option Int} {difference : SemanticDifference}
    (reported : difference ∈ compareSequences idKind kind key nodeType left right) :
    difference.differenceType = .orderChange := by
  unfold compareSequences at reported
  split at reported
  · cases reported
  · obtain rfl := List.mem_singleton.mp reported
    rfl

/-- No difference of starts is reported exactly when they are the same. -/
theorem compareEffectivePeriods_eq_nil {path nodeId : String} {nodeType : DifferenceNode}
    {left right : Option EffectivePeriod} :
    compareEffectivePeriods path nodeId nodeType left right = [] ↔
      left.map (·.start) = right.map (·.start) := by
  unfold compareEffectivePeriods
  by_cases same : left.map (·.start) = right.map (·.start) <;> simp [same]

/-- Periods with one start and one end are active alike. -/
theorem isActive_of_bounds {left right : Option EffectivePeriod} (date : Date)
    (starts : left.map (·.start) = right.map (·.start))
    (ends : left.bind (·.endDate) = right.bind (·.endDate)) :
    isActive left date = isActive right date := by
  cases left with
  | none =>
    cases right with
    | none => rfl
    | some other => simp at starts
  | some period =>
    cases right with
    | none => simp at starts
    | some other =>
      have sameStart : period.start = other.start := Option.some.inj starts
      have sameEnd : period.endDate = other.endDate := ends
      simp only [isActive, sameStart, sameEnd]

/-- Compared numbers are related once equal values are. -/
def Upgrades (rel : Decimal → Decimal → Prop) (left right : PackageContent) : Prop :=
  ∀ number ∈ left.numbers, ∀ other ∈ right.numbers,
    Decimal.Same number.toDecimal other.toDecimal → rel number.toDecimal other.toDecimal

/-- Types of differences that need not concern every policy. -/
def DifferenceType.IsNarrow : DifferenceType → Prop
  | effectiveDateChange | tableRowChange | tableRowMissing | tableRowExtra | modifierChange => True
  | _ => False

/-- A reported part of another type than the narrow ones is empty. -/
theorem part_eq_nil (type : DifferenceType) (wide : ¬type.IsNarrow)
    {part : List SemanticDifference}
    (typed : ∀ difference ∈ part, difference.differenceType = type)
    (narrow : ∀ difference ∈ part, difference.differenceType.IsNarrow) : part = [] := by
  refine List.eq_nil_iff_forall_not_mem.mpr fun difference member => wide ?_
  rw [← typed difference member]
  exact narrow difference member

/-- Packages with narrow differences only, that agree on the unchecked fields, price alike on a
date when those differences do not matter on it. -/
theorem pricesAlike_of_narrow {left right : PackageContent}
    (valid : left.Valid) (validRight : right.Valid) {result : SemanticDiffResult}
    (compared : comparePackages left right = .ok result)
    (narrow : ∀ difference ∈ result.differences, difference.differenceType.IsNarrow)
    (unchecked : SameUnchecked left right) (upgrades : Upgrades rel left right) {date : Date}
    (active : isActive (some left.effectivePeriod) date =
      isActive (some right.effectivePeriod) date)
    (tables : ∀ table ∈ left.tables, ∀ other ∈ right.tables, TableUnchecked table other →
      TableAlike rel left.IsInput known date table other)
    (modifiers : ∀ modifier ∈ left.modifiers, ∀ other ∈ right.modifiers,
      ModifierUnchecked modifier other →
      ModifierAlike rel left.IsInput known date modifier other) :
    PricesAlike rel left.IsInput known date left right := by
  have parts := comparePackages_parts compared
  have nodes := valid.distinctNodes
  have others := validRight.distinctNodes
  refine unchecked.pricesAlike valid.separated active ?constants tables modifiers
    ?constraints ?fees
  case constants =>
    intro node member other inside same
    obtain ⟨_, compared, within⟩ := parts.constants
    obtain ⟨part, found, reported⟩ := compareById_pair compared nodes.constants
      others.constants member inside same
    cases found
    have values := compareNumbers_eq_nil.mp (part_eq_nil .valueChange (fun wide => wide)
      (fun _ one => compareNumbers_type one) fun d one => narrow d (within d (reported d one)))
    refine upgrades _ ?_ _ ?_ values
    · simp only [PackageContent.numbers, List.mem_append]
      exact .inl (.inl (.inl (.inl (List.mem_map_of_mem member))))
    · simp only [PackageContent.numbers, List.mem_append]
      exact .inl (.inl (.inl (.inl (List.mem_map_of_mem inside))))
  case constraints =>
    intro constraint member other inside uncheckedConstraint
    obtain ⟨_, compared, within⟩ := parts.constraints
    obtain ⟨part, found, reported⟩ := compareById_pair compared nodes.constraints
      others.constraints member inside uncheckedConstraint.id
    cases found
    have within : ∀ d, d ∈ compareConstraint _ _ _ → d.differenceType.IsNarrow :=
      fun d one => narrow d (within d (reported d one))
    have values := compareNumbers_eq_nil.mp (part_eq_nil .constraintChange (fun wide => wide)
      (fun _ one => compareNumbers_type one)
      fun d one => within d (List.mem_append_left _ one))
    have sequences := compareSequences_eq_nil.mp (part_eq_nil .orderChange (fun wide => wide)
      (fun _ one => compareSequences_type one)
      fun d one => within d (List.mem_append_right _ one))
    refine ⟨uncheckedConstraint.id, uncheckedConstraint.constraintType, upgrades _ ?_ _ ?_ values,
      sequences, uncheckedConstraint.period⟩
    · simp only [PackageContent.numbers, List.mem_append]
      exact .inl (.inr (List.mem_map_of_mem member))
    · simp only [PackageContent.numbers, List.mem_append]
      exact .inl (.inr (List.mem_map_of_mem inside))
  case fees =>
    intro fee member other inside uncheckedFee
    obtain ⟨_, compared, within⟩ := parts.fees
    obtain ⟨part, found, reported⟩ := compareById_pair compared nodes.fees
      others.fees member inside uncheckedFee.id
    cases found
    have within : ∀ d, d ∈ compareFee _ _ _ → d.differenceType.IsNarrow :=
      fun d one => narrow d (within d (reported d one))
    have values := compareNumbers_eq_nil.mp (part_eq_nil .feeChange (fun wide => wide)
      (fun _ one => compareNumbers_type one)
      fun d one => within d (List.mem_append_left _ one))
    have sequences := compareSequences_eq_nil.mp (part_eq_nil .orderChange (fun wide => wide)
      (fun _ one => compareSequences_type one)
      fun d one => within d (List.mem_append_right _ one))
    refine ⟨uncheckedFee.id, upgrades _ ?_ _ ?_ values, sequences, uncheckedFee.period⟩
    · simp only [PackageContent.numbers, List.mem_append]
      exact .inr (List.mem_map_of_mem member)
    · simp only [PackageContent.numbers, List.mem_append]
      exact .inr (List.mem_map_of_mem inside)

/-- Compared modifiers have amounts, whose starts, values and orders are compared. -/
theorem compareModifier_parts {key : String} {modifier other : PricingModifier}
    {part : List SemanticDifference}
    (compared : compareModifier key (some modifier) (some other) = .ok part) :
    ∃ value otherValue, modifier.value = .amount value ∧ other.value = .amount otherValue ∧
      part = compareEffectivePeriods ("modifiers." ++ key) key .modifier
          modifier.effectivePeriod other.effectivePeriod ++
        compareNumbers "modifier" "modifiers" key "value" .modifierChange .modifier .high
          value otherValue ++
        compareSequences "modifier" "modifiers" key .modifier
          modifier.sequence other.sequence := by
  obtain ⟨value, one, compared⟩ := Outcome.bind_eq_ok compared
  obtain ⟨otherValue, two, compared⟩ := Outcome.bind_eq_ok compared
  cases compared
  refine ⟨value, otherValue, ?_, ?_, rfl⟩
  · unfold modifierNumber at one
    split at one
    · rename_i amount
      cases one
      exact amount
    · cases one
  · unfold modifierNumber at two
    split at two
    · rename_i amount
      cases two
      exact amount
    · cases two

/-- Amounts of modifiers are compared numbers. -/
theorem modifier_number {package : PackageContent} {modifier : PricingModifier}
    (member : modifier ∈ package.modifiers) {value : FiniteDecimal}
    (amount : modifier.value = .amount value) : value ∈ package.numbers := by
  simp only [PackageContent.numbers, List.mem_append, List.mem_flatMap]
  exact .inl (.inl (.inr ⟨modifier, member, by rw [amount]; exact List.mem_singleton.mpr rfl⟩))

/-- Values of rows are compared numbers. -/
theorem row_number {package : PackageContent} {table : RateTable}
    (member : table ∈ package.tables) {row : TableRow} (inside : row ∈ table.rows) :
    row.value ∈ package.numbers := by
  simp only [PackageContent.numbers, List.mem_append, List.mem_flatMap, List.mem_map]
  exact .inl (.inl (.inl (.inr ⟨table, member, row, inside, rfl⟩)))

/-- Packages found equal that agree on the unchecked fields price alike on every date. -/
theorem pricesAlike_of_equal (known : Context) (congruence : DecimalCongruence rel) {left right : PackageContent}
    (valid : left.Valid) (validRight : right.Valid) {result : SemanticDiffResult}
    (compared : comparePackages left right = .ok result) (equal : result.differences = [])
    (unchecked : SameUnchecked left right) (upgrades : Upgrades rel left right)
    (textual : ∀ table ∈ left.tables, ∀ row ∈ table.rows, ∀ first second,
      StateRel rel left.IsInput known first second →
      TextKeysAgree first.context second.context table.dimensions row.rowMatches)
    (date : Date) : PricesAlike rel left.IsInput known date left right := by
  have parts := comparePackages_parts compared
  have nothing : ∀ part : List SemanticDifference,
      (∀ difference ∈ part, difference ∈ result.differences) → part = [] := by
    intro part within
    refine List.eq_nil_iff_forall_not_mem.mpr fun difference member => ?_
    have impossible := within difference member
    rw [equal] at impossible
    cases impossible
  have narrow : ∀ difference ∈ result.differences, difference.differenceType.IsNarrow := by
    rw [equal]
    exact fun _ member => nomatch member
  have nodes := valid.distinctNodes
  have others := validRight.distinctNodes
  refine pricesAlike_of_narrow valid validRight compared narrow unchecked upgrades ?active
    ?tables ?modifiers
  case active =>
    exact isActive_of_bounds date
      (compareEffectivePeriods_eq_nil.mp (nothing _ parts.period)) unchecked.endDate
  case tables =>
    intro table member other inside uncheckedTable
    refine ⟨uncheckedTable.id, by rw [uncheckedTable.period], fun first second states => ?_⟩
    obtain ⟨_, compared, within⟩ := parts.tables
    obtain ⟨part, found, reported⟩ := compareById_pair compared nodes.tables
      others.tables member inside uncheckedTable.id
    cases found
    have rows := compareRateTables_eq_nil (nothing _ fun d one => within d (reported d one))
    have alike : ∀ key, RowAlike rel table other key := by
      intro key
      have row := rows key
      unfold RowAlike
      generalize one : lastWith formatMatchKey table.rows key = leftRow at row ⊢
      generalize two : lastWith formatMatchKey other.rows key = rightRow at row ⊢
      cases row with
      | none => exact .none
      | some values =>
        exact .some (upgrades _ (row_number member (lastWith_eq_some one).1) _
          (row_number inside (lastWith_eq_some two).1) values)
    exact lookupTable_alike congruence uncheckedTable states
      (fun row found => textual table member row found _ _ states)
      (fun row _ differs => absurd (alike _) differs)
      (fun row _ differs => absurd (alike _) differs)
  case modifiers =>
    intro modifier member other inside uncheckedModifier
    obtain ⟨_, compared, within⟩ := parts.modifiers
    obtain ⟨part, found, reported⟩ := compareById_pair compared nodes.modifiers
      others.modifiers member inside uncheckedModifier.id
    have empty := nothing part fun d one => within d (reported d one)
    obtain ⟨value, otherValue, amount, otherAmount, rfl⟩ := compareModifier_parts found
    obtain ⟨before, sequences⟩ := List.append_eq_nil_iff.mp empty
    obtain ⟨periods, numbers⟩ := List.append_eq_nil_iff.mp before
    refine {
      id := uncheckedModifier.id
      modifierType := uncheckedModifier.modifierType
      eligibility := uncheckedModifier.eligibility
      sequence := compareSequences_eq_nil.mp sequences
      active := isActive_of_bounds date (compareEffectivePeriods_eq_nil.mp periods)
        uncheckedModifier.endDate
      value := .inl ?_ }
    rw [amount, otherAmount]
    exact .amount (upgrades _ (modifier_number member amount) _
      (modifier_number inside otherAmount) (compareNumbers_eq_nil.mp numbers))

/-- First day of the sample packages. -/
def sampleDay : Date where
  year := 2026
  month := 1
  day := 1
  yearValid := by decide
  dayValid := by decide

/-- Content of a package without inputs whose premium is an expression over a base rate. -/
def flatContent (baseRate : FiniteDecimal) (expression : Operand) : PackageContent where
  id := "flat_rate"
  version := "1.0.0"
  effectivePeriod := ⟨sampleDay, none, nofun⟩
  transactionTypes := [.newBusiness]
  inputs := []
  constants := [⟨"base_rate", baseRate, none⟩]
  tables := []
  rules := []
  calculations := [⟨"total", expression, [], none, none, none⟩]
  roundingRules := []
  modifiers := []
  constraints := []
  fees := []
  coverages := []
  outputs := [⟨"premium", "total", none⟩]

/-- Package whose premium is a base rate of one hundred. -/
def flatPackage : IPIRPackage where
  toPackageContent := flatContent ⟨false, 10000, -2⟩ (.reference "base_rate")
  valid := by decide

/-- The same package with the base rate written without cents. -/
def rewrittenPackage : IPIRPackage where
  toPackageContent := flatContent ⟨false, 100, 0⟩ (.reference "base_rate")
  valid := by decide

/-- Package whose premium is twice that base rate. -/
def doubledPackage : IPIRPackage where
  toPackageContent := flatContent ⟨false, 10000, -2⟩
    (.expression .multiply [.reference "base_rate", .literal (.int 2)])
  valid := by decide

end RateGuard
