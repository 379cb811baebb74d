import RateGuard.Diff.Comparator
import RateGuard.Oracle.PackageCongruence

/-!
# What the comparison leaves unchecked

The evaluation reads fields that the comparison of packages does not. Packages
that agree on all of them price alike on a date as soon as the compared fields
do not make a difference on that date.
-/

open DecimalFloat CalendarDate TopologicalSort Outcome KeyedList

namespace RateGuard

/-- Numbers the comparison reads. -/
def PackageContent.numbers (package : PackageContent) : List FiniteDecimal :=
  package.constants.map (·.value) ++ package.tables.flatMap (·.rows.map (·.value)) ++
    package.modifiers.flatMap (fun modifier =>
      match modifier.value with
      | .amount value => [value]
      | .reference _ => []) ++
    package.constraints.map (·.amount) ++ package.fees.map (·.amount)

/-- Tables with the same dates and dimensions and the same keys under one key text. -/
structure TableUnchecked (left right : RateTable) : Prop where
  /-- The tables have one identifier. -/
  id : left.id = right.id
  /-- The active dates are the same. -/
  period : left.effectivePeriod = right.effectivePeriod
  /-- The dimensions are the same. -/
  dimensions : left.dimensions = right.dimensions
  /-- Rows of the left table have different key texts. -/
  distinct : (left.rows.map formatMatchKey).Nodup
  /-- Rows of the right table have different key texts. -/
  distinctRight : (right.rows.map formatMatchKey).Nodup
  /-- One key text stands for the same keys. -/
  keys : ∀ row ∈ left.rows, ∀ other ∈ right.rows, formatMatchKey row = formatMatchKey other →
    row.rowMatches = other.rowMatches

/-- Modifiers of one category and eligibility that end on the same date. -/
structure ModifierUnchecked (left right : PricingModifier) : Prop where
  /-- The modifiers have one identifier. -/
  id : left.id = right.id
  /-- The category is the same. -/
  modifierType : left.modifierType = right.modifierType
  /-- The condition of application is the same. -/
  eligibility : left.eligibility = right.eligibility
  /-- The last active date is the same. -/
  endDate : left.effectivePeriod.bind (·.endDate) = right.effectivePeriod.bind (·.endDate)

/-- Constraints of one category and the same dates. -/
structure ConstraintUnchecked (left right : PremiumConstraint) : Prop where
  /-- The constraints have one identifier. -/
  id : left.id = right.id
  /-- The category is the same. -/
  constraintType : left.constraintType = right.constraintType
  /-- The active dates are the same. -/
  period : left.effectivePeriod = right.effectivePeriod

/-- Fees of the same dates. -/
structure FeeUnchecked (left right : PricingFee) : Prop where
  /-- The fees have one identifier. -/
  id : left.id = right.id
  /-- The active dates are the same. -/
  period : left.effectivePeriod = right.effectivePeriod

/-- Packages that agree on everything the evaluation reads and the comparison does not. -/
structure SameUnchecked (left right : PackageContent) : Prop where
  /-- The packages end on the same date. -/
  endDate : left.effectivePeriod.endDate = right.effectivePeriod.endDate
  /-- The transactions are the same. -/
  transactions : ∀ transaction,
    transaction ∈ left.transactionTypes ↔ transaction ∈ right.transactionTypes
  /-- The inputs are the same in some order. -/
  inputs : left.inputs.Perm right.inputs
  /-- The constants have the same identifiers and dates in some order. -/
  constants : (left.constants.map fun node => (node.id, node.effectivePeriod)).Perm
    (right.constants.map fun node => (node.id, node.effectivePeriod))
  /-- The tables are the same but for values, missing and extra rows. -/
  tables : List.Forall₂ TableUnchecked left.tables right.tables
  /-- The rules are the same. -/
  rules : left.rules = right.rules
  /-- The calculations are the same. -/
  calculations : left.calculations = right.calculations
  /-- Every calculation is rounded by the same rule. -/
  rounding : ∀ node ∈ left.calculations,
    roundingRuleOf left.roundingRules node = roundingRuleOf right.roundingRules node
  /-- The modifiers are the same but for starts, values and order. -/
  modifiers : List.Forall₂ ModifierUnchecked left.modifiers right.modifiers
  /-- The constraints are the same but for amounts and order. -/
  constraints : List.Forall₂ ConstraintUnchecked left.constraints right.constraints
  /-- The fees are the same but for amounts and order. -/
  fees : List.Forall₂ FeeUnchecked left.fees right.fees
  /-- The premiums read the same node. -/
  outputs : left.outputs.head?.map (·.sourceRef) = right.outputs.head?.map (·.sourceRef)

/-- Whether an identifier is a risk input of a package. -/
def PackageContent.IsInput (package : PackageContent) (id : String) : Prop :=
  id ∈ package.inputs.map (·.id)

/-- Valid packages keep inputs apart from all other nodes. -/
theorem PackageContent.Valid.separated {package : PackageContent} (valid : package.Valid) :
    Separated package.IsInput package := by
  have distinct := valid.ids_distinct
  simp only [PackageContent.nodeIds, List.append_assoc] at distinct
  obtain ⟨inputs, others, apart⟩ := List.nodup_append.mp distinct
  obtain ⟨constants, -, -⟩ := List.nodup_append.mp others
  have unmarked : ∀ id, id ∈ package.constants.map (·.id) ++ (package.tables.map (·.id) ++
      (package.rules.map (·.id) ++ (package.calculations.map (·.id) ++
      (package.modifiers.map (·.id) ++ (package.constraints.map (·.id) ++
      (package.fees.map (·.id) ++ (package.coverages.map (·.id) ++
      package.outputs.map (·.id)))))))) → ¬package.IsInput id :=
    fun id other input => apart id input id other rfl
  exact {
    inputs_distinct := inputs
    constants_distinct := constants
    constants := fun node member => unmarked _ (by simp [List.mem_map_of_mem member])
    fees := fun node member => unmarked _ (by simp [List.mem_map_of_mem member])
    constraints := fun node member => unmarked _ (by simp [List.mem_map_of_mem member])
    modifiers := fun node member => unmarked _ (by simp [List.mem_map_of_mem member])
    tables := fun node member => unmarked _ (by simp [List.mem_map_of_mem member])
    rules := fun node member => unmarked _ (by simp [List.mem_map_of_mem member])
    calculations := fun node member => unmarked _ (by simp [List.mem_map_of_mem member]) }

/-- Rows that do not match may be left out of a lookup. -/
theorem matchingRows_filter (keep : TableRow → Bool) (lookup : String → Option Value)
    (dimensions : List TableDimension) (rows : List TableRow)
    (dropped : ∀ row ∈ rows, keep row = false →
      rowMatches lookup dimensions row.rowMatches = .ok false) :
    matchingRows lookup dimensions (rows.filter keep) = matchingRows lookup dimensions rows := by
  induction rows with
  | nil => rfl
  | cons row rest ih =>
    have tail := ih fun other member => dropped other (List.mem_cons_of_mem _ member)
    cases kept : keep row with
    | true =>
      rw [List.filter_cons_of_pos kept]
      simp only [matchingRows, tail]
    | false =>
      rw [List.filter_cons_of_neg (by simp [kept]), tail]
      simp only [matchingRows, dropped row (by simp) kept]
      cases matchingRows lookup dimensions rest <;> rfl

/-- The rows of a table that satisfy a test. -/
def RateTable.restrict (table : RateTable) (keep : TableRow → Bool) : RateTable :=
  { table with
    rows := table.rows.filter keep
    keyed := fun row member => table.keyed row (List.mem_of_mem_filter member) }

/-- A lookup is decided by the rows that match. -/
theorem lookupTable_restrict (keep : TableRow → Bool) (table : RateTable)
    (lookup : String → Option Value)
    (dropped : ∀ row ∈ table.rows, keep row = false →
      rowMatches lookup table.dimensions row.rowMatches = .ok false) :
    lookupTable (table.restrict keep) lookup = lookupTable table lookup := by
  have rows := matchingRows_filter keep lookup table.dimensions table.rows dropped
  unfold lookupTable
  rw [← rows]
  rfl

variable {rel : Decimal → Decimal → Prop} {pinned : String → Prop} {known : Context}

/-- Rows of one key text in two tables have related values, or there is none in either. -/
def RowAlike (rel : Decimal → Decimal → Prop) (left right : RateTable) (key : String) : Prop :=
  Option.Rel (fun row other => rel row.value.toDecimal other.value.toDecimal)
    (lastWith formatMatchKey left.rows key) (lastWith formatMatchKey right.rows key)

/-- Tables whose rows are alike, but for rows that do not match, are looked up alike. -/
theorem lookupTable_alike (congruence : DecimalCongruence rel) {left right : RateTable}
    (unchecked : TableUnchecked left right) {first second : Evaluation}
    (states : StateRel rel pinned known first second)
    (textual : ∀ row ∈ left.rows,
      TextKeysAgree first.context second.context left.dimensions row.rowMatches)
    (unmatched : ∀ row ∈ left.rows, ¬RowAlike rel left right (formatMatchKey row) →
      rowMatches first.context left.dimensions row.rowMatches = .ok false)
    (unmatchedRight : ∀ row ∈ right.rows, ¬RowAlike rel left right (formatMatchKey row) →
      rowMatches second.context right.dimensions row.rowMatches = .ok false) :
    Agree (fun x y => rel x.1 y.1) (lookupTable left first.context)
      (lookupTable right second.context) := by
  classical
  let keep : TableRow → Bool := fun row => decide (RowAlike rel left right (formatMatchKey row))
  have dropped : ∀ row, keep row = false → ¬RowAlike rel left right (formatMatchKey row) :=
    fun row out => of_decide_eq_false out
  have kept : ∀ row, keep row = true → RowAlike rel left right (formatMatchKey row) :=
    fun row inside => of_decide_eq_true inside
  rw [← lookupTable_restrict keep left _ fun row member out =>
      unmatched row member (dropped row out),
    ← lookupTable_restrict keep right _ fun row member out =>
      unmatchedRight row member (dropped row out)]
  refine lookupTable_rel congruence states.contexts ⟨unchecked.id, unchecked.dimensions, ?_,
    unchecked.period⟩ fun row member => textual row (List.mem_of_mem_filter member)
  refine align formatMatchKey formatMatchKey
    (unchecked.distinct.sublist (List.filter_sublist.map _))
    (unchecked.distinctRight.sublist (List.filter_sublist.map _)) ?_ ?_
  · intro row member
    obtain ⟨inside, holds⟩ := List.mem_filter.mp member
    have alike := kept row holds
    unfold RowAlike at alike
    rw [lastWith_of_mem unchecked.distinct inside] at alike
    generalize partner : lastWith formatMatchKey right.rows (formatMatchKey row) = found at alike
    cases alike with
    | some values =>
      obtain ⟨otherInside, same⟩ := lastWith_eq_some partner
      refine ⟨_, List.mem_filter.mpr ⟨otherInside, ?_⟩, same,
        unchecked.keys row inside _ otherInside same.symm, values⟩
      exact decide_eq_true (by rw [same]; exact kept row holds)
  · intro row member
    obtain ⟨inside, holds⟩ := List.mem_filter.mp member
    have alike := kept row holds
    unfold RowAlike at alike
    rw [lastWith_of_mem unchecked.distinctRight inside] at alike
    generalize partner : lastWith formatMatchKey left.rows (formatMatchKey row) = found at alike
    cases alike with
    | some values =>
      obtain ⟨otherInside, same⟩ := lastWith_eq_some partner
      refine List.mem_map.mpr ⟨_, List.mem_filter.mpr ⟨otherInside, ?_⟩, same⟩
      exact decide_eq_true (by rw [same]; exact kept row holds)

/-- Paired elements of two lists may be compared knowing that they are in the lists. -/
theorem forall₂_imp_mem {α : Type} {before after : α → α → Prop} {lefts rights : List α}
    (lists : List.Forall₂ before lefts rights)
    (implies : ∀ x ∈ lefts, ∀ y ∈ rights, before x y → after x y) :
    List.Forall₂ after lefts rights := by
  induction lists with
  | nil => exact .nil
  | cons head _ ih =>
    refine .cons (implies _ (by simp) _ (by simp) head) (ih fun x one y two => ?_)
    exact implies x (List.mem_cons_of_mem _ one) y (List.mem_cons_of_mem _ two)

/-- Constants with the same identifiers and dates and related values are related up to order. -/
theorem SameUnchecked.alignedConstants {left right : PackageContent}
    (unchecked : SameUnchecked left right) (separated : Separated pinned left)
    (values : ∀ node ∈ left.constants, ∀ other ∈ right.constants, node.id = other.id →
      rel node.value.toDecimal other.value.toDecimal) :
    ∃ middle, List.Forall₂ (ConstantRel rel) left.constants middle ∧
      middle.Perm right.constants := by
  have ids : (left.constants.map (·.id)).Perm (right.constants.map (·.id)) := by
    simpa only [List.map_map, Function.comp_def] using unchecked.constants.map Prod.fst
  refine align (·.id) (·.id) separated.constants_distinct
    (ids.nodup separated.constants_distinct) ?_ ?_
  · intro node member
    have entry := unchecked.constants.mem_iff.mp
      (List.mem_map_of_mem (f := fun node => (node.id, node.effectivePeriod)) member)
    obtain ⟨other, inside, same⟩ := List.mem_map.mp entry
    obtain ⟨id, period⟩ := Prod.mk.injEq .. ▸ same
    exact ⟨other, inside, id, id.symm, values node member other inside id.symm, period.symm⟩
  · intro other inside
    exact ids.mem_iff.mpr (List.mem_map_of_mem inside)

/-- Packages that agree on the unchecked fields price alike on a date when the compared fields
make no difference on it. -/
theorem SameUnchecked.pricesAlike {left right : PackageContent} {date : Date}
    (unchecked : SameUnchecked left right) (separated : Separated pinned left)
    (active : isActive (some left.effectivePeriod) date =
      isActive (some right.effectivePeriod) date)
    (constants : ∀ node ∈ left.constants, ∀ other ∈ right.constants, node.id = other.id →
      rel node.value.toDecimal other.value.toDecimal)
    (tables : ∀ table ∈ left.tables, ∀ other ∈ right.tables, TableUnchecked table other →
      TableAlike rel pinned known date table other)
    (modifiers : ∀ modifier ∈ left.modifiers, ∀ other ∈ right.modifiers,
      ModifierUnchecked modifier other → ModifierAlike rel pinned known date modifier other)
    (constraints : ∀ constraint ∈ left.constraints, ∀ other ∈ right.constraints,
      ConstraintUnchecked constraint other → ConstraintRel rel constraint other)
    (fees : ∀ fee ∈ left.fees, ∀ other ∈ right.fees, FeeUnchecked fee other →
      FeeRel rel fee other) :
    PricesAlike rel pinned known date left right where
  active := active
  transactions := unchecked.transactions
  inputs := unchecked.inputs
  constants := unchecked.alignedConstants separated constants
  tables := forall₂_imp_mem unchecked.tables tables
  rules := unchecked.rules
  calculations := unchecked.calculations
  rounding := unchecked.rounding
  modifiers := forall₂_imp_mem unchecked.modifiers modifiers
  constraints := forall₂_imp_mem unchecked.constraints constraints
  fees := forall₂_imp_mem unchecked.fees fees
  outputs := unchecked.outputs

end RateGuard
