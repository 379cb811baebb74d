import RateGuard.Diff.Soundness
import RateGuard.Portfolio.Analyzer

/-!
# Completeness of the exposed policies

When the predicates of the reported differences are not narrower than the
changes behind them, and the packages agree on everything the comparison leaves
unchecked, every policy whose premium differs is exposed, and the sums over the
exposed policies are the sums over all.
-/

open DecimalFloat CalendarDate TopologicalSort Outcome KeyedList

namespace RateGuard

/-- The predicates of a table row and its keys: the row does not match the risk values of a
policy, or each clause of its key text holds for the policy. -/
def RowDescribed (inherited : InheritedMembers) (policy : SyntheticPolicy)
    (package : PackageContent) (dimensions : List TableDimension) (row : TableRow) : Prop :=
  ((∀ dimension ∈ dimensions, package.IsInput dimension.inputRef) ∧
    rowMatches (inputContext package policy.risk false) dimensions row.rowMatches = .ok false) ∨
  ((row.rowMatches ≠ [] ∧ ∀ key ∈ row.rowMatches, '|' ∉ key.keyPart.toList) ∧
    ∀ pair ∈ dimensions.zip row.rowMatches, ∀ clauses,
      partClauses pair.1 pair.2.keyPart.toList = .ok clauses →
      ∀ clause ∈ clauses, satisfiesClause inherited policy clause)

/-- The clause of a modifier's eligibility reads a risk input and holds for every policy that is
eligible. -/
def EligibilityDescribed (inherited : InheritedMembers) (policy : SyntheticPolicy)
    (package : PackageContent) (modifier : PricingModifier) : Prop :=
  ∀ condition ∈ modifier.eligibility, ∀ clause ∈ eligibilityClause condition,
    package.IsInput clause.field ∧
      (evaluateCondition (inputContext package policy.risk false) condition = .ok true →
        satisfiesClause inherited policy clause)

/-- A period that only one of two modifiers has is one that the date has reached. -/
def PeriodDescribed (date : Date) (left right : Option EffectivePeriod) : Prop :=
  (right = none → ∀ period ∈ left, period.start ≤ date) ∧
    (left = none → ∀ period ∈ right, period.start ≤ date)

/-- The derived predicates are not narrower than the changes, for one policy. -/
structure ChangesDescribed (inherited : InheritedMembers) (canonical target : PackageContent)
    (policy : SyntheticPolicy) : Prop where
  /-- Rows that changed, are missing or are extra. -/
  rows : ∀ table ∈ canonical.tables, ∀ other ∈ target.tables, table.id = other.id →
    ∀ row, row ∈ table.rows ∨ row ∈ other.rows →
      ¬RowAlike Decimal.Same table other (formatMatchKey row) →
      RowDescribed inherited policy canonical table.dimensions row
  /-- Modifiers whose value changed. -/
  modifiers : ∀ modifier ∈ canonical.modifiers, ∀ other ∈ target.modifiers,
    modifier.id = other.id → ¬ModifierValueRel Decimal.Same modifier.value other.value →
    EligibilityDescribed inherited policy canonical modifier
  /-- Modifiers with a period on one side. -/
  periods : ∀ modifier ∈ canonical.modifiers, ∀ other ∈ target.modifiers,
    modifier.id = other.id →
    PeriodDescribed policy.effectiveDate modifier.effectivePeriod other.effectivePeriod

/-- Rows match alike under lookups that agree on the dimensions. -/
theorem rowMatches_congr {first second : String → Option Value} {dimensions : List TableDimension}
    (agree : ∀ dimension ∈ dimensions, first dimension.inputRef = second dimension.inputRef)
    (keys : List RowMatch) : rowMatches first dimensions keys = rowMatches second dimensions keys := by
  induction dimensions generalizing keys with
  | nil => rfl
  | cons dimension rest ih =>
    cases keys with
    | nil => rfl
    | cons key keys =>
      simp only [rowMatches, agree dimension (by simp),
        ih (fun other member => agree other (List.mem_cons_of_mem _ member)) keys]

/-- A comparison of a reference and a literal reads only the reference. -/
theorem evaluateCondition_congr {condition : Condition} {clause : PredicateClause}
    (simple : eligibilityClause condition = some clause) {first second : Context}
    (agree : first clause.field = second clause.field) :
    evaluateCondition first condition = evaluateCondition second condition := by
  unfold eligibilityClause at simple
  split at simple
  · cases simple
    simp only [evaluateCondition, resolveValue, resolveReference, agree]
  · cases simple
    simp only [evaluateCondition, resolveValue, resolveReference, agree]
  · cases simple

/-- The date written in a difference of starts reads back. -/
theorem differenceDate_start (start : Option Date) :
    differenceDate (start.map fun date => .str (Value.date date).toString) = .ok start := by
  cases start with
  | none => rfl
  | some date =>
    have text : (Value.str (Value.date date).toString).text = date.isoformat := by
      simp [Value.text, Value.toString]
    have present : (Value.str (Value.date date).toString).truthy = true := by
      refine decide_eq_true fun empty => ?_
      have read := fromIsoformat_isoformat date
      rw [← text, empty] at read
      exact absurd read (by simp [Value.text, fromIsoformat])
    simp only [differenceDate, Option.map_some, Option.filter, present, if_true, text,
      fromIsoformat_isoformat]

variable {rel : Decimal → Decimal → Prop} {inherited : InheritedMembers}
  {canonical target : PackageContent} {policy : SyntheticPolicy}

/-- A difference whose predicate does not match the policy. -/
def Unmatched (inherited : InheritedMembers) (policy : SyntheticPolicy)
    (package : PackageContent) (difference : SemanticDifference) : Prop :=
  ∃ predicate, derivePredicate difference package = .ok predicate ∧
    matchesPredicate inherited policy predicate = false

/-- An unmatched difference is of a narrow type. -/
theorem Unmatched.narrow {difference : SemanticDifference}
    (unmatched : Unmatched inherited policy canonical difference) :
    difference.differenceType.IsNarrow := by
  obtain ⟨predicate, derived, excluded⟩ := unmatched
  have wide : derivePredicate difference canonical = .ok (globalPredicate difference) →
      False := by
    intro isGlobal
    rw [isGlobal] at derived
    cases derived
    rw [matchesPredicate_global] at excluded
    cases excluded
  cases type : difference.differenceType with
  | effectiveDateChange | tableRowChange | tableRowMissing | tableRowExtra | modifierChange =>
    trivial
  | _ => exact absurd (by simp [derivePredicate, type]) wide

/-- A difference of starts has the window between them. -/
theorem derivePredicate_period (path nodeId : String) (nodeType : DifferenceNode)
    (left right : Option Date) (package : PackageContent) :
    derivePredicate (periodDifference path nodeId nodeType left right) package =
      .ok { globalPredicate (periodDifference path nodeId nodeType left right) with
        temporalStart := (dateWindow left right).1
        temporalEnd := (dateWindow left right).2 } := by
  simp only [derivePredicate, periodDifference, differenceDate_start]
  rfl

/-- On dates outside the reported window periods are active alike. -/
theorem isActive_of_unmatched {path nodeId : String} {nodeType : DifferenceNode}
    {left right : Option EffectivePeriod}
    (unmatched : ∀ difference ∈ compareEffectivePeriods path nodeId nodeType left right,
      Unmatched inherited policy canonical difference)
    (ends : left.bind (·.endDate) = right.bind (·.endDate))
    (described : PeriodDescribed policy.effectiveDate left right) :
    isActive left policy.effectiveDate = isActive right policy.effectiveDate := by
  by_cases starts : left.map (·.start) = right.map (·.start)
  · exact isActive_of_bounds _ starts ends
  obtain ⟨predicate, derived, excluded⟩ := unmatched
    (periodDifference path nodeId nodeType (left.map (·.start)) (right.map (·.start)))
    (by rw [compareEffectivePeriods, if_neg starts]; exact List.mem_singleton.mpr rfl)
  rw [derivePredicate_period] at derived
  cases derived
  have outside : inWindow { globalPredicate (periodDifference path nodeId nodeType
        (left.map (·.start)) (right.map (·.start))) with
      temporalStart := (dateWindow (left.map (·.start)) (right.map (·.start))).1
      temporalEnd := (dateWindow (left.map (·.start)) (right.map (·.start))).2 }
      policy.effectiveDate = false := by
    simpa [matchesPredicate, globalPredicate] using excluded
  generalize policy.effectiveDate = date at outside described ⊢
  cases left with
  | none =>
    cases right with
    | none => exact absurd rfl starts
    | some other =>
      have reached := described.2 rfl other rfl
      have endless : other.endDate = none := ends.symm
      simp [isActive, reached, endless]
  | some period =>
    cases right with
    | none =>
      have reached := described.1 rfl period rfl
      have endless : period.endDate = none := ends
      simp [isActive, reached, endless]
    | some other =>
      have sameEnd : period.endDate = other.endDate := ends
      have outside : ¬(min period.start other.start ≤ date ∧
          date < max period.start other.start) := by
        simpa [inWindow, dateWindow] using outside
      have alike : period.start ≤ date ↔ other.start ≤ date := by
        constructor
        · intro reached
          by_contra later
          exact outside ⟨(min_le_left _ _).trans reached,
            (not_le.mp later).trans_le (le_max_right _ _)⟩
        · intro reached
          by_contra later
          exact outside ⟨(min_le_right _ _).trans reached,
            (not_le.mp later).trans_le (le_max_left _ _)⟩
      simp only [isActive, alike, sameEnd]

/-- Differences of table rows. -/
def DifferenceType.IsRow : DifferenceType → Prop
  | tableRowChange | tableRowMissing | tableRowExtra => True
  | _ => False

/-- Rows that are not alike are reported under their key text. -/
theorem compareRateTables_reported {left right : RateTable} {key : String}
    (unlike : ¬RowAlike Decimal.Same left right key) :
    ∃ difference ∈ compareRateTables left right, difference.differenceType.IsRow ∧
      difference.nodeId = left.id ∧ difference.dimensionKey = some key := by
  have keyed : key ∈ sortedUnion (left.rows.map formatMatchKey)
      (right.rows.map formatMatchKey) := by
    by_contra absent
    rw [mem_sortedUnion, not_or] at absent
    refine unlike ?_
    rw [RowAlike, lastWith_eq_none.mpr absent.1, lastWith_eq_none.mpr absent.2]
    exact .none
  have reported : ∃ difference ∈ compareRows left.id key
      (lastWith formatMatchKey left.rows key) (lastWith formatMatchKey right.rows key),
      difference.differenceType.IsRow ∧ difference.nodeId = left.id ∧
        difference.dimensionKey = some key := by
    unfold RowAlike at unlike
    generalize lastWith formatMatchKey left.rows key = one at unlike ⊢
    generalize lastWith formatMatchKey right.rows key = two at unlike ⊢
    cases one with
    | none =>
      cases two with
      | none => exact absurd .none unlike
      | some other => exact ⟨_, List.mem_singleton.mpr rfl, trivial, rfl, rfl⟩
    | some row =>
      cases two with
      | none => exact ⟨_, List.mem_singleton.mpr rfl, trivial, rfl, rfl⟩
      | some other =>
        have differ : numbersDiffer row.value other.value = true := by
          by_contra same
          rw [Bool.not_eq_true, numbersDiffer_eq_false] at same
          exact unlike (.some same)
        refine ⟨rowDifference left.id key "factor" .tableRowChange (some row) (some other), ?_,
          trivial, rfl, rfl⟩
        simp only [compareRows, differ, if_true, List.mem_singleton]
  obtain ⟨difference, member, described⟩ := reported
  exact ⟨difference, List.mem_flatMap.mpr ⟨key, keyed, member⟩, described⟩

/-- Clauses of a row's key text are the clauses of its keys. -/
theorem rowClauses_source {dimensions : List TableDimension} {row : TableRow}
    (keyed : row.rowMatches ≠ []) (plain : ∀ key ∈ row.rowMatches, '|' ∉ key.keyPart.toList)
    {clauses : List PredicateClause}
    (derived : rowClauses dimensions (formatMatchKey row) = .ok clauses) {clause : PredicateClause}
    (member : clause ∈ clauses) :
    ∃ pair ∈ dimensions.zip row.rowMatches, ∃ part,
      partClauses pair.1 pair.2.keyPart.toList = .ok part ∧ clause ∈ part := by
  have parts : (formatMatchKey row).toList.splitOn '|' =
      row.rowMatches.map fun key => key.keyPart.toList := by
    rw [formatMatchKey, String.toList_intercalate, List.map_map]
    refine List.splitOn_intercalate '|' ?_ (by simpa using keyed)
    intro text inside
    obtain ⟨key, found, rfl⟩ := List.mem_map.mp inside
    exact plain key found
  obtain ⟨results, traversed, flat⟩ := bind_eq_ok derived
  cases flat
  rw [parts, List.zip_map_right] at traversed
  obtain ⟨part, inside, found⟩ := List.mem_flatten.mp member
  obtain ⟨pair, mapped, computed⟩ := mapM_source traversed inside
  obtain ⟨source, zipped, rfl⟩ := List.mem_map.mp mapped
  exact ⟨source, zipped, part, computed, found⟩

/-- An unmatched difference of a row is one of a row that does not match the policy. -/
theorem Unmatched.row {difference : SemanticDifference}
    (unmatched : Unmatched inherited policy canonical difference)
    (type : difference.differenceType.IsRow) {table : RateTable}
    (found : canonical.tables.find? (·.id == difference.nodeId) = some table) {row : TableRow}
    (key : difference.dimensionKey = some (formatMatchKey row))
    (described : RowDescribed inherited policy canonical table.dimensions row) :
    (∀ dimension ∈ table.dimensions, canonical.IsInput dimension.inputRef) ∧
      rowMatches (inputContext canonical policy.risk false) table.dimensions row.rowMatches =
        .ok false := by
  cases described with
  | inl excluded => exact excluded
  | inr matched =>
    obtain ⟨⟨keyed, plain⟩, satisfied⟩ := matched
    obtain ⟨predicate, derived, excluded⟩ := unmatched
    have computed : ∃ clauses, rowClauses table.dimensions (formatMatchKey row) = .ok clauses ∧
        predicate = { globalPredicate difference with clauses := clauses } := by
      unfold derivePredicate at derived
      cases kind : difference.differenceType with
      | tableRowChange | tableRowMissing | tableRowExtra =>
        rw [kind, found] at derived
        obtain ⟨clauses, computed, same⟩ := bind_eq_ok derived
        cases same
        rw [key] at computed
        exact ⟨clauses, computed, rfl⟩
      | _ => rw [kind] at type; exact type.elim
    obtain ⟨clauses, computed, rfl⟩ := computed
    have covered : matchesPredicate inherited policy
        { globalPredicate difference with clauses := clauses } = true := by
      simp only [matchesPredicate, inWindow, globalPredicate, Bool.true_and, List.all_eq_true]
      intro clause member
      obtain ⟨pair, zipped, part, parsed, inside⟩ := rowClauses_source keyed plain computed member
      exact satisfied pair zipped part parsed clause inside
    rw [covered] at excluded
    cases excluded

/-- Tables whose unmatched rows do not match the policy are looked up alike. -/
theorem tableAlike_of_unmatched (congruence : DecimalCongruence rel)
    (distinct : (canonical.tables.map (·.id)).Nodup) {table other : RateTable}
    (member : table ∈ canonical.tables) (unchecked : TableUnchecked table other)
    (upgrades : ∀ row ∈ table.rows, ∀ partner ∈ other.rows,
      Decimal.Same row.value.toDecimal partner.value.toDecimal →
      rel row.value.toDecimal partner.value.toDecimal)
    (textual : ∀ row ∈ table.rows, ∀ first second,
      StateRel rel canonical.IsInput (inputContext canonical policy.risk false) first second →
      TextKeysAgree first.context second.context table.dimensions row.rowMatches)
    (unmatched : ∀ difference ∈ compareRateTables table other,
      Unmatched inherited policy canonical difference)
    (described : ∀ row, row ∈ table.rows ∨ row ∈ other.rows →
      ¬RowAlike Decimal.Same table other (formatMatchKey row) →
      RowDescribed inherited policy canonical table.dimensions row) :
    TableAlike rel canonical.IsInput (inputContext canonical policy.risk false)
      policy.effectiveDate table other := by
  have excluded : ∀ row, row ∈ table.rows ∨ row ∈ other.rows →
      ¬RowAlike rel table other (formatMatchKey row) →
      (∀ dimension ∈ table.dimensions, canonical.IsInput dimension.inputRef) ∧
        rowMatches (inputContext canonical policy.risk false) table.dimensions row.rowMatches =
          .ok false := by
    intro row inside unlike
    have different : ¬RowAlike Decimal.Same table other (formatMatchKey row) := by
      intro alike
      refine unlike ?_
      unfold RowAlike at alike ⊢
      generalize one : lastWith formatMatchKey table.rows _ = leftRow at alike ⊢
      generalize two : lastWith formatMatchKey other.rows _ = rightRow at alike ⊢
      cases alike with
      | none => exact .none
      | some values =>
        exact .some (upgrades _ (lastWith_eq_some one).1 _ (lastWith_eq_some two).1 values)
    obtain ⟨difference, reported, type, node, key⟩ := compareRateTables_reported different
    refine (unmatched difference reported).row type ?_ key (described row inside different)
    rw [node]
    exact find_key distinct member
  refine ⟨unchecked.id, by rw [unchecked.period], fun first second states => ?_⟩
  refine lookupTable_alike congruence unchecked states
    (fun row inside => textual row inside first second states) ?_ ?_
  · intro row inside unlike
    obtain ⟨inputs, misses⟩ := excluded row (.inl inside) unlike
    rw [rowMatches_congr (fun dimension one => states.first _ (inputs dimension one))]
    exact misses
  · intro row inside unlike
    obtain ⟨inputs, misses⟩ := excluded row (.inr inside) unlike
    rw [← unchecked.dimensions,
      rowMatches_congr (fun dimension one => states.second _ (inputs dimension one))]
    exact misses

/-- Modifiers whose unmatched differences concern other policies apply alike. -/
theorem modifierAlike_of_unmatched (distinct : (canonical.modifiers.map (·.id)).Nodup)
    {modifier other : PricingModifier} (member : modifier ∈ canonical.modifiers)
    (unchecked : ModifierUnchecked modifier other) {part : List SemanticDifference}
    (compared : compareModifier modifier.id (some modifier) (some other) = .ok part)
    (upgrades : ∀ value otherValue, modifier.value = .amount value →
      other.value = .amount otherValue →
      Decimal.Same value.toDecimal otherValue.toDecimal →
      rel value.toDecimal otherValue.toDecimal)
    (unmatched : ∀ difference ∈ part, Unmatched inherited policy canonical difference)
    (described : ¬ModifierValueRel Decimal.Same modifier.value other.value →
      EligibilityDescribed inherited policy canonical modifier)
    (period : PeriodDescribed policy.effectiveDate modifier.effectivePeriod
      other.effectivePeriod) :
    ModifierAlike rel canonical.IsInput (inputContext canonical policy.risk false)
      policy.effectiveDate modifier other := by
  obtain ⟨value, otherValue, amount, otherAmount, rfl⟩ := compareModifier_parts compared
  have sequences := part_eq_nil .orderChange (fun wide => wide)
    (fun _ one => compareSequences_type one)
    fun d one => (unmatched d (List.mem_append_right _ one)).narrow
  refine {
    id := unchecked.id
    modifierType := unchecked.modifierType
    eligibility := unchecked.eligibility
    sequence := compareSequences_eq_nil.mp sequences
    active := isActive_of_unmatched
      (fun d one => unmatched d (List.mem_append_left _ (List.mem_append_left _ one)))
      unchecked.endDate period
    value := ?_ }
  by_cases same : Decimal.Same value.toDecimal otherValue.toDecimal
  · rw [amount, otherAmount]
    exact .inl (.amount (upgrades value otherValue amount otherAmount same))
  · have changed : ¬ModifierValueRel Decimal.Same modifier.value other.value := by
      rw [amount, otherAmount]
      intro related
      cases related with
      | amount holds => exact same holds
    have differ : numbersDiffer value otherValue = true := by
      by_contra equal
      rw [Bool.not_eq_true, numbersDiffer_eq_false] at equal
      exact same equal
    obtain ⟨predicate, derived, excluded⟩ := unmatched
      (fieldDifference "modifier" "modifiers" modifier.id "value" .modifierChange .modifier .high
        (some (.decimal value.toDecimal)) (some (.decimal otherValue.toDecimal)))
      (List.mem_append_left _ (List.mem_append_right _ (by
        simp only [compareNumbers, differ, if_true, List.mem_singleton])))
    have found := find_key distinct member
    simp only [derivePredicate, fieldDifference, found, Option.bind_some] at derived
    cases simple : modifier.eligibility.bind eligibilityClause with
    | none =>
      rw [simple] at derived
      cases derived
      cases excluded
    | some clause =>
      rw [simple] at derived
      cases derived
      obtain ⟨condition, eligibility, clausal⟩ := Option.bind_eq_some_iff.mp simple
      obtain ⟨input, satisfied⟩ := described changed condition eligibility clause clausal
      have violated : satisfiesClause inherited policy clause = false := by
        simpa [matchesPredicate, inWindow, globalPredicate] using excluded
      refine .inr fun context holds eligible => ?_
      have same := evaluateCondition_congr clausal (holds _ input)
      rw [isEligible, eligibility] at eligible
      have satisfiedClause := satisfied (same.symm.trans eligible)
      rw [violated] at satisfiedClause
      cases satisfiedClause

/-- Packages price alike for a policy that no predicate matches. -/
theorem pricesAlike_of_unmatched (congruence : DecimalCongruence rel) (valid : canonical.Valid)
    (validTarget : target.Valid) {result : SemanticDiffResult}
    (compared : comparePackages canonical target = .ok result)
    (unmatched : ∀ difference ∈ result.differences,
      Unmatched inherited policy canonical difference)
    (unchecked : SameUnchecked canonical target) (upgrades : Upgrades rel canonical target)
    (textual : ∀ table ∈ canonical.tables, ∀ row ∈ table.rows, ∀ first second,
      StateRel rel canonical.IsInput (inputContext canonical policy.risk false) first second →
      TextKeysAgree first.context second.context table.dimensions row.rowMatches)
    (described : ChangesDescribed inherited canonical target policy) :
    PricesAlike rel canonical.IsInput (inputContext canonical policy.risk false)
      policy.effectiveDate canonical target := by
  have parts := comparePackages_parts compared
  have nodes := valid.distinctNodes
  have others := validTarget.distinctNodes
  refine pricesAlike_of_narrow valid validTarget compared
    (fun difference member => (unmatched difference member).narrow) unchecked upgrades
    ?active ?tables ?modifiers
  case active =>
    refine isActive_of_unmatched (fun difference member => unmatched difference
      (parts.period difference member)) unchecked.endDate ⟨?_, ?_⟩
    · exact fun absent => nomatch absent
    · exact fun absent => nomatch absent
  case tables =>
    intro table member other inside uncheckedTable
    obtain ⟨_, tablesCompared, within⟩ := parts.tables
    obtain ⟨part, found, reported⟩ := compareById_pair tablesCompared nodes.tables
      others.tables member inside uncheckedTable.id
    cases found
    exact tableAlike_of_unmatched congruence nodes.tables member uncheckedTable
      (fun row one partner two => upgrades _ (row_number member one) _ (row_number inside two))
      (fun row one => textual table member row one)
      (fun difference one => unmatched difference (within difference (reported difference one)))
      (described.rows table member other inside uncheckedTable.id)
  case modifiers =>
    intro modifier member other inside uncheckedModifier
    obtain ⟨_, modifiersCompared, within⟩ := parts.modifiers
    obtain ⟨part, found, reported⟩ := compareById_pair modifiersCompared nodes.modifiers
      others.modifiers member inside uncheckedModifier.id
    exact modifierAlike_of_unmatched nodes.modifiers member uncheckedModifier found
      (fun value otherValue amount otherAmount => upgrades _ (modifier_number member amount) _
        (modifier_number inside otherAmount))
      (fun difference one => unmatched difference (within difference (reported difference one)))
      (described.modifiers modifier member other inside uncheckedModifier.id)
      (described.periods modifier member other inside uncheckedModifier.id)

/-- A policy that no predicate matches has one premium, or fails, under both packages. -/
theorem pricePolicy_of_unmatched (sorter : Sorter String) (canonical target : IPIRPackage)
    {result : SemanticDiffResult}
    (compared : comparePackages canonical.toPackageContent target.toPackageContent = .ok result)
    (unmatched : ∀ difference ∈ result.differences,
      Unmatched inherited policy canonical.toPackageContent difference)
    (unchecked : SameUnchecked canonical.toPackageContent target.toPackageContent)
    (textual : TextKeysReadInputs canonical.toPackageContent ∨
      WrittenAlike canonical.toPackageContent target.toPackageContent)
    (described : ChangesDescribed inherited canonical.toPackageContent target.toPackageContent
      policy) :
    Agree (ResultRel Decimal.Same) (pricePolicy sorter canonical.toPackageContent policy)
      (pricePolicy sorter target.toPackageContent policy) := by
  cases textual with
  | inl inputs =>
    have alike := pricesAlike_of_unmatched same_congruence canonical.valid target.valid compared
      unmatched unchecked (fun _ _ _ _ same => same)
      (fun table member row found _ _ states => states.textKeys (inputs table member row found))
      described
    exact evaluatePackage_rel same_congruence sorter alike canonical.valid.separated _
  | inr written =>
    have alike := pricesAlike_of_unmatched eq_congruence canonical.valid target.valid compared
      unmatched unchecked
      (fun number one other two same => by rw [written number one other two same])
      (fun table member row found _ _ states => states.textKeys_of_eq _ _) described
    exact (evaluatePackage_rel eq_congruence sorter alike canonical.valid.separated _).mono
      fun _ _ same => by
        have premium : _ = _ := same
        rw [ResultRel, premium]
        exact Decimal.Same.refl _

/-- The premium of a result is finite. -/
theorem finalPremium_finite {sorter : Sorter String} {package : PackageContent} {risk : RiskInput}
    {date : Date} {transaction : TransactionType} {strict : Bool} {result : OracleResult}
    (evaluated : evaluatePackage sorter package risk date transaction strict = .ok result) :
    (Value.decimal result.finalPremium).recordable = true := by
  obtain ⟨_, -, evaluated⟩ := bind_eq_ok evaluated
  obtain ⟨_, -, evaluated⟩ := bind_eq_ok evaluated
  obtain ⟨state, -, evaluated⟩ := bind_eq_ok evaluated
  unfold finish at evaluated
  split at evaluated
  · cases evaluated
  · split at evaluated
    · cases evaluated
    · obtain ⟨premium, -, evaluated⟩ := bind_eq_ok evaluated
      obtain ⟨final, recorded, evaluated⟩ := bind_eq_ok evaluated
      have recordable : (Value.decimal premium).recordable = true := by
        unfold Evaluation.addStep at recorded
        split at recorded
        · assumption
        · cases recorded
      split at evaluated
      · cases evaluated
      · cases evaluated
        exact recordable

/-- Finite numbers that are the same are equal. -/
theorem eq_of_same {left right : Decimal} (finite : (Value.decimal left).recordable = true)
    (same : Decimal.Same left right) : left.eq right = .ok true := by
  cases left with
  | infinity _ => cases finite
  | nan _ => cases finite
  | finite negative coefficient exponent =>
    cases right with
    | infinity _ => cases same
    | nan _ => cases same
    | finite otherNegative otherCoefficient otherExponent =>
      exact (finite_eq_iff ⟨negative, coefficient, exponent⟩
        ⟨otherNegative, otherCoefficient, otherExponent⟩).mpr same

/-- Reconciled premiums match when they are equal. -/
theorem reconcile_matches {expected actual : Decimal} {repriced : Repricing}
    (reconciled : raising (reconcile expected actual) = .ok repriced) :
    expected.eq actual = .ok repriced.premiumMatches := by
  cases computed : reconcile expected actual with
  | error signal =>
    rw [computed] at reconciled
    cases reconciled
  | ok other =>
    rw [computed] at reconciled
    cases reconciled
    obtain ⟨_, -, computed⟩ := bind_eq_ok computed
    obtain ⟨_, -, computed⟩ := bind_eq_ok computed
    obtain ⟨_, -, computed⟩ := bind_eq_ok computed
    obtain ⟨_, -, computed⟩ := bind_eq_ok computed
    obtain ⟨equal, decided, computed⟩ := bind_eq_ok computed
    cases computed
    exact decided

/-- A repriced policy whose premiums agree adds nothing. -/
theorem exposePolicy_of_agree {sorter : Sorter String} {canonical target : PackageContent}
    {before after : Exposure}
    (agree : Agree (ResultRel Decimal.Same) (pricePolicy sorter canonical policy)
      (pricePolicy sorter target policy))
    (exposed : exposePolicy sorter canonical target before policy = .ok after) :
    after = before := by
  obtain ⟨repriced, priced, exposed⟩ := bind_eq_ok exposed
  obtain ⟨expected, one, priced⟩ := bind_eq_ok priced
  obtain ⟨actual, two, priced⟩ := bind_eq_ok priced
  rw [one, two] at agree
  cases agree with
  | success same =>
    have equal := eq_of_same (finalPremium_finite one) same
    have matched : repriced.premiumMatches = true := by
      rw [reconcile_matches priced] at equal
      exact Except.ok.inj equal
    rw [matched] at exposed
    cases exposed
    rfl

/-- Policies that add nothing may be left out of the sums. -/
theorem reprice_filter {sorter : Sorter String} {canonical target : PackageContent}
    (keep : SyntheticPolicy → Bool) {policies : List SyntheticPolicy}
    (neutral : ∀ policy ∈ policies, keep policy = false → ∀ before after,
      exposePolicy sorter canonical target before policy = .ok after → after = before)
    {start total : Exposure}
    (summed : policies.foldlM (exposePolicy sorter canonical target) start = .ok total) :
    (policies.filter keep).foldlM (exposePolicy sorter canonical target) start = .ok total := by
  induction policies generalizing start with
  | nil => exact summed
  | cons policy rest ih =>
    rw [List.foldlM_cons] at summed
    obtain ⟨next, stepped, summed⟩ := bind_eq_ok summed
    have tail := ih (fun other member => neutral other (List.mem_cons_of_mem _ member)) summed
    cases kept : keep policy with
    | true =>
      rw [List.filter_cons_of_pos kept, List.foldlM_cons, stepped]
      exact tail
    | false =>
      rw [List.filter_cons_of_neg (by simp [kept])]
      rw [neutral policy (by simp) kept start next stepped] at tail
      exact tail

/-- The exposed policies stand for the portfolio: a policy whose premiums differ is exposed, and
the sums are those of repricing every policy. -/
def ExposureComplete (sorter : Sorter String) (inherited : InheritedMembers)
    (portfolio : Portfolio) (canonical target : PackageContent)
    (result : PortfolioExposureResult) : Prop :=
  ∃ differences predicates, comparePackages canonical target = .ok differences ∧
    candidatePredicates sorter differences canonical = .ok predicates ∧
    (∀ policy ∈ portfolio.policies,
      ¬Agree (ResultRel Decimal.Same) (pricePolicy sorter canonical policy)
        (pricePolicy sorter target policy) → isExposed inherited predicates policy) ∧
    ∀ every, reprice sorter canonical target portfolio.policies = .ok every →
      result.exposure = every

/-- The flat package with a base rate of one hundred and twenty. -/
def raisedPackage : IPIRPackage where
  toPackageContent := flatContent ⟨false, 12000, -2⟩ (.reference "base_rate")
  valid := by decide

/-- A portfolio of one policy. -/
def singlePortfolio : Portfolio where
  policies := [
    { policyId := "POL-1"
      productId := "HO3"
      state := "AZ"
      form := "HO3"
      transactionType := .newBusiness
      effectiveDate := sampleDay
      territory := "T1"
      roofAge := 5
      deductible := 1000
      protectionClass := 3
      constructionType := "frame"
      dwellingLimit := 300000
      multiPolicy := false
      claimsFree := true
      claimsFreeYears := 3
      canonicalPremium := ⟨false, 10000, -2⟩
      targetPremium := none }]
  distinct := by decide

/-- Exposure of one policy overcharged by an amount in cents. -/
def overcharged (expected actual : Nat) : Exposure where
  affected := ["POL-1"]
  totalExpected := .finite false expected (-2)
  totalTarget := .finite false actual (-2)
  totalSigned := .finite false (actual - expected) (-2)
  totalAbsolute := .finite false (actual - expected) (-2)
  maxSingle := .finite false (actual - expected) (-2)
  underchargedCount := 0
  totalUndercharge := zeroCents
  overchargedCount := 1
  totalOvercharge := .finite false (actual - expected) (-2)

end RateGuard
