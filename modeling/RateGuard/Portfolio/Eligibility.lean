import RateGuard.Foundation.DecimalLine
import RateGuard.Portfolio.Covering

/-!
# Policies eligible for a changed modifier

The predicate of a changed modifier repeats its eligibility as a clause about a policy field. It
covers an eligible policy when the field is what the eligibility reads, and the reference stands
where the clause puts it.
-/

open DecimalFloat CalendarDate Outcome KeyedList

namespace RateGuard

/-- Whether a relation holds between two places. -/
def ComparisonOperator.Holds (operator : ComparisonOperator) (left right : Line) : Prop :=
  match operator with
  | eq => left = right
  | ne => left ≠ right
  | gt => right < left
  | gte => right ≤ left
  | lt => left < right
  | lte => left ≤ right

/-- Relations that are orders. -/
def ComparisonOperator.IsOrder : ComparisonOperator → Prop
  | eq | ne => False
  | gt | gte | lt | lte => True

/-- Defined numbers compare by their places. -/
theorem compareDecimals_holds {operator : ComparisonOperator} {left right : Decimal}
    (leftDefined : left.Defined) (rightDefined : right.Defined) :
    compareDecimals operator left right = .ok true ↔ operator.Holds left.place right.place := by
  cases operator with
  | eq =>
    simp [compareDecimals, ComparisonOperator.Holds, eq_eq_place leftDefined rightDefined]
  | ne =>
    simp [compareDecimals, ComparisonOperator.Holds, eq_eq_place leftDefined rightDefined, bind,
      Except.bind, pure, Except.pure]
  | gt =>
    simp [compareDecimals, ComparisonOperator.Holds, lt_eq_place rightDefined leftDefined]
  | gte =>
    simp [compareDecimals, ComparisonOperator.Holds, le_eq_place rightDefined leftDefined]
  | lt =>
    simp [compareDecimals, ComparisonOperator.Holds, lt_eq_place leftDefined rightDefined]
  | lte =>
    simp [compareDecimals, ComparisonOperator.Holds, le_eq_place leftDefined rightDefined]

/-- Defined numbers satisfy a clause by their places. -/
theorem numbersSatisfy_holds {operator : ComparisonOperator} {value target : Decimal}
    (valueDefined : value.Defined) (targetDefined : target.Defined) :
    numbersSatisfy operator value target = true ↔ operator.Holds value.place target.place := by
  have decided : ∀ holds : Prop, ∀ [Decidable holds],
      ((Except.ok (decide holds) : Except Signal Bool) != .ok true) = true ↔ ¬holds := by
    intro holds _
    by_cases one : holds <;> simp [one]
  have affirmed : ∀ holds : Prop, ∀ [Decidable holds],
      ((Except.ok (decide holds) : Except Signal Bool) == .ok true) = true ↔ holds := by
    intro holds _
    by_cases one : holds <;> simp [one]
  cases operator with
  | eq =>
    rw [numbersSatisfy, eq_eq_place valueDefined targetDefined]
    exact affirmed _
  | ne =>
    rw [numbersSatisfy, eq_eq_place valueDefined targetDefined]
    exact decided _
  | gt =>
    rw [numbersSatisfy, le_eq_place valueDefined targetDefined]
    exact (decided _).trans not_le
  | gte =>
    rw [numbersSatisfy, lt_eq_place valueDefined targetDefined]
    exact (decided _).trans not_lt
  | lt =>
    rw [numbersSatisfy, le_eq_place targetDefined valueDefined]
    exact (decided _).trans not_le
  | lte =>
    rw [numbersSatisfy, lt_eq_place targetDefined valueDefined]
    exact (decided _).trans not_lt

/-- A relation read from the right holds the same way, but for orders between different places. -/
theorem holds_reversed {operator : ComparisonOperator} {left right : Line}
    (holds : operator.Holds left right) :
    operator.Holds right left ↔ (operator.IsOrder → right = left) := by
  cases operator with
  | eq => exact ⟨fun _ none => none.elim, fun _ => Eq.symm holds⟩
  | ne => exact ⟨fun _ none => none.elim, fun _ => Ne.symm holds⟩
  | gt =>
    have ahead : right < left := holds
    exact ⟨fun back => absurd back (lt_asymm ahead),
      fun same => absurd (same trivial) ahead.ne⟩
  | gte =>
    have ahead : right ≤ left := holds
    exact ⟨fun back _ => le_antisymm ahead back, fun same => (same trivial).ge⟩
  | lt =>
    have ahead : left < right := holds
    exact ⟨fun back => absurd back (lt_asymm ahead),
      fun same => absurd (same trivial) ahead.ne'⟩
  | lte =>
    have ahead : left ≤ right := holds
    exact ⟨fun back _ => le_antisymm back ahead, fun same => (same trivial).le⟩

/-- Numbers of one value are defined alike. -/
theorem defined_of_same {left right : Decimal} (same : Decimal.Same left right)
    (defined : right.Defined) : left.Defined := by
  rintro signaling rfl
  cases right with
  | nan other => exact defined other rfl
  | finite negative coefficient exponent => cases same
  | infinity negative => cases same

/-- The numbers of a policy are defined. -/
theorem attribute_defined {inherited : InheritedMembers} {policy : SyntheticPolicy}
    {field : String} {own : Value} (present : policy.attribute inherited field = some own)
    {number : Decimal} (isNumber : own.number? = some number) : number.Defined := by
  have declared : ∀ entry ∈ policy.fields, entry.2 = some own → number.Defined := by
    intro entry member held
    simp only [SyntheticPolicy.fields, List.mem_cons, List.not_mem_nil, or_false] at member
    rcases member with rfl | rfl | rfl | rfl | rfl | rfl | rfl | rfl | rfl | rfl | rfl | rfl |
      rfl | rfl | rfl | rfl | rfl
    all_goals first
      | (obtain rfl := Option.some.inj held; cases isNumber; exact Decimal.ofInt_defined _)
      | (obtain rfl := Option.some.inj held; cases isNumber; exact FiniteDecimal.defined _)
      | (obtain rfl := Option.some.inj held; cases isNumber)
      | (obtain ⟨premium, -, rfl⟩ := Option.map_eq_some_iff.mp held
         cases isNumber
         exact FiniteDecimal.defined _)
  unfold SyntheticPolicy.attribute at present
  split at present
  · rename_i value found
    obtain ⟨before, after, split, -⟩ := List.lookup_eq_some_iff.mp found
    exact declared (field, value) (by rw [split]; simp) present
  · obtain ⟨text, -, rfl⟩ := Option.map_eq_some_iff.mp present
    cases isNumber

/-- Whether a value that a run reads is the value of a policy, and of the kind of the value it
is compared with. -/
inductive ReadAs : Value → Value → Value → Prop
  | number {value own compared : Value} {read number target : Decimal}
    (isRead : value.number? = some read) (isNumber : own.number? = some number)
    (isTarget : compared.number? = some target) (same : Decimal.Same read number) :
    ReadAs value own compared
  | text (own compared : String) : ReadAs (.str own) (.str own) (.str compared)
  | boolean (own compared : Bool) : ReadAs (.bool own) (.bool own) (.bool compared)

/-- Whether an order is compared with something else than two numbers, which no clause checks. -/
def UncheckedOrder (operator : ComparisonOperator) (own compared : Value) : Prop :=
  operator.IsOrder ∧ (own.number? = none ∨ compared.number? = none)

/-- Orders of other values than numbers are satisfied. -/
theorem UncheckedOrder.satisfied {operator : ComparisonOperator} {own compared : Value}
    (unchecked : UncheckedOrder operator own compared) :
    valueSatisfies operator own compared = true := by
  obtain ⟨order, other⟩ := unchecked
  have text : textsSatisfy operator own.text compared.text = true := by
    cases operator with
    | eq | ne => exact order.elim
    | gt | gte | lt | lte => rfl
  unfold valueSatisfies
  rcases other with other | other
  · rw [other]
    exact text
  · rw [other]
    cases own.number? <;> exact text

/-- The number of a literal is defined. -/
theorem literal_defined {literal : Literal} {target : Decimal}
    (isTarget : literal.toValue.number? = some target) : target.Defined := by
  cases literal with
  | int value =>
    cases isTarget
    exact Decimal.ofInt_defined _
  | decimal value =>
    cases isTarget
    exact value.defined
  | str value => cases isTarget
  | bool value => cases isTarget

/-- A number compares as itself. -/
theorem comparisonNumber_of_number {value : Value} {number : Decimal}
    (isNumber : value.number? = some number) : comparisonNumber value = some number := by
  cases value with
  | int _ | decimal _ => exact isNumber
  | str _ | bool _ | date _ => cases isNumber

/-- Numbers compare as numbers. -/
theorem compareValues_numbers {operator : ComparisonOperator} {left right : Value}
    {first second : Decimal} (isFirst : left.number? = some first)
    (isSecond : right.number? = some second) (firstDefined : first.Defined)
    (secondDefined : second.Defined) :
    compareValues operator left right = .ok true ↔ operator.Holds first.place second.place := by
  rw [← compareDecimals_holds firstDefined secondDefined]
  unfold compareValues
  rw [comparisonNumber_of_number isFirst, comparisonNumber_of_number isSecond]
  dsimp only
  cases compareDecimals operator first second with
  | ok holds => exact ⟨fun same => congrArg Except.ok (Except.ok.inj same),
      fun same => congrArg Except.ok (Except.ok.inj same)⟩
  | error signal => exact ⟨fun same => (by cases same), fun same => (by cases same)⟩

/-- Texts that are compared as equal or different are so in a clause. -/
theorem textsSatisfy_ordered {operator : ComparisonOperator} {own literal : String}
    (holds : compareOrdered operator own literal = true) :
    textsSatisfy operator own.toList literal.toList = true := by
  cases operator with
  | eq =>
    have same : own = literal := of_decide_eq_true holds
    exact beq_iff_eq.mpr (congrArg String.toList same)
  | ne =>
    have different : own ≠ literal := of_decide_eq_true holds
    exact bne_iff_ne.mpr fun same => different (String.toList_inj.mp same)
  | gt | gte | lt | lte => rfl

/-- Booleans that are compared as equal or different are so in a clause. -/
theorem booleans_satisfied {operator : ComparisonOperator} {own literal : Bool}
    (holds : compareValues operator (.bool own) (.bool literal) = .ok true ∨
      compareValues operator (.bool literal) (.bool own) = .ok true) :
    valueSatisfies operator (.bool own) (.bool literal) = true := by
  cases operator with
  | eq | ne =>
    cases own <;> cases literal <;> first
      | rfl
      | exact holds.elim (fun same => (Bool.false_ne_true (Except.ok.inj same)).elim)
          fun same => (Bool.false_ne_true (Except.ok.inj same)).elim
  | gt | gte | lt | lte => rfl

/-- A clause holds for the policy whose own value is the one compared on the left. -/
theorem satisfies_left {operator : ComparisonOperator} {value own compared : Value}
    (eligible : compareValues operator value compared = .ok true)
    (read : UncheckedOrder operator own compared ∨ ReadAs value own compared)
    (defined : ∀ number ∈ own.number?, number.Defined)
    (comparedDefined : ∀ number ∈ compared.number?, number.Defined) :
    valueSatisfies operator own compared = true := by
  rcases read with unchecked | read
  · exact unchecked.satisfied
  · cases read with
    | @number _ _ _ read number target isRead isNumber isTarget same =>
      have numberDefined := defined number isNumber
      have readDefined := defined_of_same same numberDefined
      have targetDefined := comparedDefined target isTarget
      have holds := (compareValues_numbers isRead isTarget readDefined targetDefined).mp eligible
      rw [(same_iff_place readDefined numberDefined).mp same] at holds
      unfold valueSatisfies
      rw [isNumber, isTarget]
      exact (numbersSatisfy_holds numberDefined targetDefined).mpr holds
    | text own literal => exact textsSatisfy_ordered (Except.ok.inj eligible)
    | boolean own literal => exact booleans_satisfied (.inl eligible)

/-- A clause holds for the policy whose own value is the one compared on the right exactly when
the relation is no order between different numbers. -/
theorem satisfies_right {operator : ComparisonOperator} {value own compared : Value}
    (eligible : compareValues operator compared value = .ok true)
    (read : UncheckedOrder operator own compared ∨ ReadAs value own compared)
    (defined : ∀ number ∈ own.number?, number.Defined)
    (comparedDefined : ∀ number ∈ compared.number?, number.Defined) :
    valueSatisfies operator own compared = true ↔
      (operator.IsOrder → ∀ number ∈ own.number?, ∀ target ∈ compared.number?,
        Decimal.Same number target) := by
  rcases read with unchecked | read
  · refine ⟨fun _ _ number isNumber target isTarget => ?_, fun _ => unchecked.satisfied⟩
    rcases unchecked.2 with none | none
    · rw [none] at isNumber
      cases isNumber
    · rw [none] at isTarget
      cases isTarget
  · cases read with
    | @number _ _ _ read number target isRead isNumber isTarget same =>
      have numberDefined := defined number isNumber
      have readDefined := defined_of_same same numberDefined
      have targetDefined := comparedDefined target isTarget
      have holds := (compareValues_numbers isTarget isRead targetDefined readDefined).mp eligible
      rw [(same_iff_place readDefined numberDefined).mp same] at holds
      unfold valueSatisfies
      rw [isNumber, isTarget]
      dsimp only
      rw [numbersSatisfy_holds numberDefined targetDefined, holds_reversed holds,
        ← same_iff_place numberDefined targetDefined]
      exact ⟨fun equal order other isOther goal isGoal => Option.some.inj isOther ▸
        Option.some.inj isGoal ▸ equal order, fun equal order => equal order _ rfl _ rfl⟩
    | text own literal =>
      refine ⟨fun _ _ _ none => (by cases none), fun _ => ?_⟩
      cases operator with
      | eq =>
        have same : literal = own := of_decide_eq_true (Except.ok.inj eligible)
        exact beq_iff_eq.mpr (congrArg String.toList same.symm)
      | ne =>
        have different : literal ≠ own := of_decide_eq_true (Except.ok.inj eligible)
        exact bne_iff_ne.mpr fun same => different (String.toList_inj.mp same).symm
      | gt | gte | lt | lte => rfl
    | boolean own literal =>
      exact ⟨fun _ _ _ none => (by cases none), fun _ => booleans_satisfied (.inr eligible)⟩

/-- Comparisons of a literal with a reference on its right. -/
def Condition.LiteralFirst : Condition → Prop
  | .comparison (.literal _) _ (.reference _) => True
  | _ => False

/-- Whether the clause of an eligibility is about the field of a policy that it reads: the policy
has the field, and unless an order is compared with something else than two numbers, the value
read is the policy's own and of the kind of the literal. -/
def ReadsField (inherited : InheritedMembers) (policy : SyntheticPolicy) (context : Context)
    (condition : Condition) : Prop :=
  ∀ clause ∈ eligibilityClause condition, ∃ own,
    policy.attribute inherited clause.field = some own ∧
      (UncheckedOrder clause.operator own clause.value.toValue ∨
        ∃ value, context clause.field = some value ∧ ReadAs value own clause.value.toValue)

/-- Whether an order with the literal on the left is only compared with equal numbers. -/
def Oriented (inherited : InheritedMembers) (policy : SyntheticPolicy)
    (condition : Condition) : Prop :=
  condition.LiteralFirst → ∀ clause ∈ eligibilityClause condition, clause.operator.IsOrder →
    ∀ own ∈ policy.attribute inherited clause.field, ∀ number ∈ own.number?,
      ∀ target ∈ clause.value.toValue.number?, Decimal.Same number target

/-- An eligible policy satisfies the clause exactly when it is oriented like the eligibility. -/
theorem satisfiesClause_eligible {inherited : InheritedMembers} {policy : SyntheticPolicy}
    {context : Context} {condition : Condition} {clause : PredicateClause}
    (clausal : eligibilityClause condition = some clause)
    (eligible : evaluateCondition context condition = .ok true)
    (reads : ReadsField inherited policy context condition) :
    satisfiesClause inherited policy clause = true ↔ Oriented inherited policy condition := by
  obtain ⟨own, present, read⟩ := reads clause clausal
  have defined : ∀ number ∈ own.number?, number.Defined :=
    fun number isNumber => attribute_defined present isNumber
  have literalDefined : ∀ {literal : Literal}, ∀ number ∈ literal.toValue.number?,
      number.Defined := fun _ isTarget => literal_defined isTarget
  have satisfied : satisfiesClause inherited policy clause =
      valueSatisfies clause.operator own clause.value.toValue := by
    unfold satisfiesClause
    rw [present]
  rw [satisfied]
  have resolved : ∀ {operator : ComparisonOperator} {field : String} {literal : Literal},
      evaluateCondition context (.comparison (.reference field) operator (.literal literal)) =
          .ok true →
        ∃ value, context field = some value ∧
          compareValues operator value literal.toValue = .ok true := by
    intro operator field literal holds
    rw [evaluateCondition, resolveValue, resolveValue, resolveReference] at holds
    cases found : context field with
    | none =>
      rw [found] at holds
      cases holds
    | some value =>
      rw [found] at holds
      exact ⟨value, rfl, holds⟩
  have resolvedRight : ∀ {operator : ComparisonOperator} {field : String} {literal : Literal},
      evaluateCondition context (.comparison (.literal literal) operator (.reference field)) =
          .ok true →
        ∃ value, context field = some value ∧
          compareValues operator literal.toValue value = .ok true := by
    intro operator field literal holds
    rw [evaluateCondition, resolveValue, resolveValue, resolveReference] at holds
    cases found : context field with
    | none =>
      rw [found] at holds
      cases holds
    | some value =>
      rw [found] at holds
      exact ⟨value, rfl, holds⟩
  have readOf : ∀ {value : Value}, context clause.field = some value →
      UncheckedOrder clause.operator own clause.value.toValue ∨
        ReadAs value own clause.value.toValue := by
    intro value found
    rcases read with unchecked | ⟨other, same, read⟩
    · exact .inl unchecked
    · rw [found] at same
      cases same
      exact .inr read
  unfold eligibilityClause at clausal
  split at clausal
  · cases clausal
    obtain ⟨value, found, compared⟩ := resolved eligible
    exact ⟨fun _ first => first.elim, fun _ => satisfies_left compared (readOf found) defined
      literalDefined⟩
  · cases clausal
    obtain ⟨value, found, compared⟩ := resolvedRight eligible
    refine (satisfies_right compared (readOf found) defined literalDefined).trans ?_
    constructor
    · intro same _ other isOther order held present' number isNumber
      cases isOther
      rw [present] at present'
      cases present'
      exact same order number isNumber
    · exact fun oriented order => oriented trivial _ rfl order own present
  · cases clausal

/-- An eligibility without a clause is covered by the global predicate. -/
theorem oriented_of_global {inherited : InheritedMembers} {policy : SyntheticPolicy}
    {condition : Condition} (wide : eligibilityClause condition = none) :
    Oriented inherited policy condition := by
  intro _ clause clausal
  rw [wide] at clausal
  cases clausal

/-- The flat package with a surcharge on some roofs, of five or raised to seven. -/
def surchargedContent (eligibility : Condition) (raised : Bool) : PackageContent :=
  { flatPackage.toPackageContent with
    inputs := [integerInput "roof_age"]
    modifiers := [⟨"roof_surcharge", .flatSurcharge, "total",
      .amount ⟨false, if raised then 7 else 5, 0⟩, some eligibility, none, none⟩] }

/-- Roofs of more than ten years. -/
def oldRoof : Condition := .comparison (.reference "roof_age") .gt (.literal (.int 10))

/-- The same roofs, with the number of years on the left. -/
def reversedRoof : Condition := .comparison (.literal (.int 10)) .lt (.reference "roof_age")

/-- Package of a surcharge on roofs of more than ten years. -/
def surchargedPackage (raised : Bool) : IPIRPackage where
  toPackageContent := surchargedContent oldRoof raised
  valid := by cases raised <;> decide

/-- Package of the same surcharge with the number of years on the left. -/
def reversedPackage (raised : Bool) : IPIRPackage where
  toPackageContent := surchargedContent reversedRoof raised
  valid := by cases raised <;> decide

/-- A policy of a roof of twenty years. -/
def oldPolicy : SyntheticPolicy := { datedPolicy sampleDay with roofAge := 20 }

/-- Difference of the surcharges. -/
def surchargeDifference : SemanticDifference :=
  fieldDifference "modifier" "modifiers" "roof_surcharge" "value" .modifierChange .modifier .high
    (some (.decimal (.finite false 5 0))) (some (.decimal (.finite false 7 0)))

/-- The surcharges differ. -/
theorem surcharges_differ : ¬ModifierValueRel Decimal.Same (.amount ⟨false, 5, 0⟩)
    (.amount ⟨false, 7, 0⟩) := by
  intro related
  cases related with
  | amount same =>
    refine absurd (numbersDiffer_eq_false.mpr same) ?_
    decide

end RateGuard
