import RateGuard.Oracle.Evaluator

/-!
# Congruence of evaluation

A relation of decimals that every arithmetic step respects is respected by the
whole evaluation: packages whose numbers are related, and which are otherwise
the same, fail together or give related premiums. Numeric sameness and equality
are such relations. The text of a number is the one thing numeric sameness does
not determine, so text keys need separate care.
-/

open DecimalFloat CalendarDate TopologicalSort Outcome

namespace RateGuard

/-- A relation of decimals respected by every operation of the oracle. -/
structure DecimalCongruence (rel : Decimal → Decimal → Prop) : Prop where
  /-- Every decimal is related to itself. -/
  refl : ∀ value, rel value value
  /-- Sums are related. -/
  add : ∀ {a a' b b'}, rel a a' → rel b b' →
    Agree rel (Decimal.add decimalContext a b) (Decimal.add decimalContext a' b')
  /-- Differences are related. -/
  sub : ∀ {a a' b b'}, rel a a' → rel b b' →
    Agree rel (Decimal.sub decimalContext a b) (Decimal.sub decimalContext a' b')
  /-- Products are related. -/
  mul : ∀ {a a' b b'}, rel a a' → rel b b' →
    Agree rel (Decimal.mul decimalContext a b) (Decimal.mul decimalContext a' b')
  /-- Quotients by divisors that are not zero are related. -/
  div : ∀ {a a' b b'}, rel a a' → rel b b' → b.eq (Decimal.ofInt 0) = .ok false →
    Agree rel (Decimal.div decimalContext a b) (Decimal.div decimalContext a' b')
  /-- Rounded values are related. -/
  quantize : ∀ {a a'} target mode, rel a a' →
    Agree rel (a.quantize decimalContext target mode) (a'.quantize decimalContext target mode)
  /-- Strict comparisons decide alike. -/
  lt : ∀ {a a' b b'}, rel a a' → rel b b' → a.lt b = a'.lt b'
  /-- Non-strict comparisons decide alike. -/
  le : ∀ {a a' b b'}, rel a a' → rel b b' → a.le b = a'.le b'
  /-- Equality tests decide alike. -/
  eq : ∀ {a a' b b'}, rel a a' → rel b b' → a.eq b = a'.eq b'
  /-- Integer parts are the same. -/
  toInt : ∀ {a a'}, rel a a' → (Value.decimal a).toInt = (Value.decimal a').toInt
  /-- The result schema accepts both or neither. -/
  recordable : ∀ {a a'}, rel a a' →
    (Value.decimal a).recordable = (Value.decimal a').recordable

/-- A decimal equal to zero denotes the rational zero and nothing else does. -/
theorem number_ne_zero {value : Decimal} (nonzero : value.eq (Decimal.ofInt 0) = .ok false) :
    value.number ≠ .rational 0 := by
  intro isZero
  have same : Decimal.Same value (Decimal.ofInt 0) := by
    rw [Decimal.Same, isZero]
    simp [Decimal.ofInt, Decimal.number, signed]
  have equal := eq_same same (Decimal.Same.refl (Decimal.ofInt 0))
  rw [nonzero] at equal
  exact absurd equal (by decide)

/-- Numeric sameness is respected by every operation. -/
theorem same_congruence : DecimalCongruence Decimal.Same where
  refl := Decimal.Same.refl
  add := add_same decimalContext
  sub := sub_same decimalContext
  mul := mul_same decimalContext
  div lefts rights nonzero := div_same decimalContext (number_ne_zero nonzero) lefts rights
  quantize target mode same := quantize_same decimalContext target mode same
  lt := lt_same
  le := le_same
  eq := eq_same
  toInt same := by
    have parts := truncate_same same
    induction same using same_cases with
    | finite left first exponent right second other same =>
      simp only [Value.toInt, parts]
    | infinity negative => rfl
    | nan signaling => rfl
  recordable same := by
    induction same using same_cases with
    | finite left first exponent right second other same => rfl
    | infinity negative => rfl
    | nan signaling => rfl

/-- Equality is respected by every operation. -/
theorem eq_congruence : DecimalCongruence Eq where
  refl _ := rfl
  add := by rintro _ _ _ _ rfl rfl; exact Agree.refl (fun _ => rfl) _
  sub := by rintro _ _ _ _ rfl rfl; exact Agree.refl (fun _ => rfl) _
  mul := by rintro _ _ _ _ rfl rfl; exact Agree.refl (fun _ => rfl) _
  div := by rintro _ _ _ _ rfl rfl _; exact Agree.refl (fun _ => rfl) _
  quantize := by rintro _ _ _ _ rfl; exact Agree.refl (fun _ => rfl) _
  lt := by rintro _ _ _ _ rfl rfl; rfl
  le := by rintro _ _ _ _ rfl rfl; rfl
  eq := by rintro _ _ _ _ rfl rfl; rfl
  toInt := by rintro _ _ rfl; rfl
  recordable := by rintro _ _ rfl; rfl

/-- Values related through a relation of decimals and otherwise equal. -/
inductive ValueRel (rel : Decimal → Decimal → Prop) : Value → Value → Prop
  | int (value : Int) : ValueRel rel (.int value) (.int value)
  | decimal {left right : Decimal} (holds : rel left right) :
    ValueRel rel (.decimal left) (.decimal right)
  | str (value : String) : ValueRel rel (.str value) (.str value)
  | bool (value : Bool) : ValueRel rel (.bool value) (.bool value)
  | date (value : Date) : ValueRel rel (.date value) (.date value)

/-- Contexts related entry by entry. -/
def ContextRel (rel : Decimal → Decimal → Prop) (left right : Context) : Prop :=
  ∀ id, Option.Rel (ValueRel rel) (left id) (right id)

variable {rel : Decimal → Decimal → Prop}

/-- Agreement of arithmetic results survives raising their signals. -/
theorem agree_raising {α β : Type} {related : α → β → Prop} {left : Except Signal α}
    {right : Except Signal β} (agree : Agree related left right) :
    Agree related (raising left) (raising right) := by
  cases agree with
  | failure first second => exact .failure _ _
  | success holds => exact .success holds

/-- A value is related to itself. -/
theorem ValueRel.refl (congruence : DecimalCongruence rel) (value : Value) :
    ValueRel rel value value := by
  cases value with
  | int value => exact .int value
  | decimal value => exact .decimal (congruence.refl value)
  | str value => exact .str value
  | bool value => exact .bool value
  | date value => exact .date value

/-- Related values convert to related decimals. -/
theorem toDecimal_rel (congruence : DecimalCongruence rel) {left right : Value}
    (values : ValueRel rel left right) : Agree rel left.toDecimal right.toDecimal := by
  cases values with
  | int value => exact .success (congruence.refl _)
  | decimal holds => exact .success holds
  | str value => exact Agree.refl congruence.refl _
  | bool value => exact .failure _ _
  | date value => exact .failure _ _

/-- Related values have the same integer conversion. -/
theorem toInt_rel (congruence : DecimalCongruence rel) {left right : Value}
    (values : ValueRel rel left right) : left.toInt = right.toInt := by
  cases values with
  | int value => rfl
  | decimal holds => exact congruence.toInt holds
  | str value => rfl
  | bool value => rfl
  | date value => rfl

/-- The result schema accepts related values alike. -/
theorem recordable_rel (congruence : DecimalCongruence rel) {left right : Value}
    (values : ValueRel rel left right) : left.recordable = right.recordable := by
  cases values with
  | int value => rfl
  | decimal holds => exact congruence.recordable holds
  | str value => rfl
  | bool value => rfl
  | date value => rfl

/-- Assigning related values keeps contexts related. -/
theorem ContextRel.set {left right : Context} (contexts : ContextRel rel left right)
    (id : String) {first second : Value} (values : ValueRel rel first second) :
    ContextRel rel (left.set id first) (right.set id second) := by
  intro other
  unfold Context.set
  by_cases same : other = id
  · rw [if_pos same, if_pos same]
    exact .some values
  · rw [if_neg same, if_neg same]
    exact contexts other

/-- References resolve alike. -/
theorem resolveReference_rel {left right : Context} (contexts : ContextRel rel left right)
    (ref : String) :
    Agree (ValueRel rel) (resolveReference left ref) (resolveReference right ref) := by
  have entry := contexts ref
  unfold resolveReference
  generalize left ref = first at entry
  generalize right ref = second at entry
  cases entry with
  | none => exact .failure _ _
  | some values => exact .success values

/-- Numeric conversion of references and literals keeps values related. -/
theorem numericResult_rel (congruence : DecimalCongruence rel) {left right : Value}
    (values : ValueRel rel left right) :
    Agree (ValueRel rel) (numericResult left) (numericResult right) := by
  cases values with
  | int value => exact Agree.refl (ValueRel.refl congruence) _
  | decimal holds => exact .success (.decimal holds)
  | str value => exact .success (.str value)
  | bool value => exact Agree.refl (ValueRel.refl congruence) _
  | date value => exact .success (.date value)

/-- Operand conversion keeps values related. -/
theorem operandDecimal_rel (congruence : DecimalCongruence rel) {left right : Value}
    (values : ValueRel rel left right) :
    Agree rel (operandDecimal left) (operandDecimal right) := by
  have converted := toDecimal_rel congruence values
  unfold operandDecimal
  generalize left.toDecimal = first at converted
  generalize right.toDecimal = second at converted
  cases converted with
  | failure _ _ => exact .failure _ _
  | success holds => exact .success holds

/-- Rounding keeps values related. -/
theorem roundDecimal_rel (congruence : DecimalCongruence rel) (precision : Int)
    (mode : Rounding) {left right : Decimal} (holds : rel left right) :
    Agree rel (roundDecimal left precision mode) (roundDecimal right precision mode) :=
  congruence.quantize _ _ holds

/-- Smallest values are related. -/
theorem minDecimal_rel (congruence : DecimalCongruence rel) {first first' : Decimal}
    {rest rest' : List Decimal} (heads : rel first first') (tails : List.Forall₂ rel rest rest') :
    Agree rel (minDecimal first rest) (minDecimal first' rest') := by
  refine Agree.foldlM tails (fun least least' value value' values leasts => ?_) heads
  rw [congruence.lt values leasts]
  refine Agree.bind_same _ fun smaller => ?_
  cases smaller
  · exact .success leasts
  · exact .success values

/-- Largest values are related. -/
theorem maxDecimal_rel (congruence : DecimalCongruence rel) {first first' : Decimal}
    {rest rest' : List Decimal} (heads : rel first first') (tails : List.Forall₂ rel rest rest') :
    Agree rel (maxDecimal first rest) (maxDecimal first' rest') := by
  refine Agree.foldlM tails (fun most most' value value' values mosts => ?_) heads
  rw [congruence.lt mosts values]
  refine Agree.bind_same _ fun larger => ?_
  cases larger
  · exact .success mosts
  · exact .success values

/-- Arithmetic over related operands gives related results. -/
theorem applyArithmetic_rel (congruence : DecimalCongruence rel) (operator : ExpressionOperator)
    {lefts rights : List Decimal} (operands : List.Forall₂ rel lefts rights) :
    Agree rel (applyArithmetic operator lefts) (applyArithmetic operator rights) := by
  cases operator with
  | add =>
    cases operands with
    | nil => exact .failure _ _
    | cons head tail =>
      exact agree_raising (Agree.foldlM tail
        (fun _ _ _ _ values sums => congruence.add sums values) head)
  | subtract =>
    cases operands with
    | nil => exact .failure _ _
    | cons head tail =>
      exact agree_raising (Agree.foldlM tail
        (fun _ _ _ _ values sums => congruence.sub sums values) head)
  | multiply =>
    exact agree_raising (Agree.foldlM operands
      (fun _ _ _ _ values products => congruence.mul products values) (congruence.refl _))
  | divide =>
    cases operands with
    | nil => exact .failure _ _
    | cons dividends rest =>
      cases rest with
      | nil => exact .failure _ _
      | cons divisors _ =>
        unfold applyArithmetic
        simp only [← congruence.eq divisors (congruence.refl (Decimal.ofInt 0))]
        cases zero : Decimal.eq _ (Decimal.ofInt 0) with
        | error signal => exact .failure _ _
        | ok isZero =>
          cases isZero with
          | true => exact .failure _ _
          | false =>
            have quotients := congruence.div dividends divisors zero
            simp only [raising, bind, Except.bind, Bool.false_eq_true, if_false]
            generalize Decimal.div decimalContext _ _ = first at quotients
            generalize Decimal.div decimalContext _ _ = second at quotients
            cases quotients with
            | failure left right => cases left <;> cases right <;> exact .failure _ _
            | success holds => exact .success holds
  | min =>
    cases operands with
    | nil => exact .failure _ _
    | cons head tail => exact agree_raising (minDecimal_rel congruence head tail)
  | max =>
    cases operands with
    | nil => exact .failure _ _
    | cons head tail => exact agree_raising (maxDecimal_rel congruence head tail)
  | round => cases operands <;> exact .failure _ _

/-- Operators over related operands give related results. -/
theorem applyOperator_rel (congruence : DecimalCongruence rel) (operator : ExpressionOperator)
    {lefts rights : List Value} (operands : List.Forall₂ (ValueRel rel) lefts rights) :
    Agree rel (applyOperator operator lefts) (applyOperator operator rights) := by
  by_cases rounding : operator = .round
  · subst rounding
    cases operands with
    | nil => exact .failure _ _
    | cons head tail =>
      refine (operandDecimal_rel congruence head).bind fun _ _ converted => ?_
      cases tail with
      | nil => exact agree_raising (roundDecimal_rel congruence 2 .halfUp converted)
      | cons places _ =>
        simp only [toInt_rel congruence places]
        exact Agree.bind_same _ fun precision =>
          agree_raising (roundDecimal_rel congruence precision .halfUp converted)
  · have arithmetic : ∀ values, applyOperator operator values =
        (values.mapM operandDecimal >>= applyArithmetic operator) := by
      intro values
      cases operator <;> first | rfl | exact absurd rfl rounding
    rw [arithmetic, arithmetic]
    exact (Agree.mapM operands fun _ _ values => operandDecimal_rel congruence values).bind
      fun _ _ converted => applyArithmetic_rel congruence operator converted

mutual

/-- Expressions over related contexts evaluate to related values. -/
theorem evaluateExpression_rel (congruence : DecimalCongruence rel) {left right : Context}
    (contexts : ContextRel rel left right) (operand : Operand) :
    Agree (ValueRel rel) (evaluateExpression left operand) (evaluateExpression right operand) := by
  cases operand with
  | reference ref =>
    exact (resolveReference_rel contexts ref).bind fun _ _ values =>
      numericResult_rel congruence values
  | literal value => exact Agree.refl (ValueRel.refl congruence) _
  | expression operator operands =>
    refine (evaluateOperands_rel congruence contexts operands).bind fun _ _ values => ?_
    refine (applyOperator_rel congruence operator values).bind fun _ _ holds => ?_
    exact .success (.decimal holds)

/-- Operand lists over related contexts evaluate to related values. -/
theorem evaluateOperands_rel (congruence : DecimalCongruence rel) {left right : Context}
    (contexts : ContextRel rel left right) (operands : List Operand) :
    Agree (List.Forall₂ (ValueRel rel)) (evaluateOperands left operands)
      (evaluateOperands right operands) := by
  cases operands with
  | nil => exact .success .nil
  | cons operand rest =>
    refine (evaluateExpression_rel congruence contexts operand).bind fun _ _ head => ?_
    refine (evaluateOperands_rel congruence contexts rest).bind fun _ _ tail => ?_
    exact .success (.cons head tail)

end

/-- Operands resolve to related values. -/
theorem resolveValue_rel (congruence : DecimalCongruence rel) {left right : Context}
    (contexts : ContextRel rel left right) (operand : Operand) :
    Agree (ValueRel rel) (resolveValue left operand) (resolveValue right operand) := by
  cases operand with
  | reference ref => exact resolveReference_rel contexts ref
  | literal value => exact .success (ValueRel.refl congruence _)
  | expression operator operands =>
    exact evaluateExpression_rel congruence contexts (.expression operator operands)

/-- Comparisons of related decimals decide alike. -/
theorem compareDecimals_rel (congruence : DecimalCongruence rel) (operator : ComparisonOperator)
    {left left' right right' : Decimal} (lefts : rel left left') (rights : rel right right') :
    compareDecimals operator left right = compareDecimals operator left' right' := by
  cases operator with
  | eq => exact congruence.eq lefts rights
  | ne => simp only [compareDecimals, congruence.eq lefts rights]
  | gt => exact congruence.lt rights lefts
  | gte => exact congruence.le rights lefts
  | lt => exact congruence.lt lefts rights
  | lte => exact congruence.le lefts rights

/-- Related values compare as related numbers, or both as no number. -/
theorem comparisonNumber_rel (congruence : DecimalCongruence rel) {left right : Value}
    (values : ValueRel rel left right) :
    Option.Rel rel (comparisonNumber left) (comparisonNumber right) := by
  cases values with
  | int value => exact .some (congruence.refl _)
  | decimal holds => exact .some holds
  | str value => exact .none
  | bool value => exact .some (congruence.refl _)
  | date value => exact .none

/-- Values of unrelated types compare alike. -/
theorem compareUnrelated_rel (operator : ComparisonOperator) (left left' right right' : Value) :
    Agree Eq (compareUnrelated operator left right) (compareUnrelated operator left' right') := by
  cases operator <;> first | exact .success rfl | exact .failure _ _

/-- Related values of which one is no number compare alike. -/
theorem compareTyped_rel (operator : ComparisonOperator) {left left' right right' : Value}
    (lefts : ValueRel rel left left') (rights : ValueRel rel right right') :
    Agree Eq (compareTyped operator left right) (compareTyped operator left' right') := by
  cases lefts <;> cases rights <;>
    first
      | exact Agree.refl (fun _ => rfl) _
      | exact compareUnrelated_rel operator _ _ _ _

/-- Comparisons of related values decide alike. -/
theorem compareValues_rel (congruence : DecimalCongruence rel) (operator : ComparisonOperator)
    {left left' right right' : Value} (lefts : ValueRel rel left left')
    (rights : ValueRel rel right right') :
    Agree Eq (compareValues operator left right) (compareValues operator left' right') := by
  have typed := compareTyped_rel operator lefts rights
  have leftNumbers := comparisonNumber_rel congruence lefts
  have rightNumbers := comparisonNumber_rel congruence rights
  unfold compareValues
  generalize comparisonNumber left = first at leftNumbers
  generalize comparisonNumber left' = first' at leftNumbers
  generalize comparisonNumber right = second at rightNumbers
  generalize comparisonNumber right' = second' at rightNumbers
  cases leftNumbers with
  | none => exact typed
  | some firsts =>
    cases rightNumbers with
    | none => exact typed
    | some seconds =>
      simp only [compareDecimals_rel congruence operator firsts seconds]
      exact Agree.refl (fun _ => rfl) _

mutual

/-- Conditions over related contexts decide alike. -/
theorem evaluateCondition_rel (congruence : DecimalCongruence rel) {left right : Context}
    (contexts : ContextRel rel left right) (condition : Condition) :
    Agree Eq (evaluateCondition left condition) (evaluateCondition right condition) := by
  cases condition with
  | comparison first operator second =>
    unfold evaluateCondition
    refine (resolveValue_rel congruence contexts first).bind fun _ _ firsts => ?_
    refine (resolveValue_rel congruence contexts second).bind fun _ _ seconds => ?_
    exact compareValues_rel congruence operator firsts seconds
  | logical operator conditions =>
    cases operator with
    | and => exact evaluateAll_rel congruence contexts conditions
    | or => exact evaluateAny_rel congruence contexts conditions

/-- Conjunctions over related contexts decide alike. -/
theorem evaluateAll_rel (congruence : DecimalCongruence rel) {left right : Context}
    (contexts : ContextRel rel left right) (conditions : List Condition) :
    Agree Eq (evaluateAll left conditions) (evaluateAll right conditions) := by
  cases conditions with
  | nil => exact .success rfl
  | cons condition rest =>
    unfold evaluateAll
    refine (evaluateCondition_rel congruence contexts condition).bind fun first second same => ?_
    subst same
    cases first
    · exact .success rfl
    · exact evaluateAll_rel congruence contexts rest

/-- Disjunctions over related contexts decide alike. -/
theorem evaluateAny_rel (congruence : DecimalCongruence rel) {left right : Context}
    (contexts : ContextRel rel left right) (conditions : List Condition) :
    Agree Eq (evaluateAny left conditions) (evaluateAny right conditions) := by
  cases conditions with
  | nil => exact .success rfl
  | cons condition rest =>
    unfold evaluateAny
    refine (evaluateCondition_rel congruence contexts condition).bind fun first second same => ?_
    subst same
    cases first
    · exact evaluateAny_rel congruence contexts rest
    · exact .success rfl

end

/-- Rows with the same keys and related values. -/
structure RowRel (rel : Decimal → Decimal → Prop) (left right : TableRow) : Prop where
  /-- The keys are the same. -/
  keys : left.rowMatches = right.rowMatches
  /-- The values are related. -/
  value : rel left.value.toDecimal right.value.toDecimal

/-- Entries read by text keys of an exact dimension are identical. -/
def TextKeysAgree (left right : String → Option Value) (dimensions : List TableDimension)
    (keys : List RowMatch) : Prop :=
  ∀ pair ∈ dimensions.zip keys, pair.1.lookupType = .exact →
    ∀ text, pair.2 = .exact (.str text) → left pair.1.inputRef = right pair.1.inputRef

/-- A key that is no text matches related values alike. -/
theorem matchesExact_rel (congruence : DecimalCongruence rel) (key : Literal)
    (numeric : ∀ text, key ≠ .str text) {left right : Value} (values : ValueRel rel left right) :
    Agree Eq (matchesExact key left) (matchesExact key right) := by
  cases values with
  | int value => exact Agree.refl (fun _ => rfl) _
  | str value => exact Agree.refl (fun _ => rfl) _
  | bool value => exact Agree.refl (fun _ => rfl) _
  | date value => exact Agree.refl (fun _ => rfl) _
  | decimal holds =>
    have number : key.toValue.isNumeric = true := by
      cases key with
      | str text => exact absurd rfl (numeric text)
      | int _ | decimal _ | bool _ => rfl
    unfold matchesExact
    rw [number]
    simp only [Value.isNumeric, Bool.and_self, if_true]
    refine (agree_raising (toDecimal_rel congruence (.decimal holds))).bind fun _ _ lefts => ?_
    refine Agree.bind_same _ fun keyed => ?_
    rw [congruence.eq lefts (congruence.refl keyed)]
    exact Agree.refl (fun _ => rfl) _

/-- Brackets match related values alike. -/
theorem matchesRange_rel (congruence : DecimalCongruence rel) (bracket : RangeMatch)
    {left right : Value} (values : ValueRel rel left right) :
    Agree Eq (matchesRange bracket left) (matchesRange bracket right) := by
  refine (agree_raising (toDecimal_rel congruence values)).bind fun first second holds => ?_
  have lower : ∀ bound : Decimal, first.lt bound = second.lt bound := fun bound =>
    congruence.lt holds (congruence.refl bound)
  have upper : ∀ bound : Decimal, bound.lt first = bound.lt second := fun bound =>
    congruence.lt (congruence.refl bound) holds
  simp only [lower, upper]
  exact Agree.refl (fun _ => rfl) _

/-- A key matches related entries alike, given identical entries for text keys. -/
theorem keyMatches_rel (congruence : DecimalCongruence rel) (dimension : TableDimension)
    (key : RowMatch) {left right : Option Value} (entries : Option.Rel (ValueRel rel) left right)
    (textual : dimension.lookupType = .exact → ∀ text, key = .exact (.str text) → left = right) :
    Agree Eq (keyMatches dimension key left) (keyMatches dimension key right) := by
  cases entries with
  | none => exact .success rfl
  | some values =>
    unfold keyMatches
    cases lookup : dimension.lookupType with
    | exact =>
      cases key with
      | range bracket => exact .success rfl
      | exact literal =>
        by_cases text : ∃ s, literal = .str s
        · obtain ⟨s, rfl⟩ := text
          rw [Option.some.inj (textual lookup s rfl)]
          exact Agree.refl (fun _ => rfl) _
        · exact matchesExact_rel congruence literal (fun s found => text ⟨s, found⟩) values
    | range =>
      cases key with
      | range bracket => exact matchesRange_rel congruence bracket values
      | exact literal => exact .success rfl

/-- Rows match related contexts alike. -/
theorem rowMatches_rel (congruence : DecimalCongruence rel) {left right : Context}
    (contexts : ContextRel rel left right) (dimensions : List TableDimension)
    (keys : List RowMatch) (textual : TextKeysAgree left right dimensions keys) :
    Agree Eq (rowMatches left dimensions keys) (rowMatches right dimensions keys) := by
  induction dimensions generalizing keys with
  | nil => exact .success rfl
  | cons dimension dimensions ih =>
    cases keys with
    | nil => exact .success rfl
    | cons key keys =>
      have head := textual (dimension, key) (by simp)
      have tail : TextKeysAgree left right dimensions keys := fun pair member =>
        textual pair (by simp [member])
      unfold rowMatches
      refine (keyMatches_rel congruence dimension key (contexts _) head).bind
        fun first second same => ?_
      subst same
      cases first
      · exact .success rfl
      · exact ih keys tail

/-- Matching rows of related tables are related. -/
theorem matchingRows_rel (congruence : DecimalCongruence rel) {left right : Context}
    (contexts : ContextRel rel left right) (dimensions : List TableDimension)
    {lefts rights : List TableRow} (rows : List.Forall₂ (RowRel rel) lefts rights)
    (textual : ∀ row ∈ lefts, TextKeysAgree left right dimensions row.rowMatches) :
    Agree (List.Forall₂ (RowRel rel)) (matchingRows left dimensions lefts)
      (matchingRows right dimensions rights) := by
  induction rows with
  | nil => exact .success .nil
  | cons head _ ih =>
    unfold matchingRows
    rw [← head.keys]
    refine (rowMatches_rel congruence contexts dimensions _ (textual _ (by simp))).bind
      fun first second same => ?_
    subst same
    refine (ih fun row member => textual row (by simp [member])).bind fun _ _ others => ?_
    cases first
    · exact .success others
    · exact .success (.cons head others)

/-- Rows related up to their order. -/
def RowsRel (rel : Decimal → Decimal → Prop) (lefts rights : List TableRow) : Prop :=
  ∃ middle, List.Forall₂ (RowRel rel) lefts middle ∧ middle.Perm rights

/-- The order of rows does not decide which of them match. -/
theorem matchingRows_perm (lookup : String → Option Value) (dimensions : List TableDimension)
    {lefts rights : List TableRow} (perm : lefts.Perm rights) :
    Agree List.Perm (matchingRows lookup dimensions lefts)
      (matchingRows lookup dimensions rights) := by
  induction perm with
  | nil => exact .success .nil
  | cons head _ ih =>
    unfold matchingRows
    refine Agree.bind_same _ fun matched => ih.bind fun _ _ others => ?_
    cases matched
    · exact .success others
    · exact .success (others.cons head)
  | swap second first tail =>
    unfold matchingRows matchingRows
    generalize rowMatches lookup dimensions first.rowMatches = one
    generalize rowMatches lookup dimensions second.rowMatches = two
    generalize matchingRows lookup dimensions tail = others
    cases one with
    | error _ => cases two <;> exact .failure _ _
    | ok firstMatched =>
      cases two with
      | error _ => exact .failure _ _
      | ok secondMatched =>
        cases others with
        | error _ => exact .failure _ _
        | ok rest =>
          cases firstMatched <;> cases secondMatched <;> constructor <;>
            first | exact List.Perm.refl _ | exact List.Perm.swap _ _ _
  | trans _ _ before after =>
    exact Agree.trans_of (fun _ _ _ first second => first.trans second) before after

/-- Tables with related rows and the same keys, dates and dimensions. -/
structure TableRel (rel : Decimal → Decimal → Prop) (left right : RateTable) : Prop where
  /-- The tables have one identifier. -/
  id : left.id = right.id
  /-- The dimensions are the same. -/
  dimensions : left.dimensions = right.dimensions
  /-- The rows are related in some order. -/
  rows : RowsRel rel left.rows right.rows
  /-- The active dates are the same. -/
  period : left.effectivePeriod = right.effectivePeriod

/-- Lookups in related tables give related factors. -/
theorem lookupTable_rel (congruence : DecimalCongruence rel) {left right : Context}
    (contexts : ContextRel rel left right) {first second : RateTable}
    (tables : TableRel rel first second)
    (textual : ∀ row ∈ first.rows, TextKeysAgree left right first.dimensions row.rowMatches) :
    Agree (fun x y => rel x.1 y.1) (lookupTable first left) (lookupTable second right) := by
  obtain ⟨middle, rows, perm⟩ := tables.rows
  have matched := Agree.trans (matchingRows_rel congruence contexts _ rows textual)
    (matchingRows_perm right first.dimensions perm)
  unfold lookupTable
  rw [← tables.dimensions]
  refine matched.bind fun lefts rights through => ?_
  obtain ⟨related, pairs, reordered⟩ := through
  cases pairs with
  | nil =>
    rw [List.nil_perm.mp reordered]
    by_cases several : 1 < first.dimensions.length
    · simp only [if_pos several]
      exact .success (congruence.refl _)
    · simp only [if_neg several]
      exact .failure _ _
  | cons head tail =>
    cases tail with
    | nil =>
      obtain rfl := List.singleton_perm.mp reordered
      exact .success head.value
    | cons _ _ =>
      have count := reordered.length_eq
      match rights with
      | [] => simp at count
      | [_] => simp at count
      | _ :: _ :: _ => exact .failure _ _

end RateGuard
