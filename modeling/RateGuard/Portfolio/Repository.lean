import RateGuard.Portfolio.Eligibility

/-!
# Portfolio repositories

The two other readings of a list of risk predicates: the parameterized filter of the portfolio
table, and the query of the local records. Both ignore the windows of dates; the filter drops
predicates without clauses, and takes a list of only such predicates for no filter at all.
-/

open DecimalFloat CalendarDate Outcome

namespace RateGuard

/-- Types of the columns of the portfolio table. -/
inductive ColumnType where
  | string | date | int64 | bool | numeric
  deriving DecidableEq, Repr

/-- `ALLOWED_FIELDS`. -/
def allowedFields : List (String × ColumnType) :=
  [("policy_id", .string), ("product_id", .string), ("state", .string), ("form", .string),
   ("transaction_type", .string), ("effective_date", .date), ("territory", .string),
   ("roof_age", .int64), ("deductible", .int64), ("protection_class", .int64),
   ("construction_type", .string), ("dwelling_limit", .int64), ("multi_policy", .bool),
   ("claims_free", .bool), ("claims_free_years", .int64), ("canonical_premium", .numeric)]

/-- `OPERATOR_MAP`. -/
def sqlOperator : ComparisonOperator → String
  | .eq => "="
  | .ne => "!="
  | .gt => ">"
  | .gte => ">="
  | .lt => "<"
  | .lte => "<="

/-- Comparison of a column with a named parameter. -/
structure SqlComparison where
  /-- Column. -/
  column : String
  /-- Comparison. -/
  operator : ComparisonOperator
  /-- Name of the parameter. -/
  parameter : String
  /-- Declared type of the parameter. -/
  type : ColumnType
  /-- Value of the parameter. -/
  value : RiskValue
  deriving DecidableEq

/-- `ParameterizedFilter`: a disjunction of conjunctions of comparisons. -/
structure ParameterizedFilter where
  /-- The disjuncts. -/
  disjuncts : List (List SqlComparison)
  deriving DecidableEq

/-- Text of a comparison. -/
def SqlComparison.text (comparison : SqlComparison) : String :=
  comparison.column ++ " " ++ sqlOperator comparison.operator ++ " @" ++ comparison.parameter

/-- Text of the filter, empty without disjuncts. -/
def ParameterizedFilter.whereClause (filter : ParameterizedFilter) : String :=
  if filter.disjuncts = [] then ""
  else "WHERE " ++ " OR ".intercalate (filter.disjuncts.map fun parts =>
    "(" ++ " AND ".intercalate (parts.map SqlComparison.text) ++ ")")

/-- Parameters of the filter: names, types and values. -/
def ParameterizedFilter.queryParams (filter : ParameterizedFilter) :
    List (String × ColumnType × RiskValue) :=
  filter.disjuncts.flatten.map fun comparison =>
    (comparison.parameter, comparison.type, comparison.value)

/-- Value of a parameter: dates of date columns are written out. -/
def parameterValue (type : ColumnType) (value : RiskValue) : RiskValue :=
  match type, value with
  | .date, .date date => .literal (.str (String.ofList date.isoformat))
  | _, value => value

/-- Comparisons of the clauses of one predicate and the next parameter number; clauses about
other fields are skipped. -/
def translateClauses (counter : Nat) : List PredicateClause → List SqlComparison × Nat
  | [] => ([], counter)
  | clause :: rest =>
    match allowedFields.lookup clause.field with
    | none => translateClauses counter rest
    | some type =>
      let translated := translateClauses (counter + 1) rest
      (⟨clause.field, clause.operator, "p_" ++ toString counter, type,
        parameterValue type clause.value⟩ :: translated.1, translated.2)

/-- Disjuncts of the predicates that have comparisons. -/
def translatePredicates (counter : Nat) : List ImpactPredicate → List (List SqlComparison)
  | [] => []
  | predicate :: rest =>
    let translated := translateClauses counter predicate.clauses
    if translated.1 = [] then translatePredicates translated.2 rest
    else translated.1 :: translatePredicates translated.2 rest

/-- `translate_predicates_to_bigquery_where`. -/
def translatePredicatesToBigqueryWhere (predicates : List ImpactPredicate) :
    ParameterizedFilter where
  disjuncts := translatePredicates 1 predicates

/-- Fields of a stored policy by name; the target premium is not stored. -/
def SyntheticPolicy.stored (policy : SyntheticPolicy) (field : String) : Option Value :=
  if field = "target_premium" then none else (policy.fields.lookup field).join

/-- Values the database reads from parameters of a declared type, or nothing when it refuses. -/
abbrev Binding := ColumnType → RiskValue → Option Value

/-- Whether a comparison holds for a row; columns and parameters have one type. -/
def SqlComparison.holds (bind : Binding) (policy : SyntheticPolicy)
    (comparison : SqlComparison) : Bool :=
  match policy.stored comparison.column, bind comparison.type comparison.value with
  | some column, some value =>
    match compareValues comparison.operator column value with
    | .ok holds => holds
    | .error _ => false
  | _, _ => false

/-- Whether a filter selects a row; an empty filter selects every row. -/
def ParameterizedFilter.selects (bind : Binding) (filter : ParameterizedFilter)
    (policy : SyntheticPolicy) : Bool :=
  filter.disjuncts = [] || filter.disjuncts.any fun parts => parts.all (·.holds bind policy)

/-- Rows the query of a filter returns, unless a parameter is refused. -/
def runFilter (bind : Binding) (filter : ParameterizedFilter) (policies : List SyntheticPolicy) :
    Option (List SyntheticPolicy) :=
  if filter.disjuncts.flatten.all fun comparison =>
      (bind comparison.type comparison.value).isSome then
    some (policies.filter (filter.selects bind))
  else none

/-- Order of two values of a local record; values without a common order raise. -/
def localOrder (operator : ComparisonOperator) (value target : Value) : Except Failure Bool :=
  match comparisonNumber value, comparisonNumber target, value, target with
  | some first, some second, _, _ => raising (compareDecimals operator first second)
  | _, _, .str first, .str second => .ok (compareOrdered operator first second)
  | _, _, .date first, .date second => .ok (compareOrdered operator first second)
  | _, _, _, _ => .error .typeError

/-- Comparison of a local record: texts for equality, values for orders. -/
def localCompare (operator : ComparisonOperator) (value target : Value) : Except Failure Bool :=
  match operator with
  | .eq => .ok (value.text == target.text)
  | .ne => .ok (value.text != target.text)
  | .gt | .gte | .lt | .lte => localOrder operator value target

/-- Whether all clauses hold for a local record; later clauses are still compared after one that
does not hold, and a missing field ends the search. -/
def localClauses (policy : SyntheticPolicy) (matched : Bool) :
    List PredicateClause → Except Failure Bool
  | [] => .ok matched
  | clause :: rest =>
    match policy.stored clause.field with
    | none => .ok false
    | some value => do
      let holds ← localCompare clause.operator value clause.value.toValue
      localClauses policy (matched && holds) rest

/-- Whether some predicate holds for a local record. -/
def localMatches (policy : SyntheticPolicy) : List ImpactPredicate → Except Failure Bool
  | [] => .ok false
  | predicate :: rest => do
    if ← localClauses policy true predicate.clauses then return true
    else localMatches policy rest

/-- Local records for which some predicate holds. -/
def selectLocal (predicates : List ImpactPredicate) :
    List SyntheticPolicy → Except Failure (List SyntheticPolicy)
  | [] => .ok []
  | policy :: rest => do
    let matched ← localMatches policy predicates
    let others ← selectLocal predicates rest
    return if matched then policy :: others else others

/-- `LocalPortfolioRepository.query_impacted_policies` without a limit. -/
def queryImpactedPolicies (policies : List SyntheticPolicy) (predicates : List ImpactPredicate) :
    Except Failure (List SyntheticPolicy) :=
  if predicates = [] then .ok policies else selectLocal predicates policies

/-- Values of the columns of a type. -/
inductive ColumnType.Holds : ColumnType → Value → Prop
  | string (value : String) : Holds .string (.str value)
  | date (value : Date) : Holds .date (.date value)
  | int64 (value : Int) : Holds .int64 (.int value)
  | bool (value : Bool) : Holds .bool (.bool value)
  | numeric (value : FiniteDecimal) : Holds .numeric (.decimal value.toDecimal)

/-- Every allowed field is stored with a value of its type. -/
theorem stored_of_allowed {field : String} {type : ColumnType}
    (allowed : allowedFields.lookup field = some type) (inherited : InheritedMembers)
    (policy : SyntheticPolicy) :
    ∃ own, policy.stored field = some own ∧ policy.attribute inherited field = some own ∧
      type.Holds own := by
  obtain ⟨before, after, split, -⟩ := List.lookup_eq_some_iff.mp allowed
  have member : (field, type) ∈ allowedFields := by
    rw [split]
    simp
  simp only [allowedFields, List.mem_cons, List.not_mem_nil, or_false, Prod.mk.injEq] at member
  rcases member with ⟨rfl, rfl⟩ | ⟨rfl, rfl⟩ | ⟨rfl, rfl⟩ | ⟨rfl, rfl⟩ | ⟨rfl, rfl⟩ | ⟨rfl, rfl⟩ |
    ⟨rfl, rfl⟩ | ⟨rfl, rfl⟩ | ⟨rfl, rfl⟩ | ⟨rfl, rfl⟩ | ⟨rfl, rfl⟩ | ⟨rfl, rfl⟩ | ⟨rfl, rfl⟩ |
    ⟨rfl, rfl⟩ | ⟨rfl, rfl⟩ | ⟨rfl, rfl⟩
  all_goals exact ⟨_, rfl, rfl, by constructor⟩

/-- Integers of sixty-four bits. -/
def fitsInt64 (value : Int) : Prop := -2 ^ 63 ≤ value ∧ value < 2 ^ 63

/-- Decimals of at most thirty-eight digits, nine of them after the point. -/
def fitsNumeric (value : FiniteDecimal) : Prop :=
  -9 ≤ value.exponent ∧ value.coefficient * 10 ^ (value.exponent + 9).toNat < 10 ^ 38

/-- Values a parameter of a type is documented to take, integers and dates also as text. -/
inductive Fits : ColumnType → RiskValue → Prop
  | integer (value : Int) (range : fitsInt64 value) : Fits .int64 (.literal (.int value))
  | integerText (value : Int) (range : fitsInt64 value) :
    Fits .int64 (.literal (.str (String.ofList (intText value))))
  | text (value : String) : Fits .string (.literal (.str value))
  | boolean (value : Bool) : Fits .bool (.literal (.bool value))
  | decimal (value : FiniteDecimal) (range : fitsNumeric value) :
    Fits .numeric (.literal (.decimal value))
  | date (value : Date) : Fits .date (.date value)
  | dateText (value : Date) : Fits .date (.literal (.str (String.ofList value.isoformat)))

/-- The database reads the documented parameters as the values they stand for. -/
structure Binding.Documented (bind : Binding) : Prop where
  /-- Integers. -/
  integer : ∀ value, fitsInt64 value → bind .int64 (.literal (.int value)) = some (.int value)
  /-- Integers given as text. -/
  integerText : ∀ value, fitsInt64 value →
    bind .int64 (.literal (.str (String.ofList (intText value)))) = some (.int value)
  /-- Texts. -/
  text : ∀ value, bind .string (.literal (.str value)) = some (.str value)
  /-- Booleans. -/
  boolean : ∀ value, bind .bool (.literal (.bool value)) = some (.bool value)
  /-- Decimals. -/
  decimal : ∀ value, fitsNumeric value →
    bind .numeric (.literal (.decimal value)) = some (.decimal value.toDecimal)
  /-- Dates in ISO format. -/
  date : ∀ value, bind .date (.literal (.str (String.ofList value.isoformat))) =
    some (.date value)

/-- Whether equality in value and in writing are the same for two numbers, and an order that only
numbers are checked for holds. -/
def ComparedAlike (operator : ComparisonOperator) (own target : Value) : Prop :=
  (operator.IsOrder → target.number? = none → compareValues operator own target = .ok true) ∧
    (¬operator.IsOrder → ∀ first second, own = .decimal first → target = .decimal second →
      Decimal.Same first second → first.text = second.text)

/-- The text of an integer determines it. -/
theorem intText_inj {first second : Int} (same : intText first = intText second) :
    first = second := by
  have read : some (Decimal.ofInt first) = some (Decimal.ofInt second) := by
    rw [← Decimal.parse_text, ← Decimal.parse_text, ← intText_eq, ← intText_eq, same]
  have equal := Option.some.inj read
  simp only [Decimal.ofInt, Decimal.finite.injEq, decide_eq_decide] at equal
  omega

/-- The ISO text of a date determines it. -/
theorem isoformat_inj {first second : Date} (same : first.isoformat = second.isoformat) :
    first = second := by
  have read := fromIsoformat_isoformat first
  rw [same, fromIsoformat_isoformat] at read
  exact (Option.some.inj read).symm

/-- Defined numbers compare as they satisfy a clause. -/
theorem compareDecimals_satisfy {operator : ComparisonOperator} {left right : Decimal}
    (leftDefined : left.Defined) (rightDefined : right.Defined) :
    compareDecimals operator left right = .ok (numbersSatisfy operator left right) := by
  have decided : ∃ holds, compareDecimals operator left right = .ok holds := by
    cases operator with
    | eq => exact ⟨_, eq_eq_place leftDefined rightDefined⟩
    | ne =>
      refine ⟨!decide (left.place = right.place), ?_⟩
      rw [compareDecimals, eq_eq_place leftDefined rightDefined]
      rfl
    | gt => exact ⟨_, lt_eq_place rightDefined leftDefined⟩
    | gte => exact ⟨_, le_eq_place rightDefined leftDefined⟩
    | lt => exact ⟨_, lt_eq_place leftDefined rightDefined⟩
    | lte => exact ⟨_, le_eq_place leftDefined rightDefined⟩
  obtain ⟨holds, found⟩ := decided
  have same : holds = true ↔ numbersSatisfy operator left right = true := by
    rw [numbersSatisfy_holds leftDefined rightDefined,
      ← compareDecimals_holds leftDefined rightDefined, found]
    exact ⟨congrArg Except.ok, Except.ok.inj⟩
  rw [found, Bool.eq_iff_iff.mpr same]

/-- Sign and magnitude of an integer. -/
theorem signed_natAbs (value : Int) : signed (decide (value < 0)) value.natAbs = value := by
  unfold signed
  by_cases negative : value < 0
  · simp only [negative, decide_true, if_true]
    omega
  · simp only [negative, decide_false, Bool.false_eq_true, if_false]
    omega

/-- An integer lies at its place. -/
theorem ofInt_place (value : Int) :
    (Decimal.ofInt value).place = (((value : ℚ) : WithTop ℚ) : Line) := by
  simp only [Decimal.ofInt, Decimal.place, rational, signed_natAbs, zpow_zero, mul_one]

/-- Integers are written alike exactly when they are equal. -/
theorem intText_eq_iff_place (first second : Int) :
    intText first = intText second ↔
      (Decimal.ofInt first).place = (Decimal.ofInt second).place := by
  rw [ofInt_place, ofInt_place, WithBot.coe_inj, WithTop.coe_inj, Int.cast_inj]
  exact ⟨intText_inj, congrArg intText⟩

/-- Three readings of a comparison give one truth value. -/
structure ReadEqually (operator : ComparisonOperator) (own bound target : Value) : Prop where
  /-- A local record compares as the row does. -/
  locally : localCompare operator own target = compareValues operator own bound
  /-- A clause is satisfied as the row is. -/
  satisfied : compareValues operator own bound = .ok (valueSatisfies operator own target)

/-- Numbers that are equal in value and in writing are read equally. -/
theorem readEqually_numbers {operator : ComparisonOperator} {own target : Value}
    {number goal : Decimal} (isNumber : own.number? = some number)
    (isGoal : target.number? = some goal) (defined : number.Defined) (goalDefined : goal.Defined)
    (written : ¬operator.IsOrder → (own.text = target.text ↔ number.place = goal.place)) :
    ReadEqually operator own target target := by
  have satisfies : valueSatisfies operator own target = numbersSatisfy operator number goal := by
    unfold valueSatisfies
    rw [isNumber, isGoal]
  have compares : compareValues operator own target =
      .ok (numbersSatisfy operator number goal) := by
    unfold compareValues
    rw [comparisonNumber_of_number isNumber, comparisonNumber_of_number isGoal]
    dsimp only
    rw [compareDecimals_satisfy defined goalDefined]
    rfl
  refine ⟨?_, by rw [compares, satisfies]⟩
  rw [compares]
  cases operator with
  | eq =>
    refine congrArg Except.ok (Bool.eq_iff_iff.mpr ?_)
    rw [beq_iff_eq, written id, numbersSatisfy_holds defined goalDefined]
    rfl
  | ne =>
    refine congrArg Except.ok (Bool.eq_iff_iff.mpr ?_)
    rw [bne_iff_ne, ne_eq, written id, numbersSatisfy_holds defined goalDefined]
    rfl
  | gt | gte | lt | lte =>
    unfold localCompare localOrder
    dsimp only
    rw [comparisonNumber_of_number isNumber, comparisonNumber_of_number isGoal]
    dsimp only
    rw [compareDecimals_satisfy defined goalDefined]
    rfl

/-- Values of one type that are ordered are read equally when equality is that of the texts and
an order holds. -/
theorem readEqually_texts {α : Type} [LT α] [DecidableEq α] [DecidableLT α]
    {operator : ComparisonOperator} {own bound target : Value} {first second : α}
    (compares : compareValues operator own bound = .ok (compareOrdered operator first second))
    (written : own.text = target.text ↔ first = second)
    (other : own.number? = none ∨ target.number? = none)
    (ordered : operator.IsOrder → compareValues operator own bound = .ok true ∧
      localOrder operator own target = .ok true) :
    ReadEqually operator own bound target := by
  have satisfies : valueSatisfies operator own target =
      textsSatisfy operator own.text target.text := by
    unfold valueSatisfies
    rcases other with none | none
    · rw [none]
    · rw [none]
      cases own.number? <;> rfl
  cases operator with
  | eq =>
    have equal : (own.text == target.text) = compareOrdered .eq first second := by
      rw [Bool.eq_iff_iff, beq_iff_eq, written]
      exact decide_eq_true_iff.symm
    exact ⟨by rw [compares, ← equal]; rfl, by rw [compares, satisfies, ← equal]; rfl⟩
  | ne =>
    have different : (own.text != target.text) = compareOrdered .ne first second := by
      rw [Bool.eq_iff_iff, bne_iff_ne, ne_eq, written]
      exact decide_eq_true_iff.symm
    exact ⟨by rw [compares, ← different]; rfl, by rw [compares, satisfies, ← different]; rfl⟩
  | gt | gte | lt | lte =>
    obtain ⟨holds, locally⟩ := ordered trivial
    exact ⟨locally.trans holds.symm, by rw [holds, satisfies]; rfl⟩

/-- Integers compare by their order. -/
theorem compareValues_integers (operator : ComparisonOperator) (first second : Int) :
    compareValues operator (.int first) (.int second) =
      .ok (compareOrdered operator first second) := by
  have compares : compareValues operator (.int first) (.int second) =
      raising (compareDecimals operator (.ofInt first) (.ofInt second)) := rfl
  rw [compares, compareDecimals_satisfy (Decimal.ofInt_defined _) (Decimal.ofInt_defined _)]
  refine congrArg Except.ok (Bool.eq_iff_iff.mpr ?_)
  rw [numbersSatisfy_holds (Decimal.ofInt_defined _) (Decimal.ofInt_defined _), ofInt_place,
    ofInt_place]
  cases operator <;> simp [ComparisonOperator.Holds, compareOrdered]

/-- A parameter that fits the type of a column is read equally by the row, the local record and
the clause, when it is compared alike. -/
theorem readEqually_of_fits {bind : Binding} (documented : bind.Documented) {type : ColumnType}
    {operator : ComparisonOperator} {own : Value} {value : RiskValue} (holds : type.Holds own)
    (fits : Fits type value) (alike : ComparedAlike operator own value.toValue) :
    ∃ bound, bind type (parameterValue type value) = some bound ∧
      ReadEqually operator own bound value.toValue := by
  obtain ⟨ordered, written⟩ := alike
  cases fits with
  | integer target range =>
    cases holds with
    | int64 own =>
      exact ⟨_, documented.integer target range, readEqually_numbers rfl rfl
        (Decimal.ofInt_defined _) (Decimal.ofInt_defined _)
        fun _ => intText_eq_iff_place own target⟩
  | integerText target range =>
    cases holds with
    | int64 own =>
      have text : (Value.str (String.ofList (intText target))).text = intText target :=
        String.toList_ofList
      refine ⟨_, documented.integerText target range, readEqually_texts
        (compareValues_integers operator own target) ?_ (.inr rfl) fun order => ?_⟩
      · exact ⟨fun same => intText_inj (same.trans text),
          fun same => (congrArg intText same).trans text.symm⟩
      · have compared := ordered order rfl
        cases operator <;> first | exact order.elim | cases compared
  | text target =>
    cases holds with
    | string own =>
      refine ⟨_, documented.text target, readEqually_texts rfl String.toList_inj (.inl rfl)
        fun order => ⟨ordered order rfl, ?_⟩⟩
      have compared := ordered order rfl
      cases operator <;> first | exact order.elim | exact compared
  | boolean target =>
    cases holds with
    | bool own =>
      refine ⟨_, documented.boolean target, readEqually_texts
        (compareValues_integers operator (if own then 1 else 0) (if target then 1 else 0)) ?_
        (.inl rfl) fun order => ⟨ordered order rfl, ?_⟩⟩
      · cases own <;> cases target <;> decide
      · have compared := ordered order rfl
        cases operator <;> first | exact order.elim | exact compared
  | decimal target range =>
    cases holds with
    | numeric own =>
      refine ⟨_, documented.decimal target range, readEqually_numbers rfl rfl own.defined
        target.defined fun unordered => ⟨fun same => ?_, fun same => ?_⟩⟩
      · have read : some own.toDecimal = some target.toDecimal := by
          rw [← Decimal.parse_text own.toDecimal, ← Decimal.parse_text target.toDecimal]
          exact congrArg Decimal.parse same
        rw [Option.some.inj read]
      · exact written unordered _ _ rfl rfl ((same_iff_place own.defined target.defined).mpr same)
  | date target =>
    cases holds with
    | date own =>
      refine ⟨_, documented.date target, readEqually_texts rfl
        ⟨isoformat_inj, congrArg Date.isoformat⟩ (.inl rfl)
        fun order => ⟨ordered order rfl, ?_⟩⟩
      have compared := ordered order rfl
      cases operator <;> first | exact order.elim | exact compared
  | dateText target =>
    cases holds with
    | date own =>
      have text : (Value.str (String.ofList target.isoformat)).text = target.isoformat :=
        String.toList_ofList
      refine ⟨_, documented.date target, readEqually_texts rfl ?_ (.inl rfl) fun order => ?_⟩
      · exact ⟨fun same => isoformat_inj (same.trans text),
          fun same => (congrArg Date.isoformat same).trans text.symm⟩
      · have compared := ordered order rfl
        cases operator <;> first | exact order.elim | cases compared

/-- Clauses about portfolio fields, with values that fit the types of their columns. -/
def FieldsFit (clauses : List PredicateClause) : Prop :=
  ∀ clause ∈ clauses, ∃ type, allowedFields.lookup clause.field = some type ∧
    Fits type clause.value

/-- Clauses whose values are compared alike with those of a policy. -/
def FieldsAlike (policy : SyntheticPolicy) (clauses : List PredicateClause) : Prop :=
  ∀ clause ∈ clauses, ∀ own ∈ policy.stored clause.field,
    ComparedAlike clause.operator own clause.value.toValue

/-- A value that fits its column is not refused. -/
theorem bound_of_fits {bind : Binding} (documented : bind.Documented) {type : ColumnType}
    {value : RiskValue} (fits : Fits type value) :
    (bind type (parameterValue type value)).isSome = true := by
  cases fits with
  | integer value range => exact (documented.integer value range) ▸ rfl
  | integerText value range => exact (documented.integerText value range) ▸ rfl
  | text value => exact (documented.text value) ▸ rfl
  | boolean value => exact (documented.boolean value) ▸ rfl
  | decimal value range => exact (documented.decimal value range) ▸ rfl
  | date value => exact (documented.date value) ▸ rfl
  | dateText value => exact (documented.date value) ▸ rfl

/-- One clause is read equally by the row, the local record and the predicate. -/
theorem clause_readEqually {bind : Binding} (documented : bind.Documented)
    (inherited : InheritedMembers) (policy : SyntheticPolicy) {clause : PredicateClause}
    {type : ColumnType} (allowed : allowedFields.lookup clause.field = some type)
    (fits : Fits type clause.value)
    (alike : ∀ own ∈ policy.stored clause.field,
      ComparedAlike clause.operator own clause.value.toValue) (parameter : String) :
    SqlComparison.holds bind policy ⟨clause.field, clause.operator, parameter, type,
        parameterValue type clause.value⟩ = satisfiesClause inherited policy clause ∧
      ∃ own, policy.stored clause.field = some own ∧
        localCompare clause.operator own clause.value.toValue =
          .ok (satisfiesClause inherited policy clause) := by
  obtain ⟨own, stored, attribute', holds⟩ := stored_of_allowed allowed inherited policy
  obtain ⟨bound, binds, read⟩ := readEqually_of_fits documented holds fits (alike own stored)
  have satisfied : satisfiesClause inherited policy clause =
      valueSatisfies clause.operator own clause.value.toValue := by
    unfold satisfiesClause
    rw [attribute']
  refine ⟨?_, own, stored, ?_⟩
  · unfold SqlComparison.holds
    dsimp only
    rw [stored, binds]
    dsimp only
    rw [read.satisfied, satisfied]
  · rw [read.locally, read.satisfied, satisfied]

/-- The comparisons of clauses hold for the row exactly when the clauses are satisfied. -/
theorem translateClauses_holds {bind : Binding} (documented : bind.Documented)
    (inherited : InheritedMembers) (policy : SyntheticPolicy) {clauses : List PredicateClause}
    (fit : FieldsFit clauses) (alike : FieldsAlike policy clauses) (counter : Nat) :
    (translateClauses counter clauses).1.all (·.holds bind policy) =
      clauses.all (satisfiesClause inherited policy) := by
  induction clauses generalizing counter with
  | nil => rfl
  | cons clause rest ih =>
    obtain ⟨type, allowed, fits⟩ := fit clause List.mem_cons_self
    have first := (clause_readEqually documented inherited policy allowed fits
      (alike clause List.mem_cons_self) ("p_" ++ toString counter)).1
    have tail := ih (fun other member => fit other (List.mem_cons_of_mem _ member))
      (fun other member => alike other (List.mem_cons_of_mem _ member)) (counter + 1)
    rw [translateClauses, allowed]
    dsimp only
    rw [List.all_cons, List.all_cons, first, tail]

/-- Clauses about portfolio fields are all translated. -/
theorem translateClauses_eq_nil {clauses : List PredicateClause} (fit : FieldsFit clauses)
    (counter : Nat) : (translateClauses counter clauses).1 = [] ↔ clauses = [] := by
  cases clauses with
  | nil => exact ⟨fun _ => rfl, fun _ => rfl⟩
  | cons clause rest =>
    obtain ⟨type, allowed, -⟩ := fit clause List.mem_cons_self
    rw [translateClauses, allowed]
    exact ⟨fun none => (by cases none), fun none => (by cases none)⟩

/-- Parameters of clauses about portfolio fields are not refused. -/
theorem translateClauses_bound {bind : Binding} (documented : bind.Documented)
    {clauses : List PredicateClause} (fit : FieldsFit clauses) (counter : Nat) :
    ∀ comparison ∈ (translateClauses counter clauses).1,
      (bind comparison.type comparison.value).isSome = true := by
  induction clauses generalizing counter with
  | nil => exact fun _ member => absurd member List.not_mem_nil
  | cons clause rest ih =>
    obtain ⟨type, allowed, fits⟩ := fit clause List.mem_cons_self
    rw [translateClauses, allowed]
    intro comparison member
    rcases List.mem_cons.mp member with rfl | member
    · exact bound_of_fits documented fits
    · exact ih (fun other inside => fit other (List.mem_cons_of_mem _ inside)) _ comparison member

/-- Clauses are searched for a local record as they are satisfied. -/
theorem localClauses_eq {bind : Binding} (documented : bind.Documented)
    (inherited : InheritedMembers) (policy : SyntheticPolicy) {clauses : List PredicateClause}
    (fit : FieldsFit clauses) (alike : FieldsAlike policy clauses) (matched : Bool) :
    localClauses policy matched clauses =
      .ok (matched && clauses.all (satisfiesClause inherited policy)) := by
  induction clauses generalizing matched with
  | nil => rw [localClauses, List.all_nil, Bool.and_true]
  | cons clause rest ih =>
    obtain ⟨type, allowed, fits⟩ := fit clause List.mem_cons_self
    obtain ⟨own, stored, compared⟩ := (clause_readEqually documented inherited policy allowed fits
      (alike clause List.mem_cons_self) "").2
    have tail := ih (fun other member => fit other (List.mem_cons_of_mem _ member))
      (fun other member => alike other (List.mem_cons_of_mem _ member))
      (matched && satisfiesClause inherited policy clause)
    rw [localClauses, stored]
    dsimp only
    rw [compared]
    change localClauses policy (matched && satisfiesClause inherited policy clause) rest = _
    rw [tail, List.all_cons, Bool.and_assoc]

variable {inherited : InheritedMembers} {policy : SyntheticPolicy}
  {predicates : List ImpactPredicate}

/-- Whether the clauses of a predicate hold for a policy. -/
def ClausesHold (inherited : InheritedMembers) (policy : SyntheticPolicy)
    (predicate : ImpactPredicate) : Bool :=
  predicate.clauses.all (satisfiesClause inherited policy)

/-- A local record is selected when the clauses of some predicate hold. -/
theorem localMatches_eq {bind : Binding} (documented : bind.Documented)
    (fit : ∀ predicate ∈ predicates, FieldsFit predicate.clauses)
    (alike : ∀ predicate ∈ predicates, FieldsAlike policy predicate.clauses) :
    localMatches policy predicates = .ok (predicates.any (ClausesHold inherited policy)) := by
  induction predicates with
  | nil => rfl
  | cons predicate rest ih =>
    have first := localClauses_eq documented inherited policy (fit predicate List.mem_cons_self)
      (alike predicate List.mem_cons_self) true
    have tail := ih (fun other member => fit other (List.mem_cons_of_mem _ member))
      fun other member => alike other (List.mem_cons_of_mem _ member)
    rw [localMatches, first, tail, List.any_cons, Bool.true_and]
    unfold ClausesHold
    cases predicate.clauses.all (satisfiesClause inherited policy) <;> rfl

/-- A row is selected when the clauses of some predicate that has clauses hold, or no predicate
has clauses. -/
theorem selects_eq {bind : Binding} (documented : bind.Documented)
    (fit : ∀ predicate ∈ predicates, FieldsFit predicate.clauses)
    (alike : ∀ predicate ∈ predicates, FieldsAlike policy predicate.clauses) :
    (translatePredicatesToBigqueryWhere predicates).selects bind policy = true ↔
      (∀ predicate ∈ predicates, predicate.clauses = []) ∨
        ∃ predicate ∈ predicates, predicate.clauses ≠ [] ∧
          ClausesHold inherited policy predicate = true := by
  have translated : ∀ counter, ((translatePredicates counter predicates = [] ↔
      ∀ predicate ∈ predicates, predicate.clauses = []) ∧
      ((translatePredicates counter predicates).any
        (fun parts => parts.all (·.holds bind policy)) = true ↔
        ∃ predicate ∈ predicates, predicate.clauses ≠ [] ∧
          ClausesHold inherited policy predicate = true)) := by
    induction predicates with
    | nil => exact fun _ => ⟨by simp [translatePredicates], by simp [translatePredicates]⟩
    | cons predicate rest ih =>
      intro counter
      have own := fit predicate List.mem_cons_self
      obtain ⟨none, some⟩ := ih (fun other member => fit other (List.mem_cons_of_mem _ member))
        (fun other member => alike other (List.mem_cons_of_mem _ member))
        (translateClauses counter predicate.clauses).2
      have holds := translateClauses_holds documented inherited policy own
        (alike predicate List.mem_cons_self) counter
      unfold translatePredicates
      dsimp only
      by_cases empty : predicate.clauses = []
      · rw [if_pos ((translateClauses_eq_nil own counter).mpr empty), none, some]
        simp [empty]
      · rw [if_neg (mt (translateClauses_eq_nil own counter).mp empty), List.any_cons, holds,
          Bool.or_eq_true, some]
        simp [empty, ClausesHold]
  unfold ParameterizedFilter.selects translatePredicatesToBigqueryWhere
  rw [Bool.or_eq_true, decide_eq_true_iff, (translated 1).1, (translated 1).2]

/-- Whether a list of predicates selects a policy alike whichever way it is read: there is a
predicate, and when the clauses of one hold, they hold for one in whose window the policy is, and
for one that has clauses unless none has. -/
def SelectedAlike (inherited : InheritedMembers) (predicates : List ImpactPredicate)
    (policy : SyntheticPolicy) : Prop :=
  predicates ≠ [] ∧ ((∃ predicate ∈ predicates, ClausesHold inherited policy predicate = true) →
    (∃ predicate ∈ predicates, ClausesHold inherited policy predicate = true ∧
      inWindow predicate policy.effectiveDate = true) ∧
    ((∀ predicate ∈ predicates, predicate.clauses = []) ∨
      ∃ predicate ∈ predicates, predicate.clauses ≠ [] ∧
        ClausesHold inherited policy predicate = true))

/-- Two selections of one portfolio are equal exactly when they agree on every policy. -/
theorem filter_eq_iff {first second : SyntheticPolicy → Bool} {policies : List SyntheticPolicy} :
    policies.filter first = policies.filter second ↔
      ∀ policy ∈ policies, first policy = second policy := by
  constructor
  · intro same policy member
    refine Bool.eq_iff_iff.mpr ⟨fun holds => ?_, fun holds => ?_⟩
    · have kept : policy ∈ policies.filter second := same ▸ List.mem_filter.mpr ⟨member, holds⟩
      exact (List.mem_filter.mp kept).2
    · have kept : policy ∈ policies.filter first := same ▸ List.mem_filter.mpr ⟨member, holds⟩
      exact (List.mem_filter.mp kept).2
  · exact List.filter_congr

/-- Local records are selected one by one. -/
theorem selectLocal_eq {bind : Binding} (documented : bind.Documented)
    (inherited : InheritedMembers) {policies : List SyntheticPolicy}
    (fit : ∀ predicate ∈ predicates, FieldsFit predicate.clauses)
    (alike : ∀ policy ∈ policies, ∀ predicate ∈ predicates,
      FieldsAlike policy predicate.clauses) :
    selectLocal predicates policies =
      .ok (policies.filter fun policy => predicates.any (ClausesHold inherited policy)) := by
  induction policies with
  | nil => rfl
  | cons policy rest ih =>
    have first : localMatches policy predicates =
        .ok (predicates.any (ClausesHold inherited policy)) :=
      localMatches_eq documented fit (alike policy List.mem_cons_self)
    have tail := ih fun other member => alike other (List.mem_cons_of_mem _ member)
    rw [selectLocal, first, tail, List.filter_cons]
    cases predicates.any (ClausesHold inherited policy) <;> rfl

/-- The local query selects every policy without predicates, else those for which the clauses of
a predicate hold. -/
theorem queryImpactedPolicies_eq {bind : Binding} (documented : bind.Documented)
    (inherited : InheritedMembers) {policies : List SyntheticPolicy}
    (fit : ∀ predicate ∈ predicates, FieldsFit predicate.clauses)
    (alike : ∀ policy ∈ policies, ∀ predicate ∈ predicates,
      FieldsAlike policy predicate.clauses) :
    queryImpactedPolicies policies predicates = .ok (policies.filter fun policy =>
      decide (predicates = []) || predicates.any (ClausesHold inherited policy)) := by
  unfold queryImpactedPolicies
  by_cases empty : predicates = []
  · rw [if_pos empty]
    simp [empty]
  · rw [if_neg empty, selectLocal_eq documented inherited fit alike]
    simp [empty]

/-- The rows of a filter are selected one by one. -/
theorem runFilter_eq {bind : Binding} (documented : bind.Documented)
    (policies : List SyntheticPolicy)
    (fit : ∀ predicate ∈ predicates, FieldsFit predicate.clauses) :
    runFilter bind (translatePredicatesToBigqueryWhere predicates) policies =
      some (policies.filter
        ((translatePredicatesToBigqueryWhere predicates).selects bind)) := by
  have bound : ∀ counter, ∀ parts ∈ translatePredicates counter predicates,
      ∀ comparison ∈ parts, (bind comparison.type comparison.value).isSome = true := by
    induction predicates with
    | nil => exact fun _ _ member => absurd member List.not_mem_nil
    | cons predicate rest ih =>
      intro counter parts member
      have tail := ih (fun other inside => fit other (List.mem_cons_of_mem _ inside))
        (translateClauses counter predicate.clauses).2
      unfold translatePredicates at member
      dsimp only at member
      split at member
      · exact tail parts member
      · rcases List.mem_cons.mp member with rfl | member
        · exact translateClauses_bound documented (fit predicate List.mem_cons_self) counter
        · exact tail parts member
  unfold runFilter
  rw [if_pos]
  rw [List.all_eq_true]
  intro comparison member
  obtain ⟨parts, listed, inside⟩ := List.mem_flatten.mp member
  exact bound 1 parts listed comparison inside

/-- A policy is selected alike exactly when the filter and the local query decide as the
predicates do. -/
theorem selectedAlike_iff {bind : Binding} (documented : bind.Documented)
    (fit : ∀ predicate ∈ predicates, FieldsFit predicate.clauses)
    (alike : ∀ predicate ∈ predicates, FieldsAlike policy predicate.clauses) :
    ((translatePredicatesToBigqueryWhere predicates).selects bind policy =
        isExposed inherited predicates policy ∧
      (decide (predicates = []) || predicates.any (ClausesHold inherited policy)) =
        isExposed inherited predicates policy) ↔
      SelectedAlike inherited predicates policy := by
  have exposed : isExposed inherited predicates policy = true ↔
      ∃ predicate ∈ predicates, ClausesHold inherited policy predicate = true ∧
        inWindow predicate policy.effectiveDate = true := by
    simp only [isExposed, List.any_eq_true, matchesPredicate, Bool.and_eq_true, ClausesHold,
      and_comm]
  have held : (decide (predicates = []) || predicates.any (ClausesHold inherited policy)) =
      true ↔ predicates = [] ∨
        ∃ predicate ∈ predicates, ClausesHold inherited policy predicate = true := by
    rw [Bool.or_eq_true, decide_eq_true_iff, List.any_eq_true]
  have narrower : (∃ predicate ∈ predicates, ClausesHold inherited policy predicate = true ∧
      inWindow predicate policy.effectiveDate = true) →
      ∃ predicate ∈ predicates, ClausesHold inherited policy predicate = true := by
    rintro ⟨predicate, member, holds, -⟩
    exact ⟨predicate, member, holds⟩
  have nonempty : (∃ predicate ∈ predicates, ClausesHold inherited policy predicate = true) →
      predicates ≠ [] := by
    rintro ⟨predicate, member, -⟩
    exact List.ne_nil_of_mem member
  have wide : predicates ≠ [] → (∀ predicate ∈ predicates, predicate.clauses = []) →
      ∃ predicate ∈ predicates, ClausesHold inherited policy predicate = true := by
    intro some empty
    obtain ⟨predicate, member⟩ := List.exists_mem_of_ne_nil _ some
    exact ⟨predicate, member, by rw [ClausesHold, empty predicate member]; rfl⟩
  have narrow : (∃ predicate ∈ predicates, predicate.clauses ≠ [] ∧
      ClausesHold inherited policy predicate = true) →
      ∃ predicate ∈ predicates, ClausesHold inherited policy predicate = true := by
    rintro ⟨predicate, member, -, holds⟩
    exact ⟨predicate, member, holds⟩
  refine (and_congr Bool.eq_iff_iff Bool.eq_iff_iff).trans ?_
  have rows : (translatePredicatesToBigqueryWhere predicates).selects bind policy = true ↔
      (∀ predicate ∈ predicates, predicate.clauses = []) ∨
        ∃ predicate ∈ predicates, predicate.clauses ≠ [] ∧
          ClausesHold inherited policy predicate = true := selects_eq documented fit alike
  rw [rows, exposed, held]
  unfold SelectedAlike
  constructor
  · rintro ⟨selected, local'⟩
    have some : predicates ≠ [] := fun none => nonempty (narrower (local'.mp (.inl none))) none
    exact ⟨some, fun holds => ⟨local'.mp (.inr holds), selected.mpr (local'.mp (.inr holds))⟩⟩
  · rintro ⟨some, agree⟩
    refine ⟨⟨?_, fun exposed => (agree (narrower exposed)).2⟩,
      ⟨?_, fun exposed => .inr (narrower exposed)⟩⟩
    · rintro (none | holds)
      · exact (agree (wide some none)).1
      · exact (agree (narrow holds)).1
    · rintro (none | holds)
      · exact absurd none some
      · exact (agree holds).1

/-- Integer that a text of a number without a fraction writes. -/
def integerOfText (text : List Char) : Option Int :=
  (Decimal.parse text).bind fun number =>
    match number with
    | .finite negative coefficient exponent =>
      if exponent = 0 then some (signed negative coefficient) else none
    | .infinity _ | .nan _ => none

/-- A binding that reads the documented values and refuses others. -/
def plainBinding : Binding
  | .int64, .literal (.int value) => some (.int value)
  | .int64, .literal (.str text) => (integerOfText text.toList).map .int
  | .string, .literal (.str text) => some (.str text)
  | .bool, .literal (.bool value) => some (.bool value)
  | .numeric, .literal (.decimal value) => some (.decimal value.toDecimal)
  | .date, .literal (.str text) => (fromIsoformat text.toList).map .date
  | _, _ => none

/-- The binding reads what is documented. -/
theorem plainBinding_documented : plainBinding.Documented where
  integer _ _ := rfl
  integerText value _ := by
    have read : integerOfText (intText value) = some value := by
      rw [integerOfText, intText_eq, Decimal.parse_text]
      exact congrArg some (signed_natAbs value)
    simp only [plainBinding, String.toList_ofList, read, Option.map_some]
  text _ := rfl
  boolean _ := rfl
  decimal _ _ := rfl
  date value := by
    simp only [plainBinding, String.toList_ofList, fromIsoformat_isoformat, Option.map_some]

/-- Predicate of the roofs of more than ten years. -/
def oldRoofPredicate : ImpactPredicate where
  id := "pred_roof"
  clauses := [⟨"roof_age", .gt, .literal (.int 10)⟩]
  temporalStart := none
  temporalEnd := none

/-- The text of the filter of that predicate. -/
example : (translatePredicatesToBigqueryWhere [oldRoofPredicate]).whereClause =
    "WHERE (roof_age > @p_1)" := by decide +kernel

end RateGuard
