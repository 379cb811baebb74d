import RateGuard.Diff.Soundness
import RateGuard.Oracle.Calculator
import RateGuard.Testing.InputAgreement

/-!
# Scenarios of one key

When two scenarios of one key price alike. The key writes numbers in their normal form, so it
forgets how they are spelled and rounds them; an evaluation keeps their spelling for the accepted
texts of an input and for the text keys of a table.
-/

open DecimalFloat CalendarDate Outcome TopologicalSort

namespace RateGuard

variable {rel : Decimal → Decimal → Prop}

/-- Whether two supplied values are one value of an input's declared type. -/
def ReadsSame (rel : Decimal → Decimal → Prop) (input : PricingInput) (left right : Value) : Prop :=
  match input.dataType with
  | .integer => left.toInt.toOption = right.toInt.toOption
  | .decimal | .money =>
    Option.Rel rel left.toDecimal.toOption right.toDecimal.toOption ∧
      (input.allowedValues ≠ none → left.toDecimal.toOption = right.toDecimal.toOption)
  | .string | .category | .boolean | .date => left.text = right.text

/-- Whether two values of a decimal input have one spelling. -/
def SpelledSame (input : PricingInput) (left right : Value) : Prop :=
  input.dataType = .decimal ∨ input.dataType = .money →
    left.toDecimal.toOption = right.toDecimal.toOption

/-- Whether what two scenarios supply for an input has one spelling. -/
def OneSpelling (left right : RiskInput) (input : PricingInput) : Prop :=
  ∀ one two, left.get input.id = some one → right.get input.id = some two →
    SpelledSame input one two

/-- Converted values that are related, and identical where asked. -/
def ConvertsSame (rel : Decimal → Decimal → Prop) (identical : Prop) (left right : Value) : Prop :=
  ValueRel rel left right ∧ (identical → left = right)

/-- Conversions that succeed together with one result agree. -/
theorem agree_of_toOption {ε φ α : Type} {left : Except ε α} {right : Except φ α}
    (same : left.toOption = right.toOption) : Agree Eq left right := by
  cases left with
  | error failed =>
    cases right with
    | error other => exact .failure _ _
    | ok value => cases same
  | ok value =>
    cases right with
    | error other => cases same
    | ok other =>
      cases same
      exact .success rfl

/-- A boolean is read from the text of a value. -/
theorem convertInput_boolean {input : PricingInput} (type : input.dataType = .boolean)
    (value : Value) :
    (convertInput input value).toOption =
      if readsTrue value.text then some (.bool true)
      else if readsFalse value.text then some (.bool false)
      else none := by
  unfold convertInput
  rw [type]
  cases value with
  | bool truth => cases truth <;> rfl
  | int number =>
    dsimp only
    split
    · rfl
    · split <;> rfl
  | decimal number =>
    dsimp only
    split
    · rfl
    · split <;> rfl
  | str text =>
    dsimp only
    split
    · rfl
    · split <;> rfl
  | date day =>
    dsimp only
    split
    · rfl
    · split <;> rfl

/-- A date is read from the text of a value. -/
theorem convertInput_day {input : PricingInput} (type : input.dataType = .date) (value : Value) :
    (convertInput input value).toOption = (fromIsoformat value.text).map .date := by
  unfold convertInput
  rw [type]
  cases value with
  | date day =>
    dsimp only [Value.text]
    rw [fromIsoformat_isoformat]
    rfl
  | int number =>
    dsimp only
    cases fromIsoformat (Value.int number).text <;> rfl
  | decimal number =>
    dsimp only
    cases fromIsoformat (Value.decimal number).text <;> rfl
  | str text =>
    dsimp only
    cases fromIsoformat (Value.str text).text <;> rfl
  | bool truth =>
    dsimp only
    cases fromIsoformat (Value.bool truth).text <;> rfl

/-- A value reads as itself. -/
theorem ReadsSame.refl (congruence : DecimalCongruence rel) (input : PricingInput)
    (value : Value) : ReadsSame rel input value value := by
  have number : Option.Rel rel value.toDecimal.toOption value.toDecimal.toOption := by
    cases value.toDecimal.toOption with
    | none => exact .none
    | some number => exact .some (congruence.refl number)
  unfold ReadsSame
  cases input.dataType with
  | integer => rfl
  | decimal => exact ⟨number, fun _ => rfl⟩
  | money => exact ⟨number, fun _ => rfl⟩
  | string => rfl
  | category => rfl
  | boolean => rfl
  | date => rfl

/-- Accepted texts ask for one spelling. -/
theorem ReadsSame.spelled {input : PricingInput} {left right : Value}
    (same : ReadsSame rel input left right) (restricted : input.allowedValues ≠ none) :
    SpelledSame input left right := by
  unfold ReadsSame at same
  rintro (type | type) <;>
  · rw [type] at same
    exact same.2 restricted

/-- Numbers that read as one convert alike. -/
theorem convertInput_numbers {input : PricingInput}
    (type : input.dataType = .decimal ∨ input.dataType = .money) {left right : Value}
    (numbers : Option.Rel rel left.toDecimal.toOption right.toDecimal.toOption) :
    Agree (ConvertsSame rel (SpelledSame input left right)) (convertInput input left)
      (convertInput input right) := by
  have converts : ∀ value : Value, (convertInput input value).toOption =
      value.toDecimal.toOption.map .decimal := by
    intro value
    unfold convertInput
    rcases type with type | type <;>
    · rw [type]
      dsimp only
      cases value.toDecimal <;> rfl
  have one := converts left
  have two := converts right
  have spelled : SpelledSame input left right →
      left.toDecimal.toOption = right.toDecimal.toOption := fun same => same type
  generalize left.toDecimal.toOption = first at *
  generalize right.toDecimal.toOption = second at *
  generalize convertInput input left = converted at *
  generalize convertInput input right = other at *
  cases numbers with
  | none =>
    cases converted with
    | ok value => cases one
    | error failure =>
      cases other with
      | ok value => cases two
      | error failed => exact .failure _ _
  | some holds =>
    cases converted with
    | error failure => cases one
    | ok value =>
      cases other with
      | error failed => cases two
      | ok found =>
        cases one
        cases two
        refine .success ⟨.decimal holds, fun same => ?_⟩
        rw [Option.some.inj (spelled same)]

/-- Values that read as one convert alike. -/
theorem convertInput_same (congruence : DecimalCongruence rel) {input : PricingInput}
    {left right : Value} (same : ReadsSame rel input left right) :
    Agree (ConvertsSame rel (SpelledSame input left right)) (convertInput input left)
      (convertInput input right) := by
  have equal : ∀ value : Value, ConvertsSame rel (SpelledSame input left right) value value :=
    fun value => ⟨ValueRel.refl congruence value, fun _ => rfl⟩
  have texts : left.text = right.text → Agree (ConvertsSame rel (SpelledSame input left right))
      (Except.ok (.str left.toString) : Except Failure Value)
      (Except.ok (.str right.toString) : Except Failure Value) := by
    intro texts
    unfold Value.toString
    rw [texts]
    exact .success (equal _)
  unfold ReadsSame at same
  cases type : input.dataType with
  | integer =>
    rw [type] at same
    unfold convertInput
    rw [type]
    dsimp only at same ⊢
    cases one : left.toInt with
    | error fault =>
      rw [one] at same
      cases two : right.toInt with
      | error other => cases fault <;> cases other <;> exact .failure _ _
      | ok whole =>
        rw [two] at same
        cases same
    | ok whole =>
      rw [one] at same
      cases two : right.toInt with
      | error other =>
        rw [two] at same
        cases same
      | ok number =>
        rw [two] at same
        cases same
        exact .success (equal _)
  | decimal =>
    rw [type] at same
    exact convertInput_numbers (.inl type) same.1
  | money =>
    rw [type] at same
    exact convertInput_numbers (.inr type) same.1
  | string =>
    rw [type] at same
    unfold convertInput
    rw [type]
    exact texts same
  | category =>
    rw [type] at same
    unfold convertInput
    rw [type]
    exact texts same
  | boolean =>
    rw [type] at same
    dsimp only at same
    refine (agree_of_toOption ?_).mono fun one two found => found ▸ equal one
    rw [convertInput_boolean type, convertInput_boolean type, same]
  | date =>
    rw [type] at same
    dsimp only at same
    refine (agree_of_toOption ?_).mono fun one two found => found ▸ equal one
    rw [convertInput_day type, convertInput_day type, same]

/-- Checks that pass together agree. -/
theorem agree_of_ok {left right : Except Failure Unit} (same : left = .ok () ↔ right = .ok ()) :
    Agree (fun _ _ => True) left right := by
  cases left with
  | ok _ =>
    rw [same.mp rfl]
    exact .success trivial
  | error failure =>
    cases right with
    | ok _ => cases same.mpr rfl
    | error other => exact .failure _ _

/-- Related numbers are checked against the bounds alike. -/
theorem checkBounds_rel (congruence : DecimalCongruence rel) (input : PricingInput)
    {left right : Value} (values : ValueRel rel left right) :
    Agree (fun _ _ => True) (checkBounds input left) (checkBounds input right) := by
  cases numeric : input.dataType.isNumeric with
  | false =>
    rw [checkBounds_other left numeric, checkBounds_other right numeric]
    exact .success trivial
  | true =>
    have numbers := toDecimal_rel congruence values
    cases one : left.toDecimal with
    | error signal =>
      rw [one] at numbers
      cases two : right.toDecimal with
      | ok number =>
        rw [two] at numbers
        cases numbers
      | error other =>
        unfold checkBounds
        rw [if_pos numeric, if_pos numeric, one, two]
        exact .failure _ _
    | ok first =>
      rw [one] at numbers
      cases two : right.toDecimal with
      | error other =>
        rw [two] at numbers
        cases numbers
      | ok second =>
        rw [two] at numbers
        cases numbers with
        | success holds =>
          refine agree_of_ok ?_
          rw [checkBounds_iff numeric one, checkBounds_iff numeric two]
          have below : ∀ limit : Bound, first.lt limit.toDecimal = second.lt limit.toDecimal :=
            fun limit => congruence.lt holds (congruence.refl _)
          have above : ∀ limit : Bound, limit.toDecimal.lt first = limit.toDecimal.lt second :=
            fun limit => congruence.lt (congruence.refl _) holds
          simp only [Bounded, below, above]

/-- Values that read as one are validated alike. -/
theorem validateValue_same (congruence : DecimalCongruence rel) {input : PricingInput}
    {left right : Value} (same : ReadsSame rel input left right) :
    Agree (ConvertsSame rel (SpelledSame input left right)) (validateValue input left)
      (validateValue input right) := by
  refine (convertInput_same congruence same).bind fun one two converted => ?_
  have allowed : Agree (fun _ _ => True) (checkAllowed input one) (checkAllowed input two) := by
    refine agree_of_ok ?_
    rw [checkAllowed_iff, checkAllowed_iff]
    by_cases restricted : input.allowedValues = none
    · simp [Spelled, restricted]
    · rw [converted.2 (same.spelled restricted)]
  refine allowed.bind fun _ _ _ => ?_
  exact (checkBounds_rel congruence input converted.1).bind fun _ _ _ => .success converted

/-- Whether two scenarios supply one value for every input, as its declared type reads it. The
claims-free inputs are derived from each other where one is absent. -/
structure SuppliesSame (rel : Decimal → Decimal → Prop) (inputs : List PricingInput)
    (left right : RiskInput) : Prop where
  /-- The same identifiers are supplied. -/
  ids : ∀ id, id ∈ left.values.map Prod.fst ↔ id ∈ right.values.map Prod.fst
  /-- Declared inputs. -/
  declared : ∀ input ∈ inputs, ∀ one two, left.get input.id = some one →
    right.get input.id = some two → ReadsSame rel input one two
  /-- Years without claims decide whether a policy is claims-free. -/
  years : "claims_free" ∈ inputs.map (·.id) → ∀ one two,
    left.get "claims_free_years" = some one → right.get "claims_free_years" = some two →
    one.toInt.toOption = two.toInt.toOption
  /-- A claims-free policy has years without claims. -/
  free : "claims_free_years" ∈ inputs.map (·.id) → ∀ one two,
    left.get "claims_free" = some one → right.get "claims_free" = some two →
    readsTrue one.text = readsTrue two.text

/-- An identifier is supplied exactly when it has a value. -/
theorem RiskInput.get_eq_none {risk : RiskInput} {id : String} :
    risk.get id = none ↔ id ∉ risk.values.map Prod.fst := by
  unfold RiskInput.get
  rw [Option.map_eq_none_iff, List.lookup_eq_none_iff]
  constructor
  · intro absent member
    obtain ⟨entry, inside, same⟩ := List.mem_map.mp member
    have different := absent entry inside
    simp [same] at different
  · intro outside entry inside
    have different : id ≠ entry.1 := fun same =>
      outside (List.mem_map.mpr ⟨entry, inside, same.symm⟩)
    simpa using different

/-- Either scenario supplies an identifier, or neither does. -/
theorem SuppliesSame.both {inputs : List PricingInput} {left right : RiskInput}
    (supplies : SuppliesSame rel inputs left right) (id : String) :
    (left.get id = none ∧ right.get id = none) ∨
      ∃ one two, left.get id = some one ∧ right.get id = some two := by
  have absent : left.get id = none ↔ right.get id = none := by
    rw [RiskInput.get_eq_none, RiskInput.get_eq_none]
    exact not_congr (supplies.ids id)
  cases one : left.get id with
  | none => exact .inl ⟨rfl, absent.mp one⟩
  | some first =>
    cases two : right.get id with
    | none =>
      rw [absent.mpr two] at one
      cases one
    | some second => exact .inr ⟨first, second, rfl, rfl⟩

/-- Absent inputs are derived alike. -/
theorem suppliedValue_derived {inputs : List PricingInput} {left right : RiskInput}
    (supplies : SuppliesSame rel inputs left right) {input : PricingInput}
    (member : input ∈ inputs) (one : left.get input.id = none) (two : right.get input.id = none) :
    Agree Eq (suppliedValue input left) (suppliedValue input right) := by
  have named := List.mem_map_of_mem (f := fun node : PricingInput => node.id) member
  have absent : Agree Eq
      (if input.required then .error (.oracle (.missingInput input.id)) else .ok none :
        Except Failure (Option Value))
      (if input.required then .error (.oracle (.missingInput input.id)) else .ok none :
        Except Failure (Option Value)) := Agree.refl (fun _ => rfl) _
  unfold suppliedValue
  rw [one, two]
  dsimp only
  by_cases free : input.id = "claims_free"
  · have other : (input.id == "claims_free_years") = false := by
      rw [free]
      decide
    rw [beq_iff_eq.mpr free, other]
    rcases supplies.both "claims_free_years" with ⟨none, none'⟩ | ⟨first, second, some, some'⟩
    · rw [none, none']
      exact absent
    · rw [some, some']
      have same := supplies.years (free ▸ named) first second some some'
      have integers : Agree Eq (raisingInt first.toInt) (raisingInt second.toInt) := by
        refine agree_of_toOption ?_
        cases number : first.toInt <;> cases number' : second.toInt <;>
          rw [number, number'] at same
        · rename_i fault fault'
          cases fault <;> cases fault' <;> rfl
        · cases same
        · cases same
        · cases same
          rfl
      refine integers.bind fun _ _ equal => ?_
      subst equal
      exact .success rfl
  · have other : (input.id == "claims_free") = false := by simpa using free
    rw [other]
    by_cases years : input.id = "claims_free_years"
    · rw [beq_iff_eq.mpr years]
      rcases supplies.both "claims_free" with ⟨none, none'⟩ | ⟨first, second, some, some'⟩
      · rw [none, none']
        exact absent
      · rw [some, some']
        dsimp only
        rw [supplies.free (years ▸ named) first second some some']
        exact .success rfl
    · have neither : (input.id == "claims_free_years") = false := by simpa using years
      rw [neither]
      exact absent

/-- Two scenarios that supply one value validate it alike. -/
theorem validateInput_same (congruence : DecimalCongruence rel) {inputs : List PricingInput}
    {left right : RiskInput} (supplies : SuppliesSame rel inputs left right) {input : PricingInput}
    (member : input ∈ inputs) :
    Agree (Option.Rel (ConvertsSame rel (OneSpelling left right input)))
      (validateInput left input) (validateInput right input) := by
  rcases supplies.both input.id with ⟨one, two⟩ | ⟨first, second, one, two⟩
  · unfold validateInput
    refine (suppliedValue_derived supplies member one two).bind fun value other same => ?_
    subst same
    cases value with
    | none => exact .success .none
    | some value =>
      refine Agree.bind_same _ fun converted => Agree.bind_same _ fun _ =>
        Agree.bind_same _ fun _ => ?_
      exact .success (.some ⟨ValueRel.refl congruence converted, fun _ => rfl⟩)
  · rw [validateInput_supplied one, validateInput_supplied two]
    refine (validateValue_same congruence
      (supplies.declared input member first second one two)).map fun _ _ converted => ?_
    exact .some ⟨converted.1, fun spelled => converted.2 (spelled first second one two)⟩

/-- Validated entries of one identifier, identical where it is marked. -/
structure EntryRel (rel : Decimal → Decimal → Prop) (pinned : String → Prop)
    (left right : String × Value) : Prop where
  /-- The identifier is the same. -/
  id : left.1 = right.1
  /-- The values are related. -/
  value : ValueRel rel left.2 right.2
  /-- Marked values are identical. -/
  identical : pinned left.1 → left.2 = right.2

/-- Inputs whose supplied values have one spelling. -/
def Pinned (inputs : List PricingInput) (left right : RiskInput) (id : String) : Prop :=
  ∃ input ∈ inputs, input.id = id ∧ OneSpelling left right input

/-- Two scenarios that supply one value for every input have related validated entries. -/
theorem validateRiskInputs_same (congruence : DecimalCongruence rel) {inputs : List PricingInput}
    (distinct : (inputs.map (·.id)).Nodup) {left right : RiskInput}
    (supplies : SuppliesSame rel inputs left right) (strict : Bool) :
    Agree (List.Forall₂ (EntryRel rel (Pinned inputs left right)))
      (validateRiskInputs inputs left strict) (validateRiskInputs inputs right strict) := by
  have members : List.Forall₂ (fun one two => one = two ∧ one ∈ inputs) inputs inputs :=
    List.forall₂_same.mpr fun input member => ⟨rfl, member⟩
  have entries : Agree (List.Forall₂ (Option.Rel (EntryRel rel (Pinned inputs left right))))
      (inputs.mapM (validateEntry left)) (inputs.mapM (validateEntry right)) := by
    refine Agree.mapM members fun input other same => ?_
    obtain ⟨rfl, member⟩ := same
    refine (validateInput_same congruence supplies member).map fun one two values => ?_
    cases values with
    | none => exact .none
    | some converted =>
      refine .some ⟨rfl, converted.1, fun marked => converted.2 ?_⟩
      obtain ⟨pinned, inside, named, spelled⟩ := marked
      rwa [KeyedList.eq_of_key distinct member inside named.symm]
  have extra : (extraKeys inputs left).isEmpty = (extraKeys inputs right).isEmpty := by
    rw [Bool.eq_iff_iff, List.isEmpty_iff, List.isEmpty_iff]
    simp only [extraKeys, List.filter_eq_nil_iff, supplies.ids]
  unfold validateRiskInputs
  refine entries.bind fun ones twos lists => ?_
  rw [extra]
  refine Agree.ite Iff.rfl (.failure _ _) (.success ?_)
  exact List.rel_filterMap (fun _ _ optional => optional) lists

/-- Evaluations with related contexts, identical where marked. -/
structure Paired (rel : Decimal → Decimal → Prop) (pinned : String → Prop)
    (left right : Evaluation) : Prop where
  /-- The contexts are related. -/
  contexts : ContextRel rel left.context right.context
  /-- Marked entries are identical. -/
  identical : ∀ id, pinned id → left.context id = right.context id

/-- Setting related entries keeps evaluations paired. -/
theorem setInputs_rel (congruence : DecimalCongruence rel) {pinned : String → Prop}
    {lefts rights : List (String × Value)}
    (entries : List.Forall₂ (EntryRel rel pinned) lefts rights) {left right : Evaluation}
    (paired : Paired rel pinned left right) :
    Agree (Paired rel pinned) (setInputs left lefts) (setInputs right rights) := by
  refine Agree.foldlM entries (fun state state' one two entry paired => ?_) paired
  have set : Paired rel pinned (state.set one.1 one.2) (state'.set two.1 two.2) := by
    rw [← entry.id]
    constructor
    · exact paired.contexts.set one.1 entry.value
    · intro id marked
      by_cases same : id = one.1
      · subst same
        simp only [Evaluation.set, Context.set_same, entry.identical marked]
      · simp only [Evaluation.set, Context.set_other _ _ same, paired.identical id marked]
  unfold Evaluation.addStep
  rw [recordable_rel congruence entry.value]
  exact Agree.ite Iff.rfl (.success ⟨set.contexts, set.identical⟩) (.failure _ _)

/-- Fewer marked entries are separated as well. -/
theorem Separated.mono {pinned fewer : String → Prop} {package : PackageContent}
    (separated : Separated pinned package) (inside : ∀ id, fewer id → pinned id) :
    Separated fewer package where
  inputs_distinct := separated.inputs_distinct
  constants_distinct := separated.constants_distinct
  constants node member marked := separated.constants node member (inside _ marked)
  fees node member marked := separated.fees node member (inside _ marked)
  constraints node member marked := separated.constraints node member (inside _ marked)
  modifiers node member marked := separated.modifiers node member (inside _ marked)
  tables node member marked := separated.tables node member (inside _ marked)
  rules node member marked := separated.rules node member (inside _ marked)
  calculations node member marked := separated.calculations node member (inside _ marked)

/-- A package prices like itself where text keys of its tables are looked up alike. -/
theorem PricesAlike.refl (congruence : DecimalCongruence rel) {pinned : String → Prop}
    {known : Context} (date : Date) {package : PackageContent}
    (textual : ∀ table ∈ package.tables, ∀ row ∈ table.rows, ∀ first second,
      StateRel rel pinned known first second →
      TextKeysAgree first.context second.context table.dimensions row.rowMatches) :
    PricesAlike rel pinned known date package package where
  active := rfl
  transactions _ := Iff.rfl
  inputs := .refl _
  constants := ⟨package.constants,
    List.forall₂_same.mpr fun _ _ => ⟨rfl, congruence.refl _, rfl⟩, .refl _⟩
  tables := List.forall₂_same.mpr fun table member => {
    id := rfl
    active := rfl
    lookup := fun first second states =>
      lookupTable_rel congruence states.contexts
        ⟨rfl, rfl, ⟨table.rows, List.forall₂_same.mpr fun _ _ => ⟨rfl, congruence.refl _⟩,
          .refl _⟩, rfl⟩
        fun row inside => textual table member row inside first second states }
  rules := rfl
  calculations := rfl
  rounding _ _ := rfl
  modifiers := List.forall₂_same.mpr fun modifier _ => {
    id := rfl
    modifierType := rfl
    eligibility := rfl
    sequence := rfl
    active := rfl
    value := .inl (by
      cases modifier.value with
      | amount value => exact .amount (congruence.refl _)
      | reference ref => exact .reference ref) }
  constraints := List.forall₂_same.mpr fun _ _ => ⟨rfl, rfl, congruence.refl _, rfl, rfl⟩
  fees := List.forall₂_same.mpr fun _ _ => ⟨rfl, congruence.refl _, rfl, rfl⟩
  outputs := rfl

/-- Scenarios that supply one value for every input, and look text keys up alike, price alike. -/
theorem evaluatePackage_supplies (congruence : DecimalCongruence rel) (sorter : Sorter String)
    (package : IPIRPackage) {left right : RiskInput}
    (supplies : SuppliesSame rel package.inputs left right)
    (textual : ∀ known, ∀ table ∈ package.tables, ∀ row ∈ table.rows, ∀ first second,
      StateRel rel (Pinned package.inputs left right) known first second →
      TextKeysAgree first.context second.context table.dimensions row.rowMatches)
    (date : Date) (transaction : TransactionType) (strict : Bool) :
    Agree (ResultRel rel)
      (evaluatePackage sorter package.toPackageContent left date transaction strict)
      (evaluatePackage sorter package.toPackageContent right date transaction strict) := by
  have separated : Separated (Pinned package.inputs left right) package.toPackageContent :=
    package.valid.separated.mono fun id pinned => by
      obtain ⟨input, member, named, -⟩ := pinned
      exact List.mem_map.mpr ⟨input, member, named⟩
  unfold evaluatePackage
  refine Agree.bind_same _ fun _ => ?_
  rw [prepare_eq, prepare_eq, bind_assoc, bind_assoc]
  refine (validateRiskInputs_same congruence separated.inputs_distinct supplies strict).bind
    fun entries others related => ?_
  rw [bind_assoc, bind_assoc]
  have start : Paired rel (Pinned package.inputs left right) Evaluation.start Evaluation.start :=
    ⟨fun _ => .none, fun _ _ => rfl⟩
  refine (setInputs_rel congruence related start).bind fun first second paired => ?_
  have packages := PricesAlike.refl congruence date (textual first.context)
  have states : StateRel rel (Pinned package.inputs left right) first.context first second :=
    ⟨paired.contexts, fun _ _ => rfl, fun id marked => (paired.identical id marked).symm⟩
  refine (prepareNodes_rel congruence packages separated states).bind fun _ _ states => ?_
  refine (calculate_rel congruence sorter packages separated states).bind fun _ _ states => ?_
  exact finish_rel congruence packages transaction states

/-- Values of a request as probe values. -/
def RiskInput.probeValues (risk : RiskInput) : ProbeValues where
  entries := risk.values.map fun entry => (entry.1, entry.2.toValue)
  distinct := by
    have same : (risk.values.map fun entry => (entry.1, entry.2.toValue)).map Prod.fst =
        risk.values.map Prod.fst := by simp [Function.comp_def]
    rw [same]
    exact risk.distinct

/-- Key of a scenario. -/
def PricingTestScenario.key (scenario : PricingTestScenario) : Except Failure ProbeKey :=
  canonicalProbeKey scenario.riskValues.probeValues scenario.effectiveDate
    scenario.transactionType

/-- A key lists the supplied identifiers. -/
theorem canonicalProbeKey_ids {values : ProbeValues} {date : Date}
    {transaction : TransactionType} {key : ProbeKey}
    (found : canonicalProbeKey values date transaction = .ok key) (id : String) :
    id ∈ key.items.map Prod.fst ↔ id ∈ values.entries.map Prod.fst := by
  obtain ⟨items, traversed, same⟩ := bind_eq_ok found
  cases same
  have ids : ∀ (entries : List (String × Value)) (items : List (String × List Char)),
      List.Forall₂ (fun entry item => keyItem entry = .ok item) entries items →
      items.map Prod.fst = entries.map Prod.fst := by
    intro entries items lists
    induction lists with
    | nil => rfl
    | cons head _ ih =>
      obtain ⟨text, -, item⟩ := bind_eq_ok head
      cases item
      rw [List.map_cons, List.map_cons, ih]
  rw [ids _ _ (mapM_eq_ok traversed)]
  exact ((List.perm_insertionSort _ values.entries).map Prod.fst).mem_iff

/-- Scenarios of one key supply the same identifiers on one date for one transaction. -/
theorem PricingTestScenario.same_key {left right : PricingTestScenario} {key : ProbeKey}
    (leftKey : left.key = .ok key) (rightKey : right.key = .ok key) :
    (∀ id, id ∈ left.riskValues.values.map Prod.fst ↔
      id ∈ right.riskValues.values.map Prod.fst) ∧
    left.effectiveDate = right.effectiveDate ∧ left.transactionType = right.transactionType := by
  refine ⟨fun id => ?_, ?_⟩
  · have entries : ∀ risk : RiskInput, risk.probeValues.entries.map Prod.fst =
        risk.values.map Prod.fst := fun risk => by
      simp [RiskInput.probeValues, Function.comp_def]
    rw [← entries, ← entries, ← canonicalProbeKey_ids leftKey, ← canonicalProbeKey_ids rightKey]
  · obtain ⟨_, _, one⟩ := bind_eq_ok leftKey
    obtain ⟨_, _, two⟩ := bind_eq_ok rightKey
    have same := Except.ok.inj (one.trans two.symm)
    exact ⟨congrArg ProbeKey.effectiveDate same, congrArg ProbeKey.transactionType same⟩

/-- Whether the values of two scenarios are interchangeable for a package: the oracle reads one
value for every input, and text keys of tables are looked up with one spelling. -/
structure Interchangeable (package : PackageContent) (left right : RiskInput) : Prop where
  /-- Declared inputs. -/
  declared : ∀ input ∈ package.inputs, ∀ one two, left.get input.id = some one →
    right.get input.id = some two → ReadsSame Decimal.Same input one two
  /-- Years without claims, where they decide whether a policy is claims-free. -/
  years : package.IsInput "claims_free" → ∀ one two, left.get "claims_free_years" = some one →
    right.get "claims_free_years" = some two → one.toInt.toOption = two.toInt.toOption
  /-- Whether a policy is claims-free, where it decides the years without claims. -/
  free : package.IsInput "claims_free_years" → ∀ one two, left.get "claims_free" = some one →
    right.get "claims_free" = some two → readsTrue one.text = readsTrue two.text
  /-- Text keys read inputs of one spelling, unless all inputs have one. -/
  keys : (∀ input ∈ package.inputs, OneSpelling left right input) ∨
    ∀ table ∈ package.tables, ∀ row ∈ table.rows, ∀ pair ∈ table.dimensions.zip row.rowMatches,
      pair.1.lookupType = .exact → ∀ text, pair.2 = .exact (.str text) →
        Pinned package.inputs left right pair.1.inputRef

/-- One value and one spelling are an identical value. -/
theorem ReadsSame.identical {input : PricingInput} {left right : Value}
    (same : ReadsSame Decimal.Same input left right) (spelled : SpelledSame input left right) :
    ReadsSame Eq input left right := by
  have number : left.toDecimal.toOption = right.toDecimal.toOption →
      Option.Rel Eq left.toDecimal.toOption right.toDecimal.toOption := by
    intro equal
    rw [equal]
    cases right.toDecimal.toOption with
    | none => exact .none
    | some number => exact .some rfl
  unfold ReadsSame at same ⊢
  unfold SpelledSame at spelled
  cases type : input.dataType with
  | integer => rwa [type] at same
  | decimal =>
    rw [type] at same
    exact ⟨number (spelled (.inl type)), same.2⟩
  | money =>
    rw [type] at same
    exact ⟨number (spelled (.inr type)), same.2⟩
  | string => rwa [type] at same
  | category => rwa [type] at same
  | boolean => rwa [type] at same
  | date => rwa [type] at same

/-- Scenarios of one key with interchangeable values fail together or give one premium. -/
theorem evaluatePackage_sameKey (sorter : Sorter String) (package : IPIRPackage)
    (left right : PricingTestScenario) (key : ProbeKey) (leftKey : left.key = .ok key)
    (rightKey : right.key = .ok key)
    (interchangeable :
      Interchangeable package.toPackageContent left.riskValues right.riskValues)
    (strict : Bool) :
    Agree (ResultRel Decimal.Same)
      (evaluatePackage sorter package.toPackageContent left.riskValues left.effectiveDate
        left.transactionType strict)
      (evaluatePackage sorter package.toPackageContent right.riskValues right.effectiveDate
        right.transactionType strict) := by
  obtain ⟨ids, date, transaction⟩ := PricingTestScenario.same_key leftKey rightKey
  rw [date, transaction]
  rcases interchangeable.keys with spelled | keyed
  · have supplies : SuppliesSame Eq package.inputs left.riskValues right.riskValues := {
      ids := ids
      declared := fun input member one two first second =>
        (interchangeable.declared input member one two first second).identical
          (spelled input member one two first second)
      years := interchangeable.years
      free := interchangeable.free }
    refine (evaluatePackage_supplies eq_congruence sorter package supplies ?_ _ _ strict).mono
      fun one two (equal : one.finalPremium = two.finalPremium) => ?_
    · exact fun known table _ row _ first second states => states.textKeys_of_eq _ _
    · unfold ResultRel
      rw [equal]
      exact .refl _
  · have supplies : SuppliesSame Decimal.Same package.inputs left.riskValues right.riskValues := {
      ids := ids
      declared := interchangeable.declared
      years := interchangeable.years
      free := interchangeable.free }
    refine evaluatePackage_supplies same_congruence sorter package supplies ?_ _ _ strict
    exact fun known table member row inside first second states =>
      states.textKeys (keyed table member row inside)

/-- Integer conversion of a number is the integer part of its decimal. -/
theorem toInt_of_number {value : Value} {number : Decimal} (isNumber : value.isNumber = true)
    (reads : value.toDecimal = .ok number) : value.toInt.toOption = number.truncate := by
  cases value with
  | int whole =>
    cases reads
    rw [truncate_ofInt]
    rfl
  | decimal found =>
    cases reads
    cases number with
    | finite negative coefficient exponent => rfl
    | infinity negative => rfl
    | nan signaling => rfl
  | str text => cases isNumber
  | bool truth => cases isNumber
  | date day => cases isNumber

/-- Numbers with one text in their keys, neither of them rounded there, are one value of an
integer input and of a decimal input without accepted texts. -/
theorem ReadsSame.of_keyText {input : PricingInput} {left right : Value} {one two : Decimal}
    {text : List Char} (numeric : input.dataType.isNumeric = true)
    (unrestricted : input.dataType = .integer ∨ input.allowedValues = none)
    (leftNumber : left.isNumber = true) (rightNumber : right.isNumber = true)
    (leftReads : left.toDecimal = .ok one) (rightReads : right.toDecimal = .ok two)
    (leftExact : Unrounded decimalContext one) (rightExact : Unrounded decimalContext two)
    (leftText : keyText left = .ok text) (rightText : keyText right = .ok text) :
    ReadsSame Decimal.Same input left right := by
  have normal : ∀ {value : Value} {number : Decimal}, value.isNumber = true →
      value.toDecimal = .ok number → keyText value = normalText number := by
    intro value number isNumber reads
    cases value with
    | int whole =>
      cases reads
      rfl
    | decimal found =>
      cases reads
      rfl
    | str text => cases isNumber
    | bool truth => cases isNumber
    | date day => cases isNumber
  obtain ⟨form, formed, sameForm⟩ := leftExact
  obtain ⟨other, otherFormed, otherSame⟩ := rightExact
  rw [normal leftNumber leftReads, normalText, formed] at leftText
  rw [normal rightNumber rightReads, normalText, otherFormed] at rightText
  have forms : form = other := text_inj (Except.ok.inj (leftText.trans rightText.symm))
  have same : Decimal.Same one two := sameForm.symm.trans (forms ▸ otherSame)
  have numbers : Option.Rel Decimal.Same left.toDecimal.toOption right.toDecimal.toOption := by
    rw [leftReads, rightReads]
    exact .some same
  unfold ReadsSame
  cases type : input.dataType with
  | integer =>
    dsimp only
    rw [toInt_of_number leftNumber leftReads, toInt_of_number rightNumber rightReads,
      truncate_same same]
  | decimal =>
    rw [type] at unrestricted
    exact ⟨numbers, fun restricted => absurd (unrestricted.resolve_left (by simp)) restricted⟩
  | money =>
    rw [type] at unrestricted
    exact ⟨numbers, fun restricted => absurd (unrestricted.resolve_left (by simp)) restricted⟩
  | string => simp [type, InputDataType.isNumeric] at numeric
  | category => simp [type, InputDataType.isNumeric] at numeric
  | boolean => simp [type, InputDataType.isNumeric] at numeric
  | date => simp [type, InputDataType.isNumeric] at numeric

/-- Money input without accepted texts. -/
def coverInput : PricingInput where
  id := "cover"
  dataType := .money
  required := true
  allowedValues := none
  minimum := some (.int 1)
  maximum := none
  ordered := rfl
  unrestricted := by simp

/-- Package whose premium is a base rate and the cover. -/
def coverPackage : IPIRPackage where
  toPackageContent :=
    { flatContent ⟨false, 10000, -2⟩
        (.expression .add [.reference "base_rate", .reference "cover"]) with
      inputs := [coverInput] }
  valid := by decide

/-- Flat package that asks for one of two deductibles. -/
def tierPackage : IPIRPackage where
  toPackageContent :=
    { flatContent ⟨false, 10000, -2⟩ (.reference "base_rate") with inputs := [tierInput] }
  valid := by decide

/-- Scenario with one money value. -/
def moneyScenario (id : String) (amount : FiniteDecimal) : PricingTestScenario where
  id := "RG-001"
  riskValues := ⟨[(id, .literal (.decimal amount))], by simp⟩
  effectiveDate := sampleDay
  transactionType := .newBusiness

/-- A cover with and without cents prices alike. -/
theorem evaluatePackage_sameKey_cover :
    Agree (ResultRel Decimal.Same)
      (evaluatePackage (byGenerations String) coverPackage.toPackageContent
        (moneyScenario "cover" ⟨false, 500, 0⟩).riskValues sampleDay .newBusiness false)
      (evaluatePackage (byGenerations String) coverPackage.toPackageContent
        (moneyScenario "cover" ⟨false, 50000, -2⟩).riskValues sampleDay .newBusiness false) := by
  refine evaluatePackage_sameKey (byGenerations String) coverPackage
    (moneyScenario "cover" ⟨false, 500, 0⟩) (moneyScenario "cover" ⟨false, 50000, -2⟩)
    ⟨[("cover", "5E+2".toList)], sampleDay, .newBusiness⟩ rfl rfl ?_ false
  exact {
    declared := by
      intro input member one two first second
      rw [List.mem_singleton.mp member] at first second ⊢
      cases first
      cases second
      refine ⟨.some ?_, fun restricted => absurd rfl restricted⟩
      exact (padded_same false 500 2 0).symm
    years := fun free => by simp [PackageContent.IsInput, coverPackage, coverInput] at free
    free := fun years => by simp [PackageContent.IsInput, coverPackage, coverInput] at years
    keys := .inr fun table member => by cases member }

/-- Two scenarios of one key, one of which cannot be priced. -/
theorem evaluatePackage_sameKey_differs :
    ¬∀ (sorter : Sorter String) (package : IPIRPackage) (left right : PricingTestScenario)
        (key : ProbeKey), left.key = .ok key → right.key = .ok key → ∀ strict : Bool,
      Agree (ResultRel Decimal.Same)
        (evaluatePackage sorter package.toPackageContent left.riskValues left.effectiveDate
          left.transactionType strict)
        (evaluatePackage sorter package.toPackageContent right.riskValues right.effectiveDate
          right.transactionType strict) := by
  intro alike
  have agree := (alike (byGenerations String) tierPackage
    (moneyScenario "deductible" ⟨false, 500, 0⟩) (moneyScenario "deductible" ⟨false, 50000, -2⟩)
    ⟨[("deductible", "5E+2".toList)], sampleDay, .newBusiness⟩ rfl rfl false).isOk_iff
  have priced : (evaluatePackage (byGenerations String) tierPackage.toPackageContent
      (moneyScenario "deductible" ⟨false, 500, 0⟩).riskValues sampleDay .newBusiness
      false).isOk = true := by decide +kernel
  have refused : (evaluatePackage (byGenerations String) tierPackage.toPackageContent
      (moneyScenario "deductible" ⟨false, 50000, -2⟩).riskValues sampleDay .newBusiness
      false).isOk = false := by decide +kernel
  exact Bool.noConfusion (priced.symm.trans (agree.trans refused))

end RateGuard
