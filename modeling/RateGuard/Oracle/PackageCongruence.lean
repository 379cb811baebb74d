import RateGuard.Oracle.Congruence
import RateGuard.Oracle.Reordering

/-!
# Congruence of package evaluation

Packages that price alike on one date are evaluated phase by phase in related
states. Entries set from the risk inputs keep their values, so that tables and
eligibility conditions which read inputs can be compared at those values.
Packages with related numbers and otherwise the same content price alike on
every date.
-/

open DecimalFloat CalendarDate TopologicalSort Outcome

namespace RateGuard

variable {rel : Decimal → Decimal → Prop}

/-- Evaluations with related contexts whose marked entries have known values. -/
structure StateRel (rel : Decimal → Decimal → Prop) (pinned : String → Prop) (known : Context)
    (left right : Evaluation) : Prop where
  /-- The contexts are related. -/
  contexts : ContextRel rel left.context right.context
  /-- The marked entries of the first context are known. -/
  first : ∀ id, pinned id → left.context id = known id
  /-- The marked entries of the second context are known. -/
  second : ∀ id, pinned id → right.context id = known id

variable {pinned : String → Prop} {known : Context}

/-- Assigning related values to an unmarked entry keeps evaluations related. -/
theorem StateRel.set {left right : Evaluation} (states : StateRel rel pinned known left right)
    {id : String} (unmarked : ¬pinned id) {first second : Value}
    (values : ValueRel rel first second) :
    StateRel rel pinned known (left.set id first) (right.set id second) where
  contexts := states.contexts.set id values
  first other marked := by
    have different : other ≠ id := fun same => unmarked (same ▸ marked)
    simp only [Evaluation.set, Context.set_other _ _ different]
    exact states.first other marked
  second other marked := by
    have different : other ≠ id := fun same => unmarked (same ▸ marked)
    simp only [Evaluation.set, Context.set_other _ _ different]
    exact states.second other marked

/-- Recording related results keeps evaluations related. -/
theorem addStep_rel (congruence : DecimalCongruence rel) {left right : Evaluation}
    (states : StateRel rel pinned known left right) {first second : TraceStep}
    (results : ValueRel rel first.result second.result) :
    Agree (StateRel rel pinned known) (left.addStep first) (right.addStep second) := by
  unfold Evaluation.addStep
  rw [recordable_rel congruence results]
  refine Agree.ite Iff.rfl (.success ?_) (.failure _ _)
  exact ⟨states.contexts, states.first, states.second⟩

/-- Constants with related values. -/
structure ConstantRel (rel : Decimal → Decimal → Prop) (left right : PricingConstant) : Prop where
  /-- The constants have one identifier. -/
  id : left.id = right.id
  /-- The values are related. -/
  value : rel left.value.toDecimal right.value.toDecimal
  /-- The active dates are the same. -/
  period : left.effectivePeriod = right.effectivePeriod

/-- Fees with related amounts. -/
structure FeeRel (rel : Decimal → Decimal → Prop) (left right : PricingFee) : Prop where
  /-- The fees have one identifier. -/
  id : left.id = right.id
  /-- The amounts are related. -/
  amount : rel left.amount.toDecimal right.amount.toDecimal
  /-- The order is the same. -/
  sequence : left.sequence = right.sequence
  /-- The active dates are the same. -/
  period : left.effectivePeriod = right.effectivePeriod

/-- Constraints of one category with related amounts. -/
structure ConstraintRel (rel : Decimal → Decimal → Prop) (left right : PremiumConstraint) :
    Prop where
  /-- The constraints have one identifier. -/
  id : left.id = right.id
  /-- The category is the same. -/
  constraintType : left.constraintType = right.constraintType
  /-- The amounts are related. -/
  amount : rel left.amount.toDecimal right.amount.toDecimal
  /-- The order is the same. -/
  sequence : left.sequence = right.sequence
  /-- The active dates are the same. -/
  period : left.effectivePeriod = right.effectivePeriod

/-- Modifier values that are related amounts or one reference. -/
inductive ModifierValueRel (rel : Decimal → Decimal → Prop) :
    ModifierValue → ModifierValue → Prop
  | amount {left right : FiniteDecimal} (holds : rel left.toDecimal right.toDecimal) :
    ModifierValueRel rel (.amount left) (.amount right)
  | reference (ref : String) : ModifierValueRel rel (.reference ref) (.reference ref)

/-- Whether a context holds the known values of the marked entries. -/
def Holds (pinned : String → Prop) (known context : Context) : Prop :=
  ∀ id, pinned id → context id = known id

/-- Modifiers of one category and eligibility, active alike on a date, whose values are related
unless the known values make them ineligible. -/
structure ModifierAlike (rel : Decimal → Decimal → Prop) (pinned : String → Prop)
    (known : Context) (date : Date) (left right : PricingModifier) : Prop where
  /-- The modifiers have one identifier. -/
  id : left.id = right.id
  /-- The category is the same. -/
  modifierType : left.modifierType = right.modifierType
  /-- The condition of application is the same. -/
  eligibility : left.eligibility = right.eligibility
  /-- The order is the same. -/
  sequence : left.sequence = right.sequence
  /-- Both are active or neither is. -/
  active : isActive left.effectivePeriod date = isActive right.effectivePeriod date
  /-- The values are related, or unused. -/
  value : ModifierValueRel rel left.value right.value ∨
    ∀ context, Holds pinned known context → isEligible context left ≠ .ok true

/-- Tables of one identifier, active alike on a date, whose lookups agree in related states. -/
structure TableAlike (rel : Decimal → Decimal → Prop) (pinned : String → Prop)
    (known : Context) (date : Date) (left right : RateTable) : Prop where
  /-- The tables have one identifier. -/
  id : left.id = right.id
  /-- Both are active or neither is. -/
  active : isActive left.effectivePeriod date = isActive right.effectivePeriod date
  /-- Lookups give related factors. -/
  lookup : ∀ first second, StateRel rel pinned known first second →
    Agree (fun x y => rel x.1 y.1) (lookupTable left first.context)
      (lookupTable right second.context)

/-- Packages that price alike on a date for known values of the marked entries. -/
structure PricesAlike (rel : Decimal → Decimal → Prop) (pinned : String → Prop)
    (known : Context) (date : Date) (left right : PackageContent) : Prop where
  /-- Both packages are active or neither is. -/
  active : isActive (some left.effectivePeriod) date = isActive (some right.effectivePeriod) date
  /-- The transactions are the same. -/
  transactions : ∀ transaction,
    transaction ∈ left.transactionTypes ↔ transaction ∈ right.transactionTypes
  /-- The inputs are the same in some order. -/
  inputs : left.inputs.Perm right.inputs
  /-- The constants are related in some order. -/
  constants : ∃ middle, List.Forall₂ (ConstantRel rel) left.constants middle ∧
    middle.Perm right.constants
  /-- The tables are looked up alike, in order. -/
  tables : List.Forall₂ (TableAlike rel pinned known date) left.tables right.tables
  /-- The rules are the same. -/
  rules : left.rules = right.rules
  /-- The calculations are the same. -/
  calculations : left.calculations = right.calculations
  /-- Every calculation is rounded by the same rule. -/
  rounding : ∀ node ∈ left.calculations,
    roundingRuleOf left.roundingRules node = roundingRuleOf right.roundingRules node
  /-- The modifiers apply alike, in order. -/
  modifiers : List.Forall₂ (ModifierAlike rel pinned known date) left.modifiers right.modifiers
  /-- The constraints are related in order. -/
  constraints : List.Forall₂ (ConstraintRel rel) left.constraints right.constraints
  /-- The fees are related in order. -/
  fees : List.Forall₂ (FeeRel rel) left.fees right.fees
  /-- The premiums read the same node. -/
  outputs : left.outputs.head?.map (·.sourceRef) = right.outputs.head?.map (·.sourceRef)

/-- Assigning a related active constant keeps evaluations related. -/
theorem setConstant_rel (congruence : DecimalCongruence rel) (date : Date)
    {left right : Evaluation} {first second : PricingConstant}
    (states : StateRel rel pinned known left right)
    (constants : ¬pinned first.id ∧ ConstantRel rel first second) :
    Agree (StateRel rel pinned known) (setConstant date left first) (setConstant date right second) := by
  obtain ⟨unmarked, related⟩ := constants
  unfold setConstant
  rw [← related.period, ← related.id]
  refine Agree.ite Iff.rfl ?_ (.success states)
  exact addStep_rel congruence (states.set unmarked (.decimal related.value))
    (.decimal related.value)

/-- Preset amounts of related nodes are related. -/
theorem presetAmount_rel (congruence : DecimalCongruence rel) (date : Date)
    (period : Option EffectivePeriod) {left right : FiniteDecimal}
    (amounts : rel left.toDecimal right.toDecimal) :
    rel (presetAmount period left date) (presetAmount period right date) := by
  unfold presetAmount
  split
  · exact amounts
  · exact congruence.refl _

/-- Presetting related fees keeps evaluations related. -/
theorem presetFees_rel (congruence : DecimalCongruence rel) (date : Date)
    {left right : Evaluation} {lefts rights : List PricingFee}
    (fees : List.Forall₂ (fun first second => ¬pinned first.id ∧ FeeRel rel first second)
      lefts rights)
    (states : StateRel rel pinned known left right) :
    StateRel rel pinned known (lefts.foldl (presetFee date) left)
      (rights.foldl (presetFee date) right) := by
  induction fees generalizing left right with
  | nil => exact states
  | cons head _ ih =>
    obtain ⟨unmarked, related⟩ := head
    refine ih ?_
    unfold presetFee
    rw [← related.id, ← related.period]
    exact states.set unmarked (.decimal (presetAmount_rel congruence date _ related.amount))

/-- Presetting related constraints keeps evaluations related. -/
theorem presetConstraints_rel (congruence : DecimalCongruence rel) (date : Date)
    {left right : Evaluation} {lefts rights : List PremiumConstraint}
    (constraints : List.Forall₂
      (fun first second => ¬pinned first.id ∧ ConstraintRel rel first second) lefts rights)
    (states : StateRel rel pinned known left right) :
    StateRel rel pinned known (lefts.foldl (presetConstraint date) left)
      (rights.foldl (presetConstraint date) right) := by
  induction constraints generalizing left right with
  | nil => exact states
  | cons head _ ih =>
    obtain ⟨unmarked, related⟩ := head
    refine ih ?_
    unfold presetConstraint
    rw [← related.id, ← related.period]
    exact states.set unmarked (.decimal (presetAmount_rel congruence date _ related.amount))

/-- Related modifier values resolve to related values. -/
theorem resolveModifierValue_rel {left right : Context}
    (contexts : ContextRel rel left right) {first second : ModifierValue}
    (values : ModifierValueRel rel first second) :
    Agree (ValueRel rel) (resolveModifierValue left first)
      (resolveModifierValue right second) := by
  cases values with
  | amount holds => exact .success (.decimal holds)
  | reference ref => exact resolveReference_rel contexts ref

/-- The first of two related contexts holds the known values. -/
theorem StateRel.holds {left right : Evaluation} (states : StateRel rel pinned known left right) :
    Holds pinned known left.context := states.first

/-- Modifiers that apply alike are eligible alike, with related values when eligible. -/
theorem isEligible_rel (congruence : DecimalCongruence rel) {left right : Evaluation}
    (states : StateRel rel pinned known left right) {date : Date}
    {first second : PricingModifier}
    (modifiers : ModifierAlike rel pinned known date first second) :
    Agree (fun x y => x = y ∧ (x = true → ModifierValueRel rel first.value second.value))
      (isEligible left.context first) (isEligible right.context second) := by
  have alike : Agree Eq (isEligible left.context first) (isEligible right.context second) := by
    unfold isEligible
    rw [← modifiers.eligibility]
    cases first.eligibility with
    | none => exact .success rfl
    | some condition => exact evaluateCondition_rel congruence states.contexts condition
  cases modifiers.value with
  | inl values => exact alike.mono fun _ _ same => ⟨same, fun _ => values⟩
  | inr unused =>
    have never := unused _ states.holds
    generalize isEligible left.context first = one at alike never ⊢
    generalize isEligible right.context second = other at alike ⊢
    cases alike with
    | failure _ _ => exact .failure _ _
    | success same => exact .success ⟨same, fun eligible => absurd (by rw [eligible]) never⟩

/-- Preset factors of modifiers with related values are related. -/
theorem presetFactor_rel (congruence : DecimalCongruence rel) {left right : Context}
    (contexts : ContextRel rel left right) {first second : PricingModifier}
    (types : first.modifierType = second.modifierType)
    (values : ModifierValueRel rel first.value second.value) :
    Agree rel (presetFactor left first) (presetFactor right second) := by
  refine (resolveModifierValue_rel contexts values).bind fun _ _ resolved => ?_
  refine (agree_raising (toDecimal_rel congruence resolved)).bind fun _ _ rates => ?_
  rw [← types]
  cases first.modifierType with
  | percentageDiscount => exact agree_raising (congruence.sub (congruence.refl _) rates)
  | percentageSurcharge => exact agree_raising (congruence.add (congruence.refl _) rates)
  | flatDiscount => exact .success rates
  | flatSurcharge => exact .success rates

/-- Presetting modifiers that apply alike keeps evaluations related. -/
theorem presetModifier_rel (congruence : DecimalCongruence rel) {date : Date}
    {left right : Evaluation} {first second : PricingModifier}
    (states : StateRel rel pinned known left right) (unmarked : ¬pinned first.id)
    (modifiers : ModifierAlike rel pinned known date first second) :
    Agree (StateRel rel pinned known) (presetModifier date left first)
      (presetModifier date right second) := by
  have neutral : StateRel rel pinned known (left.set first.id (.decimal oneFactor))
      (right.set first.id (.decimal oneFactor)) :=
    states.set unmarked (.decimal (congruence.refl _))
  unfold presetModifier
  rw [← modifiers.active, ← modifiers.id]
  refine Agree.ite Iff.rfl ?_ (.success neutral)
  refine (isEligible_rel congruence states modifiers).bind fun eligible _ decided => ?_
  obtain ⟨rfl, values⟩ := decided
  cases eligible
  · exact .success neutral
  · refine (presetFactor_rel congruence states.contexts modifiers.modifierType
      (values rfl)).bind fun _ _ factors => ?_
    exact .success (states.set unmarked (.decimal factors))

/-- Looking up tables that are looked up alike keeps evaluations related. -/
theorem resolveTable_rel (congruence : DecimalCongruence rel) {date : Date}
    {left right : Evaluation} {first second : RateTable}
    (states : StateRel rel pinned known left right) (unmarked : ¬pinned first.id)
    (tables : TableAlike rel pinned known date first second) :
    Agree (StateRel rel pinned known) (resolveTable date left first)
      (resolveTable date right second) := by
  unfold resolveTable
  rw [← tables.active, ← tables.id]
  refine Agree.ite Iff.rfl ?_ (.success states)
  refine (tables.lookup _ _ states).bind fun _ _ factors => ?_
  exact addStep_rel congruence (states.set unmarked (.decimal factors)) (.decimal factors)

/-- Evaluating a rule keeps evaluations related. -/
theorem resolveRule_rel (congruence : DecimalCongruence rel) (date : Date)
    {left right : Evaluation} {rule : PricingRule} (states : StateRel rel pinned known left right)
    (unmarked : ¬pinned rule.id) :
    Agree (StateRel rel pinned known) (resolveRule date left rule) (resolveRule date right rule) := by
  unfold resolveRule
  refine Agree.ite Iff.rfl ?_ (.success states)
  refine (evaluateCondition_rel congruence states.contexts rule.condition).bind
    fun holds _ same => ?_
  subst same
  refine (evaluateExpression_rel congruence states.contexts _).bind fun _ _ values => ?_
  exact addStep_rel congruence (states.set unmarked values) values

/-- Identifiers of related nodes are the same list. -/
theorem map_id_rel {α : Type} (related : α → α → Prop) (id : α → String)
    (ids : ∀ x y, related x y → id x = id y) {lefts rights : List α}
    (lists : List.Forall₂ related lefts rights) : lefts.map id = rights.map id := by
  induction lists with
  | nil => rfl
  | cons head _ ih => rw [List.map_cons, List.map_cons, ids _ _ head, ih]

/-- The same contexts with known marked entries are related contexts. -/
theorem StateRel.of_contexts (congruence : DecimalCongruence rel) {left right : Evaluation}
    (same : SameContext left right) (holds : Holds pinned known left.context) :
    StateRel rel pinned known left right where
  contexts id := by
    rw [same]
    cases right.context id with
    | none => exact .none
    | some value => exact .some (ValueRel.refl congruence value)
  first := holds
  second := by
    have equal : left.context = right.context := same
    rw [← equal]
    exact holds

/-- Inputs and constants are keyed, and nodes that are no inputs stay unmarked. -/
structure Separated (pinned : String → Prop) (package : PackageContent) : Prop where
  /-- Input identifiers are distinct. -/
  inputs_distinct : (package.inputs.map (·.id)).Nodup
  /-- Constant identifiers are distinct. -/
  constants_distinct : (package.constants.map (·.id)).Nodup
  /-- Constants are unmarked. -/
  constants : ∀ node ∈ package.constants, ¬pinned node.id
  /-- Fees are unmarked. -/
  fees : ∀ node ∈ package.fees, ¬pinned node.id
  /-- Constraints are unmarked. -/
  constraints : ∀ node ∈ package.constraints, ¬pinned node.id
  /-- Modifiers are unmarked. -/
  modifiers : ∀ node ∈ package.modifiers, ¬pinned node.id
  /-- Tables are unmarked. -/
  tables : ∀ node ∈ package.tables, ¬pinned node.id
  /-- Rules are unmarked. -/
  rules : ∀ node ∈ package.rules, ¬pinned node.id
  /-- Calculations are unmarked. -/
  calculations : ∀ node ∈ package.calculations, ¬pinned node.id

/-- Setting related constants in some order keeps evaluations related. -/
theorem setConstants_rel (congruence : DecimalCongruence rel) (date : Date)
    {left right : PackageContent}
    (constants : ∃ middle, List.Forall₂ (ConstantRel rel) left.constants middle ∧
      middle.Perm right.constants)
    (separated : Separated pinned left) {first second : Evaluation}
    (states : StateRel rel pinned known first second) :
    Agree (StateRel rel pinned known) (left.constants.foldlM (setConstant date) first)
      (right.constants.foldlM (setConstant date) second) := by
  obtain ⟨middle, related, perm⟩ := constants
  have distinct : (middle.map (·.id)).Nodup := by
    rw [← map_id_rel (ConstantRel rel) (·.id) (fun _ _ same => same.id) related]
    exact separated.constants_distinct
  have paired := (List.forall₂_and_left _ _).mpr ⟨separated.constants, related⟩
  have aligned := Agree.foldlM paired
    (fun _ _ _ _ constants states => setConstant_rel congruence date states constants) states
  have reordered := setConstants_perm date perm distinct (rfl : SameContext second second)
  refine (Agree.trans aligned reordered).mono fun one two through => ?_
  obtain ⟨between, held, same⟩ := through
  have equal : between.context = two.context := same
  exact ⟨equal ▸ held.contexts, held.first, equal ▸ held.second⟩

/-- Context of the validated risk inputs, empty where they are refused. -/
def inputContext (package : PackageContent) (risk : RiskInput) (strict : Bool) : Context :=
  match validateRiskInputs package.inputs risk strict >>= setInputs Evaluation.start with
  | .ok state => state.context
  | .error _ => fun _ => none

/-- The phases between the inputs and the calculations. -/
def prepareNodes (package : PackageContent) (date : Date) (state : Evaluation) :
    Except Failure Evaluation := do
  let state ← package.constants.foldlM (setConstant date) state
  let state := package.fees.foldl (presetFee date) state
  let state := package.constraints.foldl (presetConstraint date) state
  let state ← package.modifiers.foldlM (presetModifier date) state
  let state ← package.tables.foldlM (resolveTable date) state
  package.rules.foldlM (resolveRule date) state

/-- Preparation sets the inputs first. -/
theorem prepare_eq (package : PackageContent) (risk : RiskInput) (date : Date) (strict : Bool) :
    prepare package risk date strict =
      validateRiskInputs package.inputs risk strict >>= fun inputs =>
        setInputs Evaluation.start inputs >>= prepareNodes package date := rfl

/-- The phases after the inputs end in related states. -/
theorem prepareNodes_rel (congruence : DecimalCongruence rel) {left right : PackageContent}
    {date : Date} (packages : PricesAlike rel pinned known date left right)
    (separated : Separated pinned left) {first second : Evaluation}
    (started : StateRel rel pinned known first second) :
    Agree (StateRel rel pinned known) (prepareNodes left date first)
      (prepareNodes right date second) := by
  unfold prepareNodes
  refine (setConstants_rel congruence date packages.constants separated started).bind
    fun _ _ states => ?_
  have fees := (List.forall₂_and_left _ _).mpr ⟨separated.fees, packages.fees⟩
  have constraints := (List.forall₂_and_left _ _).mpr
    ⟨separated.constraints, packages.constraints⟩
  have preset := presetConstraints_rel congruence date constraints
    (presetFees_rel congruence date fees states)
  have modifiers := (List.forall₂_and_left _ _).mpr ⟨separated.modifiers, packages.modifiers⟩
  refine (Agree.foldlM modifiers (fun _ _ _ _ related states =>
    presetModifier_rel congruence states related.1 related.2) preset).bind fun _ _ states => ?_
  have tables := (List.forall₂_and_left _ _).mpr ⟨separated.tables, packages.tables⟩
  refine (Agree.foldlM tables (fun _ _ _ _ related states =>
    resolveTable_rel congruence states related.1 related.2) states).bind fun _ _ states => ?_
  rw [← packages.rules]
  have rules : List.Forall₂ (fun first second => first = second ∧ ¬pinned first.id)
      left.rules left.rules := by
    rw [List.forall₂_same]
    exact fun rule member => ⟨rfl, separated.rules rule member⟩
  exact Agree.foldlM rules (fun _ _ first second related states => by
    obtain ⟨rfl, unmarkedRule⟩ := related
    exact resolveRule_rel congruence date states unmarkedRule) states

/-- The phases before the calculations end in related states. -/
theorem prepare_rel (congruence : DecimalCongruence rel) {left right : PackageContent}
    {risk : RiskInput} {date : Date} {strict : Bool}
    (packages : PricesAlike rel pinned (inputContext left risk strict) date left right)
    (separated : Separated pinned left) :
    Agree (StateRel rel pinned (inputContext left risk strict)) (prepare left risk date strict)
      (prepare right risk date strict) := by
  rw [prepare_eq, prepare_eq]
  refine (validateRiskInputs_perm packages.inputs risk strict).bind_ok
    fun inputs inputs' validated permuted => ?_
  have distinct := validated_distinct separated.inputs_distinct validated
  refine (setInputs_perm permuted distinct).bind_ok fun started started' set same => ?_
  have holds : Holds pinned (inputContext left risk strict) started.context := by
    intro id _
    unfold inputContext
    rw [validated]
    simp only [bind, Except.bind, set]
  exact prepareNodes_rel congruence packages separated (.of_contexts congruence same holds)

/-- Related nodes with equal keys are inserted at the same place. -/
theorem orderedInsert_rel {α : Type} {related : α → α → Prop} (key : α → Int)
    (keys : ∀ x y, related x y → key x = key y) {first second : α} (head : related first second)
    {lefts rights : List α} (lists : List.Forall₂ related lefts rights) :
    List.Forall₂ related (lefts.orderedInsert (fun x y => key x ≤ key y) first)
      (rights.orderedInsert (fun x y => key x ≤ key y) second) := by
  induction lists with
  | nil => exact .cons head .nil
  | cons next rest ih =>
    rw [List.orderedInsert_cons, List.orderedInsert_cons, ← keys _ _ head, ← keys _ _ next]
    split
    · exact .cons head (.cons next rest)
    · exact .cons next ih

/-- Related nodes are ordered alike. -/
theorem insertionSort_rel {α : Type} {related : α → α → Prop} (key : α → Int)
    (keys : ∀ x y, related x y → key x = key y) {lefts rights : List α}
    (lists : List.Forall₂ related lefts rights) :
    List.Forall₂ related (lefts.insertionSort fun x y => key x ≤ key y)
      (rights.insertionSort fun x y => key x ≤ key y) := by
  induction lists with
  | nil => exact .nil
  | cons head _ ih => exact orderedInsert_rel key keys head ih

/-- Active related nodes are related in application order. -/
theorem activeInSequence_rel {α : Type} {related : α → α → Prop}
    (period : α → Option EffectivePeriod) (sequence : α → Option Int) (date : Date)
    (actives : ∀ x y, related x y → isActive (period x) date = isActive (period y) date)
    (sequences : ∀ x y, related x y → sequence x = sequence y) {lefts rights : List α}
    (lists : List.Forall₂ related lefts rights) :
    List.Forall₂ related (activeInSequence period sequence date lefts)
      (activeInSequence period sequence date rights) := by
  refine insertionSort_rel (fun node => (sequence node).getD 0)
    (fun x y same => by rw [sequences x y same]) ?_
  exact List.rel_filter (fun x y same => by simp only [actives x y same]) lists

/-- Active nodes of packages that price alike, in application order. -/
structure ActiveRel (rel : Decimal → Decimal → Prop) (pinned : String → Prop) (known : Context)
    (date : Date) (left right : ActiveNodes) : Prop where
  /-- Modifiers are unmarked and apply alike. -/
  modifiers : List.Forall₂
    (fun first second => ¬pinned first.id ∧ ModifierAlike rel pinned known date first second)
    left.modifiers right.modifiers
  /-- Constraints are related. -/
  constraints : List.Forall₂ (ConstraintRel rel) left.constraints right.constraints
  /-- Fees are related. -/
  fees : List.Forall₂ (FeeRel rel) left.fees right.fees

/-- Packages that price alike have related active nodes. -/
theorem activeNodes_rel {left right : PackageContent} {date : Date}
    (packages : PricesAlike rel pinned known date left right) (separated : Separated pinned left) :
    ActiveRel rel pinned known date (activeNodes left date) (activeNodes right date) where
  modifiers := activeInSequence_rel _ _ date (fun _ _ alike => alike.2.active)
    (fun _ _ alike => alike.2.sequence)
    ((List.forall₂_and_left _ _).mpr ⟨separated.modifiers, packages.modifiers⟩)
  constraints := activeInSequence_rel _ _ date (fun _ _ same => by simp only [same.period])
    (fun _ _ same => same.sequence) packages.constraints
  fees := activeInSequence_rel _ _ date (fun _ _ same => by simp only [same.period])
    (fun _ _ same => same.sequence) packages.fees

/-- Declared related nodes are related. -/
theorem declared_rel {α : Type} {related : α → α → Prop} (id : α → String)
    (node : CalculationNode) (applied : List String)
    (ids : ∀ x y, related x y → id x = id y) {lefts rights : List α}
    (lists : List.Forall₂ related lefts rights) :
    List.Forall₂ related (declared id node applied lefts) (declared id node applied rights) :=
  List.rel_filter (fun x y same => by simp only [ids x y same]) lists

/-- A state and the current value of a node, related together. -/
def ProgressRel (rel : Decimal → Decimal → Prop) (pinned : String → Prop) (known : Context)
    (left right : Evaluation × Decimal) : Prop :=
  StateRel rel pinned known left.1 right.1 ∧ rel left.2 right.2

/-- Base values of a node are related. -/
theorem baseValue_rel (congruence : DecimalCongruence rel) {rules rules' : List RoundingRule}
    {left right : Context} (contexts : ContextRel rel left right) (node : CalculationNode)
    (rounding : roundingRuleOf rules node = roundingRuleOf rules' node) :
    Agree rel (baseValue rules left node) (baseValue rules' right node) := by
  unfold baseValue
  rw [← rounding]
  refine (evaluateExpression_rel congruence contexts node.expression).bind fun _ _ values => ?_
  refine (agree_raising (toDecimal_rel congruence values)).bind fun _ _ holds => ?_
  cases roundingRuleOf rules node with
  | none => exact .success holds
  | some rule => exact agree_raising (roundDecimal_rel congruence _ _ holds)

/-- Adjustments by related rates are related. -/
theorem adjust_rel (congruence : DecimalCongruence rel) (kind : ModifierType)
    {current current' rate rate' : Decimal} (currents : rel current current')
    (rates : rel rate rate') :
    Agree (fun x y => rel x.1 y.1 ∧ rel x.2 y.2) (adjust kind current rate)
      (adjust kind current' rate') := by
  cases kind with
  | percentageDiscount =>
    refine (congruence.mul currents rates).bind fun _ _ products => ?_
    refine (roundDecimal_rel congruence 2 .halfUp products).bind fun _ _ amounts => ?_
    refine (congruence.sub currents amounts).bind fun _ _ nexts => ?_
    exact .success ⟨amounts, nexts⟩
  | percentageSurcharge =>
    refine (congruence.mul currents rates).bind fun _ _ products => ?_
    refine (roundDecimal_rel congruence 2 .halfUp products).bind fun _ _ amounts => ?_
    refine (congruence.add currents amounts).bind fun _ _ nexts => ?_
    exact .success ⟨amounts, nexts⟩
  | flatDiscount =>
    exact (congruence.sub currents rates).bind fun _ _ nexts => .success ⟨rates, nexts⟩
  | flatSurcharge =>
    exact (congruence.add currents rates).bind fun _ _ nexts => .success ⟨rates, nexts⟩

/-- Applying related modifiers keeps progress related. -/
theorem applyModifier_rel (congruence : DecimalCongruence rel) {date : Date}
    {left right : Evaluation × Decimal} {first second : PricingModifier}
    (unmarked : ¬pinned first.id)
    (modifiers : ModifierAlike rel pinned known date first second)
    (progress : ProgressRel rel pinned known left right) :
    Agree (ProgressRel rel pinned known) (applyModifier left first) (applyModifier right second) := by
  obtain ⟨leftState, leftValue⟩ := left
  obtain ⟨rightState, rightValue⟩ := right
  obtain ⟨states, values⟩ := progress
  unfold applyModifier
  rw [← modifiers.id, ← modifiers.modifierType]
  refine (isEligible_rel congruence states modifiers).bind fun eligible _ decided => ?_
  obtain ⟨rfl, related⟩ := decided
  cases eligible
  · refine (addStep_rel congruence states (.decimal (congruence.refl _))).bind
      fun _ _ recorded => ?_
    exact .success ⟨recorded, values⟩
  · refine (resolveModifierValue_rel states.contexts (related rfl)).bind
      fun _ _ resolved => ?_
    refine (agree_raising (toDecimal_rel congruence resolved)).bind fun _ _ rates => ?_
    refine (agree_raising (adjust_rel congruence _ values rates)).bind
      fun first' second' adjusted => ?_
    obtain ⟨amount, next⟩ := first'
    obtain ⟨amount', next'⟩ := second'
    refine (addStep_rel congruence (states.set unmarked (.decimal adjusted.1))
      (.decimal adjusted.1)).bind fun _ _ recorded => ?_
    exact .success ⟨recorded, adjusted.2⟩

/-- Enforcing related constraints keeps progress related. -/
theorem applyConstraint_rel (congruence : DecimalCongruence rel)
    {left right : Evaluation × Decimal} {first second : PremiumConstraint}
    (constraints : ConstraintRel rel first second) (progress : ProgressRel rel pinned known left right) :
    Agree (ProgressRel rel pinned known) (applyConstraint left first) (applyConstraint right second) := by
  obtain ⟨leftState, leftValue⟩ := left
  obtain ⟨rightState, rightValue⟩ := right
  obtain ⟨states, values⟩ := progress
  have bounded : Agree rel
      (constrain first.constraintType leftValue first.amount.toDecimal)
      (constrain first.constraintType rightValue second.amount.toDecimal) := by
    cases first.constraintType with
    | minimum => exact maxDecimal_rel congruence values (.cons constraints.amount .nil)
    | maximum => exact minDecimal_rel congruence values (.cons constraints.amount .nil)
  unfold applyConstraint
  rw [← constraints.id, ← constraints.constraintType]
  refine (agree_raising bounded).bind fun _ _ nexts => ?_
  refine (addStep_rel congruence states (.decimal nexts)).bind fun _ _ recorded => ?_
  exact .success ⟨recorded, nexts⟩

/-- Adding related fees keeps progress related. -/
theorem applyFee_rel (congruence : DecimalCongruence rel) (expression : Operand)
    {left right : Evaluation × Decimal} {first second : PricingFee}
    (fees : FeeRel rel first second) (progress : ProgressRel rel pinned known left right) :
    Agree (ProgressRel rel pinned known) (applyFee expression left first)
      (applyFee expression right second) := by
  obtain ⟨leftState, leftValue⟩ := left
  obtain ⟨rightState, rightValue⟩ := right
  obtain ⟨states, values⟩ := progress
  unfold applyFee
  rw [← fees.id]
  refine Agree.ite Iff.rfl (.success ⟨states, values⟩) ?_
  refine (agree_raising (congruence.add values fees.amount)).bind fun _ _ nexts => ?_
  refine (addStep_rel congruence states (.decimal nexts)).bind fun _ _ recorded => ?_
  exact .success ⟨recorded, nexts⟩

/-- Running states with related evaluations and the same applied nodes. -/
structure RunningRel (rel : Decimal → Decimal → Prop) (pinned : String → Prop)
    (known : Context) (left right : Running) : Prop where
  /-- The evaluations are related. -/
  states : StateRel rel pinned known left.state right.state
  /-- The applied modifiers are the same. -/
  modifiers : left.modifiers = right.modifiers
  /-- The applied constraints are the same. -/
  constraints : left.constraints = right.constraints
  /-- The applied fees are the same. -/
  fees : left.fees = right.fees

/-- Running one calculation keeps running states related. -/
theorem runCalculation_rel (congruence : DecimalCongruence rel) (rules : List RoundingRule)
    (rules' : List RoundingRule) (date : Date) {active active' : ActiveNodes}
    (actives : ActiveRel rel pinned known date active active') (node : CalculationNode)
    (unmarked : ¬pinned node.id)
    (rounding : roundingRuleOf rules node = roundingRuleOf rules' node)
    {left right : Running} (running : RunningRel rel pinned known left right) :
    Agree (RunningRel rel pinned known) (runCalculation rules active date left node)
      (runCalculation rules' active' date right node) := by
  have modifierIds : ∀ x y : PricingModifier,
      ¬pinned x.id ∧ ModifierAlike rel pinned known date x y → x.id = y.id :=
    fun _ _ alike => alike.2.id
  have constraintIds : ∀ x y : PremiumConstraint, ConstraintRel rel x y → x.id = y.id :=
    fun _ _ same => same.id
  have feeIds : ∀ x y : PricingFee, FeeRel rel x y → x.id = y.id := fun _ _ same => same.id
  have modifiers := declared_rel (·.id) node left.modifiers modifierIds actives.modifiers
  have constraints := declared_rel (·.id) node left.constraints constraintIds actives.constraints
  have fees := declared_rel (·.id) node left.fees feeIds actives.fees
  unfold runCalculation
  rw [← running.modifiers, ← running.constraints, ← running.fees]
  refine Agree.ite Iff.rfl ?_ (.success running)
  refine (baseValue_rel congruence running.states.contexts node rounding).bind fun _ _ bases => ?_
  refine (Agree.foldlM modifiers
    (fun _ _ _ _ related progress => applyModifier_rel congruence related.1 related.2 progress)
    (⟨running.states, bases⟩ : ProgressRel rel pinned known (left.state, _) (right.state, _))).bind
    fun _ _ modified => ?_
  refine (Agree.foldlM constraints
    (fun _ _ _ _ related progress => applyConstraint_rel congruence related progress)
    modified).bind fun _ _ constrained => ?_
  refine (Agree.foldlM fees
    (fun _ _ _ _ related progress => applyFee_rel congruence node.expression related progress)
    constrained).bind fun first second charged => ?_
  obtain ⟨firstState, firstValue⟩ := first
  obtain ⟨secondState, secondValue⟩ := second
  refine (addStep_rel congruence (charged.1.set unmarked (.decimal charged.2))
    (.decimal charged.2)).bind fun _ _ recorded => ?_
  rw [map_id_rel _ (·.id) modifierIds modifiers, map_id_rel _ (·.id) constraintIds constraints,
    map_id_rel _ (·.id) feeIds fees]
  exact .success ⟨recorded, rfl, rfl, rfl⟩

/-- Sorted nodes are nodes of the package. -/
theorem sorted_subset {sorter : Sorter String} {nodes order : List CalculationNode}
    (sorted : topologicalSortCalculations sorter nodes = .ok order) {node : CalculationNode}
    (member : node ∈ order) : node ∈ nodes := by
  simp only [topologicalSortCalculations] at sorted
  split at sorted
  · cases sorted
    obtain ⟨id, -, found⟩ := List.mem_filterMap.mp member
    exact List.mem_of_find?_eq_some found
  · cases sorted

/-- Running all calculations keeps states related. -/
theorem calculate_rel (congruence : DecimalCongruence rel) (sorter : Sorter String)
    {left right : PackageContent} {date : Date}
    (packages : PricesAlike rel pinned known date left right) (separated : Separated pinned left)
    {first second : Evaluation} (states : StateRel rel pinned known first second) :
    Agree (StateRel rel pinned known) (calculate sorter left date first)
      (calculate sorter right date second) := by
  unfold calculate
  rw [← packages.calculations]
  refine (Agree.refl (fun _ => rfl) _).bind_ok fun nodes nodes' sorted same => ?_
  subst same
  have inside : List.Forall₂ (fun node node' => node = node' ∧ node ∈ left.calculations)
      nodes nodes := by
    rw [List.forall₂_same]
    exact fun node member => ⟨rfl, sorted_subset sorted member⟩
  have start : RunningRel rel pinned known ⟨first, [], [], []⟩ ⟨second, [], [], []⟩ :=
    ⟨states, rfl, rfl, rfl⟩
  refine (Agree.foldlM inside (fun _ _ node _ same running => ?_) start).bind
    fun _ _ running => .success running.states
  obtain ⟨rfl, member⟩ := same
  exact runCalculation_rel congruence _ _ date (activeNodes_rel packages separated) node
    (separated.calculations node member) (packages.rounding node member) running

/-- Related packages resolve the same identifiers. -/
theorem resolvedIds_rel {left right : PackageContent} {date : Date}
    (packages : PricesAlike rel pinned known date left right) :
    left.resolvedIds.Perm right.resolvedIds := by
  obtain ⟨middle, related, perm⟩ := packages.constants
  have constants : (left.constants.map (·.id)).Perm (right.constants.map (·.id)) := by
    rw [map_id_rel (ConstantRel rel) (·.id) (fun _ _ same => same.id) related]
    exact perm.map _
  unfold PackageContent.resolvedIds
  rw [packages.rules, packages.calculations,
    map_id_rel (FeeRel rel) (·.id) (fun _ _ same => same.id) packages.fees,
    map_id_rel (ConstraintRel rel) (·.id) (fun _ _ same => same.id) packages.constraints,
    map_id_rel (ModifierAlike rel pinned known date) (·.id) (fun _ _ same => same.id) packages.modifiers,
    map_id_rel (TableAlike rel pinned known date) (·.id) (fun _ _ same => same.id) packages.tables]
  have inputs := packages.inputs.map (·.id)
  exact ((((((inputs.append constants).append_right _).append_right _).append_right
    _).append_right _).append_right _).append_right _

/-- Related contexts are recordable alike. -/
theorem unrecordable_rel (congruence : DecimalCongruence rel) {left right : PackageContent}
    {date : Date} (packages : PricesAlike rel pinned known date left right) {first second : Context}
    (contexts : ContextRel rel first second) :
    unrecordable left first = none ↔ unrecordable right second = none := by
  have alike : ∀ id, ((first id).any fun value => !value.recordable) =
      (second id).any fun value => !value.recordable := by
    intro id
    have entry := contexts id
    generalize first id = one at entry
    generalize second id = other at entry
    cases entry with
    | none => rfl
    | some values => simp only [Option.any_some, recordable_rel congruence values]
  simp only [unrecordable, List.find?_eq_none, alike, (resolvedIds_rel packages).mem_iff]

/-- Results with related premiums. -/
def ResultRel (rel : Decimal → Decimal → Prop) (left right : OracleResult) : Prop :=
  rel left.finalPremium right.finalPremium

/-- Runs that agree on their premiums have related premiums, or none. -/
theorem premium_rel {left right : Except Failure OracleResult}
    (agree : Agree (ResultRel rel) left right) :
    Option.Rel rel (premium left) (premium right) := by
  cases agree with
  | failure _ _ => exact .none
  | success holds => exact .some holds

/-- Finishing related states gives related premiums. -/
theorem finish_rel (congruence : DecimalCongruence rel) {left right : PackageContent}
    {date : Date} (packages : PricesAlike rel pinned known date left right)
    (transaction : TransactionType)
    {first second : Evaluation} (states : StateRel rel pinned known first second) :
    Agree (ResultRel rel) (finish left date transaction first)
      (finish right date transaction second) := by
  have sources := packages.outputs
  unfold finish
  cases lefts : left.outputs with
  | nil =>
    cases rights : right.outputs with
    | nil => exact .failure _ _
    | cons other _ => simp [lefts, rights] at sources
  | cons output _ =>
    cases rights : right.outputs with
    | nil => simp [lefts, rights] at sources
    | cons other _ =>
      rw [lefts, rights] at sources
      have source : output.sourceRef = other.sourceRef := Option.some.inj sources
      have entry := states.contexts output.sourceRef
      simp only [← source]
      generalize first.context output.sourceRef = one at entry
      generalize second.context output.sourceRef = two at entry
      cases entry with
      | none => exact .failure _ _
      | some values =>
        refine (agree_raising (toDecimal_rel congruence values)).bind fun _ _ premiums => ?_
        refine (addStep_rel congruence states (.decimal premiums)).bind fun _ _ finals => ?_
        have recorded := unrecordable_rel congruence packages finals.contexts
        generalize unrecordable left _ = leftFault at recorded
        generalize unrecordable right _ = rightFault at recorded
        cases leftFault with
        | none =>
          rw [recorded.mp rfl]
          exact .success premiums
        | some id =>
          cases rightFault with
          | none => exact absurd (recorded.mpr rfl) (by simp)
          | some id' => exact .failure _ _

/-- Packages that price alike fail together or give related premiums. -/
theorem evaluatePackage_rel (congruence : DecimalCongruence rel) (sorter : Sorter String)
    {left right : PackageContent} {risk : RiskInput} {date : Date} {strict : Bool}
    (packages : PricesAlike rel pinned (inputContext left risk strict) date left right)
    (separated : Separated pinned left) (transaction : TransactionType) :
    Agree (ResultRel rel) (evaluatePackage sorter left risk date transaction strict)
      (evaluatePackage sorter right risk date transaction strict) := by
  have applicable : Agree Eq (checkApplicable left date transaction)
      (checkApplicable right date transaction) := by
    unfold checkApplicable
    rw [← packages.active]
    refine Agree.ite Iff.rfl (.failure _ _) ?_
    refine Agree.ite ?_ (.failure _ _) (.success rfl)
    simp only [Bool.not_eq_true', List.contains_eq_mem, decide_eq_false_iff_not,
      packages.transactions]
  refine applicable.bind fun _ _ _ => ?_
  refine (prepare_rel congruence packages separated).bind fun _ _ states => ?_
  refine (calculate_rel congruence sorter packages separated states).bind fun _ _ states => ?_
  exact finish_rel congruence packages transaction states

end RateGuard
