import RateGuard.Testing.Probes

/-!
# Probe values and validated inputs

What the probe generators accept as a value of an input, compared with what the oracle accepts.
The generators read accepted texts by number and let them replace the bounds, keep dates as text
and admit numbers that no request may carry; the oracle cuts fractions off integers.
-/

open DecimalFloat CalendarDate Outcome

namespace RateGuard

/-- Validation of a supplied value. -/
def validateValue (input : PricingInput) (value : Value) : Except Failure Value := do
  let converted ← convertInput input value
  checkAllowed input converted
  checkBounds input converted
  return converted

/-- A supplied value is validated by itself. -/
theorem validateInput_supplied {input : PricingInput} {risk : RiskInput} {value : Value}
    (supplied : risk.get input.id = some value) :
    validateInput risk input = (validateValue input value).map some := by
  unfold validateInput suppliedValue validateValue
  rw [supplied]
  dsimp only [bind, Except.bind]
  cases convertInput input value with
  | error failure => rfl
  | ok converted =>
    dsimp only
    cases checkAllowed input converted with
    | error failure => rfl
    | ok _ =>
      dsimp only
      cases checkBounds input converted <;> rfl

/-- Whether a text of a value is accepted as it is written. -/
def Spelled (input : PricingInput) (value : Value) : Prop :=
  ∀ allowed ∈ input.allowedValues, value.toString ∈ allowed

/-- Whether a number violates no declared bound. -/
def Bounded (input : PricingInput) (number : Decimal) : Prop :=
  (∀ minimum ∈ input.minimum, number.lt minimum.toDecimal = .ok false) ∧
    ∀ maximum ∈ input.maximum, maximum.toDecimal.lt number = .ok false

/-- Whether every accepted text that is a number has a normal form. -/
def Normalizable (input : PricingInput) : Prop :=
  ∀ allowed ∈ input.allowedValues, ∃ normal, normalTexts allowed = .ok normal

/-- Whether a value is an accepted text, or has the normal form of one. -/
def Resembles (allowed : List String) (value : Value) : Prop :=
  ∃ normal, normalTexts allowed = .ok normal ∧
    (value.toString ∈ allowed ∨ ∃ number text, value.toDecimal = .ok number ∧
      normalText number = .ok text ∧ text ∈ normal)

/-- Whether a typed value belongs to the domain as the probe generators read it. -/
def Probable (input : PricingInput) (value : Value) : Prop :=
  match input.allowedValues with
  | some allowed => Resembles allowed value
  | none =>
    match value.toDecimal with
    | .ok number => Bounded input number
    | .error _ => input.dataType.isNumeric = false

/-- The accepted texts are checked by spelling. -/
theorem checkAllowed_iff (input : PricingInput) (value : Value) :
    checkAllowed input value = .ok () ↔ Spelled input value := by
  unfold checkAllowed Spelled
  cases input.allowedValues with
  | none => simp
  | some allowed =>
    by_cases listed : value.toString ∈ allowed <;> simp [listed]

/-- The bounds of a number are what is checked. -/
theorem checkBounds_iff {input : PricingInput} {value : Value} {number : Decimal}
    (numeric : input.dataType.isNumeric = true) (reads : value.toDecimal = .ok number) :
    checkBounds input value = .ok () ↔ Bounded input number := by
  unfold checkBounds Bounded
  rw [if_pos numeric, reads]
  dsimp only [raising, bind, Except.bind]
  cases input.minimum with
  | none =>
    cases input.maximum with
    | none => simp [pure, Except.pure]
    | some maximum =>
      cases above : maximum.toDecimal.lt number with
      | error signal => simp [above]
      | ok larger => cases larger <;> simp [pure, Except.pure, above]
  | some minimum =>
    cases below : number.lt minimum.toDecimal with
    | error signal => simp [below]
    | ok smaller =>
      cases smaller with
      | true => simp [below]
      | false =>
        cases input.maximum with
        | none => simp [pure, Except.pure, below]
        | some maximum =>
          cases above : maximum.toDecimal.lt number with
          | error signal => simp [below, above]
          | ok larger => cases larger <;> simp [pure, Except.pure, below, above]

/-- Other types have no bounds to check. -/
theorem checkBounds_other {input : PricingInput} (value : Value)
    (other : input.dataType.isNumeric = false) : checkBounds input value = .ok () := by
  unfold checkBounds
  rw [other]
  rfl

/-- The domain check of a number is on the same bounds. -/
theorem withinBounds_iff (input : PricingInput) (number : Decimal) :
    withinBounds input number = .ok true ↔ Bounded input number := by
  unfold withinBounds Bounded
  dsimp only [raising, bind, Except.bind]
  cases input.minimum with
  | none =>
    cases input.maximum with
    | none => simp [pure, Except.pure]
    | some maximum =>
      cases above : maximum.toDecimal.lt number with
      | error signal => simp [above]
      | ok larger => cases larger <;> simp [pure, Except.pure, above]
  | some minimum =>
    cases below : number.lt minimum.toDecimal with
    | error signal => simp [below]
    | ok smaller =>
      cases smaller with
      | true => simp [pure, Except.pure, below]
      | false =>
        cases input.maximum with
        | none => simp [pure, Except.pure, below]
        | some maximum =>
          cases above : maximum.toDecimal.lt number with
          | error signal => simp [below, above]
          | ok larger => cases larger <;> simp [pure, Except.pure, below, above]

/-- What the domain check accepts. -/
theorem inDomain_iff (input : PricingInput) (value : Value) :
    inDomain input value = .ok true ↔ Probable input value := by
  unfold inDomain Probable
  cases input.allowedValues with
  | none =>
    dsimp only
    cases reads : value.toDecimal with
    | error signal => simp [Except.toOption]
    | ok number => exact withinBounds_iff input number
  | some allowed =>
    dsimp only [Resembles, bind, Except.bind]
    cases forms : normalTexts allowed with
    | error failure => simp
    | ok normal =>
      by_cases listed : value.toString ∈ allowed
      · simp [listed, pure, Except.pure]
      · cases reads : value.toDecimal with
        | error signal => simp [listed, Except.toOption, pure, Except.pure]
        | ok number =>
          cases form : normalText number with
          | error failure => simp [listed, Except.toOption, form]
          | ok text => simp [listed, Except.toOption, pure, Except.pure, form]

/-- An integer is its own integer part. -/
theorem truncate_ofInt (whole : Int) : (Decimal.ofInt whole).truncate = some whole := by
  have magnitude : rescale .floor false whole.natAbs 0 0 = whole.natAbs := by simp [rescale]
  dsimp only [Decimal.ofInt, Decimal.truncate]
  rw [magnitude]
  by_cases negative : whole < 0
  · simp only [negative, decide_true, signed, if_true, Option.some.injEq]
    omega
  · simp only [negative, decide_false, signed, Bool.false_eq_true, if_false, Option.some.injEq]
    omega

/-- A finite number equals an integer exactly when it denotes it. -/
theorem eq_ofInt_iff (negative : Bool) (coefficient : Nat) (exponent whole : Int) :
    (Decimal.finite negative coefficient exponent).eq (.ofInt whole) = .ok true ↔
      Decimal.Same (.finite negative coefficient exponent) (.ofInt whole) :=
  finite_eq_iff ⟨negative, coefficient, exponent⟩ ⟨whole < 0, whole.natAbs, 0⟩

/-- A number is coerced to the integer it denotes. -/
theorem coerceInteger_iff (number : Decimal) (value : Value) :
    coerceInteger number = .ok (some value) ↔
      ∃ whole, value = .int whole ∧ Decimal.Same number (.ofInt whole) := by
  cases number with
  | infinity negative =>
    constructor
    · intro coerced
      cases coerced
    · rintro ⟨whole, -, same⟩
      cases same
  | nan signaling =>
    constructor
    · intro coerced
      cases signaling <;> cases coerced
    · rintro ⟨whole, -, same⟩
      cases same
  | finite negative coefficient exponent =>
    unfold coerceInteger
    dsimp only
    constructor
    · intro coerced
      split at coerced
      · rename_i equal
        cases coerced
        exact ⟨_, rfl, (eq_ofInt_iff ..).mp equal⟩
      · cases coerced
    · rintro ⟨whole, rfl, same⟩
      rw [truncate_same same, truncate_ofInt, Option.getD_some,
        if_pos ((eq_ofInt_iff ..).mpr same)]

/-- What the oracle computes with for a probe value: the value itself, or the date a text
names. -/
inductive StandsFor : Value → Value → Prop
  | same (value : Value) : StandsFor value value
  | date {text : String} {day : Date} (named : fromIsoformat text.toList = some day) :
      StandsFor (.str text) (.date day)

/-- Whether a request may carry a value and the oracle validates it as another one. -/
def EvaluatesTo (input : PricingInput) (value final : Value) : Prop :=
  (∃ supplied : RiskValue, supplied.toValue = value) ∧
    ∀ risk : RiskInput, risk.get input.id = some value →
      validateInput risk input = .ok (some final)

/-- Whether the probe generators check a raw value of an input as the oracle does. -/
structure ChecksLikeOracle (input : PricingInput) (raw : RawValue) : Prop where
  /-- A typed value in the domain is accepted and evaluated as it is. -/
  probes : ∀ value, coerceRaw input raw = .ok (some value) → inDomain input value = .ok true →
    ∃ final, StandsFor value final ∧ EvaluatesTo input value final
  /-- A number the oracle accepts for a numeric input is a typed value in the domain. -/
  numbers : input.dataType.isNumeric = true → ∀ number : Value, raw = .value number →
    number.isNumber = true → ∀ (risk : RiskInput) (final : Value),
    risk.get input.id = some number → validateInput risk input = .ok (some final) →
    coerceRaw input raw = .ok (some final) ∧ inDomain input final = .ok true

/-- A value is validated when it converts, is spelled like an accepted text and is in bounds. -/
theorem validateValue_iff (input : PricingInput) (value final : Value) :
    validateValue input value = .ok final ↔
      convertInput input value = .ok final ∧ Spelled input final ∧
        checkBounds input final = .ok () := by
  unfold validateValue
  constructor
  · intro validated
    obtain ⟨converted, conversion, validated⟩ := bind_eq_ok validated
    obtain ⟨_, allowed, validated⟩ := bind_eq_ok validated
    obtain ⟨_, bounded, validated⟩ := bind_eq_ok validated
    cases validated
    exact ⟨conversion, (checkAllowed_iff ..).mp allowed, bounded⟩
  · rintro ⟨conversion, spelled, bounded⟩
    rw [conversion]
    dsimp only [bind, Except.bind]
    rw [(checkAllowed_iff ..).mpr spelled]
    dsimp only
    rw [bounded]
    rfl

/-- What the oracle evaluates a value to is what it validates it as. -/
theorem evaluatesTo_iff (input : PricingInput) (value final : Value) :
    EvaluatesTo input value final ↔
      (∃ supplied : RiskValue, supplied.toValue = value) ∧
        validateValue input value = .ok final := by
  refine and_congr_right fun carried => ?_
  constructor
  · intro validates
    obtain ⟨supplied, rfl⟩ := carried
    have got : RiskInput.get ⟨[(input.id, supplied)], by simp⟩ input.id =
        some supplied.toValue := by simp [RiskInput.get]
    have validated := validates _ got
    rw [validateInput_supplied got] at validated
    cases found : validateValue input supplied.toValue with
    | error failure =>
      rw [found] at validated
      cases validated
    | ok result =>
      rw [found] at validated
      cases validated
      rfl
  · intro validated risk supplied
    rw [validateInput_supplied supplied, validated]
    rfl

/-- A request may carry every value but infinite and undefined numbers and dates beside its own
dates. -/
theorem carried_of_recordable {value : Value} (recordable : value.recordable = true) :
    ∃ supplied : RiskValue, supplied.toValue = value := by
  cases value with
  | int number => exact ⟨.literal (.int number), rfl⟩
  | str text => exact ⟨.literal (.str text), rfl⟩
  | bool truth => exact ⟨.literal (.bool truth), rfl⟩
  | date day => cases recordable
  | decimal number =>
    cases number with
    | finite negative coefficient exponent =>
      exact ⟨.literal (.decimal ⟨negative, coefficient, exponent⟩), rfl⟩
    | infinity negative => cases recordable
    | nan signaling => cases recordable

/-- A number a request carries is finite. -/
theorem RiskValue.recordable_decimal {supplied : RiskValue} {number : Decimal}
    (carries : supplied.toValue = .decimal number) : (Value.decimal number).recordable = true := by
  rw [← carries]
  cases supplied with
  | date day => cases carries
  | literal literal => cases literal <;> rfl

/-- When both sides read a raw value of an input alike: what resembles an accepted text is spelled
like one and, as a number, within the bounds; dates are dates, integers are whole, numbers are
finite, and accepted texts have normal forms. -/
structure ReadsAlike (input : PricingInput) (raw : RawValue) : Prop where
  /-- Text that resembles an accepted text is one. -/
  texts : input.dataType = .string ∨ input.dataType = .category → ∀ text ∈ raw.kept,
    Probable input (.str text) → Spelled input (.str text)
  /-- Text of a date names an accepted date. -/
  dates : input.dataType = .date → ∀ text ∈ raw.kept, Probable input (.str text) →
    ∃ day, fromIsoformat text.toList = some day ∧ Spelled input (.date day)
  /-- A whole number that resembles an accepted text is one and is within the bounds. -/
  wholes : input.dataType = .integer → ∀ number ∈ raw.number, ∀ whole,
    Decimal.Same number (.ofInt whole) → Probable input (.int whole) →
    Spelled input (.int whole) ∧ Bounded input (.ofInt whole)
  /-- A number that resembles an accepted text is one, is finite and is within the bounds. -/
  decimals : input.dataType = .decimal ∨ input.dataType = .money → ∀ number ∈ raw.number,
    Probable input (.decimal number) → (Value.decimal number).recordable = true ∧
      Spelled input (.decimal number) ∧ Bounded input number
  /-- A number whose integer part is accepted is whole. -/
  fractions : input.dataType = .integer → ∀ number : Value, raw = .value number →
    number.isNumber = true → number.recordable = true → ∀ whole, number.toInt = .ok whole →
    Spelled input (.int whole) → Bounded input (.ofInt whole) →
    Normalizable input ∧ ∃ read ∈ raw.number, Decimal.Same read (.ofInt whole)
  /-- Where a number is accepted, the accepted texts have normal forms. -/
  forms : input.dataType = .decimal ∨ input.dataType = .money → ∀ number : Value,
    raw = .value number → number.isNumber = true → number.recordable = true →
    ∀ read ∈ raw.number, Spelled input (.decimal read) → Bounded input read → Normalizable input

/-- An accepted spelling is in the domain once the accepted texts have normal forms. -/
theorem probable_of_spelled {input : PricingInput} {value : Value} {number : Decimal}
    (reads : value.toDecimal = .ok number) (normalizable : Normalizable input)
    (spelled : Spelled input value) (bounded : Bounded input number) : Probable input value := by
  unfold Probable
  cases restricted : input.allowedValues with
  | none =>
    dsimp only
    rw [reads]
    exact bounded
  | some allowed =>
    obtain ⟨normal, forms⟩ := normalizable allowed (by rw [restricted]; rfl)
    exact ⟨normal, forms, .inl (spelled allowed (by rw [restricted]; rfl))⟩

/-- What is in the domain shows the accepted texts to have normal forms. -/
theorem Probable.normalizable {input : PricingInput} {value : Value}
    (probable : Probable input value) : Normalizable input := by
  intro allowed restricted
  unfold Probable at probable
  rw [Option.mem_def.mp restricted] at probable
  obtain ⟨normal, forms, -⟩ := probable
  exact ⟨normal, forms⟩

/-- What a request carries under the identifier of an input and validates is validated alone. -/
theorem validated_alone {input : PricingInput} {risk : RiskInput} {value final : Value}
    (supplied : risk.get input.id = some value)
    (validated : validateInput risk input = .ok (some final)) :
    (∃ carried : RiskValue, carried.toValue = value) ∧ validateValue input value = .ok final := by
  constructor
  · obtain ⟨carried, -, same⟩ := Option.map_eq_some_iff.mp supplied
    exact ⟨carried, same⟩
  · rw [validateInput_supplied supplied] at validated
    cases found : validateValue input value with
    | error failure =>
      rw [found] at validated
      cases validated
    | ok result =>
      rw [found] at validated
      cases validated
      rfl

/-- A carried number is finite. -/
theorem recordable_of_carried {value : Value} (number : value.isNumber = true)
    (carried : ∃ supplied : RiskValue, supplied.toValue = value) : value.recordable = true := by
  obtain ⟨supplied, same⟩ := carried
  cases value with
  | int whole => rfl
  | decimal finite => exact RiskValue.recordable_decimal same
  | str text => rfl
  | bool truth => rfl
  | date day => cases number

/-- Acceptance from its parts. -/
theorem EvaluatesTo.of_parts {input : PricingInput} {value final : Value}
    (recordable : value.recordable = true) (converts : convertInput input value = .ok final)
    (spelled : Spelled input final) (bounded : checkBounds input final = .ok ()) :
    EvaluatesTo input value final :=
  (evaluatesTo_iff ..).mpr ⟨carried_of_recordable recordable,
    (validateValue_iff ..).mpr ⟨converts, spelled, bounded⟩⟩

/-- Conversion of a whole number for an integer input. -/
theorem convertInput_integer {input : PricingInput} (type : input.dataType = .integer)
    {value : Value} {whole : Int} (reads : value.toInt = .ok whole) :
    convertInput input value = .ok (.int whole) := by
  unfold convertInput
  rw [type]
  dsimp only
  rw [reads]

/-- Conversion of a number for a decimal input. -/
theorem convertInput_decimal {input : PricingInput}
    (type : input.dataType = .decimal ∨ input.dataType = .money) {value : Value} {number : Decimal}
    (reads : value.toDecimal = .ok number) : convertInput input value = .ok (.decimal number) := by
  unfold convertInput
  rcases type with type | type <;>
  · rw [type]
    dsimp only
    rw [reads]

/-- Text is converted to itself for text inputs. -/
theorem convertInput_text {input : PricingInput}
    (type : input.dataType = .string ∨ input.dataType = .category) (text : String) :
    convertInput input (.str text) = .ok (.str text) := by
  have same : (Value.str text).toString = text := String.ofList_toList
  unfold convertInput
  rcases type with type | type <;>
  · rw [type]
    dsimp only
    rw [same]

/-- Conversion of text for a date input. -/
theorem convertInput_date {input : PricingInput} (type : input.dataType = .date) (text : String)
    (final : Value) :
    convertInput input (.str text) = .ok final ↔
      ∃ day, fromIsoformat text.toList = some day ∧ final = .date day := by
  unfold convertInput
  rw [type]
  dsimp only [Value.text]
  cases fromIsoformat text.toList with
  | none =>
    constructor
    · intro converted
      cases converted
    · rintro ⟨day, named, -⟩
      cases named
  | some day =>
    constructor
    · intro converted
      cases converted
      exact ⟨day, rfl, rfl⟩
    · rintro ⟨_, named, rfl⟩
      cases named
      rfl

/-- Typed values of an integer input. -/
theorem coerceRaw_integer {input : PricingInput} (type : input.dataType = .integer)
    (raw : RawValue) (value : Value) :
    coerceRaw input raw = .ok (some value) ↔
      ∃ number ∈ raw.number, ∃ whole, value = .int whole ∧ Decimal.Same number (.ofInt whole) := by
  unfold coerceRaw
  rw [type]
  dsimp only
  cases raw.number with
  | none => simp
  | some number =>
    refine (coerceInteger_iff number value).trans ?_
    simp

/-- Typed values of a decimal input. -/
theorem coerceRaw_decimal {input : PricingInput}
    (type : input.dataType = .decimal ∨ input.dataType = .money) (raw : RawValue) (value : Value) :
    coerceRaw input raw = .ok (some value) ↔ ∃ number ∈ raw.number, value = .decimal number := by
  unfold coerceRaw
  rcases type with type | type <;>
  · rw [type]
    cases raw.number <;> simp [eq_comm]

/-- Typed values of text and date inputs. -/
theorem coerceRaw_text {input : PricingInput}
    (type : input.dataType = .string ∨ input.dataType = .category ∨ input.dataType = .date)
    (raw : RawValue) (value : Value) :
    coerceRaw input raw = .ok (some value) ↔ ∃ text ∈ raw.kept, value = .str text := by
  unfold coerceRaw
  rcases type with type | type | type <;>
  · rw [type]
    cases raw.kept <;> simp [eq_comm]

/-- Typed values of a boolean input. -/
theorem coerceRaw_boolean {input : PricingInput} (type : input.dataType = .boolean)
    {raw : RawValue} {value : Value} (coerced : coerceRaw input raw = .ok (some value)) :
    ∃ truth, value = .bool truth := by
  unfold coerceRaw at coerced
  rw [type] at coerced
  dsimp only at coerced
  split at coerced
  · cases coerced
    exact ⟨_, rfl⟩
  · cases coerced

/-- Typed values of inputs read alike are accepted as they are. -/
theorem ReadsAlike.probes {input : PricingInput} {raw : RawValue} (alike : ReadsAlike input raw)
    {value : Value} (coerced : coerceRaw input raw = .ok (some value))
    (probable : Probable input value) :
    ∃ final, StandsFor value final ∧ EvaluatesTo input value final := by
  have decimals : input.dataType = .decimal ∨ input.dataType = .money →
      ∃ final, StandsFor value final ∧ EvaluatesTo input value final := by
    intro type
    have numeric : input.dataType.isNumeric = true := by
      rcases type with type | type <;> rw [type] <;> rfl
    obtain ⟨number, reads, rfl⟩ := (coerceRaw_decimal type raw value).mp coerced
    obtain ⟨finite, spelled, bounded⟩ := alike.decimals type number reads probable
    exact ⟨_, .same _, .of_parts finite (convertInput_decimal type rfl) spelled
      ((checkBounds_iff numeric rfl).mpr bounded)⟩
  have texts : input.dataType = .string ∨ input.dataType = .category →
      ∃ final, StandsFor value final ∧ EvaluatesTo input value final := by
    intro type
    have other : input.dataType.isNumeric = false := by
      rcases type with type | type <;> rw [type] <;> rfl
    have kept : input.dataType = .string ∨ input.dataType = .category ∨
        input.dataType = .date := type.imp_right .inl
    obtain ⟨text, reads, rfl⟩ := (coerceRaw_text kept raw value).mp coerced
    exact ⟨_, .same _, .of_parts rfl (convertInput_text type text)
      (alike.texts type text reads probable) (checkBounds_other _ other)⟩
  cases type : input.dataType with
  | integer =>
    obtain ⟨number, reads, whole, rfl, same⟩ := (coerceRaw_integer type raw value).mp coerced
    obtain ⟨spelled, bounded⟩ := alike.wholes type number reads whole same probable
    exact ⟨_, .same _, .of_parts rfl (convertInput_integer type rfl) spelled
      ((checkBounds_iff (by rw [type]; rfl) rfl).mpr bounded)⟩
  | decimal => exact decimals (.inl type)
  | money => exact decimals (.inr type)
  | string => exact texts (.inl type)
  | category => exact texts (.inr type)
  | boolean =>
    obtain ⟨truth, rfl⟩ := coerceRaw_boolean type coerced
    have converts : convertInput input (.bool truth) = .ok (.bool truth) := by
      unfold convertInput
      rw [type]
    have spelled : Spelled input (.bool truth) := by
      intro allowed restricted
      rw [input.unrestricted type] at restricted
      cases restricted
    exact ⟨_, .same _, .of_parts rfl converts spelled
      (checkBounds_other _ (by rw [type]; rfl))⟩
  | date =>
    obtain ⟨text, reads, rfl⟩ := (coerceRaw_text (.inr (.inr type)) raw value).mp coerced
    obtain ⟨day, named, spelled⟩ := alike.dates type text reads probable
    exact ⟨_, .date named, .of_parts rfl ((convertInput_date type text _).mpr ⟨day, named, rfl⟩)
      spelled (checkBounds_other _ (by rw [type]; rfl))⟩

/-- Accepted numbers of inputs read alike are typed values in the domain. -/
theorem ReadsAlike.numbers {input : PricingInput} {raw : RawValue} (alike : ReadsAlike input raw)
    (numeric : input.dataType.isNumeric = true) {number final : Value}
    (given : raw = .value number) (isNumber : number.isNumber = true)
    (recordable : number.recordable = true)
    (validated : validateValue input number = .ok final) :
    coerceRaw input raw = .ok (some final) ∧ Probable input final := by
  obtain ⟨converted, spelled, bounded⟩ := (validateValue_iff ..).mp validated
  obtain ⟨read, reads⟩ : ∃ read, number.toDecimal = .ok read := by
    cases number with
    | int whole => exact ⟨_, rfl⟩
    | decimal finite => exact ⟨_, rfl⟩
    | str text => cases isNumber
    | bool truth => cases isNumber
    | date day => cases isNumber
  have rawNumber : raw.number = some read := by
    rw [given, RawValue.number, reads]
    rfl
  have decimals : input.dataType = .decimal ∨ input.dataType = .money →
      coerceRaw input raw = .ok (some final) ∧ Probable input final := by
    intro type
    rw [convertInput_decimal type reads] at converted
    cases converted
    have within := (checkBounds_iff numeric rfl).mp bounded
    have normalizable := alike.forms type number given isNumber recordable read rawNumber spelled
      within
    exact ⟨(coerceRaw_decimal type raw _).mpr ⟨read, rawNumber, rfl⟩,
      probable_of_spelled rfl normalizable spelled within⟩
  cases type : input.dataType with
  | decimal => exact decimals (.inl type)
  | money => exact decimals (.inr type)
  | integer =>
    obtain ⟨whole, truncates⟩ : ∃ whole, number.toInt = .ok whole := by
      unfold convertInput at converted
      rw [type] at converted
      dsimp only at converted
      split at converted
      · rename_i whole found
        exact ⟨whole, found⟩
      · cases converted
      · cases converted
      · cases converted
    rw [convertInput_integer type truncates] at converted
    cases converted
    have within := (checkBounds_iff numeric rfl).mp bounded
    obtain ⟨normalizable, other, otherRead, same⟩ := alike.fractions type number given isNumber
      recordable whole truncates spelled within
    exact ⟨(coerceRaw_integer type raw _).mpr ⟨other, otherRead, whole, rfl, same⟩,
      probable_of_spelled rfl normalizable spelled within⟩
  | string =>
    rw [type] at numeric
    cases numeric
  | category =>
    rw [type] at numeric
    cases numeric
  | boolean =>
    rw [type] at numeric
    cases numeric
  | date =>
    rw [type] at numeric
    cases numeric

/-- What the oracle does with an accepted probe value. -/
theorem ChecksLikeOracle.accepts {input : PricingInput} {raw : RawValue}
    (checks : ChecksLikeOracle input raw) {value : Value}
    (coerced : coerceRaw input raw = .ok (some value)) (probable : Probable input value) :
    ∃ final, (∃ supplied : RiskValue, supplied.toValue = value) ∧
      convertInput input value = .ok final ∧ Spelled input final ∧
      checkBounds input final = .ok () := by
  obtain ⟨final, -, evaluates⟩ := checks.probes value coerced ((inDomain_iff ..).mpr probable)
  obtain ⟨carried, validated⟩ := (evaluatesTo_iff ..).mp evaluates
  exact ⟨final, carried, (validateValue_iff ..).mp validated⟩

/-- What the generators do with a number the oracle accepts. -/
theorem ChecksLikeOracle.gives {input : PricingInput} {raw : RawValue}
    (checks : ChecksLikeOracle input raw) (numeric : input.dataType.isNumeric = true)
    {number final : Value} (given : raw = .value number) (isNumber : number.isNumber = true)
    (recordable : number.recordable = true) (converts : convertInput input number = .ok final)
    (spelled : Spelled input final) (bounded : checkBounds input final = .ok ()) :
    coerceRaw input raw = .ok (some final) ∧ Probable input final := by
  obtain ⟨supplied, same⟩ := carried_of_recordable recordable
  have got : RiskInput.get ⟨[(input.id, supplied)], by simp⟩ input.id = some number := by
    simp [RiskInput.get, same]
  have evaluates := EvaluatesTo.of_parts recordable converts spelled bounded
  obtain ⟨coerced, domain⟩ := checks.numbers numeric number given isNumber _ final got
    (evaluates.2 _ got)
  exact ⟨coerced, (inDomain_iff ..).mp domain⟩

/-- The probe generators check a raw value as the oracle does exactly when both read it alike. -/
theorem checksLikeOracle_iff (input : PricingInput) (raw : RawValue) :
    ChecksLikeOracle input raw ↔ ReadsAlike input raw := by
  constructor
  · intro checks
    constructor
    case texts =>
      intro type text kept probable
      have coerced := (coerceRaw_text (type.imp_right .inl) raw _).mpr ⟨text, kept, rfl⟩
      obtain ⟨final, -, converts, spelled, -⟩ := checks.accepts coerced probable
      rw [convertInput_text type text] at converts
      cases converts
      exact spelled
    case dates =>
      intro type text kept probable
      have coerced := (coerceRaw_text (.inr (.inr type)) raw _).mpr ⟨text, kept, rfl⟩
      obtain ⟨final, -, converts, spelled, -⟩ := checks.accepts coerced probable
      obtain ⟨day, named, rfl⟩ := (convertInput_date type text final).mp converts
      exact ⟨day, named, spelled⟩
    case wholes =>
      intro type number reads whole same probable
      have coerced := (coerceRaw_integer type raw _).mpr ⟨number, reads, whole, rfl, same⟩
      obtain ⟨final, -, converts, spelled, bounded⟩ := checks.accepts coerced probable
      rw [convertInput_integer type rfl] at converts
      cases converts
      exact ⟨spelled, (checkBounds_iff (by rw [type]; rfl) rfl).mp bounded⟩
    case decimals =>
      intro type number reads probable
      have coerced := (coerceRaw_decimal type raw _).mpr ⟨number, reads, rfl⟩
      obtain ⟨final, ⟨supplied, same⟩, converts, spelled, bounded⟩ :=
        checks.accepts coerced probable
      rw [convertInput_decimal type rfl] at converts
      cases converts
      have numeric : input.dataType.isNumeric = true := by
        rcases type with type | type <;> rw [type] <;> rfl
      exact ⟨RiskValue.recordable_decimal same, spelled, (checkBounds_iff numeric rfl).mp bounded⟩
    case fractions =>
      intro type number given isNumber recordable whole truncates spelled bounded
      have numeric : input.dataType.isNumeric = true := by
        rw [type]
        rfl
      obtain ⟨coerced, probable⟩ := checks.gives numeric given isNumber recordable
        (convertInput_integer type truncates) spelled ((checkBounds_iff numeric rfl).mpr bounded)
      obtain ⟨read, reads, other, equal, same⟩ := (coerceRaw_integer type raw _).mp coerced
      cases equal
      exact ⟨probable.normalizable, read, reads, same⟩
    case forms =>
      intro type number given isNumber recordable read reads spelled bounded
      have numeric : input.dataType.isNumeric = true := by
        rcases type with type | type <;> rw [type] <;> rfl
      have converted : number.toDecimal = .ok read := by
        rw [given, RawValue.number] at reads
        cases found : number.toDecimal with
        | error signal =>
          rw [found] at reads
          cases reads
        | ok other =>
          rw [found] at reads
          cases reads
          rfl
      obtain ⟨-, probable⟩ := checks.gives numeric given isNumber recordable
        (convertInput_decimal type converted) spelled ((checkBounds_iff numeric rfl).mpr bounded)
      exact probable.normalizable
  · intro alike
    constructor
    · intro value coerced domain
      exact alike.probes coerced ((inDomain_iff ..).mp domain)
    · intro numeric number given isNumber risk final supplied validated
      obtain ⟨carried, alone⟩ := validated_alone supplied validated
      obtain ⟨coerced, probable⟩ := alike.numbers numeric given isNumber
        (recordable_of_carried isNumber carried) alone
      exact ⟨coerced, (inDomain_iff ..).mpr probable⟩

/-- Money input that accepts two tiers. -/
def tierInput : PricingInput where
  id := "deductible"
  dataType := .money
  required := true
  allowedValues := some ["500", "1000"]
  minimum := some (.int 100)
  maximum := none
  ordered := rfl
  unrestricted := by simp

/-- A tier written with cents is a probe value in the domain, and the oracle refuses it. -/
theorem not_checksLikeOracle :
    ¬∀ (input : PricingInput) (raw : RawValue), ChecksLikeOracle input raw := by
  intro agree
  have checks := agree tierInput (.printed "500.00")
  obtain ⟨final, -, evaluates⟩ := checks.probes (.decimal (.finite false 50000 (-2))) (by rfl)
    (by rfl)
  obtain ⟨-, validated⟩ := (evaluatesTo_iff ..).mp evaluates
  cases validated

end RateGuard
