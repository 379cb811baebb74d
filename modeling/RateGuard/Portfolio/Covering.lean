import RateGuard.Diff.Reflexive
import RateGuard.Portfolio.Soundness

/-!
# Policies a difference concerns

What the predicate of a single difference covers: the dates between two starts, the
policies that select a table row, and the policies eligible for a modifier.
-/

open DecimalFloat CalendarDate Outcome KeyedList

namespace RateGuard

/-- Two contents that differ in one effective period only, of the package or of one modifier. -/
inductive PeriodChanged : PackageContent → PackageContent → Option EffectivePeriod →
    Option EffectivePeriod → Prop
  | package (content : PackageContent) (period : EffectivePeriod) :
    PeriodChanged content { content with effectivePeriod := period }
      (some content.effectivePeriod) (some period)
  | modifier (content : PackageContent) (before after : List PricingModifier)
    (modifier : PricingModifier) (period : Option EffectivePeriod)
    (split : content.modifiers = before ++ modifier :: after) :
    PeriodChanged content
      { content with
        modifiers := before ++ { modifier with effectivePeriod := period } :: after }
      modifier.effectivePeriod period

/-- Whether every modifier has an amount of its own. -/
def PackageContent.AmountsOnly (content : PackageContent) : Prop :=
  ∀ modifier ∈ content.modifiers, ∃ value, modifier.value = .amount value

/-- A compared modifier has an amount of its own. -/
theorem amounts_of_compared {left right : PackageContent} {differences : List SemanticDifference}
    (compared : compareById (fun node : PricingModifier => node.id) compareModifier
      left.modifiers right.modifiers = .ok differences)
    (distinct : (left.modifiers.map (·.id)).Nodup)
    (ids : right.modifiers.map (·.id) = left.modifiers.map (·.id)) : left.AmountsOnly := by
  intro modifier member
  have named : modifier.id ∈ right.modifiers.map (·.id) := by
    rw [ids]
    exact List.mem_map_of_mem member
  obtain ⟨other, inside, same⟩ := List.mem_map.mp named
  obtain ⟨part, found, -⟩ := compareById_pair compared distinct (by rwa [ids]) member inside
    same.symm
  obtain ⟨value, -, amount, -, -⟩ := compareModifier_parts found
  exact ⟨value, amount⟩

/-- Modifiers with amounts do not differ from themselves. -/
theorem compareModifiers_self {content : PackageContent} (amounts : content.AmountsOnly) :
    compareById (fun node : PricingModifier => node.id) compareModifier content.modifiers
      content.modifiers = .ok [] := by
  refine compareById_self (fun key modifier member => ?_) fun _ => rfl
  obtain ⟨value, amount⟩ := amounts modifier member
  exact compareModifier_self key modifier amount

/-- Modifiers with amounts that differ in one period only differ in the starts of that one. -/
theorem compareModifiers_replaced {content : PackageContent} (amounts : content.AmountsOnly)
    (distinct : (content.modifiers.map (·.id)).Nodup) {before after : List PricingModifier}
    {modifier : PricingModifier} (split : content.modifiers = before ++ modifier :: after)
    (period : Option EffectivePeriod) :
    ∃ differences, compareById (fun node : PricingModifier => node.id) compareModifier
        content.modifiers (before ++ { modifier with effectivePeriod := period } :: after) =
          .ok differences ∧
      ∀ difference, difference ∈ differences ↔ difference ∈ compareEffectivePeriods
        ("modifiers." ++ modifier.id) modifier.id .modifier modifier.effectivePeriod period := by
  let replacement : PricingModifier := { modifier with effectivePeriod := period }
  have same : replacement.id = modifier.id := rfl
  have named := lastWith_replace (fun node : PricingModifier => node.id) before after same
    (split ▸ distinct)
  have parts : ∀ key, ∃ part, compareModifier key
      (lastWith (·.id) content.modifiers key)
      (lastWith (·.id) (before ++ { modifier with effectivePeriod := period } :: after) key) =
        .ok part ∧ ∀ difference ∈ part, difference ∈ compareEffectivePeriods
          ("modifiers." ++ modifier.id) modifier.id .modifier modifier.effectivePeriod
          period := by
    intro key
    rw [split]
    rcases named key with ⟨first, second⟩ | same
    · have keyed := (lastWith_eq_some first).2
      have member : modifier ∈ content.modifiers := by
        rw [split]
        simp
      obtain ⟨value, amount⟩ := amounts modifier member
      rw [first, second, ← keyed, compareModifier_periods _ modifier period amount]
      exact ⟨_, rfl, fun _ inside => inside⟩
    · rw [← same]
      cases found : lastWith (fun node : PricingModifier => node.id)
          (before ++ modifier :: after) key with
      | none => exact ⟨[], rfl, fun _ inside => absurd inside List.not_mem_nil⟩
      | some node =>
        obtain ⟨value, amount⟩ := amounts node (by
          rw [split]
          exact (lastWith_eq_some found).1)
        exact ⟨[], compareModifier_self key node amount,
          fun _ inside => absurd inside List.not_mem_nil⟩
  obtain ⟨differences, compared⟩ := compareById_succeeds fun key =>
    ⟨(parts key).choose, (parts key).choose_spec.1⟩
  refine ⟨differences, compared, fun difference => ⟨fun member => ?_, fun member => ?_⟩⟩
  · obtain ⟨key, part, computed, inside⟩ := compareById_source compared member
    obtain ⟨other, same, within⟩ := parts key
    rw [computed] at same
    cases same
    exact within difference inside
  · have listed : modifier ∈ content.modifiers := by simp [split]
    have replaced : replacement ∈ before ++ replacement :: after := by simp
    obtain ⟨part, computed, within⟩ := compareById_pair compared distinct
      (by simpa [split] using distinct) listed replaced same.symm
    obtain ⟨value, amount⟩ := amounts modifier (by simp [split])
    rw [compareModifier_periods _ modifier period amount] at computed
    cases computed
    exact within difference member

/-- Packages that differ in one period only are compared exactly when every modifier has an
amount, and what is reported is the difference of the starts. -/
theorem comparePackages_period {canonical target : PackageContent}
    {left right : Option EffectivePeriod} (change : PeriodChanged canonical target left right)
    (distinct : (canonical.modifiers.map (·.id)).Nodup) :
    ((∃ result, comparePackages canonical target = .ok result) → canonical.AmountsOnly) ∧
      (canonical.AmountsOnly → ∃ result, comparePackages canonical target = .ok result ∧
        ∃ path node type, ∀ difference, difference ∈ result.differences ↔
          difference ∈ compareEffectivePeriods path node type left right) := by
  have ids : target.modifiers.map (·.id) = canonical.modifiers.map (·.id) := by
    cases change with
    | package period => rfl
    | modifier before after modifier period split => simp [split]
  constructor
  · rintro ⟨result, compared⟩
    obtain ⟨_, modifiers, _⟩ := (comparePackages_parts compared).modifiers
    exact amounts_of_compared modifiers distinct ids
  · intro amounts
    cases change with
    | package period =>
      have compared := comparePackages_nodes canonical
        { canonical with effectivePeriod := period } rfl rfl rfl rfl rfl
      rw [compareModifiers_self amounts] at compared
      refine ⟨_, compared, "package", canonical.id, .package, fun difference => ?_⟩
      dsimp only
      rw [List.append_nil]
    | modifier before after modifier period split =>
      obtain ⟨differences, replaced, reported⟩ :=
        compareModifiers_replaced amounts distinct split right
      have compared := comparePackages_nodes canonical ({ canonical with
        modifiers := before ++ { modifier with effectivePeriod := right } :: after })
        rfl rfl rfl rfl rfl
      rw [replaced] at compared
      refine ⟨_, compared, "modifiers." ++ modifier.id, modifier.id, .modifier,
        fun difference => ?_⟩
      dsimp only
      rw [compareEffectivePeriods_eq_nil.mpr rfl, List.nil_append]
      exact reported difference

/-- A date on which only one of two periods is active is between their starts exactly when both
are there and one of them has not started. -/
theorem between_starts_iff {left right : Option EffectivePeriod} {date : Date}
    (differs : isActive left date ≠ isActive right date) (predicate : ImpactPredicate) :
    (left.map (·.start) ≠ right.map (·.start) ∧
      inWindow { predicate with
        temporalStart := (dateWindow (left.map (·.start)) (right.map (·.start))).1
        temporalEnd := (dateWindow (left.map (·.start)) (right.map (·.start))).2 } date = true) ↔
      ∃ period ∈ left, ∃ other ∈ right, date < max period.start other.start := by
  cases left with
  | none =>
    cases right with
    | none => exact absurd rfl differs
    | some other =>
      constructor
      · rintro ⟨-, inside⟩
        simp only [inWindow, Option.map_none, Option.map_some, dateWindow, Bool.and_eq_true,
          decide_eq_true_eq] at inside
        exact absurd inside.2 (not_lt_of_ge inside.1)
      · rintro ⟨period, none, -⟩
        cases none
  | some period =>
    cases right with
    | none =>
      constructor
      · rintro ⟨-, inside⟩
        simp only [inWindow, Option.map_none, Option.map_some, dateWindow, Bool.and_eq_true,
          decide_eq_true_eq] at inside
        exact absurd inside.2 (not_lt_of_ge inside.1)
      · rintro ⟨_, -, other, none, -⟩
        cases none
    | some other =>
      have window : ∀ bounds : ImpactPredicate, bounds.temporalStart =
          some (min period.start other.start) →
          bounds.temporalEnd = some (max period.start other.start) →
          (inWindow bounds date = true ↔
            min period.start other.start ≤ date ∧ date < max period.start other.start) := by
        intro bounds start stop
        simp only [inWindow, start, stop, Bool.and_eq_true, decide_eq_true_eq]
      rw [window _ rfl rfl]
      constructor
      · rintro ⟨-, -, before⟩
        exact ⟨period, rfl, other, rfl, before⟩
      · rintro ⟨one, first, two, second, before⟩
        obtain rfl := Option.some.inj first
        obtain rfl := Option.some.inj second
        have started : period.start ≤ date ∨ other.start ≤ date := by
          by_contra neither
          rw [not_or] at neither
          refine differs ?_
          simp only [isActive, neither.1, neither.2, decide_false, Bool.false_and]
        have reached : min period.start other.start ≤ date := min_le_iff.mpr started
        refine ⟨fun same => ?_, reached, before⟩
        have equal : period.start = other.start := Option.some.inj same
        rw [equal, max_self] at before
        rw [equal, min_self] at reached
        exact absurd before (not_lt_of_ge reached)

/-- A policy of one effective date. -/
def datedPolicy (date : Date) : SyntheticPolicy where
  policyId := "POL-1"
  productId := "HO3"
  state := "AZ"
  form := "HO3"
  transactionType := .newBusiness
  effectiveDate := date
  territory := "T1"
  roofAge := 5
  deductible := 1000
  protectionClass := 3
  constructionType := "frame"
  dwellingLimit := 300000
  multiPolicy := false
  claimsFree := true
  claimsFreeYears := 3
  canonicalPremium := ⟨false, 10000, -2⟩
  targetPremium := none

/-- Whether the comparison reports a difference whose predicate matches every policy of a date. -/
def DateCovered (inherited : InheritedMembers) (canonical target : PackageContent)
    (date : Date) : Prop :=
  ∃ result, comparePackages canonical target = .ok result ∧ ∃ difference ∈ result.differences,
    ∀ policy : SyntheticPolicy, policy.effectiveDate = date →
      ∃ predicate, derivePredicate difference canonical = .ok predicate ∧
        matchesPredicate inherited policy predicate = true

/-- A date on which only one of two packages with one changed period is active is covered exactly
when both have that period, one of them has not started, and the packages can be compared. -/
theorem dateCovered_iff (inherited : InheritedMembers) (canonical target : IPIRPackage)
    {left right : Option EffectivePeriod}
    (change : PeriodChanged canonical.toPackageContent target.toPackageContent left right)
    (date : Date) (differs : isActive left date ≠ isActive right date) :
    DateCovered inherited canonical.toPackageContent target.toPackageContent date ↔
      canonical.AmountsOnly ∧
        ∃ period ∈ left, ∃ other ∈ right, date < max period.start other.start := by
  obtain ⟨comparable, reports⟩ :=
    comparePackages_period change canonical.valid.distinctNodes.modifiers
  constructor
  · rintro ⟨result, compared, difference, member, covers⟩
    have amounts := comparable ⟨result, compared⟩
    refine ⟨amounts, ?_⟩
    obtain ⟨found, again, path, node, type, reported⟩ := reports amounts
    rw [compared] at again
    cases again
    have started := (reported difference).mp member
    unfold compareEffectivePeriods at started
    dsimp only at started
    split at started
    · cases started
    · rename_i starts
      obtain rfl := List.mem_singleton.mp started
      obtain ⟨predicate, derived, matched⟩ := covers (datedPolicy date) rfl
      rw [derivePredicate_period] at derived
      cases derived
      refine (between_starts_iff differs (globalPredicate
        (periodDifference path node type (left.map (·.start)) (right.map (·.start))))).mp
        ⟨starts, ?_⟩
      exact (Bool.and_eq_true _ _ ▸ matched).1
  · rintro ⟨amounts, between⟩
    obtain ⟨result, compared, path, node, type, reported⟩ := reports amounts
    obtain ⟨starts, inside⟩ := (between_starts_iff differs (globalPredicate
        (periodDifference path node type (left.map (·.start)) (right.map (·.start))))).mpr between
    refine ⟨result, compared,
      periodDifference path node type (left.map (·.start)) (right.map (·.start)),
      (reported _).mpr ?_, fun policy dated => ⟨_, derivePredicate_period .., ?_⟩⟩
    · unfold compareEffectivePeriods
      dsimp only
      rw [if_neg starts]
      exact List.mem_singleton_self _
    · rw [matchesPredicate, dated, inside]
      rfl

/-- A day years after the sample packages start. -/
def laterDay : Date where
  year := 2031
  month := 5
  day := 1
  yearValid := by decide
  dayValid := by decide

/-- The flat package with a later start. -/
def laterPackage : IPIRPackage where
  toPackageContent :=
    { flatPackage.toPackageContent with effectivePeriod := ⟨laterDay, none, nofun⟩ }
  valid := by decide

/-- The flat package with an end on its first day. -/
def endedPackage : IPIRPackage where
  toPackageContent :=
    { flatPackage.toPackageContent with
      effectivePeriod := ⟨sampleDay, some sampleDay, fun _ same => (Option.some.inj same).le⟩ }
  valid := by decide

/-- A start that is put off is covered on the old first day. -/
theorem dateCovered_later :
    DateCovered (fun _ _ => none) flatPackage.toPackageContent laterPackage.toPackageContent
      sampleDay :=
  (dateCovered_iff (fun _ _ => none) flatPackage laterPackage
    (.package flatPackage.toPackageContent ⟨laterDay, none, nofun⟩) sampleDay (by decide)).mpr
    ⟨fun _ member => absurd member List.not_mem_nil, _, rfl, _, rfl, by decide⟩

/-- An end that only one package has is no difference, so the dates after it are not covered. -/
theorem dateCovered_ended :
    ¬∀ (inherited : InheritedMembers) (canonical target : IPIRPackage)
      (left right : Option EffectivePeriod),
      PeriodChanged canonical.toPackageContent target.toPackageContent left right →
      ∀ date, isActive left date ≠ isActive right date →
        DateCovered inherited canonical.toPackageContent target.toPackageContent date := by
  intro always
  obtain ⟨result, compared, difference, member, -⟩ := always (fun _ _ => none) flatPackage
    endedPackage _ _ (.package flatPackage.toPackageContent
      ⟨sampleDay, some sampleDay, fun _ same => (Option.some.inj same).le⟩) laterDay (by decide)
  have nothing : comparePackages flatPackage.toPackageContent endedPackage.toPackageContent =
      .ok ⟨"flat_rate", "flat_rate", "1.0.0", "1.0.0", []⟩ := rfl
  rw [nothing] at compared
  cases compared
  exact List.not_mem_nil member

/-- Whether a policy's own value answers the description of a key: it is written like an exact
key, or it is no number outside a bracket. -/
def RowMatch.Describes : RowMatch → Value → Prop
  | .exact literal, own => own.text = literal.toValue.text
  | .range bracket, own => ∀ number ∈ own.number?,
    (∀ low ∈ bracket.minimum, number.lt low.toDecimal ≠ .ok true) ∧
      ∀ high ∈ bracket.maximum, high.toDecimal.lt number ≠ .ok true

/-- Whether a policy has the field of a dimension, with a value the key describes. -/
def KeyDescribed (inherited : InheritedMembers) (policy : SyntheticPolicy)
    (dimension : TableDimension) (key : RowMatch) : Prop :=
  ∃ own, policy.attribute inherited dimension.inputRef = some own ∧ key.Describes own

/-- Keys of a matching row match one by one. -/
theorem keyMatches_of_row {lookup : String → Option Value} {dimensions : List TableDimension}
    {keys : List RowMatch} (selected : rowMatches lookup dimensions keys = .ok true) :
    ∀ pair ∈ dimensions.zip keys,
      keyMatches pair.1 pair.2 (lookup pair.1.inputRef) = .ok true := by
  induction dimensions generalizing keys with
  | nil => exact fun _ member => absurd member List.not_mem_nil
  | cons dimension rest ih =>
    cases keys with
    | nil => exact fun _ member => absurd member List.not_mem_nil
    | cons key keys =>
      obtain ⟨matched, first, tail⟩ := bind_eq_ok selected
      cases matched with
      | false => cases tail
      | true =>
        intro pair member
        rcases List.mem_cons.mp member with rfl | member
        · exact first
        · exact ih tail pair member

/-- The text of a bound is the text of its number, of one point at most and with a digit at its
end. -/
theorem bound_text (bound : Bound) :
    ∃ number : FiniteDecimal, number.toDecimal = bound.toDecimal ∧
      Decimal.parse bound.toValue.text = some number.toDecimal ∧
      Decimal.Pointed bound.toValue.text := by
  cases bound with
  | int value =>
    refine ⟨⟨value < 0, value.natAbs, 0⟩, rfl, ?_, ?_⟩
    · rw [Bound.toValue, Value.text, intText_eq, Decimal.parse_text]
      rfl
    · rw [Bound.toValue, Value.text, intText_eq]
      exact Decimal.text_pointed _ _ _
  | decimal value =>
    refine ⟨value, rfl, ?_, Decimal.text_pointed _ _ _⟩
    rw [Bound.toValue, Value.text, Decimal.parse_text]

/-- A text that ends in a digit is not one that ends in another character. -/
theorem pointed_ne {text other : List Char} (pointed : Decimal.Pointed text)
    (last : ∀ digit, other.getLast? = some digit → digit.isDigit = false) : text ≠ other := by
  rintro rfl
  obtain ⟨-, front, digit, rfl, isDigit⟩ := pointed
  have ends := last digit (by simp)
  rw [isDigit] at ends
  cases ends

/-- The text of a bound is read back as a clause about its number. -/
theorem boundClause_bound (bound : Bound) {unbounded : List Char}
    (last : ∀ digit, unbounded.getLast? = some digit → digit.isDigit = false) (field : String)
    (operator : ComparisonOperator) :
    ∃ number : FiniteDecimal, number.toDecimal = bound.toDecimal ∧
      boundClause unbounded field operator bound.toValue.text =
        .ok [⟨field, operator, .literal (.decimal number)⟩] := by
  obtain ⟨number, same, parsed, pointed⟩ := bound_text bound
  refine ⟨number, same, ?_⟩
  unfold boundClause
  rw [if_neg (pointed_ne pointed last), parsed]
  rfl

/-- A clause about a number holds for a policy that has the field, unless its value is a number
that does not satisfy it; orders are not checked of other values. -/
theorem satisfiesClause_order {operator : ComparisonOperator}
    (order : operator = .gte ∨ operator = .lte) (inherited : InheritedMembers)
    (policy : SyntheticPolicy) (field : String) (target : FiniteDecimal) :
    satisfiesClause inherited policy ⟨field, operator, .literal (.decimal target)⟩ = true ↔
      ∃ own, policy.attribute inherited field = some own ∧
        ∀ number ∈ own.number?, numbersSatisfy operator number target.toDecimal = true := by
  unfold satisfiesClause
  cases policy.attribute inherited field with
  | none =>
    refine ⟨fun holds => absurd holds Bool.false_ne_true, ?_⟩
    rintro ⟨own, missing, -⟩
    cases missing
  | some own =>
    have satisfied : valueSatisfies operator own (.decimal target.toDecimal) = true ↔
        ∀ number ∈ own.number?, numbersSatisfy operator number target.toDecimal = true := by
      have read : (Value.decimal target.toDecimal).number? = some target.toDecimal := rfl
      unfold valueSatisfies
      rw [read]
      cases own.number? with
      | none =>
        refine ⟨fun _ _ missing => (by cases missing), fun _ => ?_⟩
        rcases order with rfl | rfl <;> rfl
      | some number =>
        refine ⟨fun holds other same => ?_, fun holds => holds number rfl⟩
        rwa [← Option.some.inj same]
    refine ⟨fun holds => ⟨own, rfl, satisfied.mp holds⟩, ?_⟩
    rintro ⟨other, same, holds⟩
    cases same
    exact satisfied.mpr holds

/-- Clauses of an optional bound. -/
theorem boundClause_optional (unbounded : String) (bound : Option Bound)
    (last : ∀ digit, unbounded.toList.getLast? = some digit → digit.isDigit = false)
    {operator : ComparisonOperator} (order : operator = .gte ∨ operator = .lte) (field : String) :
    ∃ clauses, boundClause unbounded.toList field operator
        (boundText unbounded bound).toList = .ok clauses ∧
      ∀ (inherited : InheritedMembers) (policy : SyntheticPolicy),
        (∀ clause ∈ clauses, satisfiesClause inherited policy clause = true) ↔
          ∀ limit ∈ bound, ∃ own, policy.attribute inherited field = some own ∧
            ∀ number ∈ own.number?, numbersSatisfy operator number limit.toDecimal = true := by
  cases bound with
  | none =>
    refine ⟨[], ?_, fun inherited policy => ⟨fun _ _ missing => (by cases missing),
      fun _ _ missing => absurd missing List.not_mem_nil⟩⟩
    rw [boundClause, boundText, if_pos (by rfl)]
  | some limit =>
    obtain ⟨number, same, read⟩ := boundClause_bound limit last field operator
    refine ⟨[⟨field, operator, .literal (.decimal number)⟩], ?_, fun inherited policy => ?_⟩
    · rw [boundText, Option.map_some, Option.getD_some, Value.toString, String.toList_ofList, read]
    · have satisfied := satisfiesClause_order order inherited policy field number
      rw [same] at satisfied
      rw [List.forall_mem_singleton, satisfied]
      refine ⟨fun holds other inside => ?_, fun holds => holds limit rfl⟩
      rwa [← Option.some.inj inside]

/-- The key text of a bracket is read back into its two bounds. -/
theorem splitOnDouble_range (bracket : RangeMatch) :
    Text.splitOnDouble '.' (RowMatch.range bracket).keyPart.toList =
      [(boundText "-inf" bracket.minimum).toList, (boundText "+inf" bracket.maximum).toList] := by
  have tight : ∀ (unbounded : String) (bound : Option Bound),
      unbounded.toList.count '.' ≤ 1 → unbounded.toList.getLast? ≠ some '.' →
      (boundText unbounded bound).toList.count '.' ≤ 1 ∧
        (boundText unbounded bound).toList.getLast? ≠ some '.' := by
    intro unbounded bound few last
    cases bound with
    | none => exact ⟨few, last⟩
    | some limit =>
      obtain ⟨-, -, -, count, front, digit, text, isDigit⟩ := bound_text limit
      rw [boundText, Option.map_some, Option.getD_some, Value.toString, String.toList_ofList]
      refine ⟨count, ?_⟩
      rw [text, List.getLast?_append, List.getLast?_singleton]
      intro same
      have point : digit = '.' := Option.some.inj same
      rw [point] at isDigit
      cases isDigit
  obtain ⟨few, last⟩ := tight "-inf" bracket.minimum (by decide) (by decide)
  have single := Text.splitOnDouble_single
    (tight "+inf" bracket.maximum (by decide) (by decide)).1
  have parts : (RowMatch.range bracket).keyPart.toList =
      (boundText "-inf" bracket.minimum).toList ++
        '.' :: '.' :: (boundText "+inf" bracket.maximum).toList := by
    simp [RowMatch.keyPart]
  rw [parts, Text.splitOnDouble_append _ few last, single]

/-- A policy satisfies both bounds of a bracket exactly when the bracket describes it. -/
theorem bounds_described (inherited : InheritedMembers) (policy : SyntheticPolicy)
    (field : String) (bracket : RangeMatch) :
    ((∀ limit ∈ bracket.minimum, ∃ own, policy.attribute inherited field = some own ∧
        ∀ number ∈ own.number?, numbersSatisfy .gte number limit.toDecimal = true) ∧
      ∀ limit ∈ bracket.maximum, ∃ own, policy.attribute inherited field = some own ∧
        ∀ number ∈ own.number?, numbersSatisfy .lte number limit.toDecimal = true) ↔
      KeyDescribed inherited policy ⟨field, .range⟩ (.range bracket) := by
  have reads : ∀ first second : Decimal, (first.lt second != .ok true) = true ↔
      first.lt second ≠ .ok true := fun _ _ => bne_iff_ne
  unfold KeyDescribed
  constructor
  · rintro ⟨lows, highs⟩
    have present : ∃ own, policy.attribute inherited field = some own := by
      rcases bracket.bounded with bounded | bounded
      · obtain ⟨limit, found⟩ := Option.isSome_iff_exists.mp bounded
        obtain ⟨own, held, -⟩ := lows limit found
        exact ⟨own, held⟩
      · obtain ⟨limit, found⟩ := Option.isSome_iff_exists.mp bounded
        obtain ⟨own, held, -⟩ := highs limit found
        exact ⟨own, held⟩
    obtain ⟨own, held⟩ := present
    refine ⟨own, held, fun number isNumber => ⟨fun low found => ?_, fun high found => ?_⟩⟩
    · obtain ⟨other, same, holds⟩ := lows low found
      rw [held] at same
      obtain rfl := Option.some.inj same
      exact (reads _ _).mp (holds number isNumber)
    · obtain ⟨other, same, holds⟩ := highs high found
      rw [held] at same
      obtain rfl := Option.some.inj same
      exact (reads _ _).mp (holds number isNumber)
  · rintro ⟨own, held, within⟩
    refine ⟨fun low found => ⟨own, held, fun number isNumber => ?_⟩,
      fun high found => ⟨own, held, fun number isNumber => ?_⟩⟩
    · exact (reads _ _).mpr ((within number isNumber).1 low found)
    · exact (reads _ _).mpr ((within number isNumber).2 high found)

/-- The clauses of a matched key hold for exactly the policies the key describes. -/
theorem partClauses_key {dimension : TableDimension} {key : RowMatch} {value : Option Value}
    (matched : keyMatches dimension key value = .ok true) :
    ∃ clauses, partClauses dimension key.keyPart.toList = .ok clauses ∧
      ∀ (inherited : InheritedMembers) (policy : SyntheticPolicy),
        (∀ clause ∈ clauses, satisfiesClause inherited policy clause = true) ↔
          KeyDescribed inherited policy dimension key := by
  obtain ⟨field, lookupType⟩ := dimension
  cases value with
  | none => cases matched
  | some value =>
    cases key with
    | exact literal =>
      cases lookupType with
      | range => cases matched
      | exact =>
        refine ⟨_, rfl, fun inherited policy => ?_⟩
        rw [List.forall_mem_singleton]
        unfold satisfiesClause KeyDescribed
        cases policy.attribute inherited field with
        | none =>
          refine ⟨fun holds => absurd holds Bool.false_ne_true, ?_⟩
          rintro ⟨own, missing, -⟩
          cases missing
        | some own =>
          have text : valueSatisfies .eq own (.str (String.ofList
              (RowMatch.exact literal).keyPart.toList)) = true ↔
              own.text = literal.toValue.text := by
            have written : (RowMatch.exact literal).keyPart.toList = literal.toValue.text := by
              simp [RowMatch.keyPart, Value.toString]
            unfold valueSatisfies
            rw [written]
            cases own.number? <;>
              simp [Value.number?, textsSatisfy, Value.text]
          refine ⟨fun holds => ⟨own, rfl, text.mp holds⟩, ?_⟩
          rintro ⟨other, same, holds⟩
          cases same
          exact text.mpr holds
    | range bracket =>
      cases lookupType with
      | exact => cases matched
      | range =>
        obtain ⟨lows, readLow, holdLow⟩ := boundClause_optional "-inf" bracket.minimum
          (fun _ same => Option.some.inj same ▸ rfl) (.inl rfl) field
        obtain ⟨highs, readHigh, holdHigh⟩ := boundClause_optional "+inf" bracket.maximum
          (fun _ same => Option.some.inj same ▸ rfl) (.inr rfl) field
        refine ⟨lows ++ highs, ?_, fun inherited policy => ?_⟩
        · unfold partClauses
          dsimp only
          rw [splitOnDouble_range]
          dsimp only
          rw [readLow, readHigh]
          rfl
        · rw [List.forall_mem_append, holdLow, holdHigh]
          exact bounds_described inherited policy field bracket

/-- The key text of a row without bars is split into the texts of its keys. -/
theorem formatMatchKey_parts {row : TableRow} (keyed : row.rowMatches ≠ [])
    (plain : ∀ key ∈ row.rowMatches, '|' ∉ key.keyPart.toList) :
    (formatMatchKey row).toList.splitOn '|' =
      row.rowMatches.map fun key => key.keyPart.toList := by
  rw [formatMatchKey, String.toList_intercalate, List.map_map]
  refine List.splitOn_intercalate '|' ?_ (by simpa using keyed)
  intro text inside
  obtain ⟨key, found, rfl⟩ := List.mem_map.mp inside
  exact plain key found

/-- The clauses of a matching row hold for exactly the policies its keys describe. -/
theorem rowClauses_described {dimensions : List TableDimension} {row : TableRow}
    {lookup : String → Option Value} (keyed : row.rowMatches ≠ [])
    (plain : ∀ key ∈ row.rowMatches, '|' ∉ key.keyPart.toList)
    (selected : rowMatches lookup dimensions row.rowMatches = .ok true) :
    ∃ clauses, rowClauses dimensions (formatMatchKey row) = .ok clauses ∧
      ∀ (inherited : InheritedMembers) (policy : SyntheticPolicy),
        (∀ clause ∈ clauses, satisfiesClause inherited policy clause = true) ↔
          ∀ pair ∈ dimensions.zip row.rowMatches, KeyDescribed inherited policy pair.1 pair.2 := by
  have traversed : ∀ pairs : List (TableDimension × RowMatch),
      (∀ pair ∈ pairs, keyMatches pair.1 pair.2 (lookup pair.1.inputRef) = .ok true) →
      ∃ parts, (pairs.map fun pair => (pair.1, pair.2.keyPart.toList)).mapM
          (fun pair => partClauses pair.1 pair.2) = .ok parts ∧
        ∀ (inherited : InheritedMembers) (policy : SyntheticPolicy),
          (∀ clause ∈ parts.flatten, satisfiesClause inherited policy clause = true) ↔
            ∀ pair ∈ pairs, KeyDescribed inherited policy pair.1 pair.2 := by
    intro pairs
    induction pairs with
    | nil => exact fun _ => ⟨[], rfl, fun _ _ => ⟨fun _ _ member => absurd member
        List.not_mem_nil, fun _ _ member => absurd member List.not_mem_nil⟩⟩
    | cons pair rest ih =>
      intro matched
      obtain ⟨part, read, described⟩ := partClauses_key (matched pair List.mem_cons_self)
      obtain ⟨parts, readRest, describedRest⟩ := ih fun other member =>
        matched other (List.mem_cons_of_mem _ member)
      refine ⟨part :: parts, ?_, fun inherited policy => ?_⟩
      · rw [List.map_cons, List.mapM_cons, read, readRest]
        rfl
      · rw [List.flatten_cons, List.forall_mem_append, described, describedRest,
          List.forall_mem_cons]
  have split := formatMatchKey_parts keyed plain
  obtain ⟨parts, read, described⟩ := traversed (dimensions.zip row.rowMatches)
    (keyMatches_of_row selected)
  refine ⟨parts.flatten, ?_, described⟩
  unfold rowClauses
  rw [split, List.zip_map_right]
  have mapped : (dimensions.zip row.rowMatches).map
      (fun pair => (pair.1, pair.2.keyPart.toList)) =
      (dimensions.zip row.rowMatches).map (Prod.map id fun key => key.keyPart.toList) := rfl
  rw [← mapped, read]
  rfl

/-- Reported rows are differences of rows of the left table. -/
theorem compareRateTables_type {left right : RateTable} {difference : SemanticDifference}
    (reported : difference ∈ compareRateTables left right) :
    difference.differenceType.IsRow ∧ difference.nodeId = left.id := by
  obtain ⟨key, -, member⟩ := List.mem_flatMap.mp reported
  generalize lastWith formatMatchKey left.rows key = one at member
  generalize lastWith formatMatchKey right.rows key = two at member
  cases one with
  | none =>
    cases two with
    | none => cases member
    | some other =>
      obtain rfl := List.mem_singleton.mp member
      exact ⟨trivial, rfl⟩
  | some row =>
    cases two with
    | none =>
      obtain rfl := List.mem_singleton.mp member
      exact ⟨trivial, rfl⟩
    | some other =>
      unfold compareRows at member
      dsimp only at member
      split at member
      · obtain rfl := List.mem_singleton.mp member
        exact ⟨trivial, rfl⟩
      · cases member

/-- The predicate of a row has the clauses of its key text. -/
theorem derivePredicate_row {package : PackageContent} {difference : SemanticDifference}
    (type : difference.differenceType.IsRow) {table : RateTable}
    (found : package.tables.find? (·.id == difference.nodeId) = some table) {key : String}
    (named : difference.dimensionKey = some key) {clauses : List PredicateClause}
    (read : rowClauses table.dimensions key = .ok clauses) :
    derivePredicate difference package =
      .ok { globalPredicate difference with clauses := clauses } := by
  unfold derivePredicate
  cases kind : difference.differenceType with
  | tableRowChange | tableRowMissing | tableRowExtra =>
    dsimp only
    rw [found]
    dsimp only
    rw [named, Option.getD_some, read]
    rfl
  | _ =>
    rw [kind] at type
    exact type.elim

/-- Whether a predicate is derived of a difference and matches a policy. -/
def PolicyCovered (inherited : InheritedMembers) (package : PackageContent)
    (difference : SemanticDifference) (policy : SyntheticPolicy) : Prop :=
  ∃ predicate, derivePredicate difference package = .ok predicate ∧
    matchesPredicate inherited policy predicate = true

/-- Table of one deductible and its factor. -/
def deductibleTable (key : Literal) (factor : Nat) : RateTable where
  id := "deductible_factors"
  dimensions := [⟨"deductible", .exact⟩]
  rows := [⟨[.exact key], ⟨false, factor, 0⟩, none⟩]
  effectivePeriod := none
  requiresTotalCoverage := false
  defaultValue := none
  dimensioned := .inl rfl
  keyed := by
    intro row member
    rw [List.mem_singleton.mp member]
    rfl

/-- A required input of integers without bounds. -/
def integerInput (id : String) : PricingInput where
  id := id
  dataType := .integer
  required := true
  allowedValues := none
  minimum := none
  maximum := none
  ordered := rfl
  unrestricted := nofun

/-- The flat package with the deductible as an input and a table of it. -/
def deductibleContent (key : Literal) : PackageContent :=
  { flatPackage.toPackageContent with
    inputs := [integerInput "deductible"]
    tables := [deductibleTable key 1] }

/-- Package of the deductible of one thousand. -/
def wholePackage : IPIRPackage where
  toPackageContent := deductibleContent (.int 1000)
  valid := by decide

/-- The same deductible, written with a decimal place. -/
def pointedKey : Literal := .decimal ⟨false, 10000, -1⟩

/-- Package of the deductible with a decimal place. -/
def pointedPackage : IPIRPackage where
  toPackageContent := deductibleContent pointedKey
  valid := by decide

/-- Difference of the factors of one deductible. -/
def deductibleDifference (key : Literal) : SemanticDifference :=
  rowDifference "deductible_factors" key.toValue.toString "factor" .tableRowChange
    (some ⟨[.exact key], ⟨false, 1, 0⟩, none⟩) (some ⟨[.exact key], ⟨false, 2, 0⟩, none⟩)

end RateGuard
