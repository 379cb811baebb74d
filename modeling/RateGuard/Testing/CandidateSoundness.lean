import RateGuard.Portfolio.PredicateEvaluator
import RateGuard.Testing.PlanBounds

/-!
# Witnesses of range predicates

When candidates are generated at all, and when the values around the range of a predicate are true
witnesses of it: those at its bounds satisfy it, and those just outside do not.
-/

open DecimalFloat CalendarDate TopologicalSort Outcome

namespace RateGuard

section Values

/-- An assigned value is found. -/
theorem lookup_assignEntry_self (entries : List (String × Value)) (id : String) (value : Value) :
    (assignEntry entries id value).lookup id = some value := by
  unfold assignEntry
  induction entries with
  | nil => simp
  | cons entry rest ih =>
    obtain ⟨key, old⟩ := entry
    by_cases same : key = id
    · simp [same]
    · have apart : (id == key) = false := by simpa using Ne.symm same
      by_cases known : id ∈ rest.map Prod.fst
      · have listed : id ∈ ((key, old) :: rest).map Prod.fst := List.mem_cons_of_mem _ known
        rw [if_pos known] at ih
        rw [if_pos listed, List.map_cons, if_neg same, List.lookup_cons, apart]
        exact ih
      · have unlisted : id ∉ ((key, old) :: rest).map Prod.fst := by
          simpa [Ne.symm same] using known
        rw [if_neg known] at ih
        rw [if_neg unlisted, List.cons_append, List.lookup_cons, apart]
        exact ih

/-- Other values are found as before. -/
theorem lookup_assignEntry_other (entries : List (String × Value)) {id other : String}
    (apart : other ≠ id) (value : Value) :
    (assignEntry entries id value).lookup other = entries.lookup other := by
  have different : (other == id) = false := by simpa using apart
  unfold assignEntry
  by_cases known : id ∈ entries.map Prod.fst
  · rw [if_pos known]
    clear known
    induction entries with
    | nil => rfl
    | cons entry rest ih =>
      obtain ⟨key, old⟩ := entry
      rw [List.map_cons]
      by_cases same : key = id
      · rw [if_pos same, List.lookup_cons, List.lookup_cons, same, different]
        exact ih
      · rw [if_neg same, List.lookup_cons, List.lookup_cons, ih]
  · rw [if_neg known]
    clear known
    induction entries with
    | nil => simp [apart]
    | cons entry rest ih =>
      rw [List.cons_append, List.lookup_cons, List.lookup_cons, ih]

/-- A traversal finds all results when every step has one. -/
theorem mapM_isSome_iff {α β : Type} {step : α → Option β} {values : List α} :
    (values.mapM step).isSome = true ↔ ∀ value ∈ values, (step value).isSome = true := by
  induction values with
  | nil => simp
  | cons value rest ih =>
    rw [List.mapM_cons, List.forall_mem_cons, ← ih]
    cases step value with
    | none => simp
    | some result =>
      cases rest.mapM step with
      | none => simp
      | some results => simp

/-- The schema accepts every value. -/
def ProbeValues.Accepted (values : ProbeValues) : Prop :=
  ∀ entry ∈ values.entries, entry.2.riskValue.isSome = true

/-- Accepted values have a risk. -/
theorem ProbeValues.risk_isOk_iff (values : ProbeValues) :
    values.risk.isOk = true ↔ values.Accepted := by
  have entries : (values.entries.mapM acceptEntry).isSome = true ↔ values.Accepted := by
    rw [mapM_isSome_iff]
    unfold ProbeValues.Accepted acceptEntry
    simp only [Option.isSome_map]
  rw [← entries]
  unfold ProbeValues.risk
  split
  · next found => simp [found, Except.isOk, Except.toBool]
  · next missing => simp [missing, Except.isOk, Except.toBool]

/-- An assignment of an accepted value keeps values accepted. -/
theorem ProbeValues.Accepted.set {values : ProbeValues} (accepted : values.Accepted) (id : String)
    {value : Value} (accepts : value.riskValue.isSome = true) :
    (values.set id value).Accepted := by
  intro entry member
  dsimp only [ProbeValues.set, assignEntry] at member
  split at member
  · obtain ⟨old, listed, rfl⟩ := List.mem_map.mp member
    split
    · exact accepts
    · exact accepted old listed
  · rcases List.mem_append.mp member with old | last
    · exact accepted entry old
    · rw [List.mem_singleton.mp last]
      exact accepts

/-- A risk value is accepted. -/
theorem RiskValue.toValue_accepted (value : RiskValue) : value.toValue.riskValue.isSome = true := by
  cases value with
  | literal literal =>
    cases literal with
    | int value => rfl
    | decimal value => rfl
    | str value => rfl
    | bool value => rfl
  | date value => rfl

/-- The values of a risk are accepted. -/
theorem RiskInput.probeValues_accepted (risk : RiskInput) : risk.probeValues.Accepted := by
  intro entry member
  obtain ⟨original, _, rfl⟩ := List.mem_map.mp member
  exact RiskValue.toValue_accepted original.2

end Values

/-- Whether values satisfy a clause; without the field they do not. -/
def ProbeValues.satisfies (values : ProbeValues) (clause : PredicateClause) : Bool :=
  match values.entries.lookup clause.field with
  | none => false
  | some own => valueSatisfies clause.operator own clause.value.toValue

/-- An integer satisfies the clauses of a predicate about one field. -/
def FieldAdmits (predicate : ImpactPredicate) (field : String) (value : Int) : Prop :=
  ∀ clause ∈ predicate.clauses, clause.field = field →
    valueSatisfies clause.operator (.int value) clause.value.toValue = true

/-- Values satisfy the clauses of a predicate about other fields. -/
def OthersAdmit (predicate : ImpactPredicate) (field : String) (values : ProbeValues) : Prop :=
  ∀ clause ∈ predicate.clauses, clause.field ≠ field → values.satisfies clause = true

/-- Values with one field set satisfy a predicate when the other fields do and the set value
does. -/
theorem satisfies_set_iff (predicate : ImpactPredicate) (field : String) (values : ProbeValues)
    (value : Int) :
    (∀ clause ∈ predicate.clauses, (values.set field (.int value)).satisfies clause = true) ↔
      OthersAdmit predicate field values ∧ FieldAdmits predicate field value := by
  have own : ∀ clause : PredicateClause, clause.field = field →
      (values.set field (.int value)).satisfies clause =
        valueSatisfies clause.operator (.int value) clause.value.toValue := by
    intro clause named
    have found := lookup_assignEntry_self values.entries field (.int value)
    unfold ProbeValues.satisfies ProbeValues.set
    rw [named, found]
  have other : ∀ clause : PredicateClause, clause.field ≠ field →
      (values.set field (.int value)).satisfies clause = values.satisfies clause := by
    intro clause apart
    have kept := lookup_assignEntry_other values.entries apart (.int value)
    unfold ProbeValues.satisfies ProbeValues.set
    rw [kept]
  constructor
  · intro all
    refine ⟨fun clause member apart => ?_, fun clause member named => ?_⟩
    · rw [← other clause apart]
      exact all clause member
    · rw [← own clause named]
      exact all clause member
  · rintro ⟨others, admits⟩ clause member
    by_cases named : clause.field = field
    · rw [own clause named]
      exact admits clause member named
    · rw [other clause named]
      exact others clause member named

section Domain

variable {package : PackageContent} {field : String}

/-- Raising to a declared minimum always fails, or always raises to the same integer, if any. -/
theorem clampBelow_cases (input : PricingInput) :
    (∀ value, (clampBelow input value).isOk = false) ∨
      ∃ low : Option Int, ∀ value, clampBelow input value = .ok (low.elim value (max · value)) := by
  unfold clampBelow
  cases input.minimum with
  | none => exact .inr ⟨none, fun value => rfl⟩
  | some bound =>
    dsimp only
    cases textInteger bound.toValue with
    | error failure => exact .inl fun value => rfl
    | ok low => exact .inr ⟨some low, fun value => rfl⟩

/-- Lowering to a declared maximum always fails, or always lowers to the same integer, if any. -/
theorem clampAbove_cases (input : PricingInput) :
    (∀ value, (clampAbove input value).isOk = false) ∨
      ∃ high : Option Int, ∀ value, clampAbove input value = .ok (high.elim value (min · value)) := by
  unfold clampAbove
  cases input.maximum with
  | none => exact .inr ⟨none, fun value => rfl⟩
  | some bound =>
    dsimp only
    cases textInteger bound.toValue with
    | error failure => exact .inl fun value => rfl
    | ok high => exact .inr ⟨some high, fun value => rfl⟩

/-- A value raised to an optional minimum and lowered to an optional maximum. -/
def clampWith (low high : Option Int) (value : Int) : Int :=
  high.elim (low.elim value (max · value)) (min · (low.elim value (max · value)))

/-- Clamping into a declared domain always fails, or always clamps to the same bounds. -/
theorem clampToDomain_cases (package : PackageContent) (field : String) :
    (∀ value, (clampToDomain package field value).isOk = false) ∨
      ∃ low high, ∀ value, clampToDomain package field value = .ok (clampWith low high value) := by
  unfold clampToDomain
  cases package.inputs.find? (·.id == field) with
  | none => exact .inr ⟨none, none, fun value => rfl⟩
  | some input =>
    dsimp only
    rcases clampBelow_cases input with fails | ⟨low, raises⟩
    · left
      intro value
      have failed := fails value
      cases ran : clampBelow input value with
      | error failure => rfl
      | ok raised =>
        rw [ran] at failed
        cases failed
    · rcases clampAbove_cases input with fails | ⟨high, lowers⟩
      · left
        intro value
        rw [raises value]
        exact fails _
      · right
        refine ⟨low, high, fun value => ?_⟩
        rw [raises value]
        exact lowers _

/-- An integer is in the declared domain of a field: clamping leaves it. -/
def InDeclaredDomain (package : PackageContent) (field : String) (value : Int) : Prop :=
  clampToDomain package field value = .ok value

/-- Neighbours that clamping keeps apart are both in the domain. -/
theorem inDeclaredDomain_of_apart {value low high : Int}
    (below : clampToDomain package field value = .ok low)
    (above : clampToDomain package field (value + 1) = .ok high) (apart : low ≠ high) :
    low = value ∧ high = value + 1 := by
  rcases clampToDomain_cases package field with fails | ⟨least, most, clamps⟩
  · have failed := fails value
    rw [below] at failed
    cases failed
  · rw [clamps value] at below
    rw [clamps (value + 1)] at above
    have first := Except.ok.inj below
    have second := Except.ok.inj above
    unfold clampWith at first second
    cases least with
    | none =>
      cases most with
      | none =>
        simp only [Option.elim] at first second
        omega
      | some bound =>
        simp only [Option.elim] at first second
        omega
    | some bound =>
      cases most with
      | none =>
        simp only [Option.elim] at first second
        omega
      | some other =>
        simp only [Option.elim] at first second
        omega

/-- The middle of two integers of a domain is in the domain. -/
theorem InDeclaredDomain.middle {one other : Int} (first : InDeclaredDomain package field one)
    (second : InDeclaredDomain package field other) :
    InDeclaredDomain package field ((one + other) / 2) := by
  unfold InDeclaredDomain at *
  rcases clampToDomain_cases package field with fails | ⟨least, most, clamps⟩
  · have failed := fails one
    rw [first] at failed
    cases failed
  · rw [clamps] at first second ⊢
    have low := Except.ok.inj first
    have high := Except.ok.inj second
    refine congrArg Except.ok ?_
    unfold clampWith at low high ⊢
    cases least with
    | none =>
      cases most with
      | none => rfl
      | some bound =>
        simp only [Option.elim] at low high ⊢
        omega
    | some bound =>
      cases most with
      | none =>
        simp only [Option.elim] at low high ⊢
        omega
      | some other =>
        simp only [Option.elim] at low high ⊢
        omega

end Domain

section Ranges

variable {description : SemanticDifference → String} {diffResult : SemanticDiffResult}
  {package : PackageContent} {base : ProbeValues} {date : Date}

/-- Scenarios are true witnesses of a predicate: those of a boundary satisfy all clauses, controls
do not. -/
def TrueWitnesses (predicate : ImpactPredicate) (scenarios : List TestScenario) : Prop :=
  ∀ scenario ∈ scenarios,
    (scenario.classification = .boundary → ∀ clause ∈ predicate.clauses,
      scenario.riskValues.probeValues.satisfies clause = true) ∧
    (scenario.classification = .control → ∃ clause ∈ predicate.clauses,
      scenario.riskValues.probeValues.satisfies clause = false)

/-- A bound that its field's clauses admit, with a neighbour that they do not, both in the
declared domain. -/
structure TightBound (package : PackageContent) (predicate : ImpactPredicate) (field : String)
    (inside outside : Int) : Prop where
  /-- The clauses about the field hold at the bound. -/
  admits : FieldAdmits predicate field inside
  /-- One of them fails at the neighbour. -/
  excludes : ¬FieldAdmits predicate field outside
  /-- Clamping leaves the bound. -/
  inDomain : InDeclaredDomain package field inside
  /-- Clamping leaves the neighbour. -/
  neighbour : InDeclaredDomain package field outside

/-- The range of a predicate, if it has one, can be witnessed around a base policy: its bounds are
written as integers, the base policy satisfies the clauses about other fields, and the bounds are
the inclusive ends of the field's own clauses, inside of its declared domain. -/
def RangeFaithful (package : PackageContent) (base : ProbeValues) (predicate : ImpactPredicate) :
    Prop :=
  ∀ field, (predicateRange predicate).field.filter (· ≠ "") = some field →
    ((predicateRange predicate).minimum.isSome || (predicateRange predicate).maximum.isSome) →
    ∃ low high, boundInteger (predicateRange predicate).minimum = .ok low ∧
      boundInteger (predicateRange predicate).maximum = .ok high ∧
      OthersAdmit predicate field base ∧
      (∀ value, low = some value → TightBound package predicate field value (value - 1)) ∧
      (∀ value, high = some value → TightBound package predicate field value (value + 1)) ∧
      ∀ one other, low = some one → high = some other →
        FieldAdmits predicate field ((one + other) / 2)

/-- What a value around a range must do: satisfy the predicate, or not if it is a control. -/
def Witnesses (predicate : ImpactPredicate) (field : String) (base : ProbeValues)
    (label : BoundaryLabel) (value : Int) : Prop :=
  if label.isControl then ¬(OthersAdmit predicate field base ∧ FieldAdmits predicate field value)
  else OthersAdmit predicate field base ∧ FieldAdmits predicate field value

/-- The candidate of a value has that value, clamped, in its field, and is a control exactly for
labels of controls. -/
theorem rangeCandidate_spec {field : String} {bound : BoundaryLabel × Int}
    {scenario : TestScenario}
    (built : rangeCandidate description diffResult package base date field bound = .ok scenario) :
    ∃ value, clampToDomain package field bound.2 = .ok value ∧
      scenario.riskValues.probeValues = base.set field (.int value) ∧
      scenario.classification = if bound.1.isControl then .control else .boundary := by
  obtain ⟨value, clamped, built⟩ := bind_eq_ok built
  obtain ⟨risk, accepted, built⟩ := bind_eq_ok built
  refine ⟨value, clamped, ?_⟩
  rw [← Except.ok.inj built]
  exact ⟨ProbeValues.risk_probeValues accepted, rfl⟩

/-- With an accepted base, a value that can be clamped has a candidate. -/
theorem rangeCandidate_isOk (accepted : base.Accepted) {field : String}
    {bound : BoundaryLabel × Int} {value : Int}
    (clamped : clampToDomain package field bound.2 = .ok value) :
    (rangeCandidate description diffResult package base date field bound).isOk = true := by
  have kept : (base.set field (.int value)).Accepted := accepted.set field rfl
  obtain ⟨risk, accepts⟩ := exists_of_isOk ((ProbeValues.risk_isOk_iff _).mpr kept)
  unfold rangeCandidate draftCandidate
  rw [clamped]
  dsimp only [bind, Except.bind]
  rw [accepts]
  rfl

/-- A candidate is a true witness when its value does what it must. -/
theorem witnesses_iff (predicate : ImpactPredicate) {field : String} {label : BoundaryLabel}
    {value : Int} {scenario : TestScenario}
    (values : scenario.riskValues.probeValues = base.set field (.int value))
    (classified : scenario.classification = if label.isControl then .control else .boundary) :
    TrueWitnesses predicate [scenario] ↔ Witnesses predicate field base label value := by
  unfold TrueWitnesses Witnesses
  rw [List.forall_mem_singleton, values, classified, ← satisfies_set_iff]
  cases label.isControl with
  | false => simp
  | true => simp

/-- True witnesses one by one. -/
theorem trueWitnesses_iff (predicate : ImpactPredicate) (scenarios : List TestScenario) :
    TrueWitnesses predicate scenarios ↔
      ∀ scenario ∈ scenarios, TrueWitnesses predicate [scenario] := by
  unfold TrueWitnesses
  simp only [List.forall_mem_singleton]

/-- The candidates around a range are true witnesses when every value is. -/
theorem bounds_trueWitnesses_iff (accepted : base.Accepted) (predicate : ImpactPredicate)
    (field : String) (bounds : List (BoundaryLabel × Int)) :
    (∃ scenarios, bounds.mapM (rangeCandidate description diffResult package base date field) =
        .ok scenarios ∧ TrueWitnesses predicate scenarios) ↔
      ∀ bound ∈ bounds, ∃ value, clampToDomain package field bound.2 = .ok value ∧
        Witnesses predicate field base bound.1 value := by
  constructor
  · rintro ⟨scenarios, traversed, witnesses⟩ bound member
    obtain ⟨scenario, listed, built⟩ := mapM_step traversed member
    obtain ⟨value, clamped, values, classified⟩ := rangeCandidate_spec built
    refine ⟨value, clamped, (witnesses_iff predicate values classified).mp ?_⟩
    exact (trueWitnesses_iff predicate scenarios).mp witnesses scenario listed
  · intro all
    have returns : (bounds.mapM
        (rangeCandidate description diffResult package base date field)).isOk = true := by
      refine mapM_isOk_iff.mpr fun bound member => ?_
      obtain ⟨value, clamped, _⟩ := all bound member
      exact rangeCandidate_isOk accepted clamped
    obtain ⟨scenarios, traversed⟩ := exists_of_isOk returns
    refine ⟨scenarios, traversed, (trueWitnesses_iff predicate scenarios).mpr ?_⟩
    intro scenario listed
    obtain ⟨bound, member, built⟩ := mapM_source traversed listed
    obtain ⟨value, clamped, values, classified⟩ := rangeCandidate_spec built
    obtain ⟨other, again, holds⟩ := all bound member
    obtain rfl := Except.ok.inj (clamped.symm.trans again)
    exact (witnesses_iff predicate values classified).mpr holds

/-- Only a missing bound has no integer. -/
theorem boundInteger_none {bound : Option RiskValue} (read : boundInteger bound = .ok none) :
    bound = none := by
  cases bound with
  | none => rfl
  | some value =>
    unfold boundInteger at read
    dsimp only at read
    cases text : textInteger value.toValue with
    | error failure =>
      rw [text] at read
      cases read
    | ok number =>
      rw [text] at read
      cases Except.ok.inj read

/-- The values around a range. -/
theorem mem_bounds {minimum maximum : Option RiskValue} {low high : Option Int}
    (least : boundInteger minimum = .ok low) (most : boundInteger maximum = .ok high)
    {bounds : List (BoundaryLabel × Int)}
    (generated : generateRangeBoundaryValues minimum maximum = .ok bounds)
    (bound : BoundaryLabel × Int) :
    bound ∈ bounds ↔
      (∃ value, low = some value ∧ (bound = (.justBelow, value - 1) ∨ bound = (.lowerBound, value))) ∨
      (∃ one other, low = some one ∧ high = some other ∧ bound = (.interior, (one + other) / 2)) ∨
      ∃ value, high = some value ∧ (bound = (.upperBound, value) ∨ bound = (.justAbove, value + 1)) := by
  unfold generateRangeBoundaryValues at generated
  rw [least, most] at generated
  rw [← Except.ok.inj generated]
  cases low with
  | none =>
    cases high with
    | none => simp
    | some top => simp
  | some bottom =>
    cases high with
    | none => simp
    | some top => simp [or_assoc]

/-- Two neighbours that clamping must keep apart are witnesses exactly for a tight bound and a base
policy that satisfies the other clauses. -/
theorem tightBound_iff (predicate : ImpactPredicate) (field : String) {inside outside : Int}
    (next : outside = inside - 1 ∨ outside = inside + 1) :
    ((∃ value, clampToDomain package field inside = .ok value ∧
        (OthersAdmit predicate field base ∧ FieldAdmits predicate field value)) ∧
      ∃ value, clampToDomain package field outside = .ok value ∧
        ¬(OthersAdmit predicate field base ∧ FieldAdmits predicate field value)) ↔
      OthersAdmit predicate field base ∧ TightBound package predicate field inside outside := by
  constructor
  · rintro ⟨⟨one, first, others, admits⟩, other, second, excludes⟩
    have excluded : ¬FieldAdmits predicate field other := fun holds => excludes ⟨others, holds⟩
    have apart : one ≠ other := by
      rintro rfl
      exact excluded admits
    have fixed : one = inside ∧ other = outside := by
      rcases next with rfl | rfl
      · have second' : clampToDomain package field (inside - 1) = .ok other := second
        have first' : clampToDomain package field (inside - 1 + 1) = .ok one := by
          rw [Int.sub_add_cancel]
          exact first
        have both := inDeclaredDomain_of_apart second' first' apart.symm
        exact ⟨by omega, both.1⟩
      · exact inDeclaredDomain_of_apart first second apart
    obtain ⟨rfl, rfl⟩ := fixed
    exact ⟨others, admits, excluded, first, second⟩
  · rintro ⟨others, tight⟩
    exact ⟨⟨inside, tight.inDomain, others, tight.admits⟩, outside, tight.neighbour,
      fun both => tight.excludes both.2⟩

/-- The candidates of a predicate are generated and true witnesses exactly when its range, if it
has one, is faithful. -/
theorem rangeCandidates_true_iff (accepted : base.Accepted) (predicate : ImpactPredicate) :
    (∃ scenarios, rangeCandidates description diffResult package base date predicate =
        .ok scenarios ∧ TrueWitnesses predicate scenarios) ↔
      RangeFaithful package base predicate := by
  unfold rangeCandidates RangeFaithful
  dsimp only
  cases (predicateRange predicate).field.filter (· ≠ "") with
  | none =>
    refine ⟨fun _ field named => (by cases named), fun _ => ⟨[], rfl, ?_⟩⟩
    intro scenario member
    cases member
  | some field =>
    dsimp only
    by_cases ranged : ((predicateRange predicate).minimum.isSome ||
        (predicateRange predicate).maximum.isSome) = true
    · rw [if_pos ranged]
      constructor
      · rintro ⟨scenarios, generated, witnesses⟩ _ ⟨⟩ _
        obtain ⟨bounds, bounded, traversed⟩ := bind_eq_ok generated
        have all := (bounds_trueWitnesses_iff accepted predicate field bounds).mp
          ⟨scenarios, traversed, witnesses⟩
        obtain ⟨low, least, opened⟩ := bind_eq_ok bounded
        obtain ⟨high, most, _⟩ := bind_eq_ok opened
        have listed := mem_bounds least most bounded
        have lower : ∀ value, low = some value → OthersAdmit predicate field base ∧
            TightBound package predicate field value (value - 1) := by
          intro value bound
          refine (tightBound_iff predicate field (.inl rfl)).mp ⟨?_, ?_⟩
          · exact all (.lowerBound, value) ((listed _).mpr (.inl ⟨value, bound, .inr rfl⟩))
          · exact all (.justBelow, value - 1) ((listed _).mpr (.inl ⟨value, bound, .inl rfl⟩))
        have upper : ∀ value, high = some value → OthersAdmit predicate field base ∧
            TightBound package predicate field value (value + 1) := by
          intro value bound
          refine (tightBound_iff predicate field (.inr rfl)).mp ⟨?_, ?_⟩
          · exact all (.upperBound, value) ((listed _).mpr (.inr (.inr ⟨value, bound, .inl rfl⟩)))
          · exact all (.justAbove, value + 1) ((listed _).mpr (.inr (.inr ⟨value, bound, .inr rfl⟩)))
        refine ⟨low, high, least, most, ?_, fun value bound => (lower value bound).2,
          fun value bound => (upper value bound).2, fun one other first second => ?_⟩
        · cases low with
          | some value => exact (lower value rfl).1
          | none =>
            cases high with
            | some value => exact (upper value rfl).1
            | none =>
              rw [boundInteger_none least, boundInteger_none most] at ranged
              cases ranged
        · obtain ⟨value, clamped, _, admits⟩ := all (.interior, (one + other) / 2)
            ((listed _).mpr (.inr (.inl ⟨one, other, first, second, rfl⟩)))
          have inside := (lower one first).2.inDomain.middle (upper other second).2.inDomain
          obtain rfl := Except.ok.inj (clamped.symm.trans inside)
          exact admits
      · intro faithful
        obtain ⟨low, high, least, most, others, lower, upper, middle⟩ := faithful field rfl ranged
        obtain ⟨bounds, bounded⟩ : ∃ bounds, generateRangeBoundaryValues
            (predicateRange predicate).minimum (predicateRange predicate).maximum =
              .ok bounds := by
          unfold generateRangeBoundaryValues
          rw [least, most]
          exact ⟨_, rfl⟩
        rw [bounded]
        refine (bounds_trueWitnesses_iff accepted predicate field bounds).mpr fun bound member => ?_
        rcases (mem_bounds least most bounded bound).mp member with
          ⟨value, found, rfl | rfl⟩ | ⟨one, other, first, second, rfl⟩ | ⟨value, found, rfl | rfl⟩
        · exact ((tightBound_iff predicate field (.inl rfl)).mpr ⟨others, lower value found⟩).2
        · exact ((tightBound_iff predicate field (.inl rfl)).mpr ⟨others, lower value found⟩).1
        · exact ⟨_, (lower one first).inDomain.middle (upper other second).inDomain, others,
            middle one other first second⟩
        · exact ((tightBound_iff predicate field (.inr rfl)).mpr ⟨others, upper value found⟩).1
        · exact ((tightBound_iff predicate field (.inr rfl)).mpr ⟨others, upper value found⟩).2
    · rw [if_neg ranged]
      refine ⟨fun _ other _ present => absurd present ranged, fun _ => ⟨[], rfl, ?_⟩⟩
      intro scenario member
      cases member

end Ranges

section Generation

variable {description : SemanticDifference → String} {diffResult : SemanticDiffResult}
  {package : PackageContent} {base : ProbeValues} {date : Date}

/-- Clauses set accepted values. -/
theorem ProbeValues.Accepted.satisfyClauses (accepted : base.Accepted)
    (clauses : List PredicateClause) : (RateGuard.satisfyClauses base clauses).Accepted := by
  unfold RateGuard.satisfyClauses
  induction clauses generalizing base with
  | nil => exact accepted
  | cons clause rest ih =>
    exact ih (accepted.set clause.field (RiskValue.toValue_accepted clause.value))

/-- Overrides set accepted values. -/
theorem ProbeValues.Accepted.overrideKnown (accepted : base.Accepted) :
    (RateGuard.overrideKnown base).Accepted := by
  have general : ∀ (overrides : List (String × Value)) (values : ProbeValues),
      (∀ override ∈ overrides, override.2.riskValue.isSome = true) → values.Accepted →
      (overrides.foldl (fun values override =>
        if (values.entries.map Prod.fst).contains override.1 then
          values.set override.1 override.2
        else values) values).Accepted := by
    intro overrides
    induction overrides with
    | nil => exact fun _ _ holds => holds
    | cons override rest ih =>
      intro values accepts holds
      refine ih _ (fun other member => accepts other (List.mem_cons_of_mem _ member)) ?_
      dsimp only
      split
      · exact holds.set override.1 (accepts override List.mem_cons_self)
      · exact holds
  refine general sequenceOverrides base (fun override member => ?_) accepted
  simp only [sequenceOverrides, List.mem_cons, List.not_mem_nil, or_false] at member
  rcases member with rfl | rfl | rfl
  · rfl
  · rfl
  · rfl

/-- Accepted values have a candidate. -/
theorem draftCandidate_isOk (accepted : base.Accepted) (date : Date) (name : String)
    (classification : ScenarioClassification) (targets : List SemanticDifference)
    (tags : List String) :
    (draftCandidate name base date classification targets tags).isOk = true := by
  obtain ⟨risk, accepts⟩ := exists_of_isOk ((ProbeValues.risk_isOk_iff base).mpr accepted)
  unfold draftCandidate
  rw [accepts]
  rfl

/-- The dates around the later start of a difference are in the calendar. -/
def StartsInCalendar (package : PackageContent) (difference : SemanticDifference) : Prop :=
  ∀ start, (rightDate difference).filter (package.effectivePeriod.start < ·) = some start →
    (daysAfter package.effectivePeriod.start 5).isOk = true ∧ (daysAfter start 5).isOk = true

/-- The candidates around a later start are generated exactly when these dates are. -/
theorem temporalCandidates_isOk_iff (accepted : base.Accepted) (difference : SemanticDifference) :
    (temporalCandidates package base difference).isOk = true ↔
      StartsInCalendar package difference := by
  unfold temporalCandidates StartsInCalendar
  cases (rightDate difference).filter (package.effectivePeriod.start < ·) with
  | none => exact ⟨fun _ start named => (by cases named), fun _ => rfl⟩
  | some start =>
    constructor
    · rintro returns _ ⟨⟩
      obtain ⟨candidates, generated⟩ := exists_of_isOk returns
      obtain ⟨before, first, generated⟩ := bind_eq_ok generated
      obtain ⟨after, second, _⟩ := bind_eq_ok generated
      rw [first, second]
      exact ⟨rfl, rfl⟩
    · intro dated
      obtain ⟨first, second⟩ := dated start rfl
      obtain ⟨before, early⟩ := exists_of_isOk first
      obtain ⟨after, late⟩ := exists_of_isOk second
      obtain ⟨one, drafted⟩ := exists_of_isOk (draftCandidate_isOk accepted before
        ("Temporal Effective Date Drift Pre-Window (" ++ difference.nodeId ++ ")") .temporal
        [difference] ["TEMPORAL", "PRE_WINDOW"])
      obtain ⟨other, redrafted⟩ := exists_of_isOk (draftCandidate_isOk accepted after
        ("Temporal Effective Date Drift Post-Window (" ++ difference.nodeId ++ ")") .temporal
        [difference] ["TEMPORAL", "POST_WINDOW"])
      dsimp only [bind, Except.bind]
      rw [early]
      dsimp only
      rw [late]
      dsimp only
      rw [drafted]
      dsimp only
      rw [redrafted]
      rfl

/-- A scenario is among candidates, under its own identifier or another. -/
def Listed (candidates : List TestScenario) (scenario : TestScenario) : Prop :=
  ∃ id, { scenario with id := id } ∈ candidates

/-- Numbered candidates are listed. -/
theorem listed_numberCandidates {drafts : List TestScenario} {scenario : TestScenario}
    (member : scenario ∈ drafts) (start : String) :
    Listed (numberCandidates start drafts) scenario := by
  rw [← List.zipIdx_map_fst 1 drafts] at member
  obtain ⟨placed, inside, rfl⟩ := List.mem_map.mp member
  exact ⟨_, List.mem_map.mpr ⟨placed, inside, rfl⟩⟩

/-- The candidates are generated, and those around the range of a predicate are true witnesses of
it. -/
def CandidatesSound (description : SemanticDifference → String) (diffResult : SemanticDiffResult)
    (predicates : List ImpactPredicate) (package : PackageContent) (baseRisk : Option RiskInput)
    (baseDate : Option Date) : Prop :=
  ∃ candidates base date,
    generateCandidateScenarios description diffResult predicates package baseRisk baseDate =
      .ok candidates ∧
    candidateBase package baseRisk = .ok base ∧ candidateDate package baseDate = .ok date ∧
    ∀ predicate ∈ predicates, ∃ scenarios,
      rangeCandidates description diffResult package base date predicate = .ok scenarios ∧
      (∀ scenario ∈ scenarios, Listed candidates scenario) ∧ TrueWitnesses predicate scenarios

/-- There are base values and a date to vary, all later starts are early enough in the calendar,
and the range of every predicate is faithful. -/
def CandidatesFaithful (diffResult : SemanticDiffResult) (predicates : List ImpactPredicate)
    (package : PackageContent) (baseRisk : Option RiskInput) (baseDate : Option Date) : Prop :=
  ∃ base date, candidateBase package baseRisk = .ok base ∧
    candidateDate package baseDate = .ok date ∧ base.Accepted ∧
    (∀ difference ∈ diffResult.differences, difference.differenceType = .effectiveDateChange →
      StartsInCalendar package difference) ∧
    ∀ predicate ∈ predicates, RangeFaithful package base predicate

/-- A predicate of equalities has a candidate. -/
theorem exactCandidate_isOk (accepted : base.Accepted) (date : Date)
    (predicate : ImpactPredicate) :
    (exactCandidate diffResult base date predicate).isOk = true :=
  draftCandidate_isOk (accepted.satisfyClauses predicate.clauses) date _ _ _ _

/-- Several predicates of equalities have a combined candidate. -/
theorem combinedCandidate_isOk (accepted : base.Accepted) (date : Date)
    (exact : List ImpactPredicate) :
    (combinedCandidate diffResult base date exact).isOk = true := by
  unfold combinedCandidate
  split
  · obtain ⟨candidate, drafted⟩ := exists_of_isOk (draftCandidate_isOk
      (accepted.satisfyClauses (exact.flatMap (·.clauses))) date "Combined Multi-Defect Scenario"
      .multiDefect (diffResult.differences.filter fun difference =>
        exact.any fun predicate => "pred_" ++ difference.id = predicate.id) ["MULTI_DEFECT"])
    rw [drafted]
    rfl
  · rfl

/-- Changed sequences have a candidate. -/
theorem orderCandidates_isOk (accepted : base.Accepted) (date : Date) :
    (orderCandidates diffResult base date).isOk = true := by
  unfold orderCandidates
  dsimp only
  split
  · rfl
  · obtain ⟨candidate, drafted⟩ := exists_of_isOk (draftCandidate_isOk accepted.overrideKnown date
      "Sequence Order Pre-Minimum Floor Scenario" .constraintOrder
      (diffResult.differences.filter (·.differenceType = .orderChange))
      ["SEQUENCE", "ORDER_MISMATCH"])
    rw [drafted]
    rfl

/-- The generation is sound exactly when its base, its dates and its ranges are faithful. -/
theorem generateCandidateScenarios_sound_iff (description : SemanticDifference → String)
    (diffResult : SemanticDiffResult) (predicates : List ImpactPredicate)
    (package : PackageContent) (baseRisk : Option RiskInput) (baseDate : Option Date) :
    CandidatesSound description diffResult predicates package baseRisk baseDate ↔
      CandidatesFaithful diffResult predicates package baseRisk baseDate := by
  constructor
  · rintro ⟨candidates, base, date, generated, based, dated, sound⟩
    obtain ⟨other, again, generated⟩ := bind_eq_ok generated
    obtain rfl := Except.ok.inj (based.symm.trans again)
    obtain ⟨day, twice, generated⟩ := bind_eq_ok generated
    obtain rfl := Except.ok.inj (dated.symm.trans twice)
    obtain ⟨baseline, drafted, generated⟩ := bind_eq_ok generated
    obtain ⟨ranges, _, generated⟩ := bind_eq_ok generated
    obtain ⟨isolated, _, generated⟩ := bind_eq_ok generated
    obtain ⟨combined, _, generated⟩ := bind_eq_ok generated
    obtain ⟨temporal, shifted, _⟩ := bind_eq_ok generated
    obtain ⟨risk, accepts, _⟩ := bind_eq_ok drafted
    have accepted : base.Accepted := (base.risk_isOk_iff).mp (by rw [accepts]; rfl)
    refine ⟨base, date, based, dated, accepted, fun difference member changed => ?_,
      fun predicate member => ?_⟩
    · have listed : difference ∈ diffResult.differences.filter
          (·.differenceType = .effectiveDateChange) :=
        List.mem_filter.mpr ⟨member, decide_eq_true changed⟩
      obtain ⟨part, _, found⟩ := mapM_step shifted listed
      exact (temporalCandidates_isOk_iff accepted difference).mp (by rw [found]; rfl)
    · obtain ⟨scenarios, found, _, witnesses⟩ := sound predicate member
      exact (rangeCandidates_true_iff accepted predicate).mp ⟨scenarios, found, witnesses⟩
  · rintro ⟨base, date, based, dated, accepted, starts, faithful⟩
    have witnesses : ∀ predicate ∈ predicates, ∃ scenarios,
        rangeCandidates description diffResult package base date predicate = .ok scenarios ∧
          TrueWitnesses predicate scenarios := fun predicate member =>
      (rangeCandidates_true_iff accepted predicate).mpr (faithful predicate member)
    have later : ∀ difference ∈ diffResult.differences.filter
        (·.differenceType = .effectiveDateChange),
        (temporalCandidates package base difference).isOk = true := by
      intro difference member
      obtain ⟨listed, changed⟩ := List.mem_filter.mp member
      exact (temporalCandidates_isOk_iff accepted difference).mpr
        (starts difference listed (of_decide_eq_true changed))
    have several : (combinedCandidate diffResult base date
        (predicates.filter isExactPredicate)).isOk = true := combinedCandidate_isOk accepted date _
    have sequences : (orderCandidates diffResult base date).isOk = true :=
      orderCandidates_isOk accepted date
    obtain ⟨baseline, drafted⟩ := exists_of_isOk
      (draftCandidate_isOk accepted date "Baseline Control Scenario" .control [] ["CONTROL"])
    obtain ⟨ranges, ranged⟩ := exists_of_isOk (mapM_isOk_iff.mpr fun predicate member => by
      obtain ⟨scenarios, found, _⟩ := witnesses predicate member
      exact (congrArg Except.isOk found).trans rfl)
    obtain ⟨isolated, single⟩ := exists_of_isOk (mapM_isOk_iff.mpr
      fun predicate (_ : predicate ∈ predicates.filter isExactPredicate) =>
        (exactCandidate_isOk accepted date predicate :
          (exactCandidate diffResult base date predicate).isOk = true))
    obtain ⟨combined, multiple⟩ := exists_of_isOk several
    obtain ⟨temporal, shifted⟩ := exists_of_isOk (mapM_isOk_iff.mpr later)
    obtain ⟨order, reordered⟩ := exists_of_isOk sequences
    have generated : ∃ candidates, generateCandidateScenarios description diffResult predicates
        package baseRisk baseDate = .ok candidates ∧
        ∀ scenario ∈ ranges.flatten, Listed candidates scenario := by
      unfold generateCandidateScenarios
      rw [based]
      dsimp only [bind, Except.bind]
      rw [dated]
      dsimp only
      rw [drafted]
      dsimp only
      rw [ranged]
      dsimp only
      rw [single]
      dsimp only
      rw [multiple]
      dsimp only
      rw [shifted]
      dsimp only
      rw [reordered]
      refine ⟨_, rfl, fun scenario member => listed_numberCandidates ?_ _⟩
      simp [member]
    obtain ⟨candidates, generated, listed⟩ := generated
    refine ⟨candidates, base, date, generated, based, dated, fun predicate member => ?_⟩
    obtain ⟨scenarios, found, true⟩ := witnesses predicate member
    obtain ⟨part, inside, same⟩ := mapM_step ranged member
    obtain rfl := Except.ok.inj (found.symm.trans same)
    exact ⟨scenarios, found, fun scenario own =>
      listed scenario (List.mem_flatten.mpr ⟨scenarios, inside, own⟩), true⟩

end Generation

/-- Differences of the two packages of covers and their predicates. -/
def bracketImpact : Except Failure (SemanticDiffResult × List ImpactPredicate) := do
  let result ← comparePackages bracketPackage.toPackageContent steeperPackage.toPackageContent
  return (result, ← result.differences.mapM fun difference =>
    derivePredicate difference bracketPackage.toPackageContent)

/-- Clauses of a cover between two numbers. -/
def coverClauses (low high : Nat) : List PredicateClause :=
  [⟨"cover", .gte, .literal (.decimal ⟨false, low, 0⟩)⟩,
   ⟨"cover", .lte, .literal (.decimal ⟨false, high, 0⟩)⟩]

/-- The value just below the smallest cover is clamped to it and satisfies the predicate that it is
a control of. -/
theorem generateCandidateScenarios_not_sound :
    ¬∀ (description : SemanticDifference → String) (package target : IPIRPackage)
        (result : SemanticDiffResult) (predicates : List ImpactPredicate)
        (baseRisk : Option RiskInput) (baseDate : Option Date),
      comparePackages package.toPackageContent target.toPackageContent = .ok result →
      (result.differences.mapM fun difference =>
        derivePredicate difference package.toPackageContent) = .ok predicates →
      CandidatesSound description result predicates package.toPackageContent baseRisk baseDate := by
  intro always
  have reading : bracketImpact.toOption.map (fun found => found.2.map (·.clauses)) =
      some [coverClauses 1 9, coverClauses 10 20] := by decide +kernel
  obtain ⟨⟨result, predicates⟩, found, clauses⟩ := exists_of_reading reading
  obtain ⟨_, compared, derived⟩ := bind_eq_ok found
  obtain ⟨_, derived, same⟩ := bind_eq_ok derived
  cases Except.ok.inj same
  obtain ⟨_, base, date, _, based, _, sound⟩ := always (fun _ => "") bracketPackage steeperPackage
    result predicates (some ⟨[("cover", .literal (.int 12))], by simp⟩) (some sampleDay) compared
    derived
  obtain ⟨predicate, rest, rfl⟩ : ∃ predicate rest, predicates = predicate :: rest := by
    cases predicates with
    | nil => cases clauses
    | cons predicate rest => exact ⟨predicate, rest, rfl⟩
  have own : predicate.clauses = coverClauses 1 9 := (List.cons.inj clauses).1
  have range : predicateRange predicate = ⟨some (.literal (.decimal ⟨false, 1, 0⟩)),
      some (.literal (.decimal ⟨false, 9, 0⟩)), some "cover"⟩ := by
    unfold predicateRange
    rw [own]
    rfl
  have accepted : base.Accepted := by
    rw [← Except.ok.inj based]
    exact RiskInput.probeValues_accepted _
  obtain ⟨scenarios, generated, _, witnesses⟩ := sound predicate List.mem_cons_self
  have faithful := (rangeCandidates_true_iff accepted predicate).mp ⟨scenarios, generated, witnesses⟩
  unfold RangeFaithful at faithful
  rw [range] at faithful
  obtain ⟨low, _, least, _, _, lower, _⟩ := faithful "cover" rfl rfl
  have one : low = some 1 := (Except.ok.inj least).symm
  have clamped : clampToDomain bracketPackage.toPackageContent "cover" 0 = .ok 1 := rfl
  have kept : clampToDomain bracketPackage.toPackageContent "cover" (1 - 1) = .ok (1 - 1) :=
    (lower 1 one).neighbour
  exact absurd (Except.ok.inj (clamped.symm.trans kept)) (by decide)

end RateGuard
