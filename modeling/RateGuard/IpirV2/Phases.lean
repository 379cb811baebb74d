import RateGuard.IpirV2.Lowering
import RateGuard.IpirV2.Schedule

/-!
# Phases of a lowered evaluation

How far the phases of the 0.1 evaluator go on a lowered package: the tables succeed when
every active one has a factor, the synthesized rules when every conditional has a value
before the calculations, and the calculations run as those of the 0.2 package do.
-/

open DecimalFloat CalendarDate TopologicalSort

namespace RateGuard

/-- Whether a context has only recordable entries, of given identifiers. -/
def Within (ids : List String) (context : Context) : Prop :=
  ∀ id value, context id = some value → id ∈ ids ∧ value.recordable = true

/-- Assigning a recordable value stays within the identifiers. -/
theorem Within.set {ids : List String} {context : Context} {id : String} {value : Value}
    (within : Within ids context) (member : id ∈ ids) (recordable : value.recordable = true) :
    Within ids (context.set id value) := by
  intro other found entry
  by_cases same : other = id
  · subst same
    rw [context.set_same] at entry
    exact ⟨member, Option.some.inj entry ▸ recordable⟩
  · rw [context.set_other _ same] at entry
    exact within other found entry

/-- More identifiers. -/
theorem Within.mono {fewer more : List String} {context : Context}
    (within : Within fewer context) (inside : fewer ⊆ more) : Within more context :=
  fun id value entry => ⟨inside (within id value entry).1, (within id value entry).2⟩

/-- Validated inputs are declared ones. -/
theorem validated_declared {inputs : List PricingInput} {risk : RiskInput} {strict : Bool}
    {validated : List (String × Value)}
    (validates : validateRiskInputs inputs risk strict = .ok validated) :
    ∀ entry ∈ validated, entry.1 ∈ inputs.map (·.id) := by
  obtain ⟨entries, each, validates⟩ := Outcome.bind_eq_ok validates
  split at validates
  · cases validates
  · cases validates
    intro entry member
    obtain ⟨found, belongs, rfl⟩ := List.mem_filterMap.mp member
    obtain ⟨input, declared, one⟩ := Outcome.mapM_source each belongs
    obtain ⟨value, _, returned⟩ := Outcome.bind_eq_ok one
    cases value with
    | none => cases returned
    | some value =>
      cases returned
      exact List.mem_map.mpr ⟨input, declared, rfl⟩

/-- Inputs and constants are recordable entries of their own. -/
theorem opened_within {inputs : List PricingInput} {constants : List PricingConstant}
    {risk : RiskInput} {date : Date} {strict : Bool} {state : Evaluation}
    (opens : opened inputs constants risk date strict = .ok state) :
    Within (inputs.map (·.id) ++ constants.map (·.id)) state.context := by
  obtain ⟨validated, validates, opens⟩ := Outcome.bind_eq_ok opens
  obtain ⟨entered, enters, opens⟩ := Outcome.bind_eq_ok opens
  have declared := validated_declared validates
  have start : Within (inputs.map (·.id) ++ constants.map (·.id)) Evaluation.start.context :=
    fun id value entry => by cases entry
  have afterInputs : Within (inputs.map (·.id) ++ constants.map (·.id)) entered.context := by
    unfold setInputs at enters
    refine Outcome.foldlM_keeps (fun state =>
      Within (inputs.map (·.id) ++ constants.map (·.id)) state.context) ?_ start enters
    intro state entry after member within recorded
    obtain ⟨same, recordable⟩ := addStep_eq_ok recorded
    rw [same]
    exact within.set (List.mem_append_left _ (declared entry member)) recordable
  refine Outcome.foldlM_keeps (fun state =>
    Within (inputs.map (·.id) ++ constants.map (·.id)) state.context) ?_ afterInputs opens
  intro state constant after member within recorded
  unfold setConstant at recorded
  split at recorded
  · obtain ⟨same, recordable⟩ := addStep_eq_ok recorded
    rw [same]
    exact within.set (List.mem_append_right _ (List.mem_map_of_mem member)) recordable
  · rw [← Except.ok.inj recorded]
    exact within

/-- Factors of tables are recordable. -/
theorem lookupTable_recordable {table : RateTable} {lookup : String → Option Value}
    {factor : Decimal × TableRow} (found : lookupTable table lookup = .ok factor) :
    (Value.decimal factor.1).recordable = true := by
  obtain ⟨rows, _, found⟩ := Outcome.bind_eq_ok found
  split at found
  · split at found
    · cases found
      rfl
    · cases found
  · cases found
    rfl
  · cases found

/-- An inactive table changes nothing. -/
theorem resolveTable_inactive {date : Date} (state : Evaluation) {table : RateTable}
    (inactive : isActive table.effectivePeriod date = false) :
    resolveTable date state table = .ok state ∧
      addTable date ⟨state.context, []⟩ table = ⟨state.context, []⟩ := by
  unfold resolveTable addTable
  rw [inactive]
  exact ⟨rfl, rfl⟩

/-- An active table is resolved if it is found. -/
theorem resolveTable_active {date : Date} (state : Evaluation) {table : RateTable}
    (active : isActive table.effectivePeriod date = true) :
    (∃ after, resolveTable date state table = .ok after ∧
      addTable date ⟨state.context, []⟩ table = ⟨after.context, []⟩) ∨
    (∃ failed, resolveTable date state table = .error failed ∧
      (addTable date ⟨state.context, []⟩ table).failed ≠ []) := by
  have none_failed : (table.dimensions.any fun dimension =>
      ([] : List String).contains dimension.inputRef) = false := by simp
  unfold resolveTable addTable
  rw [active, none_failed]
  cases found : lookupTable table state.context with
  | error failed => exact .inr ⟨failed, rfl, List.cons_ne_nil _ _⟩
  | ok factor =>
    have recorded := addStep_recordable (state.set table.id (.decimal factor.1))
      ⟨table.id, .table, .lookupTable, .decimal factor.1⟩ (lookupTable_recordable found)
    exact .inl ⟨_, recorded, rfl⟩

/-- A failed table stays failed. -/
theorem addTables_failed (date : Date) (tables : List RateTable) (known : Known)
    (failed : known.failed ≠ []) : (tables.foldl (addTable date) known).failed ≠ [] := by
  induction tables generalizing known with
  | nil => exact failed
  | cons table rest ih =>
    refine ih (addTable date known table) ?_
    unfold addTable
    split
    · split
      · exact List.cons_ne_nil _ _
      · split
        · exact failed
        · exact List.cons_ne_nil _ _
    · exact failed

/-- The tables are resolved exactly when every active one is found, with the same entries. -/
theorem resolveTables_iff (date : Date) (tables : List RateTable) (state : Evaluation)
    (context : Context) :
    (∃ after, tables.foldlM (resolveTable date) state = .ok after ∧ after.context = context) ↔
      tables.foldl (addTable date) ⟨state.context, []⟩ = ⟨context, []⟩ := by
  induction tables generalizing state with
  | nil =>
    constructor
    · rintro ⟨after, resolved, rfl⟩
      cases resolved
      rfl
    · intro same
      exact ⟨state, rfl, congrArg Known.context same⟩
  | cons table rest ih =>
    rw [List.foldlM_cons, List.foldl_cons]
    cases active : isActive table.effectivePeriod date with
    | false =>
      obtain ⟨resolved, added⟩ := resolveTable_inactive state active
      rw [resolved, added]
      exact ih state
    | true =>
      rcases resolveTable_active state active with ⟨after, resolved, added⟩ |
        ⟨failed, raised, added⟩
      · rw [resolved, added]
        exact ih after
      · rw [raised]
        constructor
        · rintro ⟨after, resolved, _⟩
          cases resolved
        · intro same
          exact absurd (congrArg Known.failed same) (addTables_failed date rest _ added)

/-- Resolved tables are recordable entries of their own. -/
theorem resolveTables_within {date : Date} {tables : List RateTable} {state after : Evaluation}
    {ids : List String} (within : Within ids state.context)
    (resolved : tables.foldlM (resolveTable date) state = .ok after) :
    Within (ids ++ tables.map (·.id)) after.context := by
  refine Outcome.foldlM_keeps (fun state => Within (ids ++ tables.map (·.id)) state.context) ?_
    (within.mono (List.subset_append_left _ _)) resolved
  intro state table after member within recorded
  unfold resolveTable at recorded
  split at recorded
  · obtain ⟨factor, _, recorded⟩ := Outcome.bind_eq_ok recorded
    obtain ⟨same, recordable⟩ := addStep_eq_ok recorded
    rw [same]
    exact within.set (List.mem_append_right _ (List.mem_map_of_mem member)) recordable
  · cases recorded
    exact within

/-- What is known before the calculations are inputs, constants and tables. -/
theorem known_within {package : PackageV2} {risk : RiskInput} {date : Date} {strict : Bool}
    {found : Known} (opens : known package risk date strict = .ok found) :
    Within (package.inputs.map (·.id) ++ package.constants.map (·.id) ++
      package.tables.map (·.id)) found.context := by
  obtain ⟨state, opened, returned⟩ := Outcome.bind_eq_ok opens
  cases returned
  have entries := opened_within opened
  have folds : ∀ (tables : List RateTable) (known : Known) (ids : List String),
      Within ids known.context →
      Within (ids ++ tables.map (·.id)) (tables.foldl (addTable date) known).context := by
    intro tables
    induction tables with
    | nil => exact fun known ids within => within.mono (List.subset_append_left _ _)
    | cons table rest ih =>
      intro known ids within
      rw [List.map_cons, List.append_cons, List.foldl_cons]
      refine ih _ _ ?_
      have wider : Within (ids ++ [table.id]) known.context :=
        within.mono (List.subset_append_left _ _)
      unfold addTable
      split
      · split
        · exact wider
        · split
          · next factor looked =>
            exact wider.set (by simp) (lookupTable_recordable looked)
          · exact wider
      · exact wider
  exact folds package.tables ⟨state.context, []⟩ _ entries

/-- A rule without a period takes its value, which has to be recordable. -/
theorem resolveRule_eq (date : Date) (state : Evaluation) {rule : PricingRule}
    (permanent : rule.effectivePeriod = none) :
    resolveRule date state rule = (do
      let value ← ruleValue state.context rule
      (state.set rule.id value).addStep ⟨rule.id, .rule, .evaluateRule, value⟩) := by
  unfold resolveRule ruleValue isActive
  rw [permanent, bind_assoc]
  rfl

/-- Rules resolved from a context: their entries reflect their conditionals, all others are
as before. -/
structure Resolves (syntheses : List Synthesis) (context resolved : Context) : Prop where
  /-- Entries of the rules hold the values of their conditionals. -/
  reflected : AllReflected syntheses resolved
  /-- Other entries are kept. -/
  others : ∀ id, (∀ synthesis ∈ syntheses, synthesis.rule.id ≠ id) → resolved id = context id

/-- Whether no conditional of some rules refers to one of the rules. -/
def Apart (syntheses : List Synthesis) : Prop :=
  ∀ synthesis ∈ syntheses, ∀ ref ∈ synthesis.conditional.refs, ∀ other ∈ syntheses,
    other.rule.id ≠ ref.id

/-- Values of conditionals before and after the rules are the same. -/
theorem Resolves.conditional {syntheses : List Synthesis} {context resolved : Context}
    (resolves : Resolves syntheses context resolved) {conditional : ExpressionV2}
    (apart : ∀ ref ∈ conditional.refs, ∀ other ∈ syntheses, other.rule.id ≠ ref.id)
    {value : Value} :
    evaluateDirect resolved conditional = .ok value ↔
      evaluateDirect context conditional = .ok value := by
  constructor
  · refine evaluateDirect_carried conditional fun ref referred found entry => ?_
    rw [resolves.others ref.id (apart ref referred)] at entry
    exact entry
  · refine evaluateDirect_carried conditional fun ref referred found entry => ?_
    rw [resolves.others ref.id (apart ref referred)]
    exact entry

/-- Assigning the value of one more conditional to its rule. -/
theorem Resolves.snoc {earlier : List Synthesis} {synthesis : Synthesis}
    {context resolved : Context} (resolves : Resolves earlier context resolved)
    (fresh : ∀ other ∈ earlier, other.rule.id ≠ synthesis.rule.id)
    (apart : Apart (earlier ++ [synthesis])) {value : Value}
    (evaluated : evaluateDirect resolved synthesis.conditional = .ok value) :
    Resolves (earlier ++ [synthesis]) context (resolved.set synthesis.rule.id value) := by
  have last : synthesis ∈ earlier ++ [synthesis] := by simp
  have carries : ∀ other ∈ earlier ++ [synthesis], Carries resolved
      (resolved.set synthesis.rule.id value) other.conditional.refs := by
    intro other member ref referred found entry
    rw [resolved.set_other _ (apart other member ref referred synthesis last).symm]
    exact entry
  constructor
  · intro other member
    rcases List.mem_append.mp member with before | itself
    · obtain ⟨found, entry, reflected⟩ := resolves.reflected other before
      refine ⟨found, ?_, evaluateDirect_carried _ (carries other member) reflected⟩
      rw [resolved.set_other _ (fresh other before)]
      exact entry
    · obtain rfl := List.mem_singleton.mp itself
      exact ⟨value, resolved.set_same _ _, evaluateDirect_carried _ (carries _ last) evaluated⟩
  · intro id elsewhere
    rw [resolved.set_other _ (elsewhere synthesis last).symm]
    exact resolves.others id fun other member => elsewhere other (List.mem_append_left _ member)

/-- Every conditional of some rules has a recordable value. -/
def Valued (context : Context) (syntheses : List Synthesis) : Prop :=
  ∀ synthesis ∈ syntheses, ∃ value,
    evaluateDirect context synthesis.conditional = .ok value ∧ value.recordable = true

/-- Synthesized rules that resolve reflect their conditionals, which all have values. -/
theorem resolveRules_ok {syntheses : List Synthesis} (chain : Chain syntheses) {date : Date}
    {state after : Evaluation} (distinct : (syntheses.map (·.rule.id)).Nodup)
    (apart : Apart syntheses)
    (resolved : (syntheses.map (·.rule)).foldlM (resolveRule date) state = .ok after) :
    Resolves syntheses state.context after.context ∧ Valued state.context syntheses := by
  induction chain generalizing after with
  | nil =>
    cases resolved
    exact ⟨⟨fun _ member => absurd member List.not_mem_nil, fun _ _ => rfl⟩,
      fun _ member => absurd member List.not_mem_nil⟩
  | @snoc earlier synthesis chain evaluates ih =>
    rw [List.map_append, List.map_singleton, Outcome.foldlM_snoc] at resolved
    obtain ⟨middle, before, last⟩ := Outcome.bind_eq_ok resolved
    rw [List.map_append, List.nodup_append] at distinct
    have apartEarlier : Apart earlier := fun other member ref referred third belongs =>
      apart other (List.mem_append_left _ member) ref referred third
        (List.mem_append_left _ belongs)
    obtain ⟨resolves, valued⟩ := ih distinct.1 apartEarlier before
    rw [resolveRule_eq date middle synthesis.permanent,
      evaluates middle.context resolves.reflected] at last
    obtain ⟨value, evaluated, recorded⟩ := Outcome.bind_eq_ok last
    obtain ⟨same, recordable⟩ := addStep_eq_ok recorded
    have fresh : ∀ other ∈ earlier, other.rule.id ≠ synthesis.rule.id := fun other member =>
      distinct.2.2 _ (List.mem_map_of_mem member) _ (by simp)
    constructor
    · rw [same]
      exact resolves.snoc fresh apart evaluated
    · intro other member
      rcases List.mem_append.mp member with inside | itself
      · exact valued other inside
      · obtain rfl := List.mem_singleton.mp itself
        refine ⟨value, ?_, recordable⟩
        exact (resolves.conditional fun ref referred third belongs => apart _ member ref referred
          third (List.mem_append_left _ belongs)).mp evaluated

/-- Synthesized rules resolve if all their conditionals have values. -/
theorem resolveRules_of_valued {syntheses : List Synthesis} (chain : Chain syntheses) {date : Date}
    {state : Evaluation} (distinct : (syntheses.map (·.rule.id)).Nodup)
    (apart : Apart syntheses) (valued : Valued state.context syntheses) :
    ∃ after, (syntheses.map (·.rule)).foldlM (resolveRule date) state = .ok after := by
  induction chain with
  | nil => exact ⟨state, rfl⟩
  | @snoc earlier synthesis chain evaluates ih =>
    rw [List.map_append, List.nodup_append] at distinct
    have apartEarlier : Apart earlier := fun other member ref referred third belongs =>
      apart other (List.mem_append_left _ member) ref referred third
        (List.mem_append_left _ belongs)
    obtain ⟨middle, before⟩ := ih distinct.1 apartEarlier
      fun other member => valued other (List.mem_append_left _ member)
    have resolves := (resolveRules_ok chain distinct.1 apartEarlier before).1
    have last : synthesis ∈ earlier ++ [synthesis] := by simp
    obtain ⟨value, evaluated, recordable⟩ := valued synthesis last
    have here : evaluateDirect middle.context synthesis.conditional = .ok value :=
      (resolves.conditional fun ref referred third belongs => apart _ last ref referred third
        (List.mem_append_left _ belongs)).mpr evaluated
    rw [List.map_append, List.map_singleton, Outcome.foldlM_snoc, before]
    change ∃ after, resolveRule date middle synthesis.rule = .ok after
    rw [resolveRule_eq date middle synthesis.permanent,
      evaluates middle.context resolves.reflected, here]
    exact ⟨_, addStep_recordable (middle.set synthesis.rule.id value) _ recordable⟩

end RateGuard
