import RateGuard.IpirV2.Strictness

/-!
# Orders of calculation

A run of calculations ends in a context that gives every active one its value, whatever
the order was. Conversely such a context is reached along every order that puts each
calculation after what its value rests on, so the orders along which a package runs
agree on its values.
-/

open DecimalFloat CalendarDate TopologicalSort

namespace RateGuard

/-- Whether everything known in one context is known alike in another. -/
def Extends (context other : Context) : Prop :=
  ∀ id value, context id = some value → other id = some value

/-- A context extends itself. -/
theorem Extends.refl (context : Context) : Extends context context := fun _ _ entry => entry

/-- Extensions compose. -/
theorem Extends.trans {first second third : Context} (one : Extends first second)
    (two : Extends second third) : Extends first third :=
  fun id value entry => two id value (one id value entry)

/-- An extension carries all references. -/
theorem Extends.carries {context other : Context} (extended : Extends context other)
    (refs : List ExpressionRef) : Carries context other refs :=
  fun ref _ => extended ref.id

/-- Assigning an unknown entry extends a context. -/
theorem Extends.set {context : Context} {id : String} (value : Value)
    (unknown : context id = none) : Extends context (context.set id value) := by
  intro other found entry
  rw [context.set_other value]
  · exact entry
  · rintro rfl
    rw [unknown] at entry
    cases entry

/-- A calculation keeps its value where its references are carried. -/
theorem calculationValue_carried {context other : Context} {node : CalculationNodeV2}
    {value : Decimal} (carries : Carries context other node.expression.refs)
    (valued : calculationValue context node = .ok value) :
    calculationValue other node = .ok value := by
  obtain ⟨found, evaluated, number⟩ := Outcome.bind_eq_ok valued
  unfold calculationValue
  rw [evaluateDirect_carried node.expression carries evaluated]
  exact number

/-- A calculation keeps its value where its strict references are carried and its conditionals
keep theirs. -/
theorem calculationValue_kept {context other : Context} {node : CalculationNodeV2}
    {value : Decimal} (carries : Carries context other node.expression.strictRefs)
    (keeps : Keeps context other node.expression.conditionals)
    (valued : calculationValue context node = .ok value) :
    calculationValue other node = .ok value := by
  obtain ⟨found, evaluated, number⟩ := Outcome.bind_eq_ok valued
  unfold calculationValue
  rw [evaluateDirect_kept node.expression carries keeps evaluated]
  exact number

/-- A calculation with a value has its strict references resolved. -/
theorem calculationValue_resolved {context : Context} {node : CalculationNodeV2} {value : Decimal}
    (valued : calculationValue context node = .ok value) :
    ∀ ref ∈ node.expression.strictRefs, ∃ found, context ref.id = some found := by
  obtain ⟨found, evaluated, number⟩ := Outcome.bind_eq_ok valued
  exact strict_resolved node.expression evaluated

/-- Whether a context holds a recordable value of a calculation. -/
def Calculated (solution : Context) (node : CalculationNodeV2) : Prop :=
  ∃ value, calculationValue solution node = .ok value ∧
    (Value.decimal value).recordable = true ∧ solution node.id = some (.decimal value)

/-- A calculation that is active and has a recordable value. -/
theorem addCalculation_active {date : Date} {context : Context} {node : CalculationNodeV2}
    {value : Decimal} (active : isActive node.effectivePeriod date = true)
    (valued : calculationValue context node = .ok value)
    (recordable : (Value.decimal value).recordable = true) :
    addCalculation date context node = .ok (context.set node.id (.decimal value)) := by
  unfold addCalculation
  rw [if_pos active, valued]
  change (if (Value.decimal value).recordable = true then _ else _) = _
  rw [if_pos recordable]
  rfl

/-- An inactive calculation changes nothing. -/
theorem addCalculation_inactive {date : Date} {context : Context} {node : CalculationNodeV2}
    (inactive : isActive node.effectivePeriod date = false) :
    addCalculation date context node = .ok context := by
  unfold addCalculation
  rw [if_neg (by rw [inactive]; exact Bool.false_ne_true)]
  rfl

/-- What a calculation that runs does. -/
theorem addCalculation_cases {date : Date} {context after : Context} {node : CalculationNodeV2}
    (added : addCalculation date context node = .ok after) :
    (isActive node.effectivePeriod date = false ∧ after = context) ∨
    (isActive node.effectivePeriod date = true ∧ ∃ value,
      calculationValue context node = .ok value ∧ (Value.decimal value).recordable = true ∧
      after = context.set node.id (.decimal value)) := by
  cases active : isActive node.effectivePeriod date with
  | false =>
    rw [addCalculation_inactive active] at added
    exact .inl ⟨rfl, (Except.ok.inj added).symm⟩
  | true =>
    unfold addCalculation at added
    rw [if_pos active] at added
    obtain ⟨value, valued, added⟩ := Outcome.bind_eq_ok added
    by_cases recordable : (Value.decimal value).recordable = true
    · rw [if_pos recordable] at added
      exact .inr ⟨rfl, value, valued, recordable, (Except.ok.inj added).symm⟩
    · rw [if_neg recordable] at added
      cases added

/-- Whether no active calculation of a list refers to itself or a later one, by given references. -/
def Follows (refs : CalculationNodeV2 → List ExpressionRef) (date : Date)
    (nodes : List CalculationNodeV2) : Prop :=
  nodes.Pairwise fun earlier later => isActive earlier.effectivePeriod date = true →
    ∀ ref ∈ refs earlier, ref.id ≠ later.id

/-- Outcome of a run: active calculations are settled, everything else is as before. -/
structure Solves (date : Date) (nodes : List CalculationNodeV2) (start solution : Context) :
    Prop where
  /-- What was known is kept. -/
  extends_start : Extends start solution
  /-- Only active calculations are added. -/
  rest : ∀ id, (∀ node ∈ nodes, isActive node.effectivePeriod date = true → node.id ≠ id) →
    solution id = start id
  /-- Active calculations have their values. -/
  settled : ∀ node ∈ nodes, isActive node.effectivePeriod date = true → Calculated solution node

/-- A run that succeeds settles its calculations, and no active one strictly refers to a
later one. -/
theorem run_solves {date : Date} {nodes : List CalculationNodeV2} {start solution : Context}
    (distinct : (nodes.map (·.id)).Nodup) (unknown : ∀ node ∈ nodes, start node.id = none)
    (ran : nodes.foldlM (addCalculation date) start = .ok solution) :
    Solves date nodes start solution ∧ Follows (·.expression.strictRefs) date nodes := by
  induction nodes generalizing start with
  | nil =>
    cases ran
    exact ⟨⟨.refl _, fun _ _ => rfl, fun _ member => absurd member List.not_mem_nil⟩, .nil⟩
  | cons node rest ih =>
    rw [List.foldlM_cons] at ran
    obtain ⟨middle, added, continues⟩ := Outcome.bind_eq_ok ran
    rw [List.map_cons, List.nodup_cons] at distinct
    have different : ∀ later ∈ rest, later.id ≠ node.id := fun later member same =>
      distinct.1 (List.mem_map.mpr ⟨later, member, same⟩)
    have unknownNode := unknown node List.mem_cons_self
    rcases addCalculation_cases added with ⟨inactive, rfl⟩ | ⟨active, value, valued, recordable, rfl⟩
    · obtain ⟨solves, follows⟩ := ih distinct.2
        (fun later member => unknown later (List.mem_cons_of_mem _ member)) continues
      refine ⟨⟨solves.extends_start, ?_, ?_⟩, List.pairwise_cons.mpr ⟨?_, follows⟩⟩
      · exact fun id others =>
          solves.rest id fun later member => others later (List.mem_cons_of_mem _ member)
      · intro later member active
        rcases List.mem_cons.mp member with rfl | member
        · rw [inactive] at active
          cases active
        · exact solves.settled later member active
      · intro later _ active
        rw [inactive] at active
        cases active
    · have fresh : ∀ later ∈ rest, (start.set node.id (.decimal value)) later.id = none := by
        intro later member
        rw [start.set_other _ (different later member)]
        exact unknown later (List.mem_cons_of_mem _ member)
      obtain ⟨solves, follows⟩ := ih distinct.2 fresh continues
      have extended : Extends start (start.set node.id (.decimal value)) :=
        .set _ unknownNode
      have whole := extended.trans solves.extends_start
      refine ⟨⟨whole, ?_, ?_⟩, List.pairwise_cons.mpr ⟨?_, follows⟩⟩
      · intro id others
        rw [solves.rest id fun later member => others later (List.mem_cons_of_mem _ member)]
        exact start.set_other _ (Ne.symm (others node List.mem_cons_self active))
      · intro later member active
        rcases List.mem_cons.mp member with rfl | member
        · refine ⟨value, calculationValue_carried (whole.carries _) valued, recordable, ?_⟩
          exact solves.extends_start _ _ (start.set_same _ _)
        · exact solves.settled later member active
      · intro later member _ ref referred same
        obtain ⟨found, entry⟩ := calculationValue_resolved valued ref referred
        rw [same, unknown later (List.mem_cons_of_mem _ member)] at entry
        cases entry

/-- A context that settles calculations is reached along every order that puts each active one
after what its value rests on. -/
theorem run_of_solution {refs : CalculationNodeV2 → List ExpressionRef} {date : Date}
    {nodes : List CalculationNodeV2} {start solution : Context}
    (distinct : (nodes.map (·.id)).Nodup) (solves : Solves date nodes start solution)
    (unknown : ∀ node ∈ nodes, start node.id = none)
    (irreflexive : ∀ node ∈ nodes, ∀ ref ∈ refs node, ref.id ≠ node.id)
    (follows : Follows refs date nodes)
    (rests : ∀ node ∈ nodes, ∀ context, Extends start context →
      Carries solution context (refs node) → ∀ value, calculationValue solution node = .ok value →
      calculationValue context node = .ok value) :
    nodes.foldlM (addCalculation date) start = .ok solution := by
  induction nodes generalizing start with
  | nil =>
    have same : solution = start :=
      funext fun id => solves.rest id fun _ member => absurd member List.not_mem_nil
    rw [same]
    rfl
  | cons node rest ih =>
    rw [List.map_cons, List.nodup_cons] at distinct
    have different : ∀ later ∈ rest, later.id ≠ node.id := fun later member same =>
      distinct.1 (List.mem_map.mpr ⟨later, member, same⟩)
    have tail := List.pairwise_cons.mp follows
    rw [List.foldlM_cons]
    cases active : isActive node.effectivePeriod date with
    | false =>
      rw [addCalculation_inactive active]
      refine ih distinct.2 ⟨solves.extends_start, ?_, ?_⟩ ?_ ?_ tail.2 ?_
      · intro id others
        refine solves.rest id fun later member isActive => ?_
        rcases List.mem_cons.mp member with rfl | member
        · rw [active] at isActive
          cases isActive
        · exact others later member isActive
      · exact fun later member => solves.settled later (List.mem_cons_of_mem _ member)
      · exact fun later member => unknown later (List.mem_cons_of_mem _ member)
      · exact fun later member => irreflexive later (List.mem_cons_of_mem _ member)
      · exact fun later member => rests later (List.mem_cons_of_mem _ member)
    | true =>
      obtain ⟨value, valued, recordable, entry⟩ := solves.settled node List.mem_cons_self active
      -- References of the node are neither itself nor later, so the start has them all.
      have carries : Carries solution start (refs node) := by
        intro ref referred found known
        have elsewhere : solution ref.id = start ref.id := by
          refine solves.rest ref.id fun other member _ same => ?_
          rcases List.mem_cons.mp member with rfl | later
          · exact irreflexive other List.mem_cons_self ref referred same.symm
          · exact tail.1 other later active ref referred same.symm
        rw [← elsewhere]
        exact known
      have here := rests node List.mem_cons_self start (.refl _) carries value valued
      rw [addCalculation_active active here recordable]
      have extended : Extends start (start.set node.id (.decimal value)) :=
        .set _ (unknown node List.mem_cons_self)
      refine ih distinct.2 ⟨?_, ?_, ?_⟩ ?_ ?_ tail.2 ?_
      · intro id found known
        by_cases same : id = node.id
        · subst same
          rw [start.set_same] at known
          rw [entry, known]
        · rw [start.set_other _ same] at known
          exact solves.extends_start id found known
      · intro id others
        by_cases same : id = node.id
        · rw [same, start.set_same, entry]
        · rw [start.set_other _ same]
          refine solves.rest id fun later member isActive => ?_
          rcases List.mem_cons.mp member with rfl | member
          · exact Ne.symm same
          · exact others later member isActive
      · exact fun later member => solves.settled later (List.mem_cons_of_mem _ member)
      · intro later member
        rw [start.set_other _ (different later member)]
        exact unknown later (List.mem_cons_of_mem _ member)
      · exact fun later member => irreflexive later (List.mem_cons_of_mem _ member)
      · exact fun later member context further =>
          rests later (List.mem_cons_of_mem _ member) context (extended.trans further)

/-- A run settles a permutation of its calculations. -/
theorem Solves.perm {date : Date} {nodes others : List CalculationNodeV2} {start solution : Context}
    (solves : Solves date nodes start solution) (perm : nodes.Perm others) :
    Solves date others start solution where
  extends_start := solves.extends_start
  rest := fun id elsewhere => solves.rest id fun node member =>
    elsewhere node (perm.mem_iff.mp member)
  settled := fun node member => solves.settled node (perm.mem_iff.mpr member)

end RateGuard
