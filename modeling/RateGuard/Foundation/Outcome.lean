import Mathlib.Data.List.Forall2
import Mathlib.Data.List.Nodup

/-!
# Agreement of fallible computations

Two computations agree when both fail or both succeed with related results. The
rules carry agreement through sequencing, traversal and folding, so that a
relation between two programs is proved one step at a time. Which error is
raised is not compared.
-/

namespace Outcome

variable {ε φ α β γ δ : Type}

/-- A sequence succeeds when its first step does and continues successfully. -/
theorem bind_eq_ok {first : Except ε α} {after : α → Except ε β} {result : β}
    (succeeds : first >>= after = .ok result) :
    ∃ middle, first = .ok middle ∧ after middle = .ok result := by
  cases first with
  | error failed => cases succeeds
  | ok middle => exact ⟨middle, rfl, succeeds⟩

/-- A computation that succeeds has a result. -/
theorem exists_of_isOk {run : Except ε α} (succeeds : run.isOk = true) :
    ∃ result, run = .ok result := by
  cases run with
  | error failed => cases succeeds
  | ok result => exact ⟨result, rfl⟩

/-- What is read of a result is read of a computation that succeeds. -/
theorem exists_of_reading {run : Except ε α} {read : α → β} {value : β}
    (reads : run.toOption.map read = some value) :
    ∃ result, run = .ok result ∧ read result = value := by
  cases run with
  | error failed => cases reads
  | ok result => exact ⟨result, rfl, Option.some.inj reads⟩

/-- Both computations fail, or both succeed with related results. -/
inductive Agree (related : α → β → Prop) : Except ε α → Except φ β → Prop
  | failure (left : ε) (right : φ) : Agree related (.error left) (.error right)
  | success {left : α} {right : β} (holds : related left right) :
    Agree related (.ok left) (.ok right)

/-- A computation agrees with itself under a reflexive relation. -/
theorem Agree.refl {related : α → α → Prop} (reflexive : ∀ value, related value value)
    (run : Except ε α) : Agree related run run := by
  cases run with
  | error failed => exact .failure failed failed
  | ok value => exact .success (reflexive value)

/-- Agreement read from the other side. -/
theorem Agree.symm {related : α → β → Prop} {left : Except ε α} {right : Except φ β}
    (agree : Agree related left right) :
    Agree (fun x y => related y x) right left := by
  cases agree with
  | failure first second => exact .failure second first
  | success holds => exact .success holds

/-- Agreement weakens with its relation. -/
theorem Agree.mono {weak strong : α → β → Prop} {left : Except ε α} {right : Except φ β}
    (agree : Agree strong left right) (weaker : ∀ x y, strong x y → weak x y) :
    Agree weak left right := by
  cases agree with
  | failure first second => exact .failure first second
  | success holds => exact .success (weaker _ _ holds)

/-- Agreement composes through a middle computation. -/
theorem Agree.trans {first : α → β → Prop} {second : β → γ → Prop} {left : Except ε α}
    {middle : Except φ β} {right : Except ε γ} (before : Agree first left middle)
    (after : Agree second middle right) :
    Agree (fun x z => ∃ y, first x y ∧ second y z) left right := by
  cases before with
  | failure failed _ =>
    cases after with
    | failure _ other => exact .failure failed other
  | success holds =>
    cases after with
    | success continues => exact .success ⟨_, holds, continues⟩

/-- Sequencing keeps agreement when related results continue in agreement. -/
theorem Agree.bind {related : α → β → Prop} {results : γ → δ → Prop} {left : Except ε α}
    {right : Except φ β} {afterLeft : α → Except ε γ} {afterRight : β → Except φ δ}
    (agree : Agree related left right)
    (continues : ∀ x y, related x y → Agree results (afterLeft x) (afterRight y)) :
    Agree results (left >>= afterLeft) (right >>= afterRight) := by
  cases agree with
  | failure first second => exact .failure first second
  | success holds => exact continues _ _ holds

/-- Sequencing keeps agreement, with the successful left result at hand. -/
theorem Agree.bind_ok {related : α → β → Prop} {results : γ → δ → Prop} {left : Except ε α}
    {right : Except φ β} {afterLeft : α → Except ε γ} {afterRight : β → Except φ δ}
    (agree : Agree related left right)
    (continues : ∀ x y, left = .ok x → related x y →
      Agree results (afterLeft x) (afterRight y)) :
    Agree results (left >>= afterLeft) (right >>= afterRight) := by
  cases agree with
  | failure first second => exact .failure first second
  | success holds => exact continues _ _ rfl holds

/-- A shared first step keeps agreement when every continuation agrees. -/
theorem Agree.bind_same {results : γ → δ → Prop} (run : Except ε α)
    {afterLeft : α → Except ε γ} {afterRight : α → Except ε δ}
    (continues : ∀ x, Agree results (afterLeft x) (afterRight x)) :
    Agree results (run >>= afterLeft) (run >>= afterRight) := by
  cases run with
  | error failed => exact .failure failed failed
  | ok value => exact continues value

/-- Results may be transformed on both sides. -/
theorem Agree.map {related : α → β → Prop} {results : γ → δ → Prop} {left : Except ε α}
    {right : Except φ β} {onLeft : α → γ} {onRight : β → δ}
    (agree : Agree related left right)
    (continues : ∀ x y, related x y → results (onLeft x) (onRight y)) :
    Agree results (onLeft <$> left) (onRight <$> right) := by
  cases agree with
  | failure first second => exact .failure first second
  | success holds => exact .success (continues _ _ holds)

/-- Both branches of one decision agree. -/
theorem Agree.ite {related : α → β → Prop} {left right : Prop} [Decidable left]
    [Decidable right] {leftThen leftElse : Except ε α} {rightThen rightElse : Except φ β}
    (same : left ↔ right) (onTrue : Agree related leftThen rightThen)
    (onFalse : Agree related leftElse rightElse) :
    Agree related (if left then leftThen else leftElse)
      (if right then rightThen else rightElse) := by
  by_cases holds : left
  · rw [if_pos holds, if_pos (same.mp holds)]
    exact onTrue
  · rw [if_neg holds, if_neg (fun other => holds (same.mpr other))]
    exact onFalse

/-- A fold ends with its last step. -/
theorem foldlM_snoc (step : γ → α → Except ε γ) (values : List α) (last : α) (start : γ) :
    (values ++ [last]).foldlM step start =
      values.foldlM step start >>= fun middle => step middle last := by
  rw [List.foldlM_append]
  refine congrArg (values.foldlM step start >>= ·) (funext fun middle => ?_)
  rw [List.foldlM_cons]
  exact bind_pure (step middle last)

/-- What every successful step keeps, a successful fold keeps. -/
theorem foldlM_keeps (invariant : γ → Prop) {step : γ → α → Except ε γ} {values : List α}
    (keeps : ∀ state value after, value ∈ values → invariant state → step state value = .ok after →
      invariant after) {start result : γ} (holds : invariant start)
    (succeeds : values.foldlM step start = .ok result) : invariant result := by
  induction values generalizing start with
  | nil =>
    cases succeeds
    exact holds
  | cons value rest ih =>
    rw [List.foldlM_cons] at succeeds
    obtain ⟨middle, one, others⟩ := bind_eq_ok succeeds
    exact ih (fun state later after member => keeps state later after (List.mem_cons_of_mem _ member))
      (keeps start value middle List.mem_cons_self holds one) others

/-- A fold succeeds exactly when every step of it does, from the state the steps before it leave. -/
theorem foldlM_isOk_iff {step : γ → α → Except ε γ} {values : List α} {start : γ} :
    (values.foldlM step start).isOk = true ↔
      ∀ before value after state, values = before ++ value :: after →
        before.foldlM step start = .ok state → (step state value).isOk = true := by
  induction values generalizing start with
  | nil =>
    refine ⟨fun _ before value after state split => ?_, fun _ => rfl⟩
    exact absurd split (by simp)
  | cons first rest ih =>
    rw [List.foldlM_cons]
    constructor
    · intro succeeds before value after state split ran
      obtain ⟨result, succeeds⟩ := exists_of_isOk succeeds
      obtain ⟨middle, one, others⟩ := bind_eq_ok succeeds
      rcases List.cons_eq_append_iff.mp split with ⟨rfl, here⟩ | ⟨tail, rfl, later⟩
      · obtain ⟨rfl, -⟩ := List.cons.inj here
        rw [← Except.ok.inj ran, one]
        rfl
      · rw [List.foldlM_cons, one] at ran
        exact ih.mp (by rw [others]; rfl) tail value after state later ran
    · intro steps
      obtain ⟨middle, one⟩ := exists_of_isOk (steps [] first rest start rfl rfl)
      rw [one]
      refine ih.mpr fun before value after state split ran => ?_
      refine steps (first :: before) value after state (by rw [split]; rfl) ?_
      rw [List.foldlM_cons, one]
      exact ran

/-- A fold whose steps succeed by their values alone succeeds when all of them do. -/
theorem foldlM_isOk_iff_all {step : γ → α → Except ε γ} {succeeds : α → Prop}
    (alone : ∀ state value, (step state value).isOk = true ↔ succeeds value) {values : List α}
    {start : γ} :
    (values.foldlM step start).isOk = true ↔ ∀ value ∈ values, succeeds value := by
  induction values generalizing start with
  | nil => exact ⟨fun _ value member => absurd member List.not_mem_nil, fun _ => rfl⟩
  | cons first rest ih =>
    rw [List.foldlM_cons, List.forall_mem_cons]
    constructor
    · intro returned
      obtain ⟨result, returned⟩ := exists_of_isOk returned
      obtain ⟨middle, one, others⟩ := bind_eq_ok returned
      exact ⟨(alone start first).mp (by rw [one]; rfl), ih.mp (by rw [others]; rfl)⟩
    · rintro ⟨head, tail⟩
      obtain ⟨middle, one⟩ := exists_of_isOk ((alone start first).mpr head)
      rw [one]
      exact ih.mpr tail

/-- A measure that every step raises by the weight of its value rises by the weights of all. -/
theorem foldlM_measure {step : γ → α → Except ε γ} (measure : γ → Nat) (counts : α → Bool)
    {values : List α}
    (raises : ∀ state value after, value ∈ values → step state value = .ok after →
      measure after = measure state + if counts value then 1 else 0)
    {start result : γ} (succeeds : values.foldlM step start = .ok result) :
    measure result = measure start + values.countP counts := by
  induction values generalizing start with
  | nil =>
    cases succeeds
    rfl
  | cons value rest ih =>
    rw [List.foldlM_cons] at succeeds
    obtain ⟨middle, first, later⟩ := bind_eq_ok succeeds
    have one := raises start value middle List.mem_cons_self first
    have others := ih (fun state other after member =>
      raises state other after (List.mem_cons_of_mem value member)) later
    rw [others, one, List.countP_cons]
    omega

/-- A measure that one value of a list raises, while the others leave it and what that value
finds alone, rises once. -/
theorem foldlM_once {step : γ → α → Except ε γ} (measure : γ → Nat) (fresh : γ → Prop)
    {values : List α} (distinct : values.Nodup) {chosen : α} (listed : chosen ∈ values)
    {weight : Nat}
    (others : ∀ state value after, value ∈ values → value ≠ chosen →
      step state value = .ok after → measure after = measure state ∧ (fresh state → fresh after))
    (once : ∀ state after, fresh state → step state chosen = .ok after →
      measure after = measure state + weight)
    {start result : γ} (starts : fresh start)
    (succeeds : values.foldlM step start = .ok result) :
    measure result = measure start + weight := by
  obtain ⟨before, later, rfl⟩ := List.append_of_mem listed
  have apart := List.nodup_middle.mp distinct
  have unchosen : ∀ value ∈ before ++ later, value ≠ chosen := by
    rintro value member rfl
    exact (List.nodup_cons.mp apart).1 member
  rw [List.foldlM_append] at succeeds
  obtain ⟨middle, ran, succeeds⟩ := bind_eq_ok succeeds
  rw [List.foldlM_cons] at succeeds
  obtain ⟨charged, chose, remaining⟩ := bind_eq_ok succeeds
  have earlier : measure middle = measure start ∧ fresh middle :=
    foldlM_keeps (fun state => measure state = measure start ∧ fresh state)
      (fun state value after member held stepped => by
        obtain ⟨kept, stays⟩ := others state value after (List.mem_append_left _ member)
          (unchosen value (List.mem_append_left _ member)) stepped
        exact ⟨kept.trans held.1, stays held.2⟩) ⟨rfl, starts⟩ ran
  have after : measure result = measure charged :=
    foldlM_keeps (fun state => measure state = measure charged)
      (fun state value next member held stepped => by
        obtain ⟨kept, _⟩ := others state value next
          (List.mem_append_right _ (List.mem_cons_of_mem _ member))
          (unchosen value (List.mem_append_right _ member)) stepped
        exact kept.trans held) rfl remaining
  rw [after, once middle charged earlier.2 chose, earlier.1]

/-- A successful traversal has the result of every step. -/
theorem mapM_eq_ok {step : α → Except ε β} {values : List α} {results : List β}
    (succeeds : values.mapM step = .ok results) :
    List.Forall₂ (fun value result => step value = .ok result) values results := by
  induction values generalizing results with
  | nil =>
    cases succeeds
    exact .nil
  | cons value rest ih =>
    rw [List.mapM_cons] at succeeds
    obtain ⟨result, one, succeeds⟩ := bind_eq_ok succeeds
    obtain ⟨tail, others, succeeds⟩ := bind_eq_ok succeeds
    cases succeeds
    exact .cons one (ih others)

/-- A traversal with a value has the value of every step. -/
theorem mapM_eq_some {step : α → Option β} {values : List α} {results : List β}
    (succeeds : values.mapM step = some results) :
    List.Forall₂ (fun value result => step value = some result) values results := by
  induction values generalizing results with
  | nil =>
    cases succeeds
    exact .nil
  | cons value rest ih =>
    rw [List.mapM_cons] at succeeds
    obtain ⟨result, one, succeeds⟩ := Option.bind_eq_some_iff.mp succeeds
    obtain ⟨tail, others, succeeds⟩ := Option.bind_eq_some_iff.mp succeeds
    cases succeeds
    exact .cons one (ih others)

/-- A traversal whose steps keep a key keeps the keys in order. -/
theorem mapM_keys {step : α → Option β} (key : α → γ) (keyed : β → γ)
    (kept : ∀ value result, step value = some result → keyed result = key value)
    {values : List α} {results : List β} (succeeds : values.mapM step = some results) :
    results.map keyed = values.map key := by
  have steps := mapM_eq_some succeeds
  clear succeeds
  induction steps with
  | nil => rfl
  | cons one _ ih =>
    rw [List.map_cons, List.map_cons, kept _ _ one]
    exact congrArg (key _ :: ·) ih

/-- Every element on the left is related to one on the right. -/
theorem exists_right {related : α → β → Prop} {lefts : List α} {rights : List β}
    (lists : List.Forall₂ related lefts rights) {left : α} (member : left ∈ lefts) :
    ∃ right ∈ rights, related left right := by
  induction lists with
  | nil => cases member
  | cons head _ ih =>
    rcases List.mem_cons.mp member with rfl | later
    · exact ⟨_, List.mem_cons_self, head⟩
    · obtain ⟨right, inside, holds⟩ := ih later
      exact ⟨right, List.mem_cons_of_mem _ inside, holds⟩

/-- Every element on the right is related to one on the left. -/
theorem exists_left {related : α → β → Prop} {lefts : List α} {rights : List β}
    (lists : List.Forall₂ related lefts rights) {right : β} (member : right ∈ rights) :
    ∃ left ∈ lefts, related left right :=
  exists_right lists.flip member

/-- Every result of a successful traversal comes from a step. -/
theorem mapM_source {step : α → Except ε β} {values : List α} {results : List β}
    (succeeds : values.mapM step = .ok results) {result : β} (member : result ∈ results) :
    ∃ value ∈ values, step value = .ok result :=
  exists_left (mapM_eq_ok succeeds) member

/-- Every step of a successful traversal contributes its result. -/
theorem mapM_step {step : α → Except ε β} {values : List α} {results : List β}
    (succeeds : values.mapM step = .ok results) {value : α} (member : value ∈ values) :
    ∃ result ∈ results, step value = .ok result :=
  exists_right (mapM_eq_ok succeeds) member

/-- A traversal succeeds exactly when every step does. -/
theorem mapM_isOk_iff {step : α → Except ε β} {values : List α} :
    (values.mapM step).isOk = true ↔ ∀ value ∈ values, (step value).isOk = true := by
  constructor
  · intro succeeds value member
    obtain ⟨results, found⟩ := exists_of_isOk succeeds
    obtain ⟨result, _, one⟩ := mapM_step found member
    rw [one]
    rfl
  · intro succeeds
    induction values with
    | nil => rfl
    | cons value rest ih =>
      obtain ⟨result, one⟩ := exists_of_isOk (succeeds value List.mem_cons_self)
      obtain ⟨tail, others⟩ := exists_of_isOk
        (ih fun other member => succeeds other (List.mem_cons_of_mem value member))
      rw [List.mapM_cons, one, others]
      rfl

/-- Traversals of related lists agree when their steps do. -/
theorem Agree.mapM {related : α → β → Prop} {results : γ → δ → Prop} {lefts : List α}
    {rights : List β} {onLeft : α → Except ε γ} {onRight : β → Except φ δ}
    (elements : List.Forall₂ related lefts rights)
    (step : ∀ x y, related x y → Agree results (onLeft x) (onRight y)) :
    Agree (List.Forall₂ results) (lefts.mapM onLeft) (rights.mapM onRight) := by
  induction elements with
  | nil => exact .success .nil
  | cons head _ tail =>
    rw [List.mapM_cons, List.mapM_cons]
    refine (step _ _ head).bind fun first second heads => ?_
    refine tail.bind fun _ _ tails => ?_
    exact .success (.cons heads tails)

/-- Folds over related lists agree when related accumulators step in agreement. -/
theorem Agree.foldlM {related : α → β → Prop} {invariant : γ → δ → Prop} {lefts : List α}
    {rights : List β} {onLeft : γ → α → Except ε γ} {onRight : δ → β → Except φ δ}
    (elements : List.Forall₂ related lefts rights)
    (step : ∀ c d x y, related x y → invariant c d →
      Agree invariant (onLeft c x) (onRight d y))
    {start : γ} {other : δ} (starts : invariant start other) :
    Agree invariant (lefts.foldlM onLeft start) (rights.foldlM onRight other) := by
  induction elements generalizing start other with
  | nil => exact .success starts
  | cons head _ tail =>
    rw [List.foldlM_cons, List.foldlM_cons]
    exact (step _ _ _ _ head starts).bind fun _ _ continues => tail continues

/-- Agreement under a transitive relation composes. -/
theorem Agree.trans_of {related : α → α → Prop}
    (transitive : ∀ x y z, related x y → related y z → related x z) {left right : Except ε α}
    {middle : Except ε α} (before : Agree related left middle)
    (after : Agree related middle right) : Agree related left right :=
  (Agree.trans before after).mono fun _ _ ⟨_, first, second⟩ => transitive _ _ _ first second

/-- Traversals of a permuted list give permuted results. -/
theorem Agree.mapM_perm {onEach : α → Except ε γ} {lefts rights : List α}
    (perm : lefts.Perm rights) :
    Agree List.Perm (lefts.mapM onEach) (rights.mapM onEach) := by
  induction perm with
  | nil => exact .success .nil
  | cons head _ ih =>
    rw [List.mapM_cons, List.mapM_cons]
    exact Agree.bind_same _ fun first => ih.bind fun _ _ tails => .success (tails.cons first)
  | swap second first tail =>
    simp only [List.mapM_cons]
    cases onEach first with
    | error failed =>
      cases onEach second with
      | error other => exact .failure _ _
      | ok value => exact .failure _ _
    | ok value =>
      cases onEach second with
      | error other => exact .failure _ _
      | ok other =>
        generalize tail.mapM onEach = others
        cases others with
        | error failed => exact .failure _ _
        | ok rest => exact .success (List.Perm.swap _ _ rest)
  | trans _ _ before after =>
    exact Agree.trans_of (fun _ _ _ first second => first.trans second) before after

/-- Folds over a permuted list agree when steps respect a relation and swapped steps agree. -/
theorem Agree.foldlM_perm (invariant : γ → γ → Prop) (commutes : α → α → Prop)
    {step : γ → α → Except ε γ} (reflexive : ∀ c, invariant c c)
    (transitive : ∀ c d e, invariant c d → invariant d e → invariant c e)
    (respects : ∀ c d x, invariant c d → Agree invariant (step c x) (step d x))
    (symmetric : ∀ x y, commutes x y → commutes y x)
    (swaps : ∀ c x y, commutes x y →
      Agree invariant (step c x >>= fun d => step d y) (step c y >>= fun d => step d x))
    {lefts rights : List α} (perm : lefts.Perm rights) (pairwise : lefts.Pairwise commutes)
    {start other : γ} (starts : invariant start other) :
    Agree invariant (lefts.foldlM step start) (rights.foldlM step other) := by
  have same : ∀ (list : List α) {c d : γ}, invariant c d →
      Agree invariant (list.foldlM step c) (list.foldlM step d) := fun list c d related =>
    Agree.foldlM (List.forall₂_same.mpr fun x _ => rfl : List.Forall₂ Eq list list)
      (fun c d x _ equal held => by subst equal; exact respects c d x held) related
  induction perm generalizing start other with
  | nil => exact .success starts
  | cons head _ ih =>
    rw [List.foldlM_cons, List.foldlM_cons]
    exact (respects _ _ head starts).bind fun _ _ held => ih (List.pairwise_cons.mp pairwise).2 held
  | swap second first tail =>
    have commuting := (List.pairwise_cons.mp pairwise).1 second (by simp)
    have regroup : ∀ x y c, (x :: y :: tail).foldlM step c =
        (step c x >>= fun d => step d y) >>= fun e => tail.foldlM step e := by
      intro x y c
      rw [List.foldlM_cons, bind_assoc]
      rfl
    have swapped : Agree invariant ((first :: second :: tail).foldlM step start)
        ((second :: first :: tail).foldlM step start) := by
      rw [regroup, regroup]
      exact (swaps start first second commuting).bind fun _ _ held => same tail held
    exact Agree.trans_of transitive swapped (same _ starts)
  | trans before _ first second =>
    exact Agree.trans_of transitive (first pairwise (reflexive start))
      (second (before.pairwise pairwise (fun held => symmetric _ _ held)) starts)

/-- The two sides fail together. -/
theorem Agree.isOk_iff {related : α → β → Prop} {left : Except ε α} {right : Except φ β}
    (agree : Agree related left right) : left.isOk = right.isOk := by
  cases agree with
  | failure first second => rfl
  | success holds => rfl

end Outcome
