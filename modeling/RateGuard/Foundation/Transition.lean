import Mathlib.Data.List.Basic

/-!
# Runs of transition systems

A system takes one event after another. A property of states that every step keeps
holds after every run; where a step keeps it only under a condition, it holds after
the runs whose steps all meet that condition in the state they are taken in.
-/

namespace Transition

variable {σ ε : Type}

/-- State after some events. -/
def run (step : σ → ε → σ) (start : σ) (events : List ε) : σ := events.foldl step start

@[simp] theorem run_nil (step : σ → ε → σ) (start : σ) : run step start [] = start := rfl

@[simp] theorem run_cons (step : σ → ε → σ) (start : σ) (event : ε) (rest : List ε) :
    run step start (event :: rest) = run step (step start event) rest := rfl

/-- A run continues where its first part ends. -/
theorem run_append (step : σ → ε → σ) (start : σ) (events later : List ε) :
    run step start (events ++ later) = run step (run step start events) later :=
  List.foldl_append

/-- A property of each step of a run, in the state the step is taken in. -/
def Along (step : σ → ε → σ) (property : σ → ε → Prop) : σ → List ε → Prop
  | _, [] => True
  | state, event :: rest => property state event ∧ Along step property (step state event) rest

instance Along.decidable {step : σ → ε → σ} {property : σ → ε → Prop}
    [decidable : ∀ state event, Decidable (property state event)] :
    ∀ (start : σ) (events : List ε), Decidable (Along step property start events)
  | _, [] => .isTrue trivial
  | start, event :: rest =>
    @instDecidableAnd _ _ (decidable start event) (Along.decidable (step start event) rest)

/-- A property of the steps of a run holds in both of its parts. -/
theorem along_append {step : σ → ε → σ} {property : σ → ε → Prop} {start : σ}
    {events later : List ε} :
    Along step property start (events ++ later) ↔
      Along step property start events ∧ Along step property (run step start events) later := by
  induction events generalizing start with
  | nil => simp [Along]
  | cons event rest ih => simp only [List.cons_append, Along, run_cons, ih, and_assoc]

/-- What each step keeps holds after every run. -/
theorem run_invariant {step : σ → ε → σ} (invariant : σ → Prop)
    (preserved : ∀ state event, invariant state → invariant (step state event)) {start : σ}
    (initial : invariant start) (events : List ε) : invariant (run step start events) := by
  induction events generalizing start with
  | nil => exact initial
  | cons event rest ih => exact ih (preserved start event initial)

/-- What each step that meets a condition keeps holds after every run of such steps. -/
theorem Along.invariant {step : σ → ε → σ} {condition : σ → ε → Prop} (invariant : σ → Prop)
    (preserved : ∀ state event, condition state event → invariant state →
      invariant (step state event))
    {start : σ} {events : List ε} (along : Along step condition start events)
    (initial : invariant start) : invariant (run step start events) := by
  induction events generalizing start with
  | nil => exact initial
  | cons event rest ih => exact ih along.2 (preserved start event along.1 initial)

/-- A condition that the events meet in every state holds along the run. -/
theorem along_of_forall {step : σ → ε → σ} {condition : ε → Prop} {start : σ} {events : List ε}
    (all : ∀ event ∈ events, condition event) :
    Along step (fun _ event => condition event) start events := by
  induction events generalizing start with
  | nil => trivial
  | cons event rest ih =>
    exact ⟨all event List.mem_cons_self, ih fun other member =>
      all other (List.mem_cons_of_mem event member)⟩

/-- A condition on steps that an invariant turns into another holds along the run too. -/
theorem Along.imp {step : σ → ε → σ} {condition property : σ → ε → Prop} (invariant : σ → Prop)
    (preserved : ∀ state event, condition state event → invariant state →
      invariant (step state event))
    (follows : ∀ state event, condition state event → invariant state → property state event)
    {start : σ} {events : List ε} (along : Along step condition start events)
    (initial : invariant start) : Along step property start events := by
  induction events generalizing start with
  | nil => trivial
  | cons event rest ih =>
    exact ⟨follows start event along.1 initial,
      ih along.2 (preserved start event along.1 initial)⟩

/-- A reflexive and transitive relation that every step respects relates the ends of a run. -/
theorem run_related {step : σ → ε → σ} (related : σ → σ → Prop)
    (reflexive : ∀ state, related state state)
    (transitive : ∀ {first second third}, related first second → related second third →
      related first third)
    (respected : ∀ state event, related state (step state event)) (start : σ) (events : List ε) :
    related start (run step start events) := by
  induction events generalizing start with
  | nil => exact reflexive start
  | cons event rest ih => exact transitive (respected start event) (ih (step start event))

section Views

variable {τ ρ : Type}

/-- Answers along a run, each given in the state that its event meets. -/
def responses (answer : σ → ε → ρ) (step : σ → ε → σ) : σ → List ε → List ρ
  | _, [] => []
  | state, event :: rest => answer state event :: responses answer step (step state event) rest

/-- A view that takes steps to steps takes runs to runs. -/
theorem run_view {view : σ → τ} {step : σ → ε → σ} {viewStep : τ → ε → τ}
    (steps : ∀ state event, view (step state event) = viewStep (view state) event) (start : σ)
    (events : List ε) : view (run step start events) = run viewStep (view start) events := by
  induction events generalizing start with
  | nil => rfl
  | cons event rest ih => rw [run_cons, run_cons, ih, steps]

/-- Where the answers depend on a view only, a run of the view gives them. -/
theorem responses_view {view : σ → τ} {step : σ → ε → σ} {viewStep : τ → ε → τ}
    {answer : σ → ε → ρ} {viewAnswer : τ → ε → ρ} {condition : σ → ε → Prop}
    (steps : ∀ state event, view (step state event) = viewStep (view state) event)
    (answers : ∀ state event, condition state event →
      answer state event = viewAnswer (view state) event) {start : σ} {events : List ε}
    (along : Along step condition start events) :
    responses answer step start events = responses viewAnswer viewStep (view start) events := by
  induction events generalizing start with
  | nil => rfl
  | cons event rest ih =>
    rw [responses, responses, answers start event along.1, ih along.2, steps]

end Views

section Purging

variable {ρ : Type}

/-- Answers to the events of one party along a run of the events of all. -/
def responsesTo (party : ε → Bool) (answer : σ → ε → ρ) (step : σ → ε → σ) : σ → List ε → List ρ
  | _, [] => []
  | state, event :: rest =>
    if party event then answer state event :: responsesTo party answer step (step state event) rest
    else responsesTo party answer step (step state event) rest

/-- Where states look alike to a party, its own events give it the same answers and states that look
alike, and the events of others change nothing that it sees, it gets the answers that it would get
alone. -/
theorem responsesTo_filter {party : ε → Bool} {answer : σ → ε → ρ} {step : σ → ε → σ}
    (alike : σ → σ → Prop)
    (own : ∀ first second event, party event = true → alike first second →
      answer first event = answer second event ∧
        alike (step first event) (step second event))
    (foreign : ∀ first second event, party event = false → alike first second →
      alike (step first event) second)
    {first second : σ} (similar : alike first second) (events : List ε) :
    responsesTo party answer step first events =
      responses answer step second (events.filter party) := by
  induction events generalizing first second with
  | nil => rfl
  | cons event rest ih =>
    cases mine : party event with
    | true =>
      obtain ⟨same, later⟩ := own first second event mine similar
      rw [responsesTo, if_pos mine, List.filter_cons_of_pos mine, responses, same, ih later]
    | false =>
      have passes : ¬party event = true := by rw [mine]; exact Bool.false_ne_true
      rw [responsesTo, if_neg passes, List.filter_cons_of_neg passes, ih (foreign first second event mine similar)]

end Purging

end Transition
