import Mathlib.Data.List.Basic

/-!
# Programs that end early

A computation may raise errors. A program works on a state, and returns a value or ends early with
a result. A triple says what holds when it returns and of the results it ends with, if something
holds before. The rules follow the way programs are put together.
-/

namespace EarlyExit

variable {σ ε α β : Type}

/-- Only allowed errors are raised. -/
def Raises (allowed : ε → Prop) (run : Except ε α) : Prop :=
  ∀ error, run = .error error → allowed error

/-- A value raises nothing. -/
theorem Raises.ok {allowed : ε → Prop} {value : α} : Raises allowed (Except.ok value) := nofun

/-- An allowed error. -/
theorem Raises.error {allowed : ε → Prop} {fault : ε} (holds : allowed fault) :
    Raises allowed (Except.error fault : Except ε α) :=
  fun _ same => Except.error.inj same ▸ holds

/-- One run after another. -/
theorem Raises.bind {allowed : ε → Prop} {run : Except ε α} {next : α → Except ε β}
    (one : Raises allowed run) (two : ∀ value, Raises allowed (next value)) :
    Raises allowed (run >>= next) := by
  intro error raised
  cases run with
  | error fault =>
    have same : fault = error := Except.error.inj raised
    exact one error (congrArg Except.error same)
  | ok value => exact two value error raised

/-- Runs on all elements of a list. -/
theorem Raises.mapM {allowed : ε → Prop} {step : α → Except ε β} {elements : List α}
    (each : ∀ element, Raises allowed (step element)) : Raises allowed (elements.mapM step) := by
  induction elements with
  | nil => exact Raises.ok
  | cons element rest ih =>
    rw [List.mapM_cons]
    exact (each element).bind fun _ => ih.bind fun _ => Raises.ok

/-- Programs over a state with early results. -/
abbrev Program (σ ε : Type) := StateT σ (Except ε)

/-- If the condition holds before a program, the values and states it returns and the results it
ends with have the other two. -/
def Triple (before : σ → Prop) (program : Program σ ε α) (after : α → σ → Prop)
    (exit : ε → Prop) : Prop :=
  ∀ state, before state →
    match program state with
    | .ok (value, later) => after value later
    | .error result => exit result

variable {before : σ → Prop} {after : α → σ → Prop} {exit : ε → Prop}

/-- A program that returns did so as the triple says. -/
theorem Triple.of_ok {program : Program σ ε α} (triple : Triple before program after exit)
    {state : σ} (holds : before state) {value : α} {later : σ}
    (returns : program state = .ok (value, later)) : after value later := by
  have outcome := triple state holds
  rw [returns] at outcome
  exact outcome

/-- A program that ends early does so as the triple says. -/
theorem Triple.of_error {program : Program σ ε α} (triple : Triple before program after exit)
    {state : σ} (holds : before state) {result : ε} (ends : program state = .error result) :
    exit result := by
  have outcome := triple state holds
  rw [ends] at outcome
  exact outcome

/-- A value is returned in the state as it is. -/
theorem Triple.pure {value : α} (holds : ∀ state, before state → after value state) :
    Triple before (Pure.pure value : Program σ ε α) after exit := holds

/-- An early result. -/
theorem Triple.throw {result : ε} (holds : ∀ state, before state → exit result) :
    Triple before (throw result : Program σ ε α) after exit := holds

/-- One program after another. -/
theorem Triple.bind {first : Program σ ε α} {next : α → Program σ ε β}
    {middle : α → σ → Prop} {after : β → σ → Prop} (one : Triple before first middle exit)
    (two : ∀ value, Triple (middle value) (next value) after exit) :
    Triple before (first >>= next) after exit := by
  intro state holds
  have outcome := one state holds
  change match (first state >>= fun found => next found.1 found.2) with
    | .ok (value, later) => after value later
    | .error result => exit result
  cases run : first state with
  | error result =>
    rw [run] at outcome
    exact outcome
  | ok found =>
    rw [run] at outcome
    exact two found.1 found.2 outcome

/-- The state is read. -/
theorem Triple.get {after : σ → σ → Prop} (holds : ∀ state, before state → after state state) :
    Triple before (get : Program σ ε σ) after exit := holds

/-- What is done with the state that is read is done in that state. -/
theorem Triple.read {next : σ → Program σ ε β} {after : β → σ → Prop}
    (each : ∀ current, Triple (fun state => state = current ∧ before state) (next current) after
      exit) : Triple before (MonadState.get >>= next) after exit :=
  fun state holds => each state state ⟨rfl, holds⟩

/-- The state is changed. -/
theorem Triple.modify {change : σ → σ} {after : PUnit → σ → Prop}
    (holds : ∀ state, before state → after ⟨⟩ (change state)) :
    Triple before (modify change : Program σ ε PUnit) after exit := holds

/-- A fact about the state before may be forgotten. -/
theorem Triple.forget {fact : σ → Prop} {program : Program σ ε α}
    (triple : Triple before program after exit) :
    Triple (fun state => fact state ∧ before state) program after exit :=
  fun state holds => triple state holds.2

/-- The state is replaced. -/
theorem Triple.set {next : σ} {after : PUnit → σ → Prop}
    (holds : ∀ state, before state → after ⟨⟩ next) :
    Triple before (set next : Program σ ε PUnit) after exit := holds

/-- What holds before for some witness may be assumed for each. -/
theorem Triple.some {ι : Sort*} {before : ι → σ → Prop} {program : Program σ ε α}
    (each : ∀ witness, Triple (before witness) program after exit) :
    Triple (fun state => ∃ witness, before witness state) program after exit :=
  fun state ⟨witness, holds⟩ => each witness state holds

/-- What holds before of no state may be assumed. -/
theorem Triple.given {fact : Prop} {program : Program σ ε α}
    (triple : fact → Triple before program after exit) :
    Triple (fun state => fact ∧ before state) program after exit :=
  fun state holds => triple holds.1 state holds.2

/-- A choice. -/
theorem Triple.ite {condition : Prop} [Decidable condition] {yes no : Program σ ε α}
    (one : condition → Triple before yes after exit)
    (two : ¬condition → Triple before no after exit) :
    Triple before (if condition then yes else no) after exit := by
  by_cases holds : condition
  · rw [if_pos holds]
    exact one holds
  · rw [if_neg holds]
    exact two holds

/-- More may hold before, and less after. -/
theorem Triple.weaken {program : Program σ ε α} {less : σ → Prop} {more : α → σ → Prop}
    {other : ε → Prop} (triple : Triple less program more other)
    (first : ∀ state, before state → less state)
    (last : ∀ value state, more value state → after value state)
    (results : ∀ result, other result → exit result) : Triple before program after exit := by
  intro state holds
  have outcome := triple state (first state holds)
  cases run : program state with
  | error result =>
    rw [run] at outcome
    exact results result outcome
  | ok found =>
    rw [run] at outcome
    exact last found.1 found.2 outcome

/-- Two triples of a program together. -/
theorem Triple.and {program : Program σ ε α} {beforeOther : σ → Prop}
    {afterOther : α → σ → Prop} {exitOther : ε → Prop}
    (one : Triple before program after exit) (two : Triple beforeOther program afterOther exitOther) :
    Triple (fun state => before state ∧ beforeOther state) program
      (fun value state => after value state ∧ afterOther value state)
      (fun result => exit result ∧ exitOther result) := by
  intro state holds
  have first := one state holds.1
  have second := two state holds.2
  cases run : program state with
  | error result =>
    rw [run] at first second
    exact ⟨first, second⟩
  | ok found =>
    rw [run] at first second
    exact ⟨first, second⟩

/-- A program that was run for each element of a list in turn keeps what each run keeps. -/
theorem Triple.forEach {elements : List α} {body : α → Program σ ε PUnit} {kept : σ → Prop}
    (each : ∀ element ∈ elements, Triple kept (body element) (fun _ => kept) exit) :
    Triple kept (elements.forM body) (fun _ => kept) exit := by
  induction elements with
  | nil => exact Triple.pure fun _ holds => holds
  | cons element rest ih =>
    change Triple kept (body element >>= fun _ => rest.forM body) (fun _ => kept) exit
    exact Triple.bind (each element List.mem_cons_self) fun _ =>
      ih fun other later => each other (List.mem_cons_of_mem element later)

end EarlyExit
