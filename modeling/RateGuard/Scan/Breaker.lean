import Mathlib.Algebra.Order.Field.Rat
import RateGuard.Connector.Errors
import RateGuard.Foundation.Transition

/-!
# The circuit breaker

The breaker opens after consecutive failures and lets a trial through after its cooldown. A guard
says what it is for: nothing passes before the cooldown is over, then one call until its outcome,
and nothing after a permanent failure. The breaker follows its guard in every run in which no
success is recorded while it is open and no call asks while a trial is out.
-/

open Transition

namespace RateGuard

/-- Code of a call that an open circuit refuses. -/
def circuitOpenCode : String := "CONNECTOR_CIRCUIT_OPEN"

/-- Codes of failed authentication. -/
def authCodes : List String := ["CONNECTOR_AUTH_DENIED", "CONNECTOR_AUTH_UNAVAILABLE"]

/-- Codes of failures that last until the configuration changes. -/
def systemicPermanentCodes : List String :=
  authCodes ++ ["CONNECTOR_NOT_REGISTERED", "CONNECTOR_ENGINE_VERSION_NOT_ALLOWED",
    "CONNECTOR_ENGINE_VERSION_MISMATCH", "CONNECTOR_SCHEMA_VIOLATION",
    "CONNECTOR_UNEXPECTED_REDIRECT", "CONNECTOR_REQUEST_ID_MISMATCH"]

/-- `is_systemic_permanent`. -/
def isSystemicPermanent (code : String) : Bool := systemicPermanentCodes.contains code

/-- `CircuitBreaker`. -/
structure CircuitBreaker where
  /-- Consecutive failures that open it. -/
  threshold : Int
  /-- Seconds that it stays open. -/
  cooldown : ℚ
  /-- Failures since the last success. -/
  consecutiveFailures : Int
  /-- Moment at which it opened. -/
  openedAt : Option ℚ
  /-- Code of a permanent failure. -/
  permanentCode : Option String
  /-- Number of openings. -/
  timesOpened : Nat
  deriving DecidableEq

/-- A new breaker. -/
def CircuitBreaker.new (threshold : Int) (cooldown : ℚ) : CircuitBreaker :=
  ⟨threshold, cooldown, 0, none, none, 0⟩

/-- `allow`, at a moment. -/
def CircuitBreaker.allow (breaker : CircuitBreaker) (now : ℚ) : Bool × CircuitBreaker :=
  if breaker.permanentCode.isSome then (false, breaker)
  else
    match breaker.openedAt with
    | none => (true, breaker)
    | some since =>
      if breaker.cooldown ≤ now - since then
        (true, { breaker with openedAt := none, consecutiveFailures := breaker.threshold - 1 })
      else (false, breaker)

/-- `record_success`. -/
def CircuitBreaker.recordSuccess (breaker : CircuitBreaker) : CircuitBreaker :=
  { breaker with consecutiveFailures := 0, openedAt := none }

/-- `record_failure`, at a moment. -/
def CircuitBreaker.recordFailure (breaker : CircuitBreaker) (code : String) (isPermanent : Bool)
    (now : ℚ) : CircuitBreaker :=
  if isPermanent || isSystemicPermanent code then
    { breaker with
      permanentCode := some code
      timesOpened := breaker.timesOpened + if breaker.permanentCode.isNone then 1 else 0 }
  else
    let failed := { breaker with consecutiveFailures := breaker.consecutiveFailures + 1 }
    if breaker.threshold ≤ breaker.consecutiveFailures + 1 ∧ breaker.openedAt = none then
      { failed with openedAt := some now, timesOpened := breaker.timesOpened + 1 }
    else failed

/-- A use of the breaker. -/
inductive BreakerCall where
  | allow
  | success
  | failure (code : String) (isPermanent : Bool)
  deriving DecidableEq

/-- Breaker after a use at a moment. -/
def CircuitBreaker.use (breaker : CircuitBreaker) (now : ℚ) : BreakerCall → CircuitBreaker
  | .allow => (breaker.allow now).2
  | .success => breaker.recordSuccess
  | .failure code isPermanent => breaker.recordFailure code isPermanent now

/-- What the target has to be guarded from. -/
inductive BreakerGuard where
  /-- Calls pass. -/
  | closed
  /-- No call passes before the cooldown is over. -/
  | opened (since : ℚ)
  /-- One call has passed and its outcome is awaited. -/
  | trial
  /-- No call passes any more. -/
  | tripped
  deriving DecidableEq

/-- Whether a guard lets a call pass. -/
def BreakerGuard.passes (cooldown now : ℚ) : BreakerGuard → Bool
  | closed => true
  | opened since => cooldown ≤ now - since
  | trial | tripped => false

/-- Guard after a use of a breaker, which may open by it. -/
def BreakerGuard.next (cooldown now : ℚ) (opens : Bool) : BreakerGuard → BreakerCall → BreakerGuard
  | tripped, _ => tripped
  | closed, .allow | closed, .success => closed
  | opened since, .allow => if cooldown ≤ now - since then trial else opened since
  | opened since, .success => opened since
  | trial, .allow => trial
  | trial, .success => closed
  | phase, .failure code isPermanent =>
    if isPermanent || isSystemicPermanent code then tripped
    else
      match phase with
      | closed => if opens then opened now else closed
      | opened since => opened since
      | trial => opened now
      | tripped => tripped

/-- A breaker beside its guard. -/
structure GuardedBreaker where
  /-- Breaker. -/
  breaker : CircuitBreaker
  /-- Guard. -/
  phase : BreakerGuard

/-- A new breaker and its guard. -/
def GuardedBreaker.new (threshold : Int) (cooldown : ℚ) : GuardedBreaker :=
  ⟨.new threshold cooldown, .closed⟩

/-- Both after a use at a moment. -/
def GuardedBreaker.use (state : GuardedBreaker) (call : ℚ × BreakerCall) : GuardedBreaker :=
  let after := state.breaker.use call.1 call.2
  let opens := state.breaker.openedAt.isNone && after.openedAt.isSome
  ⟨after, state.phase.next state.breaker.cooldown call.1 opens call.2⟩

/-- A call that asks is answered as the guard says. -/
def AnsweredAsGuarded (state : GuardedBreaker) (call : ℚ × BreakerCall) : Prop :=
  call.2 = .allow →
    (state.breaker.allow call.1).1 = state.phase.passes state.breaker.cooldown call.1

instance AnsweredAsGuarded.decidable (state : GuardedBreaker) (call : ℚ × BreakerCall) :
    Decidable (AnsweredAsGuarded state call) :=
  inferInstanceAs (Decidable (_ → _))

/-- Until a permanent failure no success is recorded while the breaker is open, and no call asks
while a trial is out. -/
def Undisturbed (state : GuardedBreaker) (call : ℚ × BreakerCall) : Prop :=
  state.breaker.permanentCode = none →
    (call.2 = .success → state.breaker.openedAt = none) ∧
      (call.2 = .allow → state.phase ≠ .trial)

instance Undisturbed.decidable (state : GuardedBreaker) (call : ℚ × BreakerCall) :
    Decidable (Undisturbed state call) :=
  inferInstanceAs (Decidable (_ → _ ∧ _))

/-- How a breaker and its guard belong together. -/
def GuardedBreaker.Agrees (state : GuardedBreaker) : Prop :=
  match state.phase with
  | .closed => state.breaker.permanentCode = none ∧ state.breaker.openedAt = none
  | .opened since => state.breaker.permanentCode = none ∧ state.breaker.openedAt = some since
  | .trial => state.breaker.permanentCode = none ∧ state.breaker.openedAt = none ∧
      state.breaker.consecutiveFailures = state.breaker.threshold - 1
  | .tripped => state.breaker.permanentCode.isSome = true

section Steps

variable {breaker : CircuitBreaker} {now : ℚ}

/-- After a permanent failure nothing is allowed. -/
theorem allow_of_permanent (tripped : breaker.permanentCode.isSome = true) :
    breaker.allow now = (false, breaker) := by
  unfold CircuitBreaker.allow
  rw [if_pos tripped]

/-- A closed breaker allows. -/
theorem allow_of_closed (working : breaker.permanentCode = none)
    (closed : breaker.openedAt = none) : breaker.allow now = (true, breaker) := by
  unfold CircuitBreaker.allow
  rw [if_neg (by rw [working]; exact Bool.false_ne_true), closed]

/-- An open breaker allows once its cooldown is over, and is then half open. -/
theorem allow_of_opened {since : ℚ} (working : breaker.permanentCode = none)
    (opened : breaker.openedAt = some since) :
    breaker.allow now =
      if breaker.cooldown ≤ now - since then
        (true, { breaker with openedAt := none, consecutiveFailures := breaker.threshold - 1 })
      else (false, breaker) := by
  unfold CircuitBreaker.allow
  rw [if_neg (by rw [working]; exact Bool.false_ne_true), opened]

/-- A use keeps the cooldown. -/
theorem use_cooldown (breaker : CircuitBreaker) (now : ℚ) (call : BreakerCall) :
    (breaker.use now call).cooldown = breaker.cooldown := by
  cases call with
  | allow =>
    unfold CircuitBreaker.use CircuitBreaker.allow
    dsimp only
    split
    · rfl
    · split
      · rfl
      · split <;> rfl
  | success => rfl
  | failure code isPermanent =>
    unfold CircuitBreaker.use CircuitBreaker.recordFailure
    dsimp only
    split
    · rfl
    · split <;> rfl

/-- A permanent failure is never forgotten. -/
theorem use_permanent (tripped : breaker.permanentCode.isSome = true) (call : BreakerCall) :
    (breaker.use now call).permanentCode.isSome = true := by
  cases call with
  | allow =>
    unfold CircuitBreaker.use
    dsimp only
    rw [allow_of_permanent tripped]
    exact tripped
  | success => exact tripped
  | failure code isPermanent =>
    unfold CircuitBreaker.use CircuitBreaker.recordFailure
    dsimp only
    split
    · rfl
    · split
      · exact tripped
      · exact tripped

/-- A breaker in agreement answers as its guard says, unless a trial is out. -/
theorem answered_of_agrees {state : GuardedBreaker} (agrees : state.Agrees)
    {call : ℚ × BreakerCall} (undisturbed : Undisturbed state call) :
    AnsweredAsGuarded state call := by
  obtain ⟨breaker, phase⟩ := state
  intro asks
  cases phase with
  | closed =>
    dsimp only
    rw [allow_of_closed agrees.1 agrees.2]
    rfl
  | opened since =>
    dsimp only
    rw [allow_of_opened agrees.1 agrees.2]
    unfold BreakerGuard.passes
    split
    · next past => exact (decide_eq_true past).symm
    · next early => exact (decide_eq_false early).symm
  | trial => exact absurd rfl ((undisturbed agrees.1).2 asks)
  | tripped =>
    dsimp only
    rw [allow_of_permanent agrees]
    rfl

/-- A failure that lasts trips the breaker. -/
theorem recordFailure_systemic {code : String} {isPermanent : Bool}
    (lasts : (isPermanent || isSystemicPermanent code) = true) :
    (breaker.recordFailure code isPermanent now).permanentCode = some code := by
  unfold CircuitBreaker.recordFailure
  rw [if_pos lasts]

/-- Another failure opens a closed breaker at the threshold. -/
theorem recordFailure_counted {code : String} {isPermanent : Bool}
    (passes : (isPermanent || isSystemicPermanent code) = false) :
    breaker.recordFailure code isPermanent now =
      if breaker.threshold ≤ breaker.consecutiveFailures + 1 ∧ breaker.openedAt = none then
        { breaker with
          consecutiveFailures := breaker.consecutiveFailures + 1
          openedAt := some now
          timesOpened := breaker.timesOpened + 1 }
      else { breaker with consecutiveFailures := breaker.consecutiveFailures + 1 } := by
  unfold CircuitBreaker.recordFailure
  rw [if_neg (by rw [passes]; exact Bool.false_ne_true)]

/-- A failure that lasts trips the guard. -/
theorem next_systemic {cooldown : ℚ} {opens : Bool} {phase : BreakerGuard} {code : String}
    {isPermanent : Bool} (lasts : (isPermanent || isSystemicPermanent code) = true) :
    phase.next cooldown now opens (.failure code isPermanent) = .tripped := by
  cases phase with
  | tripped => rfl
  | closed => exact if_pos lasts
  | opened since => exact if_pos lasts
  | trial => exact if_pos lasts

/-- Recording a failure keeps the agreement. -/
theorem agrees_failure {phase : BreakerGuard} (agrees : GuardedBreaker.Agrees ⟨breaker, phase⟩)
    (code : String) (isPermanent : Bool) :
    (GuardedBreaker.use ⟨breaker, phase⟩ (now, .failure code isPermanent)).Agrees := by
  cases systemic : isPermanent || isSystemicPermanent code with
  | true =>
    unfold GuardedBreaker.use
    dsimp only
    rw [next_systemic systemic]
    show (breaker.recordFailure code isPermanent now).permanentCode.isSome = true
    rw [recordFailure_systemic systemic]
    rfl
  | false =>
    have counts : ¬(isPermanent || isSystemicPermanent code) = true := by
      rw [systemic]
      exact Bool.false_ne_true
    cases phase with
    | tripped => exact use_permanent agrees (.failure code isPermanent)
    | closed =>
      obtain ⟨working, closed⟩ := agrees
      unfold GuardedBreaker.use BreakerGuard.next
      dsimp only [CircuitBreaker.use]
      rw [recordFailure_counted systemic, if_neg counts]
      by_cases enough : breaker.threshold ≤ breaker.consecutiveFailures + 1
      · rw [if_pos ⟨enough, closed⟩, if_pos (by rw [closed]; rfl)]
        exact ⟨working, rfl⟩
      · rw [if_neg fun both => enough both.1,
          if_neg (by rw [closed]; exact Bool.false_ne_true)]
        exact ⟨working, closed⟩
    | opened since =>
      obtain ⟨working, opened⟩ := agrees
      have already : ¬breaker.openedAt = none := by
        rw [opened]
        exact Option.some_ne_none since
      unfold GuardedBreaker.use BreakerGuard.next
      dsimp only [CircuitBreaker.use]
      rw [recordFailure_counted systemic, if_neg counts, if_neg fun both => already both.2]
      exact ⟨working, opened⟩
    | trial =>
      obtain ⟨working, closed, failures⟩ := agrees
      have enough : breaker.threshold ≤ breaker.consecutiveFailures + 1 := by
        dsimp only at failures
        omega
      unfold GuardedBreaker.use BreakerGuard.next
      dsimp only [CircuitBreaker.use]
      rw [recordFailure_counted systemic, if_neg counts, if_pos ⟨enough, closed⟩]
      exact ⟨working, rfl⟩

/-- Recording a success keeps the agreement, unless the breaker is open. -/
theorem agrees_success {phase : BreakerGuard} (agrees : GuardedBreaker.Agrees ⟨breaker, phase⟩)
    (undisturbed : Undisturbed ⟨breaker, phase⟩ (now, .success)) :
    (GuardedBreaker.use ⟨breaker, phase⟩ (now, .success)).Agrees := by
  cases phase with
  | closed => exact ⟨agrees.1, rfl⟩
  | trial => exact ⟨agrees.1, rfl⟩
  | tripped => exact agrees
  | opened since =>
    have closed : breaker.openedAt = none := (undisturbed agrees.1).1 rfl
    have opened : breaker.openedAt = some since := agrees.2
    rw [closed] at opened
    cases opened

/-- Asking keeps the agreement, unless a trial is out. -/
theorem agrees_allow {phase : BreakerGuard} (agrees : GuardedBreaker.Agrees ⟨breaker, phase⟩)
    (undisturbed : Undisturbed ⟨breaker, phase⟩ (now, .allow)) :
    (GuardedBreaker.use ⟨breaker, phase⟩ (now, .allow)).Agrees := by
  cases phase with
  | closed =>
    unfold GuardedBreaker.use
    dsimp only [CircuitBreaker.use]
    rw [allow_of_closed agrees.1 agrees.2]
    exact agrees
  | opened since =>
    obtain ⟨working, opened⟩ := agrees
    unfold GuardedBreaker.use BreakerGuard.next
    dsimp only [CircuitBreaker.use]
    rw [allow_of_opened working opened]
    by_cases past : breaker.cooldown ≤ now - since
    · rw [if_pos past, if_pos past]
      exact ⟨working, rfl, rfl⟩
    · rw [if_neg past, if_neg past]
      exact ⟨working, opened⟩
  | trial => exact absurd rfl ((undisturbed agrees.1).2 rfl)
  | tripped => exact use_permanent agrees .allow

/-- Every undisturbed use keeps the agreement. -/
theorem agrees_use {state : GuardedBreaker} {call : ℚ × BreakerCall}
    (undisturbed : Undisturbed state call) (agrees : state.Agrees) : (state.use call).Agrees := by
  obtain ⟨breaker, phase⟩ := state
  obtain ⟨now, call⟩ := call
  cases call with
  | allow => exact agrees_allow agrees undisturbed
  | success => exact agrees_success agrees undisturbed
  | failure code isPermanent => exact agrees_failure agrees code isPermanent

end Steps

/-- In every run in which, until a permanent failure, no success is recorded while the breaker is
open and no call asks while a trial is out, the breaker answers every call as its guard says. -/
theorem breaker_guards (threshold : Int) (cooldown : ℚ) (calls : List (ℚ × BreakerCall))
    (undisturbed : Along GuardedBreaker.use Undisturbed (.new threshold cooldown) calls) :
    Along GuardedBreaker.use AnsweredAsGuarded (.new threshold cooldown) calls :=
  undisturbed.imp GuardedBreaker.Agrees (fun _ _ => agrees_use)
    (fun _ _ calm agrees => answered_of_agrees agrees calm) ⟨rfl, rfl⟩

/-- A breaker that opens, refuses, lets a trial through, opens again by its failure and is tripped
by a rejected authentication. -/
def calmCalls : List (ℚ × BreakerCall) :=
  [(0, .failure "CONNECTOR_TIMEOUT" false), (59, .allow), (60, .allow),
    (61, .failure "CONNECTOR_TIMEOUT" false), (120, .allow), (121, .allow),
    (122, .failure "CONNECTOR_AUTH_DENIED" false), (500, .allow)]

/-- Its calls are answered as the guard says. -/
theorem breaker_guards_calm :
    Along GuardedBreaker.use AnsweredAsGuarded (.new 1 60) calmCalls :=
  breaker_guards 1 60 calmCalls (by decide +kernel)

/-- While a trial is out a second call is allowed, and a late success of an earlier call ends the
cooldown at once. -/
theorem breaker_not_guarding :
    ¬Along GuardedBreaker.use AnsweredAsGuarded (.new 1 60)
        [(0, .failure "CONNECTOR_TIMEOUT" false), (60, .allow), (61, .allow)] ∧
      ¬Along GuardedBreaker.use AnsweredAsGuarded (.new 1 60)
        [(0, .failure "CONNECTOR_TIMEOUT" false), (1, .success), (2, .allow)] := by
  decide +kernel

end RateGuard
