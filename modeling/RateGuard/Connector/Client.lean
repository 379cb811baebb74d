import Mathlib.Algebra.Order.Field.Rat
import RateGuard.Connector.Security

/-!
# The request loop of the connector client

A call checks its destination, then sends its request until a response is parsed, a failure cannot
be retried, the attempts are used up or the budget of the mission is. What the target answers, the
clock and the random numbers are inputs; so is the parser of a successful body.
-/

open Outcome

namespace RateGuard

variable {α : Type}

/-- Longest accepted response body. -/
def maxResponseBytes : Nat := 1 * 1024 * 1024

/-- Shortest ceiling of a delay. -/
def baseDelaySeconds : ℚ := 1 / 2

/-- Highest ceiling of a delay. -/
def maxDelaySeconds : ℚ := 30

/-- `compute_backoff_delay`, for attempts from one on. -/
def computeBackoffDelay (attempt : Nat) (random : ℚ) : ℚ :=
  random * min maxDelaySeconds (baseDelaySeconds * 2 ^ (attempt - 1))

/-- Budget of the calls of a mission. -/
structure TargetBudget where
  /-- Seconds. -/
  budgetSeconds : ℚ
  /-- Seconds as written in the message. -/
  written : String
  /-- Moment of the start. -/
  startedAt : ℚ

/-- Time left at a moment. -/
def TargetBudget.remaining (budget : TargetBudget) (now : ℚ) : ℚ :=
  budget.budgetSeconds - (now - budget.startedAt)

/-- Error of a budget that is used up. -/
def TargetBudget.exceeded (budget : TargetBudget) : ConnectorError where
  code := "CONNECTOR_TARGET_BUDGET_EXCEEDED"
  message := "Mission-level target budget of " ++ budget.written ++
    "s was exhausted before this connector call could complete."
  category := .reviewRequired
  details := []

/-- `check`. -/
def TargetBudget.check (budget : TargetBudget) (now : ℚ) : Except ConnectorRaised Unit :=
  if budget.remaining now ≤ 0 then .error (.connector budget.exceeded) else .ok ()

/-- What becomes of a request. -/
inductive Exchange where
  /-- A response, with its body in chunks. -/
  | response (status : Nat) (chunks : List (List UInt8))
  /-- A timeout. -/
  | timeout (reason : String)
  /-- Another failure of the transport. -/
  | transportError (reason : String)
  /-- No credentials for the request. -/
  | unauthenticated (message : String)
  /-- Any other exception. -/
  | aborted (kind : String)

/-- An error that is not retried. -/
def permanentError (code message : String) (details : List (String × DetailValue)) :
    ConnectorRaised :=
  .connector ⟨code, message, .nonRetryable, details⟩

/-- An error that is retried. -/
def transientError (code message : String) (details : List (String × DetailValue)) :
    ConnectorRaised :=
  .connector ⟨code, message, .retryable, details⟩

/-- `_do_request`, after a scrubber of secrets. -/
def doRequest (scrub : String → String) : Exchange → Except ConnectorRaised (Nat × List UInt8)
  | .response status chunks =>
    if 300 ≤ status ∧ status < 400 then
      .error (permanentError "CONNECTOR_UNEXPECTED_REDIRECT"
        ("Connector target returned redirect status " ++ toString status ++
          "; redirects are denied.") [("status_code", .number status)])
    else if maxResponseBytes < chunks.flatten.length then
      .error (permanentError "CONNECTOR_RESPONSE_TOO_LARGE"
        ("Connector response exceeded the " ++ toString maxResponseBytes ++ "-byte limit.") [])
    else .ok (status, chunks.flatten)
  | .timeout reason =>
    .error (transientError "CONNECTOR_TIMEOUT"
      (scrub ("Connector request timed out: " ++ reason)) [])
  | .transportError reason =>
    .error (transientError "CONNECTOR_TRANSPORT_ERROR"
      (scrub ("Connector transport error: " ++ reason)) [])
  | .unauthenticated message => .error (permanentError "CONNECTOR_AUTH_UNAVAILABLE" message [])
  | .aborted kind => .error (.other kind)

/-- `_raise_for_status`. -/
def raiseForStatus (status : Nat) : Except ConnectorRaised Unit :=
  if status = 200 then .ok ()
  else if status = 401 ∨ status = 403 then
    .error (permanentError "CONNECTOR_AUTH_DENIED"
      ("Connector target rejected authentication (status " ++ toString status ++ ").")
      [("status_code", .number status)])
  else if status = 429 ∨ 500 ≤ status ∧ status < 600 then
    .error (transientError "CONNECTOR_UPSTREAM_ERROR"
      ("Connector target returned retryable status " ++ toString status ++ ".")
      [("status_code", .number status)])
  else if 400 ≤ status ∧ status < 500 then
    .error (permanentError "CONNECTOR_REQUEST_REJECTED"
      ("Connector target rejected the request (status " ++ toString status ++ ").")
      [("status_code", .number status)])
  else
    .error (permanentError "CONNECTOR_UNEXPECTED_STATUS"
      ("Connector target returned unexpected status " ++ toString status ++ ".")
      [("status_code", .number status)])

/-- What the client does. -/
inductive ClientAction where
  /-- It sends the request. -/
  | request
  /-- It reports a retry by the code of the failure. -/
  | onRetry (code : String)
  /-- It waits. -/
  | sleep (delay : ℚ)
  deriving DecidableEq

/-- A call and what it meets, attempt by attempt. -/
structure ConnectorCall (α : Type) where
  /-- Most attempts. -/
  maxAttempts : Nat
  /-- Budget. -/
  budget : TargetBudget
  /-- Moment at which the budget is checked before an attempt. -/
  clock : Nat → ℚ
  /-- Random number behind the delay after an attempt. -/
  random : Nat → ℚ
  /-- What becomes of the request of an attempt. -/
  exchange : Nat → Exchange
  /-- Scrubber of secrets. -/
  scrub : String → String
  /-- Parser of a body. -/
  parse : List UInt8 → Except ConnectorRaised α

/-- Outcome of an attempt that sends its request. -/
def ConnectorCall.outcome (call : ConnectorCall α) (attempt : Nat) :
    Except ConnectorRaised α := do
  let (status, body) ← doRequest call.scrub (call.exchange attempt)
  raiseForStatus status
  call.parse body

/-- The loop from an attempt on, with its actions. -/
def ConnectorCall.attempts (call : ConnectorCall α) (attempt : Nat) :
    Nat → Except ConnectorRaised α × List ClientAction
  | 0 => (.error (.other "AssertionError"), [])
  | remaining + 1 =>
    match call.budget.check (call.clock attempt) with
    | .error raised => (.error raised, [])
    | .ok () =>
      match call.outcome attempt with
      | .ok result => (.ok result, [.request])
      | .error (.other kind) => (.error (.other kind), [.request])
      | .error (.connector error) =>
        if error.category ≠ .retryable ∨ remaining = 0 then
          (.error (.connector error), [.request])
        else
          let later := call.attempts (attempt + 1) remaining
          (later.1, .request :: .onRetry error.code ::
            .sleep (computeBackoffDelay attempt (call.random attempt)) :: later.2)

/-- Destination of a call. -/
structure Destination where
  /-- Scheme. -/
  scheme : String
  /-- Host. -/
  host : String
  /-- Port. -/
  port : Nat
  /-- Whether the entry is one of local development. -/
  isLocalDev : Bool

/-- `_execute`. -/
def ConnectorCall.execute (call : ConnectorCall α) (network : Network)
    (destination : Destination) : Except ConnectorRaised α × List ClientAction :=
  match network.checkDestination destination.isLocalDev destination.scheme destination.host
      destination.port with
  | .error raised => (.error raised, [])
  | .ok _ => call.attempts 1 call.maxAttempts

/-- Actions of the attempts from one on that failed with some errors and were retried. -/
def ConnectorCall.retried (call : ConnectorCall α) (attempt : Nat) :
    List ConnectorError → List ClientAction
  | [] => []
  | error :: rest =>
    .request :: .onRetry error.code ::
      .sleep (computeBackoffDelay attempt (call.random attempt)) :: call.retried (attempt + 1) rest

/-- Whether the budget lasts before an attempt. -/
def ConnectorCall.Funded (call : ConnectorCall α) (attempt : Nat) : Prop :=
  0 < call.budget.remaining (call.clock attempt)

/-- Whether a failed attempt is one that is retried. -/
def ConnectorCall.Retries (call : ConnectorCall α) (attempt : Nat) (error : ConnectorError) :
    Prop :=
  call.Funded attempt ∧ call.outcome attempt = .error (.connector error) ∧
    error.category = .retryable

/-- How the loop goes from an attempt on: some attempts fail and are retried, and then one ends it,
by its outcome or by the budget. -/
structure ConnectorCall.Course (call : ConnectorCall α) (first most : Nat)
    (errors : List ConnectorError) (result : Except ConnectorRaised α)
    (actions : List ClientAction) : Prop where
  /-- One attempt is left for the end. -/
  room : errors.length < most
  /-- The earlier attempts fail and are retried. -/
  failed : ∀ index error, errors[index]? = some error → call.Retries (first + index) error
  /-- The last attempt ends the loop. -/
  ends :
    (call.Funded (first + errors.length) ∧ actions = call.retried first errors ++ [.request] ∧
      result = call.outcome (first + errors.length) ∧
      ((∃ error, call.Retries (first + errors.length) error) → errors.length + 1 = most)) ∨
    (¬call.Funded (first + errors.length) ∧ actions = call.retried first errors ∧
      result = .error (.connector call.budget.exceeded))

section Courses

variable {call : ConnectorCall α}

/-- The budget check passes exactly while the budget lasts. -/
theorem check_eq_ok_iff {attempt : Nat} {done : Unit} :
    call.budget.check (call.clock attempt) = .ok done ↔ call.Funded attempt := by
  unfold TargetBudget.check ConnectorCall.Funded
  split
  · next late => exact ⟨fun same => (by cases same), fun lasts => absurd late (not_le.mpr lasts)⟩
  · next lasts => exact ⟨fun _ => not_le.mp lasts, fun _ => rfl⟩

/-- An attempt that fails and is retried is one more of the course of the later ones. -/
theorem Course.cons {first most : Nat} {error : ConnectorError} {errors : List ConnectorError}
    {result : Except ConnectorRaised α} {actions : List ClientAction}
    (retries : call.Retries first error)
    (later : call.Course (first + 1) most errors result actions) :
    call.Course first (most + 1) (error :: errors) result
      (.request :: .onRetry error.code ::
        .sleep (computeBackoffDelay first (call.random first)) :: actions) := by
  have shifted : first + (error :: errors).length = first + 1 + errors.length := by
    rw [List.length_cons]
    omega
  refine ⟨Nat.succ_lt_succ later.room, fun index other found => ?_, ?_⟩
  · cases index with
    | zero =>
      cases found
      exact retries
    | succ index =>
      have known := later.failed index other found
      rw [Nat.add_right_comm] at known
      exact known
  · rw [shifted]
    rcases later.ends with ⟨funded, same, ends, last⟩ | ⟨late, same, ends⟩
    · refine .inl ⟨funded, ?_, ends, fun retried => ?_⟩
      · rw [same]
        rfl
      · rw [List.length_cons, last retried]
    · refine .inr ⟨late, ?_, ends⟩
      rw [same]
      rfl

/-- The loop goes its course. -/
theorem attempts_course (call : ConnectorCall α) (remaining first : Nat) (some : 0 < remaining) :
    ∃ errors, call.Course first remaining errors (call.attempts first remaining).1
      (call.attempts first remaining).2 := by
  induction remaining generalizing first with
  | zero => exact absurd some (Nat.lt_irrefl 0)
  | succ remaining ih =>
    unfold ConnectorCall.attempts
    cases checked : call.budget.check (call.clock first) with
    | error raised =>
      have late : ¬call.Funded first := by
        intro funded
        have passes : call.budget.check (call.clock first) = .ok () := check_eq_ok_iff.mpr funded
        rw [passes] at checked
        cases checked
      have same : raised = .connector call.budget.exceeded := by
        unfold TargetBudget.check at checked
        split at checked
        · exact (Except.error.inj checked).symm
        · cases checked
      rw [same]
      exact ⟨[], Nat.succ_pos _, fun index error found => (by cases found), .inr ⟨late, rfl, rfl⟩⟩
    | ok done =>
      have funded : call.Funded first := check_eq_ok_iff.mp checked
      dsimp only
      cases outcome : call.outcome first with
      | ok result =>
        refine ⟨[], Nat.succ_pos _, fun index error found => (by cases found),
          .inl ⟨funded, rfl, outcome.symm, ?_⟩⟩
        rintro ⟨error, -, failed, -⟩
        rw [List.length_nil, Nat.add_zero, outcome] at failed
        cases failed
      | error raised =>
        cases raised with
        | other kind =>
          refine ⟨[], Nat.succ_pos _, fun index error found => (by cases found),
            .inl ⟨funded, rfl, outcome.symm, ?_⟩⟩
          rintro ⟨error, -, failed, -⟩
          rw [List.length_nil, Nat.add_zero, outcome] at failed
          cases failed
        | connector error =>
          dsimp only
          split
          · next ends =>
            refine ⟨[], Nat.succ_pos _, fun index error found => (by cases found),
              .inl ⟨funded, rfl, outcome.symm, ?_⟩⟩
            rintro ⟨other, -, failed, retryable⟩
            rw [List.length_nil, Nat.add_zero, outcome] at failed
            cases failed
            rcases ends with permanent | last
            · exact absurd retryable permanent
            · rw [last]
              rfl
          · next goes =>
            obtain ⟨retryable, more⟩ := not_or.mp goes
            obtain ⟨errors, course⟩ := ih (first + 1) (Nat.pos_of_ne_zero more)
            exact ⟨error :: errors,
              Course.cons ⟨funded, outcome, not_not.mp retryable⟩ course⟩

/-- Whether an action is a request. -/
def ClientAction.isRequest : ClientAction → Bool
  | request => true
  | onRetry _ | sleep _ => false

/-- Whether an action reports a retry. -/
def ClientAction.isOnRetry : ClientAction → Bool
  | onRetry _ => true
  | request | sleep _ => false

/-- Each retried attempt sent one request. -/
theorem countP_retried (call : ConnectorCall α) (first : Nat) (errors : List ConnectorError) :
    (call.retried first errors).countP ClientAction.isRequest = errors.length := by
  induction errors generalizing first with
  | nil => rfl
  | cons error rest ih =>
    rw [ConnectorCall.retried, List.countP_cons_of_pos rfl,
      List.countP_cons_of_neg Bool.false_ne_true, List.countP_cons_of_neg Bool.false_ne_true, ih]
    rfl

/-- Actions where one retry is reported between any two requests that follow one another. -/
def Alternates (actions : List ClientAction) : Prop :=
  ∀ before between after, actions = before ++ .request :: (between ++ .request :: after) →
    .request ∉ between → between.countP ClientAction.isOnRetry = 1

/-- No two requests follow one another where there is at most one. -/
theorem alternates_short {actions : List ClientAction}
    (short : actions = [] ∨ actions = [.request]) : Alternates actions := by
  intro before between after split _
  have lengths := congrArg List.length split
  simp only [List.length_append, List.length_cons] at lengths
  rcases short with rfl | rfl
  · rw [List.length_nil] at lengths
    omega
  · rw [List.length_singleton] at lengths
    omega

/-- A retried attempt reports its retry before the next request. -/
theorem alternates_cons {code : String} {delay : ℚ} {actions : List ClientAction}
    (starts : actions = [] ∨ ∃ rest, actions = .request :: rest) (later : Alternates actions) :
    Alternates (.request :: .onRetry code :: .sleep delay :: actions) := by
  intro before between after split silent
  cases before with
  | nil =>
    simp only [List.nil_append, List.cons.injEq, true_and] at split
    -- The actions in between start with the report and the delay, and end there.
    cases between with
    | nil => cases split
    | cons reported between =>
      simp only [List.cons_append, List.cons.injEq] at split
      obtain ⟨rfl, split⟩ := split
      cases between with
      | nil => cases split
      | cons waited between =>
        simp only [List.cons_append, List.cons.injEq] at split
        obtain ⟨rfl, split⟩ := split
        cases between with
        | nil => rfl
        | cons next between =>
          rcases starts with none | ⟨more, begins⟩
          · rw [none] at split
            cases split
          · rw [begins, List.cons_append, List.cons.injEq] at split
            obtain ⟨rfl, -⟩ := split
            exact absurd (by simp) silent
  | cons first before =>
    simp only [List.cons_append, List.cons.injEq] at split
    obtain ⟨-, split⟩ := split
    cases before with
    | nil =>
      rw [List.nil_append, List.cons.injEq] at split
      cases split.1
    | cons reported before =>
      simp only [List.cons_append, List.cons.injEq] at split
      obtain ⟨-, split⟩ := split
      cases before with
      | nil =>
        rw [List.nil_append, List.cons.injEq] at split
        cases split.1
      | cons waited before =>
        simp only [List.cons_append, List.cons.injEq] at split
        exact later before between after split.2 silent

/-- Retried attempts, with or without one that ends the loop, alternate. -/
theorem alternates_retried {first : Nat} {errors : List ConnectorError}
    {tail : List ClientAction} (short : tail = [] ∨ tail = [.request]) :
    Alternates (call.retried first errors ++ tail) := by
  induction errors generalizing first with
  | nil => exact alternates_short short
  | cons error rest ih =>
    refine alternates_cons ?_ ih
    cases rest with
    | nil => exact short.imp id fun one => ⟨[], one⟩
    | cons next rest => exact .inr ⟨_, rfl⟩

end Courses

/-- A call whose destination is refused sends nothing and raises the refusal. Every other call with
at least one attempt goes a course: it sends at most as many requests as attempts, reports one retry
between any two that follow one another, and every attempt before the last failed in a way that may
be retried within the budget; it ends with the outcome of the last request, a retryable failure only
when the attempts are used up, or with the error of the budget when that is. -/
theorem execute_spends (call : ConnectorCall α) (some : 0 < call.maxAttempts)
    (network : Network) (destination : Destination) :
    let checked := network.checkDestination destination.isLocalDev destination.scheme
      destination.host destination.port
    let run := call.execute network destination
    (∀ raised, checked = .error raised → run = (.error raised, [])) ∧
      (checked.isOk = true → run.2.countP ClientAction.isRequest ≤ call.maxAttempts ∧
        Alternates run.2 ∧ ∃ errors, call.Course 1 call.maxAttempts errors run.1 run.2) := by
  dsimp only
  unfold ConnectorCall.execute
  cases network.checkDestination destination.isLocalDev destination.scheme destination.host
      destination.port with
  | error raised =>
    refine ⟨fun other same => ?_, fun accepted => by cases accepted⟩
    rw [Except.error.inj same]
  | ok addresses =>
    refine ⟨fun raised refused => (by cases refused), fun _ => ?_⟩
    obtain ⟨errors, course⟩ := attempts_course call call.maxAttempts 1 some
    have room : errors.length < call.maxAttempts := course.room
    rcases course.ends with ⟨-, same, -, -⟩ | ⟨-, same, -⟩
    · refine ⟨?_, ?_, errors, course⟩
      · dsimp only
        rw [same, List.countP_append, countP_retried]
        exact room
      · dsimp only
        rw [same]
        exact alternates_retried (.inr rfl)
    · refine ⟨?_, ?_, errors, course⟩
      · dsimp only
        rw [same, countP_retried]
        exact Nat.le_of_lt room
      · dsimp only
        rw [same, ← List.append_nil (call.retried 1 errors)]
        exact alternates_retried (.inl rfl)

/-- A call that times out, meets a busy target and is then answered. -/
def patientCall : ConnectorCall Nat where
  maxAttempts := 3
  budget := ⟨60, "60.0", 0⟩
  clock := fun attempt => attempt
  random := fun _ => 0
  exchange := fun attempt =>
    if attempt = 1 then .timeout "read" else if attempt = 2 then .response 503 []
    else .response 200 [[1, 2]]
  scrub := id
  parse := fun body => .ok body.length

/-- It sends three requests, two of them retried, and returns the third answer. -/
theorem execute_spends_patient :
    let run := patientCall.execute loopbackNetwork ⟨"http", "127.0.0.1", 80, true⟩
    run.2.countP ClientAction.isRequest ≤ 3 ∧
      run.1.toOption = some 2 ∧
      run.2 = [.request, .onRetry "CONNECTOR_TIMEOUT", .sleep 0, .request,
        .onRetry "CONNECTOR_UPSTREAM_ERROR", .sleep 0, .request] := by
  exact ⟨((execute_spends patientCall (by decide) loopbackNetwork
    ⟨"http", "127.0.0.1", 80, true⟩).2 rfl).1, by decide +kernel, by decide +kernel⟩

end RateGuard
