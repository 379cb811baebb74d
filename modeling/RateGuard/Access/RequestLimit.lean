import RateGuard.Foundation.Text
import Mathlib.Algebra.BigOperators.Group.List.Basic

/-!
# Limit on the size of requests

The application behind the limit asks for the messages of a request and sends those of a response.
The limit stands between it and the server: it counts the bytes that the application gets, fails the
access that would exceed the limit, holds back what the application sends from then on, and answers
in its place unless a response has begun. A request within the limit is served as without it.
-/

namespace RateGuard

/-- A message of a request. -/
inductive RequestMessage where
  /-- `http.request`, a part of the body and whether there is more. -/
  | request (body : List UInt8) (more : Bool)
  /-- `http.disconnect`. -/
  | disconnect
  deriving DecidableEq

/-- A message of a response. -/
inductive ResponseMessage where
  /-- `http.response.start`. -/
  | start (status : Nat) (headers : List (String × String))
  /-- `http.response.body`, a part of the body and whether there is more. -/
  | body (content : String) (more : Bool)
  /-- A message of another type. -/
  | other (kind : String)
  deriving DecidableEq

/-- `http.response.start`. -/
def ResponseMessage.starts : ResponseMessage → Bool
  | .start _ _ => true
  | .body _ _ | .other _ => false

/-- Exceptions that an application sees or raises. -/
inductive ApplicationError where
  /-- `_BodyTooLarge`. -/
  | bodyTooLarge
  /-- Another exception. -/
  | other (kind : String)
  deriving DecidableEq

/-- An application by the accesses that it makes one after another. -/
inductive Application where
  /-- It asks for a message, and goes on with it or with an exception. -/
  | receive (next : Except ApplicationError RequestMessage → Application)
  /-- It sends a message and goes on. -/
  | send (message : ResponseMessage) (next : Application)
  /-- It returns. -/
  | finished
  /-- It raises. -/
  | raised (error : ApplicationError)

/-- What the client sends: messages, and then that it is gone. -/
def nextMessage : List RequestMessage → RequestMessage × List RequestMessage
  | [] => (.disconnect, [])
  | message :: rest => (message, rest)

namespace RequestMessage

/-- Bytes of a message's body. -/
def size : RequestMessage → Nat
  | .request body _ => body.length
  | .disconnect => 0

/-- Bytes of the bodies of some messages. -/
def total (messages : List RequestMessage) : Nat := (messages.map size).sum

end RequestMessage

/-- An access of an application as the limit sees it. -/
inductive GuardedAccess where
  /-- A message that the application gets. -/
  | delivered (message : RequestMessage)
  /-- A message whose access fails. -/
  | aborted (message : RequestMessage)
  /-- A message that is passed on. -/
  | passed (message : ResponseMessage)
  /-- A message that is held back. -/
  | swallowed (message : ResponseMessage)
  deriving DecidableEq

namespace GuardedAccess

/-- The message that the application gets. -/
def delivery : GuardedAccess → Option RequestMessage
  | .delivered message => some message
  | .aborted _ | .passed _ | .swallowed _ => none

/-- The message that the server gets. -/
def response : GuardedAccess → Option ResponseMessage
  | .passed message => some message
  | .delivered _ | .aborted _ | .swallowed _ => none

end GuardedAccess

/-- What `limited_receive` and `guarded_send` remember. -/
structure LimitState where
  /-- `received`. -/
  received : Nat
  /-- `exceeded`. -/
  exceeded : Bool
  /-- `response_started`. -/
  responseStarted : Bool

/-- State before the application is called. -/
def LimitState.initial : LimitState := ⟨0, false, false⟩

/-- `limited_receive`: the access and the state after it. -/
def LimitState.receive (maxBytes : Nat) (state : LimitState) (message : RequestMessage) :
    GuardedAccess × LimitState :=
  match message with
  | .disconnect => (.delivered message, state)
  | .request body _ =>
    if maxBytes < state.received + body.length then
      (.aborted message, { state with received := state.received + body.length, exceeded := true })
    else (.delivered message, { state with received := state.received + body.length })

/-- `guarded_send`: the access and the state after it. -/
def LimitState.send (state : LimitState) (message : ResponseMessage) : GuardedAccess × LimitState :=
  if state.exceeded then (.swallowed message, state)
  else (.passed message, { state with responseStarted := state.responseStarted || message.starts })

/-- What an access for a message returns or raises. -/
def GuardedAccess.result : GuardedAccess → RequestMessage → Except ApplicationError RequestMessage
  | .aborted _, _ => .error .bodyTooLarge
  | .delivered _, message | .passed _, message | .swallowed _, message => .ok message

/-- How a call ended, with what was done until then. -/
structure GuardedCall where
  /-- Accesses in their order. -/
  accesses : List GuardedAccess
  /-- Return or exception. -/
  ending : Except ApplicationError Unit
  /-- State after the last access. -/
  state : LimitState

/-- A call with one more access in front. -/
def GuardedCall.after (access : GuardedAccess) (call : GuardedCall) : GuardedCall :=
  { call with accesses := access :: call.accesses }

/-- The call of an application behind the limit. -/
def guardedCall (maxBytes : Nat) :
    Application → List RequestMessage → LimitState → GuardedCall
  | .receive next, incoming, state =>
    let step := state.receive maxBytes (nextMessage incoming).1
    (guardedCall maxBytes (next (step.1.result (nextMessage incoming).1)) (nextMessage incoming).2
      step.2).after step.1
  | .send message next, incoming, state =>
    let step := state.send message
    (guardedCall maxBytes next incoming step.2).after step.1
  | .finished, _, state => ⟨[], .ok (), state⟩
  | .raised error, _, state => ⟨[], .error error, state⟩

/-- What a server gets from an application: messages, and a return or an exception. -/
structure Served where
  /-- Messages of the response. -/
  sent : List ResponseMessage
  /-- Return or exception. -/
  ending : Except ApplicationError Unit

/-- The call of an application without the limit. -/
def serve : Application → List RequestMessage → Served
  | .receive next, incoming => serve (next (.ok (nextMessage incoming).1)) (nextMessage incoming).2
  | .send message next, incoming =>
    { serve next incoming with sent := message :: (serve next incoming).sent }
  | .finished, _ => ⟨[], .ok ()⟩
  | .raised error, _ => ⟨[], .error error⟩

/-- `_too_large_body`. -/
def tooLargeBody (code : String) : String :=
  "\x7b\"detail\": \x7b\"code\": \"" ++ code ++
    "\", \"message\": \"The request body is too large or malformed.\"\x7d\x7d"

/-- `_reject`. -/
def reject (status : Nat) (code : String) : List ResponseMessage :=
  [.start status [("content-type", "application/json"),
      ("content-length", String.ofList (Text.digitsOf (tooLargeBody code).length))],
    .body (tooLargeBody code) false]

/-- The fixed answer to a request that is too large. -/
def tooLarge : List ResponseMessage := reject 413 "REQUEST_TOO_LARGE"

/-- Whether a call ends with an exception that is not the limit's. -/
def GuardedCall.crashes (call : GuardedCall) : Bool :=
  match call.ending with
  | .error (.other _) => true
  | .ok () | .error .bodyTooLarge => false

/-- What the server gets from a call behind the limit. -/
def GuardedCall.served (call : GuardedCall) : Served :=
  let sent := call.accesses.filterMap GuardedAccess.response
  match call.ending with
  | .error (.other kind) => ⟨sent, .error (.other kind)⟩
  | .ok () | .error .bodyTooLarge =>
    if call.state.exceeded && !call.state.responseStarted then ⟨sent ++ tooLarge, .ok ()⟩
    else ⟨sent, .ok ()⟩

/-- Bytes that `int` accepts around a number. -/
def isByteSpace (character : Char) : Bool := [9, 10, 11, 12, 13, 32].contains character.toNat

/-- Largest number of digits that `int` reads. -/
def maxIntDigits : Nat := 4300

/-- `int` of bytes, each read as the character of its value. -/
def bytesInt (text : List Char) : Option Int :=
  let stripped := (text.dropWhile isByteSpace).rdropWhile isByteSpace
  if stripped.any (fun character => 128 ≤ character.toNat || Text.isSpace character) ||
      maxIntDigits < stripped.countP Char.isDigit then none
  else Text.parseInt stripped

/-- What a request says before its body. -/
structure RequestScope where
  /-- Type of the connection. -/
  kind : String
  /-- Names and values of the headers. -/
  headers : List (List Char × List Char)

/-- The declared length of the body: the last header of that name. -/
def RequestScope.declared (scope : RequestScope) : Option (List Char) :=
  (scope.headers.reverse.find? fun header => header.1 = "content-length".toList).map Prod.snd

/-- `RequestSizeLimitMiddleware.__call__`. -/
def limitedServe (maxBytes : Nat) (application : Application) (scope : RequestScope)
    (incoming : List RequestMessage) : Served :=
  if scope.kind ≠ "http" then serve application incoming
  else
    match scope.declared with
    | none => (guardedCall maxBytes application incoming .initial).served
    | some text =>
      match bytesInt text with
      | none => ⟨reject 400 "BAD_CONTENT_LENGTH", .ok ()⟩
      | some length =>
        if (maxBytes : Int) < length then ⟨tooLarge, .ok ()⟩
        else (guardedCall maxBytes application incoming .initial).served

/-- Whether a request declares no length or one within the limit. -/
def RequestScope.Admissible (maxBytes : Nat) (scope : RequestScope) : Prop :=
  ∀ text, scope.declared = some text → ∃ length, bytesInt text = some length ∧ length ≤ maxBytes

/-- Messages that a plain call of an application takes. -/
def consumed : Application → List RequestMessage → List RequestMessage
  | .receive next, incoming =>
    (nextMessage incoming).1 ::
      consumed (next (.ok (nextMessage incoming).1)) (nextMessage incoming).2
  | .send _ next, incoming => consumed next incoming
  | .finished, _ | .raised _, _ => []

section Exceeded

variable {maxBytes : Nat}

/-- Behind an exceeded limit no body gets through to the application and nothing to the server. -/
theorem guardedCall_exceeded (application : Application) (incoming : List RequestMessage)
    (state : LimitState) (exceeded : state.exceeded = true) (above : maxBytes < state.received) :
    (∀ access ∈ (guardedCall maxBytes application incoming state).accesses,
      access.response = none ∧ ∀ message, access.delivery = some message → message = .disconnect) ∧
    (guardedCall maxBytes application incoming state).state.exceeded = true ∧
    (guardedCall maxBytes application incoming state).state.responseStarted =
      state.responseStarted := by
  induction application generalizing incoming state with
  | finished => exact ⟨fun access inside => (by cases inside), exceeded, rfl⟩
  | raised error => exact ⟨fun access inside => (by cases inside), exceeded, rfl⟩
  | send message next ih =>
    have held : state.send message = (.swallowed message, state) := if_pos exceeded
    unfold guardedCall
    rw [held]
    obtain ⟨silent, later, same⟩ := ih incoming _ exceeded above
    refine ⟨fun access inside => ?_, later, same⟩
    rcases List.mem_cons.mp inside with rfl | inside
    · exact ⟨rfl, nofun⟩
    · exact silent access inside
  | receive next ih =>
    unfold guardedCall
    cases first : (nextMessage incoming).1 with
    | disconnect =>
      obtain ⟨silent, later, same⟩ := ih (.ok .disconnect) (nextMessage incoming).2 _ exceeded above
      refine ⟨fun access inside => ?_, later, same⟩
      rcases List.mem_cons.mp inside with rfl | inside
      · exact ⟨rfl, fun message same => (Option.some.inj same).symm⟩
      · exact silent access inside
    | request body more =>
      have fails : maxBytes < state.received + body.length := Nat.lt_add_right body.length above
      have step : state.receive maxBytes (.request body more) =
          (.aborted (.request body more),
            { state with received := state.received + body.length, exceeded := true }) :=
        if_pos fails
      rw [step]
      obtain ⟨silent, later, same⟩ :=
        ih (.error .bodyTooLarge) (nextMessage incoming).2 { state with
          received := state.received + body.length, exceeded := true } rfl fails
      refine ⟨fun access inside => ?_, later, same⟩
      rcases List.mem_cons.mp inside with rfl | inside
      · exact ⟨rfl, nofun⟩
      · exact silent access inside

end Exceeded

/-- A call in two parts: one within the limit, and one from the access on that exceeds it. -/
structure Divided (maxBytes : Nat) (state : LimitState) (call : GuardedCall)
    (before after : List GuardedAccess) : Prop where
  /-- The two parts are the call. -/
  accesses : call.accesses = before ++ after
  /-- In the first part all messages get through. -/
  passing : ∀ access ∈ before, access.delivery ≠ none ∨ access.response ≠ none
  /-- The bodies of the first part are within the limit. -/
  bounded : state.received + RequestMessage.total (before.filterMap GuardedAccess.delivery) ≤
    maxBytes
  /-- A response has begun if the first part begins one. -/
  begun : call.state.responseStarted = (state.responseStarted ||
    (before.filterMap GuardedAccess.response).any ResponseMessage.starts)
  /-- The second part begins with an access that would exceed the limit and fails, and lets neither
  body nor response through. -/
  closed : (after = [] ∧ call.state.exceeded = false) ∨
    ∃ body more rest, after = .aborted (.request body more) :: rest ∧
      maxBytes < state.received + RequestMessage.total (before.filterMap GuardedAccess.delivery) +
        body.length ∧
      call.state.exceeded = true ∧
      ∀ access ∈ rest, access.response = none ∧
        ∀ message, access.delivery = some message → message = .disconnect

/-- A call that begins within the limit has the two parts. -/
theorem guardedCall_divided {maxBytes : Nat} (application : Application)
    (incoming : List RequestMessage) (state : LimitState) (inside : state.exceeded = false)
    (within : state.received ≤ maxBytes) :
    ∃ before after,
      Divided maxBytes state (guardedCall maxBytes application incoming state) before after := by
  induction application generalizing incoming state with
  | finished =>
    exact ⟨[], [], rfl, (fun access member => by cases member), within, (Bool.or_false _).symm,
      .inl ⟨rfl, inside⟩⟩
  | raised error =>
    exact ⟨[], [], rfl, (fun access member => by cases member), within, (Bool.or_false _).symm,
      .inl ⟨rfl, inside⟩⟩
  | send message next ih =>
    have step : state.send message = (.passed message,
        { state with responseStarted := state.responseStarted || message.starts }) :=
      if_neg (by rw [inside]; exact Bool.false_ne_true)
    obtain ⟨before, after, rest⟩ := ih incoming { state with
      responseStarted := state.responseStarted || message.starts } inside within
    unfold guardedCall
    rw [step]
    refine ⟨.passed message :: before, after, ?_, ?_, rest.bounded, ?_, rest.closed⟩
    · exact congrArg (GuardedAccess.passed message :: ·) rest.accesses
    · intro access member
      rcases List.mem_cons.mp member with rfl | later
      · exact .inr nofun
      · exact rest.passing access later
    · exact rest.begun.trans (Bool.or_assoc _ _ _)
  | receive next ih =>
    unfold guardedCall
    cases first : (nextMessage incoming).1 with
    | disconnect =>
      obtain ⟨before, after, rest⟩ := ih (.ok .disconnect) (nextMessage incoming).2 _ inside within
      have total : RequestMessage.total
          ((GuardedAccess.delivered .disconnect :: before).filterMap GuardedAccess.delivery) =
          RequestMessage.total (before.filterMap GuardedAccess.delivery) := by
        simp [RequestMessage.total, GuardedAccess.delivery, RequestMessage.size]
      refine ⟨.delivered .disconnect :: before, after, ?_, ?_, ?_, rest.begun, ?_⟩
      · exact congrArg (GuardedAccess.delivered .disconnect :: ·) rest.accesses
      · intro access member
        rcases List.mem_cons.mp member with rfl | later
        · exact .inl nofun
        · exact rest.passing access later
      · rw [total]
        exact rest.bounded
      · rw [total]
        exact rest.closed
    | request body more =>
      by_cases fails : maxBytes < state.received + body.length
      · have step : state.receive maxBytes (.request body more) =
            (.aborted (.request body more),
              { state with received := state.received + body.length, exceeded := true }) :=
          if_pos fails
        rw [step]
        obtain ⟨silent, later, same⟩ := guardedCall_exceeded (next (.error .bodyTooLarge))
          (nextMessage incoming).2 { state with
            received := state.received + body.length, exceeded := true } rfl fails
        refine ⟨[], .aborted (.request body more) ::
            (guardedCall maxBytes (next (.error .bodyTooLarge)) (nextMessage incoming).2
              { state with received := state.received + body.length, exceeded := true }).accesses,
          rfl, (fun access member => by cases member), within, ?_, .inr ⟨body, more, _, rfl, ?_,
            later, silent⟩⟩
        · exact same.trans (Bool.or_false _).symm
        · exact fails
      · have step : state.receive maxBytes (.request body more) =
            (.delivered (.request body more),
              { state with received := state.received + body.length }) :=
          if_neg fails
        rw [step]
        obtain ⟨before, after, rest⟩ := ih (.ok (.request body more)) (nextMessage incoming).2
          { state with received := state.received + body.length } inside
          (Nat.le_of_not_lt fails)
        have total : state.received + RequestMessage.total
            ((GuardedAccess.delivered (.request body more) :: before).filterMap
              GuardedAccess.delivery) =
            state.received + body.length +
              RequestMessage.total (before.filterMap GuardedAccess.delivery) := by
          simp [RequestMessage.total, GuardedAccess.delivery, RequestMessage.size, Nat.add_assoc]
        refine ⟨.delivered (.request body more) :: before, after, ?_, ?_, ?_, rest.begun, ?_⟩
        · exact congrArg (GuardedAccess.delivered (.request body more) :: ·) rest.accesses
        · intro access member
          rcases List.mem_cons.mp member with rfl | later
          · exact .inl nofun
          · exact rest.passing access later
        · rw [total]
          exact rest.bounded
        · rw [total]
          exact rest.closed

/-- A request whose headers do not decide about it reaches the application. -/
theorem limitedServe_admissible {maxBytes : Nat} {scope : RequestScope} (http : scope.kind = "http")
    (admissible : scope.Admissible maxBytes) (application : Application)
    (incoming : List RequestMessage) :
    limitedServe maxBytes application scope incoming =
      (guardedCall maxBytes application incoming .initial).served := by
  unfold limitedServe
  rw [if_neg (not_not.mpr http)]
  cases declares : scope.declared with
  | none => rfl
  | some text =>
    obtain ⟨length, read, small⟩ := admissible text declares
    dsimp only
    rw [read]
    exact if_neg (not_lt.mpr small)

/-- For every application and every request over HTTP: a declared length that is malformed or above
the limit is answered without the application. Otherwise the application gets no more bytes than the
limit; up to the first access that would exceed it, everything is passed on; from then on nothing the
application sends is, and no body gets through. The client then sees exactly the fixed answer behind
what was passed, unless a response had begun or the application failed by another exception. -/
theorem limitedServe_limits (maxBytes : Nat) (application : Application) (scope : RequestScope)
    (http : scope.kind = "http") (incoming : List RequestMessage) :
    (¬scope.Admissible maxBytes →
      limitedServe maxBytes application scope incoming = ⟨tooLarge, .ok ()⟩ ∨
      limitedServe maxBytes application scope incoming =
        ⟨reject 400 "BAD_CONTENT_LENGTH", .ok ()⟩) ∧
    (scope.Admissible maxBytes → ∃ before after,
      Divided maxBytes .initial (guardedCall maxBytes application incoming .initial) before after ∧
      RequestMessage.total ((guardedCall maxBytes application incoming .initial).accesses.filterMap
        GuardedAccess.delivery) ≤ maxBytes ∧
      (limitedServe maxBytes application scope incoming).sent =
        before.filterMap GuardedAccess.response ++
          if after ≠ [] ∧ (before.filterMap GuardedAccess.response).any
              ResponseMessage.starts = false ∧
            (guardedCall maxBytes application incoming .initial).crashes = false
          then tooLarge else []) := by
  constructor
  · intro inadmissible
    unfold limitedServe
    rw [if_neg (not_not.mpr http)]
    cases declares : scope.declared with
    | none =>
      refine absurd (fun text same => ?_) inadmissible
      rw [declares] at same
      cases same
    | some text =>
      dsimp only
      cases read : bytesInt text with
      | none => exact .inr rfl
      | some length =>
        dsimp only
        by_cases large : (maxBytes : Int) < length
        · rw [if_pos large]
          exact .inl rfl
        · refine absurd (fun other same => ?_) inadmissible
          rw [declares] at same
          cases same
          exact ⟨length, read, not_lt.mp large⟩
  · intro admissible
    rw [limitedServe_admissible http admissible]
    obtain ⟨before, after, divided⟩ := guardedCall_divided application incoming .initial
      rfl (Nat.zero_le maxBytes)
    have quiet : after.filterMap GuardedAccess.response = [] ∧
        RequestMessage.total (after.filterMap GuardedAccess.delivery) = 0 := by
      rcases divided.closed with ⟨rfl, -⟩ | ⟨body, more, rest, rfl, -, -, silent⟩
      · exact ⟨rfl, rfl⟩
      · constructor
        · refine List.filterMap_eq_nil_iff.mpr fun access member => ?_
          rcases List.mem_cons.mp member with rfl | later
          · rfl
          · exact (silent access later).1
        · refine List.sum_eq_zero fun size member => ?_
          obtain ⟨message, delivered, rfl⟩ := List.mem_map.mp member
          obtain ⟨access, inside, same⟩ := List.mem_filterMap.mp delivered
          rcases List.mem_cons.mp inside with rfl | later
          · cases same
          · rw [(silent access later).2 message same]
            rfl
    have sent : (guardedCall maxBytes application incoming .initial).accesses.filterMap
        GuardedAccess.response = before.filterMap GuardedAccess.response := by
      rw [divided.accesses, List.filterMap_append, quiet.1, List.append_nil]
    refine ⟨before, after, divided, ?_, ?_⟩
    · rw [divided.accesses, List.filterMap_append]
      unfold RequestMessage.total at quiet ⊢
      rw [List.map_append, List.sum_append, quiet.2, Nat.add_zero]
      have bounded := divided.bounded
      rwa [LimitState.initial, Nat.zero_add] at bounded
    · have begun : (guardedCall maxBytes application incoming .initial).state.responseStarted =
          (before.filterMap GuardedAccess.response).any ResponseMessage.starts := by
        rw [divided.begun, LimitState.initial, Bool.false_or]
      have exceeded : (guardedCall maxBytes application incoming .initial).state.exceeded = true ↔
          after ≠ [] := by
        rcases divided.closed with ⟨rfl, within⟩ | ⟨body, more, rest, rfl, -, above, -⟩
        · rw [within]
          exact ⟨fun impossible => absurd impossible Bool.false_ne_true, fun some => absurd rfl some⟩
        · exact ⟨fun _ => List.cons_ne_nil _ _, fun _ => above⟩
      unfold GuardedCall.served GuardedCall.crashes
      rw [sent]
      generalize (guardedCall maxBytes application incoming .initial).ending = ending
      rw [begun]
      generalize ((before.filterMap GuardedAccess.response).any ResponseMessage.starts) = started
      by_cases above : after ≠ []
      · rw [exceeded.mpr above]
        cases started with
        | true => rcases ending with (_ | kind) | _ <;> simp
        | false => rcases ending with (_ | kind) | _ <;> simp [above]
      · have within : (guardedCall maxBytes application incoming .initial).state.exceeded = false :=
          Bool.eq_false_iff.mpr fun beyond => above (exceeded.mp beyond)
        rw [within]
        rcases ending with (_ | kind) | _ <;> simp [above]

/-- Within the limit a call does what it does without it. -/
theorem guardedCall_within {maxBytes : Nat} (application : Application)
    (incoming : List RequestMessage) (state : LimitState) (inside : state.exceeded = false)
    (small : state.received + RequestMessage.total (consumed application incoming) ≤ maxBytes) :
    (guardedCall maxBytes application incoming state).accesses.filterMap GuardedAccess.response =
        (serve application incoming).sent ∧
      (guardedCall maxBytes application incoming state).ending =
        (serve application incoming).ending ∧
      (guardedCall maxBytes application incoming state).state.exceeded = false := by
  induction application generalizing incoming state with
  | finished => exact ⟨rfl, rfl, inside⟩
  | raised error => exact ⟨rfl, rfl, inside⟩
  | send message next ih =>
    have step : state.send message = (.passed message,
        { state with responseStarted := state.responseStarted || message.starts }) :=
      if_neg (by rw [inside]; exact Bool.false_ne_true)
    obtain ⟨sent, ending, within⟩ := ih incoming { state with
      responseStarted := state.responseStarted || message.starts } inside small
    unfold guardedCall serve
    rw [step]
    exact ⟨congrArg (message :: ·) sent, ending, within⟩
  | receive next ih =>
    unfold consumed at small
    unfold guardedCall serve
    generalize (nextMessage incoming).2 = later at small ⊢
    generalize (nextMessage incoming).1 = first at small ⊢
    have sizes : RequestMessage.total (first :: consumed (next (.ok first)) later) =
        first.size + RequestMessage.total (consumed (next (.ok first)) later) := List.sum_cons
    rw [sizes] at small
    cases first with
    | disconnect =>
      rw [RequestMessage.size, Nat.zero_add] at small
      obtain ⟨sent, ending, within⟩ := ih (.ok .disconnect) later _ inside small
      exact ⟨sent, ending, within⟩
    | request body more =>
      have fits : state.received + body.length +
          RequestMessage.total (consumed (next (.ok (.request body more))) later) ≤ maxBytes :=
        (Nat.add_assoc _ _ _).trans_le small
      have step : state.receive maxBytes (.request body more) =
          (.delivered (.request body more),
            { state with received := state.received + body.length }) :=
        if_neg (Nat.not_lt.mpr (Nat.le_of_add_right_le fits))
      rw [step]
      obtain ⟨sent, ending, within⟩ := ih (.ok (.request body more)) later
        { state with received := state.received + body.length } inside fits
      exact ⟨sent, ending, within⟩

/-- A request of which the application reads no more than the limit, and that declares no more, is
served as without the limit; so is a connection of another kind. -/
theorem limitedServe_transparent (maxBytes : Nat) (application : Application)
    (scope : RequestScope) (incoming : List RequestMessage)
    (small : scope.kind = "http" → scope.Admissible maxBytes ∧
      RequestMessage.total (consumed application incoming) ≤ maxBytes)
    (genuine : (serve application incoming).ending ≠ .error .bodyTooLarge) :
    limitedServe maxBytes application scope incoming = serve application incoming := by
  by_cases http : scope.kind = "http"
  · obtain ⟨admissible, fits⟩ := small http
    rw [limitedServe_admissible http admissible]
    obtain ⟨sent, ending, within⟩ := guardedCall_within application incoming .initial rfl
      ((Nat.zero_add _).trans_le fits)
    unfold GuardedCall.served
    rw [sent, ending, within]
    cases plain : serve application incoming with
    | mk messages result =>
      rw [plain] at genuine
      rcases result with (_ | kind) | _
      · exact absurd rfl genuine
      · rfl
      · rfl
  · unfold limitedServe
    exact if_pos http

/-- An application that reads one message and answers it. -/
def echoApplication : Application :=
  .receive fun message => match message with
    | .ok _ => .send (.start 200 []) (.send (.body "ok" false) .finished)
    | .error error => .raised error

/-- A request over HTTP with a declared length. -/
def declaredScope (length : String) : RequestScope :=
  ⟨"http", [("content-length".toList, length.toList)]⟩

/-- A request of three bytes that declares them. -/
theorem declaredScope_admissible : (declaredScope "3").Admissible 4 := by
  intro text same
  have declares : (declaredScope "3").declared = some ['3'] := by decide +kernel
  rw [declares] at same
  cases same
  exact ⟨3, by decide +kernel, by decide⟩

/-- A request within the limit is answered. -/
theorem echoApplication_served :
    limitedServe 4 echoApplication (declaredScope "3") [.request [1, 2, 3] false] =
      serve echoApplication [.request [1, 2, 3] false] :=
  limitedServe_transparent 4 echoApplication (declaredScope "3") [.request [1, 2, 3] false]
    (fun _ => ⟨declaredScope_admissible, by decide⟩) nofun

/-- A request that sends more than it declares does not get through. -/
theorem echoApplication_limited :
    RequestMessage.total ((guardedCall 4 echoApplication [.request [1, 2, 3, 4, 5] false]
      .initial).accesses.filterMap GuardedAccess.delivery) ≤ 4 := by
  obtain ⟨before, after, -, bounded, -⟩ := (limitedServe_limits 4 echoApplication
    (declaredScope "3") rfl [.request [1, 2, 3, 4, 5] false]).2 declaredScope_admissible
  exact bounded

/-- It is answered with the fixed answer. -/
example : (limitedServe 4 echoApplication (declaredScope "3")
    [.request [1, 2, 3, 4, 5] false]).sent = tooLarge := by decide +kernel

end RateGuard
