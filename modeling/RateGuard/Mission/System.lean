import RateGuard.Foundation.Transition
import RateGuard.Mission.Process

/-!
# A mission under concurrent access

The state holds the clock, the stored record, the job messages that are not
acknowledged and the parties at work: request handlers and deliveries, each somewhere
in its process. A party that ends, or whose machine dies, departs. A message is
delivered as long as it is outstanding, again and again.
-/

open CalendarDate Transition

namespace RateGuard

/-- What a party is. -/
inductive PartyKind where
  /-- Handler of a request. -/
  | request
  /-- Delivery that acquired the lease and whose mission has not ended. -/
  | execution
  /-- Delivery that ended its mission itself and has yet to answer. -/
  | closing
  /-- Delivery that met a finished mission. -/
  | late
  /-- Delivery that met another's lease. -/
  | duplicate
  /-- Party that is gone. -/
  | departed
  deriving DecidableEq, Repr

/-- Party at work on a mission. -/
structure Party where
  /-- What it is. -/
  kind : PartyKind
  /-- What it has left to do. -/
  process : Process
  /-- Copy of the record that it read or wrote last. -/
  copy : MissionRecord
  /-- Number of the message that it answers. -/
  message : Option Nat
  /-- Moment, in microseconds, of its lease or of its last heartbeat. -/
  stampedAt : Nat

/-- Job message. -/
structure JobMessage where
  /-- Number of the message. -/
  number : Nat
  /-- Job. -/
  jobId : String
  deriving DecidableEq, Repr

/-- State of a mission and of all who work on it. -/
structure MissionState where
  /-- Clock. -/
  now : DateTime
  /-- Stored record. -/
  record : MissionRecord
  /-- Messages that are not acknowledged. -/
  messages : List JobMessage
  /-- Number of messages published. -/
  published : Nat
  /-- Parties. -/
  parties : List Party

/-- What happens next. -/
inductive MissionEvent where
  /-- The clock goes on. -/
  | tick (later : DateTime)
  /-- A cancellation is requested. -/
  | cancel
  /-- A retry is requested. -/
  | retry
  /-- A message is delivered to a worker. -/
  | deliver (number : Nat) (course : MissionCourse)
  /-- A party takes its next step. -/
  | advance (index : Nat)
  /-- The next step of a party fails. -/
  | fail (index : Nat)
  /-- The machine of a party dies. -/
  | die (index : Nat)

/-- Record that a mission is created with. -/
def createdMission : MissionRecord where
  status := .queued
  workflowStage := "QUEUED"
  currentStage := none
  statusReason := none
  startedAt := none
  completedAt := none
  attemptNumber := 1
  cancellationRequested := false
  metadata := ⟨none, none, some 1, some false⟩

/-- State after a mission was created and its job published. -/
def MissionState.created (missionId : String) (now : DateTime) : MissionState where
  now := now
  record := createdMission
  messages := [⟨0, "JOB-" ++ missionId⟩]
  published := 1
  parties := []

/-- State with a party replaced. -/
def MissionState.setParty (state : MissionState) (index : Nat) (party : Party) : MissionState :=
  { state with parties := state.parties.set index party }

/-- State with a party more. -/
def MissionState.join (state : MissionState) (party : Party) : MissionState :=
  { state with parties := state.parties ++ [party] }

/-- Handler of a new request. -/
def MissionState.request (state : MissionState) (process : Process) : Party where
  kind := .request
  process := process
  copy := state.record
  message := none
  stampedAt := 0

/-- New delivery of a message. -/
def MissionState.delivery (state : MissionState) (kind : PartyKind) (process : Process)
    (copy : MissionRecord) (number : Nat) : Party where
  kind := kind
  process := process
  copy := copy
  message := some number
  stampedAt := state.now.microseconds

/-- Party that has left. -/
def Party.leave (party : Party) : Party := { party with kind := .departed, process := .finished }

/-- Record with a renewed heartbeat. -/
def MissionRecord.touched (record : MissionRecord) (now : DateTime) : MissionRecord :=
  { record with metadata := { record.metadata with
      lastHeartbeatAt := some (.text (String.ofList now.isoformat)) } }

/-- Party after it wrote a record: an execution that ends its mission is closing. -/
def Party.wrote (party : Party) (written : MissionRecord) (next : Process) : Party :=
  { party with
    kind := if party.kind = .execution && terminalStatuses.contains written.status &&
      !terminalStatuses.contains party.copy.status then .closing else party.kind
    process := next
    copy := written }

/-- Messages after an answer to one of them. -/
def MissionState.answered (state : MissionState) (party : Party) (acknowledged : Bool) :
    List JobMessage :=
  if acknowledged then state.messages.filter fun message => some message.number ≠ party.message
  else state.messages

/-- Next step of a party. -/
def MissionState.advance (state : MissionState) (index : Nat) (party : Party) : MissionState :=
  match party.process with
  | .read next _ =>
    state.setParty index { party with
      process := next state.now state.record
      copy := state.record }
  | .aside next _ => state.setParty index { party with process := next }
  | .write written next _ =>
    { state.setParty index (party.wrote written next) with record := state.record.merge written }
  | .touch next =>
    { state.setParty index { party with
        process := next
        stampedAt := state.now.microseconds } with record := state.record.touched state.now }
  | .publish jobId next =>
    { state.setParty index { party with process := next } with
      messages := state.messages ++ [⟨state.published, jobId⟩]
      published := state.published + 1 }
  | .answer acknowledged =>
    { state.setParty index party.leave with messages := state.answered party acknowledged }
  | .finished => state.setParty index party.leave

/-- Next step of a party where it fails: an answer that fails is none. -/
def MissionState.fail (state : MissionState) (index : Nat) (party : Party) : MissionState :=
  match party.process with
  | .read _ raised | .aside _ raised | .write _ _ raised =>
    state.setParty index { party with process := raised }
  | .touch next | .publish _ next => state.setParty index { party with process := next }
  | .answer _ | .finished => state.setParty index party.leave

/-- Lease that a delivery of a job is answered with, and the record it leaves. -/
def MissionState.lease (state : MissionState) (jobId : String) :
    LeaseOutcome × Option MissionRecord :=
  FirestoreRunStore.acquireLease (some state.record) jobId leaseTtlSeconds state.now

/-- Delivery of a message. -/
def MissionState.deliver (state : MissionState) (message : JobMessage) (course : MissionCourse) :
    MissionState :=
  match state.lease message.jobId with
  | (.acquired, some record) =>
    { state.join (state.delivery .execution (executeJob record course) record message.number) with
      record := record }
  | (.alreadyTerminal, _) =>
    state.join (state.delivery .late (.answer true) state.record message.number)
  | (.alreadyLeased, _) =>
    state.join (state.delivery .duplicate (.answer true) state.record message.number)
  | _ => state

/-- One step. -/
def missionStep (missionId : String) (state : MissionState) : MissionEvent → MissionState
  | .tick later =>
    if state.now.microseconds ≤ later.microseconds then { state with now := later } else state
  | .cancel => state.join (state.request cancelAssuranceMission)
  | .retry => state.join (state.request (retryAssuranceMission missionId))
  | .deliver number course =>
    match state.messages.find? (·.number = number) with
    | some message => state.deliver message course
    | none => state
  | .advance index =>
    match state.parties[index]? with
    | some party => state.advance index party
    | none => state
  | .fail index =>
    match state.parties[index]? with
    | some party => state.fail index party
    | none => state
  | .die index =>
    match state.parties[index]? with
    | some party => state.setParty index party.leave
    | none => state

/-- Record that a process is about to write. -/
def Process.written? : Process → Option MissionRecord
  | .write written _ _ => some written
  | _ => none

/-- Writer and record of the write that a step makes, if it makes one. -/
def MissionState.pendingWrite (state : MissionState) :
    MissionEvent → Option (Party × MissionRecord)
  | .advance index => state.parties[index]?.bind fun party =>
    party.process.written?.map fun written => (party, written)
  | _ => none

/-- A condition on the write that a step makes: on the stored record, the writer and the record
that is written. -/
def AtWrites (condition : MissionRecord → Party → MissionRecord → Prop) (state : MissionState)
    (event : MissionEvent) : Prop :=
  ∀ write ∈ state.pendingWrite event, condition state.record write.1 write.2

instance (condition : MissionRecord → Party → MissionRecord → Prop)
    [∀ stored writer written, Decidable (condition stored writer written)] (state : MissionState)
    (event : MissionEvent) : Decidable (AtWrites condition state event) :=
  inferInstanceAs (Decidable (∀ write ∈ state.pendingWrite event,
    condition state.record write.1 write.2))

/-- The write of a party that takes its turn is pending. -/
theorem MissionState.pendingWrite_of {state : MissionState} {event : MissionEvent} {index : Nat}
    {party : Party} {written : MissionRecord} {next raised : Process}
    (turn : event = .advance index) (here : state.parties[index]? = some party)
    (process : party.process = .write written next raised) :
    (party, written) ∈ state.pendingWrite event := by
  subst turn
  simp [MissionState.pendingWrite, here, process, Process.written?]

/-- A step that writes nothing meets every condition on writes. -/
theorem atWrites_of_none {condition : MissionRecord → Party → MissionRecord → Prop}
    {state : MissionState} {event : MissionEvent} (quiet : state.pendingWrite event = none) :
    AtWrites condition state event := by
  intro write pending
  rw [quiet] at pending
  cases pending

/-- State after some events. -/
def missionRun (missionId : String) (now : DateTime) (events : List MissionEvent) : MissionState :=
  run (missionStep missionId) (.created missionId now) events

end RateGuard
