import RateGuard.Mission.Stranding

/-!
# Concurrent retries of one mission

Requests to retry a failed or waiting mission read it, check it, read it again, queue
it and publish its job, one access at a time. The expected status is compared with the
second copy, not with the record that the write replaces. As long as each write that
queues the mission finds the status of that copy, one request queues it and at most one
job is published; two requests that both read before either writes publish two.
-/

open CalendarDate Transition

namespace RateGuard

/-- What happens next among retries of a mission. -/
inductive RetryEvent where
  /-- A retry is requested. -/
  | arrive
  /-- The clock goes on. -/
  | tick (later : DateTime)
  /-- A request takes its next step. -/
  | advance (index : Nat)
  /-- The machine of a request dies. -/
  | die (index : Nat)

/-- The event as one of the mission. -/
def RetryEvent.toEvent : RetryEvent → MissionEvent
  | .arrive => .retry
  | .tick later => .tick later
  | .advance index => .advance index
  | .die index => .die index

/-- A mission among its retries. -/
structure RetryRun where
  /-- State of the mission. -/
  state : MissionState
  /-- Number of requests that queued the mission. -/
  queued : Nat

/-- Whether a step is a write that queues the mission from another status. -/
def MissionState.queues (state : MissionState) (event : MissionEvent) : Bool :=
  (state.pendingWrite event).any fun write =>
    write.1.copy.status ≠ .queued && write.2.status = .queued

/-- One step. -/
def retryStep (missionId : String) (run : RetryRun) (event : RetryEvent) : RetryRun where
  state := missionStep missionId run.state event.toEvent
  queued := if run.state.queues event.toEvent then run.queued + 1 else run.queued

/-- A mission that nobody retries yet. -/
def RetryRun.start (record : MissionRecord) (now : DateTime) : RetryRun where
  state := ⟨now, record, [], 0, []⟩
  queued := 0

/-- A mission after some events. -/
def retryRun (missionId : String) (record : MissionRecord) (now : DateTime)
    (events : List RetryEvent) : RetryRun :=
  run (retryStep missionId) (.start record now) events

/-- Whether a write that queues the mission finds the status that its request read. -/
def QueuesAsRead (run : RetryRun) (event : RetryEvent) : Prop :=
  AtWrites (fun stored writer _ =>
    writer.copy.status ≠ .queued → stored.status = writer.copy.status) run.state event.toEvent

instance (run : RetryRun) (event : RetryEvent) : Decidable (QueuesAsRead run event) :=
  inferInstanceAs (Decidable (AtWrites (fun stored writer _ =>
    writer.copy.status ≠ .queued → stored.status = writer.copy.status) run.state event.toEvent))

/-- Where a retry request is. -/
inductive Party.AtRetry (missionId : String) (party : Party) : Prop where
  /-- It has read nothing yet. -/
  | asked (process : party.process = retryAssuranceMission missionId)
  /-- It found the mission retryable. -/
  | checked {nextAttempt : Int} {observed : RunStatus} (retryable : observed ∈ retryableStatuses)
      (process : party.process = transition .lenient (retryTransition nextAttempt observed)
        .finished (publishRetry missionId nextAttempt))
  /-- Its transition is allowed and about to be written. -/
  | allowed {nextAttempt : Int} {written : MissionRecord} {raised : Process}
      (target : written.status = .queued) (retryable : party.copy.status ∈ retryableStatuses)
      (process : party.process =
        .write written (publishRetry missionId nextAttempt (.ok written)) raised)
  /-- It queued the mission. -/
  | queued {written : MissionRecord} {jobId : String} {raised : Process}
      (target : written.status = .queued) (copied : party.copy.status = .queued)
      (process : party.process = .write written (.publish jobId .finished) raised)
  /-- It is about to publish. -/
  | publishing {jobId : String} (process : party.process = .publish jobId .finished)
  /-- It has ended. -/
  | ended (process : party.process = .finished)

/-- Whether a request queued the mission and has yet to publish its job. -/
def Party.owes (party : Party) : Bool :=
  match party.process with
  | .write _ _ _ => party.copy.status = .queued
  | .publish _ _ => true
  | _ => false

/-- What holds of a mission and its retries in every reachable state. -/
structure RetryRun.Serial (missionId : String) (run : RetryRun) : Prop where
  /-- The mission waits for a retry or is queued. -/
  status : run.state.record.status ∈ retryableStatuses ∨ run.state.record.status = .queued
  /-- Every party is a retry request. -/
  requests : ∀ party ∈ run.state.parties, party.AtRetry missionId
  /-- At most one request queued the mission. -/
  once : run.queued ≤ 1
  /-- The mission that was queued is queued. -/
  settled : 0 < run.queued → run.state.record.status = .queued
  /-- Whoever published or is about to has queued the mission. -/
  owed : run.state.messages.length + run.state.parties.countP Party.owes ≤ run.queued

/-- No retryable mission is queued. -/
theorem retryable_unqueued {status : RunStatus} (retryable : status ∈ retryableStatuses) :
    status ≠ .queued := by
  rintro rfl
  exact absurd retryable (by decide)

/-- Replacing a party changes the number of parties that owe by that of the party. -/
theorem countP_owes_set {parties : List Party} {index : Nat} {party moved : Party}
    (here : parties[index]? = some party) :
    (parties.set index moved).countP Party.owes + (if party.owes then 1 else 0) =
      parties.countP Party.owes + (if moved.owes then 1 else 0) := by
  obtain ⟨inside, same⟩ := List.getElem?_eq_some_iff.mp here
  rw [List.countP_set inside, same]
  have counted : party.owes = true → 0 < parties.countP Party.owes := fun owes =>
    List.countP_pos_iff.mpr ⟨party, List.mem_of_getElem? here, owes⟩
  cases owes : party.owes with
  | true =>
    have positive := counted owes
    simp only [if_true]
    omega
  | false => simp

/-- A state in which one request moved is serial if the request is where it may be and owes no more
than it did, or than it queued. -/
theorem RetryRun.Serial.set {missionId : String} {run after : RetryRun} {index : Nat}
    {party moved : Party} (serial : run.Serial missionId)
    (here : run.state.parties[index]? = some party)
    (parties : after.state.parties = run.state.parties.set index moved)
    (request : moved.AtRetry missionId)
    (status : after.state.record.status ∈ retryableStatuses ∨ after.state.record.status = .queued)
    (once : after.queued ≤ 1) (settled : 0 < after.queued → after.state.record.status = .queued)
    (owed : after.state.messages.length + (if moved.owes then 1 else 0) + run.queued ≤
      after.queued + run.state.messages.length + (if party.owes then 1 else 0)) :
    after.Serial missionId where
  status := status
  requests := by
    intro other member
    rw [parties] at member
    rcases List.mem_or_eq_of_mem_set member with old | new
    · exact serial.requests other old
    · exact new ▸ request
  once := once
  settled := settled
  owed := by
    have counted : (run.state.parties.set index moved).countP Party.owes + _ = _ :=
      countP_owes_set here
    have before := serial.owed
    rw [parties]
    omega

/-- A request that moves without a write or a message leaves the run serial. -/
theorem RetryRun.Serial.keep {missionId : String} {run : RetryRun} {index : Nat}
    {party moved : Party} (serial : run.Serial missionId)
    (here : run.state.parties[index]? = some party) (request : moved.AtRetry missionId)
    (quiet : moved.owes = false) :
    RetryRun.Serial missionId ⟨run.state.setParty index moved, run.queued⟩ := by
  refine serial.set here rfl request serial.status serial.once serial.settled ?_
  rw [quiet]
  simp only [MissionState.setParty, Bool.false_eq_true, if_false]
  omega

/-- The step of a request at an index. -/
theorem missionStep_advance {missionId : String} {state : MissionState} {index : Nat}
    {party : Party} (here : state.parties[index]? = some party) :
    missionStep missionId state (.advance index) = state.advance index party := by
  simp only [missionStep, here]

/-- Whether the next step of a request queues the mission. -/
theorem queues_advance {state : MissionState} {index : Nat} {party : Party}
    (here : state.parties[index]? = some party) :
    state.queues (.advance index) = party.process.written?.any fun written =>
      party.copy.status ≠ .queued && written.status = .queued := by
  unfold MissionState.queues MissionState.pendingWrite
  simp only [here, Option.bind_some]
  cases party.process.written? with
  | none => rfl
  | some written => rfl

/-- What a process goes on with after it read a record. -/
def Process.afterRead : Process → DateTime → MissionRecord → Process
  | .read next _, now, record => next now record
  | process, _, _ => process

/-- The next step of a party that reads. -/
theorem advance_read {state : MissionState} {index : Nat} {party : Party} {process : Process}
    (here : party.process = process) (reads : ∃ next raised, process = .read next raised) :
    state.advance index party = state.setParty index { party with
      process := process.afterRead state.now state.record
      copy := state.record } := by
  obtain ⟨next, raised, rfl⟩ := reads
  simp only [MissionState.advance, here, Process.afterRead]

/-- A request starts with a read. -/
theorem retryAssuranceMission_reads {missionId : String} :
    ∃ next raised, retryAssuranceMission missionId = .read next raised := ⟨_, _, rfl⟩

/-- The first read of a request ends it or finds the mission retryable. -/
theorem retryAssuranceMission_read {missionId : String} {party : Party} (now : DateTime)
    (record : MissionRecord)
    (here : party.process = (retryAssuranceMission missionId).afterRead now record) :
    party.AtRetry missionId ∧ party.owes = false := by
  simp only [retryAssuranceMission, Process.afterRead] at here
  split at here
  · exact ⟨.ended here, by rw [Party.owes, here]⟩
  · rename_i eligible
    have retryable : record.status ∈ retryableStatuses := by
      simp only [MissionRecord.isRetryable, Bool.not_eq_true', Bool.and_eq_false_iff, not_or,
        Bool.not_eq_false] at eligible
      exact List.contains_iff_mem.mp eligible.1
    exact ⟨.checked retryable here, by rw [Party.owes, here]; rfl⟩

/-- The second read of a request ends it or allows its transition. -/
theorem retryTransition_read {missionId : String} {nextAttempt : Int} {observed : RunStatus}
    {party : Party} (retryable : observed ∈ retryableStatuses) (now : DateTime)
    (here : party.process = (transition .lenient (retryTransition nextAttempt observed) .finished
      (publishRetry missionId nextAttempt)).afterRead now party.copy) :
    party.AtRetry missionId ∧ party.owes = false := by
  simp only [transition, Process.afterRead] at here
  split at here
  · exact ⟨.ended here, by rw [Party.owes, here]; rfl⟩
  · rename_i written applied
    obtain ⟨-, target, expected⟩ := applyTransition_allowed applied
    have same : observed = party.copy.status := by simpa [retryTransition] using expected
    have waits : party.copy.status ∈ retryableStatuses := by
      rw [← same]
      exact retryable
    refine ⟨.allowed target waits here, ?_⟩
    rw [Party.owes, here]
    exact decide_eq_false (retryable_unqueued waits)

/-- A new request leaves the run serial. -/
theorem RetryRun.Serial.arrive {missionId : String} {run : RetryRun}
    (serial : run.Serial missionId) : (retryStep missionId run .arrive).Serial missionId := by
  refine ⟨serial.status, fun party member => ?_, serial.once, serial.settled, ?_⟩
  · rcases List.mem_append.mp member with old | new
    · exact serial.requests party old
    · rw [List.mem_singleton.mp new]
      exact .asked rfl
  · have before := serial.owed
    show run.state.messages.length +
      (run.state.parties ++ [run.state.request (retryAssuranceMission missionId)]).countP
        Party.owes ≤ run.queued
    rw [List.countP_append]
    exact before

/-- The clock changes the time only. -/
theorem retryStep_tick {missionId : String} {run : RetryRun} {later : DateTime} :
    ∃ now, retryStep missionId run (.tick later) = ⟨{ run.state with now := now }, run.queued⟩ := by
  have unwritten : run.state.queues (.tick later) = false := rfl
  rw [retryStep, RetryEvent.toEvent, unwritten, if_neg Bool.false_ne_true, missionStep]
  split
  · exact ⟨later, rfl⟩
  · exact ⟨run.state.now, rfl⟩

/-- The clock leaves the run serial. -/
theorem RetryRun.Serial.tick {missionId : String} {run : RetryRun} {later : DateTime}
    (serial : run.Serial missionId) : (retryStep missionId run (.tick later)).Serial missionId := by
  obtain ⟨now, same⟩ : ∃ now, retryStep missionId run (.tick later) =
      ⟨{ run.state with now := now }, run.queued⟩ := retryStep_tick
  rw [same]
  exact ⟨serial.status, serial.requests, serial.once, serial.settled, serial.owed⟩

/-- Steps of parties that are not there change nothing. -/
theorem retryStep_absent {missionId : String} {run : RetryRun} {index : Nat}
    (absent : run.state.parties[index]? = none) :
    retryStep missionId run (.advance index) = run ∧
      retryStep missionId run (.die index) = run := by
  constructor <;>
    simp [retryStep, RetryEvent.toEvent, missionStep, absent, MissionState.queues,
      MissionState.pendingWrite]

/-- The death of a machine leaves the run serial. -/
theorem RetryRun.Serial.die {missionId : String} {run : RetryRun} {index : Nat}
    (serial : run.Serial missionId) : (retryStep missionId run (.die index)).Serial missionId := by
  cases here : run.state.parties[index]? with
  | none =>
    rw [(retryStep_absent here).2]
    exact serial
  | some party =>
    have left : RetryRun.Serial missionId ⟨run.state.setParty index party.leave, run.queued⟩ :=
      serial.keep here (.ended rfl) rfl
    have same : retryStep missionId run (.die index) =
        ⟨run.state.setParty index party.leave, run.queued⟩ := by
      simp [retryStep, RetryEvent.toEvent, missionStep, here, MissionState.queues,
        MissionState.pendingWrite]
    rw [same]
    exact left

/-- The step of a request in a run. -/
theorem retryStep_advance {missionId : String} {run : RetryRun} {index : Nat} {party : Party}
    (here : run.state.parties[index]? = some party) :
    retryStep missionId run (.advance index) = ⟨run.state.advance index party,
      if party.process.written?.any fun written =>
        party.copy.status ≠ .queued && written.status = .queued
      then run.queued + 1 else run.queued⟩ := by
  rw [retryStep, RetryEvent.toEvent, missionStep_advance here, queues_advance here]

/-- A read leaves the run serial if the party then is where a request may be and owes nothing. -/
theorem RetryRun.Serial.read {missionId : String} {run : RetryRun} {index : Nat} {party : Party}
    (serial : run.Serial missionId) (here : run.state.parties[index]? = some party)
    (reads : ∃ next raised, party.process = .read next raised)
    (after : ∀ moved : Party,
      moved.process = party.process.afterRead run.state.now moved.copy →
        moved.AtRetry missionId ∧ moved.owes = false) :
    (retryStep missionId run (.advance index)).Serial missionId := by
  have silent : party.process.written? = none := by
    obtain ⟨next, raised, process⟩ := reads
    rw [process]
    rfl
  rw [retryStep_advance here, silent, Option.any_none, if_neg Bool.false_ne_true,
    advance_read rfl reads]
  obtain ⟨request, quiet⟩ := after { party with
    process := party.process.afterRead run.state.now run.state.record
    copy := run.state.record } rfl
  exact serial.keep here request quiet

/-- An allowed request that finds the status it read queues the mission first. -/
theorem RetryRun.Serial.allowed {missionId : String} {run : RetryRun} {index : Nat} {party : Party}
    {nextAttempt : Int} {written : MissionRecord} {raised : Process}
    (serial : run.Serial missionId) (here : run.state.parties[index]? = some party)
    (asRead : QueuesAsRead run (.advance index)) (target : written.status = .queued)
    (retryable : party.copy.status ∈ retryableStatuses)
    (process : party.process =
      .write written (publishRetry missionId nextAttempt (.ok written)) raised) :
    (retryStep missionId run (.advance index)).Serial missionId := by
  have unqueued := retryable_unqueued retryable
  have found : run.state.record.status = party.copy.status :=
    asRead (party, written) (MissionState.pendingWrite_of rfl here process) unqueued
  have fresh : run.queued = 0 := by
    rcases Nat.eq_zero_or_pos run.queued with zero | positive
    · exact zero
    · have queued := serial.settled positive
      rw [found] at queued
      exact absurd queued unqueued
  have silent : party.owes = false := by
    rw [Party.owes, process]
    exact decide_eq_false unqueued
  have owes : (party.wrote written (publishRetry missionId nextAttempt
      (.ok written))).owes = true := by
    simp [Party.owes, Party.wrote, publishRetry, target]
  have request : (party.wrote written (publishRetry missionId nextAttempt
      (.ok written))).AtRetry missionId := by
    have again : MissionRecord.status { written with
        attemptNumber := nextAttempt
        cancellationRequested := false } = .queued := target
    exact .queued again target rfl
  rw [retryStep_advance here]
  simp only [MissionState.advance, process, Process.written?, Option.any_some, unqueued,
    target, ne_eq, not_false_eq_true, decide_true, Bool.and_self, if_true, fresh]
  refine serial.set here rfl request (.inr target) (Nat.le_refl _) (fun _ => target) ?_
  rw [silent, owes, fresh]
  simp only [MissionState.setParty, Bool.false_eq_true, if_false, if_true]
  omega

/-- A request that queued the mission writes again before it publishes. -/
theorem RetryRun.Serial.again {missionId : String} {run : RetryRun} {index : Nat} {party : Party}
    {written : MissionRecord} {jobId : String} {raised : Process}
    (serial : run.Serial missionId) (here : run.state.parties[index]? = some party)
    (target : written.status = .queued) (copied : party.copy.status = .queued)
    (process : party.process = .write written (.publish jobId .finished) raised) :
    (retryStep missionId run (.advance index)).Serial missionId := by
  have owes : party.owes = true := by
    rw [Party.owes, process]
    exact decide_eq_true copied
  rw [retryStep_advance here]
  simp only [MissionState.advance, process, Process.written?, Option.any_some, copied,
    ne_eq, not_true_eq_false, decide_false, Bool.false_and, Bool.false_eq_true, if_false]
  refine serial.set here rfl (.publishing rfl) (.inr target) serial.once (fun _ => target) ?_
  rw [owes]
  simp only [MissionState.setParty, Party.owes, Party.wrote, if_true]
  omega

/-- A request publishes what it owes. -/
theorem RetryRun.Serial.publish {missionId : String} {run : RetryRun} {index : Nat} {party : Party}
    {jobId : String} (serial : run.Serial missionId)
    (here : run.state.parties[index]? = some party)
    (process : party.process = .publish jobId .finished) :
    (retryStep missionId run (.advance index)).Serial missionId := by
  have owes : party.owes = true := by rw [Party.owes, process]
  rw [retryStep_advance here]
  simp only [MissionState.advance, process, Process.written?, Option.any_none,
    Bool.false_eq_true, if_false]
  refine serial.set here rfl (.ended rfl) serial.status serial.once serial.settled ?_
  rw [owes]
  simp only [Party.owes, Bool.false_eq_true, if_false, if_true,
    List.length_append, List.length_singleton]
  omega

/-- A request that ended leaves the run serial. -/
theorem RetryRun.Serial.ended {missionId : String} {run : RetryRun} {index : Nat} {party : Party}
    (serial : run.Serial missionId) (here : run.state.parties[index]? = some party)
    (process : party.process = .finished) :
    (retryStep missionId run (.advance index)).Serial missionId := by
  rw [retryStep_advance here]
  simp only [MissionState.advance, process, Process.written?, Option.any_none,
    Bool.false_eq_true, if_false]
  exact serial.keep here (.ended rfl) rfl

/-- Every step whose write finds what its request read leaves the run serial. -/
theorem RetryRun.Serial.step {missionId : String} {run : RetryRun} {event : RetryEvent}
    (serial : run.Serial missionId) (asRead : QueuesAsRead run event) :
    (retryStep missionId run event).Serial missionId := by
  cases event with
  | arrive => exact serial.arrive
  | tick later => exact serial.tick
  | die index => exact serial.die
  | advance index =>
    cases here : run.state.parties[index]? with
    | none =>
      rw [(retryStep_absent here).1]
      exact serial
    | some party =>
      cases serial.requests party (List.mem_of_getElem? here) with
      | asked process =>
        refine serial.read here (process ▸ retryAssuranceMission_reads) fun moved asks => ?_
        rw [process] at asks
        exact retryAssuranceMission_read run.state.now moved.copy asks
      | checked retryable process =>
        refine serial.read here (process ▸ ⟨_, _, rfl⟩) fun moved asks => ?_
        rw [process] at asks
        exact retryTransition_read retryable run.state.now asks
      | allowed target retryable process =>
        exact serial.allowed here asRead target retryable process
      | queued target copied process => exact serial.again here target copied process
      | publishing process => exact serial.publish here process
      | ended process => exact serial.ended here process

/-- Among concurrent retries of a mission whose writes find the status that their requests read, at
most one request queues the mission, and no other publishes a job. -/
theorem retry_once (missionId : String) (record : MissionRecord) (now : DateTime)
    (waits : record.status ∈ retryableStatuses) (events : List RetryEvent)
    (asRead : Along (retryStep missionId) QueuesAsRead (.start record now) events) :
    (retryRun missionId record now events).queued ≤ 1 ∧
      (retryRun missionId record now events).state.messages.length ≤
        (retryRun missionId record now events).queued := by
  have initial : (RetryRun.start record now).Serial missionId :=
    ⟨.inl waits, fun _ member => (List.not_mem_nil member).elim, Nat.zero_le _,
      fun positive => absurd positive (Nat.lt_irrefl 0), Nat.le_refl _⟩
  have serial : (retryRun missionId record now events).Serial missionId :=
    asRead.invariant (RetryRun.Serial missionId) (fun _ _ asRead serial => serial.step asRead)
      initial
  exact ⟨serial.once, (Nat.le_add_right _ _).trans serial.owed⟩

/-- A mission that failed on its first attempt. -/
def failedMission : MissionRecord := { createdMission with
  status := .failed
  workflowStage := "FAILED" }

/-- A request retries a failed mission once, and a later one finds it queued. -/
theorem retry_once_in_turn :
    (retryRun "MIS-1" failedMission sampleClock
      (.arrive :: List.replicate 5 (.advance 0) ++ [.arrive, .advance 1])).queued ≤ 1 ∧
    (retryRun "MIS-1" failedMission sampleClock
      (.arrive :: List.replicate 5 (.advance 0) ++ [.arrive, .advance 1])).state.messages.length ≤
      (retryRun "MIS-1" failedMission sampleClock
        (.arrive :: List.replicate 5 (.advance 0) ++ [.arrive, .advance 1])).queued :=
  retry_once "MIS-1" failedMission sampleClock (by decide) _ (by decide)

/-- A retry is not issued once: two requests both read the failed mission before either writes, and
both queue it and publish a job for the second attempt. -/
theorem retry_twice : ¬∀ (missionId : String) (record : MissionRecord) (now : DateTime),
    record.status ∈ retryableStatuses → ∀ events : List RetryEvent,
      (retryRun missionId record now events).queued ≤ 1 ∧
        (retryRun missionId record now events).state.messages.length ≤
          (retryRun missionId record now events).queued := by
  intro once
  have run := (once "MIS-1" failedMission sampleClock (by decide)
    [.arrive, .arrive, .advance 0, .advance 1, .advance 0, .advance 1, .advance 0, .advance 1]).1
  exact absurd run (by decide)

end RateGuard
