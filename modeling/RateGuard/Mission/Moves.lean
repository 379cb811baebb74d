import RateGuard.Mission.Conduct

/-!
# What a step does to a mission

Every step changes the clock, adds a party, or moves one party: its process goes on at
the copy that it holds, at a new copy, or it writes, renews the heartbeat, answers or
leaves. From this every party keeps to its conduct in every reachable state.
-/

open CalendarDate Transition

namespace RateGuard

/-- How one party moves. -/
inductive PartyMove (state : MissionState) (event : MissionEvent) (index : Nat) (party : Party) :
    MissionState → Prop where
  /-- The process goes on at the same copy. -/
  | goesOn {process : Process}
      (follows : ∀ conduct, party.process.Lawful conduct party.copy →
        process.Lawful conduct party.copy) :
      PartyMove state event index party (state.setParty index { party with process := process })
  /-- A message is published. -/
  | publishes {process : Process} (jobId : String)
      (follows : ∀ conduct, party.process.Lawful conduct party.copy →
        process.Lawful conduct party.copy) :
      PartyMove state event index party
        { state.setParty index { party with process := process } with
          messages := state.messages ++ [⟨state.published, jobId⟩]
          published := state.published + 1 }
  /-- The record is read. -/
  | reads {process : Process}
      (follows : ∀ conduct, party.process.Lawful conduct party.copy →
        process.Lawful conduct state.record) :
      PartyMove state event index party
        (state.setParty index { party with process := process, copy := state.record })
  /-- A record is written. -/
  | writes {written : MissionRecord} {next raised : Process} (turn : event = .advance index)
      (here : party.process = .write written next raised) :
      PartyMove state event index party
        { state.setParty index (party.wrote written next) with
          record := state.record.merge written }
  /-- The heartbeat is renewed. -/
  | touches {process : Process}
      (follows : ∀ conduct, party.process.Lawful conduct party.copy →
        process.Lawful conduct party.copy) :
      PartyMove state event index party
        { state.setParty index { party with
            process := process
            stampedAt := state.now.microseconds } with
          record := state.record.touched state.now }
  /-- The delivery is answered. -/
  | answers {acknowledged : Bool} (turn : event = .advance index)
      (here : party.process = .answer acknowledged) :
      PartyMove state event index party
        { state.setParty index party.leave with messages := state.answered party acknowledged }
  /-- The party dies, its answer is lost, or it ended before. -/
  | leaves (cause : event = .die index ∨
        (event = .fail index ∧ ∃ acknowledged, party.process = .answer acknowledged) ∨
        party.process = .finished) :
      PartyMove state event index party (state.setParty index party.leave)

/-- How a mission moves. -/
inductive MissionMove (missionId : String) (state : MissionState) (event : MissionEvent) :
    MissionState → Prop where
  /-- Nothing changes. -/
  | rests : MissionMove missionId state event state
  /-- The clock goes on. -/
  | ticks {later : DateTime} (forward : state.now.microseconds ≤ later.microseconds) :
      MissionMove missionId state event { state with now := later }
  /-- A request arrives. -/
  | requests {process : Process}
      (lawful : process.Lawful PartyKind.request.conduct state.record) :
      MissionMove missionId state event (state.join (state.request process))
  /-- A delivery acquires the lease. -/
  | acquires {number : Nat} {message : JobMessage} {course : MissionCourse}
      {record : MissionRecord} (turn : event = .deliver number course)
      (found : state.messages.find? (·.number = number) = some message)
      (granted : state.lease message.jobId = (.acquired, some record)) :
      MissionMove missionId state event
        { state.join (state.delivery .execution (executeJob record course) record message.number)
          with record := record }
  /-- A delivery meets a finished mission. -/
  | meetsFinished {message : JobMessage} (present : message ∈ state.messages)
      (terminal : terminalStatuses.contains state.record.status = true) :
      MissionMove missionId state event
        (state.join (state.delivery .late (.answer true) state.record message.number))
  /-- A delivery meets a lease. -/
  | meetsLease {message : JobMessage} (present : message ∈ state.messages) :
      MissionMove missionId state event
        (state.join (state.delivery .duplicate (.answer true) state.record message.number))
  /-- A party moves. -/
  | moves {index : Nat} {party : Party} {after : MissionState}
      (here : state.parties[index]? = some party)
      (move : PartyMove state event index party after) : MissionMove missionId state event after

/-- The next step of a party is a move of it. -/
theorem MissionState.advance_move (state : MissionState) (index : Nat) (party : Party) :
    PartyMove state (.advance index) index party (state.advance index party) := by
  unfold MissionState.advance
  split
  · rename_i next raised here
    exact .reads fun conduct lawful => (here ▸ lawful :
      (Process.read next raised).Lawful conduct party.copy).1 _ _
  · rename_i next raised here
    exact .goesOn fun conduct lawful => (here ▸ lawful :
      (Process.aside next raised).Lawful conduct party.copy).1
  · rename_i written next raised here
    exact .writes rfl here
  · rename_i next here
    exact .touches fun conduct lawful => (here ▸ lawful :
      (Process.touch next).Lawful conduct party.copy)
  · rename_i jobId next here
    exact .publishes jobId fun conduct lawful => (here ▸ lawful :
      (Process.publish jobId next).Lawful conduct party.copy)
  · rename_i acknowledged here
    exact .answers rfl here
  · rename_i here
    exact .leaves (.inr (.inr here))

/-- A step of a party that fails is a move of it. -/
theorem MissionState.fail_move (state : MissionState) (index : Nat) (party : Party) :
    PartyMove state (.fail index) index party (state.fail index party) := by
  unfold MissionState.fail
  split
  · rename_i next raised here
    exact .goesOn fun conduct lawful => (here ▸ lawful :
      (Process.read next raised).Lawful conduct party.copy).2
  · rename_i next raised here
    exact .goesOn fun conduct lawful => (here ▸ lawful :
      (Process.aside next raised).Lawful conduct party.copy).2
  · rename_i written next raised here
    exact .goesOn fun conduct lawful => (here ▸ lawful :
      (Process.write written next raised).Lawful conduct party.copy).2.2
  · rename_i next here
    exact .goesOn fun conduct lawful => (here ▸ lawful :
      (Process.touch next).Lawful conduct party.copy)
  · rename_i jobId next here
    exact .goesOn fun conduct lawful => (here ▸ lawful :
      (Process.publish jobId next).Lawful conduct party.copy)
  · rename_i acknowledged here
    exact .leaves (.inr (.inl ⟨rfl, acknowledged, here⟩))
  · rename_i here
    exact .leaves (.inr (.inr here))

/-- A finished mission is reported only where it is finished. -/
theorem MissionState.lease_terminal {state : MissionState} {jobId : String}
    {record : Option MissionRecord} (met : state.lease jobId = (.alreadyTerminal, record)) :
    terminalStatuses.contains state.record.status = true := by
  unfold MissionState.lease FirestoreRunStore.acquireLease at met
  simp only at met
  split at met
  · assumption
  · split at met <;> cases met

/-- Every step is one of the moves. -/
theorem missionStep_move (missionId : String) (state : MissionState) (event : MissionEvent) :
    MissionMove missionId state event (missionStep missionId state event) := by
  cases event with
  | tick later =>
    simp only [missionStep]
    split
    · exact .ticks ‹_›
    · exact .rests
  | cancel => exact .requests (cancelAssuranceMission_lawful _)
  | retry => exact .requests (retryAssuranceMission_lawful missionId _)
  | deliver number course =>
    simp only [missionStep]
    split
    · rename_i message found
      have present : message ∈ state.messages := List.mem_of_find?_eq_some found
      unfold MissionState.deliver
      split
      · rename_i record granted
        exact .acquires rfl found granted
      · rename_i record met
        exact .meetsFinished present (MissionState.lease_terminal met)
      · exact .meetsLease present
      · exact .rests
    · exact .rests
  | advance index =>
    simp only [missionStep]
    split
    · exact .moves ‹_› (state.advance_move index _)
    · exact .rests
  | fail index =>
    simp only [missionStep]
    split
    · exact .moves ‹_› (state.fail_move index _)
    · exact .rests
  | die index =>
    simp only [missionStep]
    split
    · exact .moves ‹_› (.leaves (.inl rfl))
    · exact .rests

/-- Statuses that a mission takes. -/
def missionStatuses : List RunStatus := [.queued, .running, .completed, .failed, .cancelled]

/-- Whether a party holds a copy of a known status and keeps to its conduct. -/
structure Party.Orderly (party : Party) : Prop where
  /-- The status of the copy is known. -/
  known : party.copy.status ∈ missionStatuses
  /-- The process keeps to its conduct. -/
  lawful : party.process.Lawful party.kind.conduct party.copy

/-- Whether the record has a known status and every party is orderly. -/
structure MissionState.Orderly (state : MissionState) : Prop where
  /-- The status of the record is known. -/
  known : state.record.status ∈ missionStatuses
  /-- The parties are orderly. -/
  parties : ∀ party ∈ state.parties, party.Orderly

/-- The targets of every conduct are known statuses. -/
theorem PartyKind.targets_known (kind : PartyKind) :
    kind.conduct.targets ⊆ missionStatuses := by
  cases kind <;> decide

/-- An execution that becomes closing keeps its conduct. -/
theorem Party.wrote_conduct (party : Party) (written : MissionRecord) (next : Process) :
    (party.wrote written next).kind.conduct = party.kind.conduct := by
  unfold Party.wrote
  simp only
  split
  · rename_i ending
    simp only [Bool.and_eq_true, decide_eq_true_eq] at ending
    rw [ending.1.1]
    rfl
  · rfl

/-- The write that a lawful process is at follows its rule. -/
theorem Party.Orderly.rule {party : Party} {written : MissionRecord} {next raised : Process}
    (orderly : party.Orderly) (here : party.process = .write written next raised) :
    WriteRule party.kind.conduct.targets party.copy written ∧
      next.Lawful party.kind.conduct written := by
  have lawful := orderly.lawful
  rw [here] at lawful
  exact ⟨lawful.1, lawful.2.1⟩

/-- A lawful write sets a known status. -/
theorem WriteRule.known {kind : PartyKind} {copy written : MissionRecord}
    (rule : WriteRule kind.conduct.targets copy written) (known : copy.status ∈ missionStatuses) :
    written.status ∈ missionStatuses := by
  rcases rule.target with same | target
  · exact same ▸ known
  · exact kind.targets_known target

/-- A party that left is orderly. -/
theorem Party.Orderly.leave {party : Party} (orderly : party.Orderly) : party.leave.Orderly :=
  ⟨orderly.known, trivial⟩

/-- Replacing a party by an orderly one keeps all parties orderly. -/
theorem MissionState.setParty_orderly {state : MissionState} {index : Nat} {party : Party}
    (parties : ∀ other ∈ state.parties, other.Orderly) (orderly : party.Orderly) :
    ∀ other ∈ (state.setParty index party).parties, other.Orderly := by
  intro other member
  rcases List.mem_or_eq_of_mem_set member with old | new
  · exact parties other old
  · exact new ▸ orderly

/-- A further orderly party keeps all parties orderly. -/
theorem MissionState.join_orderly {state : MissionState} {party : Party}
    (parties : ∀ other ∈ state.parties, other.Orderly) (orderly : party.Orderly) :
    ∀ other ∈ (state.join party).parties, other.Orderly := by
  intro other member
  rcases List.mem_append.mp member with old | new
  · exact parties other old
  · exact List.mem_singleton.mp new ▸ orderly

/-- A lease that is acquired leaves the record running with a heartbeat of now. -/
theorem MissionState.lease_acquired {state : MissionState} {jobId : String}
    {record : MissionRecord} (granted : state.lease jobId = (.acquired, some record)) :
    terminalStatuses.contains state.record.status = false ∧
      record = state.record.merge (state.record.leased jobId state.now) := by
  unfold MissionState.lease FirestoreRunStore.acquireLease at granted
  simp only at granted
  split at granted
  · cases granted
  · rename_i active
    split at granted
    · cases granted
    · cases granted
      exact ⟨Bool.eq_false_iff.mpr active, rfl⟩

/-- Every move keeps the mission orderly. -/
theorem MissionMove.orderly {missionId : String} {state after : MissionState}
    {event : MissionEvent} (move : MissionMove missionId state event after)
    (orderly : state.Orderly) : after.Orderly := by
  cases move with
  | rests => exact orderly
  | ticks forward => exact ⟨orderly.known, orderly.parties⟩
  | requests lawful =>
    exact ⟨orderly.known, MissionState.join_orderly orderly.parties ⟨orderly.known, lawful⟩⟩
  | acquires turn found granted =>
    have running := (MissionState.lease_acquired granted).2
    have known : (RunStatus.running) ∈ missionStatuses := by decide
    subst running
    exact ⟨known, MissionState.join_orderly orderly.parties ⟨known, executeJob_lawful _ _⟩⟩
  | meetsFinished present terminal =>
    refine ⟨orderly.known, MissionState.join_orderly orderly.parties ⟨orderly.known, fun _ => ?_⟩⟩
    intro running
    have active : terminalStatuses.contains state.record.status = false := by
      rw [show state.record.status = .running from running]
      decide
    rw [active] at terminal
    cases terminal
  | meetsLease present =>
    exact ⟨orderly.known,
      MissionState.join_orderly orderly.parties ⟨orderly.known, fun _ => trivial⟩⟩
  | moves here move =>
    rename_i index party
    have old : party.Orderly := orderly.parties party (List.mem_of_getElem? here)
    cases move with
    | goesOn follows =>
      exact ⟨orderly.known,
        MissionState.setParty_orderly orderly.parties ⟨old.known, follows _ old.lawful⟩⟩
    | publishes jobId follows =>
      exact ⟨orderly.known,
        MissionState.setParty_orderly orderly.parties ⟨old.known, follows _ old.lawful⟩⟩
    | reads follows =>
      exact ⟨orderly.known,
        MissionState.setParty_orderly orderly.parties ⟨orderly.known, follows _ old.lawful⟩⟩
    | writes turn here =>
      obtain ⟨rule, lawful⟩ := old.rule here
      have known := rule.known old.known
      refine ⟨known, MissionState.setParty_orderly orderly.parties ⟨known, ?_⟩⟩
      rw [Party.wrote_conduct]
      exact lawful
    | touches follows =>
      exact ⟨orderly.known,
        MissionState.setParty_orderly orderly.parties ⟨old.known, follows _ old.lawful⟩⟩
    | answers turn here =>
      exact ⟨orderly.known, MissionState.setParty_orderly orderly.parties old.leave⟩
    | leaves cause =>
      exact ⟨orderly.known, MissionState.setParty_orderly orderly.parties old.leave⟩

/-- A created mission is orderly. -/
theorem MissionState.created_orderly (missionId : String) (now : DateTime) :
    (MissionState.created missionId now).Orderly where
  known := show RunStatus.queued ∈ missionStatuses by decide
  parties := fun _ member => (List.not_mem_nil member).elim

/-- A mission is orderly after every run. -/
theorem missionRun_orderly (missionId : String) (now : DateTime) (events : List MissionEvent) :
    (missionRun missionId now events).Orderly :=
  run_invariant MissionState.Orderly
    (fun state event orderly => (missionStep_move missionId state event).orderly orderly)
    (MissionState.created_orderly missionId now) events

end RateGuard
