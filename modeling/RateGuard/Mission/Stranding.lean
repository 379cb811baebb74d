import RateGuard.Mission.Exclusion

/-!
# Whether a mission is stranded

A message is acknowledged after its mission ended, and also by a delivery that met
another's lease. As long as the writes meet their copies, a retry queues a mission only
while a message is outstanding and no delivery is at work on it, and no execution is
abandoned and no duplicate acknowledged without a message or an execution left, a
mission that is queued or runs has one or the other. A duplicate that is acknowledged
while the holder of the lease dies strands the mission.
-/

open CalendarDate Transition

namespace RateGuard

/-- Deliveries that have acquired the lease or met a finished mission, until they answer. -/
def PartyKind.atWork : PartyKind → Bool
  | .execution | .closing | .late => true
  | .request | .duplicate | .departed => false

/-- Whether a mission that is queued or runs, and that no delivery executes, has a message
outstanding. -/
def MissionState.Unstranded (state : MissionState) : Prop :=
  state.record.status = .queued ∨ state.record.status = .running →
    (∀ party ∈ state.parties, party.kind ≠ .execution) → state.messages ≠ []

/-- Whether an event ends a party without an acknowledgement: it dies, its answer is lost, or it
asks for redelivery. -/
def Abandons (event : MissionEvent) (index : Nat) (party : Party) : Prop :=
  event = .die index ∨
    (event = .fail index ∧ ∃ acknowledged, party.process = .answer acknowledged) ∨
    (event = .advance index ∧ party.process = .answer false)

/-- Whether a step keeps a message outstanding where it has to. -/
structure Retaining (state : MissionState) (event : MissionEvent) : Prop where
  /-- A write meets the stored status that its copy has, or the one that it sets. -/
  status : AtWrites (fun stored writer written =>
    stored.status = writer.copy.status ∨ stored.status = written.status) state event
  /-- A retry queues a mission only while a message is outstanding and no delivery is at work. -/
  queued : AtWrites (fun stored _ written => written.status = .queued → stored.status ≠ .queued →
    state.messages ≠ [] ∧ ∀ party ∈ state.parties, party.kind.atWork = false) state event
  /-- A duplicate is acknowledged only while another message is outstanding, or an execution is at
  work. -/
  duplicate : ∀ index party, event = .advance index → state.parties[index]? = some party →
    party.kind = .duplicate → state.answered party true ≠ [] ∨
      ∃ other ∈ state.parties, other.kind = .execution
  /-- An execution is abandoned only while a message is outstanding. -/
  abandoned : ∀ index party, state.parties[index]? = some party → party.kind = .execution →
    Abandons event index party → state.messages ≠ []

/-- What holds of the messages in every reachable state. -/
structure MissionState.Retained (state : MissionState) : Prop where
  /-- The mission is orderly. -/
  orderly : state.Orderly
  /-- No mission is queued while a delivery is at work on it. -/
  unqueued : ∀ party ∈ state.parties, party.kind.atWork = true →
    state.record.status ≠ .queued ∧ party.copy.status ≠ .queued
  /-- A delivery that found its mission finished, or ended it, is right. -/
  finished : ∀ party ∈ state.parties, party.kind.atWork = true →
    terminalStatuses.contains party.copy.status = true →
      terminalStatuses.contains state.record.status = true
  /-- A mission that is queued or runs has an execution or a message. -/
  outstanding : state.record.status = .queued ∨ state.record.status = .running →
    (∃ party ∈ state.parties, party.kind = .execution) ∨ state.messages ≠ []

/-- Nothing stays queued by a write of a delivery at work. -/
theorem PartyKind.unaimed {kind : PartyKind} (working : kind.atWork = true) :
    RunStatus.queued ∉ kind.conduct.targets := by
  cases kind with
  | execution => decide
  | closing => decide
  | late => decide
  | request => cases working
  | duplicate => cases working
  | departed => cases working

/-- No write makes a mission run that did not. -/
theorem PartyKind.unrunning (kind : PartyKind) : RunStatus.running ∉ kind.conduct.targets := by
  cases kind <;> decide

/-- A known status that is reached from a finished one is finished, or queued. -/
theorem terminal_reached : ∀ before ∈ missionStatuses, ∀ after ∈ missionStatuses,
    terminalStatuses.contains before = true → validateTransition before after = true →
      terminalStatuses.contains after = true ∨ after = .queued := by
  decide

/-- Where a finished mission is, no other party finds it queued or running. -/
theorem terminal_idle {status : RunStatus} (terminal : terminalStatuses.contains status = true) :
    ¬(status = .queued ∨ status = .running) := by
  rintro (queued | running)
  · rw [queued] at terminal
    cases terminal
  · rw [running] at terminal
    cases terminal

/-- A known status that is neither queued nor running is finished. -/
theorem terminal_of_idle : ∀ status ∈ missionStatuses, status ≠ .queued → status ≠ .running →
    terminalStatuses.contains status = true := by
  decide

/-- An execution is still there after a party moved that is none, or stays one. -/
theorem execution_set {parties : List Party} {index : Nat} {party moved : Party}
    (here : parties[index]? = some party)
    (kept : party.kind = .execution → moved.kind = .execution)
    (executing : ∃ other ∈ parties, other.kind = .execution) :
    ∃ other ∈ parties.set index moved, other.kind = .execution := by
  obtain ⟨other, member, kind⟩ := executing
  obtain ⟨j, at_⟩ := List.mem_iff_getElem?.mp member
  obtain ⟨inside, -⟩ := List.getElem?_eq_some_iff.mp here
  by_cases same : index = j
  · subst same
    rw [here] at at_
    cases at_
    exact ⟨moved, List.mem_set inside moved, kept kind⟩
  · refine ⟨other, List.mem_iff_getElem?.mpr ⟨j, ?_⟩, kind⟩
    rw [List.getElem?_set_ne same]
    exact at_

/-- A delivery at work that may acknowledge its message has its mission finished. -/
theorem MissionState.Retained.acknowledged {state : MissionState} (retained : state.Retained)
    {party : Party} (member : party ∈ state.parties) (working : party.kind.atWork = true)
    (here : party.process = .answer true) :
    terminalStatuses.contains state.record.status = true := by
  have old := retained.orderly.parties party member
  have lawful := old.lawful
  rw [here] at lawful
  have idle : party.copy.status ≠ .running := by
    cases kind : party.kind with
    | execution => rw [kind] at lawful; exact lawful rfl
    | closing => rw [kind] at lawful; exact lawful rfl
    | late => rw [kind] at lawful; exact lawful rfl
    | request => rw [kind] at working; cases working
    | duplicate => rw [kind] at working; cases working
    | departed => rw [kind] at working; cases working
  exact retained.finished party member working
    (terminal_of_idle _ old.known (retained.unqueued party member working).2 idle)

/-- What the record has to show to a delivery at work. -/
def MissionRecord.Shows (record : MissionRecord) (party : Party) : Prop :=
  party.kind.atWork = true → (record.status ≠ .queued ∧ party.copy.status ≠ .queued) ∧
    (terminalStatuses.contains party.copy.status = true →
      terminalStatuses.contains record.status = true)

/-- The record shows each delivery what it has to. -/
theorem MissionState.Retained.shows {state : MissionState} (retained : state.Retained)
    {party : Party} (member : party ∈ state.parties) : state.record.Shows party :=
  fun working => ⟨retained.unqueued party member working, retained.finished party member working⟩

/-- A state whose parties are shown what they have to be, and that has an execution or a message
where it needs one, retains. -/
theorem MissionState.Retained.of_shows {state : MissionState} (orderly : state.Orderly)
    (shows : ∀ party ∈ state.parties, state.record.Shows party)
    (outstanding : state.record.status = .queued ∨ state.record.status = .running →
      (∃ party ∈ state.parties, party.kind = .execution) ∨ state.messages ≠ []) :
    state.Retained where
  orderly := orderly
  unqueued := fun party member working => (shows party member working).1
  finished := fun party member working => (shows party member working).2
  outstanding := outstanding

/-- The status that a write meets moves along a transition, to itself or to a target. -/
theorem WriteRule.moves {targets : List RunStatus} {stored written : MissionRecord} {writer : Party}
    (rule : WriteRule targets writer.copy written)
    (status : stored.status = writer.copy.status ∨ stored.status = written.status) :
    validateTransition stored.status written.status = true ∧
      (written.status = stored.status ∨ written.status ∈ targets) := by
  rcases status with same | reached
  · rw [same]
    exact ⟨rule.valid, rule.target⟩
  · rw [reached]
    exact ⟨validateTransition_self _, .inl rfl⟩

/-- A write shows every delivery at work what it has to. -/
theorem MissionState.Retained.write_shows {state : MissionState} {event : MissionEvent}
    {writer : Party} {written : MissionRecord} (retained : state.Retained)
    (retaining : Retaining state event) (pending : (writer, written) ∈ state.pendingWrite event)
    (rule : WriteRule writer.kind.conduct.targets writer.copy written)
    (known : written.status ∈ missionStatuses) {party : Party} (member : party ∈ state.parties)
    (working : party.kind.atWork = true) :
    written.status ≠ .queued ∧ (terminalStatuses.contains party.copy.status = true →
      terminalStatuses.contains written.status = true) := by
  have unqueued : written.status ≠ .queued := by
    intro queued
    have idle := (retaining.queued _ pending queued (retained.unqueued party member working).1).2
    rw [idle party member] at working
    cases working
  refine ⟨unqueued, fun terminal => ?_⟩
  have stored := retained.finished party member working terminal
  have valid := (rule.moves (retaining.status _ pending)).1
  rcases terminal_reached _ retained.orderly.known _ known stored valid with ended | queued
  · exact ended
  · exact absurd queued unqueued

/-- After a write, a mission that is queued or runs has an execution or a message. -/
theorem MissionState.Retained.write_outstanding {state : MissionState} {event : MissionEvent}
    {index : Nat} {writer : Party} {written : MissionRecord} {next : Process}
    (retained : state.Retained) (retaining : Retaining state event)
    (here : state.parties[index]? = some writer)
    (pending : (writer, written) ∈ state.pendingWrite event)
    (rule : WriteRule writer.kind.conduct.targets writer.copy written)
    (active : written.status = .queued ∨ written.status = .running) :
    (∃ party ∈ state.parties.set index (writer.wrote written next), party.kind = .execution) ∨
      state.messages ≠ [] := by
  have open_ : terminalStatuses.contains written.status = false := by
    cases terminal : terminalStatuses.contains written.status with
    | false => rfl
    | true => exact absurd active (terminal_idle terminal)
  have kept : writer.kind = .execution → (writer.wrote written next).kind = .execution := by
    intro executing
    simp only [Party.wrote, open_, Bool.and_false, Bool.false_and, Bool.false_eq_true, if_false]
    exact executing
  rcases (rule.moves (retaining.status _ pending)).2 with same | aimed
  · rw [same] at active
    exact (retained.outstanding active).imp_left (execution_set here kept)
  · rcases active with queued | running
    · by_cases before : state.record.status = .queued
      · exact (retained.outstanding (.inl before)).imp_left (execution_set here kept)
      · exact .inr (retaining.queued _ pending queued before).1
    · exact absurd (running ▸ aimed) writer.kind.unrunning

/-- Every retaining move leaves a state that retains. -/
theorem MissionMove.retained {missionId : String} {state after : MissionState}
    {event : MissionEvent} (move : MissionMove missionId state event after)
    (retaining : Retaining state event) (retained : state.Retained) : after.Retained := by
  have orderly := move.orderly retained.orderly
  have joined : ∀ {party : Party}, party ∈ state.parties → ∀ {record : MissionRecord},
      record.status = state.record.status → record.Shows party := by
    intro party member record same working
    have shown := retained.shows member working
    rw [same]
    exact shown
  have stays : ∀ {party : Party}, (∃ other ∈ state.parties, other.kind = .execution) →
      ∃ other ∈ state.parties ++ [party], other.kind = .execution := by
    rintro party ⟨other, member, kind⟩
    exact ⟨other, List.mem_append_left _ member, kind⟩
  cases move with
  | rests => exact retained
  | ticks forward =>
    exact ⟨orderly, retained.unqueued, retained.finished, retained.outstanding⟩
  | requests lawful =>
    refine .of_shows orderly (fun party member => ?_) fun active =>
      (retained.outstanding active).imp_left stays
    rcases List.mem_append.mp member with old | new
    · exact joined old rfl
    · intro working
      rw [List.mem_singleton.mp new] at working
      cases working
  | acquires turn found granted =>
    obtain ⟨open_, leased⟩ := MissionState.lease_acquired granted
    subst leased
    refine .of_shows orderly (fun party member working => ?_) fun _ =>
      .inl ⟨_, List.mem_append_right _ List.mem_cons_self, rfl⟩
    have running : RunStatus.running ≠ .queued := by decide
    rcases List.mem_append.mp member with old | new
    · obtain ⟨⟨-, unqueued⟩, finished⟩ := retained.shows old working
      refine ⟨⟨running, unqueued⟩, fun terminal => ?_⟩
      rw [finished terminal] at open_
      cases open_
    · rw [List.mem_singleton.mp new]
      exact ⟨⟨running, running⟩, id⟩
  | meetsFinished present terminal =>
    refine .of_shows orderly (fun party member => ?_) fun active =>
      absurd active (terminal_idle terminal)
    rcases List.mem_append.mp member with old | new
    · exact joined old rfl
    · intro _
      rw [List.mem_singleton.mp new]
      have unqueued : state.record.status ≠ .queued := fun queued =>
        terminal_idle terminal (.inl queued)
      exact ⟨⟨unqueued, unqueued⟩, id⟩
  | meetsLease present =>
    refine .of_shows orderly (fun party member => ?_) fun active =>
      (retained.outstanding active).imp_left stays
    rcases List.mem_append.mp member with old | new
    · exact joined old rfl
    · intro working
      rw [List.mem_singleton.mp new] at working
      cases working
  | moves here move =>
    rename_i index party
    have inside := List.mem_of_getElem? here
    have old := retained.orderly.parties party inside
    have others : ∀ {moved : Party}, state.record.Shows moved →
        ∀ other ∈ state.parties.set index moved, state.record.Shows other := by
      intro moved shown other member
      rcases List.mem_or_eq_of_mem_set member with before | new
      · exact retained.shows before
      · exact new ▸ shown
    have own : state.record.Shows party := retained.shows inside
    have left : state.record.Shows party.leave := fun working => by cases working
    cases move with
    | goesOn follows =>
      exact .of_shows orderly (others own) fun active =>
        (retained.outstanding active).imp_left (execution_set here id)
    | publishes jobId follows =>
      exact .of_shows orderly (others own) fun _ =>
        .inr (List.append_ne_nil_of_right_ne_nil _ (List.cons_ne_nil _ _))
    | reads follows =>
      refine .of_shows orderly (others fun working => ?_) fun active =>
        (retained.outstanding active).imp_left (execution_set here id)
      have unqueued := (retained.shows inside working).1.1
      exact ⟨⟨unqueued, unqueued⟩, id⟩
    | touches follows =>
      exact .of_shows orderly (others own) fun active =>
        (retained.outstanding active).imp_left (execution_set here id)
    | writes turn process =>
      rename_i written next raised
      have pending := MissionState.pendingWrite_of turn here process
      have rule := (old.rule process).1
      have known := rule.known old.known
      refine .of_shows orderly (fun other member working => ?_) fun active =>
        retained.write_outstanding retaining here pending rule active
      rcases List.mem_or_eq_of_mem_set member with before | new
      · obtain ⟨unqueued, finished⟩ :=
          retained.write_shows retaining pending rule known before working
        exact ⟨⟨unqueued, (retained.unqueued other before working).2⟩, finished⟩
      · rw [new] at working ⊢
        have worked : party.kind.atWork = true := by
          by_contra idle
          have kind : party.kind ≠ .execution := fun executing => idle (by rw [executing]; rfl)
          rw [Party.wrote] at working
          simp only [kind, decide_false, Bool.false_and, Bool.false_eq_true, if_false] at working
          exact idle working
        have unqueued := (retained.write_shows retaining pending rule known inside worked).1
        exact ⟨⟨unqueued, unqueued⟩, id⟩
    | answers turn process =>
      rename_i acknowledged
      refine .of_shows orderly (others left) fun active => ?_
      cases acknowledged with
      | false =>
        by_cases executing : party.kind = .execution
        · exact .inr (retaining.abandoned index party here executing (.inr (.inr ⟨turn, process⟩)))
        · exact (retained.outstanding active).imp_left
            (execution_set here fun same => absurd same executing)
      | true =>
        have lawful := old.lawful
        rw [process] at lawful
        by_cases working : party.kind.atWork = true
        · exact absurd active (terminal_idle (retained.acknowledged inside working process))
        · cases kind : party.kind with
          | duplicate =>
            rcases retaining.duplicate index party turn here kind with kept | executing
            · exact .inr kept
            · exact .inl (execution_set here (fun same => by rw [kind] at same; cases same)
                executing)
          | request => rw [kind] at lawful; exact (lawful rfl).elim
          | departed => rw [kind] at lawful; exact (lawful rfl).elim
          | execution => rw [kind] at working; exact absurd rfl working
          | closing => rw [kind] at working; exact absurd rfl working
          | late => rw [kind] at working; exact absurd rfl working
    | leaves cause =>
      refine .of_shows orderly (others left) fun active => ?_
      by_cases executing : party.kind = .execution
      · refine .inr (retaining.abandoned index party here executing ?_)
        rcases cause with died | lost | ended
        · exact .inl died
        · exact .inr (.inl lost)
        · have lawful := old.lawful
          rw [ended, executing] at lawful
          exact lawful.elim
      · exact (retained.outstanding active).imp_left
          (execution_set here fun same => absurd same executing)

/-- A created mission has its message. -/
theorem MissionState.created_retained (missionId : String) (now : DateTime) :
    (MissionState.created missionId now).Retained where
  orderly := MissionState.created_orderly missionId now
  unqueued := fun _ member => (List.not_mem_nil member).elim
  finished := fun _ member => (List.not_mem_nil member).elim
  outstanding := fun _ => .inr (List.cons_ne_nil _ _)

/-- After every run of retaining steps, a mission that is queued or runs and that no delivery
executes has a message outstanding. -/
theorem mission_unstranded (missionId : String) (now : DateTime) (events : List MissionEvent)
    (retaining : Along (missionStep missionId) Retaining (.created missionId now) events) :
    (missionRun missionId now events).Unstranded := by
  have retained : (missionRun missionId now events).Retained :=
    retaining.invariant MissionState.Retained
      (fun state event retaining retained =>
        (missionStep_move missionId state event).retained retaining retained)
      (MissionState.created_retained missionId now)
  intro active idle
  rcases retained.outstanding active with ⟨party, member, executing⟩ | outstanding
  · exact absurd executing (idle party member)
  · exact outstanding

/-- A worker that dies while its message is outstanding strands no mission. -/
theorem mission_unstranded_crash :
    (missionRun "MIS-1" sampleClock [.deliver 0 equivalenceCourse, .die 0]).Unstranded := by
  refine mission_unstranded "MIS-1" sampleClock _ ⟨?delivered, ?died, trivial⟩
  case delivered =>
    refine ⟨atWrites_of_none rfl, atWrites_of_none rfl, fun _ _ turn => ?_,
      fun _ _ _ _ _ => List.cons_ne_nil _ _⟩
    cases turn
  case died =>
    refine ⟨atWrites_of_none rfl, atWrites_of_none rfl, fun _ _ turn => ?_,
      fun _ _ _ _ _ => List.cons_ne_nil _ _⟩
    cases turn

/-- A mission is stranded: its message is delivered twice, the duplicate is acknowledged, and the
worker that holds the lease dies. -/
theorem mission_stranded : ¬∀ (missionId : String) (now : DateTime) (events : List MissionEvent),
    (missionRun missionId now events).Unstranded := by
  intro unstranded
  have kept := unstranded "MIS-1" sampleClock
    [.deliver 0 equivalenceCourse, .deliver 0 equivalenceCourse, .advance 1, .die 0]
  exact absurd rfl (kept (.inr (by decide)) (by decide))

end RateGuard
