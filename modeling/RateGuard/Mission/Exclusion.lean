import RateGuard.Mission.Absorption

/-!
# At most one execution

A lease is refreshed when it is acquired and by the heartbeats of a connector scan, at
no other point. As long as every delivery comes while the executions at work are fresh,
the writes leave the lease as the writer found it, and no delivery that has ended its
mission ends it a second time, no delivery acquires the lease while another executes a
stage. A stage that takes longer than the lease lets a redelivered message in.
-/

open CalendarDate Transition

namespace RateGuard

/-- Whether a write leaves the lease as it is: its copy has the stored status and, while the
mission runs, the stored heartbeat; and a delivery that ended its mission writes only while the
stored mission is finished. -/
structure WriteKeepsLease (stored : MissionRecord) (writer : Party) (written : MissionRecord) :
    Prop where
  /-- The stored status is that of the copy, or already the one that is written. -/
  status : stored.status = writer.copy.status ∨ stored.status = written.status
  /-- The copy has the stored heartbeat. -/
  heartbeat : written.status = .running →
    stored.metadata.lastHeartbeatAt = writer.copy.metadata.lastHeartbeatAt
  /-- A mission is ended once by each delivery. -/
  ended : writer.kind = .closing → terminalStatuses.contains stored.status = true

/-- Whether an event is a delivery. -/
def MissionEvent.delivers : MissionEvent → Bool
  | .deliver _ _ => true
  | _ => false

/-- Whether a delivery comes while every execution at work has acquired or refreshed its lease
within the time to live. -/
def DeliveryMeetsFresh (state : MissionState) (event : MissionEvent) : Prop :=
  event.delivers = true → ∀ party ∈ state.parties, party.kind = .execution →
    (state.now.microseconds : Int) - party.stampedAt < leaseTtlSeconds * 1000000

instance (state : MissionState) (event : MissionEvent) :
    Decidable (DeliveryMeetsFresh state event) :=
  inferInstanceAs (Decidable (event.delivers = true → ∀ party ∈ state.parties,
    party.kind = .execution →
      (state.now.microseconds : Int) - party.stampedAt < leaseTtlSeconds * 1000000))

/-- Whether a delivery that acquires the lease finds no execution at work. -/
def Exclusive (state : MissionState) (event : MissionEvent) : Prop :=
  ∀ number course, event = .deliver number course → ∀ message,
    state.messages.find? (·.number = number) = some message →
      (state.lease message.jobId).1 = .acquired →
        ∀ party ∈ state.parties, party.kind ≠ .execution

/-- Whether the record shows the lease of an execution: the mission is cancelled, or runs with a
heartbeat that is not older than the execution's stamp. -/
def MissionRecord.Holds (record : MissionRecord) (party : Party) : Prop :=
  record.status = .cancelled ∨ record.status = .running ∧ ∃ beat : DateTime,
    record.metadata.lastHeartbeatAt = some (.text (String.ofList beat.isoformat)) ∧
      party.stampedAt ≤ beat.microseconds

/-- What holds of the leases in every reachable state. -/
structure MissionState.Held (state : MissionState) : Prop where
  /-- The mission is orderly. -/
  orderly : state.Orderly
  /-- No stamp is of the future. -/
  stamped : ∀ party ∈ state.parties, party.stampedAt ≤ state.now.microseconds
  /-- At most one party executes. -/
  single : ∀ (i j : Nat) (first second : Party), state.parties[i]? = some first →
    state.parties[j]? = some second → first.kind = .execution → second.kind = .execution → i = j
  /-- The record shows its lease. -/
  held : ∀ party ∈ state.parties, party.kind = .execution → state.record.Holds party

/-- A heartbeat written by a clock is read back. -/
theorem MissionRecord.heartbeat_of_clock {record : MissionRecord} {beat : DateTime}
    (heartbeat : record.metadata.lastHeartbeatAt = some (.text (String.ofList beat.isoformat))) :
    record.heartbeat? = some ⟨beat, some 0⟩ := by
  have nonempty : beat.isoformat ≠ [] := by
    unfold DateTime.isoformat
    exact List.append_ne_nil_of_right_ne_nil _ (List.cons_ne_nil _ _)
  have present : (HeartbeatValue.text (String.ofList beat.isoformat)).truthy = true := by
    simpa [HeartbeatValue.truthy, ← String.toList_inj] using nonempty
  unfold MissionRecord.heartbeat?
  rw [heartbeat, Option.filter_some, if_pos present, Option.bind_some]
  exact (congrArg momentFromIsoformat String.toList_ofList).trans
    (momentFromIsoformat_isoformat beat)

/-- Whether a heartbeat of a clock still holds a lease depends on the time since. -/
theorem heartbeatFresh_clock (beat now : DateTime) (leaseSeconds : Int) :
    heartbeatFresh (Moment.orUtc ⟨beat, some 0⟩) leaseSeconds now =
      decide ((now.microseconds : Int) - beat.microseconds < leaseSeconds * 1000000) := by
  simp only [heartbeatFresh, Moment.orUtc, Moment.instant, Option.some_or, Option.map_some,
    Option.any_some, Int.sub_zero]

/-- A running mission is leased as long as its heartbeat is fresh. -/
theorem acquireLease_clock {record : MissionRecord} {beat : DateTime} (jobId : String)
    (leaseSeconds : Int) (now : DateTime) (running : record.status = .running)
    (heartbeat : record.metadata.lastHeartbeatAt =
      some (.text (String.ofList beat.isoformat))) :
    FirestoreRunStore.acquireLease (some record) jobId leaseSeconds now =
      if (now.microseconds : Int) - beat.microseconds < leaseSeconds * 1000000 then
        (.alreadyLeased, some record)
      else (.acquired, some (record.merge (record.leased jobId now))) := by
  have active : terminalStatuses.contains RunStatus.running = false := by decide
  simp only [FirestoreRunStore.acquireLease, running, active,
    MissionRecord.heartbeat_of_clock heartbeat, heartbeatFresh_clock, Option.any_some, decide_true,
    Bool.true_and, decide_eq_true_eq, Bool.false_eq_true, if_false]

/-- A delivery that comes while the executions at work are fresh acquires no lease of theirs. -/
theorem MissionState.Held.exclusive {state : MissionState} {event : MissionEvent}
    (held : state.Held) (fresh : DeliveryMeetsFresh state event) : Exclusive state event := by
  intro number course turn message found granted party member executing
  have recent := fresh (by rw [turn]; rfl) party member executing
  rcases held.held party member executing with cancelled | ⟨running, beat, heartbeat, stamped⟩
  · have terminal : terminalStatuses.contains state.record.status = true := by
      rw [cancelled]
      decide
    unfold MissionState.lease FirestoreRunStore.acquireLease at granted
    simp only [if_pos terminal] at granted
    cases granted
  · have fresher : (state.now.microseconds : Int) - beat.microseconds <
        leaseTtlSeconds * 1000000 := by
      omega
    rw [MissionState.lease, acquireLease_clock message.jobId _ _ running heartbeat,
      if_pos fresher] at granted
    cases granted

/-- A write that keeps the lease leaves every execution its lease, unless the writer ends its own
execution. -/
theorem WriteRule.holds {stored written : MissionRecord} {writer party : Party}
    (rule : WriteRule writer.kind.conduct.targets writer.copy written)
    (keeps : WriteKeepsLease stored writer written) (holds : stored.Holds party) :
    (stored.merge written).Holds party ∨
      writer.kind = .execution ∧ terminalStatuses.contains written.status = true ∧
        terminalStatuses.contains writer.copy.status = false := by
  by_cases cancelled : written.status = .cancelled
  · exact .inl (.inl cancelled)
  by_cases running : written.status = .running
  · have unaimed : RunStatus.running ∉ writer.kind.conduct.targets := by
      cases writer.kind <;> decide
    have before : stored.status = .running := by
      rcases keeps.status with same | reached
      · rcases rule.target with stays | aimed
        · rw [same, ← stays, running]
        · exact absurd (running ▸ aimed) unaimed
      · rw [reached, running]
    rcases holds with ended | ⟨-, beat, heartbeat, stamped⟩
    · rw [ended] at before
      cases before
    · refine .inl (.inr ⟨running, beat, ?_, stamped⟩)
      show written.metadata.lastHeartbeatAt.or stored.metadata.lastHeartbeatAt = _
      rw [rule.heartbeat, ← keeps.heartbeat running, Option.or_self, heartbeat]
  have before : stored.status = .cancelled ∨ stored.status = .running :=
    holds.imp id And.left
  have copied : writer.copy.status = stored.status := by
    rcases keeps.status with same | reached
    · exact same.symm
    · rcases before with ended | active
      · exact absurd (reached ▸ ended) cancelled
      · exact absurd (reached ▸ active) running
  have aimed : written.status ∈ writer.kind.conduct.targets := by
    rcases rule.target with stays | aimed
    · rw [copied] at stays
      rcases before with ended | active
      · exact absurd (stays ▸ ended) cancelled
      · exact absurd (stays ▸ active) running
    · exact aimed
  have valid := rule.valid
  rw [copied] at valid ⊢
  -- Only a delivery that executes may end a running mission, and none a cancelled one.
  cases kind : writer.kind with
  | request =>
    rw [kind] at aimed
    rcases List.mem_cons.mp aimed with ended | queued
    · exact absurd ended cancelled
    · rw [List.mem_singleton.mp queued] at valid
      rcases before with ended | active
      · rw [ended] at valid
        cases valid
      · rw [active] at valid
        cases valid
  | execution =>
    rw [kind] at aimed
    have final : ∀ status ∈ PartyKind.execution.conduct.targets,
        terminalStatuses.contains status = true ∧
          validateTransition .cancelled status = decide (status = .cancelled) := by decide
    obtain ⟨terminal, absorbed⟩ := final _ aimed
    refine .inr ⟨rfl, terminal, ?_⟩
    rcases before with ended | active
    · rw [ended, absorbed, decide_eq_true_eq] at valid
      exact absurd valid cancelled
    · rw [active]
      decide
  | closing =>
    rw [kind] at aimed
    have final : ∀ status ∈ PartyKind.closing.conduct.targets,
        validateTransition .cancelled status = decide (status = .cancelled) := by decide
    have terminal := keeps.ended kind
    rcases before with ended | active
    · rw [ended, final _ aimed, decide_eq_true_eq] at valid
      exact absurd valid cancelled
    · rw [active] at terminal
      cases terminal
  | late =>
    rw [kind] at aimed
    exact (List.not_mem_nil aimed).elim
  | duplicate =>
    rw [kind] at aimed
    exact (List.not_mem_nil aimed).elim
  | departed =>
    rw [kind] at aimed
    exact (List.not_mem_nil aimed).elim

/-- A state in which one party moved shows the leases if the other executions and the party keep
theirs. -/
theorem MissionState.Held.set {state after : MissionState} {index : Nat} {party moved : Party}
    (held : state.Held) (here : state.parties[index]? = some party) (orderly : after.Orderly)
    (clock : after.now = state.now) (parties : after.parties = state.parties.set index moved)
    (stamp : moved.stampedAt ≤ state.now.microseconds)
    (kind : moved.kind = .execution → party.kind = .execution)
    (others : ∀ j other, j ≠ index → state.parties[j]? = some other → other.kind = .execution →
      after.record.Holds other)
    (own : moved.kind = .execution → after.record.Holds moved) : after.Held := by
  have found : ∀ {j : Nat} {other : Party}, after.parties[j]? = some other →
      (j = index ∧ other = moved) ∨ (j ≠ index ∧ state.parties[j]? = some other) := by
    intro j other at_
    rw [parties, List.getElem?_set] at at_
    by_cases same : index = j
    · subst same
      rw [if_pos rfl] at at_
      split at at_
      · exact .inl ⟨rfl, (Option.some.inj at_).symm⟩
      · cases at_
    · rw [if_neg same] at at_
      exact .inr ⟨Ne.symm same, at_⟩
  have source : ∀ {j : Nat} {other : Party}, after.parties[j]? = some other →
      other.kind = .execution →
        ∃ before, state.parties[j]? = some before ∧ before.kind = .execution := by
    intro j other at_ executing
    rcases found at_ with ⟨rfl, rfl⟩ | ⟨-, old⟩
    · exact ⟨party, here, kind executing⟩
    · exact ⟨other, old, executing⟩
  refine ⟨orderly, fun other member => ?_, fun i j first second atFirst atSecond one two => ?_,
    fun other member executing => ?_⟩
  · obtain ⟨j, at_⟩ := List.mem_iff_getElem?.mp member
    rw [clock]
    rcases found at_ with ⟨-, rfl⟩ | ⟨-, old⟩
    · exact stamp
    · exact held.stamped other (List.mem_of_getElem? old)
  · obtain ⟨before, old, executed⟩ := source atFirst one
    obtain ⟨before', old', executed'⟩ := source atSecond two
    exact held.single i j before before' old old' executed executed'
  · obtain ⟨j, at_⟩ := List.mem_iff_getElem?.mp member
    rcases found at_ with ⟨-, rfl⟩ | ⟨apart, old⟩
    · exact own executing
    · exact others j other apart old executing

/-- A state that a party joins shows the leases if it is no execution, or the only one. -/
theorem MissionState.Held.join {state after : MissionState} {party : Party} (held : state.Held)
    (orderly : after.Orderly) (clock : after.now = state.now)
    (parties : after.parties = state.parties ++ [party])
    (stamp : party.stampedAt ≤ state.now.microseconds)
    (alone : party.kind = .execution → after.record.Holds party ∧
      ∀ other ∈ state.parties, other.kind ≠ .execution)
    (same : party.kind ≠ .execution → after.record = state.record) : after.Held := by
  have found : ∀ {j : Nat} {other : Party}, after.parties[j]? = some other →
      state.parties[j]? = some other ∨ (j = state.parties.length ∧ other = party) := by
    intro j other at_
    rw [parties, List.getElem?_append] at at_
    split at at_
    · exact .inl at_
    · rename_i beyond
      obtain ⟨short, rfl⟩ := List.getElem?_eq_some_iff.mp at_
      rw [List.length_singleton] at short
      exact .inr ⟨by omega, by simp⟩
  refine ⟨orderly, fun other member => ?_, fun i j first second atFirst atSecond one two => ?_,
    fun other member executing => ?_⟩
  · obtain ⟨j, at_⟩ := List.mem_iff_getElem?.mp member
    rw [clock]
    rcases found at_ with old | ⟨-, rfl⟩
    · exact held.stamped other (List.mem_of_getElem? old)
    · exact stamp
  · rcases found atFirst with old | ⟨last, rfl⟩ <;> rcases found atSecond with old' | ⟨last', rfl⟩
    · exact held.single i j first second old old' one two
    · exact absurd one ((alone two).2 first (List.mem_of_getElem? old))
    · exact absurd two ((alone one).2 second (List.mem_of_getElem? old'))
    · rw [last, last']
  · obtain ⟨j, at_⟩ := List.mem_iff_getElem?.mp member
    rcases found at_ with old | ⟨-, rfl⟩
    · have inside := List.mem_of_getElem? old
      by_cases joined : party.kind = .execution
      · exact absurd executing ((alone joined).2 other inside)
      · rw [same joined]
        exact held.held other inside executing
    · exact (alone executing).1

/-- Every move whose write keeps the lease and whose delivery meets fresh executions leaves a state
that shows the leases. -/
theorem MissionMove.held {missionId : String} {state after : MissionState} {event : MissionEvent}
    (move : MissionMove missionId state event after) (keeps : AtWrites WriteKeepsLease state event)
    (fresh : DeliveryMeetsFresh state event) (held : state.Held) : after.Held := by
  have orderly := move.orderly held.orderly
  cases move with
  | rests => exact held
  | ticks forward =>
    exact ⟨orderly, fun party member => (held.stamped party member).trans forward, held.single,
      held.held⟩
  | requests lawful =>
    exact held.join orderly rfl rfl (Nat.zero_le _) (fun executing => by cases executing)
      fun _ => rfl
  | acquires turn found granted =>
    have alone := held.exclusive fresh _ _ turn _ found (by rw [granted])
    obtain ⟨-, leased⟩ := MissionState.lease_acquired granted
    refine held.join orderly rfl rfl (Nat.le_refl _) (fun _ => ⟨?_, alone⟩) fun other =>
      absurd rfl other
    subst leased
    exact .inr ⟨rfl, state.now, rfl, Nat.le_refl _⟩
  | meetsFinished present terminal =>
    exact held.join orderly rfl rfl (Nat.le_refl _) (fun executing => by cases executing)
      fun _ => rfl
  | meetsLease present =>
    exact held.join orderly rfl rfl (Nat.le_refl _) (fun executing => by cases executing)
      fun _ => rfl
  | moves here move =>
    rename_i index party
    have inside := List.mem_of_getElem? here
    have stamp := held.stamped party inside
    have others : ∀ j other, j ≠ index → state.parties[j]? = some other →
        other.kind = .execution → state.record.Holds other :=
      fun j other _ at_ => held.held other (List.mem_of_getElem? at_)
    have own := held.held party inside
    cases move with
    | goesOn follows => exact held.set here orderly rfl rfl stamp id others own
    | publishes jobId follows => exact held.set here orderly rfl rfl stamp id others own
    | reads follows => exact held.set here orderly rfl rfl stamp id others own
    | answers turn process =>
      exact held.set here orderly rfl rfl stamp (fun left => by cases left) others
        fun left => by cases left
    | leaves cause =>
      exact held.set here orderly rfl rfl stamp (fun left => by cases left) others
        fun left => by cases left
    | touches follows =>
      have renewed : ∀ other : Party, other.stampedAt ≤ state.now.microseconds →
          state.record.Holds other → (state.record.touched state.now).Holds other := by
        intro other stamped holds
        rcases holds with cancelled | ⟨running, -⟩
        · exact .inl cancelled
        · exact .inr ⟨running, state.now, rfl, stamped⟩
      refine held.set here orderly rfl rfl (Nat.le_refl _) id (fun j other apart at_ executing => ?_)
        fun executing => ?_
      · exact renewed other (held.stamped other (List.mem_of_getElem? at_))
          (others j other apart at_ executing)
      · rcases own executing with cancelled | ⟨running, -⟩
        · exact .inl cancelled
        · exact .inr ⟨running, state.now, rfl, Nat.le_refl _⟩
    | writes turn process =>
      rename_i written next raised
      have rule := ((held.orderly.parties party inside).rule process).1
      have kept := keeps _ (MissionState.pendingWrite_of turn here process)
      refine held.set here orderly rfl rfl stamp (fun executing => ?_)
        (fun j other apart at_ executing => ?_) fun executing => ?_
      · by_contra idle
        simp [Party.wrote, idle] at executing
      · rcases rule.holds kept (others j other apart at_ executing) with holds | ⟨ending, -⟩
        · exact holds
        · exact absurd (held.single j index other party at_ here executing ending) apart
      · have executed : party.kind = .execution := by
          by_contra idle
          simp [Party.wrote, idle] at executing
        rcases rule.holds kept (own executed) with holds | ⟨-, terminal, active⟩
        · exact holds
        · simp only [Party.wrote, executed, terminal, active, decide_true, Bool.not_false,
            Bool.and_self, if_true] at executing
          cases executing

/-- A created mission shows its leases. -/
theorem MissionState.created_held (missionId : String) (now : DateTime) :
    (MissionState.created missionId now).Held where
  orderly := MissionState.created_orderly missionId now
  stamped := fun _ member => (List.not_mem_nil member).elim
  single := fun _ _ _ _ at_ => by cases at_
  held := fun _ member => (List.not_mem_nil member).elim

/-- In every run whose deliveries meet fresh executions and whose writes keep the lease, no delivery
acquires the lease while another executes a stage. -/
theorem executions_exclusive (missionId : String) (now : DateTime) (events : List MissionEvent)
    (keeps : Along (missionStep missionId) (fun state event =>
      AtWrites WriteKeepsLease state event ∧ DeliveryMeetsFresh state event)
      (.created missionId now) events) :
    Along (missionStep missionId) Exclusive (.created missionId now) events :=
  keeps.imp MissionState.Held
    (fun state event keeps held => (missionStep_move missionId state event).held keeps.1 keeps.2 held)
    (fun _ _ keeps held => held.exclusive keeps.2)
    (MissionState.created_held missionId now)

/-- Two minutes after the moment of a spring day. -/
def sampleLater : DateTime where
  date := sampleClock.date
  time := { sampleClock.time with minute := 32, minuteValid := by decide }

/-- A message that is delivered twice in a row starts one execution. -/
theorem executions_exclusive_once :
    Along (missionStep "MIS-1") Exclusive (.created "MIS-1" sampleClock)
      [.deliver 0 equivalenceCourse, .deliver 0 equivalenceCourse] :=
  executions_exclusive "MIS-1" sampleClock _
    ⟨⟨atWrites_of_none rfl, by decide⟩, ⟨atWrites_of_none rfl, by decide⟩, trivial⟩

/-- An execution has marked its first stage, which takes two minutes. -/
def slowValidation : List MissionEvent :=
  .deliver 0 equivalenceCourse :: List.replicate 7 (.advance 0) ++ [.tick sampleLater]

/-- Two executions are at work at once: the message is delivered again while the first stage of the
first execution is still at work. -/
theorem executions_not_exclusive : ¬∀ (missionId : String) (now : DateTime)
    (events : List MissionEvent),
    Along (missionStep missionId) Exclusive (.created missionId now) events := by
  intro exclusive
  have redelivered := (along_append.mp (exclusive "MIS-1" sampleClock
    (slowValidation ++ [.deliver 0 equivalenceCourse]))).2.1
  have granted : (missionRun "MIS-1" sampleClock slowValidation).lease "JOB-MIS-1" = _ :=
    acquireLease_clock "JOB-MIS-1" leaseTtlSeconds sampleLater rfl rfl
  rw [if_neg (by decide)] at granted
  exact redelivered 0 equivalenceCourse rfl ⟨0, "JOB-MIS-1"⟩ rfl (congrArg Prod.fst granted) _
    List.mem_cons_self rfl

end RateGuard
