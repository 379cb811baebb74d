import RateGuard.Mission.Transitions

/-!
# Execution leases

A delivery may execute a mission once it holds its lease. The base store decides from
the stored record and routes the change through the transition policy; the memory and
the Firestore store write the record themselves. The Firestore store reads a naive
heartbeat in universal time, on which the others raise and go on.
-/

open CalendarDate

namespace RateGuard

/-- `LeaseOutcome`. -/
inductive LeaseOutcome where
  | acquired | notFound | alreadyTerminal | alreadyLeased | invalidTransition
  deriving DecidableEq, Repr

/-- `LEASE_TTL_SECONDS`. -/
def leaseTtlSeconds : Int := 120

/-- Whether a heartbeat value counts as present. -/
def HeartbeatValue.truthy : HeartbeatValue → Bool
  | .text value => value ≠ ""
  | .moment _ => true
  | .other truthy => truthy

/-- Moment of a heartbeat value. -/
def HeartbeatValue.moment? : HeartbeatValue → Option Moment
  | .text value => momentFromIsoformat value.toList
  | .moment value => some value
  | .other _ => none

/-- Whether less than the time to live has passed since a moment; a naive one raises. -/
def heartbeatFresh (moment : Moment) (leaseSeconds : Int) (now : DateTime) : Bool :=
  moment.instant.any fun instant => now.microseconds - instant < leaseSeconds * 1000000

/-- Heartbeat of a record, as far as it is present. -/
def MissionRecord.heartbeat? (record : MissionRecord) : Option Moment :=
  (record.metadata.lastHeartbeatAt.filter (·.truthy)).bind (·.moment?)

/-- Record under a new lease, as the memory and the Firestore store write it. -/
def MissionRecord.leased (record : MissionRecord) (jobId : String) (now : DateTime) :
    MissionRecord :=
  { record with
    status := .running
    workflowStage := "RUNNING"
    startedAt := record.startedAt.or (some now)
    metadata := { record.metadata with
      lastHeartbeatAt := some (.text (String.ofList now.isoformat))
      leaseOwner := some jobId } }

/-- Transition that a lease asks for. -/
def leaseTransition (jobId : String) (now : DateTime) : TransitionRequest where
  target := .running
  statusReason := none
  workflowStage := some "RUNNING"
  extraMetadata := { MissionMetadata.empty with
    lastHeartbeatAt := some (.text (String.ofList now.isoformat))
    leaseOwner := some jobId }
  expected := none

/-- `BaseRunStore.acquire_lease`: the outcome and the record stored afterwards. -/
def BaseRunStore.acquireLease (stored : Option MissionRecord) (jobId : String)
    (leaseSeconds : Int) (now : DateTime) : LeaseOutcome × Option MissionRecord :=
  match stored with
  | none => (.notFound, none)
  | some record =>
    if terminalStatuses.contains record.status then (.alreadyTerminal, record)
    else if record.status = .running && record.heartbeat?.any (heartbeatFresh · leaseSeconds now) then
      (.alreadyLeased, record)
    else
      match applyTransition (leaseTransition jobId now) now record with
      | .error _ => (.invalidTransition, record)
      | .ok written => (.acquired, some (record.merge written))

/-- `InMemoryRunStore.acquire_lease`. -/
def InMemoryRunStore.acquireLease (stored : Option MissionRecord) (jobId : String)
    (leaseSeconds : Int) (now : DateTime) : LeaseOutcome × Option MissionRecord :=
  match stored with
  | none => (.notFound, none)
  | some record =>
    if terminalStatuses.contains record.status then (.alreadyTerminal, record)
    else if record.status = .running && record.heartbeat?.any (heartbeatFresh · leaseSeconds now) then
      (.alreadyLeased, record)
    else (.acquired, some (record.leased jobId now))

/-- `FirestoreRunStore.acquire_lease`. -/
def FirestoreRunStore.acquireLease (stored : Option MissionRecord) (jobId : String)
    (leaseSeconds : Int) (now : DateTime) : LeaseOutcome × Option MissionRecord :=
  match stored with
  | none => (.notFound, none)
  | some record =>
    if terminalStatuses.contains record.status then (.alreadyTerminal, record)
    else if record.status = .running &&
        record.heartbeat?.any fun moment => heartbeatFresh moment.orUtc leaseSeconds now then
      (.alreadyLeased, record)
    else (.acquired, some (record.merge (record.leased jobId now)))

/-- What a lease leaves behind: status, owner and heartbeat. -/
structure LeaseState where
  /-- Status. -/
  status : RunStatus
  /-- Owner. -/
  owner : Option String
  /-- Heartbeat. -/
  heartbeat : Option HeartbeatValue

/-- Lease state of a record. -/
def MissionRecord.leaseState (record : MissionRecord) : LeaseState :=
  ⟨record.status, record.metadata.leaseOwner, record.metadata.lastHeartbeatAt⟩

/-- Whether the status changed along an allowed transition, if at all. -/
def Permitted (before after : Option MissionRecord) : Prop :=
  ∀ old ∈ before, ∀ new ∈ after, validateTransition old.status new.status = true

/-- The three stores answer alike, leave the same lease state and respect the transitions. -/
structure LeasesAgree (stored : Option MissionRecord) (jobId : String) (leaseSeconds : Int)
    (now : DateTime) : Prop where
  /-- The outcomes are equal. -/
  outcomes :
    (BaseRunStore.acquireLease stored jobId leaseSeconds now).1 =
      (InMemoryRunStore.acquireLease stored jobId leaseSeconds now).1 ∧
    (InMemoryRunStore.acquireLease stored jobId leaseSeconds now).1 =
      (FirestoreRunStore.acquireLease stored jobId leaseSeconds now).1
  /-- The lease states are equal. -/
  states :
    (BaseRunStore.acquireLease stored jobId leaseSeconds now).2.map (·.leaseState) =
      (InMemoryRunStore.acquireLease stored jobId leaseSeconds now).2.map (·.leaseState) ∧
    (InMemoryRunStore.acquireLease stored jobId leaseSeconds now).2.map (·.leaseState) =
      (FirestoreRunStore.acquireLease stored jobId leaseSeconds now).2.map (·.leaseState)
  /-- The base store changes the status along a transition. -/
  base : Permitted stored (BaseRunStore.acquireLease stored jobId leaseSeconds now).2
  /-- The memory store changes the status along a transition. -/
  memory : Permitted stored (InMemoryRunStore.acquireLease stored jobId leaseSeconds now).2
  /-- The Firestore store changes the status along a transition. -/
  firestore : Permitted stored (FirestoreRunStore.acquireLease stored jobId leaseSeconds now).2

/-- Statuses that may start to run. -/
def RunStatus.mayRun (status : RunStatus) : Bool := validateTransition status .running

/-- Whether a record's heartbeat is naive but would count in universal time. -/
def MissionRecord.naiveHeartbeat (record : MissionRecord) (leaseSeconds : Int) (now : DateTime) :
    Bool :=
  record.heartbeat?.any fun moment =>
    moment.offset.isNone && heartbeatFresh moment.orUtc leaseSeconds now

/-- Where the stores agree: no record, a finished mission, or one that may run and whose heartbeat,
while it runs, is not naive and recent. -/
def LeasesAlike (stored : Option MissionRecord) (leaseSeconds : Int) (now : DateTime) : Prop :=
  ∀ record ∈ stored, terminalStatuses.contains record.status = true ∨
    record.status.mayRun = true ∧
      ¬(record.status = .running ∧ record.naiveHeartbeat leaseSeconds now = true)

/-- A heartbeat counts alike in every store unless it is naive. -/
theorem heartbeatFresh_orUtc (moment : Moment) (leaseSeconds : Int) (now : DateTime) :
    heartbeatFresh moment.orUtc leaseSeconds now =
      (heartbeatFresh moment leaseSeconds now ||
        (moment.offset.isNone && heartbeatFresh moment.orUtc leaseSeconds now)) := by
  obtain ⟨clock, offset⟩ := moment
  cases offset with
  | none => simp [heartbeatFresh, Moment.instant]
  | some ahead => simp [heartbeatFresh, Moment.instant, Moment.orUtc]

/-- A naive heartbeat never counts where it is not read in universal time. -/
theorem heartbeatFresh_naive {moment : Moment} (naive : moment.offset.isNone = true)
    (leaseSeconds : Int) (now : DateTime) : heartbeatFresh moment leaseSeconds now = false := by
  rw [Option.isNone_iff_eq_none] at naive
  simp [heartbeatFresh, Moment.instant, naive]

/-- The Firestore store sees a recent heartbeat where the others do, or where it is naive. -/
theorem MissionRecord.heartbeat_orUtc (record : MissionRecord) (leaseSeconds : Int)
    (now : DateTime) :
    (record.heartbeat?.any fun moment => heartbeatFresh moment.orUtc leaseSeconds now) =
      (record.heartbeat?.any (heartbeatFresh · leaseSeconds now) ||
        record.naiveHeartbeat leaseSeconds now) := by
  unfold MissionRecord.naiveHeartbeat
  cases record.heartbeat? with
  | none => rfl
  | some moment => exact heartbeatFresh_orUtc moment leaseSeconds now

/-- The status of a record may stay. -/
theorem validateTransition_self (status : RunStatus) : validateTransition status status = true := by
  simp [validateTransition]

/-- A record that stays as it is changes no status. -/
theorem permitted_self (stored : Option MissionRecord) : Permitted stored stored := by
  intro old before new after
  cases before
  cases after
  exact validateTransition_self _

/-- A new lease is a permitted change of a status that may run. -/
theorem permitted_running {record written : MissionRecord} (running : written.status = .running) :
    Permitted (some record) (some written) ↔ record.status.mayRun = true := by
  simp [Permitted, RunStatus.mayRun, running]

/-- The base store grants the lease of a record that may run, with the others' lease state. -/
theorem applyTransition_lease {record : MissionRecord} (mayRun : record.status.mayRun = true)
    (jobId : String) (now : DateTime) :
    ∃ written, applyTransition (leaseTransition jobId now) now record = .ok written ∧
      (record.merge written).leaseState = (record.leased jobId now).leaseState := by
  have valid : validateTransition record.status (leaseTransition jobId now).target = true := mayRun
  cases applied : applyTransition (leaseTransition jobId now) now record with
  | error error =>
    simp [applyTransition, valid, show (leaseTransition jobId now).expected = none from rfl]
      at applied
  | ok written =>
    refine ⟨written, rfl, ?_⟩
    simp only [applyTransition, valid, Bool.not_true, Bool.false_eq_true, if_false] at applied
    cases applied
    rfl

/-- Stores that answer alike and change statuses along transitions agree. -/
theorem LeasesAgree.of_answers {stored : Option MissionRecord} {jobId : String}
    {leaseSeconds : Int} {now : DateTime} {outcome : LeaseOutcome}
    {base memory firestore : Option MissionRecord}
    (fromBase : BaseRunStore.acquireLease stored jobId leaseSeconds now = (outcome, base))
    (fromMemory : InMemoryRunStore.acquireLease stored jobId leaseSeconds now = (outcome, memory))
    (fromFirestore : FirestoreRunStore.acquireLease stored jobId leaseSeconds now =
      (outcome, firestore))
    (first : base.map (·.leaseState) = memory.map (·.leaseState))
    (second : memory.map (·.leaseState) = firestore.map (·.leaseState))
    (permitted : Permitted stored base ∧ Permitted stored memory ∧ Permitted stored firestore) :
    LeasesAgree stored jobId leaseSeconds now where
  outcomes := by rw [fromBase, fromMemory, fromFirestore]; exact ⟨rfl, rfl⟩
  states := by rw [fromBase, fromMemory, fromFirestore]; exact ⟨first, second⟩
  base := by rw [fromBase]; exact permitted.1
  memory := by rw [fromMemory]; exact permitted.2.1
  firestore := by rw [fromFirestore]; exact permitted.2.2

/-- A record whose mission ended is left alone by every store. -/
theorem leasesAgree_terminal {record : MissionRecord}
    (terminal : terminalStatuses.contains record.status = true) (jobId : String)
    (leaseSeconds : Int) (now : DateTime) : LeasesAgree (some record) jobId leaseSeconds now := by
  have base : BaseRunStore.acquireLease (some record) jobId leaseSeconds now =
      (.alreadyTerminal, some record) := by
    simp only [BaseRunStore.acquireLease, if_pos terminal]
  have memory : InMemoryRunStore.acquireLease (some record) jobId leaseSeconds now =
      (.alreadyTerminal, some record) := by
    simp only [InMemoryRunStore.acquireLease, if_pos terminal]
  have firestore : FirestoreRunStore.acquireLease (some record) jobId leaseSeconds now =
      (.alreadyTerminal, some record) := by
    simp only [FirestoreRunStore.acquireLease, if_pos terminal]
  exact .of_answers base memory firestore rfl rfl
    ⟨permitted_self _, permitted_self _, permitted_self _⟩

/-- A record that may run is leased alike unless its heartbeat is naive and recent. -/
theorem leasesAgree_open {record : MissionRecord}
    (active : terminalStatuses.contains record.status = false)
    (mayRun : record.status.mayRun = true) (jobId : String) (leaseSeconds : Int) (now : DateTime)
    (aware : ¬(record.status = .running ∧ record.naiveHeartbeat leaseSeconds now = true)) :
    LeasesAgree (some record) jobId leaseSeconds now := by
  have same : (record.status = .running && record.heartbeat?.any fun moment =>
      heartbeatFresh moment.orUtc leaseSeconds now) =
      (record.status = .running && record.heartbeat?.any (heartbeatFresh · leaseSeconds now)) := by
    rw [record.heartbeat_orUtc]
    by_cases running : record.status = .running
    · have notNaive : record.naiveHeartbeat leaseSeconds now = false :=
        Bool.eq_false_iff.mpr fun naive => aware ⟨running, naive⟩
      rw [notNaive, Bool.or_false]
    · simp [running]
  obtain ⟨written, applied, state⟩ := applyTransition_lease mayRun jobId now
  have running : written.status = .running := (applyTransition_allowed applied).2.1
  cases held : (record.status = .running &&
      record.heartbeat?.any (heartbeatFresh · leaseSeconds now) : Bool) with
  | true =>
    have base : BaseRunStore.acquireLease (some record) jobId leaseSeconds now =
        (.alreadyLeased, some record) := by
      simp only [BaseRunStore.acquireLease, active, held, Bool.false_eq_true, if_false, if_true]
    have memory : InMemoryRunStore.acquireLease (some record) jobId leaseSeconds now =
        (.alreadyLeased, some record) := by
      simp only [InMemoryRunStore.acquireLease, active, held, Bool.false_eq_true, if_false,
        if_true]
    have firestore : FirestoreRunStore.acquireLease (some record) jobId leaseSeconds now =
        (.alreadyLeased, some record) := by
      simp only [FirestoreRunStore.acquireLease, active, same, held, Bool.false_eq_true, if_false,
        if_true]
    exact .of_answers base memory firestore rfl rfl
      ⟨permitted_self _, permitted_self _, permitted_self _⟩
  | false =>
    have base : BaseRunStore.acquireLease (some record) jobId leaseSeconds now =
        (.acquired, some (record.merge written)) := by
      simp only [BaseRunStore.acquireLease, active, held, applied, Bool.false_eq_true, if_false]
    have memory : InMemoryRunStore.acquireLease (some record) jobId leaseSeconds now =
        (.acquired, some (record.leased jobId now)) := by
      simp only [InMemoryRunStore.acquireLease, active, held, Bool.false_eq_true, if_false]
    have firestore : FirestoreRunStore.acquireLease (some record) jobId leaseSeconds now =
        (.acquired, some (record.merge (record.leased jobId now))) := by
      simp only [FirestoreRunStore.acquireLease, active, same, held, Bool.false_eq_true, if_false]
    have merged : (record.merge written).status = .running := running
    exact .of_answers base memory firestore (congrArg some state) rfl
      ⟨(permitted_running merged).mpr mayRun, (permitted_running rfl).mpr mayRun,
        (permitted_running rfl).mpr mayRun⟩

/-- The three stores agree and respect the transitions exactly on records that are absent or
finished, or that may run and, while running, have no recent naive heartbeat. -/
theorem acquireLease_agree_iff (stored : Option MissionRecord) (jobId : String)
    (leaseSeconds : Int) (now : DateTime) :
    LeasesAgree stored jobId leaseSeconds now ↔ LeasesAlike stored leaseSeconds now := by
  cases stored with
  | none =>
    constructor
    · intro _ record missing
      cases missing
    · intro _
      exact ⟨⟨rfl, rfl⟩, ⟨rfl, rfl⟩, permitted_self _, permitted_self _, permitted_self _⟩
  | some record =>
    cases ended : terminalStatuses.contains record.status with
    | true =>
      refine ⟨fun _ other same => ?_, fun _ => leasesAgree_terminal ended jobId leaseSeconds now⟩
      cases same
      exact .inl ended
    | false =>
      constructor
      · intro agree other same
        cases same
        have mayRun : record.status.mayRun = true := by
          by_contra refused
          have notRunning : ¬record.status = .running := by
            intro running
            rw [running] at refused
            exact refused (validateTransition_self _)
          have permitted := agree.memory
          simp only [InMemoryRunStore.acquireLease, ended, notRunning, decide_false,
            Bool.false_and, Bool.false_eq_true, if_false] at permitted
          exact refused ((permitted_running rfl).mp permitted)
        refine .inr ⟨mayRun, ?_⟩
        rintro ⟨running, naive⟩
        have stale : record.heartbeat?.any (heartbeatFresh · leaseSeconds now) = false := by
          unfold MissionRecord.naiveHeartbeat at naive
          cases found : record.heartbeat? with
          | none => rfl
          | some moment =>
            rw [found, Option.any_some, Bool.and_eq_true] at naive
            exact heartbeatFresh_naive naive.1 leaseSeconds now
        have counted : (record.heartbeat?.any fun moment =>
            heartbeatFresh moment.orUtc leaseSeconds now) = true := by
          rw [record.heartbeat_orUtc, naive, Bool.or_true]
        have outcomes := agree.outcomes.2
        simp only [InMemoryRunStore.acquireLease, FirestoreRunStore.acquireLease, running, stale,
          counted, decide_true, Bool.and_true, Bool.and_false, Bool.false_eq_true, if_false,
          if_true] at outcomes
        cases outcomes
      · intro alike
        rcases alike record rfl with terminal | ⟨mayRun, aware⟩
        · rw [ended] at terminal
          cases terminal
        · exact leasesAgree_open ended mayRun jobId leaseSeconds now aware

/-- A mission that waits for a review. -/
def reviewedMission : MissionRecord where
  status := .needsReview
  workflowStage := "NEEDS_REVIEW"
  currentStage := none
  statusReason := none
  startedAt := none
  completedAt := none
  attemptNumber := 1
  cancellationRequested := false
  metadata := ⟨none, none, some 1, some false⟩

/-- A moment of a spring day. -/
def sampleClock : DateTime where
  date := ⟨2027, 3, 2, by decide, by decide⟩
  time := ⟨12, 30, 30, 500000, by decide, by decide, by decide, by decide⟩

/-- The stores do not agree: a mission that waits for a review is refused by the base store and
runs again in the others. -/
theorem acquireLease_disagree : ¬∀ (stored : Option MissionRecord) (jobId : String)
    (leaseSeconds : Int) (now : DateTime), LeasesAgree stored jobId leaseSeconds now := by
  intro agree
  have outcomes := (agree (some reviewedMission) "JOB-1" leaseTtlSeconds sampleClock).outcomes.1
  exact absurd outcomes (by decide)

end RateGuard
