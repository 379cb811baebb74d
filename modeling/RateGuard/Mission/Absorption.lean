import RateGuard.Mission.Moves

/-!
# Where a mission's status goes

A writer replaces the whole record by what it makes of a copy, and only the copy is
checked. As long as the copy still has the stored status, misses no requested
cancellation and queues no mission that is to be cancelled, the status moves along the
allowed transitions only and no requested cancellation is lost. A cancellation that is
written from an older copy brings a finished mission back.
-/

open CalendarDate Transition

namespace RateGuard

/-- The status moves along an allowed transition, and a requested cancellation stays until the
mission is cancelled. -/
structure Absorbing (before after : MissionRecord) : Prop where
  /-- The status moves along an allowed transition. -/
  allowed : validateTransition before.status after.status = true
  /-- A requested cancellation stays, or was honoured. -/
  kept : before.wantsCancellation = true →
    after.wantsCancellation = true ∨ after.status = .cancelled ∨ before.status = .cancelled

/-- Whether a write meets the record that its copy was taken from, as far as the status and a
requested cancellation go. -/
structure WriteMeetsCopy (stored : MissionRecord) (writer : Party) (written : MissionRecord) :
    Prop where
  /-- The stored status is that of the copy, or already the one that is written. -/
  status : stored.status = writer.copy.status ∨ stored.status = written.status
  /-- The copy has every cancellation that was requested. -/
  cancellation : stored.wantsCancellation = true → writer.copy.wantsCancellation = true
  /-- A mission that is to be cancelled is not queued again. -/
  queued : written.status = .queued → stored.wantsCancellation = false

instance (before after : MissionRecord) : Decidable (Absorbing before after) :=
  decidable_of_iff (validateTransition before.status after.status = true ∧
      (before.wantsCancellation = true → after.wantsCancellation = true ∨
        after.status = .cancelled ∨ before.status = .cancelled))
    ⟨fun ⟨allowed, kept⟩ => ⟨allowed, kept⟩, fun moves => ⟨moves.allowed, moves.kept⟩⟩

instance (stored : MissionRecord) (writer : Party) (written : MissionRecord) :
    Decidable (WriteMeetsCopy stored writer written) :=
  decidable_of_iff ((stored.status = writer.copy.status ∨ stored.status = written.status) ∧
      (stored.wantsCancellation = true → writer.copy.wantsCancellation = true) ∧
      (written.status = .queued → stored.wantsCancellation = false))
    ⟨fun ⟨status, cancellation, queued⟩ => ⟨status, cancellation, queued⟩,
      fun meets => ⟨meets.status, meets.cancellation, meets.queued⟩⟩

/-- A record that keeps its status and every requested cancellation moves as it may. -/
theorem Absorbing.of_same {before after : MissionRecord} (status : after.status = before.status)
    (kept : before.wantsCancellation = true → after.wantsCancellation = true) :
    Absorbing before after where
  allowed := by rw [status]; exact validateTransition_self _
  kept := fun wants => .inl (kept wants)

/-- A lease lets an active mission run. -/
theorem Absorbing.lease {state : MissionState} {jobId : String} {record : MissionRecord}
    (known : state.record.status ∈ missionStatuses)
    (granted : state.lease jobId = (.acquired, some record)) : Absorbing state.record record := by
  obtain ⟨active, leased⟩ := MissionState.lease_acquired granted
  have allowed : ∀ status ∈ missionStatuses, terminalStatuses.contains status = false →
      validateTransition status .running = true := by decide
  subst leased
  refine ⟨allowed _ known active, fun wants => .inl ?_⟩
  revert wants
  unfold MissionRecord.wantsCancellation MissionRecord.merge MissionRecord.leased
    MissionMetadata.merge
  simp only [Option.or_self]
  exact id

/-- A cancellation that a lawful write keeps is in the stored record afterwards. -/
theorem WriteRule.wants {targets : List RunStatus} {copy written : MissionRecord}
    (rule : WriteRule targets copy written) (open_ : written.status ≠ .queued)
    (wants : copy.wantsCancellation = true) (stored : MissionRecord) :
    (stored.merge written).wantsCancellation = true := by
  unfold MissionRecord.wantsCancellation at wants ⊢
  rw [Bool.or_eq_true] at wants ⊢
  rcases wants with requested | flagged
  · exact .inl (rule.requested open_ requested)
  · refine .inr ?_
    have flag : copy.metadata.cancellationRequested = some true := by
      cases found : copy.metadata.cancellationRequested with
      | none => rw [found] at flagged; cases flagged
      | some flag =>
        rw [found, Option.getD_some] at flagged
        rw [flagged]
    have written : written.metadata.cancellationRequested = some true := rule.flagged open_ flag
    simp only [MissionRecord.merge, MissionMetadata.merge, written, Option.some_or,
      Option.getD_some]

/-- A lawful write that meets its copy moves the record as it may. -/
theorem WriteRule.absorbing {targets : List RunStatus} {stored written : MissionRecord}
    {writer : Party} (rule : WriteRule targets writer.copy written)
    (meets : WriteMeetsCopy stored writer written) : Absorbing stored (stored.merge written) where
  allowed := by
    rcases meets.status with same | reached
    · rw [same]
      exact rule.valid
    · rw [reached]
      exact validateTransition_self _
  kept := by
    intro wants
    by_cases queued : written.status = .queued
    · rw [meets.queued queued] at wants
      cases wants
    · exact .inl (rule.wants queued (meets.cancellation wants) stored)

/-- A move of an orderly mission whose write meets its copy moves the record as it may. -/
theorem MissionMove.absorbing {missionId : String} {state after : MissionState}
    {event : MissionEvent} (move : MissionMove missionId state event after)
    (orderly : state.Orderly) (meets : AtWrites WriteMeetsCopy state event) :
    Absorbing state.record after.record := by
  have same : ∀ record : MissionRecord, Absorbing record record := fun _ => .of_same rfl id
  cases move with
  | rests => exact same _
  | ticks forward => exact same _
  | requests lawful => exact same _
  | acquires turn found granted => exact .lease orderly.known granted
  | meetsFinished present terminal => exact same _
  | meetsLease present => exact same _
  | moves here move =>
    rename_i index party
    cases move with
    | goesOn follows => exact same _
    | publishes jobId follows => exact same _
    | reads follows => exact same _
    | writes turn process =>
      have old : party.Orderly := orderly.parties party (List.mem_of_getElem? here)
      have meets := meets _ (MissionState.pendingWrite_of turn here process)
      exact (old.rule process).1.absorbing meets
    | touches follows => exact .of_same rfl id
    | answers turn process => exact same _
    | leaves cause => exact same _

/-- In every run whose writes meet their copies, the status only moves along the allowed
transitions and no requested cancellation is lost before it is honoured. -/
theorem status_absorbing (missionId : String) (now : DateTime) (events : List MissionEvent)
    (meets : Along (missionStep missionId) (AtWrites WriteMeetsCopy) (.created missionId now)
      events) :
    Along (missionStep missionId)
      (fun state event => Absorbing state.record (missionStep missionId state event).record)
      (.created missionId now) events :=
  meets.imp MissionState.Orderly
    (fun state event _ orderly => (missionStep_move missionId state event).orderly orderly)
    (fun state event meets orderly =>
      (missionStep_move missionId state event).absorbing orderly meets)
    (MissionState.created_orderly missionId now)

/-- Course of a mission whose sources are equivalent. -/
def equivalenceCourse : MissionCourse where
  envelopeValid := true
  sourcesResolved := true
  requestValid := true
  prioritized := false
  cleanEquivalence := true
  selected := false
  probeRounds := 0
  justified := false
  polls := 0
  explained := false
  remediationDecisions := 0
  raisesAfter := none

/-- A queued mission that is cancelled moves along the allowed transitions. -/
theorem status_absorbing_once :
    Along (missionStep "MIS-1")
      (fun state event => Absorbing state.record (missionStep "MIS-1" state event).record)
      (.created "MIS-1" sampleClock) [.cancel, .advance 0, .advance 0, .advance 0] :=
  status_absorbing "MIS-1" sampleClock _ (by decide)

/-- The status is not absorbing: a cancellation reads a running mission, which is completed before
the request writes its copy and lets the mission run again. -/
theorem status_not_absorbing : ¬∀ (missionId : String) (now : DateTime)
    (events : List MissionEvent), Along (missionStep missionId)
      (fun state event => Absorbing state.record (missionStep missionId state event).record)
      (.created missionId now) events := by
  intro absorbing
  have run := absorbing "MIS-1" sampleClock
    (.deliver 0 equivalenceCourse :: List.replicate 13 (.advance 0) ++
      [.cancel, .advance 1, .advance 0, .advance 1])
  exact absurd run (by decide)

end RateGuard
