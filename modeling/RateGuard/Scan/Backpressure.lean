import RateGuard.Scan.Finalization

/-!
# Back-pressure of a scan

A coordinator limits what it counts as in flight, not the leases themselves. A batch is
outstanding while its lease has not ended or a message not yet acknowledged can lease it.
Only a published message makes a batch outstanding, so the limit holds as long as every
publishing coordinator counts the other outstanding batches.
-/

open Transition

namespace RateGuard

/-- Whether a message not yet acknowledged can lease a batch. -/
def ScanState.awaited (plan : ScanPlan) (state : ScanState) (batch : BatchRecord) : Bool :=
  batch.state ≠ .done && batch.attempts < plan.config.maxBatchAttempts &&
    state.messages.any (·.batchNo = batch.batchNo)

/-- Whether a batch is under a lease that has not ended, or can come under one. -/
def ScanState.outstanding (plan : ScanPlan) (state : ScanState) (batch : BatchRecord) : Bool :=
  batch.heldAt state.now || state.awaited plan batch

/-- Batches under a lease that has not ended. -/
def ScanState.leased (state : ScanState) : Nat :=
  state.store.batches.countP fun batch => batch.heldAt state.now

/-- A coordinator that publishes counts as many batches in flight as others are outstanding. -/
def Counted (plan : ScanPlan) (state : ScanState) (event : ScanEvent) : Prop :=
  ∀ index backoff owner raised polling batch,
    event = .dispatch index backoff owner true raised →
    state.coordinators[index]? = some (.polling polling) →
    polling.next plan.config backoff = some batch →
    (state.store.batches.countP fun other =>
      other.batchNo ≠ batch.batchNo && state.outstanding plan other) ≤ polling.inflight

/-- A scan within its limit. -/
structure ScanState.Limited (plan : ScanPlan) (state : ScanState) : Prop where
  /-- The scan is sound. -/
  sound : state.Sound plan
  /-- Coordinators look at batches that exist. -/
  queued : state.store.batches = [] → ∀ polling, .polling polling ∈ state.coordinators →
    polling.queue = []
  /-- Messages ask for batches that exist. -/
  sent : state.store.batches = [] → state.messages = []
  /-- Outstanding batches are within the limit. -/
  limited : (state.store.batches.countP fun batch => state.outstanding plan batch) ≤
    plan.config.maxInflightBatches

/-- A lease that has not ended had not ended before. -/
theorem BatchRecord.heldAt_mono {batch : BatchRecord} {now later : Nat} (order : now ≤ later)
    (held : batch.heldAt later = true) : batch.heldAt now = true := by
  unfold BatchRecord.heldAt at held ⊢
  cases expires : batch.leaseExpiresAt with
  | none => simp [expires] at held
  | some time =>
    simp only [expires, Option.any_some, Bool.and_eq_true, decide_eq_true_eq] at held ⊢
    exact ⟨held.1, by omega⟩

/-- Fewer messages and a later clock leave fewer batches outstanding. -/
theorem ScanState.outstanding_mono {plan : ScanPlan} {before after : ScanState}
    (clock : before.now ≤ after.now) (messages : after.messages ⊆ before.messages)
    {batch : BatchRecord} (open_ : after.outstanding plan batch = true) :
    before.outstanding plan batch = true := by
  simp only [ScanState.outstanding, ScanState.awaited, Bool.or_eq_true, Bool.and_eq_true,
    List.any_eq_true] at open_ ⊢
  rcases open_ with held | ⟨leasable, message, sent, number⟩
  · exact .inl (BatchRecord.heldAt_mono clock held)
  · exact .inr ⟨leasable, message, messages sent, number⟩

/-- A batch that can be leased by a message is outstanding. -/
theorem ScanState.outstanding_of_message {plan : ScanPlan} {state : ScanState}
    {batch : BatchRecord} {message : BatchMessage} (unfinished : batch.state ≠ .done)
    (attempts : batch.attempts < plan.config.maxBatchAttempts)
    (sent : message ∈ state.messages) (number : message.batchNo = batch.batchNo) :
    state.outstanding plan batch = true := by
  have any : state.messages.any (·.batchNo = batch.batchNo) = true :=
    List.any_eq_true.mpr ⟨message, sent, decide_eq_true number⟩
  simp [ScanState.outstanding, ScanState.awaited, unfinished, attempts, any]

/-- A written batch is outstanding only if it was before. -/
theorem ScanState.outstanding_of_write {plan : ScanPlan} {state : ScanState}
    {batch : BatchRecord} (leased : batch.state = .leased) {write : BatchWrite}
    {durationMs now : Nat}
    (open_ : state.outstanding plan (batch.write write durationMs now) = true) :
    state.outstanding plan batch = true := by
  have ended : (batch.write write durationMs now).heldAt state.now = false := by
    cases write with
    | result result =>
      simp [BatchRecord.heldAt, BatchRecord.write]
    | release => rfl
  simp only [ScanState.outstanding, ended, Bool.false_or, ScanState.awaited, Bool.and_eq_true,
    decide_eq_true_eq, List.any_eq_true] at open_
  obtain ⟨⟨-, attempts⟩, message, sent, number⟩ := open_
  refine ScanState.outstanding_of_message ?_ ?_ sent ?_
  · rw [leased]
    exact BatchState.noConfusion
  · cases write <;> exact attempts
  · cases write <;> exact number
/-- A step other than a publication brings no message. -/
theorem scanStep_messages (plan : ScanPlan) (state : ScanState) (event : ScanEvent) :
    (scanStep plan state event).messages ⊆ state.messages ∨
      ∃ index backoff owner raised polling batch,
        event = .dispatch index backoff owner true raised ∧
        state.coordinators[index]? = some (.polling polling) ∧
        polling.next plan.config backoff = some batch ∧
        (scanStep plan state event).messages = state.messages ++ [⟨batch.batchNo, owner⟩] ∧
        (scanStep plan state event).store = state.store ∧
        (scanStep plan state event).now = state.now := by
  cases event with
  | tick elapsed => exact .inl (List.Subset.refl _)
  | cancel => exact .inl (List.Subset.refl _)
  | plan capability => exact .inl (List.Subset.refl _)
  | start index =>
    simp only [scanStep, startCoordinator]
    split
    · split <;> exact .inl (List.Subset.refl _)
    · exact .inl (List.Subset.refl _)
  | poll index cancellation =>
    simp only [scanStep, pollCoordinator]
    split
    · split
      · exact .inl (List.Subset.refl _)
      · split <;> exact .inl (List.Subset.refl _)
    · exact .inl (List.Subset.refl _)
  | dispatch index backoff owner published raised =>
    simp only [scanStep, dispatchBatch]
    split
    · rename_i polling here
      split
      · exact .inl (List.Subset.refl _)
      · rename_i batch next
        cases published with
        | true =>
          exact .inr ⟨index, backoff, owner, raised, polling, batch, rfl, here, next, rfl, rfl, rfl⟩
        | false => exact .inl (List.Subset.refl _)
    · exact .inl (List.Subset.refl _)
  | stop index =>
    simp only [scanStep, stopCoordinator]
    split <;> exact .inl (List.Subset.refl _)
  | read index =>
    simp only [scanStep, readJob]
    split <;> exact .inl (List.Subset.refl _)
  | aggregate index =>
    simp only [scanStep, aggregateBatches]
    split <;> exact .inl (List.Subset.refl _)
  | finalize index =>
    simp only [scanStep, storeAggregate]
    split <;> exact .inl (List.Subset.refl _)
  | abandon index => exact .inl (List.Subset.refl _)
  | deliver index =>
    simp only [scanStep, deliver]
    split
    · exact .inl (List.Subset.refl _)
    · split <;> exact .inl (List.Subset.refl _)
  | acknowledge index => exact .inl (List.eraseIdx_sublist _ _).subset
  | process index target durationMs =>
    simp only [scanStep]
    split <;> exact .inl (List.Subset.refl _)
  | crash index durationMs =>
    simp only [scanStep]
    split <;> exact .inl (List.Subset.refl _)
  | die index => exact .inl (List.Subset.refl _)

/-- The clock does not go back. -/
theorem scanStep_now (plan : ScanPlan) (state : ScanState) (event : ScanEvent) :
    state.now ≤ (scanStep plan state event).now := by
  cases event with
  | tick elapsed => exact Nat.le_add_right _ _
  | deliver index =>
    simp only [scanStep, deliver]
    split
    · exact le_refl _
    · split <;> exact le_refl _
  | start index =>
    simp only [scanStep, startCoordinator]
    split
    · split <;> exact le_refl _
    · exact le_refl _
  | poll index cancellation =>
    simp only [scanStep, pollCoordinator]
    split
    · split
      · exact le_refl _
      · split <;> exact le_refl _
    · exact le_refl _
  | dispatch index backoff owner published raised =>
    simp only [scanStep, dispatchBatch]
    split
    · split <;> exact le_refl _
    · exact le_refl _
  | stop index | read index | aggregate index | finalize index =>
    simp only [scanStep, stopCoordinator, readJob, aggregateBatches, storeAggregate]
    split <;> exact le_refl _
  | process index target durationMs | crash index durationMs =>
    simp only [scanStep]
    split <;> exact le_refl _
  | cancel => exact le_refl _
  | plan capability => exact le_refl _
  | abandon index => exact le_refl _
  | acknowledge index => exact le_refl _
  | die index => exact le_refl _

/-- A loop after a step looks at nothing, at listed batches, or at less than a loop before. -/
theorem scanStep_queue {plan : ScanPlan} {state : ScanState} {event : ScanEvent}
    {polling : Polling} (member : .polling polling ∈ (scanStep plan state event).coordinators) :
    polling.queue ⊆ state.store.listBatches ∨
      ∃ earlier, .polling earlier ∈ state.coordinators ∧ polling.queue ⊆ earlier.queue := by
  have kept : .polling polling ∈ state.coordinators →
      polling.queue ⊆ state.store.listBatches ∨
        ∃ earlier, .polling earlier ∈ state.coordinators ∧ polling.queue ⊆ earlier.queue :=
    fun old => .inr ⟨polling, old, List.Subset.refl _⟩
  have replaced : ∀ {index : Nat} {coordinator : Coordinator},
      .polling polling ∈ state.coordinators.set index coordinator →
      (coordinator = .polling polling →
        polling.queue ⊆ state.store.listBatches ∨
          ∃ earlier, .polling earlier ∈ state.coordinators ∧ polling.queue ⊆ earlier.queue) →
      polling.queue ⊆ state.store.listBatches ∨
        ∃ earlier, .polling earlier ∈ state.coordinators ∧ polling.queue ⊆ earlier.queue := by
    intro index coordinator inside new
    rcases List.mem_or_eq_of_mem_set inside with old | same
    · exact kept old
    · exact new same.symm
  cases event with
  | tick elapsed => exact kept member
  | cancel => exact kept member
  | plan capability =>
    rcases List.mem_append.mp member with old | new
    · exact kept old
    · cases List.mem_singleton.mp new
  | start index =>
    simp only [scanStep, startCoordinator] at member
    split at member
    · split at member
      · exact replaced member fun same => by cases same
      · exact replaced member fun same => .inl (by cases same; exact List.nil_subset _)
    · exact kept member
  | poll index cancellation =>
    simp only [scanStep, pollCoordinator] at member
    split at member
    · split at member
      · exact replaced member fun same => by cases same
      · split at member
        · exact replaced member fun same => by cases same
        · rename_i listed
          refine replaced member fun same => .inl ?_
          cases same
          simp only [Polling.list] at listed
          split at listed
          · cases listed
          · split at listed
            · cases listed
            · split at listed
              · cases listed
              · cases listed
                exact List.Subset.refl _
    · exact kept member
  | dispatch index backoff owner published raised =>
    simp only [scanStep, dispatchBatch] at member
    split at member
    · rename_i earlier here
      have working := List.mem_of_getElem? here
      split at member
      · refine replaced member fun same => .inr ⟨earlier, working, ?_⟩
        cases same
        exact List.tail_subset _
      · refine replaced member fun same => .inr ⟨earlier, working, ?_⟩
        have looked : polling.queue = earlier.queue.tail := by
          split at same <;> cases same <;> rfl
        rw [looked]
        exact List.tail_subset _
    · exact kept member
  | stop index =>
    simp only [scanStep, stopCoordinator] at member
    split at member
    · exact replaced member fun same => by cases same
    · exact kept member
  | read index =>
    simp only [scanStep, readJob] at member
    split at member
    · refine replaced member fun same => ?_
      split at same
      · cases same
      · split at same <;> cases same
    · exact kept member
  | aggregate index =>
    simp only [scanStep, aggregateBatches] at member
    split at member
    · refine replaced member fun same => ?_
      split at same <;> cases same
    · exact kept member
  | finalize index =>
    simp only [scanStep, storeAggregate] at member
    split at member
    · exact replaced member fun same => by cases same
    · exact kept member
  | abandon index => exact replaced member fun same => by cases same
  | deliver index =>
    simp only [scanStep, deliver] at member
    split at member
    · exact kept member
    · split at member <;> exact kept member
  | acknowledge index => exact kept member
  | process index target durationMs =>
    simp only [scanStep] at member
    split at member <;> exact kept member
  | crash index durationMs =>
    simp only [scanStep] at member
    split at member <;> exact kept member
  | die index => exact kept member

/-- A step that brings no message makes no batch outstanding. -/
theorem BatchMove.outstanding {plan : ScanPlan} {before after : ScanState} {event : ScanEvent}
    (limited : before.Limited plan) (move : BatchMove plan before event after)
    (clock : before.now ≤ after.now) (messages : after.messages ⊆ before.messages) :
    (after.store.batches.countP fun batch => after.outstanding plan batch) ≤
      before.store.batches.countP fun batch => before.outstanding plan batch := by
  have mono : ∀ {batch : BatchRecord}, after.outstanding plan batch = true →
      before.outstanding plan batch = true :=
    ScanState.outstanding_mono clock messages
  have put : ∀ record old, before.store.getBatch record.batchNo = some old →
      (after.outstanding plan record = true → before.outstanding plan old = true) →
      ((putBatch before.store.batches record).countP fun batch =>
        after.outstanding plan batch) ≤
        before.store.batches.countP fun batch => before.outstanding plan batch := by
    intro record old found follows
    obtain ⟨inside, number⟩ := ImpactStore.getBatch_eq_some found
    unfold putBatch
    rw [List.countP_map]
    refine List.countP_mono_left fun batch member open_ => ?_
    simp only [Function.comp_apply] at open_
    split at open_
    · rename_i same
      rw [limited.sound.unique member inside (same.trans number.symm)]
      exact follows open_
    · exact mono open_
  cases move with
  | frame batches deliveries =>
    rw [batches]
    exact List.countP_mono_left fun batch _ => mono
  | ensure job planned batches deliveries =>
    have specs := (limited.sound.planned.coordinators job planned).specs
    rw [specs] at batches
    rcases limited.sound.slices with none | slices
    · have quiet : after.messages = [] :=
        List.eq_nil_of_subset_nil (limited.sent none ▸ messages)
      rw [none, ensureBatches_of_missing before.now plan.slices_distinct
        (fun _ _ => List.forall_mem_nil _), List.nil_append] at batches
      have idle : (after.store.batches.countP fun batch => after.outstanding plan batch) = 0 := by
        rw [batches, List.countP_eq_zero]
        intro batch member
        obtain ⟨spec, -, rfl⟩ := List.mem_map.mp member
        simp [ScanState.outstanding, ScanState.awaited, quiet, BatchRecord.heldAt,
          BatchRecord.fresh]
      omega
    · rw [ensureBatches_of_existing] at batches
      · rw [batches]
        exact List.countP_mono_left fun batch _ => mono
      · intro spec listed
        rw [← slices] at listed
        obtain ⟨other, inside, rfl⟩ := List.mem_map.mp listed
        exact ⟨other, inside, rfl⟩
  | lease index message job old delivers sent stored opened found unfinished free attempts
      batches deliveries =>
    have number := (ImpactStore.getBatch_eq_some found).2
    rw [batches]
    refine put _ old ?_ fun _ =>
      ScanState.outstanding_of_message unfinished attempts (List.mem_of_getElem? sent) number.symm
    rw [← number] at found
    exact found
  | write index delivery completes working write writes durationMs old found held
      batches deliveries =>
    have number := (ImpactStore.getBatch_eq_some found).2
    rw [batches]
    refine put _ old ?_ fun open_ => ScanState.outstanding_of_write held.1 (mono open_)
    have same : (old.write write durationMs before.now).batchNo = delivery.batch.batchNo := by
      rw [← number]
      cases write <;> rfl
    rw [same]
    exact found

/-- A published message makes at most its own batch outstanding. -/
theorem countP_published {plan : ScanPlan} {before after : ScanState} (sound : before.Sound plan)
    {batchNo : Nat} {owner : String} (clock : after.now = before.now)
    (messages : after.messages = before.messages ++ [⟨batchNo, owner⟩]) :
    (before.store.batches.countP fun batch => after.outstanding plan batch) ≤
      (before.store.batches.countP fun batch =>
        batch.batchNo ≠ batchNo && before.outstanding plan batch) + 1 := by
  have single : before.store.batches.countP (fun batch => batch.batchNo = batchNo) ≤ 1 := by
    have count := List.nodup_iff_count_le_one.mp sound.distinct batchNo
    rw [List.count, List.countP_map] at count
    refine le_trans (List.countP_mono_left fun batch _ same => ?_) count
    simpa using same
  have split : ∀ batches : List BatchRecord,
      (batches.countP fun batch => after.outstanding plan batch) ≤
        (batches.countP fun batch => batch.batchNo ≠ batchNo && before.outstanding plan batch) +
          batches.countP fun batch => batch.batchNo = batchNo := by
    intro batches
    induction batches with
    | nil => exact le_refl _
    | cons batch rest ih =>
      simp only [ne_eq, List.countP_cons] at ih ⊢
      by_cases same : batch.batchNo = batchNo
      · simp only [same, decide_true, if_true]
        split <;> omega
      · have apart : batchNo ≠ batch.batchNo := fun equal => same equal.symm
        have equal : after.outstanding plan batch = before.outstanding plan batch := by
          simp [ScanState.outstanding, ScanState.awaited, clock, messages, apart]
        simp only [equal, same, not_false_eq_true, decide_true, Bool.true_and, decide_false,
          Bool.false_eq_true, if_false]
        omega
  exact le_trans (split before.store.batches) (Nat.add_le_add_left single _)

/-- A batch is dispatched only while fewer than the limit are counted. -/
theorem Polling.next_below {config : ImpactConfig} {polling : Polling} {backoff : Nat}
    {batch : BatchRecord} (next : polling.next config backoff = some batch) :
    polling.inflight < config.maxInflightBatches ∧ polling.queue ≠ [] := by
  unfold Polling.next at next
  split at next
  · cases next
  · rename_i head rest queue
    split at next
    · cases next
    · rename_i below
      refine ⟨Nat.lt_of_not_le below, ?_⟩
      rw [queue]
      exact List.cons_ne_nil _ _

/-- Batches that exist stay. -/
theorem BatchMove.existing {plan : ScanPlan} {before after : ScanState} {event : ScanEvent}
    (move : BatchMove plan before event after) (none : after.store.batches = []) :
    before.store.batches = [] := by
  have put : ∀ record, putBatch before.store.batches record = [] → before.store.batches = [] :=
    fun _ nothing => List.map_eq_nil_iff.mp nothing
  cases move with
  | frame batches deliveries => exact batches ▸ none
  | ensure job planned batches deliveries =>
    have grows : ∀ (specs : List (Nat × Nat × Nat)) (old : List BatchRecord),
        ensureBatches before.now old specs = [] → old = [] := by
      intro specs
      induction specs with
      | nil => exact fun old nothing => nothing
      | cons spec rest ih =>
        intro old nothing
        have shorter := ih _ nothing
        simp only at shorter
        split at shorter
        · exact shorter
        · exact (List.append_eq_nil_iff.mp shorter).1
    exact grows _ _ (batches ▸ none)
  | lease index message job old delivers sent stored opened found unfinished free attempts
      batches deliveries => exact put _ (batches ▸ none)
  | write index delivery completes working write writes durationMs old found held
      batches deliveries => exact put _ (batches ▸ none)

/-- A step whose publication is counted keeps a scan within its limit. -/
theorem scanStep_limited {plan : ScanPlan} (state : ScanState) (event : ScanEvent)
    (counted : Counted plan state event) (limited : state.Limited plan) :
    (scanStep plan state event).Limited plan := by
  have move := scanStep_move plan state event
  have noQueue : (scanStep plan state event).store.batches = [] → ∀ polling,
      .polling polling ∈ (scanStep plan state event).coordinators → polling.queue = [] := by
    intro none polling member
    have nothing := move.existing none
    rcases scanStep_queue member with listed | ⟨earlier, working, fewer⟩
    · have empty : state.store.listBatches = [] := by
        simp [ImpactStore.listBatches, nothing, orderedBatches]
      exact List.eq_nil_of_subset_nil (empty ▸ listed)
    · exact List.eq_nil_of_subset_nil (limited.queued nothing earlier working ▸ fewer)
  rcases scanStep_messages plan state event with
    fewer | ⟨index, backoff, owner, raised, polling, batch, published, here, next, messages,
      store, clock⟩
  · refine ⟨scanStep_sound limited.sound event, noQueue, fun none => ?_, ?_⟩
    · exact List.eq_nil_of_subset_nil (limited.sent (move.existing none) ▸ fewer)
    · exact le_trans (move.outstanding limited (scanStep_now plan state event) fewer)
        limited.limited
  · have others := counted index backoff owner raised polling batch published here next
    have below := Polling.next_below next
    refine ⟨scanStep_sound limited.sound event, noQueue, fun none => ?_, ?_⟩
    · have idle := limited.queued (store ▸ none) polling (List.mem_of_getElem? here)
      exact absurd idle below.2
    · have bound := countP_published limited.sound clock messages
      rw [store]
      omega

/-- A scan without a job is within its limit. -/
theorem ScanState.initial_limited (plan : ScanPlan) : ScanState.initial.Limited plan where
  sound := ScanState.initial_sound plan
  queued := fun _ _ member => (List.not_mem_nil member).elim
  sent := fun _ => rfl
  limited := Nat.zero_le _

/-- In a run whose publishing coordinators count the other outstanding batches, no more batches
than the limit are under a lease that has not ended. -/
theorem leases_within_limit (plan : ScanPlan) (events : List ScanEvent)
    (counted : Along (scanStep plan) (Counted plan) .initial events) :
    (scanRun plan events).leased ≤ plan.config.maxInflightBatches := by
  have limited := counted.invariant (ScanState.Limited plan) scanStep_limited
    (ScanState.initial_limited plan)
  have leases : (scanRun plan events).leased ≤
      (scanRun plan events).store.batches.countP fun batch =>
        (scanRun plan events).outstanding plan batch := by
    refine List.countP_mono_left fun batch _ held => ?_
    have held' : batch.heldAt (scanRun plan events).now = true := held
    simp only [ScanState.outstanding, held', Bool.true_or]
  exact le_trans leases limited.limited

/-- A step of a scan without outstanding batches is counted. -/
theorem counted_of_quiet {plan : ScanPlan} {state : ScanState}
    (quiet : (state.store.batches.countP fun batch => state.outstanding plan batch) = 0)
    (event : ScanEvent) : Counted plan state event := by
  intro index backoff owner raised polling batch _ _ _
  have none : (state.store.batches.countP fun other =>
      other.batchNo ≠ batch.batchNo && state.outstanding plan other) = 0 := by
    rw [List.countP_eq_zero] at quiet ⊢
    intro other member both
    exact quiet other member (Bool.and_eq_true _ _ ▸ both).2
  omega

/-- A step that publishes nothing is counted. -/
theorem counted_of_other {plan : ScanPlan} {state : ScanState} {event : ScanEvent}
    (other : ∀ index backoff owner raised, event ≠ .dispatch index backoff owner true raised) :
    Counted plan state event := by
  intro index backoff owner raised polling batch published
  exact absurd published (other index backoff owner raised)

/-- Plan of two batches of one policy, one in flight at a time. -/
def pairPlan : ScanPlan :=
  { samplePlan with config := { sampleConfig with batchSize := 1, positive := Nat.one_pos } }

/-- The first batch is processed and acknowledged, then the second one is leased. -/
def pairInTurn : List ScanEvent :=
  firstDelivery ++ [.process 0 firstRowOnly 5, .acknowledge 0, .poll 0 false,
    .dispatch 0 0 "push-2" true false, .dispatch 0 0 "push-2" true false, .deliver 0]

/-- Nothing else is outstanding when a batch is dispatched in turn. -/
theorem pairInTurn_counted : Along (scanStep pairPlan) (Counted pairPlan) .initial pairInTurn := by
  refine ⟨counted_of_other nofun, counted_of_other nofun, counted_of_other nofun, ?first,
    counted_of_other nofun, counted_of_other nofun, counted_of_other nofun,
    counted_of_other nofun, ?skipped, ?second, counted_of_other nofun, trivial⟩
  case first => exact counted_of_quiet (by decide) _
  case skipped => exact counted_of_quiet (by decide) _
  case second => exact counted_of_quiet (by decide) _

/-- A scan that waits for each batch stays within the limit. -/
theorem leases_within_limit_once :
    (scanRun pairPlan pairInTurn).leased ≤ pairPlan.config.maxInflightBatches :=
  leases_within_limit pairPlan pairInTurn pairInTurn_counted

/-- The limit is exceeded: the first batch fails and waits for its next attempt, the second one is
dispatched in its place, and the first message is delivered again. -/
theorem leases_beyond_limit : ¬∀ (plan : ScanPlan) (events : List ScanEvent),
    (scanRun plan events).leased ≤ plan.config.maxInflightBatches := by
  intro within
  have bound := within pairPlan (firstDelivery ++ [.tick 1, .process 0 timingOut 5, .poll 0 false,
    .dispatch 0 (seconds 1) "push-2" true false, .dispatch 0 (seconds 1) "push-2" true false,
    .deliver 0, .deliver 1])
  exact absurd bound (by decide)

end RateGuard
