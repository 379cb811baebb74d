import RateGuard.Scan.Accounting
import RateGuard.Scan.Moves

/-!
# Batches along a run

The batches of a scan stay the planned slices of the portfolio, every result accounts
for its whole batch, a finished batch never changes, and no batch is leased more often
than configured. A step keeps these facts; therefore every run has them.
-/

open Transition

namespace RateGuard

/-- Number, first row and row after the last of a batch. -/
def BatchRecord.slice (batch : BatchRecord) : Nat × Nat × Nat :=
  (batch.batchNo, batch.rowStart, batch.rowEnd)

/-- Slices of a plan. -/
def ScanPlan.slices (plan : ScanPlan) : List (Nat × Nat × Nat) :=
  batchSpecs plan.config (plan.job 0)

/-- A job has the plan's rows. -/
structure ImpactJob.Planned (plan : ScanPlan) (job : ImpactJob) : Prop where
  /-- The portfolio is the plan's. -/
  total : job.rowsTotal = plan.source.rows.length
  /-- The rows covered are the plan's. -/
  inScope : job.rowsInScope = plan.rowsInScope
  /-- The batches are the plan's. -/
  batchCount : job.batchCount = plan.batchCount
  /-- The product is the plan's. -/
  product : job.product = plan.product

/-- A planned job is cut into the slices of the plan. -/
theorem ImpactJob.Planned.specs {plan : ScanPlan} {job : ImpactJob} (planned : job.Planned plan) :
    batchSpecs plan.config job = plan.slices := by
  unfold ScanPlan.slices batchSpecs
  rw [planned.batchCount, planned.inScope]
  rfl

/-- What holds of every batch of a scan and of every leased copy. -/
structure BatchRecord.Sound (config : ImpactConfig) (batch : BatchRecord) : Prop where
  /-- A result accounts for the whole batch. -/
  accounted : batch.completedAt ≠ none → batch.Accounts batch.rowStart batch.rowEnd
  /-- Without a result nothing is counted. -/
  empty : batch.completedAt = none → batch.toTally = Tally.empty
  /-- A finished batch has a result without transient rows. -/
  finished : batch.state = .done → batch.completedAt ≠ none ∧ batch.unresolvedTransient = []
  /-- A batch with a result without transient rows is finished. -/
  resolved : batch.completedAt ≠ none → batch.unresolvedTransient = [] → batch.state = .done
  /-- The leases are bounded. -/
  attempts : batch.attempts ≤ config.maxBatchAttempts

/-- A batch that was never leased is sound. -/
theorem BatchRecord.fresh_sound (config : ImpactConfig) (now batchNo rowStart rowEnd : Nat) :
    (BatchRecord.fresh now batchNo rowStart rowEnd).Sound config where
  accounted done := absurd rfl done
  empty _ := rfl
  finished done := nomatch done
  resolved done := absurd rfl done
  attempts := Nat.zero_le _

/-- A lease of an unfinished batch is sound while leases remain. -/
theorem BatchRecord.Sound.lease {config : ImpactConfig} {batch : BatchRecord}
    (sound : batch.Sound config) (unfinished : batch.state ≠ .done)
    (remaining : batch.attempts < config.maxBatchAttempts) (owner : String)
    (leaseSeconds now : Nat) : (batch.lease owner leaseSeconds now).Sound config where
  accounted := sound.accounted
  empty := sound.empty
  finished done := nomatch done
  resolved completed resolved := absurd (sound.resolved completed resolved) unfinished
  attempts := remaining

/-- The state of a result tells whether transient rows are left. -/
theorem resultState_eq_done {result : BatchResult} :
    resultState result = .done ↔ result.unresolvedTransient = [] := by
  unfold resultState Tally.unresolvedTransient
  rw [List.map_eq_nil_iff, List.filter_eq_nil_iff]
  by_cases left : result.inconclusive.any (·.transient) = true
  · rw [if_pos left]
    obtain ⟨row, member, transient⟩ := List.any_eq_true.mp left
    exact ⟨nofun, fun none => absurd transient (none row member)⟩
  · rw [if_neg left]
    exact ⟨fun _ row member transient =>
      left (List.any_eq_true.mpr ⟨row, member, transient⟩), fun _ => rfl⟩

/-- What a delivery writes to the batch it holds is sound. -/
theorem Delivery.Writes.sound {plan : ScanPlan} {delivery : Delivery} {write : BatchWrite}
    (writes : delivery.Writes plan write) {batch : BatchRecord}
    (working : delivery.batch.Sound plan.config) (sound : batch.Sound plan.config)
    (held : batch.state = .leased) (start : batch.rowStart = delivery.batch.rowStart)
    (stop : batch.rowEnd = delivery.batch.rowEnd) (durationMs now : Nat) :
    (batch.write write durationMs now).Sound plan.config := by
  cases writes with
  | release =>
    exact {
      accounted := sound.accounted
      empty := sound.empty
      finished := nofun
      resolved := fun completed resolved => by
        have done := sound.resolved completed resolved
        rw [held] at done
        cases done
      attempts := sound.attempts }
  | result target result executed =>
    have accounts := execute_accounts working.accounted executed
    rw [← start, ← stop] at accounts
    exact {
      accounted := fun _ => accounts
      empty := fun none => nomatch none
      finished := fun done => ⟨nofun, resultState_eq_done.mp done⟩
      resolved := fun _ resolved => resultState_eq_done.mpr resolved
      attempts := sound.attempts }

/-- A batch found under a number is stored and has the number. -/
theorem ImpactStore.getBatch_eq_some {store : ImpactStore} {batchNo : Nat} {batch : BatchRecord}
    (found : store.getBatch batchNo = some batch) :
    batch ∈ store.batches ∧ batch.batchNo = batchNo :=
  ⟨List.mem_of_find?_eq_some found, by simpa using List.find?_some found⟩

/-- A replaced list has the old batches of other numbers and the record. -/
theorem mem_putBatch {batches : List BatchRecord} {record batch : BatchRecord}
    (member : batch ∈ putBatch batches record) :
    batch = record ∨ batch ∈ batches ∧ batch.batchNo ≠ record.batchNo := by
  obtain ⟨old, inside, rfl⟩ := List.mem_map.mp member
  by_cases same : old.batchNo = record.batchNo
  · rw [if_pos same]
    exact .inl rfl
  · rw [if_neg same]
    exact .inr ⟨inside, same⟩

/-- Batches of other numbers stay. -/
theorem mem_putBatch_of_ne {batches : List BatchRecord} {record batch : BatchRecord}
    (member : batch ∈ batches) (other : batch.batchNo ≠ record.batchNo) :
    batch ∈ putBatch batches record :=
  List.mem_map.mpr ⟨batch, member, if_neg other⟩

/-- A record replaces the batch of its number. -/
theorem mem_putBatch_self {batches : List BatchRecord} {record batch : BatchRecord}
    (member : batch ∈ batches) (same : batch.batchNo = record.batchNo) :
    record ∈ putBatch batches record :=
  List.mem_map.mpr ⟨batch, member, if_pos same⟩

/-- Replacing a batch by one of its slice keeps the slices. -/
theorem putBatch_slices {batches : List BatchRecord} {record : BatchRecord}
    (same : ∀ batch ∈ batches, batch.batchNo = record.batchNo → batch.slice = record.slice) :
    (putBatch batches record).map (·.slice) = batches.map (·.slice) := by
  unfold putBatch
  rw [List.map_map]
  apply List.map_congr_left
  intro batch member
  by_cases here : batch.batchNo = record.batchNo
  · simp only [Function.comp_apply, if_pos here, same batch member here]
  · simp only [Function.comp_apply, if_neg here]

/-- Batches that exist are not created again. -/
theorem ensureBatches_of_existing (now : Nat) {batches : List BatchRecord}
    {specs : List (Nat × Nat × Nat)}
    (existing : ∀ spec ∈ specs, ∃ batch ∈ batches, batch.batchNo = spec.1) :
    ensureBatches now batches specs = batches := by
  induction specs with
  | nil => rfl
  | cons spec rest ih =>
    have stored : (batches.any fun batch => decide (batch.batchNo = spec.1)) = true := by
      obtain ⟨batch, member, same⟩ := existing spec List.mem_cons_self
      exact List.any_eq_true.mpr ⟨batch, member, decide_eq_true same⟩
    have step : ensureBatches now batches (spec :: rest) = ensureBatches now batches rest := by
      simp only [ensureBatches, List.foldl_cons, stored, if_true]
    rw [step]
    exact ih fun other member => existing other (List.mem_cons_of_mem _ member)

/-- Missing batches are created in order. -/
theorem ensureBatches_of_missing (now : Nat) {batches : List BatchRecord}
    {specs : List (Nat × Nat × Nat)} (distinct : (specs.map (·.1)).Nodup)
    (missing : ∀ spec ∈ specs, ∀ batch ∈ batches, batch.batchNo ≠ spec.1) :
    ensureBatches now batches specs =
      batches ++ specs.map fun spec => .fresh now spec.1 spec.2.1 spec.2.2 := by
  induction specs generalizing batches with
  | nil => simp [ensureBatches]
  | cons spec rest ih =>
    have absent : (batches.any fun batch => decide (batch.batchNo = spec.1)) = false := by
      apply List.any_eq_false.mpr
      intro batch member
      simpa using missing spec List.mem_cons_self batch member
    have step : ensureBatches now batches (spec :: rest) =
        ensureBatches now (batches ++ [.fresh now spec.1 spec.2.1 spec.2.2]) rest := by
      simp only [ensureBatches, List.foldl_cons, absent, Bool.false_eq_true, if_false]
    obtain ⟨fresh, others⟩ := List.nodup_cons.mp distinct
    rw [step, ih others, List.map_cons, List.append_assoc, List.singleton_append]
    intro other member batch inside
    rcases List.mem_append.mp inside with old | new
    · exact missing other (List.mem_cons_of_mem _ member) batch old
    · rw [List.mem_singleton.mp new]
      rintro (same : spec.1 = other.1)
      exact fresh (List.mem_map.mpr ⟨other, member, same.symm⟩)

/-- The slices of a plan have distinct numbers. -/
theorem ScanPlan.slices_distinct (plan : ScanPlan) : (plan.slices.map (·.1)).Nodup := by
  have numbers : plan.slices.map (·.1) = List.range plan.batchCount.toNat := by
    simp [ScanPlan.slices, batchSpecs, ScanPlan.job, Function.comp_def]
  rw [numbers]
  exact List.nodup_range

/-- The job and the coordinators of a scan have planned jobs. -/
structure ScanState.Planned (plan : ScanPlan) (state : ScanState) : Prop where
  /-- The stored job is planned. -/
  job : ∀ job, state.store.job = some job → job.Planned plan
  /-- The jobs of waiting coordinators are planned. -/
  coordinators : ∀ job, .planned job ∈ state.coordinators → job.Planned plan

/-- The job of a plan is planned. -/
theorem ScanPlan.job_planned (plan : ScanPlan) (capability : Nat) :
    (plan.job capability).Planned plan := ⟨rfl, rfl, rfl, rfl⟩

/-- Job of a coordinator that has not started. -/
def Coordinator.planned? : Coordinator → Option ImpactJob
  | planned job => some job
  | _ => none

/-- A coordinator that moves on leaves the planned jobs of the others. -/
theorem planned_of_set {coordinators : List Coordinator} {index : Nat} {next : Coordinator}
    (moved : next.planned? = none) {job : ImpactJob}
    (member : .planned job ∈ coordinators.set index next) : .planned job ∈ coordinators := by
  rcases List.mem_or_eq_of_mem_set member with old | new
  · exact old
  · rw [← new] at moved
    cases moved

/-- Updates that keep the rows of a job keep it planned. -/
theorem ImpactStore.updateJob_planned {plan : ScanPlan} {store : ImpactStore}
    (planned : ∀ job, store.job = some job → job.Planned plan) {change : ImpactJob → ImpactJob}
    (kept : ∀ job : ImpactJob, job.Planned plan → (change job).Planned plan) :
    ∀ job, (store.updateJob change).job = some job → job.Planned plan := by
  intro job stored
  obtain ⟨old, found, rfl⟩ := Option.map_eq_some_iff.mp stored
  exact kept old (planned old found)

/-- The store's job survives a lease. -/
theorem ImpactStore.leaseBatch_job (store : ImpactStore) (batchNo : Nat) (owner : String)
    (leaseSeconds maxAttempts now : Nat) :
    (store.leaseBatch batchNo owner leaseSeconds maxAttempts now).2.2.job = store.job := by
  unfold leaseBatch
  split
  · rfl
  · split
    · rfl
    · split
      · rfl
      · split <;> rfl

/-- The store's job survives a completion. -/
theorem ImpactStore.completeBatch_job (store : ImpactStore) (batchNo : Nat) (owner : String)
    (write : BatchWrite) (durationMs now : Nat) :
    (store.completeBatch batchNo owner write durationMs now).job = store.job := by
  unfold completeBatch
  split
  · split <;> rfl
  · rfl

/-- A finalization keeps the rows of the job. -/
theorem ImpactStore.finalizeJob_planned {plan : ScanPlan} {store : ImpactStore}
    (planned : ∀ job, store.job = some job → job.Planned plan) (status : ImpactStatus)
    (aggregate : ImpactAggregate) (now : Nat) :
    ∀ job, (store.finalizeJob status aggregate now).2.job = some job → job.Planned plan := by
  intro job stored
  unfold finalizeJob at stored
  split at stored
  · exact planned job stored
  · rename_i old found
    split at stored
    · exact planned job stored
    · cases stored
      exact { planned old found with }

/-- A step keeps jobs planned. -/
theorem scanStep_planned {plan : ScanPlan} {state : ScanState} (planned : state.Planned plan)
    (event : ScanEvent) : (scanStep plan state event).Planned plan := by
  cases event with
  | tick elapsed => exact ⟨planned.job, planned.coordinators⟩
  | cancel =>
    exact ⟨ImpactStore.updateJob_planned planned.job fun _ kept => { kept with },
      planned.coordinators⟩
  | plan capability =>
    cases stored : state.store.job with
    | none =>
      have created : scanStep plan state (.plan capability) =
          { state with
            store := { state.store with job := some (plan.job capability) }
            coordinators := state.coordinators ++ [.planned (plan.job capability)] } := by
        simp only [scanStep, ImpactStore.createJob, stored]
      rw [created]
      refine ⟨fun job same => ?_, fun job member => ?_⟩
      · cases same
        exact plan.job_planned capability
      · rcases List.mem_append.mp member with old | new
        · exact planned.coordinators job old
        · cases List.mem_singleton.mp new
          exact plan.job_planned capability
    | some found =>
      have joined : scanStep plan state (.plan capability) =
          { state with coordinators := state.coordinators ++ [.planned found] } := by
        simp only [scanStep, ImpactStore.createJob, stored]
      rw [joined]
      refine ⟨planned.job, fun job member => ?_⟩
      rcases List.mem_append.mp member with old | new
      · exact planned.coordinators job old
      · cases List.mem_singleton.mp new
        exact planned.job found stored
  | start index =>
    simp only [scanStep, startCoordinator]
    split
    · split <;>
        exact ⟨planned.job, fun job member =>
          planned.coordinators job (planned_of_set rfl member)⟩
    · exact planned
  | poll index cancellation =>
    simp only [scanStep, pollCoordinator]
    split
    · split
      · exact ⟨ImpactStore.updateJob_planned planned.job fun _ kept => { kept with },
          fun job member => planned.coordinators job (planned_of_set rfl member)⟩
      · split <;>
          exact ⟨planned.job, fun job member =>
            planned.coordinators job (planned_of_set rfl member)⟩
    · exact planned
  | dispatch index backoff owner published raised =>
    simp only [scanStep, dispatchBatch]
    split
    · split <;>
        exact ⟨planned.job, fun job member =>
          planned.coordinators job (planned_of_set rfl member)⟩
    · exact planned
  | stop index =>
    simp only [scanStep, stopCoordinator]
    split
    · exact ⟨ImpactStore.updateJob_planned planned.job fun _ kept => { kept with },
        fun job member => planned.coordinators job (planned_of_set rfl member)⟩
    · exact planned
  | read index =>
    simp only [scanStep, readJob]
    split
    · refine ⟨planned.job, fun job member =>
        planned.coordinators job (planned_of_set ?_ member)⟩
      split
      · rfl
      · split <;> rfl
    · exact planned
  | aggregate index =>
    simp only [scanStep, aggregateBatches]
    split
    · refine ⟨planned.job, fun job member =>
        planned.coordinators job (planned_of_set ?_ member)⟩
      split <;> rfl
    · exact planned
  | finalize index =>
    simp only [scanStep, storeAggregate]
    split
    · exact ⟨ImpactStore.finalizeJob_planned planned.job _ _ _, fun job member =>
        planned.coordinators job (planned_of_set rfl member)⟩
    · exact planned
  | abandon index =>
    exact ⟨planned.job, fun job member =>
      planned.coordinators job (planned_of_set rfl member)⟩
  | deliver index =>
    have kept : (scanStep plan state (.deliver index)).store.job = state.store.job ∧
        (scanStep plan state (.deliver index)).coordinators = state.coordinators := by
      simp only [scanStep, deliver]
      split
      · exact ⟨rfl, rfl⟩
      · rename_i message _
        have job := state.store.leaseBatch_job message.batchNo message.owner
          (leaseSeconds plan.config) plan.config.maxBatchAttempts state.now
        split <;> rename_i answer <;> rw [answer] at job <;> exact ⟨job, rfl⟩
    exact ⟨fun job stored => planned.job job (kept.1 ▸ stored),
      fun job member => planned.coordinators job (kept.2 ▸ member)⟩
  | acknowledge index => exact ⟨planned.job, planned.coordinators⟩
  | process index target durationMs =>
    simp only [scanStep]
    split
    · refine ⟨fun job stored => planned.job job ?_, planned.coordinators⟩
      rw [← stored]
      exact (ImpactStore.completeBatch_job ..).symm
    · exact planned
  | crash index durationMs =>
    simp only [scanStep]
    split
    · refine ⟨fun job stored => planned.job job ?_, planned.coordinators⟩
      rw [← stored]
      exact (ImpactStore.completeBatch_job ..).symm
    · exact planned
  | die index => exact ⟨planned.job, planned.coordinators⟩

/-- What holds of a scan in every state. -/
structure ScanState.Sound (plan : ScanPlan) (state : ScanState) : Prop where
  /-- Jobs are planned. -/
  planned : state.Planned plan
  /-- The batches, once created, are the slices of the plan. -/
  slices : state.store.batches = [] ∨ state.store.batches.map (·.slice) = plan.slices
  /-- Batches are sound. -/
  batches : ∀ batch ∈ state.store.batches, batch.Sound plan.config
  /-- Leased copies are sound copies of batches. -/
  deliveries : ∀ delivery ∈ state.deliveries, delivery.batch.Sound plan.config ∧
    delivery.batch.slice ∈ state.store.batches.map (·.slice)

/-- A scan without a job is sound. -/
theorem ScanState.initial_sound (plan : ScanPlan) : ScanState.initial.Sound plan where
  planned := ⟨fun _ none => (nomatch none), fun _ => List.not_mem_nil.elim⟩
  slices := .inl rfl
  batches := List.forall_mem_nil _
  deliveries := List.forall_mem_nil _

/-- Batches of a sound scan have distinct numbers. -/
theorem ScanState.Sound.distinct {plan : ScanPlan} {state : ScanState}
    (sound : state.Sound plan) : (state.store.batches.map (·.batchNo)).Nodup := by
  rcases sound.slices with none | slices
  · rw [none]
    exact List.nodup_nil
  · have numbers : state.store.batches.map (·.batchNo) =
        (state.store.batches.map (·.slice)).map (·.1) := by
      rw [List.map_map]
      rfl
    rw [numbers, slices]
    exact plan.slices_distinct

/-- The number of a batch determines its record. -/
theorem ScanState.Sound.unique {plan : ScanPlan} {state : ScanState} (sound : state.Sound plan)
    {first second : BatchRecord} (one : first ∈ state.store.batches)
    (two : second ∈ state.store.batches) (same : first.batchNo = second.batchNo) :
    first = second :=
  KeyedList.eq_of_key sound.distinct one two same

/-- The batch found for a delivery has the slice of its copy. -/
theorem ScanState.Sound.slice_of_delivery {plan : ScanPlan} {state : ScanState}
    (sound : state.Sound plan) {delivery : Delivery} (working : delivery ∈ state.deliveries)
    {batch : BatchRecord} (found : state.store.getBatch delivery.batch.batchNo = some batch) :
    batch.slice = delivery.batch.slice := by
  obtain ⟨member, number⟩ := ImpactStore.getBatch_eq_some found
  obtain ⟨other, inside, same⟩ := List.mem_map.mp (sound.deliveries delivery working).2
  have numbers : other.batchNo = batch.batchNo := by
    rw [number]
    exact congrArg (·.1) same
  rw [← sound.unique inside member numbers]
  exact same

/-- Replacing a batch by a record of its slice keeps the slices. -/
theorem ScanState.Sound.put_slices {plan : ScanPlan} {state : ScanState}
    (sound : state.Sound plan) {batch record : BatchRecord}
    (member : batch ∈ state.store.batches) (same : record.slice = batch.slice) :
    (putBatch state.store.batches record).map (·.slice) =
      state.store.batches.map (·.slice) := by
  apply putBatch_slices
  intro other inside number
  have numbers : record.batchNo = batch.batchNo := congrArg (·.1) same
  rw [sound.unique inside member (number.trans numbers), same]

/-- A move keeps a scan with planned jobs sound. -/
theorem BatchMove.sound {plan : ScanPlan} {before after : ScanState} {event : ScanEvent}
    (sound : before.Sound plan) (planned : after.Planned plan)
    (move : BatchMove plan before event after) : after.Sound plan := by
  cases move with
  | frame batches deliveries =>
    refine ⟨planned, ?_, ?_, fun delivery member => ?_⟩
    · rw [batches]
      exact sound.slices
    · rw [batches]
      exact sound.batches
    · rw [batches]
      exact sound.deliveries delivery (deliveries.subset member)
  | ensure job waiting batches deliveries =>
    have specs := (sound.planned.coordinators job waiting).specs
    rw [specs] at batches
    have created : after.store.batches.map (·.slice) = plan.slices ∧
        (∀ batch ∈ after.store.batches, batch.Sound plan.config) ∧
        ∀ batch ∈ before.store.batches, batch ∈ after.store.batches := by
      rcases sound.slices with none | slices
      · rw [none, ensureBatches_of_missing before.now plan.slices_distinct (fun _ _ => List.forall_mem_nil _),
          List.nil_append] at batches
        rw [batches, none]
        refine ⟨?_, ?_, nofun⟩
        · rw [List.map_map]
          exact List.map_id' _
        · intro batch member
          obtain ⟨spec, -, rfl⟩ := List.mem_map.mp member
          exact BatchRecord.fresh_sound ..
      · rw [ensureBatches_of_existing] at batches
        · rw [batches]
          exact ⟨slices, sound.batches, fun _ member => member⟩
        · intro spec member
          rw [← slices] at member
          obtain ⟨batch, inside, rfl⟩ := List.mem_map.mp member
          exact ⟨batch, inside, rfl⟩
    obtain ⟨slices, all, old⟩ := created
    refine ⟨planned, .inr slices, all, fun delivery member => ?_⟩
    rw [deliveries] at member
    obtain ⟨copy, here⟩ := sound.deliveries delivery member
    obtain ⟨batch, inside, same⟩ := List.mem_map.mp here
    exact ⟨copy, List.mem_map.mpr ⟨batch, old batch inside, same⟩⟩
  | lease index message job batch delivers sent stored opened found unfinished free attempts
      batches deliveries =>
    obtain ⟨member, -⟩ := ImpactStore.getBatch_eq_some found
    have leased := (sound.batches batch member).lease unfinished attempts message.owner
      (leaseSeconds plan.config) before.now
    have slices := sound.put_slices member
      (show (batch.lease message.owner (leaseSeconds plan.config) before.now).slice = batch.slice
        from rfl)
    rw [← batches] at slices
    refine ⟨planned, ?_, fun other inside => ?_, fun delivery working => ?_⟩
    · rcases sound.slices with none | old
      · rw [none] at member
        cases member
      · exact .inr (slices.trans old)
    · rw [batches] at inside
      rcases mem_putBatch inside with rfl | ⟨old, -⟩
      · exact leased
      · exact sound.batches other old
    · rw [slices]
      rw [deliveries] at working
      rcases List.mem_append.mp working with old | new
      · exact sound.deliveries delivery old
      · rw [List.mem_singleton.mp new]
        exact ⟨leased, List.mem_map.mpr ⟨batch, member, rfl⟩⟩
  | write index delivery completes working write writes durationMs batch found held
      batches deliveries =>
    obtain ⟨member, -⟩ := ImpactStore.getBatch_eq_some found
    have copy := List.mem_of_getElem? working
    have slice := sound.slice_of_delivery copy found
    have written : (batch.write write durationMs before.now).Sound plan.config := by
      apply writes.sound (sound.deliveries delivery copy).1 (sound.batches batch member) held.1
      · exact congrArg (·.2.1) slice
      · exact congrArg (·.2.2) slice
    have kept : (batch.write write durationMs before.now).slice = batch.slice := by
      cases write <;> rfl
    have slices := sound.put_slices member kept
    rw [← batches] at slices
    refine ⟨planned, ?_, fun other inside => ?_, fun other inside => ?_⟩
    · rcases sound.slices with none | old
      · rw [none] at member
        cases member
      · exact .inr (slices.trans old)
    · rw [batches] at inside
      rcases mem_putBatch inside with rfl | ⟨old, -⟩
      · exact written
      · exact sound.batches other old
    · rw [slices]
      rw [deliveries] at inside
      exact sound.deliveries other ((List.eraseIdx_sublist _ _).subset inside)

/-- A step keeps a scan sound. -/
theorem scanStep_sound {plan : ScanPlan} {state : ScanState} (sound : state.Sound plan)
    (event : ScanEvent) : (scanStep plan state event).Sound plan :=
  (scanStep_move plan state event).sound sound (scanStep_planned sound.planned event)

/-- Every run is sound. -/
theorem scanRun_sound (plan : ScanPlan) (events : List ScanEvent) :
    (scanRun plan events).Sound plan :=
  run_invariant (ScanState.Sound plan) (fun _ event sound => scanStep_sound sound event)
    (ScanState.initial_sound plan) events

/-- A move leaves a finished batch alone. -/
theorem BatchMove.finished {plan : ScanPlan} {before after : ScanState} {event : ScanEvent}
    (sound : before.Sound plan) (move : BatchMove plan before event after) {batch : BatchRecord}
    (member : batch ∈ before.store.batches) (finished : batch.state = .done) :
    batch ∈ after.store.batches := by
  cases move with
  | frame batches deliveries =>
    rw [batches]
    exact member
  | ensure job waiting batches deliveries =>
    have specs := (sound.planned.coordinators job waiting).specs
    rcases sound.slices with none | slices
    · rw [none] at member
      cases member
    · rw [specs, ensureBatches_of_existing] at batches
      · rw [batches]
        exact member
      · intro spec listed
        rw [← slices] at listed
        obtain ⟨other, inside, rfl⟩ := List.mem_map.mp listed
        exact ⟨other, inside, rfl⟩
  | lease index message job other delivers sent stored opened found unfinished free attempts
      batches deliveries =>
    obtain ⟨inside, -⟩ := ImpactStore.getBatch_eq_some found
    rw [batches]
    apply mem_putBatch_of_ne member
    rintro (same : batch.batchNo = other.batchNo)
    rw [sound.unique member inside same] at finished
    exact unfinished finished
  | write index delivery completes working write writes durationMs other found held
      batches deliveries =>
    obtain ⟨inside, -⟩ := ImpactStore.getBatch_eq_some found
    rw [batches]
    apply mem_putBatch_of_ne member
    intro same
    have numbers : batch.batchNo = other.batchNo := by
      rw [same]
      cases write <;> rfl
    rw [sound.unique member inside numbers, held.1] at finished
    cases finished

/-- A finished batch stays as it is along every continuation. -/
theorem scanRun_finished (plan : ScanPlan) (events later : List ScanEvent) {batch : BatchRecord}
    (member : batch ∈ (scanRun plan events).store.batches) (finished : batch.state = .done) :
    batch ∈ (scanRun plan (events ++ later)).store.batches := by
  have kept := run_invariant (fun state => state.Sound plan ∧ batch ∈ state.store.batches)
    (fun state event holds => ⟨scanStep_sound holds.1 event,
      (scanStep_move plan state event).finished holds.1 holds.2 finished⟩)
    ⟨scanRun_sound plan events, member⟩ later
  rw [scanRun, run_append]
  exact kept.2

/-- The batches cut a range of rows into disjoint parts. -/
structure Partition (batches : List BatchRecord) (rows : Nat) : Prop where
  /-- Every row is in exactly one batch. -/
  covers : ∀ row < rows, ∃! batch, batch ∈ batches ∧ batch.rowStart ≤ row ∧ row < batch.rowEnd
  /-- Every batch is a nonempty part of the range. -/
  within : ∀ batch ∈ batches, batch.rowStart < batch.rowEnd ∧ batch.rowEnd ≤ rows

/-- The number of planned batches is the rounded up quotient. -/
theorem ScanPlan.batchCount_bounds (plan : ScanPlan) :
    plan.rowsInScope ≤ plan.batchCount * plan.config.batchSize ∧
      (plan.batchCount - 1) * plan.config.batchSize < plan.rowsInScope := by
  have positive : (0 : Int) < plan.config.batchSize := by
    exact_mod_cast plan.config.positive
  have lower := Int.ediv_mul_le (-plan.rowsInScope) (ne_of_gt positive)
  have upper := Int.lt_ediv_add_one_mul_self (-plan.rowsInScope) positive
  have count : plan.batchCount = -(-plan.rowsInScope / plan.config.batchSize) := rfl
  rw [count]
  constructor <;> linarith

/-- A planned slice is a nonempty part of the rows in scope. -/
theorem ScanPlan.slice_bounds (plan : ScanPlan) {spec : Nat × Nat × Nat}
    (member : spec ∈ plan.slices) :
    spec.2.1 = spec.1 * plan.config.batchSize ∧ spec.2.1 < spec.2.2 ∧
      spec.2.2 ≤ plan.rowsInScope.toNat ∧ spec.2.2 ≤ (spec.1 + 1) * plan.config.batchSize ∧
      (spec.2.2 = plan.rowsInScope.toNat ∨
        spec.2.2 = (spec.1 + 1) * plan.config.batchSize) := by
  obtain ⟨batchNo, listed, rfl⟩ := List.mem_map.mp member
  have below : batchNo < plan.batchCount.toNat := List.mem_range.mp listed
  have bounds := plan.batchCount_bounds
  have positive := plan.config.positive
  have started : (batchNo : Int) * plan.config.batchSize < plan.rowsInScope := by
    have number : (batchNo : Int) ≤ plan.batchCount - 1 := by omega
    have size : (0 : Int) ≤ plan.config.batchSize := by positivity
    exact lt_of_le_of_lt (mul_le_mul_of_nonneg_right number size) bounds.2
  have natural : batchNo * plan.config.batchSize < plan.rowsInScope.toNat := by
    have cast : ((batchNo * plan.config.batchSize : Nat) : Int) < plan.rowsInScope := by
      push_cast
      exact started
    omega
  have next : batchNo * plan.config.batchSize < (batchNo + 1) * plan.config.batchSize := by
    rw [Nat.add_mul]
    omega
  exact ⟨rfl, lt_min next natural, min_le_right _ _, min_le_left _ _, (min_choice _ _).symm⟩

/-- Every row in scope is in the slice of its quotient. -/
theorem ScanPlan.slice_of_row (plan : ScanPlan) {row : Nat}
    (inScope : row < plan.rowsInScope.toNat) :
    ∃ spec ∈ plan.slices, spec.1 = row / plan.config.batchSize := by
  have bounds := plan.batchCount_bounds
  have positive := plan.config.positive
  have below : row / plan.config.batchSize < plan.batchCount.toNat := by
    rw [Nat.div_lt_iff_lt_mul positive]
    have counted : (row : Int) < plan.batchCount * plan.config.batchSize := by omega
    have nonnegative : 0 ≤ plan.batchCount := by
      by_contra negative
      have size : (0 : Int) ≤ plan.config.batchSize := by positivity
      have product := mul_nonpos_of_nonpos_of_nonneg (le_of_not_ge negative) size
      omega
    have cast : ((plan.batchCount.toNat * plan.config.batchSize : Nat) : Int) =
        plan.batchCount * plan.config.batchSize := by
      push_cast
      rw [Int.toNat_of_nonneg nonnegative]
    omega
  exact ⟨_, List.mem_map_of_mem (List.mem_range.mpr below), rfl⟩

/-- Batches with the slices of a plan are a partition of the rows in scope. -/
theorem partition_of_slices {plan : ScanPlan} {batches : List BatchRecord}
    (slices : batches.map (·.slice) = plan.slices) : Partition batches plan.rowsInScope.toNat := by
  have sliced : ∀ batch ∈ batches, batch.slice ∈ plan.slices := fun batch member =>
    slices ▸ List.mem_map_of_mem member
  have distinct : (batches.map (·.batchNo)).Nodup := by
    have numbers : batches.map (·.batchNo) = (batches.map (·.slice)).map (·.1) := by
      rw [List.map_map]
      rfl
    rw [numbers, slices]
    exact plan.slices_distinct
  have positive := plan.config.positive
  refine ⟨fun row inScope => ?_, fun batch member => ?_⟩
  · obtain ⟨spec, listed, number⟩ := plan.slice_of_row inScope
    have bounds := plan.slice_bounds listed
    rw [← slices] at listed
    obtain ⟨batch, member, rfl⟩ := List.mem_map.mp listed
    have quotient := Nat.div_add_mod row plan.config.batchSize
    have remainder := Nat.mod_lt row positive
    have start : batch.rowStart = row / plan.config.batchSize * plan.config.batchSize :=
      bounds.1.trans (congrArg (· * _) number)
    rw [Nat.mul_comm] at quotient
    refine ⟨batch, ⟨member, by omega, ?_⟩, ?_⟩
    · have stop : batch.rowEnd = plan.rowsInScope.toNat ∨
          batch.rowEnd = (row / plan.config.batchSize + 1) * plan.config.batchSize :=
        bounds.2.2.2.2.imp_right fun full => full.trans (congrArg (fun n => (n + 1) * _) number)
      rcases stop with whole | full
      · omega
      · rw [full, Nat.add_mul]
        omega
    · rintro other ⟨inside, lower, upper⟩
      have others := plan.slice_bounds (sliced other inside)
      have number' : other.batchNo = row / plan.config.batchSize := by
        have first : other.rowStart = other.batchNo * plan.config.batchSize := others.1
        have last : other.rowEnd ≤ (other.batchNo + 1) * plan.config.batchSize := others.2.2.2.1
        symm
        apply Nat.div_eq_of_lt_le
        · omega
        · omega
      exact KeyedList.eq_of_key distinct inside member (number'.trans number.symm)
  · have bounds := plan.slice_bounds (sliced batch member)
    exact ⟨bounds.2.1, bounds.2.2.1⟩

/-- Along every run the batches, once created, are a partition of the rows in scope, every
result accounts for its whole batch, a finished batch has no transient rows and never
changes, and the leases of a batch are bounded. -/
theorem batches_account (plan : ScanPlan) (events later : List ScanEvent) :
    ((scanRun plan events).store.batches ≠ [] →
      Partition (scanRun plan events).store.batches plan.rowsInScope.toNat) ∧
    ∀ batch ∈ (scanRun plan events).store.batches,
      (batch.completedAt ≠ none → batch.Accounts batch.rowStart batch.rowEnd) ∧
      (batch.state = .done → batch.unresolvedTransient = [] ∧
        batch ∈ (scanRun plan (events ++ later)).store.batches) ∧
      batch.attempts ≤ plan.config.maxBatchAttempts := by
  have sound := scanRun_sound plan events
  refine ⟨fun created => ?_, fun batch member => ?_⟩
  · rcases sound.slices with none | slices
    · exact absurd none created
    · exact partition_of_slices slices
  · have holds := sound.batches batch member
    exact ⟨holds.accounted, fun done => ⟨(holds.finished done).2,
      scanRun_finished plan events later member done⟩, holds.attempts⟩

end RateGuard
