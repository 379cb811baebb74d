import RateGuard.Scan.Ledger

/-!
# Agreement on the final aggregate

Coordinators may aggregate different readings of the batches, but the first aggregate
stored wins: every coordinator returns it, no later write touches it, and the closed job
grants no lease.
-/

open Transition

namespace RateGuard

/-- Stored aggregate of a finalized job. -/
def ImpactStore.result? (store : ImpactStore) : Option ImpactAggregate :=
  store.job.bind (·.result?)

/-- A job is finalized with an aggregate and a closed status, or has no aggregate. -/
def ImpactJob.Finalized (job : ImpactJob) : Prop :=
  (job.finalizedAt = none ∧ job.aggregate = none) ∨
    (job.finalizedAt ≠ none ∧ job.aggregate ≠ none ∧ job.status.isTerminal = true)

/-- What a coordinator holds agrees with the stored result. -/
def Coordinator.Agrees (store : ImpactStore) : Coordinator → Prop
  | planned job => ∀ aggregate, job.result? = some aggregate → store.result? = some aggregate
  | storing aggregate => aggregate.status.isTerminal = true
  | returned aggregate => store.result? = some aggregate
  | polling _ | stopping _ _ | finalizing | aggregating _ | failed => True

/-- Jobs are finalized consistently and coordinators agree with the store. -/
structure ScanState.Agreed (state : ScanState) : Prop where
  /-- The stored job is consistent. -/
  job : ∀ job, state.store.job = some job → job.Finalized
  /-- Coordinators run an existing job. -/
  exists_ : state.coordinators ≠ [] → state.store.job ≠ none
  /-- Coordinators agree with the store. -/
  coordinators : ∀ coordinator ∈ state.coordinators, coordinator.Agrees state.store

/-- A change that keeps the stored result and the jobs. -/
structure KeepsResult (before after : ImpactStore) : Prop where
  /-- The job stays consistent. -/
  job : ∀ job, after.job = some job → job.Finalized
  /-- A job that exists stays. -/
  exists_ : before.job ≠ none → after.job ≠ none
  /-- A stored result stays. -/
  result : ∀ aggregate, before.result? = some aggregate → after.result? = some aggregate

/-- A store with the same job keeps the result. -/
theorem KeepsResult.of_job {before after : ImpactStore}
    (consistent : ∀ job, before.job = some job → job.Finalized) (same : after.job = before.job) :
    KeepsResult before after where
  job job stored := consistent job (same ▸ stored)
  exists_ exists_ := same ▸ exists_
  result aggregate stored := by
    rw [ImpactStore.result?, same]
    exact stored

/-- An update of other fields keeps the result. -/
theorem KeepsResult.update {store : ImpactStore}
    (consistent : ∀ job, store.job = some job → job.Finalized) {change : ImpactJob → ImpactJob}
    (kept : ∀ job, (change job).finalizedAt = job.finalizedAt ∧
      (change job).aggregate = job.aggregate ∧ (change job).status = job.status) :
    KeepsResult store (store.updateJob change) where
  job job stored := by
    obtain ⟨old, found, rfl⟩ := Option.map_eq_some_iff.mp stored
    obtain ⟨time, aggregate, status⟩ := kept old
    unfold ImpactJob.Finalized
    rw [time, aggregate, status]
    exact consistent old found
  exists_ exists_ none := exists_ (Option.map_eq_none_iff.mp none)
  result aggregate stored := by
    unfold ImpactStore.result? ImpactStore.updateJob at *
    cases found : store.job with
    | none =>
      rw [found] at stored
      cases stored
    | some job =>
      rw [found] at stored
      obtain ⟨time, same, -⟩ := kept job
      simp only [Option.map_some, Option.bind_some, ImpactJob.result?, time, same] at stored ⊢
      exact stored

/-- A coordinator that agrees keeps agreeing when the result is kept. -/
theorem Coordinator.Agrees.kept {before after : ImpactStore} (keeps : KeepsResult before after)
    {coordinator : Coordinator} (agrees : coordinator.Agrees before) :
    coordinator.Agrees after := by
  cases coordinator with
  | planned job => exact fun aggregate found => keeps.result aggregate (agrees aggregate found)
  | storing aggregate => exact agrees
  | returned aggregate => exact keeps.result aggregate agrees
  | polling polling => trivial
  | stopping budgets reason => trivial
  | finalizing => trivial
  | aggregating job => trivial
  | failed => trivial

/-- A kept store with the coordinators of an agreed state is agreed. -/
theorem ScanState.Agreed.keep {before after : ScanState} (agreed : before.Agreed)
    (keeps : KeepsResult before.store after.store)
    (same : after.coordinators = before.coordinators) : after.Agreed where
  job := keeps.job
  exists_ some := keeps.exists_ (agreed.exists_ (same ▸ some))
  coordinators coordinator member :=
    (agreed.coordinators coordinator (same ▸ member)).kept keeps

/-- A kept store in which one coordinator moved on is agreed when that coordinator agrees. -/
theorem ScanState.Agreed.move {before after : ScanState} (agreed : before.Agreed)
    (keeps : KeepsResult before.store after.store) {index : Nat} {next : Coordinator}
    (moved : after.coordinators = before.coordinators.set index next)
    (agrees : next.Agrees after.store) : after.Agreed where
  job := keeps.job
  exists_ some := keeps.exists_ (agreed.exists_ fun none => some (by rw [moved, none]; rfl))
  coordinators coordinator member := by
    rw [moved] at member
    rcases List.mem_or_eq_of_mem_set member with old | rfl
    · exact (agreed.coordinators coordinator old).kept keeps
    · exact agrees

/-- The status of an aggregate is closed. -/
theorem aggregateJob_terminal {job : ImpactJob} {batches : List BatchRecord}
    {aggregate : ImpactAggregate} (aggregated : aggregateJob job batches = .ok aggregate) :
    aggregate.status.isTerminal = true := by
  obtain ⟨figures, -, aggregated⟩ := Outcome.bind_eq_ok aggregated
  cases aggregated
  simp only [finalStatus]
  split
  · rfl
  · split <;> rfl

/-- A job's result is stored with it. -/
theorem ImpactStore.result?_of_job {store : ImpactStore} {job : ImpactJob}
    (stored : store.job = some job) : store.result? = job.result? := by
  rw [ImpactStore.result?, stored]
  rfl

/-- The store after a finalization keeps a result, and has one. -/
theorem ImpactStore.finalizeJob_keeps {store : ImpactStore} {job : ImpactJob}
    (stored : store.job = some job) (consistent : job.Finalized) {aggregate : ImpactAggregate}
    (closed : aggregate.status.isTerminal = true) (now : Nat) :
    KeepsResult store (store.finalizeJob aggregate.status aggregate now).2 ∧
      (store.finalizeJob aggregate.status aggregate now).2.result? =
        some (((store.finalizeJob aggregate.status aggregate now).1.bind id).getD aggregate) := by
  have all : ∀ other, store.job = some other → other.Finalized := by
    intro other same
    rw [stored] at same
    cases same
    exact consistent
  rcases consistent with ⟨time, -⟩ | ⟨time, present, -⟩
  · have written : store.finalizeJob aggregate.status aggregate now =
        (none, { store with
          job := some { job with
            status := aggregate.status
            aggregate := some aggregate
            finalizedAt := some now } }) := by
      simp only [ImpactStore.finalizeJob, stored, time, Option.isSome_none, Bool.false_eq_true,
        if_false]
    rw [written]
    refine ⟨⟨fun other same => ?_, fun _ => Option.some_ne_none _, fun result found => ?_⟩, rfl⟩
    · cases same
      exact .inr ⟨Option.some_ne_none _, Option.some_ne_none _, closed⟩
    · rw [ImpactStore.result?_of_job stored, ImpactJob.result?, time] at found
      cases found
  · have finalized : job.finalizedAt.isSome = true := Option.isSome_iff_ne_none.mpr time
    have refused : store.finalizeJob aggregate.status aggregate now =
        (some job.aggregate, store) := by
      simp only [ImpactStore.finalizeJob, stored, finalized, if_true]
    rw [refused]
    refine ⟨KeepsResult.of_job all rfl, ?_⟩
    obtain ⟨result, found⟩ := Option.ne_none_iff_exists'.mp present
    rw [ImpactStore.result?_of_job stored, ImpactJob.result?, finalized, found]
    rfl

/-- A delivery that writes and ends keeps the agreement. -/
theorem ScanState.Agreed.finish {state : ScanState} (agreed : state.Agreed) (index : Nat)
    (delivery : Delivery) (write : BatchWrite) (durationMs : Nat) :
    (finishDelivery state index delivery write durationMs).Agreed ∧
      KeepsResult state.store (finishDelivery state index delivery write durationMs).store := by
  have keeps : KeepsResult state.store
      (finishDelivery state index delivery write durationMs).store :=
    .of_job agreed.job (ImpactStore.completeBatch_job ..)
  exact ⟨agreed.keep keeps rfl, keeps⟩

/-- A step keeps the stored result and the agreement with it. -/
theorem scanStep_agreed {plan : ScanPlan} {state : ScanState} (agreed : state.Agreed)
    (event : ScanEvent) : (scanStep plan state event).Agreed ∧
      KeepsResult state.store (scanStep plan state event).store := by
  have same : KeepsResult state.store state.store := .of_job agreed.job rfl
  cases event with
  | tick elapsed => exact ⟨agreed.keep same rfl, same⟩
  | cancel =>
    have keeps : KeepsResult state.store state.store.requestCancel :=
      .update agreed.job fun _ => ⟨rfl, rfl, rfl⟩
    exact ⟨agreed.keep keeps rfl, keeps⟩
  | plan capability =>
    cases stored : state.store.job with
    | none =>
      have created : scanStep plan state (.plan capability) =
          { state with
            store := { state.store with job := some (plan.job capability) }
            coordinators := state.coordinators ++ [.planned (plan.job capability)] } := by
        simp only [scanStep, ImpactStore.createJob, stored]
      have alone : state.coordinators = [] := by
        by_contra some
        exact agreed.exists_ some stored
      have keeps : KeepsResult state.store
          { state.store with job := some (plan.job capability) } := by
        refine ⟨fun job same => ?_, fun _ => Option.some_ne_none _, fun aggregate found => ?_⟩
        · cases same
          exact .inl ⟨rfl, rfl⟩
        · rw [ImpactStore.result?, stored] at found
          cases found
      rw [created]
      refine ⟨⟨keeps.job, fun _ => Option.some_ne_none _, fun coordinator member => ?_⟩, keeps⟩
      rw [alone] at member
      rw [List.mem_singleton.mp member]
      exact fun aggregate found => found
    | some job =>
      have joined : scanStep plan state (.plan capability) =
          { state with coordinators := state.coordinators ++ [.planned job] } := by
        simp only [scanStep, ImpactStore.createJob, stored]
      rw [joined]
      refine ⟨⟨agreed.job, fun _ absent => ?_, fun coordinator member => ?_⟩, same⟩
      · have missing : state.store.job = none := absent
        rw [stored] at missing
        cases missing
      · rcases List.mem_append.mp member with old | new
        · exact agreed.coordinators coordinator old
        · rw [List.mem_singleton.mp new]
          exact fun aggregate found => (ImpactStore.result?_of_job stored).trans found
  | start index =>
    simp only [scanStep, startCoordinator]
    split
    · rename_i job here
      split
      · rename_i aggregate found
        refine ⟨agreed.move same rfl ?_, same⟩
        exact agreed.coordinators _ (List.mem_of_getElem? here) aggregate found
      · have keeps : KeepsResult state.store { state.store with
            batches := ensureBatches state.now state.store.batches (batchSpecs plan.config job) } :=
          .of_job agreed.job rfl
        exact ⟨agreed.move keeps rfl trivial, keeps⟩
    · exact ⟨agreed, same⟩
  | poll index cancellation =>
    simp only [scanStep, pollCoordinator]
    split
    · split
      · have keeps : KeepsResult state.store state.store.requestCancel :=
          .update agreed.job fun _ => ⟨rfl, rfl, rfl⟩
        exact ⟨agreed.move keeps rfl trivial, keeps⟩
      · split <;> exact ⟨agreed.move same rfl trivial, same⟩
    · exact ⟨agreed, same⟩
  | dispatch index backoff owner published raised =>
    simp only [scanStep, dispatchBatch]
    split
    · split
      · exact ⟨agreed.move same rfl trivial, same⟩
      · refine ⟨agreed.move same rfl ?_, same⟩
        trivial
    · exact ⟨agreed, same⟩
  | stop index =>
    simp only [scanStep, stopCoordinator]
    split
    · rename_i budgets reason _
      have keeps : KeepsResult state.store (state.store.updateJob fun job =>
          { job with budgetExhausted := budgets, haltReason := reason }) :=
        .update agreed.job fun _ => ⟨rfl, rfl, rfl⟩
      exact ⟨agreed.move keeps rfl trivial, keeps⟩
    · exact ⟨agreed, same⟩
  | read index =>
    simp only [scanStep, readJob]
    split
    · refine ⟨agreed.move same rfl ?_, same⟩
      split
      · trivial
      · rename_i job stored
        split
        · rename_i aggregate found
          exact (ImpactStore.result?_of_job stored).trans found
        · trivial
    · exact ⟨agreed, same⟩
  | aggregate index =>
    simp only [scanStep, aggregateBatches]
    split
    · refine ⟨agreed.move same rfl ?_, same⟩
      split
      · rename_i aggregate aggregated
        exact aggregateJob_terminal aggregated
      · trivial
    · exact ⟨agreed, same⟩
  | finalize index =>
    simp only [scanStep, storeAggregate]
    split
    · rename_i aggregate here
      have member := List.mem_of_getElem? here
      have closed : aggregate.status.isTerminal = true := agreed.coordinators _ member
      obtain ⟨job, stored⟩ := Option.ne_none_iff_exists'.mp
        (agreed.exists_ (List.ne_nil_of_mem member))
      obtain ⟨keeps, result⟩ := ImpactStore.finalizeJob_keeps stored (agreed.job job stored) closed
        state.now
      exact ⟨agreed.move keeps rfl result, keeps⟩
    · exact ⟨agreed, same⟩
  | abandon index => exact ⟨agreed.move same rfl trivial, same⟩
  | deliver index =>
    have kept : (scanStep plan state (.deliver index)).store.job = state.store.job ∧
        (scanStep plan state (.deliver index)).coordinators = state.coordinators := by
      simp only [scanStep, deliver]
      split
      · exact ⟨rfl, rfl⟩
      · rename_i message _
        have job := state.store.leaseBatch_job message.batchNo message.owner
          (leaseSeconds plan.config) plan.config.maxBatchAttempts state.now
        split <;> rename_i answer <;> rw [answer] at job <;> exact ⟨job, rfl⟩
    have keeps := KeepsResult.of_job agreed.job kept.1
    exact ⟨agreed.keep keeps kept.2, keeps⟩
  | acknowledge index => exact ⟨agreed.keep same rfl, same⟩
  | process index target durationMs =>
    simp only [scanStep]
    split
    · exact agreed.finish ..
    · exact ⟨agreed, same⟩
  | crash index durationMs =>
    simp only [scanStep]
    split
    · exact agreed.finish ..
    · exact ⟨agreed, same⟩
  | die index => exact ⟨agreed.keep same rfl, same⟩

/-- Every run keeps coordinators agreed. -/
theorem scanRun_agreed (plan : ScanPlan) (events : List ScanEvent) :
    (scanRun plan events).Agreed := by
  apply run_invariant ScanState.Agreed fun _ event agreed => (scanStep_agreed agreed event).1
  refine ⟨fun job stored => ?_, fun nonempty => absurd rfl nonempty, List.forall_mem_nil _⟩
  cases stored

/-- A stored result stays along every continuation. -/
theorem scanRun_result (plan : ScanPlan) (events later : List ScanEvent)
    {aggregate : ImpactAggregate}
    (stored : (scanRun plan events).store.result? = some aggregate) :
    (scanRun plan (events ++ later)).store.result? = some aggregate := by
  have step : ∀ (state : ScanState) (event : ScanEvent),
      (state.Agreed ∧ state.store.result? = some aggregate) →
      (scanStep plan state event).Agreed ∧
        (scanStep plan state event).store.result? = some aggregate := by
    intro state event holds
    obtain ⟨agreed, keeps⟩ : (scanStep plan state event).Agreed ∧ _ :=
      scanStep_agreed holds.1 event
    exact ⟨agreed, keeps.result aggregate holds.2⟩
  have kept := run_invariant _ step ⟨scanRun_agreed plan events, stored⟩ later
  rw [scanRun, run_append]
  exact kept.2

/-- A finalized job grants no lease. -/
theorem ScanState.Agreed.closed {state : ScanState} (agreed : state.Agreed)
    {aggregate : ImpactAggregate} (stored : state.store.result? = some aggregate)
    (batchNo : Nat) (owner : String) (leaseSeconds maxAttempts now : Nat) :
    state.store.leaseBatch batchNo owner leaseSeconds maxAttempts now =
      (.jobClosed, none, state.store) := by
  obtain ⟨job, found, result⟩ := Option.bind_eq_some_iff.mp stored
  have terminal : job.status.isTerminal = true := by
    rcases agreed.job job found with ⟨time, -⟩ | ⟨-, -, terminal⟩
    · rw [ImpactJob.result?, time] at result
      cases result
    · exact terminal
  simp only [ImpactStore.leaseBatch, found, terminal, Bool.true_or, if_true]

/-- Coordinators agree on the final aggregate: whatever coordinators return along a run is the one
stored aggregate, which no later step changes, and no lease is granted once it is stored. -/
theorem finalization_agrees (plan : ScanPlan) (events later : List ScanEvent)
    (aggregate : ImpactAggregate) :
    (.returned aggregate ∈ (scanRun plan events).coordinators →
      (scanRun plan events).store.result? = some aggregate ∧
      ∀ other, .returned other ∈ (scanRun plan (events ++ later)).coordinators →
        other = aggregate) ∧
    ((scanRun plan events).store.result? = some aggregate →
      (scanRun plan (events ++ later)).store.result? = some aggregate ∧
      ∀ (batchNo : Nat) (owner : String) (leaseSeconds maxAttempts now : Nat),
        ((scanRun plan (events ++ later)).store.leaseBatch batchNo owner leaseSeconds maxAttempts
          now).1 ≠ .acquired) := by
  have agreed := scanRun_agreed plan events
  have laterAgreed := scanRun_agreed plan (events ++ later)
  constructor
  · intro member
    have stored : (scanRun plan events).store.result? = some aggregate :=
      agreed.coordinators _ member
    refine ⟨stored, fun other returned => ?_⟩
    have first := scanRun_result plan events later stored
    have second : (scanRun plan (events ++ later)).store.result? = some other :=
      laterAgreed.coordinators _ returned
    rw [first] at second
    exact (Option.some.inj second).symm
  · intro stored
    have kept := scanRun_result plan events later stored
    refine ⟨kept, fun batchNo owner leaseSeconds maxAttempts now => ?_⟩
    rw [laterAgreed.closed kept]
    exact LeaseResult.noConfusion

end RateGuard
