import RateGuard.Diff.Soundness
import RateGuard.Scan.Batches

/-!
# Fencing of completions

The name of a lease's owner is derived from the message, so a redelivered message
leases under the name of its earlier delivery. As long as no lease is granted under the
name of a delivery that is still at work on the batch, only the delivery of the latest
lease completes a batch, and a completion keeps every affected row.
-/

open Transition TopologicalSort

namespace RateGuard

/-- Leases of a batch are numbered; the latest one has the number of the stored batch. -/
def LatestLease (state : ScanState) (delivery : Delivery) : Prop :=
  ∀ batch, state.store.getBatch delivery.batch.batchNo = some batch →
    batch.attempts = delivery.batch.attempts

/-- A completion that takes effect is made by the delivery of the latest lease. -/
def Fenced (state : ScanState) (event : ScanEvent) : Prop :=
  ∀ index delivery, event.completes? = some index →
    state.deliveries[index]? = some delivery →
    state.store.accepts delivery.batch.batchNo delivery.owner → LatestLease state delivery

/-- No lease is granted under the name of a delivery still at work on the batch. -/
def OwnName (plan : ScanPlan) (state : ScanState) (event : ScanEvent) : Prop :=
  ∀ index message, event = .deliver index → state.messages[index]? = some message →
    (state.store.leaseBatch message.batchNo message.owner (leaseSeconds plan.config)
      plan.config.maxBatchAttempts state.now).1 = .acquired →
    ∀ delivery ∈ state.deliveries, delivery.batch.batchNo = message.batchNo →
      delivery.owner ≠ message.owner

/-- How the deliveries at work relate to the batch they lease. -/
structure Delivery.Follows (delivery : Delivery) (batch : BatchRecord) : Prop where
  /-- Its lease is not newer than the latest one. -/
  earlier : delivery.batch.attempts ≤ batch.attempts
  /-- The holder's name belongs to the latest lease. -/
  named : batch.state = .leased → batch.leaseOwner = some delivery.owner →
    delivery.batch.attempts = batch.attempts
  /-- The copy of the latest lease has the stored results. -/
  copied : batch.state = .leased → delivery.batch.attempts = batch.attempts →
    delivery.batch.toTally = batch.toTally ∧ delivery.batch.completedAt = batch.completedAt

/-- A sound scan whose deliveries follow the batches they lease. -/
structure ScanState.Followed (plan : ScanPlan) (state : ScanState) : Prop where
  /-- The scan is sound. -/
  sound : state.Sound plan
  /-- Deliveries follow their batches. -/
  follows : ∀ delivery ∈ state.deliveries, ∀ batch ∈ state.store.batches,
    delivery.batch.batchNo = batch.batchNo → delivery.Follows batch

/-- A granted lease is granted by the decision on the stored batch. -/
theorem leaseBatch_acquired {store : ImpactStore} {job : ImpactJob} {batch : BatchRecord}
    {batchNo : Nat} {owner : String} {leaseSeconds maxAttempts now : Nat}
    (stored : store.job = some job)
    (opened : job.status.isTerminal = false ∧ job.cancelRequested = false)
    (found : store.getBatch batchNo = some batch) (unfinished : batch.state ≠ .done)
    (free : batch.heldAt now = false) (attempts : batch.attempts < maxAttempts) :
    (store.leaseBatch batchNo owner leaseSeconds maxAttempts now).1 = .acquired := by
  have remaining : ¬maxAttempts ≤ batch.attempts := by omega
  simp [ImpactStore.leaseBatch, stored, opened, found, leaseDecision, unfinished, free, remaining]

/-- A move that grants no lease under a name at work keeps deliveries following. -/
theorem BatchMove.follows {plan : ScanPlan} {before after : ScanState} {event : ScanEvent}
    (followed : before.Followed plan) (own : OwnName plan before event)
    (move : BatchMove plan before event after) :
    ∀ delivery ∈ after.deliveries, ∀ batch ∈ after.store.batches,
      delivery.batch.batchNo = batch.batchNo → delivery.Follows batch := by
  intro delivery working batch member number
  cases move with
  | frame batches deliveries =>
    rw [batches] at member
    exact followed.follows delivery (deliveries.subset working) batch member number
  | ensure job waiting batches deliveries =>
    have specs := (followed.sound.planned.coordinators job waiting).specs
    rw [deliveries] at working
    rcases followed.sound.slices with none | slices
    · have here := (followed.sound.deliveries delivery working).2
      rw [none] at here
      cases here
    · rw [specs, ensureBatches_of_existing] at batches
      · rw [batches] at member
        exact followed.follows delivery working batch member number
      · intro spec listed
        rw [← slices] at listed
        obtain ⟨other, inside, rfl⟩ := List.mem_map.mp listed
        exact ⟨other, inside, rfl⟩
  | lease index message job old delivers sent stored opened found unfinished free attempts
      batches deliveries =>
    obtain ⟨inside, oldNumber⟩ := ImpactStore.getBatch_eq_some found
    rw [deliveries] at working
    rw [batches] at member
    rcases mem_putBatch member with rfl | ⟨kept, other⟩
    · rcases List.mem_append.mp working with earlier | new
      · have follows := followed.follows delivery earlier old inside number
        have different := own index message delivers sent
          (leaseBatch_acquired stored opened found unfinished free attempts) delivery earlier
          (number.trans oldNumber)
        have before := follows.earlier
        refine ⟨Nat.le_succ_of_le before, fun _ owner => ?_, fun _ same => ?_⟩
        · have owners : message.owner = delivery.owner := Option.some.inj owner
          exact absurd owners.symm different
        · have same' : delivery.batch.attempts = old.attempts + 1 := same
          omega
      · rw [List.mem_singleton.mp new]
        exact ⟨le_refl _, fun _ _ => rfl, fun _ _ => ⟨rfl, rfl⟩⟩
    · rcases List.mem_append.mp working with earlier | new
      · exact followed.follows delivery earlier batch kept number
      · rw [List.mem_singleton.mp new] at number
        exact absurd number.symm other
  | write index writer completes writing write writes durationMs old found held
      batches deliveries =>
    rw [deliveries] at working
    rw [batches] at member
    have remained := (List.eraseIdx_sublist _ _).subset working
    rcases mem_putBatch member with rfl | ⟨kept, -⟩
    · obtain ⟨inside, -⟩ := ImpactStore.getBatch_eq_some found
      have sameNumber : delivery.batch.batchNo = old.batchNo := by
        rw [number]
        cases write <;> rfl
      have follows := followed.follows delivery remained old inside sameNumber
      have state : (old.write write durationMs before.now).state ≠ .leased := by
        cases write with
        | result result =>
          simp only [BatchRecord.write, resultState]
          split <;> nofun
        | release => nofun
      refine ⟨?_, fun leased => absurd leased state, fun leased => absurd leased state⟩
      have before := follows.earlier
      cases write <;> exact before
    · exact followed.follows delivery remained batch kept number

/-- A step that grants no lease under a name at work keeps a scan followed. -/
theorem scanStep_followed {plan : ScanPlan} (state : ScanState) (event : ScanEvent)
    (own : OwnName plan state event) (followed : state.Followed plan) :
    (scanStep plan state event).Followed plan :=
  ⟨scanStep_sound followed.sound event, (scanStep_move plan state event).follows followed own⟩

/-- A scan without a job is followed. -/
theorem ScanState.initial_followed (plan : ScanPlan) : ScanState.initial.Followed plan :=
  ⟨ScanState.initial_sound plan, List.forall_mem_nil _⟩

/-- In a followed scan completions are fenced. -/
theorem ScanState.Followed.fenced {plan : ScanPlan} {state : ScanState}
    (followed : state.Followed plan) (event : ScanEvent) : Fenced state event := by
  intro index delivery _ working accepted batch found
  obtain ⟨member, number⟩ := ImpactStore.getBatch_eq_some found
  have follows := followed.follows delivery (List.mem_of_getElem? working) batch member number.symm
  simp only [ImpactStore.accepts, found, Option.any_some, Bool.and_eq_true,
    decide_eq_true_eq] at accepted
  exact (follows.named accepted.1 accepted.2).symm

/-- In a run that grants no lease under the name of a delivery still at work on the batch, every
completion that takes effect is made by the delivery of the latest lease. -/
theorem completeBatch_fenced (plan : ScanPlan) (events : List ScanEvent)
    (own : Along (scanStep plan) (OwnName plan) .initial events) :
    Along (scanStep plan) Fenced .initial events :=
  own.imp (ScanState.Followed plan) (fun state event holds => scanStep_followed state event holds)
    (fun _ event _ followed => followed.fenced event) (ScanState.initial_followed plan)

/-- A policy like the single one under another identifier. -/
def sampleRow (policyId : String) : SyntheticPolicy where
  policyId := policyId
  productId := "HO3"
  state := "AZ"
  form := "HO3"
  transactionType := .newBusiness
  effectiveDate := sampleDay
  territory := "T1"
  roofAge := 5
  deductible := 1000
  protectionClass := 3
  constructionType := "frame"
  dwellingLimit := 300000
  multiPolicy := false
  claimsFree := true
  claimsFreeYears := 3
  canonicalPremium := ⟨false, 10000, -2⟩
  targetPremium := none

/-- Budgets of a small scan. -/
def sampleConfig : ImpactConfig where
  maxPolicies := 50000
  batchSize := 10
  maxInflightBatches := 1
  batchTimeoutSeconds := 240
  maxBatchAttempts := 3
  maxMissionSeconds := 540
  premiumTolerance := ⟨false, 0, -2⟩
  positive := by decide
  inflight := by decide
  attempted := by decide

/-- Plan of two policies priced at one hundred. -/
def samplePlan : ScanPlan where
  config := sampleConfig
  source := ⟨[sampleRow "POL-1", sampleRow "POL-2"], flatPackage.toPackageContent,
    byGenerations String, id⟩
  product := "HO3"
  sampleLimit := none

/-- Connector that times out on every row. -/
def timingOut : Target := ⟨none, fun _ => .refused "CONNECTOR_TIMEOUT" true, 0, false⟩

/-- Connector that prices the first row at one hundred and twenty and times out on others. -/
def firstRowOnly : Target where
  unregistered := none
  reply items := if items.any (·.index = 0) then .quote (some "120.00")
    else .refused "CONNECTOR_TIMEOUT" true
  retries := 0
  breakerOpened := false

/-- A coordinator dispatches the only batch and its message is delivered. -/
def firstDelivery : List ScanEvent :=
  [.plan 0, .start 0, .poll 0 false, .dispatch 0 0 "push-1" true false, .deliver 0]

/-- Leases keep their names apart when the only message is delivered once. -/
theorem firstDelivery_own : Along (scanStep samplePlan) (OwnName samplePlan) .initial
    (firstDelivery ++ [.process 0 firstRowOnly 5]) := by
  refine ⟨nofun, nofun, nofun, nofun, ?_, nofun, trivial⟩
  intro index message _ _ _ delivery member
  exact absurd member List.not_mem_nil

/-- A batch delivered once is completed by the delivery of the latest lease. -/
theorem completeBatch_fenced_once : Along (scanStep samplePlan) Fenced .initial
    (firstDelivery ++ [.process 0 firstRowOnly 5]) :=
  completeBatch_fenced samplePlan _ firstDelivery_own

/-- Completions are not fenced: after the lease ended, the redelivered message leases under the
same name, and the earlier delivery releases the new lease. -/
theorem completeBatch_unfenced : ¬∀ (plan : ScanPlan) (events : List ScanEvent),
    Along (scanStep plan) Fenced .initial events := by
  intro fenced
  have steps := (along_append.mp (fenced samplePlan (firstDelivery ++
    [.tick (seconds 301), .deliver 0, .crash 0 5]))).2
  have latest := steps.2.2.1 0 _ rfl rfl (by decide)
  exact absurd (latest _ rfl) (by decide)

end RateGuard
