import RateGuard.Foundation.Transition
import RateGuard.Scan.Coordinator

/-!
# The scan as a system

One job with its store, the batch messages not yet acknowledged, the deliveries that
hold a leased copy of a batch, and any number of coordinators. A step is one access
to the store by one party, one message, or time passing. Deliveries may raise or
die, messages may be delivered again at any time until they are acknowledged, and
coordinators may die at any point.
-/

open Transition

namespace RateGuard

/-- Message that asks for a batch. -/
structure BatchMessage where
  /-- Number of the batch. -/
  batchNo : Nat
  /-- Name under which a delivery of the message leases. -/
  owner : String
  deriving DecidableEq

/-- Delivery that was granted a lease. -/
structure Delivery where
  /-- Name under which it leased. -/
  owner : String
  /-- The job as it was read. -/
  job : ImpactJob
  /-- The batch as it was leased. -/
  batch : BatchRecord

/-- State of a scan. -/
structure ScanState where
  /-- Clock. -/
  now : Nat
  /-- Stored job and batches. -/
  store : ImpactStore
  /-- Messages not yet acknowledged. -/
  messages : List BatchMessage
  /-- Deliveries at work. -/
  deliveries : List Delivery
  /-- Coordinators. -/
  coordinators : List Coordinator

/-- Steps of a scan; parties are named by their position. -/
inductive ScanEvent where
  | tick (elapsed : Nat)
  | cancel
  | plan (capability : Nat)
  | start (coordinator : Nat)
  | poll (coordinator : Nat) (cancellation : Bool)
  | dispatch (coordinator backoff : Nat) (owner : String) (published raised : Bool)
  | stop (coordinator : Nat)
  | read (coordinator : Nat)
  | aggregate (coordinator : Nat)
  | finalize (coordinator : Nat)
  | abandon (coordinator : Nat)
  | deliver (message : Nat)
  | acknowledge (message : Nat)
  | process (delivery : Nat) (target : Target) (durationMs : Nat)
  | crash (delivery durationMs : Nat)
  | die (delivery : Nat)

/-- Delivery that a step lets write. -/
def ScanEvent.completes? : ScanEvent → Option Nat
  | process index _ _ | crash index _ => some index
  | _ => none

/-- A scan before its job exists. -/
def ScanState.initial : ScanState := ⟨0, ⟨none, []⟩, [], [], []⟩

/-- Replaces one coordinator. -/
def ScanState.setCoordinator (state : ScanState) (index : Nat) (coordinator : Coordinator) :
    ScanState :=
  { state with coordinators := state.coordinators.set index coordinator }

/-- Duration of a lease. -/
def leaseSeconds (config : ImpactConfig) : Nat := config.batchTimeoutSeconds + 60

/-- A coordinator starts to run its job: it returns a stored result or ensures the batches. -/
def startCoordinator (plan : ScanPlan) (state : ScanState) (index : Nat) : ScanState :=
  match state.coordinators[index]? with
  | some (.planned job) =>
    match job.result? with
    | some aggregate => state.setCoordinator index (.returned aggregate)
    | none =>
      { state with
        store := { state.store with
          batches := ensureBatches state.now state.store.batches (batchSpecs plan.config job) }
        coordinators := state.coordinators.set index
          (.polling (.start plan.config job state.now)) }
  | _ => state

/-- A coordinator looks for a cancellation and lists the batches. -/
def pollCoordinator (plan : ScanPlan) (state : ScanState) (index : Nat) (cancellation : Bool) :
    ScanState :=
  match state.coordinators[index]? with
  | some (.polling polling) =>
    if cancellation then
      { state with
        store := state.store.requestCancel
        coordinators := state.coordinators.set index
          (.stopping polling.budgetExhausted polling.haltReason) }
    else
      match polling.list plan.config state.store.listBatches state.now with
      | .finished budgetExhausted haltReason =>
        state.setCoordinator index (.stopping budgetExhausted haltReason)
      | .dispatching polling => state.setCoordinator index (.polling polling)
  | _ => state

/-- A coordinator looks at one listed batch and dispatches it if it may. -/
def dispatchBatch (plan : ScanPlan) (state : ScanState) (index backoff : Nat) (owner : String)
    (published raised : Bool) : ScanState :=
  match state.coordinators[index]? with
  | some (.polling polling) =>
    match polling.next plan.config backoff with
    | none => state.setCoordinator index (.polling polling.skip)
    | some batch =>
      { state with
        messages := if published then state.messages ++ [⟨batch.batchNo, owner⟩]
          else state.messages
        coordinators := state.coordinators.set index
          (.polling (if raised then polling.skip else polling.record batch.batchNo state.now)) }
  | _ => state

/-- A coordinator writes why it stopped. -/
def stopCoordinator (state : ScanState) (index : Nat) : ScanState :=
  match state.coordinators[index]? with
  | some (.stopping budgetExhausted haltReason) =>
    { state with
      store := state.store.updateJob fun job => { job with budgetExhausted, haltReason }
      coordinators := state.coordinators.set index .finalizing }
  | _ => state

/-- A finalizing coordinator reads the job. -/
def readJob (state : ScanState) (index : Nat) : ScanState :=
  match state.coordinators[index]? with
  | some .finalizing =>
    state.setCoordinator index <|
      match state.store.job with
      | none => .failed
      | some job =>
        match job.result? with
        | some aggregate => .returned aggregate
        | none => .aggregating job
  | _ => state

/-- A finalizing coordinator lists the batches and aggregates them. -/
def aggregateBatches (state : ScanState) (index : Nat) : ScanState :=
  match state.coordinators[index]? with
  | some (.aggregating job) =>
    state.setCoordinator index <|
      match aggregateJob job state.store.listBatches with
      | .ok aggregate => .storing aggregate
      | .error _ => .failed
  | _ => state

/-- A finalizing coordinator stores its aggregate, or takes the one stored first. -/
def storeAggregate (state : ScanState) (index : Nat) : ScanState :=
  match state.coordinators[index]? with
  | some (.storing aggregate) =>
    let finalized := state.store.finalizeJob aggregate.status aggregate state.now
    { state with
      store := finalized.2
      coordinators := state.coordinators.set index
        (.returned ((finalized.1.bind id).getD aggregate)) }
  | _ => state

/-- A message is delivered: the delivery asks for the lease and goes to work if granted. -/
def deliver (plan : ScanPlan) (state : ScanState) (index : Nat) : ScanState :=
  match state.messages[index]? with
  | none => state
  | some message =>
    match state.store.leaseBatch message.batchNo message.owner (leaseSeconds plan.config)
        plan.config.maxBatchAttempts state.now with
    | (_, some (job, batch), store) =>
      { state with
        store
        deliveries := state.deliveries ++ [⟨message.owner, job, batch⟩] }
    | (_, none, store) => { state with store }

/-- A delivery writes and ends. -/
def finishDelivery (state : ScanState) (index : Nat) (delivery : Delivery) (write : BatchWrite)
    (durationMs : Nat) : ScanState :=
  { state with
    store := state.store.completeBatch delivery.batch.batchNo delivery.owner write durationMs
      state.now
    deliveries := state.deliveries.eraseIdx index }

/-- What a delivery writes after it processed its batch. -/
def Delivery.outcome (plan : ScanPlan) (delivery : Delivery) (target : Target) : BatchWrite :=
  match execute plan.config plan.source delivery.job target delivery.batch with
  | some result => .result result
  | none => .release

/-- One step of a scan. -/
def scanStep (plan : ScanPlan) (state : ScanState) : ScanEvent → ScanState
  | .tick elapsed => { state with now := state.now + elapsed }
  | .cancel => { state with store := state.store.requestCancel }
  | .plan capability =>
    let created := state.store.createJob (plan.job capability)
    { state with
      store := created.2
      coordinators := state.coordinators ++ [.planned created.1] }
  | .start index => startCoordinator plan state index
  | .poll index cancellation => pollCoordinator plan state index cancellation
  | .dispatch index backoff owner published raised =>
    dispatchBatch plan state index backoff owner published raised
  | .stop index => stopCoordinator state index
  | .read index => readJob state index
  | .aggregate index => aggregateBatches state index
  | .finalize index => storeAggregate state index
  | .abandon index => state.setCoordinator index .failed
  | .deliver index => deliver plan state index
  | .acknowledge index => { state with messages := state.messages.eraseIdx index }
  | .process index target durationMs =>
    match state.deliveries[index]? with
    | some delivery =>
      finishDelivery state index delivery (delivery.outcome plan target) durationMs
    | none => state
  | .crash index durationMs =>
    match state.deliveries[index]? with
    | some delivery => finishDelivery state index delivery .release durationMs
    | none => state
  | .die index => { state with deliveries := state.deliveries.eraseIdx index }

/-- State of a scan after some steps. -/
def scanRun (plan : ScanPlan) (events : List ScanEvent) : ScanState :=
  run (scanStep plan) .initial events

end RateGuard
