import RateGuard.Scan.Store

/-!
# Coordination of a scan

The plan of a scan as slices of the portfolio, and the loop of a coordinator: it
lists the batches, stops when every batch is settled, when the connector fails
throughout or when the time is over, and otherwise dispatches the batches that are
not in flight while fewer than the configured number are. What it dispatched is
remembered by the coordinator alone.
-/

namespace RateGuard

/-- What is planned as one job. -/
structure ScanPlan where
  /-- Budgets. -/
  config : ImpactConfig
  /-- Portfolio and authoritative package. -/
  source : ScanSource
  /-- Product whose policies are compared. -/
  product : String
  /-- Sample limit of the mission. -/
  sampleLimit : Option Int

/-- Most items of a batch quote. -/
def batchMaxItemsLimit : Nat := 250

/-- Rows covered by batches. -/
def ScanPlan.rowsInScope (plan : ScanPlan) : Int :=
  let cap : Int := match plan.sampleLimit with
    | some limit => if limit = 0 then plan.config.maxPolicies
      else min plan.config.maxPolicies limit
    | none => plan.config.maxPolicies
  min plan.source.rows.length cap

/-- Batches planned: the rounded up quotient. -/
def ScanPlan.batchCount (plan : ScanPlan) : Int :=
  -(-plan.rowsInScope / plan.config.batchSize)

/-- Job of a plan, with the batch capability that was probed. -/
def ScanPlan.job (plan : ScanPlan) (capability : Nat) : ImpactJob where
  status := .running
  product := plan.product
  batchMaxItems := min capability batchMaxItemsLimit
  batchCount := plan.batchCount
  rowsTotal := plan.source.rows.length
  rowsInScope := plan.rowsInScope
  cancelRequested := false
  haltReason := none
  budgetExhausted := []
  aggregate := none
  finalizedAt := none

/-- Batches of a job by number, first row and row after the last. -/
def batchSpecs (config : ImpactConfig) (job : ImpactJob) : List (Nat × Nat × Nat) :=
  (List.range job.batchCount.toNat).map fun batchNo =>
    (batchNo, batchNo * config.batchSize,
      min ((batchNo + 1) * config.batchSize) job.rowsInScope.toNat)

/-- `_settled`. -/
def settled (config : ImpactConfig) (batch : BatchRecord) (now : Nat) : Bool :=
  batch.state = .done ||
    config.maxBatchAttempts ≤ batch.attempts && !batch.heldAt now

/-- Time of the last dispatch of a batch. -/
def dispatchedAt (dispatched : List (Nat × Nat)) (batchNo : Nat) : Option Nat :=
  (dispatched.find? (·.1 = batchNo)).map (·.2)

/-- Time after which a dispatched batch counts as stalled. -/
def stallTime (config : ImpactConfig) : Nat := seconds (config.batchTimeoutSeconds + 90)

/-- `_in_flight`. -/
def inFlight (config : ImpactConfig) (dispatched : List (Nat × Nat)) (batch : BatchRecord)
    (now : Nat) : Bool :=
  if batch.state = .leased then batch.heldAt now
  else
    match dispatchedAt dispatched batch.batchNo with
    | some sent =>
      batch.updatedAt ≤ sent && now - sent < stallTime config && !(batch.state = .done)
    | none => false

/-- `_dispatchable`, with the time that a batch with transient failures has to wait. -/
def dispatchable (config : ImpactConfig) (dispatched : List (Nat × Nat)) (batch : BatchRecord)
    (now backoff : Nat) : Bool :=
  !settled config batch now && !inFlight config dispatched batch now &&
    !(batch.state = .incomplete && batch.completedAt.any fun finished => now - finished < backoff)

/-- Batches that must have failed throughout before a scan is halted. -/
def haltAfterPermanentFailedBatches : Nat := 3

/-- `_systemic_permanent_failure`. -/
def systemicPermanentFailure (batches : List BatchRecord) : Bool :=
  !(batches.any fun batch => 0 < batch.matched || !batch.affected.isEmpty) &&
    haltAfterPermanentFailedBatches ≤ batches.countP fun batch =>
      batch.state = .done && batch.completedAt.isSome && !batch.inconclusive.isEmpty &&
        batch.rows ≤ batch.inconclusive.length + batch.outOfScope.length

/-- State of a coordinator's loop. -/
structure Polling where
  /-- Job as planned. -/
  job : ImpactJob
  /-- Time at which the budget is over. -/
  deadline : Nat
  /-- Budgets that ran out. -/
  budgetExhausted : List String
  /-- Reason of a halt. -/
  haltReason : Option String
  /-- Last dispatch of each batch, latest first. -/
  dispatched : List (Nat × Nat)
  /-- Time of the last listing. -/
  polledAt : Nat
  /-- Listed batches not looked at yet. -/
  queue : List BatchRecord
  /-- Batches counted as in flight. -/
  inflight : Nat

/-- Loop of a coordinator that starts a job. -/
def Polling.start (config : ImpactConfig) (job : ImpactJob) (now : Nat) : Polling where
  job := job
  deadline := now + seconds config.maxMissionSeconds
  budgetExhausted := job.budgetExhausted ++
    if job.rowsInScope < job.rowsTotal ∧ "ROW_BUDGET" ∉ job.budgetExhausted then ["ROW_BUDGET"]
    else []
  haltReason := job.haltReason
  dispatched := []
  polledAt := now
  queue := []
  inflight := 0

/-- How a listing ends: the loop is over, or batches are to be dispatched. -/
inductive PollResult where
  | finished (budgetExhausted : List String) (haltReason : Option String)
  | dispatching (polling : Polling)

/-- One turn of the loop up to the dispatches. -/
def Polling.list (config : ImpactConfig) (polling : Polling) (batches : List BatchRecord)
    (now : Nat) : PollResult :=
  if batches.all fun batch => settled config batch now then
    .finished polling.budgetExhausted polling.haltReason
  else if systemicPermanentFailure batches then
    .finished polling.budgetExhausted (some "CONNECTOR_PERMANENT_FAILURE")
  else if polling.deadline ≤ now then
    .finished (polling.budgetExhausted ++ ["MAX_MISSION_SECONDS"]) polling.haltReason
  else
    .dispatching { polling with
      polledAt := now
      queue := batches
      inflight := batches.countP fun batch => inFlight config polling.dispatched batch now }

/-- Batch that the loop dispatches next, if it looks at one that it may dispatch. -/
def Polling.next (config : ImpactConfig) (polling : Polling) (backoff : Nat) :
    Option BatchRecord :=
  match polling.queue with
  | [] => none
  | batch :: _ =>
    if config.maxInflightBatches ≤ polling.inflight then none
    else if dispatchable config polling.dispatched batch polling.polledAt backoff then some batch
    else none

/-- The loop after it looked at a batch. -/
def Polling.skip (polling : Polling) : Polling := { polling with queue := polling.queue.tail }

/-- The loop after a dispatch that did not raise. -/
def Polling.record (polling : Polling) (batchNo now : Nat) : Polling :=
  { polling with
    queue := polling.queue.tail
    dispatched := (batchNo, now) :: polling.dispatched
    inflight := polling.inflight + 1 }

/-- Where a coordinator stands. -/
inductive Coordinator where
  | planned (job : ImpactJob)
  | polling (polling : Polling)
  | stopping (budgetExhausted : List String) (haltReason : Option String)
  | finalizing
  | aggregating (job : ImpactJob)
  | storing (aggregate : ImpactAggregate)
  | returned (aggregate : ImpactAggregate)
  | failed

/-- Stored aggregate of a finalized job. -/
def ImpactJob.result? (job : ImpactJob) : Option ImpactAggregate :=
  if job.finalizedAt.isSome then job.aggregate else none

end RateGuard
