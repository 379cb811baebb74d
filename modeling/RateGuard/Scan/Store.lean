import RateGuard.Scan.Aggregate

/-!
# Checkpoint store of a scan

The stored job and batches of one scan, with the operations of the store. Each
operation is atomic. A lease is granted by comparing and setting one batch record;
its owner's name is the fencing token of a completion.
-/

namespace RateGuard

/-- Stored job and batches of one scan. -/
structure ImpactStore where
  /-- Job, once created. -/
  job : Option ImpactJob
  /-- Batches in order of creation. -/
  batches : List BatchRecord

/-- Whether a lease has not ended. -/
def BatchRecord.heldAt (batch : BatchRecord) (now : Nat) : Bool :=
  batch.state = .leased && batch.leaseExpiresAt.any fun expires => now < expires

/-- Batch under a new lease. -/
def BatchRecord.lease (batch : BatchRecord) (owner : String) (leaseSeconds now : Nat) :
    BatchRecord :=
  { batch with
    state := .leased
    attempts := batch.attempts + 1
    leaseOwner := some owner
    leaseExpiresAt := some (now + seconds leaseSeconds)
    updatedAt := now }

/-- `_lease_decision`. -/
def leaseDecision (batch : BatchRecord) (owner : String) (leaseSeconds maxAttempts now : Nat) :
    LeaseResult × BatchRecord :=
  if batch.state = .done then (.alreadyDone, batch)
  else if batch.heldAt now then (.leasedElsewhere, batch)
  else if maxAttempts ≤ batch.attempts then (.attemptsExhausted, batch)
  else (.acquired, batch.lease owner leaseSeconds now)

/-- Batch of a number. -/
def ImpactStore.getBatch (store : ImpactStore) (batchNo : Nat) : Option BatchRecord :=
  store.batches.find? (·.batchNo = batchNo)

/-- `list_batches`. -/
def ImpactStore.listBatches (store : ImpactStore) : List BatchRecord :=
  orderedBatches store.batches

/-- Replaces the batch of a record's number. -/
def putBatch (batches : List BatchRecord) (record : BatchRecord) : List BatchRecord :=
  batches.map fun batch => if batch.batchNo = record.batchNo then record else batch

/-- `ensure_batches`. -/
def ensureBatches (now : Nat) (batches : List BatchRecord) (specs : List (Nat × Nat × Nat)) :
    List BatchRecord :=
  specs.foldl
    (fun batches spec =>
      if batches.any (·.batchNo = spec.1) then batches
      else batches ++ [.fresh now spec.1 spec.2.1 spec.2.2]) batches

/-- `create_job`. -/
def ImpactStore.createJob (store : ImpactStore) (job : ImpactJob) : ImpactJob × ImpactStore :=
  match store.job with
  | some stored => (stored, store)
  | none => (job, { store with job := some job })

/-- `update_job`. -/
def ImpactStore.updateJob (store : ImpactStore) (change : ImpactJob → ImpactJob) : ImpactStore :=
  { store with job := store.job.map change }

/-- `request_cancel`. -/
def ImpactStore.requestCancel (store : ImpactStore) : ImpactStore :=
  store.updateJob fun job => { job with cancelRequested := true }

/-- `lease_batch`: the answer, the job and the leased batch when granted, and the store. -/
def ImpactStore.leaseBatch (store : ImpactStore) (batchNo : Nat) (owner : String)
    (leaseSeconds maxAttempts now : Nat) :
    LeaseResult × Option (ImpactJob × BatchRecord) × ImpactStore :=
  match store.job with
  | none => (.notFound, none, store)
  | some job =>
    if job.status.isTerminal || job.cancelRequested then (.jobClosed, none, store)
    else
      match store.getBatch batchNo with
      | none => (.notFound, none, store)
      | some batch =>
        match leaseDecision batch owner leaseSeconds maxAttempts now with
        | (.acquired, leased) =>
          (.acquired, some (job, leased),
            { store with batches := putBatch store.batches leased })
        | (answer, _) => (answer, none, store)

/-- What a delivery writes: a result, or only the time spent when it raised. -/
inductive BatchWrite where
  | result (result : BatchResult)
  | release

/-- Batch after a write. -/
def BatchRecord.write (batch : BatchRecord) (write : BatchWrite) (durationMs now : Nat) :
    BatchRecord :=
  match write with
  | .result result =>
    { batch with
      toBatchResult := result
      state := resultState result
      leaseOwner := none
      leaseExpiresAt := none
      durationMs := durationMs
      completedAt := some now
      updatedAt := now }
  | .release =>
    { batch with
      state := .incomplete
      leaseOwner := none
      leaseExpiresAt := none
      durationMs := durationMs
      updatedAt := now }

/-- Whether a completion under an owner's name takes effect. -/
def ImpactStore.accepts (store : ImpactStore) (batchNo : Nat) (owner : String) : Bool :=
  (store.getBatch batchNo).any fun batch =>
    batch.state = .leased && batch.leaseOwner = some owner

/-- `complete_batch`. -/
def ImpactStore.completeBatch (store : ImpactStore) (batchNo : Nat) (owner : String)
    (write : BatchWrite) (durationMs now : Nat) : ImpactStore :=
  match store.getBatch batchNo with
  | some batch =>
    if batch.state = .leased ∧ batch.leaseOwner = some owner then
      { store with batches := putBatch store.batches (batch.write write durationMs now) }
    else store
  | none => store

/-- `finalize_job`: the stored aggregate when another one came first, and the store. -/
def ImpactStore.finalizeJob (store : ImpactStore) (status : ImpactStatus)
    (aggregate : ImpactAggregate) (now : Nat) : Option (Option ImpactAggregate) × ImpactStore :=
  match store.job with
  | none => (none, store)
  | some job =>
    if job.finalizedAt.isSome then (some job.aggregate, store)
    else
      (none, { store with
        job := some { job with
          status := status
          aggregate := some aggregate
          finalizedAt := some now } })

end RateGuard
