import RateGuard.Scan.System

/-!
# What a step does to the batches

A step leaves batches and deliveries alone, ensures the batches of a job, grants one
lease to a new delivery, or lets one delivery write to the batch it holds. Everything
proved about batches follows from these cases.
-/

open Transition

namespace RateGuard

/-- What a delivery may write to its batch. -/
inductive Delivery.Writes (plan : ScanPlan) (delivery : Delivery) : BatchWrite → Prop
  | release : Delivery.Writes plan delivery .release
  | result (target : Target) (result : BatchResult)
      (executed : execute plan.config plan.source delivery.job target delivery.batch =
        some result) : Delivery.Writes plan delivery (.result result)

/-- What a step does to batches and deliveries. -/
inductive BatchMove (plan : ScanPlan) (before : ScanState) (event : ScanEvent)
    (after : ScanState) : Prop
  | frame (batches : after.store.batches = before.store.batches)
      (deliveries : after.deliveries.Sublist before.deliveries)
  | ensure (job : ImpactJob) (planned : .planned job ∈ before.coordinators)
      (batches : after.store.batches =
        ensureBatches before.now before.store.batches (batchSpecs plan.config job))
      (deliveries : after.deliveries = before.deliveries)
  | lease (index : Nat) (message : BatchMessage) (job : ImpactJob) (batch : BatchRecord)
      (delivers : event = .deliver index) (sent : before.messages[index]? = some message) (stored : before.store.job = some job)
      (opened : job.status.isTerminal = false ∧ job.cancelRequested = false)
      (found : before.store.getBatch message.batchNo = some batch)
      (unfinished : batch.state ≠ .done) (free : batch.heldAt before.now = false)
      (attempts : batch.attempts < plan.config.maxBatchAttempts)
      (batches : after.store.batches = putBatch before.store.batches
        (batch.lease message.owner (leaseSeconds plan.config) before.now))
      (deliveries : after.deliveries = before.deliveries ++
        [⟨message.owner, job, batch.lease message.owner (leaseSeconds plan.config) before.now⟩])
  | write (index : Nat) (delivery : Delivery) (completes : event.completes? = some index)
      (working : before.deliveries[index]? = some delivery) (write : BatchWrite)
      (writes : delivery.Writes plan write) (durationMs : Nat) (batch : BatchRecord)
      (found : before.store.getBatch delivery.batch.batchNo = some batch)
      (held : batch.state = .leased ∧ batch.leaseOwner = some delivery.owner)
      (batches : after.store.batches = putBatch before.store.batches
        (batch.write write durationMs before.now))
      (deliveries : after.deliveries = before.deliveries.eraseIdx index)

/-- A delivery that ends writes to the batch it holds, or only leaves. -/
theorem finishDelivery_move {plan : ScanPlan} {state : ScanState} {event : ScanEvent}
    {index : Nat} {delivery : Delivery} (completes : event.completes? = some index)
    (working : state.deliveries[index]? = some delivery)
    {write : BatchWrite} (writes : delivery.Writes plan write) (durationMs : Nat) :
    BatchMove plan state event (finishDelivery state index delivery write durationMs) := by
  cases found : state.store.getBatch delivery.batch.batchNo with
  | none =>
    refine .frame ?_ (List.eraseIdx_sublist _ _)
    simp only [finishDelivery, ImpactStore.completeBatch, found]
  | some batch =>
    by_cases held : batch.state = .leased ∧ batch.leaseOwner = some delivery.owner
    · refine .write index delivery completes working write writes durationMs batch found held ?_ rfl
      simp only [finishDelivery, ImpactStore.completeBatch, found, if_pos held]
    · refine .frame ?_ (List.eraseIdx_sublist _ _)
      simp only [finishDelivery, ImpactStore.completeBatch, found, if_neg held]

/-- A processed batch is written as the delivery may write it. -/
theorem Delivery.outcome_writes (plan : ScanPlan) (delivery : Delivery) (target : Target) :
    delivery.Writes plan (delivery.outcome plan target) := by
  unfold Delivery.outcome
  cases executed : execute plan.config plan.source delivery.job target delivery.batch with
  | none => exact .release
  | some result => exact .result target result executed

/-- A delivered message grants a lease, or changes nothing. -/
theorem deliver_move (plan : ScanPlan) (state : ScanState) (index : Nat) :
    BatchMove plan state (.deliver index) (deliver plan state index) := by
  unfold deliver
  cases sent : state.messages[index]? with
  | none => exact .frame rfl (.refl _)
  | some message =>
    cases stored : state.store.job with
    | none =>
      simp only [ImpactStore.leaseBatch, stored]
      exact .frame rfl (.refl _)
    | some job =>
      by_cases closed : (job.status.isTerminal || job.cancelRequested) = true
      · simp only [ImpactStore.leaseBatch, stored, closed, if_true]
        exact .frame rfl (.refl _)
      · have opened : job.status.isTerminal = false ∧ job.cancelRequested = false := by
          simpa using closed
        cases found : state.store.getBatch message.batchNo with
        | none =>
          simp only [ImpactStore.leaseBatch, stored, found, if_neg closed]
          exact .frame rfl (.refl _)
        | some batch =>
          by_cases finished : batch.state = .done
          · simp only [ImpactStore.leaseBatch, stored, found, if_neg closed, leaseDecision,
              if_pos finished]
            exact .frame rfl (.refl _)
          · cases held : batch.heldAt state.now with
            | true =>
              simp only [ImpactStore.leaseBatch, stored, found, if_neg closed, leaseDecision,
                if_neg finished, held, if_true]
              exact .frame rfl (.refl _)
            | false =>
              by_cases exhausted : plan.config.maxBatchAttempts ≤ batch.attempts
              · simp only [ImpactStore.leaseBatch, stored, found, if_neg closed, leaseDecision,
                  if_neg finished, held, if_pos exhausted, Bool.false_eq_true, if_false]
                exact .frame rfl (.refl _)
              · simp only [ImpactStore.leaseBatch, stored, found, if_neg closed, leaseDecision,
                  if_neg finished, held, if_neg exhausted, Bool.false_eq_true, if_false]
                exact .lease index message job batch rfl sent stored opened found finished held
                  (Nat.lt_of_not_le exhausted) rfl rfl

/-- A starting coordinator ensures the batches of its job, or changes no batch. -/
theorem startCoordinator_move (plan : ScanPlan) (state : ScanState) (index : Nat) :
    BatchMove plan state (.start index) (startCoordinator plan state index) := by
  unfold startCoordinator
  split
  · rename_i job here
    split
    · exact .frame rfl (.refl _)
    · exact .ensure job (List.mem_of_getElem? here) rfl rfl
  · exact .frame rfl (.refl _)

/-- Every step is one of the moves. -/
theorem scanStep_move (plan : ScanPlan) (state : ScanState) (event : ScanEvent) :
    BatchMove plan state event (scanStep plan state event) := by
  cases event with
  | tick elapsed => exact .frame rfl (.refl _)
  | cancel => exact .frame rfl (.refl _)
  | plan capability =>
    refine .frame ?_ (.refl _)
    simp only [scanStep, ImpactStore.createJob]
    split <;> rfl
  | start index => exact startCoordinator_move plan state index
  | poll index cancellation =>
    simp only [scanStep, pollCoordinator]
    split
    · split
      · exact .frame rfl (.refl _)
      · split <;> exact .frame rfl (.refl _)
    · exact .frame rfl (.refl _)
  | dispatch index backoff owner published raised =>
    simp only [scanStep, dispatchBatch]
    split
    · split <;> exact .frame rfl (.refl _)
    · exact .frame rfl (.refl _)
  | stop index =>
    simp only [scanStep, stopCoordinator]
    split <;> exact .frame rfl (.refl _)
  | read index =>
    simp only [scanStep, readJob]
    split <;> exact .frame rfl (.refl _)
  | aggregate index =>
    simp only [scanStep, aggregateBatches]
    split <;> exact .frame rfl (.refl _)
  | finalize index =>
    simp only [scanStep, storeAggregate]
    split
    · refine .frame ?_ (.refl _)
      simp only [ImpactStore.finalizeJob]
      split
      · rfl
      · split <;> rfl
    · exact .frame rfl (.refl _)
  | abandon index => exact .frame rfl (.refl _)
  | deliver index => exact deliver_move plan state index
  | acknowledge index => exact .frame rfl (.refl _)
  | process index target durationMs =>
    simp only [scanStep]
    split
    · rename_i delivery working
      exact finishDelivery_move rfl working (delivery.outcome_writes plan target) durationMs
    · exact .frame rfl (.refl _)
  | crash index durationMs =>
    simp only [scanStep]
    split
    · rename_i delivery working
      exact finishDelivery_move rfl working .release durationMs
    · exact .frame rfl (.refl _)
  | die index => exact .frame rfl (List.eraseIdx_sublist _ _)

end RateGuard
