import RateGuard.Scan.Joining
import RateGuard.Scan.Ledger

/-!
# Halts for connector failures

The halting test counts batches by their records, which do not say where a row failed. A row that is
left uncompared failed in the oracle, at an unresolved connector, or in a request that was sent; the
circuit breaker refuses the rest of a batch only after such a request. So a halt is the connector's
whenever three of the counted batches have a row that did not fail before the connector was called.
-/

open DecimalFloat KeyedList Outcome Transition

namespace RateGuard

/-- Code of a row that the oracle does not price. -/
def localFailure : String := "LOCAL_CALCULATION_ERROR"

/-- Codes of a connector that is not resolved. -/
def resolverCodes : List String :=
  ["CONNECTOR_NOT_REGISTERED", "CONNECTOR_ENGINE_VERSION_NOT_ALLOWED"]

/-- Whether a row of a chunk that was sent failed permanently at the connector. -/
def ChunkReply.FailsPermanently (reply : ChunkReply) (row : PendingRow) : Prop :=
  match reply with
  | batch _ answers => ∃ answer code, lastWith (·.1) answers (itemId row.index) = some answer ∧
      itemAnswer answer.2 = .error code false
  | quote premium => ∃ code, parsePremium premium = .error code false
  | refused code transient => transient = false ∨ isSystemicPermanent code = true
  | cancelled | circuitOpen _ | raised => False

section Breaker

/-- A request was sent and refused by a failure that lasts. -/
def RemoteRun.Refused (job : RemoteJob) (run : RemoteRun) (code : String) : Prop :=
  isSystemicPermanent code = true ∧ ∃ position items transient,
    job.chunks[position]? = some items ∧ (position, .refused code transient) ∈ run.replies

/-- The breaker is tripped only by requests that were sent and refused. -/
structure TripsBySending (job : RemoteJob) (run : RemoteRun) : Prop where
  /-- The breaker's code is one of a refusal. -/
  breaker : ∀ code, run.breaker.permanentCode = some code → run.Refused job code
  /-- So is the code that chunks are refused by. -/
  replies : ∀ position code, (position, .circuitOpen (some code)) ∈ run.replies →
    run.Refused job code

/-- A refusal is remembered. -/
theorem RemoteRun.Refused.mono {job : RemoteJob} {run after : RemoteRun} {code : String}
    (refused : run.Refused job code) (more : ∀ reply ∈ run.replies, reply ∈ after.replies) :
    after.Refused job code := by
  obtain ⟨systemic, position, items, transient, chunk, member⟩ := refused
  exact ⟨systemic, position, items, transient, chunk, more _ member⟩

/-- What the breaker records trips it only by a lasting refusal. -/
theorem use_breakerCall {breaker : CircuitBreaker} {now : ℚ} {reply : ChunkReply}
    {answers : List (Nat × RemoteResult)} {code : String}
    (tripped : (breaker.use now (reply.breakerCall answers)).permanentCode = some code) :
    breaker.permanentCode = some code ∨
      isSystemicPermanent code = true ∧ ∃ transient, reply = .refused code transient := by
  have failed : ∀ other,
      (breaker.use now (.failure other false)).permanentCode = some code →
      breaker.permanentCode = some code ∨ isSystemicPermanent code = true ∧ other = code := by
    intro other recorded
    unfold CircuitBreaker.use at recorded
    dsimp only at recorded
    cases systemic : isSystemicPermanent other with
    | true =>
      rw [recordFailure_systemic (by rw [systemic]; rfl)] at recorded
      obtain rfl := Option.some.inj recorded
      exact .inr ⟨systemic, rfl⟩
    | false =>
      rw [recordFailure_counted (by rw [systemic]; rfl)] at recorded
      split at recorded
      · exact .inl recorded
      · exact .inl recorded
  cases reply with
  | refused other transient =>
    rcases failed other tripped with before | ⟨systemic, rfl⟩
    · exact .inl before
    · exact .inr ⟨systemic, transient, rfl⟩
  | batch revision items =>
    unfold ChunkReply.breakerCall at tripped
    dsimp only at tripped
    split at tripped
    · rcases failed _ tripped with before | ⟨systemic, rfl⟩
      · exact .inl before
      · exact absurd systemic (by decide)
    · exact .inl tripped
  | cancelled => exact .inl tripped
  | circuitOpen permanent => exact .inl tripped
  | quote premium => exact .inl tripped
  | raised => exact .inl tripped

/-- Every step keeps that the breaker is tripped by sending. -/
theorem tripsBySending_step {job : RemoteJob} (run : RemoteRun) (event : RemoteEvent)
    (trips : TripsBySending job run) : TripsBySending job (run.step job event) := by
  have moves := step_remoteMove job run event
  generalize run.step job event = after at moves
  cases moves with
  | stays _ results replies arrivals raised permanent phases =>
    have more : ∀ reply ∈ run.replies, reply ∈ after.replies := by
      rw [replies]
      exact fun _ member => member
    refine ⟨fun code tripped => ?_, fun position code member => ?_⟩
    · rw [permanent] at tripped
      exact (trips.breaker code tripped).mono more
    · rw [replies] at member
      exact (trips.replies position code member).mono more
  | ends position items phase breaker arrivals reply here unfinished chunk ending =>
    obtain ⟨-, replies, -, breakerEq, -, -⟩ :=
      finish_eq { run with breaker, arrivals } job position items reply
    generalize RemoteRun.finish { run with breaker, arrivals } job position items reply = after
      at replies breakerEq
    have more : ∀ old ∈ run.replies, old ∈ after.replies := by
      rw [replies]
      exact fun _ member => List.mem_append_left _ member
    have own : (position, reply) ∈ after.replies := by
      rw [replies]
      exact List.mem_append_right _ List.mem_cons_self
    refine ⟨fun code tripped => ?_, fun other code member => ?_⟩
    · rw [breakerEq] at tripped
      cases ending with
      | cancelled => exact (trips.breaker code tripped).mono more
      | refused now =>
        dsimp only at tripped
        rw [allow_permanentCode] at tripped
        exact (trips.breaker code tripped).mono more
      | arrived now arrival =>
        dsimp only at tripped
        unfold RemoteRun.record at tripped
        split at tripped
        · exact (trips.breaker code tripped).mono more
        · rcases use_breakerCall tripped with before | ⟨systemic, transient, same⟩
          · exact (trips.breaker code before).mono more
          · exact ⟨systemic, position, items, transient, chunk, same ▸ own⟩
    · rw [replies] at member
      rcases List.mem_append.mp member with old | new
      · exact (trips.replies other code old).mono more
      · have pair := List.mem_singleton.mp new
        have same : ChunkReply.circuitOpen (some code) = reply := congrArg Prod.snd pair
        cases ending with
        | cancelled => cases same
        | refused now =>
          have permanent : some code = (run.breaker.allow now).2.permanentCode := by
            injection same
          rw [allow_permanentCode] at permanent
          exact (trips.breaker code permanent.symm).mono more
        | arrived now arrival =>
          -- What arrives is never an open circuit.
          have never : ∀ permanent, job.receive items arrival ≠ .circuitOpen permanent := by
            intro permanent equal
            cases arrival with
            | raised => cases equal
            | refused error => cases equal
            | quote body =>
              unfold RemoteJob.receive at equal
              dsimp only at equal
              split at equal
              · cases equal
              · split at equal <;> cases equal
            | batch body =>
              unfold RemoteJob.receive at equal
              dsimp only at equal
              split at equal <;> cases equal
          exact absurd same.symm (never _)

/-- In every pricing the breaker is tripped by sending. -/
theorem tripsBySending_run (job : RemoteJob) (events : List RemoteEvent) :
    TripsBySending job (run (RemoteRun.step job) (.start job none) events) :=
  run_invariant (TripsBySending job) tripsBySending_step
    ⟨fun _ tripped => (by cases tripped), fun _ _ member => absurd member List.not_mem_nil⟩ events

end Breaker

/-- Whether a target behaves as the chunks of some rows do in a pricing: an unresolved connector
has one of the resolver's codes, and otherwise every chunk gets what became of it. -/
def Target.Realised (target : Target) (batchMax batchSize : Nat) (pending : List PendingRow) :
    Prop :=
  match target.unregistered with
  | some code => code ∈ resolverCodes
  | none => ∃ (job : RemoteJob) (events : List RemoteEvent), job.batchMax = batchMax ∧
      job.batchSize = batchSize ∧ job.pending = pending ∧
      ∀ position items, job.chunks[position]? = some items →
        (∃ reply, (position, reply) ∈
          (run (RemoteRun.step job) (.start job none) events).replies) ∧
        ∀ reply, (position, reply) ∈
          (run (RemoteRun.step job) (.start job none) events).replies → target.reply items = reply

/-- A chunk refused for good by the breaker of a realised target has another that was sent and
failed permanently. -/
theorem Target.Realised.sent {target : Target} {batchMax batchSize : Nat}
    {pending : List PendingRow} (realised : target.Realised batchMax batchSize pending)
    (registered : target.unregistered = none) {items : List PendingRow}
    (member : items ∈ chunks (chunkSize batchMax batchSize) pending) {code : String}
    (opened : target.reply items = .circuitOpen (some code)) :
    ∃ other ∈ chunks (chunkSize batchMax batchSize) pending, ∃ row ∈ other,
      (target.reply other).FailsPermanently row := by
  unfold Target.Realised at realised
  rw [registered] at realised
  obtain ⟨job, events, rfl, rfl, rfl, behaves⟩ := realised
  obtain ⟨position, inside, same⟩ := List.mem_iff_getElem.mp member
  have here : job.chunks[position]? = some items := by
    rw [← same]
    exact List.getElem?_eq_getElem inside
  obtain ⟨⟨reply, ended⟩, only⟩ := behaves position items here
  rw [← only reply ended, opened] at ended
  obtain ⟨systemic, place, others, transient, chunk, refused⟩ :=
    (tripsBySending_run job events).replies position code ended
  have reply := (behaves place others chunk).2 _ refused
  have listed : others ∈ job.chunks := List.mem_of_getElem? chunk
  have nonempty : others ≠ [] :=
    (mem_chunksWithin (chunkSize_pos job.batchMax job.batchSize).1 listed).1
  obtain ⟨row, rest, rfl⟩ := List.exists_cons_of_ne_nil nonempty
  refine ⟨_, listed, row, List.mem_cons_self, ?_⟩
  rw [reply]
  exact .inr systemic

section Rows

/-- A row that a chunk leaves without a premium for good failed there, or the breaker refused its
chunk for good. -/
theorem sendChunk_permanent {target : Target} {batchMax : Nat} {items : List PendingRow}
    {report : RemoteReport} (sent : sendChunk target batchMax items = some report)
    {entry : Nat × RemoteResult} (member : entry ∈ report.results) {code : String}
    (failed : entry.2 = .error code false) :
    (∃ row ∈ items, (target.reply items).FailsPermanently row) ∨
      ∃ permanent, target.reply items = .circuitOpen (some permanent) := by
  unfold sendChunk at sent
  cases reply : target.reply items with
  | cancelled =>
    rw [reply] at sent
    cases sent
    obtain ⟨item, -, rfl⟩ := List.mem_map.mp member
    cases failed
  | circuitOpen permanent =>
    rw [reply] at sent
    cases sent
    obtain ⟨item, -, rfl⟩ := List.mem_map.mp member
    cases permanent with
    | none => cases failed
    | some other => exact .inr ⟨other, rfl⟩
  | raised =>
    rw [reply] at sent
    cases sent
  | refused other transient =>
    rw [reply] at sent
    cases sent
    obtain ⟨item, inside, rfl⟩ := List.mem_map.mp member
    refine .inl ⟨item, inside, .inl ?_⟩
    injection failed
  | quote premium =>
    rw [reply] at sent
    dsimp only at sent
    split at sent
    · cases sent
      obtain ⟨item, inside, rfl⟩ := List.mem_map.mp member
      exact .inl ⟨item, inside, code, failed⟩
    · cases sent
  | batch revision answers =>
    rw [reply] at sent
    dsimp only at sent
    split at sent
    · cases sent
    · obtain ⟨results, each, made⟩ := Option.bind_eq_some_iff.mp sent
      cases made
      obtain ⟨item, inside, one⟩ := exists_left (mapM_eq_some each) member
      obtain ⟨answer, found, made⟩ := Option.bind_eq_some_iff.mp one
      cases made
      exact .inl ⟨item, inside, answer, code, found, failed⟩

/-- A pending row left without a premium for good has the code of an unresolved connector, or a row
of one of the chunks failed for good, or the breaker refused a chunk for good. -/
theorem remote_permanent {target : Target} {batchMax batchSize : Nat} {pending : List PendingRow}
    {report : RemoteReport} (priced : remote target batchMax batchSize pending = some report)
    {entry : Nat × RemoteResult} (member : entry ∈ report.results) {code : String}
    (failed : entry.2 = .error code false) :
    target.unregistered = some code ∨
      target.unregistered = none ∧ ∃ items ∈ chunks (chunkSize batchMax batchSize) pending,
        (∃ row ∈ items, (target.reply items).FailsPermanently row) ∨
          ∃ permanent, target.reply items = .circuitOpen (some permanent) := by
  unfold remote at priced
  split at priced
  · cases priced
    cases member
  · split at priced
    · next other unregistered =>
      cases priced
      obtain ⟨item, -, rfl⟩ := List.mem_map.mp member
      left
      rw [unregistered]
      injection failed with same
      rw [same]
    · next registered =>
      obtain ⟨reports, each, made⟩ := Option.bind_eq_some_iff.mp priced
      cases made
      obtain ⟨part, among, inside⟩ := List.mem_flatMap.mp member
      obtain ⟨items, listed, sent⟩ := exists_left (mapM_eq_some each) among
      exact .inr ⟨registered, items, listed, sendChunk_permanent sent inside failed⟩

/-- Pending rows of a delivery. -/
def Delivery.pendingRows (plan : ScanPlan) (delivery : Delivery) : List PendingRow :=
  ((delivery.batch.indexes.mapM (plan.source.screen delivery.job.product)).getD []).filterMap
    (·.pending?)

/-- Chunks of a delivery. -/
def Delivery.chunks (plan : ScanPlan) (delivery : Delivery) : List (List PendingRow) :=
  RateGuard.chunks (chunkSize delivery.job.batchMaxItems plan.config.batchSize)
    (delivery.pendingRows plan)

/-- A row of a delivery was sent to the connector and failed permanently there. -/
def Delivery.FailsThere (plan : ScanPlan) (delivery : Delivery) (target : Target) : Prop :=
  target.unregistered = none ∧ ∃ items ∈ delivery.chunks plan, ∃ row ∈ items,
    (target.reply items).FailsPermanently row

/-- A row that the oracle does not price has the code of that. -/
theorem screen_settled {source : ScanSource} {product : String} {index : Nat} {row : ScannedRow}
    (screened : source.screen product index = some (.settled row)) {code : String}
    {transient : Bool} (uncompared : row.kind = .inconclusive code transient) :
    code = localFailure := by
  unfold ScanSource.screen at screened
  obtain ⟨policy, -, screened⟩ := Option.bind_eq_some_iff.mp screened
  split at screened
  · cases screened
    cases uncompared
  · split at screened
    · cases screened
    · cases screened
      cases uncompared
    · cases screened
      cases uncompared
      rfl

/-- A row that is not compared after pricing has the error of its answer. -/
theorem compareRow_uncompared {tolerance : FiniteDecimal} {results : List (Nat × RemoteResult)}
    {row : PendingRow} {scanned : ScannedRow}
    (compared : compareRow tolerance results row = some scanned) {code : String}
    {transient : Bool} (uncompared : scanned.kind = .inconclusive code transient) :
    ∃ entry ∈ results, entry.2 = .error code transient := by
  unfold compareRow at compared
  obtain ⟨answer, found, compared⟩ := Option.bind_eq_some_iff.mp compared
  obtain ⟨inside, -⟩ := lastWith_eq_some found
  split at compared
  · obtain ⟨differs, -, compared⟩ := Option.bind_eq_some_iff.mp compared
    split at compared
    · cases compared
      cases uncompared
    · cases compared
      cases uncompared
  · next error =>
    cases compared
    cases uncompared
    exact ⟨answer, inside, error⟩

/-- A row that an attempt of a realised target leaves uncompared for good was left so before, failed
in the oracle or at an unresolved connector, or a row failed permanently at the connector. -/
theorem execute_permanent {plan : ScanPlan} {delivery : Delivery} {target : Target}
    (realised : target.Realised delivery.job.batchMaxItems plan.config.batchSize
      (delivery.pendingRows plan))
    {result : BatchResult}
    (executed : execute plan.config plan.source delivery.job target delivery.batch = some result)
    {row : InconclusiveRow} (member : row ∈ result.inconclusive)
    (permanent : row.transient = false) :
    row ∈ delivery.batch.inconclusive ∨ row.code = localFailure ∨ row.code ∈ resolverCodes ∨
      delivery.FailsThere plan target := by
  obtain ⟨screened, screening, executed⟩ := Option.bind_eq_some_iff.mp executed
  obtain ⟨report, priced, executed⟩ := Option.bind_eq_some_iff.mp executed
  obtain ⟨compared, comparing, executed⟩ := Option.bind_eq_some_iff.mp executed
  cases executed
  have pending : delivery.pendingRows plan = screened.filterMap (·.pending?) := by
    unfold Delivery.pendingRows
    rw [screening]
    rfl
  have listed : row ∈ delivery.batch.base.inconclusive ++
      (screened.filterMap (·.settled?) ++ compared).filterMap (·.inconclusive?) :=
    (List.perm_insertionSort _ _).mem_iff.mp member
  rcases List.mem_append.mp listed with kept | new
  · left
    unfold BatchRecord.base at kept
    split at kept
    · cases kept
    · exact (List.mem_filter.mp kept).1
  · obtain ⟨scanned, among, reads⟩ := List.mem_filterMap.mp new
    have kind : scanned.kind = .inconclusive row.code false := by
      unfold ScannedRow.inconclusive? at reads
      split at reads
      · next code transient kind =>
        cases reads
        rw [kind]
        exact congrArg _ permanent
      · cases reads
    rcases List.mem_append.mp among with settled | priced'
    · obtain ⟨screen, inside, settles⟩ := List.mem_filterMap.mp settled
      obtain ⟨index, -, found⟩ := exists_left (mapM_eq_some screening) inside
      cases screen with
      | settled row =>
        cases settles
        exact .inr (.inl (screen_settled found kind))
      | pending row => cases settles
    · obtain ⟨item, -, found⟩ := exists_left (mapM_eq_some comparing) priced'
      obtain ⟨entry, answered, failed⟩ := compareRow_uncompared found kind
      rcases remote_permanent priced answered failed with unregistered |
        ⟨registered, items, chunk, ends⟩
      · refine .inr (.inr (.inl ?_))
        unfold Target.Realised at realised
        rw [unregistered] at realised
        exact realised
      · refine .inr (.inr (.inr ⟨registered, ?_⟩))
        unfold Delivery.chunks
        rw [pending] at realised ⊢
        rcases ends with failing | ⟨code, opened⟩
        · exact ⟨items, chunk, failing⟩
        · exact realised.sent registered chunk opened

end Rows

section Runs

variable {plan : ScanPlan}

/-- In some step of a run a row of a batch was sent to the connector and failed permanently. -/
def FailedThere (plan : ScanPlan) (events : List ScanEvent) (batchNo : Nat) : Prop :=
  ∃ before index target durationMs after delivery,
    events = before ++ .process index target durationMs :: after ∧
      (scanRun plan before).deliveries[index]? = some delivery ∧
      delivery.batch.batchNo = batchNo ∧ delivery.FailsThere plan target

/-- A failure of a run is one of every longer run. -/
theorem FailedThere.mono {events : List ScanEvent} {batchNo : Nat}
    (failed : FailedThere plan events batchNo) (event : ScanEvent) :
    FailedThere plan (events ++ [event]) batchNo := by
  obtain ⟨before, index, target, durationMs, after, delivery, rfl, working, same, fails⟩ := failed
  refine ⟨before, index, target, durationMs, after ++ [event], delivery, ?_, working, same, fails⟩
  rw [List.append_assoc, List.cons_append]

/-- Whether a permanently uncompared row failed before the connector was called, or its batch has a
row that failed there. -/
def Attributed (plan : ScanPlan) (events : List ScanEvent) (batchNo : Nat)
    (rows : List InconclusiveRow) : Prop :=
  ∀ row ∈ rows, row.transient = false →
    row.code = localFailure ∨ row.code ∈ resolverCodes ∨ FailedThere plan events batchNo

/-- Whether all batches and leased copies are attributed. -/
structure RowsAttributed (plan : ScanPlan) (events : List ScanEvent) (state : ScanState) :
    Prop where
  /-- Stored batches. -/
  batches : ∀ batch ∈ state.store.batches,
    Attributed plan events batch.batchNo batch.inconclusive
  /-- Leased copies. -/
  deliveries : ∀ delivery ∈ state.deliveries,
    Attributed plan events delivery.batch.batchNo delivery.batch.inconclusive

/-- What is attributed stays so. -/
theorem RowsAttributed.mono {events : List ScanEvent} {state : ScanState}
    (attributed : RowsAttributed plan events state) (event : ScanEvent) :
    RowsAttributed plan (events ++ [event]) state :=
  ⟨fun batch member row inside permanent =>
      (attributed.batches batch member row inside permanent).imp_right
        (.imp_right fun failed => failed.mono event),
    fun delivery member row inside permanent =>
      (attributed.deliveries delivery member row inside permanent).imp_right
        (.imp_right fun failed => failed.mono event)⟩

/-- A write of attributed rows keeps everything attributed. -/
theorem attributed_finish {events : List ScanEvent} {state : ScanState}
    (attributed : RowsAttributed plan events state) {index : Nat} {delivery : Delivery}
    {write : BatchWrite} {durationMs : Nat}
    (written : ∀ result, write = .result result →
      Attributed plan events delivery.batch.batchNo result.inconclusive) :
    RowsAttributed plan events (finishDelivery state index delivery write durationMs) := by
  refine ⟨fun batch member => ?_, fun other member => ?_⟩
  · unfold finishDelivery ImpactStore.completeBatch at member
    dsimp only at member
    split at member
    · next found here =>
      obtain ⟨stored, number⟩ := ImpactStore.getBatch_eq_some here
      split at member
      · rcases mem_putBatch member with rfl | ⟨old, -⟩
        · cases write with
          | release => exact attributed.batches found stored
          | result result =>
            have same : (found.write (.result result) durationMs state.now).batchNo =
                delivery.batch.batchNo := number
            rw [same]
            exact written result rfl
        · exact attributed.batches batch old
      · exact attributed.batches batch member
    · exact attributed.batches batch member
  · exact attributed.deliveries other ((List.eraseIdx_sublist _ _).subset member)

/-- Whether the target of a processing step is a realised one. -/
def RealisedTargets (plan : ScanPlan) (state : ScanState) (event : ScanEvent) : Prop :=
  ∀ index target durationMs delivery, event = .process index target durationMs →
    state.deliveries[index]? = some delivery →
    target.Realised delivery.job.batchMaxItems plan.config.batchSize (delivery.pendingRows plan)

/-- A step that lets no delivery write keeps everything attributed. -/
theorem attributed_move {events : List ScanEvent} {state after : ScanState} {event : ScanEvent}
    (attributed : RowsAttributed plan events state) (sound : state.Sound plan)
    (silent : event.completes? = none) (move : BatchMove plan state event after) :
    RowsAttributed plan events after := by
  cases move with
  | frame batches deliveries =>
    refine ⟨fun batch member => ?_, fun delivery member =>
      attributed.deliveries delivery (deliveries.subset member)⟩
    rw [batches] at member
    exact attributed.batches batch member
  | ensure job waiting batches deliveries =>
    refine ⟨fun batch member => ?_, fun delivery member => ?_⟩
    · have specs := (sound.planned.coordinators job waiting).specs
      rw [batches, specs] at member
      rcases sound.slices with none | slices
      · rw [none, ensureBatches_of_missing state.now plan.slices_distinct
          (fun _ _ => List.forall_mem_nil _), List.nil_append] at member
        obtain ⟨spec, -, rfl⟩ := List.mem_map.mp member
        exact fun row inside => absurd inside List.not_mem_nil
      · rw [ensureBatches_of_existing] at member
        · exact attributed.batches batch member
        · intro spec listed
          rw [← slices] at listed
          obtain ⟨other, inside, rfl⟩ := List.mem_map.mp listed
          exact ⟨other, inside, rfl⟩
    · rw [deliveries] at member
      exact attributed.deliveries delivery member
  | lease index message job batch delivers sent stored opened found unfinished free attempts
      batches deliveries =>
    obtain ⟨inside, -⟩ := ImpactStore.getBatch_eq_some found
    have leased : Attributed plan events
        (batch.lease message.owner (leaseSeconds plan.config) state.now).batchNo
        (batch.lease message.owner (leaseSeconds plan.config) state.now).inconclusive :=
      attributed.batches batch inside
    refine ⟨fun other member => ?_, fun delivery member => ?_⟩
    · rw [batches] at member
      rcases mem_putBatch member with rfl | ⟨old, -⟩
      · exact leased
      · exact attributed.batches other old
    · rw [deliveries] at member
      rcases List.mem_append.mp member with old | new
      · exact attributed.deliveries delivery old
      · rw [List.mem_singleton.mp new]
        exact leased
  | write index delivery completes working write writes durationMs batch found held batches
      deliveries =>
    rw [silent] at completes
    cases completes

/-- The run with one more step. -/
theorem scanRun_snoc (plan : ScanPlan) (events : List ScanEvent) (event : ScanEvent) :
    scanRun plan (events ++ [event]) = scanStep plan (scanRun plan events) event := by
  rw [scanRun, run_append]
  rfl

/-- A step with realised targets keeps everything attributed. -/
theorem attributed_step {events : List ScanEvent} {event : ScanEvent}
    (realised : RealisedTargets plan (scanRun plan events) event)
    (attributed : RowsAttributed plan events (scanRun plan events)) :
    RowsAttributed plan (events ++ [event]) (scanRun plan (events ++ [event])) := by
  have later := attributed.mono event
  rw [scanRun_snoc]
  by_cases silent : event.completes? = none
  · exact attributed_move later (scanRun_sound plan events) silent
      (scanStep_move plan (scanRun plan events) event)
  · cases event with
    | process index target durationMs =>
      unfold scanStep
      dsimp only
      cases working : (scanRun plan events).deliveries[index]? with
      | none => exact later
      | some delivery =>
        refine attributed_finish later fun result written => ?_
        unfold Delivery.outcome at written
        cases executed : execute plan.config plan.source delivery.job target delivery.batch with
        | none =>
          rw [executed] at written
          cases written
        | some outcome =>
          rw [executed] at written
          cases written
          intro row member permanent
          rcases execute_permanent (realised index target durationMs delivery rfl working) executed
            member permanent with before | early | unresolved | fails
          · exact later.deliveries delivery (List.mem_of_getElem? working) row before permanent
          · exact .inl early
          · exact .inr (.inl unresolved)
          · exact .inr (.inr ⟨events, index, target, durationMs, [], delivery, rfl, working, rfl,
              fails⟩)
    | crash index durationMs =>
      unfold scanStep
      dsimp only
      cases working : (scanRun plan events).deliveries[index]? with
      | none => exact later
      | some delivery => exact attributed_finish later fun result written => by cases written
    | tick elapsed => exact absurd rfl silent
    | cancel => exact absurd rfl silent
    | plan capability => exact absurd rfl silent
    | start coordinator => exact absurd rfl silent
    | poll coordinator cancellation => exact absurd rfl silent
    | dispatch coordinator backoff owner published raised => exact absurd rfl silent
    | stop coordinator => exact absurd rfl silent
    | read coordinator => exact absurd rfl silent
    | aggregate coordinator => exact absurd rfl silent
    | finalize coordinator => exact absurd rfl silent
    | abandon coordinator => exact absurd rfl silent
    | deliver message => exact absurd rfl silent
    | acknowledge message => exact absurd rfl silent
    | die delivery => exact absurd rfl silent

/-- In a run with realised targets everything is attributed. -/
theorem attributed_run {events : List ScanEvent}
    (realised : Along (scanStep plan) (RealisedTargets plan) .initial events) :
    RowsAttributed plan events (scanRun plan events) := by
  induction events using List.reverseRecOn with
  | nil => exact ⟨List.forall_mem_nil _, List.forall_mem_nil _⟩
  | append_singleton events event ih =>
    obtain ⟨earlier, last, -⟩ := along_append.mp realised
    exact attributed_step last (ih earlier)

end Runs

section Reasons

variable {plan : ScanPlan}

/-- Reason of a halt for connector failures. -/
def permanentHalt : String := "CONNECTOR_PERMANENT_FAILURE"

/-- Reason that a coordinator has for a halt. -/
def Coordinator.haltReason : Coordinator → Option String
  | .planned job => job.haltReason
  | .polling loop => loop.haltReason
  | .stopping _ haltReason => haltReason
  | _ => none

/-- Whether the job or a coordinator is halted for connector failures. -/
def ScanState.Halted (state : ScanState) : Prop :=
  (∃ job, state.store.job = some job ∧ job.haltReason = some permanentHalt) ∨
    ∃ coordinator ∈ state.coordinators, coordinator.haltReason = some permanentHalt

/-- Whether a step is the poll of a coordinator that halts the scan. -/
def HaltsBy (plan : ScanPlan) (state : ScanState) (event : ScanEvent) : Prop :=
  ∃ index polling, event = .poll index false ∧
    state.coordinators[index]? = some (.polling polling) ∧
    (state.store.listBatches.all fun batch => settled plan.config batch state.now) = false ∧
    systemicPermanentFailure state.store.listBatches = true

/-- A coordinator that takes over a reason leaves the scan as it was. -/
theorem halted_of_set {state : ScanState} {index : Nat} {previous next coordinator : Coordinator}
    (here : state.coordinators[index]? = some previous)
    (kept : next.haltReason = some permanentHalt → previous.haltReason = some permanentHalt)
    (member : coordinator ∈ state.coordinators.set index next)
    (reason : coordinator.haltReason = some permanentHalt) : state.Halted := by
  rcases List.mem_or_eq_of_mem_set member with old | new
  · exact .inr ⟨coordinator, old, reason⟩
  · rw [new] at reason
    exact .inr ⟨previous, List.mem_of_getElem? here, kept reason⟩

/-- A changed job that keeps its reason leaves the scan as it was. -/
theorem halted_of_update {state : ScanState} (change : ImpactJob → ImpactJob)
    (kept : ∀ job : ImpactJob, (change job).haltReason = job.haltReason) {job : ImpactJob}
    (stored : (state.store.updateJob change).job = some job)
    (reason : job.haltReason = some permanentHalt) : state.Halted := by
  obtain ⟨old, found, rfl⟩ := Option.map_eq_some_iff.mp stored
  rw [kept] at reason
  exact .inl ⟨old, found, reason⟩

/-- A listing halts only by the test. -/
theorem Polling.list_halts {config : ImpactConfig} {polling : Polling}
    {batches : List BatchRecord} {now : Nat} {budgetExhausted : List String}
    (finished : polling.list config batches now = .finished budgetExhausted (some permanentHalt)) :
    polling.haltReason = some permanentHalt ∨
      (batches.all fun batch => settled config batch now) = false ∧
        systemicPermanentFailure batches = true := by
  unfold Polling.list at finished
  split at finished
  · injection finished with _ reason
    exact .inl reason
  · next unsettled =>
    split at finished
    · next systemic => exact .inr ⟨Bool.eq_false_iff.mpr unsettled, systemic⟩
    · split at finished
      · injection finished with _ reason
        exact .inl reason
      · cases finished

/-- A listing that goes on keeps the reason. -/
theorem Polling.list_keeps {config : ImpactConfig} {polling next : Polling}
    {batches : List BatchRecord} {now : Nat}
    (going : polling.list config batches now = .dispatching next) :
    next.haltReason = polling.haltReason := by
  unfold Polling.list at going
  split at going
  · cases going
  · split at going
    · cases going
    · split at going
      · cases going
      · cases going
        rfl

/-- The scan is halted for connector failures only by a poll. -/
theorem halted_step {state : ScanState} {event : ScanEvent}
    (halted : (scanStep plan state event).Halted) : state.Halted ∨ HaltsBy plan state event := by
  cases event with
  | tick elapsed => exact .inl halted
  | cancel =>
    left
    rcases halted with ⟨job, stored, reason⟩ | there
    · exact halted_of_update (fun job => { job with cancelRequested := true }) (fun _ => rfl)
        stored reason
    · exact .inr there
  | plan capability =>
    left
    cases stored : state.store.job with
    | none =>
      simp only [ScanState.Halted, scanStep, ImpactStore.createJob, stored] at halted
      rcases halted with ⟨created, same, reason⟩ | ⟨coordinator, member, reason⟩
      · cases same
        cases reason
      · rcases List.mem_append.mp member with old | new
        · exact .inr ⟨coordinator, old, reason⟩
        · cases List.mem_singleton.mp new
          cases reason
    | some found =>
      simp only [ScanState.Halted, scanStep, ImpactStore.createJob, stored] at halted
      rcases halted with ⟨job, same, reason⟩ | ⟨coordinator, member, reason⟩
      · cases same
        exact .inl ⟨found, stored, reason⟩
      · rcases List.mem_append.mp member with old | new
        · exact .inr ⟨coordinator, old, reason⟩
        · cases List.mem_singleton.mp new
          exact .inl ⟨found, stored, reason⟩
  | start index =>
    left
    simp only [scanStep, startCoordinator] at halted
    split at halted
    · next job here =>
      split at halted
      · rcases halted with there | ⟨coordinator, member, reason⟩
        · exact .inl there
        · exact halted_of_set here (by rintro ⟨⟩) member reason
      · rcases halted with there | ⟨coordinator, member, reason⟩
        · exact .inl there
        · exact halted_of_set here (by exact id) member reason
    · exact halted
  | poll index cancellation =>
    simp only [scanStep, pollCoordinator] at halted
    split at halted
    · next polling here =>
      split at halted
      · left
        rcases halted with ⟨job, stored, reason⟩ | ⟨coordinator, member, reason⟩
        · exact halted_of_update (fun job => { job with cancelRequested := true }) (fun _ => rfl)
            stored reason
        · exact halted_of_set here (by exact id) member reason
      · next uncancelled =>
        split at halted
        · next budgetExhausted haltReason listed =>
          rcases halted with there | ⟨coordinator, member, reason⟩
          · exact .inl (.inl there)
          · rcases List.mem_or_eq_of_mem_set member with old | new
            · exact .inl (.inr ⟨coordinator, old, reason⟩)
            · rw [new] at reason
              have halts : haltReason = some permanentHalt := reason
              rw [halts] at listed
              rcases Polling.list_halts listed with before | ⟨unsettled, systemic⟩
              · exact .inl (.inr ⟨_, List.mem_of_getElem? here, before⟩)
              · right
                rw [Bool.not_eq_true] at uncancelled
                rw [uncancelled]
                exact ⟨index, polling, rfl, here, unsettled, systemic⟩
        · next next going =>
          left
          rcases halted with there | ⟨coordinator, member, reason⟩
          · exact .inl there
          · exact halted_of_set here
              (by exact fun now => (Polling.list_keeps going).symm.trans now) member reason
    · exact .inl halted
  | dispatch index backoff owner published raised =>
    left
    simp only [scanStep, dispatchBatch] at halted
    split at halted
    · next polling here =>
      split at halted
      · rcases halted with there | ⟨coordinator, member, reason⟩
        · exact .inl there
        · exact halted_of_set here (by exact id) member reason
      · rcases halted with there | ⟨coordinator, member, reason⟩
        · exact .inl there
        · refine halted_of_set here (fun now => ?_) member reason
          split at now <;> exact now
    · exact halted
  | stop index =>
    left
    simp only [scanStep, stopCoordinator] at halted
    split at halted
    · next budgetExhausted haltReason here =>
      rcases halted with ⟨job, stored, reason⟩ | ⟨coordinator, member, reason⟩
      · obtain ⟨old, -, rfl⟩ := Option.map_eq_some_iff.mp stored
        exact .inr ⟨_, List.mem_of_getElem? here, reason⟩
      · exact halted_of_set here (by rintro ⟨⟩) member reason
    · exact halted
  | read index =>
    left
    simp only [scanStep, readJob] at halted
    split at halted
    · next here =>
      rcases halted with there | ⟨coordinator, member, reason⟩
      · exact .inl there
      · refine halted_of_set here (fun now => ?_) member reason
        split at now
        · cases now
        · split at now <;> cases now
    · exact halted
  | aggregate index =>
    left
    simp only [scanStep, aggregateBatches] at halted
    split at halted
    · next job here =>
      rcases halted with there | ⟨coordinator, member, reason⟩
      · exact .inl there
      · refine halted_of_set here (fun now => ?_) member reason
        split at now <;> cases now
    · exact halted
  | finalize index =>
    left
    simp only [scanStep, storeAggregate] at halted
    split at halted
    · next aggregate here =>
      rcases halted with ⟨job, stored, reason⟩ | ⟨coordinator, member, reason⟩
      · unfold ImpactStore.finalizeJob at stored
        split at stored
        · exact .inl ⟨job, stored, reason⟩
        · next old found =>
          split at stored
          · exact .inl ⟨job, stored, reason⟩
          · cases stored
            exact .inl ⟨old, found, reason⟩
      · exact halted_of_set here (by rintro ⟨⟩) member reason
    · exact halted
  | abandon index =>
    left
    rcases halted with there | ⟨coordinator, member, reason⟩
    · exact .inl there
    · rcases List.mem_or_eq_of_mem_set member with old | new
      · exact .inr ⟨coordinator, old, reason⟩
      · rw [new] at reason
        cases reason
  | deliver index =>
    left
    simp only [scanStep, deliver] at halted
    split at halted
    · exact halted
    · next message _ =>
      have kept := state.store.leaseBatch_job message.batchNo message.owner
        (leaseSeconds plan.config) plan.config.maxBatchAttempts state.now
      split at halted <;> rename_i answer <;> rw [answer] at kept
      · rcases halted with ⟨job, stored, reason⟩ | there
        · exact .inl ⟨job, kept.symm.trans stored, reason⟩
        · exact .inr there
      · rcases halted with ⟨job, stored, reason⟩ | there
        · exact .inl ⟨job, kept.symm.trans stored, reason⟩
        · exact .inr there
  | acknowledge index => exact .inl halted
  | process index target durationMs =>
    left
    simp only [scanStep] at halted
    split at halted
    · rcases halted with ⟨job, stored, reason⟩ | there
      · exact .inl ⟨job, (ImpactStore.completeBatch_job ..).symm.trans stored, reason⟩
      · exact .inr there
    · exact halted
  | crash index durationMs =>
    left
    simp only [scanStep] at halted
    split at halted
    · rcases halted with ⟨job, stored, reason⟩ | there
      · exact .inl ⟨job, (ImpactStore.completeBatch_job ..).symm.trans stored, reason⟩
      · exact .inr there
    · exact halted
  | die index => exact .inl halted

/-- At least three batches are fully processed that had a row fail permanently at the
connector. -/
def Blamed (plan : ScanPlan) (events : List ScanEvent) : Prop :=
  ∃ numbers : List Nat, numbers.Nodup ∧ haltAfterPermanentFailedBatches ≤ numbers.length ∧
    ∀ number ∈ numbers, FailedThere plan events number ∧
      ∃ batch ∈ (scanRun plan events).store.batches, batch.batchNo = number ∧ batch.state = .done

/-- Whether a processed batch has a row that did not fail before the connector was called. -/
def BatchRecord.failedBeyond (batch : BatchRecord) : Bool :=
  batch.state = .done && batch.inconclusive.any fun row =>
    !(row.code = localFailure) && !resolverCodes.contains row.code

/-- Whether three batches of a poll that halts have rows that did not fail before the connector was
called. -/
def HaltsBeyond (plan : ScanPlan) (state : ScanState) (event : ScanEvent) : Prop :=
  HaltsBy plan state event →
    haltAfterPermanentFailedBatches ≤ state.store.listBatches.countP (·.failedBeyond)

/-- What is blamed stays so. -/
theorem Blamed.mono {events : List ScanEvent} (blamed : Blamed plan events) (event : ScanEvent) :
    Blamed plan (events ++ [event]) := by
  obtain ⟨numbers, distinct, many, each⟩ := blamed
  refine ⟨numbers, distinct, many, fun number member => ?_⟩
  obtain ⟨failed, batch, stored, same, done⟩ := each number member
  exact ⟨failed.mono event, batch, scanRun_finished plan events [event] stored done, same, done⟩

/-- Batches with a row that did not fail before the connector was called are the connector's. -/
theorem blamed_of_beyond {events : List ScanEvent}
    (attributed : RowsAttributed plan events (scanRun plan events))
    (many : haltAfterPermanentFailedBatches ≤
      (scanRun plan events).store.listBatches.countP (·.failedBeyond)) :
    Blamed plan events := by
  have sound := scanRun_sound plan events
  let counted := (scanRun plan events).store.listBatches.filter (·.failedBeyond)
  refine ⟨counted.map (·.batchNo), ?_, ?_, fun number member => ?_⟩
  · have ordered : ((scanRun plan events).store.listBatches.map (·.batchNo)).Nodup :=
      ((List.perm_insertionSort _ _).map _).nodup_iff.mpr sound.distinct
    exact ordered.sublist (List.filter_sublist.map _)
  · rw [List.length_map, ← List.countP_eq_length_filter]
    exact many
  · obtain ⟨batch, among, rfl⟩ := List.mem_map.mp member
    obtain ⟨listed, beyond⟩ := List.mem_filter.mp among
    have stored : batch ∈ (scanRun plan events).store.batches := orderedBatches_mem.mp listed
    obtain ⟨done, rows⟩ := Bool.and_eq_true_iff.mp beyond
    have finished : batch.state = .done := of_decide_eq_true done
    obtain ⟨row, inside, code⟩ := List.any_eq_true.mp rows
    obtain ⟨priced, resolved⟩ := Bool.and_eq_true_iff.mp code
    -- A finished batch has no transient row left.
    have permanent : row.transient = false := by
      have none := ((sound.batches batch stored).finished finished).2
      unfold Tally.unresolvedTransient at none
      rw [List.map_eq_nil_iff, List.filter_eq_nil_iff] at none
      exact Bool.eq_false_iff.mpr (none row inside)
    refine ⟨?_, batch, stored, rfl, finished⟩
    rcases attributed.batches batch stored row inside permanent with early | unresolved | failed
    · rw [early] at priced
      simp at priced
    · rw [Bool.not_eq_true', Bool.eq_false_iff] at resolved
      exact absurd (List.contains_iff_mem.mpr unresolved) resolved
    · exact failed

/-- In a run whose polls only halt over three processed batches with a row that did not fail before
the connector was called, the scan is halted for connector failures only after three processed
batches had a row that was sent to the connector and failed permanently there. -/
theorem halt_blames_connector (plan : ScanPlan) (events : List ScanEvent)
    (realised : Along (scanStep plan) (RealisedTargets plan) .initial events)
    (beyond : Along (scanStep plan) (HaltsBeyond plan) .initial events)
    (halted : (scanRun plan events).Halted) : Blamed plan events := by
  induction events using List.reverseRecOn with
  | nil =>
    rcases halted with ⟨job, stored, -⟩ | ⟨coordinator, member, -⟩
    · cases stored
    · cases member
  | append_singleton events event ih =>
    obtain ⟨earlier, -⟩ := along_append.mp realised
    obtain ⟨before, last, -⟩ := along_append.mp beyond
    rw [scanRun_snoc] at halted
    rcases halted_step halted with already | halts
    · exact (ih earlier before already).mono event
    · exact (blamed_of_beyond (attributed_run earlier) (last halts)).mono event

end Reasons

section Refusals

/-- Connector that refuses every request for its credentials. -/
def refusing : Target := ⟨none, fun _ => .refused "CONNECTOR_AUTH_DENIED" false, 0, false⟩

/-- A registered connector is realised where nothing is left to price. -/
theorem Target.realised_nil {target : Target} (registered : target.unregistered = none)
    (batchMax batchSize : Nat) : target.Realised batchMax batchSize [] := by
  unfold Target.Realised
  rw [registered]
  exact ⟨⟨"JOB-1", "v1", batchMax, batchSize, 1, 8, 20, []⟩, [], rfl, rfl, rfl,
    fun _ _ found => (by cases found)⟩

/-- The refusing connector is realised where one row is left to price. -/
theorem refusing_realised (batchMax batchSize : Nat) (row : PendingRow) :
    refusing.Realised batchMax batchSize [row] := by
  have whole : ∀ size, 0 < size → chunks size [row] = [[row]] := by
    intro size positive
    obtain ⟨less, rfl⟩ := Nat.exists_eq_add_of_lt positive
    simp [chunks, chunksWithin]
  let job : RemoteJob := ⟨"JOB-1", "v1", batchMax, batchSize, 1, 8, 20, [row]⟩
  have single : job.chunks = [[row]] := whole _ (chunkSize_pos batchMax batchSize).1
  let error : ConnectorError := ⟨"CONNECTOR_AUTH_DENIED", "", .nonRetryable, []⟩
  have permanent : error.isTransient = false := by decide
  have replies : (run (RemoteRun.step job) (.start job none)
      [.enter 0 1, .send 0, .arrive 0 2 (.refused error)]).replies =
      [(0, .refused "CONNECTOR_AUTH_DENIED" false)] := by
    simp [run, RemoteRun.step, RemoteRun.start, single, CircuitBreaker.allow, CircuitBreaker.new,
      RemoteRun.finish, RemoteJob.answers, sendChunk, RemoteJob.receive, permanent]
    rfl
  refine ⟨job, [.enter 0 1, .send 0, .arrive 0 2 (.refused error)], rfl, rfl, rfl,
    fun position items found => ?_⟩
  rw [single] at found
  rw [replies]
  cases position with
  | zero =>
    exact ⟨⟨_, List.mem_singleton_self _⟩, fun reply member => by
      cases List.mem_singleton.mp member
      rfl⟩
  | succ position => cases found

/-- A target of a step is realised where each delivery at work has it realised. -/
theorem realisedTargets_of_forall {plan : ScanPlan} {state : ScanState} {index durationMs : Nat}
    {target : Target} (realised : ∀ delivery ∈ state.deliveries,
      target.Realised delivery.job.batchMaxItems plan.config.batchSize
        (delivery.pendingRows plan)) :
    RealisedTargets plan state (.process index target durationMs) := by
  intro _ _ _ delivery same working
  cases same
  exact realised delivery (List.mem_of_getElem? working)

/-- A step that does not process a batch has no target. -/
theorem realisedTargets_of_other {plan : ScanPlan} {state : ScanState} {event : ScanEvent}
    (other : ∀ index target durationMs, event ≠ .process index target durationMs) :
    RealisedTargets plan state event :=
  fun index target durationMs _ same => absurd same (other index target durationMs)

/-- A poll halts only where the test is met. -/
theorem haltsBeyond_of_test {plan : ScanPlan} {state : ScanState} {event : ScanEvent}
    (counts : systemicPermanentFailure state.store.listBatches = true →
      haltAfterPermanentFailedBatches ≤ state.store.listBatches.countP (·.failedBeyond)) :
    HaltsBeyond plan state event := by
  rintro ⟨_, _, _, _, _, systemic⟩
  exact counts systemic

/-- Each delivery at work that has one row left to price has the refusing connector realised. -/
theorem refusing_processes {plan : ScanPlan} {state : ScanState} {index durationMs : Nat}
    (single : ∀ delivery ∈ state.deliveries, (delivery.pendingRows plan).length = 1) :
    RealisedTargets plan state (.process index refusing durationMs) :=
  realisedTargets_of_forall fun delivery member => by
    obtain ⟨row, only⟩ := List.length_eq_one_iff.mp (single delivery member)
    rw [only]
    exact refusing_realised _ _ row

/-- A scan is halted where a coordinator has the reason. -/
theorem halted_of_any {state : ScanState}
    (some : (state.coordinators.any fun coordinator =>
      coordinator.haltReason = some permanentHalt) = true) : state.Halted := by
  obtain ⟨coordinator, member, reason⟩ := List.any_eq_true.mp some
  exact .inr ⟨coordinator, member, of_decide_eq_true reason⟩

/-- Plan of four batches of one policy of a transaction, three in flight at a time. -/
def fourBatches (transaction : TransactionType) : ScanPlan where
  config := { sampleConfig with
    batchSize := 1, positive := Nat.one_pos
    maxInflightBatches := 3, inflight := Nat.succ_pos 2 }
  source := { samplePlan.source with
    rows := ["POL-1", "POL-2", "POL-3", "POL-4"].map fun policyId =>
      { sampleRow policyId with transactionType := transaction } }
  product := "HO3"
  sampleLimit := none

/-- Three of the batches are leased. -/
def threeLeases : List ScanEvent :=
  [.plan 0, .start 0, .poll 0 false, .dispatch 0 0 "push-1" true false,
    .dispatch 0 0 "push-2" true false, .dispatch 0 0 "push-3" true false, .deliver 0, .deliver 1,
    .deliver 2]

/-- The three batches are processed, and the coordinator polls. -/
def threeProcessed (target : Target) : List ScanEvent :=
  threeLeases ++ [.process 0 target 5, .process 0 target 5, .process 0 target 5, .poll 0 false]

/-- The connector is blamed where it refused three batches. -/
theorem halt_blames_connector_refusing :
    Blamed (fourBatches .newBusiness) (threeProcessed refusing) := by
  refine halt_blames_connector (fourBatches .newBusiness) (threeProcessed refusing) ?targets ?polls
    (halted_of_any (by decide +kernel))
  case targets =>
    have other := @realisedTargets_of_other (fourBatches .newBusiness)
    exact ⟨other nofun, other nofun, other nofun, other nofun, other nofun, other nofun,
      other nofun, other nofun, other nofun, refusing_processes (by decide +kernel),
      refusing_processes (by decide +kernel), refusing_processes (by decide +kernel),
      other nofun, trivial⟩
  case polls =>
    have other : ∀ {state event}, (∀ index, event ≠ .poll index false) →
        HaltsBeyond (fourBatches .newBusiness) state event := by
      rintro state event other ⟨index, _, same, _⟩
      exact absurd same (other index)
    exact ⟨other nofun, other nofun, haltsBeyond_of_test (by decide +kernel), other nofun,
      other nofun, other nofun, other nofun, other nofun, other nofun, other nofun, other nofun,
      other nofun, haltsBeyond_of_test (by decide +kernel), trivial⟩

/-- A batch of renewals has no row for the connector. -/
theorem renewals_unsent (delivery : Delivery) :
    delivery.pendingRows (fourBatches .renewal) = [] := by
  have unpriced : ∀ policy ∈ (fourBatches .renewal).source.rows,
      ((fourBatches .renewal).source.price policy).isOk = false := by decide +kernel
  unfold Delivery.pendingRows
  cases screening : delivery.batch.indexes.mapM
      ((fourBatches .renewal).source.screen delivery.job.product) with
  | none => rfl
  | some screened =>
    refine List.filterMap_eq_nil_iff.mpr fun row member => ?_
    obtain ⟨index, -, screen⟩ := exists_left (mapM_eq_some screening) member
    unfold ScanSource.screen at screen
    obtain ⟨policy, found, screen⟩ := Option.bind_eq_some_iff.mp screen
    have failed := unpriced policy (List.mem_of_getElem? found)
    split at screen
    · cases screen
      rfl
    · split at screen
      · next result priced =>
        rw [priced] at failed
        cases failed
      · cases screen
        rfl
      · cases screen
        rfl

/-- A halt need not be the connector's: three batches that the oracle does not price halt the scan
though nothing is sent. -/
theorem halt_without_connector : ¬∀ (plan : ScanPlan) (events : List ScanEvent),
    Along (scanStep plan) (RealisedTargets plan) .initial events →
    (scanRun plan events).Halted → Blamed plan events := by
  intro blames
  have other := @realisedTargets_of_other (fourBatches .renewal)
  have unsent : ∀ {state index durationMs},
      RealisedTargets (fourBatches .renewal) state (.process index refusing durationMs) :=
    realisedTargets_of_forall fun delivery _ => by
      rw [renewals_unsent]
      exact Target.realised_nil rfl _ _
  have targets : Along (scanStep (fourBatches .renewal)) (RealisedTargets (fourBatches .renewal))
      .initial (threeProcessed refusing) :=
    ⟨other nofun, other nofun, other nofun, other nofun, other nofun, other nofun, other nofun,
      other nofun, other nofun, unsent, unsent, unsent, other nofun, trivial⟩
  obtain ⟨numbers, -, many, each⟩ := blames (fourBatches .renewal) (threeProcessed refusing)
    targets (halted_of_any (by decide +kernel))
  obtain ⟨number, rest, rfl⟩ := List.exists_cons_of_ne_nil
    (List.ne_nil_of_length_pos (Nat.lt_of_lt_of_le (Nat.succ_pos 2) many))
  obtain ⟨⟨_, _, _, _, _, delivery, -, -, -, -, items, chunk, -⟩, -⟩ :=
    each number List.mem_cons_self
  unfold Delivery.chunks at chunk
  rw [renewals_unsent] at chunk
  cases chunk

end Refusals

end RateGuard
