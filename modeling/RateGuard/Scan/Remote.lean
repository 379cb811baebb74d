import RateGuard.Scan.Breaker
import RateGuard.Scan.Processor

/-!
# Remote pricing of a batch

The chunks of a batch are sent concurrently: each looks for a cancellation and asks the circuit
breaker, waits for its turn, sends its request and records what arrives. A step is one of these of
one chunk. A response is read as the client reads it before its answers are assigned to rows.
-/

open KeyedList Transition

namespace RateGuard

/-- Item codes that an error is transient by, and those of the breaker and the budget. -/
def transientErrorCodes : List String :=
  ["CONNECTOR_TARGET_BUDGET_EXCEEDED", circuitOpenCode] ++ transientItemCodes

/-- `is_transient`. -/
def ConnectorError.isTransient (error : ConnectorError) : Bool :=
  error.category = .retryable || transientErrorCodes.contains error.code

/-- What remote pricing works with. -/
structure RemoteJob where
  /-- Identifier of the job. -/
  jobId : String
  /-- Version of the engine. -/
  engineVersion : String
  /-- Most items of a batch quote; zero without batch quotes. -/
  batchMax : Nat
  /-- Rows of a full batch. -/
  batchSize : Nat
  /-- Requests sent at once. -/
  concurrency : Nat
  /-- Failures that open the breaker. -/
  threshold : Int
  /-- Seconds that the breaker stays open. -/
  cooldown : ℚ
  /-- Rows to price. -/
  pending : List PendingRow

/-- Chunks of the rows. -/
def RemoteJob.chunks (job : RemoteJob) : List (List PendingRow) :=
  RateGuard.chunks (chunkSize job.batchMax job.batchSize) job.pending

/-- Body of the response to a batch quote. -/
structure BatchBody where
  /-- Identifier of the request. -/
  batchId : String
  /-- Version of the engine. -/
  engineVersion : String
  /-- Items by identifier. -/
  results : List (String × ItemResult)
  /-- Revision of the engine. -/
  revision : Option String

/-- Body of the response to a single quote. -/
structure QuoteBody where
  /-- Identifier of the request. -/
  requestId : String
  /-- Version of the engine. -/
  engineVersion : String
  /-- Outputs by name. -/
  outputs : List (String × String)

/-- What the client gets for the request of a chunk. -/
inductive Arrival where
  /-- A well-formed response to a batch quote. -/
  | batch (body : BatchBody)
  /-- A well-formed response to a single quote. -/
  | quote (body : QuoteBody)
  /-- An error of the client. -/
  | refused (error : ConnectorError)
  /-- Any other exception. -/
  | raised

/-- An error of a response that does not belong to its request. -/
def mismatchError (code message : String) (details : List (String × DetailValue)) :
    ConnectorError := ⟨code, message, .nonRetryable, details⟩

/-- Identifier of the batch quote of a chunk. -/
def RemoteJob.batchId (job : RemoteJob) (items : List PendingRow) : String :=
  job.jobId ++ ":" ++ ((items.head?.map fun item => toString item.index).getD "")

/-- `_parse_batch_response` of a well-formed body. -/
def RemoteJob.parseBatch (job : RemoteJob) (items : List PendingRow) (body : BatchBody) :
    Except ConnectorError BatchBody :=
  if body.batchId ≠ job.batchId items ∨ body.engineVersion ≠ job.engineVersion then
    .error (mismatchError "CONNECTOR_REQUEST_ID_MISMATCH"
      "Batch response batch_id/engine_version did not match the request." [])
  else if (items.map fun item => itemId item.index).insertionSort (· ≤ ·) ≠
      (body.results.map Prod.fst).insertionSort (· ≤ ·) then
    .error (mismatchError "CONNECTOR_BATCH_ITEM_MISMATCH"
      "Batch response items did not correspond one-to-one with the request items." [])
  else .ok body

/-- Identifier of the single quote of a row. -/
def RemoteJob.requestId (job : RemoteJob) (row : PendingRow) : String :=
  job.jobId ++ ":" ++ itemId row.index

/-- `_parse_response` of a well-formed body. -/
def RemoteJob.parseQuote (job : RemoteJob) (row : PendingRow) (body : QuoteBody) :
    Except ConnectorError QuoteBody :=
  if body.requestId ≠ job.requestId row then
    .error (mismatchError "CONNECTOR_REQUEST_ID_MISMATCH"
      "Connector response request_id did not match the request sent."
      [("sent", .text (job.requestId row)), ("received", .text body.requestId)])
  else if body.engineVersion ≠ job.engineVersion then
    .error (mismatchError "CONNECTOR_ENGINE_VERSION_MISMATCH"
      "Connector response engine_version did not match the request sent."
      [("sent", .text job.engineVersion), ("received", .text body.engineVersion)])
  else if body.outputs.all fun output => Text.strip output.2.toList = [] then
    .error ⟨"CONNECTOR_INCOMPLETE_OUTPUT_BATCH",
      "Connector response contained no non-empty outputs.", .reviewRequired, []⟩
  else .ok body

/-- What a chunk gets from an arrival: single rows are quoted alone, chunks in batches. -/
def RemoteJob.receive (job : RemoteJob) (items : List PendingRow) : Arrival → ChunkReply
  | .batch body =>
    match job.parseBatch items body with
    | .ok read => .batch read.revision read.results
    | .error error => .refused error.code error.isTransient
  | .quote body =>
    match items.head? with
    | none => .raised
    | some row =>
      match job.parseQuote row body with
      | .ok read => .quote (read.outputs.lookup "final_premium")
      | .error error => .refused error.code error.isTransient
  | .refused error => .refused error.code error.isTransient
  | .raised => .raised

/-- Where a chunk is. -/
inductive ChunkPhase where
  | waiting | admitted | sent | finished
  deriving DecidableEq

/-- State of the pricing of a batch. -/
structure RemoteRun where
  /-- Circuit breaker. -/
  breaker : CircuitBreaker
  /-- Where the chunks are. -/
  phases : List ChunkPhase
  /-- Answers by row, in the order of their assignment. -/
  results : List (Nat × RemoteResult)
  /-- Requests sent. -/
  requests : Nat
  /-- Revision of the engine that answered last. -/
  revision : Option String
  /-- Whether an exception got out. -/
  raised : Bool
  /-- What arrived for the chunks that sent a request. -/
  arrivals : List (Nat × Arrival)
  /-- What became of the chunks that ended. -/
  replies : List (Nat × ChunkReply)

/-- The pricing before the first step. The rows of a connector that is not registered are answered
by its error at once. -/
def RemoteRun.start (job : RemoteJob) (unregistered : Option String) : RemoteRun where
  breaker := .new job.threshold job.cooldown
  phases := if unregistered.isSome then [] else job.chunks.map fun _ => .waiting
  results := (unregistered.map fun code => answerAll job.pending (.error code false)).getD []
  requests := 0
  revision := none
  raised := false
  arrivals := []
  replies := []

/-- Steps of chunks, named by their position. -/
inductive RemoteEvent where
  /-- It finds the job cancelled. -/
  | cancelled (position : Nat)
  /-- It asks the breaker. -/
  | enter (position : Nat) (now : ℚ)
  /-- It sends its request. -/
  | send (position : Nat)
  /-- It gets what becomes of its request. -/
  | arrive (position : Nat) (now : ℚ) (arrival : Arrival)

/-- Whether a reply has an item with a transient error. -/
def ChunkReply.transientItem : ChunkReply → Bool
  | batch _ items => items.any fun item =>
      match item.2 with
      | .failed code => transientItemCodes.contains (code.getD "ITEM_ERROR")
      | .priced _ => false
  | cancelled | circuitOpen _ | quote _ | refused _ _ | raised => false

/-- Whether an answer is an error. -/
def RemoteResult.isError : RemoteResult → Bool
  | premium _ => false
  | error _ _ => true

/-- What the breaker records of a reply with its answers. -/
def ChunkReply.breakerCall (reply : ChunkReply) (answers : List (Nat × RemoteResult)) :
    BreakerCall :=
  match reply with
  | .refused code _ => .failure code false
  | .batch _ _ =>
    if reply.transientItem && answers.all (·.2.isError) then
      .failure "CONNECTOR_ITEM_TRANSIENT" false
    else .success
  | .cancelled | .circuitOpen _ | .quote _ | .raised => .success

/-- Answers of a chunk by a reply. -/
def RemoteJob.answers (job : RemoteJob) (items : List PendingRow) (reply : ChunkReply) :
    Option RemoteReport :=
  sendChunk ⟨none, fun _ => reply, 0, false⟩ job.batchMax items

/-- A chunk ends by a reply. -/
def RemoteRun.finish (run : RemoteRun) (job : RemoteJob) (position : Nat)
    (items : List PendingRow) (reply : ChunkReply) : RemoteRun :=
  let ended := { run with
    phases := run.phases.set position .finished
    replies := run.replies ++ [(position, reply)] }
  match job.answers items reply with
  | none => { ended with raised := true }
  | some report =>
    { ended with
      results := run.results ++ report.results
      revision := (report.revision.filter (· ≠ "")).or run.revision }

/-- The breaker after a reply to a request. -/
def RemoteRun.record (run : RemoteRun) (job : RemoteJob) (items : List PendingRow) (now : ℚ)
    (reply : ChunkReply) : CircuitBreaker :=
  match job.answers items reply with
  | none => run.breaker
  | some report => run.breaker.use now (reply.breakerCall report.results)

/-- Step of a chunk that is in the right place for it. -/
def RemoteRun.step (job : RemoteJob) (run : RemoteRun) (event : RemoteEvent) : RemoteRun :=
  match event with
  | .cancelled position =>
    match run.phases[position]?, job.chunks[position]? with
    | some .waiting, some items => run.finish job position items .cancelled
    | _, _ => run
  | .enter position now =>
    match run.phases[position]?, job.chunks[position]? with
    | some .waiting, some items =>
      let asked := run.breaker.allow now
      if asked.1 then
        { run with breaker := asked.2, phases := run.phases.set position .admitted }
      else
        { run with breaker := asked.2 }.finish job position items
          (.circuitOpen asked.2.permanentCode)
    | _, _ => run
  | .send position =>
    match run.phases[position]? with
    | some .admitted =>
      if run.phases.count .sent < job.concurrency then
        { run with phases := run.phases.set position .sent, requests := run.requests + 1 }
      else run
    | _ => run
  | .arrive position now arrival =>
    match run.phases[position]?, job.chunks[position]? with
    | some .sent, some items =>
      let reply := job.receive items arrival
      { run with
        breaker := run.record job items now reply
        arrivals := run.arrivals ++ [(position, arrival)] }.finish job position items reply
    | _, _ => run

/-- Whether the pricing returned: every chunk ended and no exception got out. -/
def RemoteRun.Returned (run : RemoteRun) : Prop :=
  run.raised = false ∧ ∀ phase ∈ run.phases, phase = .finished

instance RemoteRun.Returned.decidable (run : RemoteRun) : Decidable run.Returned :=
  inferInstanceAs (Decidable (_ ∧ _))

end RateGuard
