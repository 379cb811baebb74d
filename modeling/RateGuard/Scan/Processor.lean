import RateGuard.Foundation.DecimalText
import RateGuard.Foundation.KeyedList
import RateGuard.Oracle.Calculator
import RateGuard.Portfolio.Analyzer
import RateGuard.Scan.Records

/-!
# Processing of a batch

Each row of a batch is screened, priced by the oracle, priced by the connector in
chunks and classified. A first pass takes every row of the batch; a later one takes
the rows left with a transient failure and keeps the other results. What the network
answers to a chunk is an input; a missing value is an exception.
-/

open DecimalFloat CalendarDate TopologicalSort KeyedList

namespace RateGuard

variable {α : Type}

/-- What a scan prices: the portfolio and the authoritative package. -/
structure ScanSource where
  /-- Rows in file order. -/
  rows : List SyntheticPolicy
  /-- Authoritative package. -/
  package : PackageContent
  /-- Order of calculations. -/
  sorter : Sorter String
  /-- Lower case of a text. -/
  lower : List Char → List Char

/-- Written decimal. -/
def decimalText (value : Decimal) : String := String.ofList value.text

/-- `_norm`. -/
def ScanSource.norm (source : ScanSource) (value : String) : List Char :=
  (source.lower (Text.strip value.toList)).map fun character =>
    if character = '-' ∨ character = ' ' then '_' else character

/-- Outcome of a row. -/
inductive RowKind where
  | matching
  | affected (expected candidate : String)
  | inconclusive (code : String) (transient : Bool)
  | outOfScope (code : String)
  deriving DecidableEq, Repr

/-- Classified row. -/
structure ScannedRow where
  /-- Index of the row. -/
  index : Nat
  /-- Outcome. -/
  kind : RowKind

/-- Row that the connector has to price. -/
structure PendingRow where
  /-- Index of the row. -/
  index : Nat
  /-- Rating inputs. -/
  inputs : RiskInput
  /-- Calculation date. -/
  date : Date
  /-- Transaction. -/
  transaction : TransactionType
  /-- Premium of the oracle. -/
  expected : Decimal

/-- `rating_inputs`. -/
def ScanSource.ratingInputs (source : ScanSource) (policy : SyntheticPolicy) : RiskInput where
  values := policy.riskValues.filter fun entry =>
    (source.package.inputs.map (·.id)).contains entry.1
  distinct := policy.risk.distinct.sublist (List.filter_sublist.map _)

/-- Price of a policy by the oracle. -/
def ScanSource.price (source : ScanSource) (policy : SyntheticPolicy) :
    Except Failure OracleResult :=
  calculatePolicyPremium source.sorter source.package
    ⟨policy.policyId, source.ratingInputs policy, policy.effectiveDate, policy.transactionType⟩

/-- A row as far as it is decided without the connector. -/
inductive ScreenedRow where
  | settled (row : ScannedRow)
  | pending (row : PendingRow)

/-- Row decided without the connector. -/
def ScreenedRow.settled? : ScreenedRow → Option ScannedRow
  | settled row => some row
  | pending _ => none

/-- Row left to the connector. -/
def ScreenedRow.pending? : ScreenedRow → Option PendingRow
  | settled _ => none
  | pending row => some row

/-- Screens and prices one row locally. -/
def ScanSource.screen (source : ScanSource) (product : String) (index : Nat) :
    Option ScreenedRow := do
  let policy ← source.rows[index]?
  if source.norm policy.productId ≠ source.norm product then
    return .settled ⟨index, .outOfScope "PRODUCT_MISMATCH"⟩
  else
    match source.price policy with
    | .ok result =>
      return .pending ⟨index, source.ratingInputs policy, policy.effectiveDate,
        policy.transactionType, result.finalPremium⟩
    | .error (.calculationDate _ _) =>
      return .settled ⟨index, .outOfScope "OUTSIDE_EFFECTIVE_PERIOD"⟩
    | .error _ => return .settled ⟨index, .inconclusive "LOCAL_CALCULATION_ERROR" false⟩

/-- Answer of the connector for one row. -/
inductive RemoteResult where
  | premium (candidate : Decimal)
  | error (code : String) (transient : Bool)

/-- Item of a batch quote. -/
inductive ItemResult where
  | priced (finalPremium : Option String)
  | failed (code : Option String)

/-- What becomes of a chunk of rows. -/
inductive ChunkReply where
  | cancelled
  | circuitOpen (permanentCode : Option String)
  | batch (revision : Option String) (items : List (String × ItemResult))
  | quote (finalPremium : Option String)
  | refused (code : String) (transient : Bool)
  | raised

/-- Behaviour of connector and network during one attempt. -/
structure Target where
  /-- Error of an unregistered connector. -/
  unregistered : Option String
  /-- What becomes of a chunk. -/
  reply : List PendingRow → ChunkReply
  /-- Retries of the client. -/
  retries : Nat
  /-- Whether the circuit breaker opened. -/
  breakerOpened : Bool

/-- Item codes of transient problems. -/
def transientItemCodes : List String := ["TEMPORARILY_UNAVAILABLE", "RATE_LIMITED"]

/-- `_parse_premium`. -/
def parsePremium : Option String → RemoteResult
  | none => .error "CONNECTOR_INCOMPLETE_OUTPUT" false
  | some raw =>
    if Text.strip raw.toList = [] then .error "CONNECTOR_INCOMPLETE_OUTPUT" false
    else
      match Decimal.parse raw.toList with
      | some (.finite negative coefficient exponent) =>
        .premium (.finite negative coefficient exponent)
      | _ => .error "CONNECTOR_INVALID_PREMIUM" false

/-- Answer of a batch quote for one item. -/
def itemAnswer : ItemResult → RemoteResult
  | .priced finalPremium => parsePremium finalPremium
  | .failed code =>
    let reason := code.getD "ITEM_ERROR"
    .error ("CONNECTOR_ITEM_" ++ reason) (transientItemCodes.contains reason)

/-- Identifier of a row in a batch quote. -/
def itemId (index : Nat) : String := "r" ++ toString index

/-- Answers and request figures of some chunks. -/
structure RemoteReport where
  /-- Answers by row. -/
  results : List (Nat × RemoteResult)
  /-- Requests sent. -/
  requests : Nat
  /-- Revision of the engine that answered last. -/
  revision : Option String

/-- One answer for every row of a chunk. -/
def answerAll (items : List PendingRow) (answer : RemoteResult) : List (Nat × RemoteResult) :=
  items.map fun item => (item.index, answer)

/-- `send_chunk`. -/
def sendChunk (target : Target) (batchMax : Nat) (items : List PendingRow) :
    Option RemoteReport :=
  match target.reply items with
  | .cancelled => some ⟨answerAll items (.error "IMPACT_CANCELLED" true), 0, none⟩
  | .circuitOpen permanent =>
    some ⟨answerAll items (.error (permanent.getD "CONNECTOR_CIRCUIT_OPEN") permanent.isNone),
      0, none⟩
  | .batch revision answers =>
    if batchMax = 0 then none
    else do
      let results ← items.mapM fun item => do
        let answer ← lastWith (·.1) answers (itemId item.index)
        return (item.index, itemAnswer answer.2)
      return ⟨results, 1, revision⟩
  | .quote finalPremium =>
    if batchMax = 0 then some ⟨answerAll items (parsePremium finalPremium), 1, none⟩ else none
  | .refused code transient => some ⟨answerAll items (.error code transient), 1, none⟩
  | .raised => none

/-- Rows of a chunk. -/
def chunkSize (batchMax batchSize : Nat) : Nat :=
  if batchMax = 0 then 1 else max 1 (min batchMax batchSize)

/-- Chunks of a list, as many as the fuel allows. -/
def chunksWithin : Nat → Nat → List α → List (List α)
  | 0, _, _ => []
  | _ + 1, _, [] => []
  | fuel + 1, size, items => items.take size :: chunksWithin fuel size (items.drop size)

/-- Consecutive parts of a size, the last one possibly shorter. -/
def chunks (size : Nat) (items : List α) : List (List α) := chunksWithin items.length size items

/-- `_remote`. -/
def remote (target : Target) (batchMax batchSize : Nat) (pending : List PendingRow) :
    Option RemoteReport :=
  if pending = [] then some ⟨[], 0, none⟩
  else
    match target.unregistered with
    | some code => some ⟨answerAll pending (.error code false), 0, none⟩
    | none => do
      let reports ← (chunks (chunkSize batchMax batchSize) pending).mapM
        (sendChunk target batchMax)
      return ⟨reports.flatMap (·.results), (reports.map (·.requests)).sum,
        ((reports.filterMap (·.revision)).filter (· ≠ "")).getLast?⟩

/-- Whether a premium differs from the oracle's by more than the tolerance. -/
def differsBeyond (tolerance : FiniteDecimal) (expected candidate : Decimal) : Option Bool := do
  let delta ← (Decimal.sub decimalContext candidate expected).toOption
  let magnitude ← (absolute delta).toOption
  (Decimal.lt tolerance.toDecimal magnitude).toOption

/-- Classifies a row that the connector priced. -/
def compareRow (tolerance : FiniteDecimal) (results : List (Nat × RemoteResult))
    (row : PendingRow) : Option ScannedRow := do
  let answer ← lastWith (·.1) results row.index
  match answer.2 with
  | .premium candidate =>
    if ← differsBeyond tolerance row.expected candidate then
      return ⟨row.index, .affected (decimalText row.expected) (decimalText candidate)⟩
    else return ⟨row.index, .matching⟩
  | .error code transient => return ⟨row.index, .inconclusive code transient⟩

/-- Whether a row matches. -/
def ScannedRow.isMatch (row : ScannedRow) : Bool := row.kind = .matching

/-- Record of a row out of scope. -/
def ScannedRow.outOfScope? (row : ScannedRow) : Option OutOfScopeRow :=
  match row.kind with
  | .outOfScope code => some ⟨row.index, code⟩
  | _ => none

/-- Record of an affected row. -/
def ScannedRow.affected? (row : ScannedRow) : Option AffectedRow :=
  match row.kind with
  | .affected expected candidate => some ⟨row.index, expected, candidate⟩
  | _ => none

/-- Record of a row without a comparison. -/
def ScannedRow.inconclusive? (row : ScannedRow) : Option InconclusiveRow :=
  match row.kind with
  | .inconclusive code transient => some ⟨row.index, code, transient⟩
  | _ => none

/-- Adds classified rows to retained results. -/
def Tally.extend (retained : Tally) (rows : List ScannedRow) : Tally where
  matched := retained.matched + rows.countP (·.isMatch)
  outOfScope := retained.outOfScope ++ rows.filterMap (·.outOfScope?)
  affected := (retained.affected ++ rows.filterMap (·.affected?)).insertionSort
    fun x y => x.index ≤ y.index
  inconclusive := (retained.inconclusive ++ rows.filterMap (·.inconclusive?)).insertionSort
    fun x y => x.index ≤ y.index

/-- Results that a later attempt keeps. -/
def Tally.retained (tally : Tally) : Tally :=
  { tally with inconclusive := tally.inconclusive.filter fun row => !row.transient }

/-- Adds an occurrence to a counter. -/
def countCode (counts : List (String × Nat)) (code : String) (times : Nat) :
    List (String × Nat) :=
  if counts.any (·.1 = code) then
    counts.map fun entry => if entry.1 = code then (code, entry.2 + times) else entry
  else counts ++ [(code, times)]

/-- Errors of classified rows by code. -/
def errorCodes (rows : List ScannedRow) : List (String × Nat) :=
  (rows.filterMap (·.inconclusive?)).foldl
    (fun counts row => countCode counts (if row.code = "" then "UNKNOWN" else row.code) 1) []

/-- Sum of two counters. -/
def addCounts (left right : List (String × Nat)) : List (String × Nat) :=
  right.foldl (fun counts entry => countCode counts entry.1 entry.2) left

/-- Rows that an attempt takes. -/
def BatchRecord.indexes (batch : BatchRecord) : List Nat :=
  if batch.completedAt = none then List.range' batch.rowStart (batch.rowEnd - batch.rowStart)
  else batch.unresolvedTransient.insertionSort (· ≤ ·)

/-- Results that an attempt starts from. -/
def BatchRecord.base (batch : BatchRecord) : Tally :=
  if batch.completedAt = none then Tally.empty else batch.retained

/-- `_execute`. -/
def execute (config : ImpactConfig) (source : ScanSource) (job : ImpactJob) (target : Target)
    (batch : BatchRecord) : Option BatchResult := do
  let screened ← batch.indexes.mapM (source.screen job.product)
  let pending := screened.filterMap (·.pending?)
  let report ← remote target job.batchMaxItems config.batchSize pending
  let compared ← pending.mapM (compareRow config.premiumTolerance report.results)
  let rows := screened.filterMap (·.settled?) ++ compared
  return {
    toTally := batch.base.extend rows
    retries := batch.retries + if pending = [] then 0 else target.retries
    requests := batch.requests + report.requests
    errorClasses := addCounts batch.errorClasses (errorCodes rows)
    breakerOpened := batch.breakerOpened || (!pending.isEmpty && target.breakerOpened)
    connectorRevision := report.revision.or batch.connectorRevision }

/-- State of a batch with a result. -/
def resultState (result : BatchResult) : BatchState :=
  if result.inconclusive.any (·.transient) then .incomplete else .done

end RateGuard
