import RateGuard.Scan.Processor

/-!
# Aggregation of a scan

One result from a job and its batches: the rows of every batch with a result are
counted, the differences of the affected rows are summed up in row order, and the
decision follows from what is affected and from what the scan lacks. A written
premium that is no number, or a sum outside the context, raises instead.
-/

open DecimalFloat

namespace RateGuard

/-- Batches in ascending order. -/
def orderedBatches (batches : List BatchRecord) : List BatchRecord :=
  batches.insertionSort fun x y => x.batchNo ≤ y.batchNo

/-- Row results of every batch with a result, affected and uncompared rows in row order. -/
def gather (batches : List BatchRecord) : Tally :=
  let finished := batches.filter (·.completedAt.isSome)
  { matched := (finished.map (·.matched)).sum
    outOfScope := finished.flatMap (·.outOfScope)
    affected := (finished.flatMap (·.affected)).insertionSort fun x y => x.index ≤ y.index
    inconclusive := (finished.flatMap (·.inconclusive)).insertionSort
      fun x y => x.index ≤ y.index }

/-- Rows of every batch with a result. -/
def processedRows (batches : List BatchRecord) : Nat :=
  ((batches.filter (·.completedAt.isSome)).map (·.rows)).sum

/-- Number read from its text. -/
def readDecimal (text : String) : Except Signal Decimal :=
  match Decimal.parse text.toList with
  | some value => .ok value
  | none => .error .invalidOperation

/-- Candidate premium less the expected one. -/
def AffectedRow.delta (row : AffectedRow) : Except Signal Decimal := do
  let candidate ← readDecimal row.candidate
  let expected ← readDecimal row.expected
  Decimal.sub decimalContext candidate expected

/-- Sums over differences. -/
structure DeltaSums where
  /-- Positive differences. -/
  overCount : Nat
  /-- Their sum. -/
  overTotal : Decimal
  /-- Negative differences. -/
  underCount : Nat
  /-- Sum of their magnitudes. -/
  underTotal : Decimal

/-- Sums over nothing. -/
def DeltaSums.zero : DeltaSums := ⟨0, .ofInt 0, 0, .ofInt 0⟩

/-- Adds a difference to the sums. -/
def DeltaSums.add (sums : DeltaSums) (delta : Decimal) : Except Signal DeltaSums := do
  if ← Decimal.lt (.ofInt 0) delta then
    return { sums with
      overCount := sums.overCount + 1
      overTotal := ← Decimal.add decimalContext sums.overTotal delta }
  else if ← Decimal.lt delta (.ofInt 0) then
    return { sums with
      underCount := sums.underCount + 1
      underTotal := ← Decimal.add decimalContext sums.underTotal delta.negate }
  else return sums

/-- Sum of decimals from the left. -/
def sumDecimals (values : List Decimal) : Except Signal Decimal :=
  values.foldlM (Decimal.add decimalContext) (.ofInt 0)

/-- `_money`. -/
def money (value : Decimal) : Except Signal Decimal := value.quantize decimalContext (-2) .halfEven

/-- Mean in cents, unless there is nothing. -/
def meanMoney (sum : Decimal) (count : Nat) : Except Signal (Option Decimal) :=
  if count = 0 then .ok none
  else do
    let mean ← Decimal.div decimalContext sum (.ofInt count)
    some <$> money mean

/-- Figures of the affected rows. -/
def impactFigures (affected : List AffectedRow) : Except Signal ImpactFigures := do
  let deltas ← affected.mapM (·.delta)
  let sums ← deltas.foldlM DeltaSums.add .zero
  let signedNet ← sumDecimals deltas
  let absExposure ← Decimal.add decimalContext sums.overTotal sums.underTotal
  let magnitudes ← deltas.mapM absolute
  let absSum ← sumDecimals magnitudes
  return {
    overchargeCount := sums.overCount
    overchargeTotal := ← money sums.overTotal
    underchargeCount := sums.underCount
    underchargeTotal := ← money sums.underTotal
    signedNetDelta := ← money signedNet
    absoluteExposure := ← money absExposure
    meanAbsDelta := ← meanMoney absSum deltas.length
    meanSignedDelta := ← meanMoney signedNet deltas.length }

/-- What a scan lacks. -/
def incompleteReasons (job : ImpactJob) (unprocessed : Int) (inconclusive : Nat) : List String :=
  (if job.rowsInScope < job.rowsTotal then
    ["ROW_BUDGET: " ++ toString (job.rowsTotal - job.rowsInScope) ++
      " rows exceed the per-mission row budget."]
  else []) ++
  (if 0 < unprocessed - (job.rowsTotal - job.rowsInScope) then
    ["BATCHES_NOT_COMPLETED: some batches did not finish within the mission budget."]
  else []) ++
  (if 0 < inconclusive then
    ["INCONCLUSIVE_ROWS: " ++ toString inconclusive ++ " rows could not be compared."]
  else []) ++
  job.budgetExhausted.map ("BUDGET_EXHAUSTED: " ++ ·) ++
  (match job.haltReason with
    | some reason => if reason = "" then [] else ["HALTED: " ++ reason]
    | none => [])

/-- Final status of a scan. -/
def finalStatus (cancelled complete : Bool) : ImpactStatus × Completeness :=
  if cancelled then (.cancelled, .cancelled)
  else if complete then (.complete, .complete)
  else (.partialScan, .partialScan)

/-- Decision of a scan. -/
def scanDecision (mismatches : Nat) (cancelled complete : Bool) : ImpactDecision :=
  if 0 < mismatches then .block
  else if cancelled then .cancelled
  else if complete then .passEligible
  else .reviewRequired

/-- Counters by key, in ascending order. -/
def sortedCounts (counts : List (String × Nat)) : List (String × Nat) :=
  counts.insertionSort fun x y => x.1 ≤ y.1

/-- Whether a scan is complete. -/
def scanComplete (job : ImpactJob) (reasons : List String) (unprocessed : Int)
    (batches : List BatchRecord) : Bool :=
  !job.cancelRequested && reasons.isEmpty && unprocessed = 0 &&
    batches.countP (·.state = .done) = batches.length

/-- `aggregate_job`. -/
def aggregateJob (job : ImpactJob) (batches : List BatchRecord) :
    Except Signal ImpactAggregate := do
  let ordered := orderedBatches batches
  let tally := gather ordered
  let unprocessed : Int := job.rowsTotal - processedRows ordered
  let figures ← impactFigures tally.affected
  let doneCount := ordered.countP (·.state = .done)
  let incomplete := ordered.countP (·.state = .incomplete)
  let reasons := incompleteReasons job unprocessed tally.inconclusive.length
  let cancelled := job.cancelRequested
  let complete := scanComplete job reasons unprocessed ordered
  let mismatches := tally.affected.length
  return {
    toImpactFigures := figures
    status := (finalStatus cancelled complete).1
    impactDecision := scanDecision mismatches cancelled complete
    completeness := (finalStatus cancelled complete).2
    incompleteReasons := reasons
    exposureIsLowerBound := 0 < mismatches && !complete
    rowsTotal := job.rowsTotal
    rowsInScope := job.rowsInScope
    processedPolicies := processedRows ordered
    eligiblePolicies := job.rowsTotal - tally.outOfScope.length
    outOfScopePolicies := tally.outOfScope.length
    outOfScopeReasons := sortedCounts
      (tally.outOfScope.foldl (fun counts row => countCode counts row.code 1) [])
    successfulComparisons := tally.matched + mismatches
    mismatches := mismatches
    inconclusive := tally.inconclusive.length
    inconclusiveTransient := tally.inconclusive.countP (·.transient)
    unprocessedPolicies := unprocessed
    batchCount := job.batchCount
    batchesDone := doneCount
    batchesIncomplete := incomplete
    batchesPending := ordered.length - doneCount - incomplete
    retryCount := (ordered.map (·.retries)).sum
    requestCount := (ordered.map (·.requests)).sum
    errorClasses := sortedCounts
      (ordered.foldl (fun counts batch => addCounts counts batch.errorClasses) [])
    breakerOpened := ordered.any (·.breakerOpened)
    connectorRevisions := ((ordered.filterMap (·.connectorRevision)).filter
      (· ≠ "")).dedup.insertionSort (· ≤ ·)
    budgetExhausted := job.budgetExhausted
    haltReason := job.haltReason }

end RateGuard
