import RateGuard.Scan.Answering

/-!
# Transparency of batching

Against a connector with fixed premiums the figures of a finished scan are those of one
pass over the rows in scope, for every cut into batches and chunks and every order of
processing: each batch has the results of its rows, and the batches in order have those
of all rows.
-/

open Transition Outcome DecimalFloat

namespace RateGuard

/-- Deliveries are processed against a connector with fixed premiums. -/
def Answered (premium : Nat → Decimal) (state : ScanState) (event : ScanEvent) : Prop :=
  ∀ index target durationMs delivery, event = .process index target durationMs →
    state.deliveries[index]? = some delivery →
    target.Answers delivery.job.batchMaxItems premium

/-- Counts of a pass over some rows. -/
structure PassTotals where
  /-- Rows within the tolerance. -/
  matched : Nat
  /-- Rows that the source does not apply to. -/
  outOfScope : Nat
  /-- Rows beyond the tolerance. -/
  affected : Nat
  /-- Sums over the differences of affected rows. -/
  sums : DeltaSums
  /-- Sum of these differences. -/
  net : Decimal

/-- Figures of a pass. -/
structure PassFigures where
  /-- Rows within the tolerance. -/
  matched : Nat
  /-- Rows that the source does not apply to. -/
  outOfScope : Nat
  /-- Rows beyond the tolerance. -/
  affected : Nat
  /-- Overcharged rows. -/
  overchargeCount : Nat
  /-- Sum of the overcharges. -/
  overchargeTotal : Decimal
  /-- Undercharged rows. -/
  underchargeCount : Nat
  /-- Sum of the undercharges. -/
  underchargeTotal : Decimal
  /-- Sum of the signed differences. -/
  signedNetDelta : Decimal
  /-- Sum of the absolute differences. -/
  absoluteExposure : Decimal

/-- Nothing counted. -/
def PassTotals.zero : PassTotals := ⟨0, 0, 0, .zero, .ofInt 0⟩

/-- Counts an affected row. -/
def PassTotals.add (totals : PassTotals) (delta : Decimal) : Except Signal PassTotals := do
  return { totals with
    affected := totals.affected + 1
    sums := ← totals.sums.add delta
    net := ← Decimal.add decimalContext totals.net delta }

/-- Compares the premiums of one row and counts it. -/
def ScanPlan.passRow (plan : ScanPlan) (premium : Nat → Decimal) (totals : PassTotals)
    (row : Nat) : Except Signal PassTotals :=
  match plan.source.rows[row]? with
  | none => .ok totals
  | some policy =>
    if plan.source.norm policy.productId ≠ plan.source.norm plan.product then
      .ok { totals with outOfScope := totals.outOfScope + 1 }
    else
      match plan.source.price policy with
      | .error (.calculationDate _ _) =>
        .ok { totals with outOfScope := totals.outOfScope + 1 }
      | .error _ => .ok totals
      | .ok result => do
        let delta ← Decimal.sub decimalContext (premium row) result.finalPremium
        if ← Decimal.lt plan.config.premiumTolerance.toDecimal (← absolute delta) then
          totals.add delta
        else return { totals with matched := totals.matched + 1 }

/-- One pass over the rows in scope. -/
def ScanPlan.sequentialPass (plan : ScanPlan) (premium : Nat → Decimal) :
    Except Signal PassFigures := do
  let totals ← (List.range plan.rowsInScope.toNat).foldlM (plan.passRow premium) .zero
  let exposure ← Decimal.add decimalContext totals.sums.overTotal totals.sums.underTotal
  return {
    matched := totals.matched
    outOfScope := totals.outOfScope
    affected := totals.affected
    overchargeCount := totals.sums.overCount
    overchargeTotal := ← money totals.sums.overTotal
    underchargeCount := totals.sums.underCount
    underchargeTotal := ← money totals.sums.underTotal
    signedNetDelta := ← money totals.net
    absoluteExposure := ← money exposure }

/-- Figures of an aggregate that a pass has too. -/
def ImpactAggregate.pass (aggregate : ImpactAggregate) : PassFigures where
  matched := aggregate.successfulComparisons - aggregate.mismatches
  outOfScope := aggregate.outOfScopePolicies
  affected := aggregate.mismatches
  overchargeCount := aggregate.overchargeCount
  overchargeTotal := aggregate.overchargeTotal
  underchargeCount := aggregate.underchargeCount
  underchargeTotal := aggregate.underchargeTotal
  signedNetDelta := aggregate.signedNetDelta
  absoluteExposure := aggregate.absoluteExposure

/-- A batch has the results of its rows' comparisons. -/
def BatchRecord.Compares (plan : ScanPlan) (premium : Nat → Decimal) (batch : BatchRecord)
    (tally : Tally) : Prop :=
  ∃ rows, (List.range' batch.rowStart (batch.rowEnd - batch.rowStart)).mapM
      (plan.compare premium) = some rows ∧
    tally = Tally.empty.extend rows ∧ rows.filterMap (·.inconclusive?) = []

/-- A scan whose results are those of its rows' comparisons. -/
structure ScanState.Compared (plan : ScanPlan) (premium : Nat → Decimal) (state : ScanState) :
    Prop where
  /-- The scan is sound. -/
  sound : state.Sound plan
  /-- A batch with a result is done and has the results of its rows. -/
  batches : ∀ batch ∈ state.store.batches, batch.completedAt ≠ none →
    batch.state = .done ∧ batch.Compares plan premium batch.toTally
  /-- Deliveries are at work on batches of the plan without results. -/
  deliveries : ∀ delivery ∈ state.deliveries,
    delivery.batch.completedAt = none ∧ delivery.job.product = plan.product

/-- Comparing keeps the row. -/
theorem ScanPlan.compare_index {plan : ScanPlan} {premium : Nat → Decimal} {row : Nat}
    {scanned : ScannedRow} (compared : plan.compare premium row = some scanned) :
    scanned.index = row := by
  obtain ⟨screened, found, compared⟩ := Option.bind_eq_some_iff.mp compared
  have number := plan.source.screen_index found
  cases screened with
  | settled other =>
    cases compared
    exact number
  | pending item => exact (compareRow_index compared).trans number

/-- What a delivery against a connector with fixed premiums writes compares its rows. -/
theorem Delivery.compares {plan : ScanPlan} {premium : Nat → Decimal} {state : ScanState}
    (compared : state.Compared plan premium)
    (priceable : ∀ row < plan.rowsInScope.toNat, plan.Priceable row) {delivery : Delivery}
    (working : delivery ∈ state.deliveries) {target : Target}
    (answers : target.Answers delivery.job.batchMaxItems premium) {result : BatchResult}
    (executed : execute plan.config plan.source delivery.job target delivery.batch =
      some result) : delivery.batch.Compares plan premium result.toTally := by
  obtain ⟨fresh, product⟩ := compared.deliveries delivery working
  have indexes : delivery.batch.indexes = List.range' delivery.batch.rowStart
      (delivery.batch.rowEnd - delivery.batch.rowStart) := by
    rw [BatchRecord.indexes, if_pos fresh]
  have within : ∀ row ∈ delivery.batch.indexes, plan.Priceable row := by
    intro row member
    rw [indexes] at member
    obtain ⟨lower, upper⟩ := List.mem_range'_1.mp member
    apply priceable
    obtain ⟨other, inside, same⟩ := List.mem_map.mp (compared.sound.deliveries delivery working).2
    rcases compared.sound.slices with none | slices
    · rw [none] at inside
      cases inside
    · have bounds := (partition_of_slices slices).within other inside
      have stop : other.rowEnd = delivery.batch.rowEnd := congrArg (·.2.2) same
      omega
  have compares := execute_compared product answers within fresh executed
  rw [indexes] at compares
  exact compares

/-- A delivery that ends keeps a scan compared if what it writes compares its rows. -/
theorem ScanState.Compared.finish {plan : ScanPlan} {premium : Nat → Decimal} {state : ScanState}
    (compared : state.Compared plan premium) {index : Nat} {delivery : Delivery}
    (working : state.deliveries[index]? = some delivery) {write : BatchWrite}
    (writes : ∀ result, write = .result result →
      delivery.batch.Compares plan premium result.toTally) (durationMs : Nat)
    (sound : (finishDelivery state index delivery write durationMs).Sound plan) :
    (finishDelivery state index delivery write durationMs).Compared plan premium := by
  have member := List.mem_of_getElem? working
  refine ⟨sound, ?_, fun other remained =>
    compared.deliveries other ((List.eraseIdx_sublist _ _).subset remained)⟩
  intro batch inside completed
  simp only [finishDelivery, ImpactStore.completeBatch] at inside
  split at inside
  · rename_i old found
    split at inside
    · rename_i held
      rcases mem_putBatch inside with rfl | ⟨kept, -⟩
      · have slice := compared.sound.slice_of_delivery member found
        have notDone : old.completedAt = none := by
          by_contra done
          have state := (compared.batches old (ImpactStore.getBatch_eq_some found).1 done).1
          rw [state] at held
          exact BatchState.noConfusion held.1
        cases write with
        | release => exact absurd notDone completed
        | result result =>
          obtain ⟨rows, comparing, tally, closed⟩ := writes result rfl
          have start : old.rowStart = delivery.batch.rowStart := congrArg (·.2.1) slice
          have stop : old.rowEnd = delivery.batch.rowEnd := congrArg (·.2.2) slice
          refine ⟨?_, rows, ?_, tally, closed⟩
          · have open_ : result.inconclusive = [] := by
              rw [tally]
              simp [Tally.extend, Tally.empty, closed]
            simp [BatchRecord.write, resultState, open_]
          · rw [← comparing]
            simp only [BatchRecord.write, start, stop]
      · exact compared.batches batch kept completed
    · exact compared.batches batch inside completed
  · exact compared.batches batch inside completed

/-- A move that completes nothing keeps a scan compared. -/
theorem BatchMove.compared {plan : ScanPlan} {premium : Nat → Decimal} {before after : ScanState}
    {event : ScanEvent} (compared : before.Compared plan premium)
    (quiet : event.completes? = none) (move : BatchMove plan before event after)
    (sound : after.Sound plan) : after.Compared plan premium := by
  cases move with
  | frame batches deliveries =>
    refine ⟨sound, fun batch member => ?_, fun delivery member =>
      compared.deliveries delivery (deliveries.subset member)⟩
    rw [batches] at member
    exact compared.batches batch member
  | ensure job planned batches deliveries =>
    refine ⟨sound, fun batch member completed => ?_, fun delivery member => ?_⟩
    · have specs := (compared.sound.planned.coordinators job planned).specs
      rw [batches, specs] at member
      rcases compared.sound.slices with none | slices
      · rw [none, ensureBatches_of_missing before.now plan.slices_distinct
          (fun _ _ => List.forall_mem_nil _), List.nil_append] at member
        obtain ⟨spec, -, rfl⟩ := List.mem_map.mp member
        exact absurd rfl completed
      · rw [ensureBatches_of_existing] at member
        · exact compared.batches batch member completed
        · intro spec listed
          rw [← slices] at listed
          obtain ⟨other, inside, rfl⟩ := List.mem_map.mp listed
          exact ⟨other, inside, rfl⟩
    · rw [deliveries] at member
      exact compared.deliveries delivery member
  | lease index message job old delivers sent stored opened found unfinished free attempts
      batches deliveries =>
    have inside := (ImpactStore.getBatch_eq_some found).1
    have fresh : old.completedAt = none := by
      by_contra done
      exact unfinished (compared.batches old inside done).1
    refine ⟨sound, fun batch member completed => ?_, fun delivery member => ?_⟩
    · rw [batches] at member
      rcases mem_putBatch member with rfl | ⟨kept, -⟩
      · exact absurd fresh completed
      · exact compared.batches batch kept completed
    · rw [deliveries] at member
      rcases List.mem_append.mp member with earlier | new
      · exact compared.deliveries delivery earlier
      · rw [List.mem_singleton.mp new]
        exact ⟨fresh, (compared.sound.planned.job job stored).product⟩
  | write index delivery completes working write writes durationMs old found held
      batches deliveries =>
    rw [quiet] at completes
    cases completes

/-- A step against a connector with fixed premiums keeps a scan compared. -/
theorem scanStep_compared {plan : ScanPlan} {premium : Nat → Decimal}
    (priceable : ∀ row < plan.rowsInScope.toNat, plan.Priceable row) (state : ScanState)
    (event : ScanEvent) (answered : Answered premium state event)
    (compared : state.Compared plan premium) :
    (scanStep plan state event).Compared plan premium := by
  have sound := scanStep_sound compared.sound event
  have quiet : event.completes? = none → (scanStep plan state event).Compared plan premium :=
    fun none => (scanStep_move plan state event).compared compared none sound
  cases event with
  | process index target durationMs =>
    cases working : state.deliveries[index]? with
    | none =>
      have same : scanStep plan state (.process index target durationMs) = state := by
        simp only [scanStep, working]
      rw [same]
      exact compared
    | some delivery =>
      have ends : scanStep plan state (.process index target durationMs) =
          finishDelivery state index delivery (delivery.outcome plan target) durationMs := by
        simp only [scanStep, working]
      rw [ends] at sound ⊢
      refine compared.finish working (fun result outcome => ?_) durationMs sound
      have answers := answered index target durationMs delivery rfl working
      have member := List.mem_of_getElem? working
      unfold Delivery.outcome at outcome
      split at outcome
      · rename_i found executed
        cases outcome
        exact delivery.compares compared priceable member answers executed
      · cases outcome
  | crash index durationMs =>
    cases working : state.deliveries[index]? with
    | none =>
      have same : scanStep plan state (.crash index durationMs) = state := by
        simp only [scanStep, working]
      rw [same]
      exact compared
    | some delivery =>
      have ends : scanStep plan state (.crash index durationMs) =
          finishDelivery state index delivery .release durationMs := by
        simp only [scanStep, working]
      rw [ends] at sound ⊢
      exact compared.finish working (fun _ same => by cases same) durationMs sound
  | tick | cancel | plan | start | poll | dispatch | stop | read | aggregate | finalize
  | abandon | deliver | acknowledge | die => exact quiet rfl

/-- Every run against a connector with fixed premiums is compared. -/
theorem scanRun_compared {plan : ScanPlan} {premium : Nat → Decimal}
    (priceable : ∀ row < plan.rowsInScope.toNat, plan.Priceable row) {events : List ScanEvent}
    (answered : Along (scanStep plan) (Answered premium) .initial events) :
    (scanRun plan events).Compared plan premium := by
  apply answered.invariant (ScanState.Compared plan premium) (scanStep_compared priceable)
  refine ⟨ScanState.initial_sound plan, List.forall_mem_nil _, List.forall_mem_nil _⟩

/-- The slices of a plan in order are the rows in scope in order. -/
theorem ScanPlan.slices_range (plan : ScanPlan) :
    (plan.slices.flatMap fun spec => List.range' spec.2.1 (spec.2.2 - spec.2.1)) =
      List.range plan.rowsInScope.toNat := by
  have upTo : ∀ count, ((List.range count).flatMap fun batchNo =>
      List.range' (batchNo * plan.config.batchSize)
        (min ((batchNo + 1) * plan.config.batchSize) plan.rowsInScope.toNat -
          batchNo * plan.config.batchSize)) =
      List.range (min (count * plan.config.batchSize) plan.rowsInScope.toNat) := by
    intro count
    induction count with
    | zero => simp
    | succ count ih =>
      have next : (count + 1) * plan.config.batchSize =
          count * plan.config.batchSize + plan.config.batchSize := Nat.succ_mul _ _
      rw [List.range_succ, List.flatMap_append, ih, List.flatMap_singleton, List.range_eq_range',
        List.range_eq_range', next]
      rcases Nat.le_total (count * plan.config.batchSize) plan.rowsInScope.toNat with
        below | above
      · rw [min_eq_left below]
        have appended : ∀ first second, List.range' 0 first ++ List.range' first second =
            List.range' 0 (first + second) := by
          intro first second
          have joined : List.range' 0 first ++ List.range' (0 + first) second =
            List.range' 0 (first + second) := List.range'_append_1
          rwa [Nat.zero_add] at joined
        rw [appended]
        congr 1
        omega
      · have empty : min (count * plan.config.batchSize + plan.config.batchSize)
            plan.rowsInScope.toNat - count * plan.config.batchSize = 0 := by omega
        rw [empty, min_eq_right above, min_eq_right (by omega)]
        simp
  have bounds := plan.batchCount_bounds
  have covered : plan.rowsInScope.toNat ≤ plan.batchCount.toNat * plan.config.batchSize := by
    rcases Int.le_total 0 plan.batchCount with nonnegative | negative
    · have cast : ((plan.batchCount.toNat * plan.config.batchSize : Nat) : Int) =
          plan.batchCount * plan.config.batchSize := by
        push_cast
        rw [Int.toNat_of_nonneg nonnegative]
      omega
    · have size : (0 : Int) ≤ plan.config.batchSize := by positivity
      have product := mul_nonpos_of_nonpos_of_nonneg negative size
      omega
  have all := upTo plan.batchCount.toNat
  rw [min_eq_right covered] at all
  rw [← all, ScanPlan.slices, batchSpecs, List.flatMap_map]
  rfl

/-- Comparisons of consecutive rows list affected rows in row order. -/
theorem affected_sorted {plan : ScanPlan} {premium : Nat → Decimal} {indices : List Nat}
    (ascending : indices.Pairwise (· ≤ ·)) {rows : List ScannedRow}
    (comparing : indices.mapM (plan.compare premium) = some rows) :
    (rows.filterMap (·.affected?)).Pairwise fun x y => x.index ≤ y.index := by
  have same := mapM_keys id ScannedRow.index (fun _ _ found => ScanPlan.compare_index found)
    comparing
  rw [List.map_id] at same
  have sorted : rows.Pairwise fun x y => x.index ≤ y.index := by
    rw [← List.pairwise_map, same]
    exact ascending
  rw [List.pairwise_filterMap]
  refine sorted.imp fun {first second} order row found other later => ?_
  have numbers : ∀ {scanned : ScannedRow} {written : AffectedRow},
      scanned.affected? = some written → written.index = scanned.index := by
    intro scanned written shown
    unfold ScannedRow.affected? at shown
    split at shown
    · cases shown
      rfl
    · cases shown
  rw [numbers found, numbers later]
  exact order

/-- Traversals of parts make up the traversal of the whole. -/
theorem mapM_flatMap {α β γ : Type} {step : β → Option γ} {part : α → List β}
    {results : α → List γ} {wholes : List α}
    (each : ∀ whole ∈ wholes, (part whole).mapM step = some (results whole)) :
    (wholes.flatMap part).mapM step = some (wholes.flatMap results) := by
  induction wholes with
  | nil => rfl
  | cons whole rest ih =>
    rw [List.flatMap_cons, List.mapM_append, each whole List.mem_cons_self,
      ih fun other member => each other (List.mem_cons_of_mem _ member), List.flatMap_cons]
    rfl

/-- The batches of a finished scan together have the results of the rows in scope. -/
theorem ScanState.Compared.gathered {plan : ScanPlan} {premium : Nat → Decimal}
    {state : ScanState} (compared : state.Compared plan premium)
    (slices : state.store.batches.map (·.slice) = plan.slices)
    (completed : ∀ batch ∈ state.store.batches, batch.completedAt ≠ none) :
    ∃ rows, (List.range plan.rowsInScope.toNat).mapM (plan.compare premium) = some rows ∧
      (gather (orderedBatches state.store.batches)).matched = rows.countP (·.isMatch) ∧
      (gather (orderedBatches state.store.batches)).outOfScope =
        rows.filterMap (·.outOfScope?) ∧
      (gather (orderedBatches state.store.batches)).affected =
        rows.filterMap (·.affected?) := by
  have ordered : orderedBatches state.store.batches = state.store.batches := by
    apply List.Pairwise.insertionSort_eq
    have numbers : state.store.batches.map (·.batchNo) = List.range plan.batchCount.toNat := by
      have first : state.store.batches.map (·.batchNo) =
          (state.store.batches.map (·.slice)).map (·.1) := by
        rw [List.map_map]
        rfl
      rw [first, slices, ScanPlan.slices, batchSpecs, List.map_map]
      exact List.map_id' _
    rw [← List.pairwise_map, numbers]
    exact List.pairwise_le_range
  have all : state.store.batches.filter (·.completedAt.isSome) = state.store.batches :=
    List.filter_eq_self.mpr fun batch member =>
      Option.isSome_iff_ne_none.mpr (completed batch member)
  have each : ∀ batch ∈ state.store.batches, batch.Compares plan premium batch.toTally :=
    fun batch member => (compared.batches batch member (completed batch member)).2
  choose! results comparing tallies closed using each
  have ranges : (state.store.batches.flatMap fun batch =>
      List.range' batch.rowStart (batch.rowEnd - batch.rowStart)) =
      List.range plan.rowsInScope.toNat := by
    rw [← plan.slices_range, ← slices, List.flatMap_map]
    rfl
  have whole : (List.range plan.rowsInScope.toNat).mapM (plan.compare premium) =
      some (state.store.batches.flatMap results) := by
    rw [← ranges]
    exact mapM_flatMap comparing
  have parts : ∀ batch ∈ state.store.batches,
      batch.matched = (results batch).countP (·.isMatch) ∧
      batch.outOfScope = (results batch).filterMap (·.outOfScope?) ∧
      batch.affected = (results batch).filterMap (·.affected?) := by
    intro batch member
    have sorted := affected_sorted List.pairwise_le_range' (comparing batch member)
    rw [tallies batch member]
    refine ⟨Nat.zero_add _, rfl, ?_⟩
    exact sorted.insertionSort_eq
  have matched : ∀ batches : List BatchRecord,
      (∀ batch ∈ batches, batch.matched = (results batch).countP (·.isMatch)) →
      (batches.map (·.matched)).sum = (batches.flatMap results).countP (·.isMatch) := by
    intro batches holds
    rw [List.countP_flatMap]
    exact congrArg List.sum (List.map_congr_left holds)
  refine ⟨state.store.batches.flatMap results, whole, ?_, ?_, ?_⟩
  · rw [ordered, gather, all]
    exact matched _ fun batch member => (parts batch member).1
  · rw [ordered, gather, all, List.filterMap_flatMap]
    exact List.flatMap_congr fun batch member => (parts batch member).2.1
  · rw [ordered, gather, all]
    have joined : (state.store.batches.flatMap (·.affected)) =
        (state.store.batches.flatMap results).filterMap (·.affected?) := by
      rw [List.filterMap_flatMap]
      exact List.flatMap_congr fun batch member => (parts batch member).2.2
    simp only [joined]
    exact (affected_sorted List.pairwise_le_range whole).insertionSort_eq

/-- A written decimal reads back. -/
theorem readDecimal_text (value : Decimal) : readDecimal (decimalText value) = .ok value := by
  rw [readDecimal, decimalText, String.toList_ofList, Decimal.parse_text]

/-- A value taken from an outcome is its result. -/
theorem ok_of_toOption {α ε : Type} {outcome : Except ε α} {value : α}
    (taken : outcome.toOption = some value) : outcome = .ok value := by
  cases outcome with
  | error error => cases taken
  | ok other =>
    cases taken
    rfl

/-- What a pass does with a row is told by the row's comparison. -/
theorem ScanPlan.passRow_of_compare {plan : ScanPlan} {premium : Nat → Decimal} {row : Nat}
    (priceable : plan.Priceable row) {scanned : ScannedRow}
    (compared : plan.compare premium row = some scanned) (totals : PassTotals) :
    (scanned.isMatch = true ∧ scanned.outOfScope? = none ∧ scanned.affected? = none ∧
      plan.passRow premium totals row = .ok { totals with matched := totals.matched + 1 }) ∨
    (∃ out, scanned.isMatch = false ∧ scanned.outOfScope? = some out ∧ scanned.affected? = none ∧
      plan.passRow premium totals row =
        .ok { totals with outOfScope := totals.outOfScope + 1 }) ∨
    ∃ written delta, scanned.isMatch = false ∧ scanned.outOfScope? = none ∧
      scanned.affected? = some written ∧ written.delta = .ok delta ∧
      plan.passRow premium totals row = totals.add delta := by
  obtain ⟨screened, screening, compared⟩ := Option.bind_eq_some_iff.mp compared
  have kept := screening
  unfold ScanSource.screen at kept
  obtain ⟨policy, found, kept⟩ := Option.bind_eq_some_iff.mp kept
  split at kept
  · rename_i apart
    cases kept
    cases compared
    refine .inr (.inl ⟨_, rfl, rfl, rfl, ?_⟩)
    simp only [ScanPlan.passRow, found, if_pos apart]
  · rename_i apart
    split at kept
    · rename_i result priced
      cases kept
      obtain ⟨differs, decided, rfl⟩ := compareRow_premium compared
      obtain ⟨delta, subtracted, decided⟩ := Option.bind_eq_some_iff.mp decided
      obtain ⟨magnitude, taken, decided⟩ := Option.bind_eq_some_iff.mp decided
      have difference := ok_of_toOption subtracted
      have size := ok_of_toOption taken
      have beyond := ok_of_toOption decided
      cases differs with
      | true =>
        refine .inr (.inr ⟨_, delta, rfl, rfl, rfl, ?_, ?_⟩)
        · simp only [AffectedRow.delta, readDecimal_text]
          exact difference
        · simp only [ScanPlan.passRow, found, if_neg apart, priced]
          simp only [difference, size, beyond, bind, Except.bind, if_true]
      | false =>
        refine .inl ⟨rfl, rfl, rfl, ?_⟩
        simp only [ScanPlan.passRow, found, if_neg apart, priced]
        simp only [difference, size, beyond, bind, Except.bind, Bool.false_eq_true, if_false]
        rfl
    · rename_i supplied expected outside
      cases kept
      cases compared
      refine .inr (.inl ⟨_, rfl, rfl, rfl, ?_⟩)
      simp only [ScanPlan.passRow, found, if_neg apart, outside]
    · cases kept
      exact absurd screening (priceable _ _)

/-- A pass counts what the comparisons of its rows list, and sums up their differences. -/
theorem ScanPlan.pass_fold {plan : ScanPlan} {premium : Nat → Decimal} {indices : List Nat}
    (priceable : ∀ row ∈ indices, plan.Priceable row) {rows : List ScannedRow}
    (comparing : indices.mapM (plan.compare premium) = some rows) {deltas : List Decimal}
    (written : (rows.filterMap (·.affected?)).mapM (·.delta) = .ok deltas) (totals : PassTotals)
    {sums : DeltaSums} {net : Decimal} (summed : deltas.foldlM DeltaSums.add totals.sums = .ok sums)
    (netted : deltas.foldlM (Decimal.add decimalContext) totals.net = .ok net) :
    indices.foldlM (plan.passRow premium) totals = .ok {
      matched := totals.matched + rows.countP (·.isMatch)
      outOfScope := totals.outOfScope + (rows.filterMap (·.outOfScope?)).length
      affected := totals.affected + (rows.filterMap (·.affected?)).length
      sums := sums
      net := net } := by
  induction indices generalizing rows deltas totals with
  | nil =>
    cases comparing
    cases written
    cases summed
    cases netted
    rfl
  | cons row rest ih =>
    rw [List.mapM_cons] at comparing
    obtain ⟨scanned, one, comparing⟩ := Option.bind_eq_some_iff.mp comparing
    obtain ⟨later, others, comparing⟩ := Option.bind_eq_some_iff.mp comparing
    cases comparing
    have tail : ∀ row ∈ rest, plan.Priceable row :=
      fun other member => priceable other (List.mem_cons_of_mem _ member)
    rw [List.foldlM_cons]
    rcases plan.passRow_of_compare (priceable row List.mem_cons_self) one totals with
      ⟨matching, inside, unaffected, step⟩ | ⟨out, matching, outside, unaffected, step⟩ |
        ⟨record, delta, matching, inside, affected, difference, step⟩
    · rw [List.filterMap_cons_none unaffected] at written ⊢
      rw [List.countP_cons_of_pos matching, List.filterMap_cons_none inside, step]
      simp only [bind, Except.bind]
      rw [ih tail others written { totals with matched := totals.matched + 1 } summed netted]
      simp only [Nat.add_assoc, Nat.add_comm 1]
    · rw [List.filterMap_cons_none unaffected] at written ⊢
      rw [List.countP_cons_of_neg (by simp [matching]), List.filterMap_cons_some outside, step]
      simp only [bind, Except.bind]
      rw [ih tail others written { totals with outOfScope := totals.outOfScope + 1 } summed netted]
      simp only [List.length_cons, Nat.add_assoc, Nat.add_comm 1]
    · rw [List.filterMap_cons_some affected, List.mapM_cons] at written
      obtain ⟨first, found, written⟩ := bind_eq_ok written
      obtain ⟨remaining, deltasLater, written⟩ := bind_eq_ok written
      cases written
      rw [difference] at found
      cases found
      rw [List.foldlM_cons] at summed netted
      obtain ⟨sums', added, summed⟩ := bind_eq_ok summed
      obtain ⟨net', moved, netted⟩ := bind_eq_ok netted
      have counted : totals.add delta = .ok { totals with
          affected := totals.affected + 1, sums := sums', net := net' } := by
        simp only [PassTotals.add, added, moved, bind, Except.bind]
        rfl
      rw [List.countP_cons_of_neg (by simp [matching]), List.filterMap_cons_none inside,
        List.filterMap_cons_some affected, step, counted]
      simp only [bind, Except.bind]
      rw [ih tail others deltasLater
        { totals with affected := totals.affected + 1, sums := sums', net := net' } summed netted]
      simp only [List.length_cons, Nat.add_assoc, Nat.add_comm 1]

/-- Against a connector that answers each row with a fixed premium, every aggregate of a scan whose
batches are all done has the figures of one pass over the rows in scope. -/
theorem batching_transparent (plan : ScanPlan) (premium : Nat → Decimal) (events : List ScanEvent)
    (priceable : ∀ row < plan.rowsInScope.toNat, plan.Priceable row)
    (answered : Along (scanStep plan) (Answered premium) .initial events) (job : ImpactJob)
    (aggregate : ImpactAggregate)
    (aggregated : aggregateJob job (scanRun plan events).store.batches = .ok aggregate)
    (done : aggregate.batchesDone = plan.batchCount.toNat) :
    plan.sequentialPass premium = .ok aggregate.pass := by
  have compared := scanRun_compared priceable answered
  have sound := compared.sound
  obtain ⟨figures, figured, same⟩ := bind_eq_ok aggregated
  cases same
  have count : ((scanRun plan events).store.batches.countP fun batch => batch.state = .done) =
      plan.batchCount.toNat := by
    rw [← done]
    exact ((List.perm_insertionSort _ _).countP_eq _).symm
  have planned : plan.slices.length = plan.batchCount.toNat := by
    rw [ScanPlan.slices, batchSpecs, List.length_map, List.length_range]
    rfl
  have slices : (scanRun plan events).store.batches.map (·.slice) = plan.slices := by
    rcases sound.slices with none | slices
    · rw [none] at count ⊢
      rw [List.countP_nil] at count
      exact (List.eq_nil_of_length_eq_zero (planned.trans count.symm)).symm
    · exact slices
  have finished : ∀ batch ∈ (scanRun plan events).store.batches, batch.state = .done := by
    have length := congrArg List.length slices
    rw [List.length_map, planned, ← count] at length
    intro batch member
    exact of_decide_eq_true (List.countP_eq_length.mp length.symm batch member)
  have completed : ∀ batch ∈ (scanRun plan events).store.batches, batch.completedAt ≠ none :=
    fun batch member => ((sound.batches batch member).finished (finished batch member)).1
  obtain ⟨rows, comparing, matched, outside, affected⟩ := compared.gathered slices completed
  rw [affected] at figured
  obtain ⟨deltas, written, figured⟩ := bind_eq_ok figured
  obtain ⟨sums, summed, figured⟩ := bind_eq_ok figured
  obtain ⟨net, netted, figured⟩ := bind_eq_ok figured
  obtain ⟨exposure, exposed, figured⟩ := bind_eq_ok figured
  obtain ⟨magnitudes, -, figured⟩ := bind_eq_ok figured
  obtain ⟨absSum, -, figured⟩ := bind_eq_ok figured
  obtain ⟨overTotal, over_, figured⟩ := bind_eq_ok figured
  obtain ⟨underTotal, under, figured⟩ := bind_eq_ok figured
  obtain ⟨signedNet, signed_, figured⟩ := bind_eq_ok figured
  obtain ⟨absoluteExposure, absolute_, figured⟩ := bind_eq_ok figured
  obtain ⟨meanAbs, -, figured⟩ := bind_eq_ok figured
  obtain ⟨meanSigned, -, figured⟩ := bind_eq_ok figured
  cases figured
  have pass := ScanPlan.pass_fold (fun row member => priceable row (List.mem_range.mp member))
    comparing written .zero summed netted
  unfold ScanPlan.sequentialPass
  rw [pass]
  simp only [bind, Except.bind, exposed, over_, under, signed_, absolute_]
  simp only [ImpactAggregate.pass, matched, outside, affected, PassTotals.zero, Nat.zero_add,
    Nat.add_sub_cancel]
  rfl

/-- Premiums of a connector that overcharges the first row. -/
def fixedPremium (row : Nat) : Decimal := .finite false (if row = 0 then 12000 else 10000) (-2)

/-- Connector with these premiums. -/
def fixedQuotes : Target where
  unregistered := none
  reply items := .quote (some (if items.any (·.index = 0) then "120.00" else "100.00"))
  retries := 0
  breakerOpened := false

/-- The connector answers each row alone. -/
theorem fixedQuotes_answers : fixedQuotes.Answers 0 fixedPremium where
  registered := rfl
  quoted _ item := by
    by_cases first : item.index = 0
    · refine ⟨"120.00", ?_, ?_⟩
      · simp [fixedQuotes, first]
      · rw [fixedPremium, if_pos first]
        rfl
    · refine ⟨"100.00", ?_, ?_⟩
      · simp [fixedQuotes, first]
      · rw [fixedPremium, if_neg first]
        rfl
  batched batched := absurd rfl batched

/-- Without batch quotes the connector answers every delivery. -/
theorem fixedQuotes_answered {state : ScanState}
    (plain : ∀ delivery ∈ state.deliveries, delivery.job.batchMaxItems = 0)
    (index durationMs : Nat) :
    Answered fixedPremium state (.process index fixedQuotes durationMs) := by
  intro other target duration delivery same working
  cases same
  rw [plain delivery (List.mem_of_getElem? working)]
  exact fixedQuotes_answers

/-- A step that processes nothing asks for no premium. -/
theorem answered_of_other {premium : Nat → Decimal} {state : ScanState} {event : ScanEvent}
    (other : event.completes? = none) : Answered premium state event := by
  intro index target durationMs delivery same
  rw [same] at other
  cases other

/-- Both batches of the pair are processed in turn. -/
def pairProcessed : List ScanEvent :=
  firstDelivery ++ [.process 0 fixedQuotes 5, .acknowledge 0, .poll 0 false,
    .dispatch 0 0 "push-2" true false, .dispatch 0 0 "push-2" true false, .deliver 0,
    .process 0 fixedQuotes 5]

/-- Every delivery of the run is answered. -/
theorem pairProcessed_answered :
    Along (scanStep pairPlan) (Answered fixedPremium) .initial pairProcessed := by
  refine ⟨answered_of_other rfl, answered_of_other rfl, answered_of_other rfl,
    answered_of_other rfl, answered_of_other rfl, ?first, answered_of_other rfl,
    answered_of_other rfl, answered_of_other rfl, answered_of_other rfl, answered_of_other rfl,
    ?second, trivial⟩
  case first => exact fixedQuotes_answered (by decide) 0 5
  case second => exact fixedQuotes_answered (by decide) 0 5

/-- The rows of the pair are priceable. -/
theorem pairPlan_priceable : ∀ row < pairPlan.rowsInScope.toNat, pairPlan.Priceable row := by
  intro row within code transient settled
  have none : (pairPlan.source.screen pairPlan.product row).bind (·.settled?) = none := by
    have few : row < 2 := within
    rcases (by omega : row = 0 ∨ row = 1) with rfl | rfl <;> rfl
  rw [settled] at none
  cases none

/-- Two batches of one row give the figures of one pass over both rows. -/
theorem batching_transparent_once : ∃ aggregate,
    aggregateJob (pairPlan.job 0) (scanRun pairPlan pairProcessed).store.batches =
      .ok aggregate ∧
    pairPlan.sequentialPass fixedPremium = .ok aggregate.pass :=
  ⟨_, rfl, batching_transparent pairPlan fixedPremium pairProcessed pairPlan_priceable
    pairProcessed_answered (pairPlan.job 0) _ rfl rfl⟩

end RateGuard
