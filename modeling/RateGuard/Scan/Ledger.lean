import RateGuard.Scan.Exposure

/-!
# The aggregate as an account of the portfolio

Every row of the portfolio is in one class: matching, out of scope, affected, without a
comparison, or unprocessed. The aggregate of reachable batches counts these classes, and
its decision says what they are: it blocks when a row is affected, and lets pass only
when every row is resolved and nothing stopped the scan.
-/

open Transition DecimalFloat Outcome

namespace RateGuard

/-- Class of a row. -/
inductive RowClass where
  | matching | outOfScope | affected | inconclusive | unprocessed
  deriving DecidableEq, Repr

/-- Batch with a result for a row. -/
def resultFor (batches : List BatchRecord) (row : Nat) : Option BatchRecord :=
  batches.find? fun batch =>
    batch.completedAt.isSome && batch.rowStart ≤ row && row < batch.rowEnd

/-- Class of a row by the batches. -/
def rowClass (batches : List BatchRecord) (row : Nat) : RowClass :=
  match resultFor batches row with
  | none => .unprocessed
  | some batch =>
    if row ∈ batch.outOfScope.map (·.index) then .outOfScope
    else if row ∈ batch.affected.map (·.index) then .affected
    else if row ∈ batch.inconclusive.map (·.index) then .inconclusive
    else .matching

/-- A row is resolved when it matches or is out of scope. -/
def RowResolved (batches : List BatchRecord) (row : Nat) : Prop :=
  rowClass batches row = .matching ∨ rowClass batches row = .outOfScope

/-- A budget ran out, the row budget included. -/
def ImpactJob.budgetStopped (job : ImpactJob) : Prop :=
  job.budgetExhausted ≠ [] ∨ job.rowsInScope < job.rowsTotal

/-- The scan was halted. -/
def ImpactJob.halted (job : ImpactJob) : Prop := ∃ reason, job.haltReason = some reason ∧ reason ≠ ""

/-- A found result contains the row. -/
theorem resultFor_eq_some {batches : List BatchRecord} {row : Nat} {batch : BatchRecord}
    (found : resultFor batches row = some batch) :
    batch ∈ batches ∧ batch.completedAt ≠ none ∧ batch.rowStart ≤ row ∧ row < batch.rowEnd := by
  have holds := List.find?_some found
  simp only [Bool.and_eq_true, decide_eq_true_eq] at holds
  refine ⟨List.mem_of_find?_eq_some found, fun none => ?_, holds.1.2, holds.2⟩
  rw [none] at holds
  exact absurd holds.1.1 Bool.false_ne_true

/-- A batch with a result for a row is found when the batches are disjoint. -/
theorem resultFor_of_mem {batches : List BatchRecord} {rows row : Nat}
    (partition : Partition batches rows) (within : row < rows) {batch : BatchRecord}
    (member : batch ∈ batches) (done : batch.completedAt ≠ none) (lower : batch.rowStart ≤ row)
    (upper : row < batch.rowEnd) : resultFor batches row = some batch := by
  cases found : resultFor batches row with
  | some other =>
    obtain ⟨inside, -, low, high⟩ := resultFor_eq_some found
    obtain ⟨_, -, unique⟩ := partition.covers row within
    rw [unique other ⟨inside, low, high⟩, unique batch ⟨member, lower, upper⟩]
  | none =>
    have absent := List.find?_eq_none.mp found batch member
    cases time : batch.completedAt with
    | none => exact absurd time done
    | some finished => simp [time, lower, upper] at absent

/-- Batches sorted by number do not depend on the order they are listed in. -/
theorem orderedBatches_perm {plan : ScanPlan} {state : ScanState} (sound : state.Sound plan)
    {batches : List BatchRecord} (listed : batches.Perm state.store.batches) :
    orderedBatches batches = orderedBatches state.store.batches := by
  have sorted : ∀ list : List BatchRecord,
      (orderedBatches list).Pairwise fun x y => x.batchNo ≤ y.batchNo := fun list =>
    List.pairwise_insertionSort (fun x y : BatchRecord => x.batchNo ≤ y.batchNo) list
  have perm : (orderedBatches batches).Perm (orderedBatches state.store.batches) :=
    ((List.perm_insertionSort _ _).trans listed).trans (List.perm_insertionSort _ _).symm
  apply List.Perm.eq_of_pairwise ?_ (sorted batches) (sorted state.store.batches) perm
  intro first second one two before after
  have inside : first ∈ state.store.batches :=
    listed.mem_iff.mp ((List.perm_insertionSort _ _).mem_iff.mp one)
  have also := (List.perm_insertionSort _ _).mem_iff.mp two
  exact sound.unique inside also (Nat.le_antisymm before after)

/-- The counts of a batch with a result total its rows. -/
theorem BatchRecord.Sound.total {config : ImpactConfig} {batch : BatchRecord}
    (sound : batch.Sound config) (done : batch.completedAt ≠ none) :
    batch.matched + batch.outOfScope.length + batch.affected.length +
      batch.inconclusive.length = batch.rows := (sound.accounted done).total

/-- The gathered counts total the processed rows. -/
theorem gather_total {config : ImpactConfig} {batches : List BatchRecord}
    (sound : ∀ batch ∈ batches, batch.Sound config) :
    (gather batches).matched + (gather batches).outOfScope.length +
      (gather batches).affected.length + (gather batches).inconclusive.length =
      processedRows batches := by
  have lengths : ∀ finished : List BatchRecord, (∀ batch ∈ finished, batch.Sound config ∧
      batch.completedAt ≠ none) →
      (finished.map (·.matched)).sum + (finished.flatMap (·.outOfScope)).length +
        (finished.flatMap (·.affected)).length + (finished.flatMap (·.inconclusive)).length =
        (finished.map (·.rows)).sum := by
    intro finished holds
    induction finished with
    | nil => rfl
    | cons batch rest ih =>
      have tail := ih fun other member => holds other (List.mem_cons_of_mem _ member)
      obtain ⟨one, done⟩ := holds batch List.mem_cons_self
      have head := one.total done
      simp only [List.map_cons, List.sum_cons, List.flatMap_cons, List.length_append]
      omega
  have all := lengths (batches.filter (·.completedAt.isSome)) fun batch member => by
    obtain ⟨inside, done⟩ := List.mem_filter.mp member
    exact ⟨sound batch inside, Option.isSome_iff_ne_none.mp done⟩
  simp only [gather, processedRows, List.length_insertionSort]
  exact all

/-- Some reason is given exactly when the scan lacks something. -/
theorem incompleteReasons_eq_nil {job : ImpactJob} {unprocessed : Int} {inconclusive : Nat} :
    incompleteReasons job unprocessed inconclusive = [] ↔
      ¬job.rowsInScope < job.rowsTotal ∧ ¬0 < unprocessed - (job.rowsTotal - job.rowsInScope) ∧
        inconclusive = 0 ∧ job.budgetExhausted = [] ∧ ¬job.halted := by
  have one : ∀ (condition : Prop) [Decidable condition] (text : String),
      (if condition then [text] else []) = [] ↔ ¬condition := by
    intro condition _ text
    by_cases holds : condition <;> simp [holds]
  unfold incompleteReasons ImpactJob.halted
  simp only [List.append_eq_nil_iff, List.map_eq_nil_iff]
  rw [one, one, one, Nat.pos_iff_ne_zero, not_not]
  cases job.haltReason with
  | none =>
    simp
    tauto
  | some reason =>
    simp
    tauto

/-- A row of a batch with a result has the class the batch lists it in. -/
theorem rowClass_of_result {batches : List BatchRecord} {row : Nat} {batch : BatchRecord}
    (found : resultFor batches row = some batch) (distinct : batch.indices.Nodup) :
    (rowClass batches row = .affected ↔ row ∈ batch.affected.map (·.index)) ∧
      (rowClass batches row = .inconclusive ↔ row ∈ batch.inconclusive.map (·.index)) := by
  unfold Tally.indices at distinct
  have parts := List.nodup_append'.mp distinct
  have first := List.nodup_append'.mp parts.1
  have apart : row ∈ batch.outOfScope.map (·.index) → row ∉ batch.affected.map (·.index) :=
    fun here there => first.2.2 here there
  have separate : row ∈ batch.outOfScope.map (·.index) ∨ row ∈ batch.affected.map (·.index) →
      row ∉ batch.inconclusive.map (·.index) :=
    fun here there => parts.2.2 (List.mem_append.mpr here) there
  simp only [rowClass, found]
  by_cases out : row ∈ batch.outOfScope.map (·.index)
  · rw [if_pos out]
    exact ⟨⟨nofun, fun here => absurd here (apart out)⟩,
      ⟨nofun, fun here => absurd here (separate (.inl out))⟩⟩
  · by_cases differs : row ∈ batch.affected.map (·.index)
    · rw [if_neg out, if_pos differs]
      exact ⟨⟨fun _ => differs, fun _ => rfl⟩,
        ⟨nofun, fun here => absurd here (separate (.inr differs))⟩⟩
    · rw [if_neg out, if_neg differs]
      by_cases open_ : row ∈ batch.inconclusive.map (·.index)
      · rw [if_pos open_]
        exact ⟨⟨nofun, fun here => absurd here differs⟩, ⟨fun _ => open_, fun _ => rfl⟩⟩
      · rw [if_neg open_]
        exact ⟨⟨nofun, fun here => absurd here differs⟩, ⟨nofun, fun here => absurd here open_⟩⟩

/-- The lengths of the planned slices total the rows in scope. -/
theorem ScanPlan.slices_rows (plan : ScanPlan) :
    (plan.slices.map fun spec => spec.2.2 - spec.2.1).sum = plan.rowsInScope.toNat := by
  have bounds := plan.batchCount_bounds
  have prefixes : ∀ count : Nat,
      ((List.range count).map fun number => min ((number + 1) * plan.config.batchSize)
        plan.rowsInScope.toNat - min (number * plan.config.batchSize)
          plan.rowsInScope.toNat).sum =
        min (count * plan.config.batchSize) plan.rowsInScope.toNat := by
    intro count
    induction count with
    | zero => simp
    | succ count ih =>
      have step : count * plan.config.batchSize ≤ (count + 1) * plan.config.batchSize :=
        Nat.mul_le_mul_right _ (Nat.le_succ count)
      rw [List.range_succ, List.map_append, List.sum_append, ih, List.map_singleton,
        List.sum_singleton]
      omega
  have same : (plan.slices.map fun spec => spec.2.2 - spec.2.1) =
      (List.range plan.batchCount.toNat).map fun number =>
        min ((number + 1) * plan.config.batchSize) plan.rowsInScope.toNat -
          min (number * plan.config.batchSize) plan.rowsInScope.toNat := by
    have numbers : plan.slices = (List.range plan.batchCount.toNat).map fun number =>
        (number, number * plan.config.batchSize,
          min ((number + 1) * plan.config.batchSize) plan.rowsInScope.toNat) := rfl
    rw [numbers, List.map_map]
    apply List.map_congr_left
    intro number listed
    have below := (plan.slice_bounds (List.mem_map_of_mem (f := fun number =>
      (number, number * plan.config.batchSize,
        min ((number + 1) * plan.config.batchSize) plan.rowsInScope.toNat)) listed))
    have start : number * plan.config.batchSize < plan.rowsInScope.toNat :=
      Nat.lt_of_lt_of_le below.2.1 below.2.2.1
    simp only [Function.comp_apply, Nat.min_eq_left start.le]
  rw [same, prefixes]
  apply Nat.min_eq_right
  have cast : ((plan.batchCount.toNat * plan.config.batchSize : Nat) : Int) =
      (plan.batchCount.toNat : Int) * plan.config.batchSize := by push_cast; rfl
  rcases Int.le_total 0 plan.batchCount with counted | negative
  · rw [Int.toNat_of_nonneg counted] at cast
    omega
  · have size : (0 : Int) ≤ plan.config.batchSize := by positivity
    have product := mul_nonpos_of_nonpos_of_nonneg negative size
    omega

/-- The rows in scope are rows of the portfolio. -/
theorem ScanPlan.rowsInScope_le (plan : ScanPlan) :
    plan.rowsInScope ≤ plan.source.rows.length := min_le_left _ _

/-- Listed rows of a batch with a result are rows of the portfolio that the batch is found for. -/
theorem ScanState.Sound.found {plan : ScanPlan} {state : ScanState} (sound : state.Sound plan)
    {batch : BatchRecord} (member : batch ∈ state.store.batches) {row : Nat}
    (done : batch.completedAt ≠ none) (lower : batch.rowStart ≤ row)
    (upper : row < batch.rowEnd) :
    resultFor state.store.batches row = some batch ∧ row < plan.source.rows.length := by
  rcases sound.slices with none | slices
  · rw [none] at member
    cases member
  · have partition := partition_of_slices slices
    have last := (partition.within batch member).2
    have total := plan.rowsInScope_le
    exact ⟨resultFor_of_mem partition (by omega) member done lower upper, by omega⟩

/-- A list of a batch is empty exactly when no row is in its class. -/
theorem ScanState.Sound.class_empty {plan : ScanPlan} {state : ScanState}
    (sound : state.Sound plan) :
    ((∀ batch ∈ state.store.batches, batch.affected = []) ↔
      ∀ row < plan.source.rows.length, rowClass state.store.batches row ≠ .affected) ∧
    ((∀ batch ∈ state.store.batches, batch.inconclusive = []) ↔
      ∀ row < plan.source.rows.length, rowClass state.store.batches row ≠ .inconclusive) := by
  have classes : ∀ row batch, resultFor state.store.batches row = some batch →
      (rowClass state.store.batches row = .affected ↔ row ∈ batch.affected.map (·.index)) ∧
      (rowClass state.store.batches row = .inconclusive ↔
        row ∈ batch.inconclusive.map (·.index)) := by
    intro row batch found
    obtain ⟨member, done, -⟩ := resultFor_eq_some found
    exact rowClass_of_result found ((sound.batches batch member).accounted done).distinct
  have unprocessed : ∀ row, resultFor state.store.batches row = none →
      rowClass state.store.batches row = .unprocessed := by
    intro row none
    simp only [rowClass, none]
  have listed : ∀ batch ∈ state.store.batches, ∀ row ∈ batch.indices,
      resultFor state.store.batches row = some batch ∧ row < plan.source.rows.length := by
    intro batch member row inside
    have holds := sound.batches batch member
    by_cases done : batch.completedAt = none
    · rw [holds.empty done] at inside
      cases inside
    · obtain ⟨lower, upper⟩ := (holds.accounted done).inside row inside
      exact sound.found member done lower upper
  constructor
  · constructor
    · intro empty row _ affected
      cases found : resultFor state.store.batches row with
      | none =>
        rw [unprocessed row found] at affected
        cases affected
      | some batch =>
        have inside := (classes row batch found).1.mp affected
        rw [empty batch (resultFor_eq_some found).1] at inside
        cases inside
    · intro never batch member
      cases list : batch.affected with
      | nil => rfl
      | cons entry rest =>
        have inside : entry.index ∈ batch.affected.map (·.index) := by
          rw [list]
          exact List.mem_cons_self
        have indices : entry.index ∈ batch.indices :=
          List.mem_append_left _ (List.mem_append_right _ inside)
        obtain ⟨found, within⟩ := listed batch member entry.index indices
        exact absurd ((classes _ batch found).1.mpr inside) (never _ within)
  · constructor
    · intro empty row _ affected
      cases found : resultFor state.store.batches row with
      | none =>
        rw [unprocessed row found] at affected
        cases affected
      | some batch =>
        have inside := (classes row batch found).2.mp affected
        rw [empty batch (resultFor_eq_some found).1] at inside
        cases inside
    · intro never batch member
      cases list : batch.inconclusive with
      | nil => rfl
      | cons entry rest =>
        have inside : entry.index ∈ batch.inconclusive.map (·.index) := by
          rw [list]
          exact List.mem_cons_self
        obtain ⟨found, within⟩ := listed batch member entry.index (List.mem_append_right _ inside)
        exact absurd ((classes _ batch found).2.mpr inside) (never _ within)

/-- The gathered lists are empty exactly when those of every batch are. -/
theorem gather_eq_nil {config : ImpactConfig} {batches : List BatchRecord}
    (sound : ∀ batch ∈ batches, batch.Sound config) :
    ((gather batches).affected.length = 0 ↔ ∀ batch ∈ batches, batch.affected = []) ∧
      ((gather batches).inconclusive.length = 0 ↔ ∀ batch ∈ batches, batch.inconclusive = []) := by
  have unfinished : ∀ batch ∈ batches, batch.completedAt.isSome = false →
      batch.affected = [] ∧ batch.inconclusive = [] := by
    intro batch member pending
    have empty := (sound batch member).empty (Option.isSome_eq_false_iff.mp pending |>
      Option.isNone_iff_eq_none.mp)
    rw [empty]
    exact ⟨rfl, rfl⟩
  simp only [gather, List.length_insertionSort, List.length_eq_zero_iff, List.flatMap_eq_nil_iff,
    List.mem_filter]
  constructor
  · constructor
    · intro empty batch member
      cases done : batch.completedAt.isSome with
      | true => exact empty batch ⟨member, done⟩
      | false => exact (unfinished batch member done).1
    · exact fun empty batch member => empty batch member.1
  · constructor
    · intro empty batch member
      cases done : batch.completedAt.isSome with
      | true => exact empty batch ⟨member, done⟩
      | false => exact (unfinished batch member done).2
    · exact fun empty batch member => empty batch member.1

/-- When every row is resolved, every batch has a result without open rows. -/
theorem ScanState.Sound.all_finished {plan : ScanPlan} {state : ScanState}
    (sound : state.Sound plan)
    (resolved : ∀ row < plan.source.rows.length, RowResolved state.store.batches row) :
    ∀ batch ∈ state.store.batches, batch.completedAt ≠ none ∧ batch.state = .done := by
  intro batch member
  have processed : ∀ row < plan.source.rows.length,
      rowClass state.store.batches row ≠ .inconclusive ∧
        rowClass state.store.batches row ≠ .unprocessed := by
    intro row within
    rcases resolved row within with matching | out
    · rw [matching]
      exact ⟨nofun, nofun⟩
    · rw [out]
      exact ⟨nofun, nofun⟩
  have completed : batch.completedAt ≠ none := by
    rcases sound.slices with none | slices
    · rw [none] at member
      cases member
    · have partition := partition_of_slices slices
      obtain ⟨nonempty, last⟩ := partition.within batch member
      have total := plan.rowsInScope_le
      have within : batch.rowStart < plan.source.rows.length := by omega
      cases found : resultFor state.store.batches batch.rowStart with
      | none =>
        have missing : rowClass state.store.batches batch.rowStart = .unprocessed := by
          simp only [rowClass, found]
        exact absurd missing (processed _ within).2
      | some other =>
        obtain ⟨inside, done, lower, upper⟩ := resultFor_eq_some found
        obtain ⟨_, -, unique⟩ := partition.covers batch.rowStart (by omega)
        rw [unique batch ⟨member, le_rfl, nonempty⟩, ← unique other ⟨inside, lower, upper⟩]
        exact done
  refine ⟨completed, (sound.batches batch member).resolved completed ?_⟩
  have closed := sound.class_empty.2.mpr (fun row within => (processed row within).1) batch member
  unfold Tally.unresolvedTransient
  rw [closed]
  rfl

/-- When every batch has a result, the rows in scope are processed. -/
theorem ScanState.Sound.processed {plan : ScanPlan} {state : ScanState}
    (sound : state.Sound plan) (created : state.store.batches.map (·.slice) = plan.slices)
    (completed : ∀ batch ∈ state.store.batches, batch.completedAt ≠ none) :
    processedRows state.store.batches = plan.rowsInScope.toNat := by
  have all : state.store.batches.filter (·.completedAt.isSome) = state.store.batches :=
    List.filter_eq_self.mpr fun batch member =>
      Option.isSome_iff_ne_none.mpr (completed batch member)
  have rows : state.store.batches.map (·.rows) =
      (state.store.batches.map (·.slice)).map fun spec => spec.2.2 - spec.2.1 := by
    rw [List.map_map]
    rfl
  unfold processedRows
  rw [all, rows, created, plan.slices_rows]

/-- The batches sorted by number. -/
theorem orderedBatches_mem {batches : List BatchRecord} {batch : BatchRecord} :
    batch ∈ orderedBatches batches ↔ batch ∈ batches :=
  (List.perm_insertionSort _ _).mem_iff

/-- The processed rows do not depend on the order of the batches. -/
theorem processedRows_ordered (batches : List BatchRecord) :
    processedRows (orderedBatches batches) = processedRows batches :=
  (((List.perm_insertionSort (fun x y : BatchRecord => x.batchNo ≤ y.batchNo) batches).filter
    _).map _).sum_eq

/-- What an aggregate says about the rows of the portfolio. -/
structure Accounting (plan : ScanPlan) (batches : List BatchRecord) (job : ImpactJob)
    (aggregate : ImpactAggregate) : Prop where
  /-- The total is that of the portfolio. -/
  total : aggregate.rowsTotal = plan.source.rows.length
  /-- The five counts make up the total. -/
  counts : ∃ matched : Nat, aggregate.successfulComparisons = matched + aggregate.mismatches ∧
    (aggregate.rowsTotal : Int) = matched + aggregate.mismatches + aggregate.inconclusive +
      aggregate.outOfScopePolicies + aggregate.unprocessedPolicies
  /-- The scan may pass exactly when every row is resolved and nothing stopped it. -/
  passes : aggregate.impactDecision = .passEligible ↔
    (∀ row < aggregate.rowsTotal, RowResolved batches row) ∧ job.cancelRequested = false ∧
      ¬job.halted ∧ ¬job.budgetStopped
  /-- The scan blocks exactly when a row is affected. -/
  blocks : aggregate.impactDecision = .block ↔
    ∃ row < aggregate.rowsTotal, rowClass batches row = .affected

/-- The decision lets pass exactly without mismatches in a complete scan. -/
theorem scanDecision_passEligible {mismatches : Nat} {cancelled complete : Bool} :
    scanDecision mismatches cancelled complete = .passEligible ↔
      mismatches = 0 ∧ cancelled = false ∧ complete = true := by
  unfold scanDecision
  rcases Nat.eq_zero_or_pos mismatches with none | some
  · cases cancelled <;> cases complete <;> simp [none]
  · rw [if_pos some]
    simp only [reduceCtorEq, false_iff, not_and]
    omega

/-- The decision blocks exactly with mismatches. -/
theorem scanDecision_block {mismatches : Nat} {cancelled complete : Bool} :
    scanDecision mismatches cancelled complete = .block ↔ 0 < mismatches := by
  unfold scanDecision
  rcases Nat.eq_zero_or_pos mismatches with none | some
  · cases cancelled <;> cases complete <;> simp [none]
  · rw [if_pos some]
    simp [some]

/-- Completeness is nothing lacking, nothing unprocessed and every batch done. -/
theorem scanComplete_eq_true {job : ImpactJob} {reasons : List String} {unprocessed : Int}
    {batches : List BatchRecord} :
    scanComplete job reasons unprocessed batches = true ↔
      job.cancelRequested = false ∧ reasons = [] ∧ unprocessed = 0 ∧
        ∀ batch ∈ batches, batch.state = .done := by
  simp only [scanComplete, Bool.and_eq_true, Bool.not_eq_true', List.isEmpty_iff,
    decide_eq_true_eq, List.countP_eq_length, and_assoc]

/-- An aggregate of reachable batches accounts for the portfolio. -/
theorem aggregateJob_accounting {plan : ScanPlan} {state : ScanState} (sound : state.Sound plan)
    {job : ImpactJob} (planned : job.Planned plan) {aggregate : ImpactAggregate}
    (aggregated : aggregateJob job state.store.batches = .ok aggregate) :
    Accounting plan state.store.batches job aggregate := by
  obtain ⟨figures, -, aggregated⟩ := bind_eq_ok aggregated
  cases aggregated
  have ordered : ∀ batch ∈ orderedBatches state.store.batches, batch.Sound plan.config :=
    fun batch member => sound.batches batch (orderedBatches_mem.mp member)
  have counted := gather_total ordered
  have rows := processedRows_ordered state.store.batches
  have empty := gather_eq_nil ordered
  have classes := sound.class_empty
  have affected : (gather (orderedBatches state.store.batches)).affected.length = 0 ↔
      ∀ row < plan.source.rows.length, rowClass state.store.batches row ≠ .affected := by
    rw [empty.1, ← classes.1]
    exact ⟨fun none batch member => none batch (orderedBatches_mem.mpr member),
      fun none batch member => none batch (orderedBatches_mem.mp member)⟩
  have open_ : (gather (orderedBatches state.store.batches)).inconclusive.length = 0 ↔
      ∀ row < plan.source.rows.length, rowClass state.store.batches row ≠ .inconclusive := by
    rw [empty.2, ← classes.2]
    exact ⟨fun none batch member => none batch (orderedBatches_mem.mpr member),
      fun none batch member => none batch (orderedBatches_mem.mp member)⟩
  have inScope := plan.rowsInScope_le
  refine ⟨planned.total, ⟨_, rfl, ?_⟩, ?_, ?_⟩
  · simp only
    omega
  · simp only [scanDecision_passEligible, scanComplete_eq_true, incompleteReasons_eq_nil,
      planned.total, planned.inScope, affected, open_, ImpactJob.budgetStopped]
    constructor
    · rintro ⟨noAffected, notCancelled, -, ⟨covered, -, noOpen, noBudget, notHalted⟩, all, done⟩
      refine ⟨fun row within => ?_, notCancelled, notHalted, ?_⟩
      · have processed : rowClass state.store.batches row ≠ .unprocessed := by
          intro missing
          rcases sound.slices with none | slices
          · have zero : processedRows (orderedBatches state.store.batches) = 0 := by
              rw [rows, none]
              rfl
            omega
          · have partition := partition_of_slices slices
            obtain ⟨batch, ⟨member, lower, upper⟩, -⟩ := partition.covers row (by omega)
            have finished := done batch (orderedBatches_mem.mpr member)
            have completed := ((sound.batches batch member).finished finished).1
            have found := (sound.found member completed lower upper).1
            simp only [rowClass, found] at missing
            split at missing
            · cases missing
            · split at missing
              · cases missing
              · split at missing <;> cases missing
        have never := noAffected row within
        have closed := noOpen row within
        unfold RowResolved
        cases class_ : rowClass state.store.batches row with
        | matching => exact .inl rfl
        | outOfScope => exact .inr rfl
        | affected => exact absurd class_ never
        | inconclusive => exact absurd class_ closed
        | unprocessed => exact absurd class_ processed
      · rintro (budget | rowBudget)
        · exact budget noBudget
        · exact covered rowBudget
    · rintro ⟨resolved, notCancelled, notHalted, notStopped⟩
      have budget : job.budgetExhausted = [] := by
        by_contra some
        exact notStopped (.inl some)
      have covered : ¬plan.rowsInScope < plan.source.rows.length := fun less =>
        notStopped (.inr less)
      have finished := sound.all_finished resolved
      have processed : processedRows (orderedBatches state.store.batches) =
          plan.source.rows.length := by
        rw [rows]
        rcases sound.slices with none | slices
        · have zero : plan.source.rows.length = 0 := by
            by_contra nonzero
            have first := resolved 0 (by omega)
            rw [none] at first
            rcases first with matching | out
            · cases matching
            · cases out
          rw [none, zero]
          rfl
        · have all := sound.processed slices fun batch member => (finished batch member).1
          omega
      refine ⟨fun row within => ?_, notCancelled, notCancelled,
        ⟨covered, by omega, fun row within => ?_, budget, notHalted⟩, by omega, fun batch member =>
          (finished batch (orderedBatches_mem.mp member)).2⟩
      · rcases resolved row within with matching | out
        · rw [matching]
          nofun
        · rw [out]
          nofun
      · rcases resolved row within with matching | out
        · rw [matching]
          nofun
        · rw [out]
          nofun
  · simp only [scanDecision_block, planned.total, Nat.pos_iff_ne_zero, ne_eq, affected]
    push Not
    rfl

/-- Without affected rows the aggregation does not raise. -/
theorem aggregateJob_returns {plan : ScanPlan} {state : ScanState} (sound : state.Sound plan)
    (job : ImpactJob)
    (none : ∀ row < plan.source.rows.length, rowClass state.store.batches row ≠ .affected) :
    ∃ aggregate, aggregateJob job state.store.batches = .ok aggregate := by
  have empty := sound.class_empty.1.mpr none
  have ordered : ∀ batch ∈ orderedBatches state.store.batches, batch.Sound plan.config :=
    fun batch member => sound.batches batch (orderedBatches_mem.mp member)
  have nothing : (gather (orderedBatches state.store.batches)).affected = [] :=
    List.eq_nil_of_length_eq_zero ((gather_eq_nil ordered).1.mpr fun batch member =>
      empty batch (orderedBatches_mem.mp member))
  unfold aggregateJob
  simp only [nothing]
  exact ⟨_, rfl⟩

/-- The aggregate of reachable batches does not depend on the order they are listed in, accounts
for every row of the portfolio, and exists whenever no row is affected. -/
theorem aggregateJob_accounts (plan : ScanPlan) (events : List ScanEvent) (job : ImpactJob)
    (planned : job.Planned plan) :
    (∀ listed : List BatchRecord, listed.Perm (scanRun plan events).store.batches →
      aggregateJob job listed = aggregateJob job (scanRun plan events).store.batches) ∧
    (∀ aggregate, aggregateJob job (scanRun plan events).store.batches = .ok aggregate →
      Accounting plan (scanRun plan events).store.batches job aggregate) ∧
    ((∀ row < plan.source.rows.length,
        rowClass (scanRun plan events).store.batches row ≠ .affected) →
      ∃ aggregate, aggregateJob job (scanRun plan events).store.batches = .ok aggregate) := by
  have sound := scanRun_sound plan events
  refine ⟨fun listed perm => ?_, fun aggregate => aggregateJob_accounting sound planned,
    aggregateJob_returns sound job⟩
  unfold aggregateJob
  rw [orderedBatches_perm sound perm]

/-- The batch of two policies, one affected and one timed out, is accounted for. -/
theorem aggregateJob_accounts_once : ∃ aggregate,
    aggregateJob (samplePlan.job 0) (scanRun samplePlan
      (firstDelivery ++ [.process 0 firstRowOnly 5])).store.batches = .ok aggregate ∧
    Accounting samplePlan (scanRun samplePlan
      (firstDelivery ++ [.process 0 firstRowOnly 5])).store.batches (samplePlan.job 0) aggregate :=
  ⟨_, rfl, (aggregateJob_accounts samplePlan (firstDelivery ++ [.process 0 firstRowOnly 5])
    (samplePlan.job 0) (samplePlan.job_planned 0)).2.1 _ rfl⟩

end RateGuard
