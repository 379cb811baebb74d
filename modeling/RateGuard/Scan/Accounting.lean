import RateGuard.Foundation.Outcome
import RateGuard.Scan.Processor

/-!
# Accounting of a batch

A tally accounts for a range of rows when its counts total the length of the range and
the rows it lists are distinct rows of the range. Processing a batch gives a tally that
accounts for the whole batch, whether it is a first pass or another attempt at the
transient rows of an accounted batch.
-/

open Outcome KeyedList DecimalFloat

namespace RateGuard

/-- The counts of a tally and some rows still open make up a range of rows. -/
structure Tally.Opens (tally : Tally) (opened : List Nat) (first last : Nat) : Prop where
  /-- Every row of the range is counted once. -/
  total : tally.matched + tally.indices.length + opened.length = last - first
  /-- No row is listed twice. -/
  distinct : (tally.indices ++ opened).Nodup
  /-- Every listed row is in the range. -/
  inside : ∀ index ∈ tally.indices ++ opened, first ≤ index ∧ index < last

/-- A tally accounts for a range of rows. -/
structure Tally.Accounts (tally : Tally) (first last : Nat) : Prop where
  /-- Every row of the range is counted once. -/
  total : tally.matched + tally.outOfScope.length + tally.affected.length +
    tally.inconclusive.length = last - first
  /-- No row is listed twice. -/
  distinct : tally.indices.Nodup
  /-- Every listed row is in the range. -/
  inside : ∀ index ∈ tally.indices, first ≤ index ∧ index < last

/-- Classified rows listed by a tally. -/
def listedRows (rows : List ScannedRow) : List Nat :=
  (rows.filter fun row => !row.isMatch).map (·.index)

/-- Matching rows and listed rows are all rows. -/
theorem listedRows_length (rows : List ScannedRow) :
    rows.countP (·.isMatch) + (listedRows rows).length = rows.length := by
  induction rows with
  | nil => rfl
  | cons row rest ih =>
    cases matching : row.isMatch with
    | true =>
      simp only [listedRows, matching, List.countP_cons_of_pos, List.length_cons,
        List.filter_cons_of_neg, Bool.not_true, Bool.false_eq_true, not_false_eq_true] at ih ⊢
      omega
    | false =>
      simp [listedRows, matching] at ih ⊢
      omega

/-- Added rows are listed once each, in some order. -/
theorem extend_indices (tally : Tally) (rows : List ScannedRow) :
    (tally.extend rows).indices.Perm (tally.indices ++ listedRows rows) := by
  have affected := (List.perm_insertionSort (fun x y : AffectedRow => x.index ≤ y.index)
    (tally.affected ++ rows.filterMap (·.affected?))).map (·.index)
  have inconclusive := (List.perm_insertionSort (fun x y : InconclusiveRow => x.index ≤ y.index)
    (tally.inconclusive ++ rows.filterMap (·.inconclusive?))).map (·.index)
  have listed : ((rows.filterMap (·.outOfScope?)).map (·.index) ++
      (rows.filterMap (·.affected?)).map (·.index) ++
      (rows.filterMap (·.inconclusive?)).map (·.index)).Perm (listedRows rows) := by
    clear affected inconclusive
    induction rows with
    | nil => exact .refl _
    | cons row rest ih =>
      rw [List.perm_iff_count] at ih ⊢
      intro index
      have before := ih index
      obtain ⟨at_, kind⟩ := row
      cases kind <;>
        simp [listedRows, ScannedRow.isMatch, ScannedRow.outOfScope?, ScannedRow.affected?,
          ScannedRow.inconclusive?, List.count_cons] at before ⊢ <;> omega
  rw [List.perm_iff_count] at affected inconclusive listed ⊢
  intro index
  have first := affected index
  have second := inconclusive index
  have third := listed index
  simp only [Tally.indices, Tally.extend, List.map_append, List.count_append] at first second third ⊢
  omega

/-- Classifying the open rows accounts for the range. -/
theorem Tally.Opens.extend {tally : Tally} {opened : List Nat} {first last : Nat}
    (opens : tally.Opens opened first last) {rows : List ScannedRow}
    (classified : (rows.map (·.index)).Perm opened) : (tally.extend rows).Accounts first last := by
  have indices := extend_indices tally rows
  have listed : (listedRows rows).Sublist (rows.map (·.index)) := List.filter_sublist.map _
  have all : (tally.indices ++ rows.map (·.index)).Perm (tally.indices ++ opened) :=
    classified.append_left _
  have length := indices.length_eq
  have counted := listedRows_length rows
  have opening := classified.length_eq
  have total := opens.total
  rw [List.length_map] at opening
  refine ⟨?_, ?_, ?_⟩
  · simp only [Tally.indices, List.length_append, List.length_map] at length total ⊢
    have matched : (tally.extend rows).matched = tally.matched + rows.countP (·.isMatch) := rfl
    omega
  · have distinct := all.nodup_iff.mpr opens.distinct
    exact indices.nodup_iff.mpr (distinct.sublist (listed.append_left _))
  · intro index member
    have within := (listed.append_left _).subset (indices.mem_iff.mp member)
    exact opens.inside index (all.mem_iff.mp within)

/-- Listed rows are those a later attempt keeps and those it takes. -/
theorem retained_indices (tally : Tally) :
    (tally.retained.indices ++ tally.unresolvedTransient).Perm tally.indices := by
  have parted := (List.filter_append_perm (fun row : InconclusiveRow => !row.transient)
    tally.inconclusive).map (·.index)
  rw [List.perm_iff_count] at parted ⊢
  intro index
  have here := parted index
  simp only [Tally.indices, Tally.retained, Tally.unresolvedTransient, List.map_append,
    List.count_append, Bool.not_not] at here ⊢
  omega

/-- The results an attempt starts from and the rows it takes make up the batch. -/
theorem BatchRecord.opens {batch : BatchRecord}
    (accounted : batch.completedAt ≠ none → batch.Accounts batch.rowStart batch.rowEnd) :
    batch.base.Opens batch.indexes batch.rowStart batch.rowEnd := by
  unfold BatchRecord.base BatchRecord.indexes
  by_cases first : batch.completedAt = none
  · rw [if_pos first, if_pos first]
    refine ⟨?_, ?_, ?_⟩
    · simp [Tally.empty, Tally.indices]
    · simpa [Tally.empty, Tally.indices] using List.nodup_range'
    · intro index member
      have within : index ∈ List.range' batch.rowStart (batch.rowEnd - batch.rowStart) := by
        simpa [Tally.empty, Tally.indices] using member
      obtain ⟨lower, upper⟩ := List.mem_range'_1.mp within
      omega
  · rw [if_neg first, if_neg first]
    have accounts := accounted first
    have sorted := List.perm_insertionSort (· ≤ ·) batch.unresolvedTransient
    have all : (batch.retained.indices ++ batch.unresolvedTransient.insertionSort (· ≤ ·)).Perm
        batch.indices := (sorted.append_left _).trans (retained_indices batch.toTally)
    refine ⟨?_, all.nodup_iff.mpr accounts.distinct, fun index member =>
      accounts.inside index (all.mem_iff.mp member)⟩
    have length := all.length_eq
    have total := accounts.total
    have matched : batch.retained.matched = batch.matched := rfl
    simp only [List.length_append, Tally.indices, List.length_map] at length total ⊢
    omega

/-- Index of a screened row. -/
def ScreenedRow.index : ScreenedRow → Nat
  | settled row => row.index
  | pending row => row.index

/-- Screening keeps the row. -/
theorem ScanSource.screen_index {source : ScanSource} {product : String} {index : Nat}
    {row : ScreenedRow} (screened : source.screen product index = some row) :
    row.index = index := by
  unfold ScanSource.screen at screened
  obtain ⟨policy, -, screened⟩ := Option.bind_eq_some_iff.mp screened
  split at screened
  · cases screened
    rfl
  · split at screened <;> cases screened <;> rfl

/-- Comparing keeps the row. -/
theorem compareRow_index {tolerance : FiniteDecimal} {results : List (Nat × RemoteResult)}
    {row : PendingRow} {scanned : ScannedRow}
    (compared : compareRow tolerance results row = some scanned) : scanned.index = row.index := by
  unfold compareRow at compared
  obtain ⟨answer, -, compared⟩ := Option.bind_eq_some_iff.mp compared
  split at compared
  · obtain ⟨differs, -, compared⟩ := Option.bind_eq_some_iff.mp compared
    split at compared <;> cases compared <;> rfl
  · cases compared
    rfl

/-- Screened rows are the settled and the pending ones. -/
theorem screened_indices (screened : List ScreenedRow) :
    ((screened.filterMap (·.settled?)).map (·.index) ++
      (screened.filterMap (·.pending?)).map (·.index)).Perm (screened.map (·.index)) := by
  induction screened with
  | nil => exact .refl _
  | cons row rest ih =>
    cases row with
    | settled row => exact ih.cons _
    | pending row => exact List.perm_middle.trans (ih.cons _)

/-- The rows behind the result of an attempt are those it takes, and the result adds them to
what it starts from. -/
theorem execute_rows {config : ImpactConfig} {source : ScanSource} {job : ImpactJob}
    {target : Target} {batch : BatchRecord} {result : BatchResult}
    (executed : execute config source job target batch = some result) :
    ∃ rows, (rows.map (·.index)).Perm batch.indexes ∧
      result.toTally = batch.base.extend rows := by
  obtain ⟨screened, screening, executed⟩ := Option.bind_eq_some_iff.mp executed
  obtain ⟨report, -, executed⟩ := Option.bind_eq_some_iff.mp executed
  obtain ⟨compared, comparing, executed⟩ := Option.bind_eq_some_iff.mp executed
  cases executed
  refine ⟨screened.filterMap (·.settled?) ++ compared, ?_, rfl⟩
  have pending := mapM_keys PendingRow.index ScannedRow.index
    (fun _ _ found => compareRow_index found) comparing
  have all := mapM_keys id ScreenedRow.index (fun _ _ found => source.screen_index found) screening
  rw [List.map_append, pending, ← List.map_id batch.indexes, ← all]
  exact screened_indices screened

/-- Processing accounts for the whole batch. -/
theorem execute_accounts {config : ImpactConfig} {source : ScanSource} {job : ImpactJob}
    {target : Target} {batch : BatchRecord} {result : BatchResult}
    (accounted : batch.completedAt ≠ none → batch.Accounts batch.rowStart batch.rowEnd)
    (executed : execute config source job target batch = some result) :
    result.Accounts batch.rowStart batch.rowEnd := by
  obtain ⟨rows, classified, tally⟩ := execute_rows executed
  rw [tally]
  exact (BatchRecord.opens accounted).extend classified

end RateGuard
