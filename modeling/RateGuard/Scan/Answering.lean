import RateGuard.Scan.Backpressure

/-!
# Connectors with fixed premiums

A connector that answers each row with a fixed premium, alone or in a batch quote, answers
every chunk with the premiums of its rows, and a processed batch has the results of
comparing each of its rows with its premium, however the rows were cut into chunks.
-/

open Outcome KeyedList DecimalFloat

namespace RateGuard

variable {α : Type}

/-- A connector that answers each row with a fixed premium, in a batch quote or alone. -/
structure Target.Answers (target : Target) (batchMax : Nat) (premium : Nat → Decimal) : Prop where
  /-- The connector is registered. -/
  registered : target.unregistered = none
  /-- Without batch quotes a single row is answered. -/
  quoted : batchMax = 0 → ∀ item, ∃ text, target.reply [item] = .quote (some text) ∧
    parsePremium (some text) = .premium (premium item.index)
  /-- A batch quote answers every item. -/
  batched : batchMax ≠ 0 → ∀ items, ∃ revision answers,
    target.reply items = .batch revision answers ∧ ∀ item ∈ items, ∃ answer text,
      lastWith (·.1) answers (itemId item.index) = some answer ∧
      answer.2 = .priced (some text) ∧ parsePremium (some text) = .premium (premium item.index)

/-- A row is out of scope or has a price. -/
def ScanPlan.Priceable (plan : ScanPlan) (row : Nat) : Prop :=
  ∀ code transient, plan.source.screen plan.product row ≠
    some (.settled ⟨row, .inconclusive code transient⟩)

/-- Result of comparing a row without batches. -/
def ScanPlan.compare (plan : ScanPlan) (premium : Nat → Decimal) (row : Nat) :
    Option ScannedRow := do
  match ← plan.source.screen plan.product row with
  | .settled scanned => return scanned
  | .pending pending =>
    compareRow plan.config.premiumTolerance [(row, .premium (premium row))] pending

/-- Chunks of enough fuel are the whole list. -/
theorem chunksWithin_flatten {size : Nat} (positive : 0 < size) :
    ∀ (fuel : Nat) (items : List α), items.length ≤ fuel →
      (chunksWithin fuel size items).flatten = items := by
  intro fuel
  induction fuel with
  | zero =>
    intro items bound
    rw [List.eq_nil_of_length_eq_zero (Nat.le_zero.mp bound)]
    rfl
  | succ fuel ih =>
    intro items bound
    cases items with
    | nil => rfl
    | cons item rest =>
      have shorter : ((item :: rest).drop size).length ≤ fuel := by
        simp only [List.length_drop, List.length_cons] at bound ⊢
        omega
      rw [chunksWithin, List.flatten_cons, ih _ shorter, List.take_append_drop]
      exact List.cons_ne_nil _ _

/-- A chunk is a nonempty part of at most the size. -/
theorem mem_chunksWithin {size : Nat} (positive : 0 < size) {chunk : List α} :
    ∀ {fuel : Nat} {items : List α}, chunk ∈ chunksWithin fuel size items →
      chunk ≠ [] ∧ chunk.length ≤ size := by
  intro fuel
  induction fuel with
  | zero => exact fun member => (List.not_mem_nil member).elim
  | succ fuel ih =>
    intro items member
    cases items with
    | nil => exact (List.not_mem_nil member).elim
    | cons item rest =>
      rcases List.mem_cons.mp member with rfl | later
      · refine ⟨?_, List.length_take_le _ _⟩
        cases size with
        | zero => exact absurd positive (lt_irrefl _)
        | succ size => exact List.cons_ne_nil _ _
      · exact ih later

/-- A chunk of a connector with fixed premiums is answered by them. -/
theorem sendChunk_answered {target : Target} {batchMax : Nat} {premium : Nat → Decimal}
    (answers : target.Answers batchMax premium) {chunk : List PendingRow} (nonempty : chunk ≠ [])
    (single : batchMax = 0 → chunk.length ≤ 1) {report : RemoteReport}
    (sent : sendChunk target batchMax chunk = some report) :
    report.results = chunk.map fun item => (item.index, .premium (premium item.index)) := by
  by_cases alone : batchMax = 0
  · obtain ⟨item, rfl⟩ : ∃ item, chunk = [item] := by
      cases chunk with
      | nil => exact absurd rfl nonempty
      | cons item rest =>
        have short := single alone
        rw [List.length_cons] at short
        rw [List.eq_nil_of_length_eq_zero (show rest.length = 0 by omega)]
        exact ⟨item, rfl⟩
    obtain ⟨text, reply, parsed⟩ := answers.quoted alone item
    simp only [sendChunk, reply, alone, if_true, parsed] at sent
    cases sent
    rfl
  · obtain ⟨revision, items, reply, each⟩ := answers.batched alone chunk
    simp only [sendChunk, reply, alone, if_false] at sent
    obtain ⟨results, answered, sent⟩ := Option.bind_eq_some_iff.mp sent
    cases sent
    clear reply nonempty single sent
    simp only
    induction chunk generalizing results with
    | nil =>
      cases answered
      rfl
    | cons item rest ih =>
      obtain ⟨answer, text, found, priced, parsed⟩ := each item List.mem_cons_self
      simp only [List.mapM_cons, found, priced, itemAnswer, parsed, Option.pure_def,
        Option.bind_eq_bind, Option.bind_some, Option.bind_eq_some_iff] at answered
      obtain ⟨later, tail, answered⟩ := answered
      cases answered
      rw [List.map_cons, ih (fun other member => each other (List.mem_cons_of_mem _ member))
        later tail]

/-- The chunk size is positive, and one without batch quotes. -/
theorem chunkSize_pos (batchMax batchSize : Nat) :
    0 < chunkSize batchMax batchSize ∧ (batchMax = 0 → chunkSize batchMax batchSize = 1) := by
  unfold chunkSize
  split
  · exact ⟨Nat.one_pos, fun _ => rfl⟩
  · rename_i batched
    exact ⟨lt_of_lt_of_le Nat.one_pos (le_max_left _ _), fun alone => absurd alone batched⟩

/-- Remote pricing answers every pending row with its premium. -/
theorem remote_answered {target : Target} {batchMax batchSize : Nat} {premium : Nat → Decimal}
    (answers : target.Answers batchMax premium) {pending : List PendingRow}
    {report : RemoteReport} (sent : remote target batchMax batchSize pending = some report) :
    report.results = pending.map fun item => (item.index, .premium (premium item.index)) := by
  unfold remote at sent
  split at sent
  · rename_i nothing
    cases sent
    rw [nothing]
    rfl
  · rw [answers.registered] at sent
    obtain ⟨reports, replied, sent⟩ := Option.bind_eq_some_iff.mp sent
    cases sent
    obtain ⟨positive, one⟩ := chunkSize_pos batchMax batchSize
    have whole : (chunks (chunkSize batchMax batchSize) pending).flatten = pending :=
      chunksWithin_flatten positive _ _ le_rfl
    have parts : ∀ chunk ∈ chunks (chunkSize batchMax batchSize) pending,
        chunk ≠ [] ∧ (batchMax = 0 → chunk.length ≤ 1) := by
      intro chunk member
      obtain ⟨nonempty, short⟩ := mem_chunksWithin positive member
      exact ⟨nonempty, fun alone => one alone ▸ short⟩
    have results : ∀ (parts : List (List PendingRow)) (reports : List RemoteReport),
        (∀ chunk ∈ parts, chunk ≠ [] ∧ (batchMax = 0 → chunk.length ≤ 1)) →
        parts.mapM (sendChunk target batchMax) = some reports →
        reports.flatMap (·.results) =
          parts.flatten.map fun item => (item.index, .premium (premium item.index)) := by
      intro parts
      induction parts with
      | nil =>
        intro reports _ replied
        cases replied
        rfl
      | cons chunk rest ih =>
        intro reports sizes replied
        simp only [List.mapM_cons, Option.bind_eq_bind, Option.pure_def,
          Option.bind_eq_some_iff] at replied
        obtain ⟨first, sent, later, replies, same⟩ := replied
        cases same
        obtain ⟨nonempty, single⟩ := sizes chunk List.mem_cons_self
        rw [List.flatMap_cons, List.flatten_cons, List.map_append,
          sendChunk_answered answers nonempty single sent,
          ih later (fun other member => sizes other (List.mem_cons_of_mem _ member)) replies]
    rw [results _ reports parts replied, whole]

/-- Comparison of a screened row with its premium. -/
def ScreenedRow.resolve (tolerance : FiniteDecimal) (premium : Nat → Decimal) :
    ScreenedRow → Option ScannedRow
  | settled scanned => some scanned
  | pending row => compareRow tolerance [(row.index, .premium (premium row.index))] row

/-- A row compared with its premium matches or is affected. -/
theorem compareRow_premium {tolerance : FiniteDecimal} {candidate : Decimal} {row : PendingRow}
    {scanned : ScannedRow}
    (compared : compareRow tolerance [(row.index, .premium candidate)] row = some scanned) :
    ∃ differs, differsBeyond tolerance row.expected candidate = some differs ∧
      scanned = ⟨row.index, if differs then
        .affected (decimalText row.expected) (decimalText candidate) else .matching⟩ := by
  unfold compareRow at compared
  obtain ⟨answer, found, compared⟩ := Option.bind_eq_some_iff.mp compared
  have same : answer = (row.index, .premium candidate) := by
    have looked : lastWith (·.1) [(row.index, RemoteResult.premium candidate)] row.index =
        some (row.index, .premium candidate) := by
      simp [lastWith]
    exact Option.some.inj (found.symm.trans looked)
  rw [same] at compared
  obtain ⟨differs, decided, compared⟩ := Option.bind_eq_some_iff.mp compared
  refine ⟨differs, decided, ?_⟩
  cases differs with
  | true =>
    cases compared
    rfl
  | false =>
    cases compared
    rfl

/-- Screened rows are resolved in order or with the settled ones first, to the same counts. -/
theorem resolve_rows {tolerance : FiniteDecimal} {premium : Nat → Decimal}
    (screened : List ScreenedRow)
    (outside : ∀ scanned, .settled scanned ∈ screened → ∃ code, scanned.kind = .outOfScope code)
    {compared : List ScannedRow}
    (comparing : (screened.filterMap (·.pending?)).mapM (fun row =>
      compareRow tolerance [(row.index, .premium (premium row.index))] row) = some compared) :
    ∃ rows, screened.mapM (·.resolve tolerance premium) = some rows ∧
      rows.countP (·.isMatch) = compared.countP (·.isMatch) ∧
      rows.filterMap (·.outOfScope?) =
        (screened.filterMap (·.settled?)).filterMap (·.outOfScope?) ∧
      rows.filterMap (·.affected?) = compared.filterMap (·.affected?) ∧
      rows.filterMap (·.inconclusive?) = [] := by
  induction screened generalizing compared with
  | nil =>
    cases comparing
    exact ⟨[], rfl, rfl, rfl, rfl, rfl⟩
  | cons row rest ih =>
    have outside' : ∀ scanned, .settled scanned ∈ rest → ∃ code, scanned.kind = .outOfScope code :=
      fun scanned member => outside scanned (List.mem_cons_of_mem _ member)
    cases row with
    | settled scanned =>
      obtain ⟨code, kind⟩ := outside scanned List.mem_cons_self
      obtain ⟨rows, resolved, matched, out, affected, open_⟩ := ih outside' comparing
      have apart : scanned.isMatch = false ∧ scanned.affected? = none ∧
          scanned.inconclusive? = none := by
        simp [ScannedRow.isMatch, ScannedRow.affected?, ScannedRow.inconclusive?, kind]
      refine ⟨scanned :: rows, ?_, ?_, ?_, ?_, ?_⟩
      · rw [List.mapM_cons, resolved]
        rfl
      · rw [List.countP_cons_of_neg (by simp [apart.1]), matched]
      · simp only [List.filterMap_cons, ScreenedRow.settled?, out]
      · rw [List.filterMap_cons_none apart.2.1, affected]
      · rw [List.filterMap_cons_none apart.2.2, open_]
    | pending item =>
      have split : ∃ first later,
          compareRow tolerance [(item.index, .premium (premium item.index))] item = some first ∧
          (rest.filterMap (·.pending?)).mapM (fun row =>
            compareRow tolerance [(row.index, .premium (premium row.index))] row) = some later ∧
          compared = first :: later := by
        simp only [List.filterMap_cons, ScreenedRow.pending?, List.mapM_cons, Option.bind_eq_bind,
          Option.pure_def, Option.bind_eq_some_iff, Option.some.injEq] at comparing
        obtain ⟨first, one, later, others, same⟩ := comparing
        exact ⟨first, later, one, others, same.symm⟩
      obtain ⟨first, later, one, others, rfl⟩ := split
      obtain ⟨rows, resolved, matched, out, affected, open_⟩ := ih outside' others
      obtain ⟨differs, -, shape⟩ := compareRow_premium one
      have apart : first.outOfScope? = none ∧ first.inconclusive? = none := by
        rw [shape]
        cases differs <;> exact ⟨rfl, rfl⟩
      refine ⟨first :: rows, ?_, ?_, ?_, ?_, ?_⟩
      · rw [List.mapM_cons, resolved, ScreenedRow.resolve, one]
        rfl
      · simp only [List.countP_cons, matched]
      · rw [List.filterMap_cons_none apart.1, out]
        rfl
      · simp only [List.filterMap_cons, affected]
      · rw [List.filterMap_cons_none apart.2, open_]

/-- Traversals by steps that agree on the values are equal. -/
theorem mapM_same {β : Type} {first second : α → Option β} {values : List α}
    (same : ∀ value ∈ values, first value = second value) :
    values.mapM first = values.mapM second := by
  induction values with
  | nil => rfl
  | cons value rest ih =>
    rw [List.mapM_cons, List.mapM_cons, same value List.mem_cons_self,
      ih fun other member => same other (List.mem_cons_of_mem _ member)]

/-- Traversals one after the other are one traversal. -/
theorem mapM_mapM {β γ : Type} {first : α → Option β} {second : β → Option γ} {values : List α}
    {middle : List β} {results : List γ} (one : values.mapM first = some middle)
    (two : middle.mapM second = some results) :
    values.mapM (fun value => first value >>= second) = some results := by
  induction values generalizing middle results with
  | nil =>
    cases one
    exact two
  | cons value rest ih =>
    rw [List.mapM_cons] at one
    obtain ⟨head, found, one⟩ := Option.bind_eq_some_iff.mp one
    obtain ⟨tail, others, one⟩ := Option.bind_eq_some_iff.mp one
    cases one
    rw [List.mapM_cons] at two
    obtain ⟨result, stepped, two⟩ := Option.bind_eq_some_iff.mp two
    obtain ⟨later, steps, two⟩ := Option.bind_eq_some_iff.mp two
    cases two
    rw [List.mapM_cons, ih others steps, found]
    simp [stepped]

/-- A pending row is looked up under its own index. -/
theorem compareRow_answered {tolerance : FiniteDecimal} {premium : Nat → Decimal}
    {pending : List PendingRow} (distinct : (pending.map (·.index)).Nodup) {row : PendingRow}
    (member : row ∈ pending) :
    compareRow tolerance (pending.map fun item => (item.index, .premium (premium item.index))) row =
      compareRow tolerance [(row.index, .premium (premium row.index))] row := by
  have keys : ((pending.map fun item =>
      (item.index, RemoteResult.premium (premium item.index))).map (·.1)).Nodup := by
    rw [List.map_map]
    exact distinct
  have found := lastWith_of_mem keys (List.mem_map_of_mem member)
  have alone : lastWith (·.1) [(row.index, RemoteResult.premium (premium row.index))] row.index =
      some (row.index, .premium (premium row.index)) := by
    simp [lastWith]
  simp only [compareRow, alone]
  simp only at found
  rw [found]

/-- A priceable row decided without the connector is out of scope. -/
theorem ScanPlan.settled_outside (plan : ScanPlan) {row : Nat} (priceable : plan.Priceable row)
    {scanned : ScannedRow}
    (screened : plan.source.screen plan.product row = some (.settled scanned)) :
    ∃ code, scanned.kind = .outOfScope code := by
  have kept := screened
  unfold ScanSource.screen at kept
  obtain ⟨policy, -, kept⟩ := Option.bind_eq_some_iff.mp kept
  split at kept
  · cases kept
    exact ⟨_, rfl⟩
  · split at kept
    · cases kept
    · cases kept
      exact ⟨_, rfl⟩
    · cases kept
      exact absurd screened (priceable _ _)

/-- A processed batch without earlier results has the results of its rows' comparisons. -/
theorem execute_compared {plan : ScanPlan} {premium : Nat → Decimal} {job : ImpactJob}
    {target : Target} {batch : BatchRecord} {result : BatchResult}
    (product : job.product = plan.product) (answers : target.Answers job.batchMaxItems premium)
    (priceable : ∀ row ∈ batch.indexes, plan.Priceable row)
    (fresh : batch.completedAt = none)
    (executed : execute plan.config plan.source job target batch = some result) :
    ∃ rows, batch.indexes.mapM (plan.compare premium) = some rows ∧
      result.toTally = Tally.empty.extend rows ∧ rows.filterMap (·.inconclusive?) = [] := by
  obtain ⟨screened, screening, executed⟩ := Option.bind_eq_some_iff.mp executed
  obtain ⟨report, sent, executed⟩ := Option.bind_eq_some_iff.mp executed
  obtain ⟨compared, comparing, executed⟩ := Option.bind_eq_some_iff.mp executed
  cases executed
  rw [product] at screening
  have indices := mapM_keys id ScreenedRow.index (fun _ _ found => plan.source.screen_index found)
    screening
  rw [List.map_id] at indices
  have all : batch.indexes.Nodup := by
    rw [BatchRecord.indexes, if_pos fresh]
    exact List.nodup_range'
  have distinct : ((screened.filterMap (·.pending?)).map (·.index)).Nodup := by
    have parts := screened_indices screened
    have whole := parts.nodup_iff.mpr (indices ▸ all)
    exact (List.nodup_append.mp whole).2.1
  rw [remote_answered answers sent] at comparing
  have direct : (screened.filterMap (·.pending?)).mapM (fun row =>
      compareRow plan.config.premiumTolerance [(row.index, .premium (premium row.index))] row) =
      some compared := by
    rw [← comparing]
    exact (mapM_same fun row member => compareRow_answered distinct member).symm
  have outside : ∀ scanned, .settled scanned ∈ screened →
      ∃ code, scanned.kind = .outOfScope code := by
    intro scanned member
    obtain ⟨index, listed, found⟩ := exists_left (mapM_eq_some screening) member
    exact plan.settled_outside (priceable index listed) found
  obtain ⟨rows, resolved, matched, out, affected, open_⟩ := resolve_rows screened outside direct
  have settled : ∀ scanned ∈ screened.filterMap (·.settled?),
      scanned.isMatch = false ∧ scanned.affected? = none ∧ scanned.inconclusive? = none := by
    intro scanned member
    obtain ⟨row, inside, same⟩ := List.mem_filterMap.mp member
    cases row with
    | settled other =>
      cases same
      obtain ⟨code, kind⟩ := outside scanned inside
      simp [ScannedRow.isMatch, ScannedRow.affected?, ScannedRow.inconclusive?, kind]
    | pending item => cases same
  have noMatch : (screened.filterMap (·.settled?)).countP (·.isMatch) = 0 := by
    rw [List.countP_eq_zero]
    intro scanned member
    simp [(settled scanned member).1]
  have noAffected : (screened.filterMap (·.settled?)).filterMap (·.affected?) = [] :=
    List.filterMap_eq_nil_iff.mpr fun scanned member => (settled scanned member).2.1
  have noOpen : (screened.filterMap (·.settled?)).filterMap (·.inconclusive?) = [] :=
    List.filterMap_eq_nil_iff.mpr fun scanned member => (settled scanned member).2.2
  have priced : ∀ scanned ∈ compared, scanned.outOfScope? = none ∧ scanned.inconclusive? = none := by
    intro scanned member
    obtain ⟨item, -, one⟩ := exists_left (mapM_eq_some direct) member
    obtain ⟨differs, -, shape⟩ := compareRow_premium one
    rw [shape]
    cases differs <;> exact ⟨rfl, rfl⟩
  have noneOutside : compared.filterMap (·.outOfScope?) = [] :=
    List.filterMap_eq_nil_iff.mpr fun scanned member => (priced scanned member).1
  have noneOpen : compared.filterMap (·.inconclusive?) = [] :=
    List.filterMap_eq_nil_iff.mpr fun scanned member => (priced scanned member).2
  refine ⟨rows, ?_, ?_, open_⟩
  · rw [← mapM_mapM screening resolved]
    refine mapM_same fun index member => ?_
    cases found : plan.source.screen plan.product index with
    | none => simp [ScanPlan.compare, found]
    | some row =>
      have number := plan.source.screen_index found
      cases row with
      | settled scanned => simp [ScanPlan.compare, found, ScreenedRow.resolve]
      | pending item =>
        subst number
        simp only [ScreenedRow.index] at found ⊢
        simp [ScanPlan.compare, ScreenedRow.resolve, found]
  · simp [BatchRecord.base, fresh, Tally.extend, Tally.empty, matched, out, affected, open_,
      noMatch, noAffected, noOpen, noneOutside, noneOpen]

end RateGuard
