import RateGuard.Foundation.DecimalOrder
import RateGuard.Scan.Fencing

/-!
# Growth of the reported exposure

As long as completions are fenced, an attempt keeps the affected rows of the attempts
before it, so the affected rows of a scan only become more; and the sums over more
affected rows are not smaller.
-/

open Transition DecimalFloat Outcome

namespace RateGuard

/-- Affected rows of all batches. -/
def affectedRows (batches : List BatchRecord) : List AffectedRow :=
  batches.flatMap (·.affected)

/-- Replacing a batch by one with more affected rows gives more affected rows. -/
theorem putBatch_affected {batches : List BatchRecord} {record : BatchRecord}
    (more : ∀ batch ∈ batches, batch.batchNo = record.batchNo →
      batch.affected.Subperm record.affected) :
    (affectedRows batches).Subperm (affectedRows (putBatch batches record)) := by
  induction batches with
  | nil => exact .refl _
  | cons batch rest ih =>
    have tail := ih fun other member => more other (List.mem_cons_of_mem _ member)
    have head : batch.affected.Subperm
        (if batch.batchNo = record.batchNo then record else batch).affected := by
      by_cases here : batch.batchNo = record.batchNo
      · rw [if_pos here]
        exact more batch List.mem_cons_self here
      · rw [if_neg here]
    exact head.append tail

/-- A result keeps the affected rows of the copy it was computed from. -/
theorem execute_affected {config : ImpactConfig} {source : ScanSource} {job : ImpactJob}
    {target : Target} {batch : BatchRecord} {result : BatchResult} (sound : batch.Sound config)
    (executed : execute config source job target batch = some result) :
    batch.affected.Subperm result.affected := by
  obtain ⟨rows, -, tally⟩ := execute_rows executed
  have kept : batch.base.affected = batch.affected := by
    unfold BatchRecord.base
    by_cases first : batch.completedAt = none
    · rw [if_pos first, sound.empty first]
    · rw [if_neg first]
      rfl
  have extended : result.affected =
      (batch.base.affected ++ rows.filterMap (·.affected?)).insertionSort
        fun x y => x.index ≤ y.index := congrArg (·.affected) tally
  rw [extended, kept]
  exact (List.sublist_append_left _ _).subperm.trans (List.perm_insertionSort _ _).symm.subperm

/-- A step of a followed scan keeps the affected rows. -/
theorem BatchMove.affected {plan : ScanPlan} {before after : ScanState} {event : ScanEvent}
    (followed : before.Followed plan) (move : BatchMove plan before event after) :
    (affectedRows before.store.batches).Subperm (affectedRows after.store.batches) := by
  cases move with
  | frame batches deliveries =>
    rw [batches]
  | ensure job waiting batches deliveries =>
    have specs := (followed.sound.planned.coordinators job waiting).specs
    rcases followed.sound.slices with none | slices
    · rw [none]
      exact List.nil_subperm
    · rw [specs, ensureBatches_of_existing] at batches
      · rw [batches]
      · intro spec listed
        rw [← slices] at listed
        obtain ⟨other, inside, rfl⟩ := List.mem_map.mp listed
        exact ⟨other, inside, rfl⟩
  | lease index message job old delivers sent stored opened found unfinished free attempts
      batches deliveries =>
    obtain ⟨inside, -⟩ := ImpactStore.getBatch_eq_some found
    rw [batches]
    apply putBatch_affected
    intro batch member number
    rw [followed.sound.unique member inside number]
    exact .refl _
  | write index writer completes writing write writes durationMs old found held
      batches deliveries =>
    obtain ⟨inside, number⟩ := ImpactStore.getBatch_eq_some found
    have working := List.mem_of_getElem? writing
    rw [batches]
    apply putBatch_affected
    intro batch member same
    have numbers : batch.batchNo = old.batchNo := by
      rw [same]
      cases write <;> rfl
    rw [followed.sound.unique member inside numbers]
    cases writes with
    | release => exact .refl _
    | result target result executed =>
      have follows := followed.follows writer working old inside number.symm
      have latest := follows.named held.1 held.2
      have copy := (follows.copied held.1 latest).1
      have kept := execute_affected (followed.sound.deliveries writer working).1 executed
      rw [congrArg (·.affected) copy] at kept
      exact kept

/-- Along a continuation whose leases keep their names apart the affected rows become more. -/
theorem scanRun_affected {plan : ScanPlan} {events later : List ScanEvent}
    (own : Along (scanStep plan) (OwnName plan) .initial (events ++ later)) :
    (affectedRows (scanRun plan events).store.batches).Subperm
      (affectedRows (scanRun plan (events ++ later)).store.batches) := by
  obtain ⟨first, rest⟩ := along_append.mp own
  have followed := first.invariant (ScanState.Followed plan)
    (fun state event holds => scanStep_followed state event holds) (ScanState.initial_followed plan)
  have grown := rest.invariant
    (fun state => state.Followed plan ∧
      (affectedRows (scanRun plan events).store.batches).Subperm (affectedRows state.store.batches))
    (fun state event holds both => ⟨scanStep_followed state event holds both.1,
      both.2.trans ((scanStep_move plan state event).affected both.1)⟩)
    ⟨followed, .refl _⟩
  rw [scanRun, scanRun, run_append]
  exact grown.2

/-- Listed rows of all batches are distinct. -/
theorem ScanState.Sound.rows_distinct {plan : ScanPlan} {state : ScanState}
    (sound : state.Sound plan) : (state.store.batches.flatMap (·.indices)).Nodup := by
  have listed : ∀ batch ∈ state.store.batches, batch.indices.Nodup ∧
      ∀ index ∈ batch.indices, batch.rowStart ≤ index ∧ index < batch.rowEnd := by
    intro batch member
    have holds := sound.batches batch member
    by_cases done : batch.completedAt = none
    · rw [holds.empty done]
      exact ⟨List.nodup_nil, List.forall_mem_nil _⟩
    · have accounts := holds.accounted done
      exact ⟨accounts.distinct, accounts.inside⟩
  rcases sound.slices with none | slices
  · rw [none]
    exact List.nodup_nil
  · have partition := partition_of_slices slices
    have separate : state.store.batches.Pairwise fun first second => first ≠ second :=
      (List.Nodup.of_map _ sound.distinct)
    refine List.nodup_flatMap.mpr ⟨fun batch member => (listed batch member).1, ?_⟩
    refine separate.imp_of_mem fun {first second} one two different => ?_
    intro index here there
    have low := (listed first one).2 index here
    have high := (listed second two).2 index there
    have bound := (partition.within first one).2
    obtain ⟨_, -, unique⟩ := partition.covers index (by omega)
    exact different ((unique first ⟨one, low⟩).trans (unique second ⟨two, high⟩).symm)

/-- Affected rows of all batches are distinct. -/
theorem ScanState.Sound.affected_distinct {plan : ScanPlan} {state : ScanState}
    (sound : state.Sound plan) :
    ((affectedRows state.store.batches).map (·.index)).Nodup := by
  have sublist : ((affectedRows state.store.batches).map (·.index)).Sublist
      (state.store.batches.flatMap (·.indices)) := by
    unfold affectedRows
    rw [List.map_flatMap]
    generalize state.store.batches = batches
    induction batches with
    | nil => exact .slnil
    | cons batch rest ih =>
      have inside : (batch.affected.map (·.index)).Sublist batch.indices := by
        unfold Tally.indices
        rw [List.append_assoc]
        exact (List.sublist_append_left _ _).trans (List.sublist_append_right _ _)
      exact inside.append ih
  exact sound.rows_distinct.sublist sublist

/-- The aggregate lists the affected rows of all batches. -/
theorem gather_affected {plan : ScanPlan} {state : ScanState} (sound : state.Sound plan) :
    (gather (orderedBatches state.store.listBatches)).affected.Perm
      (affectedRows state.store.batches) := by
  have reordered : (orderedBatches state.store.listBatches).Perm state.store.batches :=
    (List.perm_insertionSort _ _).trans (List.perm_insertionSort _ _)
  have finished : ∀ batches : List BatchRecord, (∀ batch ∈ batches, batch.Sound plan.config) →
      (batches.filter (·.completedAt.isSome)).flatMap (·.affected) = affectedRows batches := by
    intro batches holds
    induction batches with
    | nil => rfl
    | cons batch rest ih =>
      have tail := ih fun other member => holds other (List.mem_cons_of_mem _ member)
      cases done : batch.completedAt with
      | none =>
        have empty := (holds batch List.mem_cons_self).empty done
        have nothing : batch.affected = [] := by
          rw [empty]
          rfl
        simp only [List.filter_cons, done, Option.isSome_none, Bool.false_eq_true, if_false, tail,
          affectedRows, List.flatMap_cons, nothing, List.nil_append]
      | some time =>
        simp only [List.filter_cons, done, Option.isSome_some, if_true, List.flatMap_cons, tail,
          affectedRows]
  have all := finished (orderedBatches state.store.listBatches) fun batch member =>
    sound.batches batch (reordered.mem_iff.mp member)
  unfold gather
  refine (List.perm_insertionSort _ _).trans ?_
  rw [all]
  exact reordered.flatMap_right _

/-- Sorted distinct affected rows among others are a sublist of them. -/
theorem sublist_of_subperm {small large : List AffectedRow} (within : small.Subperm large)
    (lower : small.Pairwise fun x y => x.index ≤ y.index)
    (upper : large.Pairwise fun x y => x.index ≤ y.index)
    (distinct : (large.map (·.index)).Nodup) : small.Sublist large := by
  have strict : ∀ rows : List AffectedRow, rows.Pairwise (fun x y => x.index ≤ y.index) →
      (rows.map (·.index)).Nodup → rows.Pairwise fun x y => x.index < y.index := by
    intro rows sorted nodup
    have apart : rows.Pairwise fun x y => x.index ≠ y.index := List.pairwise_map.mp nodup
    exact (sorted.and apart).imp fun both => Nat.lt_of_le_of_ne both.1 both.2
  have smaller : (small.map (·.index)).Nodup := by
    obtain ⟨rows, perm, sublist⟩ := within
    exact (perm.map _).nodup_iff.mp (distinct.sublist (sublist.map _))
  have antisymmetric : Std.Antisymm fun x y : AffectedRow => x.index < y.index :=
    ⟨fun _ _ before after => absurd (Nat.lt_trans before after) (Nat.lt_irrefl _)⟩
  exact List.sublist_of_subperm_of_pairwise within (strict small lower smaller)
    (strict large upper distinct)

/-- Sums over some differences against sums over more. -/
structure SumsBelow (small large : DeltaSums) : Prop where
  /-- Positive differences are at most as many. -/
  overCount : small.overCount ≤ large.overCount
  /-- Their sum is at most as large. -/
  overTotal : AtMost small.overTotal large.overTotal
  /-- Negative differences are at most as many. -/
  underCount : small.underCount ≤ large.underCount
  /-- The sum of their magnitudes is at most as large. -/
  underTotal : AtMost small.underTotal large.underTotal
  /-- The smaller sums are settled. -/
  settled : Settled decimalContext small.overTotal ∧ Settled decimalContext small.underTotal

/-- A difference is added to the sum of its sign. -/
theorem DeltaSums.add_cases {sums after : DeltaSums} {delta : Decimal}
    (added : sums.add delta = .ok after) :
    (∃ total, Decimal.lt (.ofInt 0) delta = .ok true ∧
      Decimal.add decimalContext sums.overTotal delta = .ok total ∧
      after = { sums with overCount := sums.overCount + 1, overTotal := total }) ∨
    (∃ total, Decimal.lt (.ofInt 0) delta = .ok false ∧ Decimal.lt delta (.ofInt 0) = .ok true ∧
      Decimal.add decimalContext sums.underTotal delta.negate = .ok total ∧
      after = { sums with underCount := sums.underCount + 1, underTotal := total }) ∨
    (Decimal.lt (.ofInt 0) delta = .ok false ∧ Decimal.lt delta (.ofInt 0) = .ok false ∧
      after = sums) := by
  obtain ⟨positive, above, added⟩ := bind_eq_ok added
  cases positive with
  | true =>
    obtain ⟨total, sum, same⟩ := bind_eq_ok added
    exact .inl ⟨total, above, sum, (Except.ok.inj same).symm⟩
  | false =>
    obtain ⟨negative, below, added⟩ := bind_eq_ok added
    cases negative with
    | true =>
      obtain ⟨total, sum, same⟩ := bind_eq_ok added
      exact .inr (.inl ⟨total, above, below, sum, (Except.ok.inj same).symm⟩)
    | false => exact .inr (.inr ⟨above, below, (Except.ok.inj added).symm⟩)

/-- Adding a difference to the larger sums only keeps them larger. -/
theorem SumsBelow.skip {small large after : DeltaSums} (below : SumsBelow small large)
    {delta : Decimal} (added : large.add delta = .ok after) : SumsBelow small after := by
  rcases DeltaSums.add_cases added with ⟨total, positive, sum, rfl⟩ |
    ⟨total, -, negative, sum, rfl⟩ | ⟨-, -, rfl⟩
  · exact { below with
      overCount := Nat.le_succ_of_le below.overCount
      overTotal := add_above below.settled.1 below.overTotal (magnitude_of_positive positive) sum }
  · exact { below with
      underCount := Nat.le_succ_of_le below.underCount
      underTotal := add_above below.settled.2 below.underTotal (magnitude_of_negative negative)
        sum }
  · exact below

/-- A magnitude is at most itself. -/
theorem atMost_refl {value : Decimal} (magnitude : Magnitude value) : AtMost value value := by
  cases magnitude with
  | finite coefficient exponent => exact .finite (.refl coefficient exponent)
  | infinite => exact .infinite _

/-- Adding one difference to both sums keeps their order. -/
theorem SumsBelow.step {small large smallAfter largeAfter : DeltaSums}
    (below : SumsBelow small large) {delta : Decimal} (one : small.add delta = .ok smallAfter)
    (two : large.add delta = .ok largeAfter) : SumsBelow smallAfter largeAfter := by
  rcases DeltaSums.add_cases one with ⟨total, positive, sum, rfl⟩ |
    ⟨total, none, negative, sum, rfl⟩ | ⟨none, zero, rfl⟩
  · rcases DeltaSums.add_cases two with ⟨other, -, larger, rfl⟩ | ⟨_, less, -⟩ | ⟨less, -⟩
    · have magnitude := magnitude_of_positive positive
      exact { below with
        overCount := Nat.succ_le_succ below.overCount
        overTotal := add_atMost below.overTotal (atMost_refl magnitude) sum larger
        settled := ⟨add_settled below.settled.1.magnitude magnitude sum, below.settled.2⟩ }
    · rw [positive] at less
      cases less
    · rw [positive] at less
      cases less
  · rcases DeltaSums.add_cases two with ⟨_, more, -⟩ | ⟨other, -, -, larger, rfl⟩ | ⟨-, more, -⟩
    · rw [none] at more
      cases more
    · have magnitude := magnitude_of_negative negative
      exact { below with
        underCount := Nat.succ_le_succ below.underCount
        underTotal := add_atMost below.underTotal (atMost_refl magnitude) sum larger
        settled := ⟨below.settled.1, add_settled below.settled.2.magnitude magnitude sum⟩ }
    · rw [negative] at more
      cases more
  · rcases DeltaSums.add_cases two with ⟨_, more, -⟩ | ⟨_, -, more, -⟩ | ⟨-, -, rfl⟩
    · rw [none] at more
      cases more
    · rw [zero] at more
      cases more
    · exact below

/-- Sums over some of the differences are at most the sums over all. -/
theorem sums_below {some all : List Decimal} (within : some.Sublist all)
    {small large smallAfter largeAfter : DeltaSums} (below : SumsBelow small large)
    (one : some.foldlM DeltaSums.add small = .ok smallAfter)
    (two : all.foldlM DeltaSums.add large = .ok largeAfter) : SumsBelow smallAfter largeAfter := by
  induction within generalizing small large with
  | slnil =>
    cases one
    cases two
    exact below
  | cons delta _ ih =>
    rw [List.foldlM_cons] at two
    obtain ⟨next, added, two⟩ := bind_eq_ok two
    exact ih (below.skip added) one two
  | cons_cons delta _ ih =>
    rw [List.foldlM_cons] at one two
    obtain ⟨next, added, one⟩ := bind_eq_ok one
    obtain ⟨after, larger, two⟩ := bind_eq_ok two
    exact ih (below.step added larger) one two

/-- The sums over nothing are settled. -/
theorem SumsBelow.zero : SumsBelow .zero .zero where
  overCount := le_rfl
  overTotal := .finite (.refl 0 0)
  underCount := le_rfl
  underTotal := .finite (.refl 0 0)
  settled := ⟨.inl (.zero 0), .inl (.zero 0)⟩

/-- Differences of some rows are some of the differences. -/
theorem mapM_sublist {α β ε : Type} {step : α → Except ε β} {some all : List α}
    (within : some.Sublist all) {few many : List β} (one : some.mapM step = .ok few)
    (two : all.mapM step = .ok many) : few.Sublist many := by
  induction within generalizing few many with
  | slnil =>
    cases one
    cases two
    exact .slnil
  | cons value _ ih =>
    rw [List.mapM_cons] at two
    obtain ⟨result, -, two⟩ := bind_eq_ok two
    obtain ⟨rest, others, two⟩ := bind_eq_ok two
    cases two
    exact (ih one others).cons result
  | cons_cons value _ ih =>
    rw [List.mapM_cons] at one two
    obtain ⟨result, first, one⟩ := bind_eq_ok one
    obtain ⟨few, fewer, one⟩ := bind_eq_ok one
    obtain ⟨same, second, two⟩ := bind_eq_ok two
    obtain ⟨many, more, two⟩ := bind_eq_ok two
    cases one
    cases two
    rw [first] at second
    cases second
    exact (ih fewer more).cons_cons result

/-- Figures of one aggregate against those of a later one. -/
structure FiguresBelow (early late : ImpactAggregate) : Prop where
  /-- The affected rows are at most as many. -/
  mismatches : early.mismatches ≤ late.mismatches
  /-- The overcharges are at most as large. -/
  overcharge : early.overchargeTotal.le late.overchargeTotal = .ok true
  /-- The undercharges are at most as large. -/
  undercharge : early.underchargeTotal.le late.underchargeTotal = .ok true
  /-- The absolute exposure is at most as large. -/
  absolute : early.absoluteExposure.le late.absoluteExposure = .ok true

/-- More affected rows have no smaller figures. -/
theorem figures_below {some all : List AffectedRow} (within : some.Sublist all)
    {few many : ImpactFigures} (one : impactFigures some = .ok few)
    (two : impactFigures all = .ok many) :
    few.overchargeTotal.le many.overchargeTotal = .ok true ∧
      few.underchargeTotal.le many.underchargeTotal = .ok true ∧
      few.absoluteExposure.le many.absoluteExposure = .ok true := by
  obtain ⟨fewDeltas, fewRead, one⟩ := bind_eq_ok one
  obtain ⟨fewSums, fewSummed, one⟩ := bind_eq_ok one
  obtain ⟨_, -, one⟩ := bind_eq_ok one
  obtain ⟨fewTotal, fewAdded, one⟩ := bind_eq_ok one
  obtain ⟨_, -, one⟩ := bind_eq_ok one
  obtain ⟨_, -, one⟩ := bind_eq_ok one
  obtain ⟨fewOver, fewOverMoney, one⟩ := bind_eq_ok one
  obtain ⟨fewUnder, fewUnderMoney, one⟩ := bind_eq_ok one
  obtain ⟨_, -, one⟩ := bind_eq_ok one
  obtain ⟨fewAbs, fewAbsMoney, one⟩ := bind_eq_ok one
  obtain ⟨_, -, one⟩ := bind_eq_ok one
  obtain ⟨_, -, one⟩ := bind_eq_ok one
  obtain ⟨manyDeltas, manyRead, two⟩ := bind_eq_ok two
  obtain ⟨manySums, manySummed, two⟩ := bind_eq_ok two
  obtain ⟨_, -, two⟩ := bind_eq_ok two
  obtain ⟨manyTotal, manyAdded, two⟩ := bind_eq_ok two
  obtain ⟨_, -, two⟩ := bind_eq_ok two
  obtain ⟨_, -, two⟩ := bind_eq_ok two
  obtain ⟨manyOver, manyOverMoney, two⟩ := bind_eq_ok two
  obtain ⟨manyUnder, manyUnderMoney, two⟩ := bind_eq_ok two
  obtain ⟨_, -, two⟩ := bind_eq_ok two
  obtain ⟨manyAbs, manyAbsMoney, two⟩ := bind_eq_ok two
  obtain ⟨_, -, two⟩ := bind_eq_ok two
  obtain ⟨_, -, two⟩ := bind_eq_ok two
  cases one
  cases two
  have below := sums_below (mapM_sublist within fewRead manyRead) .zero fewSummed manySummed
  have total := add_atMost below.overTotal below.underTotal fewAdded manyAdded
  exact ⟨(quantize_atMost below.overTotal fewOverMoney manyOverMoney).le,
    (quantize_atMost below.underTotal fewUnderMoney manyUnderMoney).le,
    (quantize_atMost total fewAbsMoney manyAbsMoney).le⟩

/-- In a run that grants no lease under the name of a delivery still at work on the batch, the
figures aggregated in a state are at most those aggregated later. -/
theorem aggregateJob_grows (plan : ScanPlan) (events later : List ScanEvent)
    (own : Along (scanStep plan) (OwnName plan) .initial (events ++ later))
    (job laterJob : ImpactJob) (early late : ImpactAggregate)
    (first : aggregateJob job (scanRun plan events).store.listBatches = .ok early)
    (second : aggregateJob laterJob (scanRun plan (events ++ later)).store.listBatches =
      .ok late) :
    FiguresBelow early late := by
  have earlier := scanRun_sound plan events
  have sound := scanRun_sound plan (events ++ later)
  have fewer := gather_affected earlier
  have more := gather_affected sound
  have within : (gather (orderedBatches (scanRun plan events).store.listBatches)).affected.Sublist
      (gather (orderedBatches (scanRun plan (events ++ later)).store.listBatches)).affected := by
    apply sublist_of_subperm
    · exact (fewer.subperm.trans (scanRun_affected own)).trans more.symm.subperm
    · exact List.pairwise_insertionSort _ _
    · exact List.pairwise_insertionSort _ _
    · exact (more.map _).nodup_iff.mpr sound.affected_distinct
  obtain ⟨few, fewFigures, first⟩ := bind_eq_ok first
  obtain ⟨many, manyFigures, second⟩ := bind_eq_ok second
  cases first
  cases second
  obtain ⟨overcharge, undercharge, total⟩ := figures_below within fewFigures manyFigures
  exact ⟨within.length_le, overcharge, undercharge, total⟩

/-- A batch delivered once only adds to the figures. -/
theorem aggregateJob_grows_once : ∃ early late,
    aggregateJob (samplePlan.job 0) (scanRun samplePlan firstDelivery).store.listBatches =
      .ok early ∧
    aggregateJob (samplePlan.job 0) (scanRun samplePlan
      (firstDelivery ++ [.process 0 firstRowOnly 5])).store.listBatches = .ok late ∧
    FiguresBelow early late :=
  ⟨_, _, rfl, rfl, aggregateJob_grows samplePlan firstDelivery [.process 0 firstRowOnly 5]
    firstDelivery_own (samplePlan.job 0) (samplePlan.job 0) _ _ rfl rfl⟩

/-- The reported exposure can shrink: a delivery whose lease ended long ago writes its own first
pass over the results of a redelivery of the same message. -/
theorem aggregateJob_shrinks : ¬∀ (plan : ScanPlan) (events later : List ScanEvent)
    (job laterJob : ImpactJob) (early late : ImpactAggregate),
    aggregateJob job (scanRun plan events).store.listBatches = .ok early →
    aggregateJob laterJob (scanRun plan (events ++ later)).store.listBatches = .ok late →
    FiguresBelow early late := by
  intro grows
  have below := grows samplePlan
    (firstDelivery ++ [.tick (seconds 301), .deliver 0, .process 1 firstRowOnly 5])
    [.deliver 0, .process 0 timingOut 5] (samplePlan.job 0) (samplePlan.job 0) _ _ rfl rfl
  exact absurd below.mismatches (by decide)

end RateGuard
