import RateGuard.Foundation.Dictionary
import RateGuard.Foundation.Json
import RateGuard.Foundation.Text

/-!
# Evidence within a budget

An aggregate is trimmed until its text fits a number of bytes, by examples first and by cohorts
then. What was trimmed is recorded after the last measurement, inside the text that was measured, so
that the trimmed aggregate has to leave room for the record.
-/

open Dictionary

namespace RateGuard

/-- `ImpactAggregate` as it is serialized: the parts that trimming touches, and the entries around
them in their order. -/
structure EvidenceAggregate where
  /-- Entries up to the cohorts: identities, decision, counts and totals. -/
  leading : List (List Char × JsonTree)
  /-- `cohort_distribution`. -/
  cohortDistribution : Option (List (List Char × JsonTree))
  /-- `pipeline_impact`. -/
  pipelineImpact : JsonTree
  /-- `mismatch_examples`. -/
  mismatchExamples : List JsonTree
  /-- `budget`. -/
  budget : List (List Char × JsonTree)
  /-- Entries behind the budget: exhausted budgets, reason of a halt and provenance. -/
  trailing : List (List Char × JsonTree)
  /-- `result_sha256`. -/
  resultSha256 : List Char

namespace EvidenceAggregate

/-- Document of an aggregate. -/
def document (aggregate : EvidenceAggregate) : JsonTree :=
  .object (aggregate.leading ++
    [("cohort_distribution".toList,
      match aggregate.cohortDistribution with
      | some entries => .object entries
      | none => .null),
     ("pipeline_impact".toList, aggregate.pipelineImpact),
     ("mismatch_examples".toList, .array aggregate.mismatchExamples),
     ("budget".toList, .object aggregate.budget)] ++
    aggregate.trailing ++ [("result_sha256".toList, .str aggregate.resultSha256)])

/-- `size`: bytes of the serialized aggregate. -/
def size (aggregate : EvidenceAggregate) : Nat := aggregate.document.size

/-- An aggregate with its first examples only. -/
def keeping (aggregate : EvidenceAggregate) (count : Nat) : EvidenceAggregate :=
  { aggregate with mismatchExamples := aggregate.mismatchExamples.take count }

/-- Whether an aggregate has cohorts to trim. -/
def hasCohorts (aggregate : EvidenceAggregate) : Bool :=
  match aggregate.cohortDistribution with
  | some entries => !entries.isEmpty
  | none => false

/-- An aggregate without the detail of its cohorts, if it has any. -/
def withoutCohorts (aggregate : EvidenceAggregate) : EvidenceAggregate :=
  if aggregate.hasCohorts then
    { aggregate with
      cohortDistribution := aggregate.cohortDistribution.map fun entries =>
        change entries "cohorts".toList fun _ => .array [] }
  else aggregate

/-- An aggregate with its size and with what was trimmed in its budget. -/
def record (aggregate : EvidenceAggregate) (trimmed : List String) : EvidenceAggregate :=
  { aggregate with
    budget := change
      (change aggregate.budget "evidence_bytes".toList fun _ =>
        .number (Text.digitsOf aggregate.size))
      "evidence_trimmed".toList fun _ => .array (trimmed.map fun name => .str name.toList) }

end EvidenceAggregate

/-- The loop of `_enforce_evidence_budget`: it drops the last example while the aggregate is too
large. The first argument bounds the number of examples. -/
def trimExamples (maxBytes : Nat) :
    Nat → EvidenceAggregate → List String → EvidenceAggregate × List String
  | 0, aggregate, trimmed => (aggregate, trimmed)
  | bound + 1, aggregate, trimmed =>
    if maxBytes < aggregate.size ∧ aggregate.mismatchExamples ≠ [] then
      trimExamples maxBytes bound
        { aggregate with mismatchExamples := aggregate.mismatchExamples.dropLast }
        (if "mismatch_examples" ∈ trimmed then trimmed else trimmed ++ ["mismatch_examples"])
    else (aggregate, trimmed)

/-- `_enforce_evidence_budget`. -/
def enforceEvidenceBudget (aggregate : EvidenceAggregate) (maxBytes : Nat) : EvidenceAggregate :=
  let (popped, trimmed) :=
    trimExamples maxBytes aggregate.mismatchExamples.length aggregate []
  if maxBytes < popped.size ∧ popped.hasCohorts then
    popped.withoutCohorts.record (trimmed ++ ["cohort_distribution"])
  else popped.record trimmed

/-- Whether evidence fits a budget and keeps the totals of an aggregate. -/
structure EvidenceFits (aggregate : EvidenceAggregate) (maxBytes : Nat)
    (evidence : EvidenceAggregate) : Prop where
  /-- It is not too large. -/
  within : evidence.size ≤ maxBytes
  /-- It is trimmed only when the aggregate is too large. -/
  needed : evidence.mismatchExamples ≠ aggregate.mismatchExamples ∨
    evidence.cohortDistribution ≠ aggregate.cohortDistribution → maxBytes < aggregate.size
  /-- Decision, counts and totals are kept. -/
  leading : evidence.leading = aggregate.leading
  /-- The impact on the pipeline is kept. -/
  pipeline : evidence.pipelineImpact = aggregate.pipelineImpact
  /-- Exhausted budgets, reason of a halt and provenance are kept. -/
  trailing : evidence.trailing = aggregate.trailing
  /-- The hash of the result is kept. -/
  hash : evidence.resultSha256 = aggregate.resultSha256

/-- Names of the trimmed examples. -/
def examplesTrimmed (aggregate : EvidenceAggregate) (count : Nat) : List String :=
  if count < aggregate.mismatchExamples.length then ["mismatch_examples"] else []

/-- Whether a budget leaves room for the record. -/
structure LeavesRoom (aggregate : EvidenceAggregate) (maxBytes : Nat) : Prop where
  /-- Beside the longest list of leading examples that fits. -/
  examples : ∀ count ≤ aggregate.mismatchExamples.length,
    (aggregate.keeping count).size ≤ maxBytes →
    (∀ more ≤ aggregate.mismatchExamples.length, count < more →
      maxBytes < (aggregate.keeping more).size) →
    ((aggregate.keeping count).record (examplesTrimmed aggregate count)).size ≤ maxBytes
  /-- Where no list fits, beside the aggregate without examples and cohorts. -/
  bare : (∀ count ≤ aggregate.mismatchExamples.length,
      maxBytes < (aggregate.keeping count).size) →
    ((aggregate.keeping 0).withoutCohorts.record
      (examplesTrimmed aggregate 0 ++ ["cohort_distribution"])).size ≤ maxBytes

/-- What the loop leaves: the longest list of leading examples that fits, or none. -/
structure Trimmed (aggregate : EvidenceAggregate) (maxBytes count : Nat) : Prop where
  /-- It is a list of leading examples. -/
  bound : count ≤ aggregate.mismatchExamples.length
  /-- Longer lists do not fit. -/
  longest : ∀ more ≤ aggregate.mismatchExamples.length, count < more →
    maxBytes < (aggregate.keeping more).size
  /-- It fits, unless it is empty. -/
  fits : count ≠ 0 → (aggregate.keeping count).size ≤ maxBytes

/-- An aggregate keeps all of its examples. -/
theorem keeping_all (aggregate : EvidenceAggregate) :
    aggregate.keeping aggregate.mismatchExamples.length = aggregate := by
  unfold EvidenceAggregate.keeping
  rw [List.take_length]

/-- The loop leaves a trimmed aggregate, from any list of leading examples on. -/
theorem trimExamples_trimmed (aggregate : EvidenceAggregate) (maxBytes : Nat) {count : Nat}
    (bound : count ≤ aggregate.mismatchExamples.length)
    (longest : ∀ more ≤ aggregate.mismatchExamples.length, count < more →
      maxBytes < (aggregate.keeping more).size) :
    ∃ kept, trimExamples maxBytes count (aggregate.keeping count) (examplesTrimmed aggregate count) =
        (aggregate.keeping kept, examplesTrimmed aggregate kept) ∧
      Trimmed aggregate maxBytes kept := by
  induction count with
  | zero => exact ⟨0, rfl, bound, longest, fun nonzero => absurd rfl nonzero⟩
  | succ count ih =>
    unfold trimExamples
    by_cases large : maxBytes < (aggregate.keeping (count + 1)).size
    · have some : (aggregate.keeping (count + 1)).mismatchExamples ≠ [] := by
        intro none
        rcases List.take_eq_nil_iff.mp none with zero | empty
        · cases zero
        · rw [empty] at bound
          cases bound
      have dropped : { aggregate.keeping (count + 1) with
          mismatchExamples := (aggregate.keeping (count + 1)).mismatchExamples.dropLast } =
          aggregate.keeping count := by
        have front : (aggregate.mismatchExamples.take (count + 1)).dropLast =
            aggregate.mismatchExamples.take count := by
          rw [List.dropLast_eq_take, List.take_take, List.length_take_of_le bound,
            Nat.add_sub_cancel, Nat.min_eq_left (Nat.le_succ count)]
        unfold EvidenceAggregate.keeping
        dsimp only
        rw [front]
      have named : (if "mismatch_examples" ∈ examplesTrimmed aggregate (count + 1)
          then examplesTrimmed aggregate (count + 1)
          else examplesTrimmed aggregate (count + 1) ++ ["mismatch_examples"]) =
          examplesTrimmed aggregate count := by
        unfold examplesTrimmed
        rw [if_pos (Nat.lt_of_succ_le bound)]
        split <;> simp
      rw [if_pos ⟨large, some⟩, dropped, named]
      apply ih (Nat.le_of_succ_le bound)
      intro more within above
      rcases Nat.eq_or_lt_of_le (Nat.succ_le_of_lt above) with same | beyond
      · rw [← same]
        exact large
      · exact longest more within beyond
    · rw [if_neg fun both => large both.1]
      exact ⟨count + 1, rfl, bound, longest, fun _ => not_lt.mp large⟩

/-- What is returned, by what the loop leaves. -/
theorem enforceEvidenceBudget_eq (aggregate : EvidenceAggregate) (maxBytes : Nat) :
    ∃ kept, Trimmed aggregate maxBytes kept ∧
      enforceEvidenceBudget aggregate maxBytes =
        if maxBytes < (aggregate.keeping kept).size ∧ aggregate.hasCohorts then
          (aggregate.keeping kept).withoutCohorts.record
            (examplesTrimmed aggregate kept ++ ["cohort_distribution"])
        else (aggregate.keeping kept).record (examplesTrimmed aggregate kept) := by
  obtain ⟨kept, run, trimmed⟩ := trimExamples_trimmed aggregate maxBytes le_rfl
    fun more within above => absurd within (not_le.mpr above)
  rw [keeping_all] at run
  have none : examplesTrimmed aggregate aggregate.mismatchExamples.length = [] :=
    if_neg (lt_irrefl _)
  rw [none] at run
  refine ⟨kept, trimmed, ?_⟩
  unfold enforceEvidenceBudget
  rw [run]
  rfl

/-- Where the loop ends: at the longest list that fits, or without examples. -/
theorem Trimmed.eq {aggregate : EvidenceAggregate} {maxBytes kept count : Nat}
    (trimmed : Trimmed aggregate maxBytes kept) (bound : count ≤ aggregate.mismatchExamples.length)
    (fits : (aggregate.keeping count).size ≤ maxBytes)
    (longest : ∀ more ≤ aggregate.mismatchExamples.length, count < more →
      maxBytes < (aggregate.keeping more).size) : kept = count := by
  rcases Nat.lt_trichotomy kept count with fewer | same | more
  · exact absurd fits (not_le.mpr (trimmed.longest count bound fewer))
  · exact same
  · exact absurd (trimmed.fits (by omega)) (not_le.mpr (longest kept trimmed.bound more))

/-- Where the loop leaves an aggregate that is too large, no list fits. -/
theorem Trimmed.none {aggregate : EvidenceAggregate} {maxBytes kept : Nat}
    (trimmed : Trimmed aggregate maxBytes kept)
    (large : maxBytes < (aggregate.keeping kept).size) :
    kept = 0 ∧ ∀ count ≤ aggregate.mismatchExamples.length,
      maxBytes < (aggregate.keeping count).size := by
  have zero : kept = 0 := by
    by_contra nonzero
    exact absurd (trimmed.fits nonzero) (not_le.mpr large)
  subst zero
  refine ⟨rfl, fun count bound => ?_⟩
  rcases Nat.eq_zero_or_pos count with rfl | some
  · exact large
  · exact trimmed.longest count bound some

/-- The record keeps everything but the budget. -/
theorem EvidenceAggregate.record_fits {aggregate part : EvidenceAggregate} {maxBytes : Nat}
    {trimmed : List String} (within : (part.record trimmed).size ≤ maxBytes)
    (needed : part.mismatchExamples ≠ aggregate.mismatchExamples ∨
      part.cohortDistribution ≠ aggregate.cohortDistribution → maxBytes < aggregate.size)
    (same : part.leading = aggregate.leading ∧ part.pipelineImpact = aggregate.pipelineImpact ∧
      part.trailing = aggregate.trailing ∧ part.resultSha256 = aggregate.resultSha256) :
    EvidenceFits aggregate maxBytes (part.record trimmed) :=
  ⟨within, needed, same.1, same.2.1, same.2.2.1, same.2.2.2⟩

/-- Trimming cohorts keeps the other parts. -/
theorem EvidenceAggregate.withoutCohorts_rest (aggregate : EvidenceAggregate) :
    aggregate.withoutCohorts.leading = aggregate.leading ∧
      aggregate.withoutCohorts.pipelineImpact = aggregate.pipelineImpact ∧
      aggregate.withoutCohorts.trailing = aggregate.trailing ∧
      aggregate.withoutCohorts.resultSha256 = aggregate.resultSha256 := by
  unfold EvidenceAggregate.withoutCohorts
  split <;> exact ⟨rfl, rfl, rfl, rfl⟩

/-- Sample aggregate with one example, whose scan was halted for a reason. -/
def haltedEvidence (reason : List Char) : EvidenceAggregate where
  leading := [("impact_decision".toList, .str "BLOCK".toList),
    ("mismatches".toList, .number "1".toList)]
  cohortDistribution := some [("cohorts".toList, .array [])]
  pipelineImpact := .null
  mismatchExamples := [.object [("row_ref".toList, .str "row-1".toList),
    ("expected_premium".toList, .str "110.00".toList),
    ("candidate_premium".toList, .str "100.00".toList), ("delta".toList, .str "-10.00".toList),
    ("rating_inputs".toList, .object [("roof_age".toList, .number "25".toList)])]]
  budget := [("max_evidence_bytes".toList, .str "10000".toList)]
  trailing := [("halt_reason".toList, .str reason)]
  resultSha256 := []

end RateGuard
