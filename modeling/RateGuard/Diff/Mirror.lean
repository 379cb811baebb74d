import RateGuard.Diff.Reflexive

/-!
# Exchanged sides

A comparison read from the other side. Every node kind is compared over the same keys whichever
package stands first, so exchanging the packages exchanges the values of every difference and
what is missing with what is extra. A package compared with itself shows what is left: only a
modifier that refers to another node keeps the comparison from returning.
-/

open DecimalFloat CalendarDate Outcome KeyedList

namespace RateGuard

/-- Type of a difference when the sides are exchanged. -/
def DifferenceType.mirror : DifferenceType → DifferenceType
  | missingNode => extraNode
  | extraNode => missingNode
  | tableRowMissing => tableRowExtra
  | tableRowExtra => tableRowMissing
  | type => type

/-- One difference seen from either side. Only the node of the package itself is named after the
package that stands on the left. -/
structure SemanticDifference.Mirrors (difference other : SemanticDifference) : Prop where
  /-- Missing is exchanged with extra. -/
  differenceType : other.differenceType = difference.differenceType.mirror
  /-- The place is the same. -/
  semanticPath : other.semanticPath = difference.semanticPath
  /-- The kind of node is the same. -/
  nodeType : other.nodeType = difference.nodeType
  /-- The left value was the right one. -/
  leftValue : other.leftValue = difference.rightValue
  /-- The right value was the left one. -/
  rightValue : other.rightValue = difference.leftValue
  /-- The severity is the same. -/
  severity : other.severity = difference.severity
  /-- The key of the row is the same. -/
  dimensionKey : other.dimensionKey = difference.dimensionKey
  /-- The node is the same. -/
  nodeId : difference.nodeType ≠ .package → other.nodeId = difference.nodeId

/-- Differences that are one another's mirror images, in one order. -/
abbrev Mirrored : List SemanticDifference → List SemanticDifference → Prop :=
  List.Forall₂ SemanticDifference.Mirrors

/-- Starts that differ from one side differ from the other. -/
theorem compareEffectivePeriods_mirror (path nodeId otherId : String) (nodeType : DifferenceNode)
    (named : nodeType ≠ .package → otherId = nodeId) (left right : Option EffectivePeriod) :
    Mirrored (compareEffectivePeriods path nodeId nodeType left right)
      (compareEffectivePeriods path otherId nodeType right left) := by
  dsimp only [compareEffectivePeriods]
  by_cases same : left.map (·.start) = right.map (·.start)
  · rw [if_pos same, if_pos same.symm]
    exact .nil
  · rw [if_neg same, if_neg (Ne.symm same)]
    exact .cons ⟨rfl, rfl, rfl, rfl, rfl, rfl, rfl, named⟩ .nil

/-- Numbers that differ from one side differ from the other. -/
theorem numbersDiffer_comm (left right : FiniteDecimal) :
    numbersDiffer left right = numbersDiffer right left := by
  have same : numbersDiffer left right = false ↔ numbersDiffer right left = false := by
    rw [numbersDiffer_eq_false, numbersDiffer_eq_false]
    exact ⟨.symm, .symm⟩
  exact Bool.eq_iff_iff.mpr (by simpa using not_congr same)

/-- Numbers of one node mirrored. -/
theorem compareNumbers_mirror (idKind kind key field : String) {type : DifferenceType}
    (fixed : type.mirror = type) (nodeType : DifferenceNode) (severity : DifferenceSeverity)
    (left right : FiniteDecimal) :
    Mirrored (compareNumbers idKind kind key field type nodeType severity left right)
      (compareNumbers idKind kind key field type nodeType severity right left) := by
  unfold compareNumbers
  rw [numbersDiffer_comm right left]
  by_cases differ : numbersDiffer left right
  · rw [if_pos differ, if_pos differ]
    exact .cons ⟨fixed.symm, rfl, rfl, rfl, rfl, rfl, rfl, fun _ => rfl⟩ .nil
  · rw [if_neg differ, if_neg differ]
    exact .nil

/-- Sequences of one node mirrored. -/
theorem compareSequences_mirror (idKind kind key : String) (nodeType : DifferenceNode)
    (left right : Option Int) :
    Mirrored (compareSequences idKind kind key nodeType left right)
      (compareSequences idKind kind key nodeType right left) := by
  unfold compareSequences
  by_cases same : left = right
  · rw [if_pos same, if_pos same.symm]
    exact .nil
  · rw [if_neg same, if_neg (Ne.symm same)]
    exact .cons ⟨rfl, rfl, rfl, rfl, rfl, rfl, rfl, fun _ => rfl⟩ .nil

/-- Presence of an input mirrored. -/
theorem compareInput_mirror (key : String) (left right : Option PricingInput) :
    Mirrored (compareInput key left right) (compareInput key right left) := by
  cases left with
  | none =>
    cases right with
    | none => exact .nil
    | some input => exact .cons ⟨rfl, rfl, rfl, rfl, rfl, rfl, rfl, fun _ => rfl⟩ .nil
  | some input =>
    cases right with
    | none => exact .cons ⟨rfl, rfl, rfl, rfl, rfl, rfl, rfl, fun _ => rfl⟩ .nil
    | some other => exact .nil

/-- Constants mirrored. -/
theorem compareConstant_mirror (key : String) (left right : Option PricingConstant) :
    Mirrored (compareConstant key left right) (compareConstant key right left) := by
  cases left with
  | none => cases right <;> exact .nil
  | some constant =>
    cases right with
    | none => exact .nil
    | some other => exact compareNumbers_mirror _ _ _ _ rfl _ _ _ _

/-- Rows of one key mirrored. -/
theorem compareRows_mirror (table key : String) (left right : Option TableRow) :
    Mirrored (compareRows table key left right) (compareRows table key right left) := by
  cases left with
  | none =>
    cases right with
    | none => exact .nil
    | some row => exact .cons ⟨rfl, rfl, rfl, rfl, rfl, rfl, rfl, fun _ => rfl⟩ .nil
  | some row =>
    cases right with
    | none => exact .cons ⟨rfl, rfl, rfl, rfl, rfl, rfl, rfl, fun _ => rfl⟩ .nil
    | some other =>
      dsimp only [compareRows]
      rw [numbersDiffer_comm other.value row.value]
      by_cases differ : numbersDiffer row.value other.value
      · rw [if_pos differ, if_pos differ]
        exact .cons ⟨rfl, rfl, rfl, rfl, rfl, rfl, rfl, fun _ => rfl⟩ .nil
      · rw [if_neg differ, if_neg differ]
        exact .nil

/-- The keys of two dictionaries do not depend on which stands first. -/
theorem sortedUnion_comm (left right : List String) :
    sortedUnion left right = sortedUnion right left := by
  unfold sortedUnion
  have ordered : ∀ keys : List String,
      (keys.insertionSort fun x y => x ≤ y).Pairwise (· ≤ ·) :=
    fun keys => List.pairwise_insertionSort _ keys
  refine List.Perm.eq_of_pairwise (fun x y _ _ forth back => le_antisymm forth back)
    (ordered _) (ordered _) ?_
  · have dedup : (left ++ right).dedup.Perm (right ++ left).dedup :=
      List.perm_append_comm.dedup
    exact (List.perm_insertionSort _ _).trans (dedup.trans (List.perm_insertionSort _ _).symm)

/-- Tables of one identifier mirrored. -/
theorem compareRateTables_mirror {left right : RateTable} (same : left.id = right.id) :
    Mirrored (compareRateTables left right) (compareRateTables right left) := by
  unfold compareRateTables
  rw [sortedUnion_comm (right.rows.map formatMatchKey), ← same]
  induction sortedUnion (left.rows.map formatMatchKey) (right.rows.map formatMatchKey) with
  | nil => exact .nil
  | cons key rest ih =>
    rw [List.flatMap_cons, List.flatMap_cons]
    exact List.rel_append (compareRows_mirror ..) ih

/-- Modifiers mirrored. -/
theorem compareModifier_mirror {key : String} {left right : Option PricingModifier}
    {differences : List SemanticDifference}
    (compared : compareModifier key left right = .ok differences) :
    ∃ mirrored, compareModifier key right left = .ok mirrored ∧
      Mirrored differences mirrored := by
  cases left with
  | none =>
    cases compared
    cases right <;> exact ⟨[], rfl, .nil⟩
  | some modifier =>
    cases right with
    | none =>
      cases compared
      exact ⟨[], rfl, .nil⟩
    | some other =>
      obtain ⟨value, number, compared⟩ := bind_eq_ok compared
      obtain ⟨otherValue, otherNumber, compared⟩ := bind_eq_ok compared
      cases compared
      refine ⟨_, by rw [compareModifier, otherNumber, number]; rfl, ?_⟩
      exact List.rel_append
        (List.rel_append (compareEffectivePeriods_mirror _ _ _ _ (fun _ => rfl) _ _)
          (compareNumbers_mirror _ _ _ _ rfl _ _ _ _))
        (compareSequences_mirror ..)

/-- Constraints mirrored. -/
theorem compareConstraint_mirror (key : String) (left right : Option PremiumConstraint) :
    Mirrored (compareConstraint key left right) (compareConstraint key right left) := by
  cases left with
  | none => cases right <;> exact .nil
  | some constraint =>
    cases right with
    | none => exact .nil
    | some other =>
      exact List.rel_append (compareNumbers_mirror _ _ _ _ rfl _ _ _ _)
        (compareSequences_mirror ..)

/-- Fees mirrored. -/
theorem compareFee_mirror (key : String) (left right : Option PricingFee) :
    Mirrored (compareFee key left right) (compareFee key right left) := by
  cases left with
  | none => cases right <;> exact .nil
  | some fee =>
    cases right with
    | none => exact .nil
    | some other =>
      exact List.rel_append (compareNumbers_mirror _ _ _ _ rfl _ _ _ _)
        (compareSequences_mirror ..)

/-- Keyed lists mirrored, when each key is. -/
theorem compareById_mirror {α : Type} {id : α → String}
    {compare : String → Option α → Option α → Except Failure (List SemanticDifference)}
    {left right : List α} {differences : List SemanticDifference}
    (each : ∀ key part, compare key (lastWith id left key) (lastWith id right key) = .ok part →
      ∃ mirrored, compare key (lastWith id right key) (lastWith id left key) = .ok mirrored ∧
        Mirrored part mirrored)
    (compared : compareById id compare left right = .ok differences) :
    ∃ mirrored, compareById id compare right left = .ok mirrored ∧
      Mirrored differences mirrored := by
  obtain ⟨parts, traversed, flat⟩ := bind_eq_ok compared
  cases flat
  have turned : ∀ (keys : List String) (parts : List (List SemanticDifference)),
      keys.mapM (fun key => compare key (lastWith id left key) (lastWith id right key)) =
        .ok parts →
      ∃ others, keys.mapM (fun key =>
          compare key (lastWith id right key) (lastWith id left key)) = .ok others ∧
        List.Forall₂ Mirrored parts others := by
    intro keys
    induction keys with
    | nil =>
      intro parts traversed
      cases traversed
      exact ⟨[], rfl, .nil⟩
    | cons key rest ih =>
      intro parts traversed
      rw [List.mapM_cons] at traversed
      obtain ⟨part, found, traversed⟩ := bind_eq_ok traversed
      obtain ⟨tail, later, joined⟩ := bind_eq_ok traversed
      cases joined
      obtain ⟨mirrored, turnedPart, images⟩ := each key part found
      obtain ⟨others, turnedTail, tailImages⟩ := ih tail later
      exact ⟨mirrored :: others, by rw [List.mapM_cons, turnedPart, turnedTail]; rfl,
        .cons images tailImages⟩
  obtain ⟨others, found, images⟩ := turned _ parts traversed
  refine ⟨others.flatten, ?_, List.rel_flatten images⟩
  dsimp only [compareById]
  rw [sortedUnion_comm, found]
  rfl

/-- Comparisons that cannot fail are mirrored when their differences are. -/
theorem compareById_mirror_total {α : Type} {id : α → String}
    {compare : String → Option α → Option α → List SemanticDifference} {left right : List α}
    {differences : List SemanticDifference}
    (each : ∀ key, Mirrored (compare key (lastWith id left key) (lastWith id right key))
      (compare key (lastWith id right key) (lastWith id left key)))
    (compared : compareById id (fun key x y => .ok (compare key x y)) left right =
      .ok differences) :
    ∃ mirrored, compareById id (fun key x y => .ok (compare key x y)) right left =
      .ok mirrored ∧ Mirrored differences mirrored :=
  compareById_mirror (fun key part found => by
    cases found
    exact ⟨_, rfl, each key⟩) compared

/-- The verdict depends on the number of differences only. -/
theorem SemanticDiffResult.semanticallyEqual_congr {one two : SemanticDiffResult}
    (count : one.differenceCount = two.differenceCount) :
    one.semanticallyEqual = two.semanticallyEqual := by
  simp only [SemanticDiffResult.semanticallyEqual, count]

/-- A comparison that returns also returns with the packages exchanged, with the same differences
in the same order seen from the other side, and the same verdict. -/
theorem comparePackages_mirror (left right : IPIRPackage) (result : SemanticDiffResult)
    (compared : comparePackages left.toPackageContent right.toPackageContent = .ok result) :
    ∃ mirrored, comparePackages right.toPackageContent left.toPackageContent = .ok mirrored ∧
      Mirrored result.differences mirrored.differences ∧
      mirrored.semanticallyEqual = result.semanticallyEqual := by
  obtain ⟨inputs, inputsCompared, compared⟩ := bind_eq_ok compared
  obtain ⟨constants, constantsCompared, compared⟩ := bind_eq_ok compared
  obtain ⟨tables, tablesCompared, compared⟩ := bind_eq_ok compared
  obtain ⟨modifiers, modifiersCompared, compared⟩ := bind_eq_ok compared
  obtain ⟨constraints, constraintsCompared, compared⟩ := bind_eq_ok compared
  obtain ⟨fees, feesCompared, compared⟩ := bind_eq_ok compared
  cases compared
  have tablesMirror : ∀ key, Mirrored
      (compareTable (lastWith (·.id) left.tables key) (lastWith (·.id) right.tables key))
      (compareTable (lastWith (·.id) right.tables key) (lastWith (·.id) left.tables key)) := by
    intro key
    cases found : lastWith (fun table : RateTable => table.id) left.tables key with
    | none => cases lastWith (fun table : RateTable => table.id) right.tables key <;> exact .nil
    | some table =>
      cases foundRight : lastWith (fun table : RateTable => table.id) right.tables key with
      | none => exact .nil
      | some other =>
        refine compareRateTables_mirror ?_
        rw [(lastWith_eq_some found).2, (lastWith_eq_some foundRight).2]
  obtain ⟨inputs', turnedInputs, inputImages⟩ :=
    compareById_mirror_total (fun key => compareInput_mirror key _ _) inputsCompared
  obtain ⟨constants', turnedConstants, constantImages⟩ :=
    compareById_mirror_total (fun key => compareConstant_mirror key _ _) constantsCompared
  obtain ⟨tables', turnedTables, tableImages⟩ :=
    compareById_mirror_total tablesMirror tablesCompared
  obtain ⟨modifiers', turnedModifiers, modifierImages⟩ :=
    compareById_mirror (fun _ _ => compareModifier_mirror) modifiersCompared
  obtain ⟨constraints', turnedConstraints, constraintImages⟩ :=
    compareById_mirror_total (fun key => compareConstraint_mirror key _ _) constraintsCompared
  obtain ⟨fees', turnedFees, feeImages⟩ :=
    compareById_mirror_total (fun key => compareFee_mirror key _ _) feesCompared
  have images : Mirrored
      (compareEffectivePeriods "package" left.id .package (some left.effectivePeriod)
        (some right.effectivePeriod) ++ inputs ++ constants ++ tables ++ modifiers ++
        constraints ++ fees)
      (compareEffectivePeriods "package" right.id .package (some right.effectivePeriod)
        (some left.effectivePeriod) ++ inputs' ++ constants' ++ tables' ++ modifiers' ++
        constraints' ++ fees') := by
    refine List.rel_append (List.rel_append (List.rel_append (List.rel_append (List.rel_append
      (List.rel_append ?_ inputImages) constantImages) tableImages) modifierImages)
      constraintImages) feeImages
    exact compareEffectivePeriods_mirror _ _ _ _ (fun other => absurd rfl other) _ _
  refine ⟨⟨right.id, left.id, right.version, left.version, _⟩, ?_, images, ?_⟩
  · unfold comparePackages
    rw [turnedInputs, turnedConstants, turnedTables, turnedModifiers, turnedConstraints,
      turnedFees]
    rfl
  · exact SemanticDiffResult.semanticallyEqual_congr images.length_eq.symm

/-- The flat package with a roof age nobody reads. -/
def widenedPackage : IPIRPackage where
  toPackageContent :=
    { flatContent ⟨false, 10000, -2⟩ (.reference "base_rate") with
      inputs := [⟨"roof_age", .decimal, true, none, some (.int 0), none, rfl, by simp⟩] }
  valid := by decide

/-- Difference of the two packages, seen from the one with the input. -/
def missingRoof : SemanticDifference where
  id := "diff_input_roof_age_missing"
  differenceType := .missingNode
  semanticPath := "inputs.roof_age"
  nodeId := "roof_age"
  nodeType := .input
  leftValue := some (.str "roof_age")
  rightValue := none
  severity := .critical
  dimensionKey := none

/-- The input missing on one side is the one extra on the other. -/
theorem comparePackages_mirror_roof :
    ∃ mirrored, comparePackages flatPackage.toPackageContent widenedPackage.toPackageContent =
        .ok mirrored ∧
      Mirrored [missingRoof] mirrored.differences ∧ mirrored.semanticallyEqual = false :=
  comparePackages_mirror widenedPackage flatPackage
    ⟨"flat_rate", "flat_rate", "1.0.0", "1.0.0", [missingRoof]⟩ rfl

/-- A package equals itself exactly when every modifier has an amount of its own; a modifier that
refers to another node makes the comparison raise. -/
theorem comparePackages_self_iff (package : IPIRPackage) :
    (∃ result, comparePackages package.toPackageContent package.toPackageContent = .ok result ∧
      result.semanticallyEqual = true ∧ result.differences = []) ↔
    ∀ modifier ∈ package.modifiers, ∃ value, modifier.value = .amount value := by
  have nodes := comparePackages_nodes package.toPackageContent package.toPackageContent rfl rfl
    rfl rfl rfl
  constructor
  · intro equal modifier member
    obtain ⟨result, compared, -, -⟩ := equal
    obtain ⟨part, modifiersCompared, -⟩ := (comparePackages_parts compared).modifiers
    obtain ⟨differences, computed, -⟩ :=
      compareById_part modifiersCompared (.inl (List.mem_map_of_mem member))
    obtain ⟨last, found⟩ := lastWith_of_key (fun node : PricingModifier => node.id) member
    have one : last = modifier := by
      have keyed := lastWith_eq_some found
      exact eq_of_key package.valid.distinctNodes.modifiers keyed.1 member keyed.2
    rw [found, one] at computed
    obtain ⟨value, _, amount, _, _⟩ := compareModifier_parts computed
    exact ⟨value, amount⟩
  · intro amounts
    have same : compareById (fun node : PricingModifier => node.id) compareModifier
        package.modifiers package.modifiers = .ok [] := by
      refine compareById_self (fun key node member => ?_) fun _ => rfl
      obtain ⟨value, amount⟩ := amounts node member
      exact compareModifier_self key node amount
    have start : compareEffectivePeriods "package" package.id .package
        (some package.effectivePeriod) (some package.effectivePeriod) = [] :=
      compareEffectivePeriods_eq_nil.mpr rfl
    rw [same, start] at nodes
    exact ⟨_, nodes, rfl, rfl⟩

/-- Flat package whose surcharge is what another constant says. -/
def referringPackage : IPIRPackage where
  toPackageContent :=
    { flatContent ⟨false, 10000, -2⟩ (.reference "base_rate") with
      constants := [⟨"base_rate", ⟨false, 10000, -2⟩, none⟩, ⟨"load", ⟨false, 1000, -2⟩, none⟩]
      modifiers := [⟨"surcharge", .flatSurcharge, "total", .reference "load", none, none, none⟩] }
  valid := by decide

/-- A valid package that cannot be compared with itself. -/
theorem comparePackages_self_fails :
    ¬∀ package : IPIRPackage, ∃ result,
      comparePackages package.toPackageContent package.toPackageContent = .ok result ∧
        result.semanticallyEqual = true ∧ result.differences = [] := by
  intro equal
  obtain ⟨result, compared, -, -⟩ := equal referringPackage
  cases compared

end RateGuard
