import RateGuard.Foundation.Precedence
import RateGuard.Portfolio.Covering
import RateGuard.Reconciliation.TraceAlignment

/-!
# Root causes

The choice of the node a premium mismatch is blamed on. A changed table row, a changed start date
and a changed sequence are preferred in this order; without one the first divergent node that no
divergent node precedes is chosen. The preferred difference of the last two kinds need not sit at
a divergent node, and none of them need sit at a root.
-/

open DecimalFloat TopologicalSort KeyedList

namespace RateGuard

/-- Explanation of a premium mismatch by one node. -/
structure RootCauseFinding where
  /-- Node that is blamed. -/
  nodeId : String
  /-- Expected value at it. -/
  expectedValue : Option Value
  /-- Actual value at it. -/
  actualValue : Option Value
  /-- Where it is. -/
  semanticPath : String
  /-- Type of the difference. -/
  differenceType : DifferenceType
  /-- Its severity. -/
  severity : DifferenceSeverity
  /-- Nodes that depend on it. -/
  downstreamEffects : List String
  deriving DecidableEq

/-- Outcome of the analysis. -/
structure RootCauseAnalysis where
  /-- Node that is blamed. -/
  primaryNodeId : Option String
  /-- Its finding. -/
  primary : Option RootCauseFinding
  /-- Findings that contribute; there are never any. -/
  contributing : List RootCauseFinding
  deriving DecidableEq

/-- Nodes that diverge. -/
def divergentNodeIds (traceDiffs : List TraceDifference) : List String :=
  traceDiffs.map (·.nodeId)

/-- Whether a text mentions a changed sequence. -/
def mentionsOrder (text : String) : Bool :=
  decide ("SEQUENCE_ORDER".toList <:+: text.toList)

/-- Whether the printed trace differences mention a changed sequence. Only the texts of a
difference can; what is printed around them, quotes and escapes included, never spells it. -/
def traceMentionsOrder (traceDiffs : List TraceDifference) : Bool :=
  traceDiffs.any fun difference =>
    mentionsOrder difference.nodeId || mentionsOrder difference.nodeType ||
      mentionsOrder difference.expectedValue.toString ||
      mentionsOrder difference.actualValue.toString

/-- First changed row of a divergent table. -/
def tableCause (traceDiffs : List TraceDifference) (differences : List SemanticDifference) :
    Option SemanticDifference :=
  differences.find? fun difference => difference.differenceType = .tableRowChange &&
    (divergentNodeIds traceDiffs).contains difference.nodeId

/-- First changed start date, of a divergent node or while one fixed node diverges. -/
def effectiveDateCause (traceDiffs : List TraceDifference)
    (differences : List SemanticDifference) : Option SemanticDifference :=
  differences.find? fun difference => difference.differenceType = .effectiveDateChange &&
    ((divergentNodeIds traceDiffs).contains difference.nodeId ||
      (divergentNodeIds traceDiffs).contains "premium_after_discounts")

/-- First changed sequence, while one is mentioned or one fixed node diverges. -/
def orderCause (traceDiffs : List TraceDifference) (differences : List SemanticDifference) :
    Option SemanticDifference :=
  differences.find? fun difference => difference.differenceType = .orderChange &&
    (traceMentionsOrder traceDiffs ||
      (divergentNodeIds traceDiffs).contains "policy_minimum")

/-- Preferred difference. A changed row is always of a divergent table, so the test for a
diverging roof beside it decides nothing. -/
def prioritizedCause (traceDiffs : List TraceDifference)
    (differences : List SemanticDifference) : Option SemanticDifference :=
  (tableCause traceDiffs differences).or
    ((effectiveDateCause traceDiffs differences).or (orderCause traceDiffs differences))

/-- Nodes that precede a node in the dependency graph. -/
def getAncestors (package : PackageContent) (nodeId : String) : List String :=
  ancestors (dependencyNodes package) (dependencyEdges package) nodeId

/-- Nodes that a node precedes in the dependency graph, in order of their texts. -/
def getDescendants (package : PackageContent) (nodeId : String) : List String :=
  (descendants (dependencyNodes package) (dependencyEdges package) nodeId).insertionSort (· ≤ ·)

/-- Whether no divergent node precedes the node of a trace difference. -/
def isRootCandidate (package : PackageContent) (traceDiffs : List TraceDifference)
    (difference : TraceDifference) : Bool :=
  !(getAncestors package difference.nodeId).any (divergentNodeIds traceDiffs).contains

/-- First root candidate, else the first trace difference. -/
def topologicalRoot (package : PackageContent) (first : TraceDifference)
    (rest : List TraceDifference) : TraceDifference :=
  ((first :: rest).find? (isRootCandidate package (first :: rest))).getD first

/-- Node and semantic difference that are blamed. -/
def primaryCause (package : PackageContent) (first : TraceDifference)
    (rest : List TraceDifference) (differences : List SemanticDifference) :
    String × Option SemanticDifference :=
  match (prioritizedCause (first :: rest) differences).filter (·.nodeId ≠ "") with
  | some difference => (difference.nodeId, some difference)
  | none =>
    let root := topologicalRoot package first rest
    (root.nodeId, lastWith (·.nodeId) differences root.nodeId)

/-- Finding for the node and the difference that are blamed. -/
def rootCauseFinding (package : PackageContent) (first : TraceDifference)
    (rest : List TraceDifference) (nodeId : String) :
    Option SemanticDifference → RootCauseFinding
  | some difference =>
    { nodeId := nodeId
      expectedValue := difference.leftValue
      actualValue := difference.rightValue
      semanticPath := difference.semanticPath
      differenceType := difference.differenceType
      severity := difference.severity
      downstreamEffects := getDescendants package nodeId }
  | none =>
    let shown := ((first :: rest).find? (·.nodeId == nodeId)).getD first
    { nodeId := nodeId
      expectedValue := some shown.expectedValue
      actualValue := some shown.actualValue
      semanticPath := "nodes." ++ nodeId
      differenceType := .valueChange
      severity := .high
      downstreamEffects := getDescendants package nodeId }

/-- `perform_root_cause_analysis`. -/
def performRootCauseAnalysis (sorter : Sorter String) (traceDiffs : List TraceDifference)
    (diffResult : SemanticDiffResult) (package : PackageContent) :
    Except Failure RootCauseAnalysis :=
  match traceDiffs with
  | [] => return ⟨none, none, []⟩
  | first :: rest => do
    checkDependencies sorter package
    let (nodeId, difference) := primaryCause package first rest diffResult.differences
    return ⟨some nodeId, some (rootCauseFinding package first rest nodeId difference), []⟩

/-- A divergent node that no divergent node precedes. -/
structure DivergentRoot (package : PackageContent) (traceDiffs : List TraceDifference)
    (nodeId : String) : Prop where
  /-- The node diverges. -/
  diverges : nodeId ∈ divergentNodeIds traceDiffs
  /-- Nothing upstream of it does. -/
  upstream : ∀ other ∈ divergentNodeIds traceDiffs,
    ¬ Precedes (dependencyEdges package) other nodeId

/-- The difference found by each preference, where the one before finds none, sits at a divergent
root. An empty name is no node. -/
structure RootedCauses (package : PackageContent) (traceDiffs : List TraceDifference)
    (differences : List SemanticDifference) : Prop where
  /-- The first changed row of a divergent table. -/
  table : ∀ difference, tableCause traceDiffs differences = some difference →
    difference.nodeId ≠ "" → DivergentRoot package traceDiffs difference.nodeId
  /-- The first changed start date that is considered. -/
  date : tableCause traceDiffs differences = none →
    ∀ difference, effectiveDateCause traceDiffs differences = some difference →
      difference.nodeId ≠ "" → DivergentRoot package traceDiffs difference.nodeId
  /-- The first changed sequence that is considered. -/
  order : tableCause traceDiffs differences = none →
    effectiveDateCause traceDiffs differences = none →
    ∀ difference, orderCause traceDiffs differences = some difference →
      difference.nodeId ≠ "" → DivergentRoot package traceDiffs difference.nodeId

/-- Edges lead between nodes of the graph. -/
theorem dependencyEdges_ends (package : PackageContent) :
    ∀ edge ∈ dependencyEdges package,
      edge.1 ∈ dependencyNodes package ∧ edge.2 ∈ dependencyNodes package := by
  intro edge member
  have ends : ∀ node ∈ [edge.1, edge.2], node ∈ dependencyNodes package := by
    intro node isEnd
    refine List.mem_dedup.mpr (List.mem_append_right _ ?_)
    exact List.mem_flatMap.mpr ⟨edge, member, isEnd⟩
  exact ⟨ends edge.1 List.mem_cons_self, ends edge.2 (List.mem_cons_of_mem _ List.mem_cons_self)⟩

/-- The dependency graph builds exactly when it has no cycle. -/
theorem checkDependencies_iff (sorter : Sorter String) (package : PackageContent) :
    checkDependencies sorter package = .ok () ↔ Acyclic (dependencyEdges package) := by
  rw [← sorter.acyclic (dependencyEdges_ends package)]
  unfold checkDependencies
  cases sorter.sort (dependencyNodes package) (dependencyEdges package) with
  | some order => exact ⟨fun _ => rfl, fun _ => rfl⟩
  | none =>
    constructor
    · intro built
      cases built
    · intro sorted
      cases sorted

/-- The ancestors of a node are the nodes that precede it. -/
theorem mem_getAncestors {package : PackageContent} (acyclic : Acyclic (dependencyEdges package))
    {nodeId other : String} :
    other ∈ getAncestors package nodeId ↔ Precedes (dependencyEdges package) other nodeId :=
  mem_ancestors acyclic fun edge member => (dependencyEdges_ends package edge member).1

/-- A root candidate is a difference at a node that no divergent node precedes. -/
theorem isRootCandidate_iff {package : PackageContent}
    (acyclic : Acyclic (dependencyEdges package)) {traceDiffs : List TraceDifference}
    {difference : TraceDifference} :
    isRootCandidate package traceDiffs difference = true ↔
      ∀ other ∈ divergentNodeIds traceDiffs,
        ¬ Precedes (dependencyEdges package) other difference.nodeId := by
  unfold isRootCandidate
  rw [Bool.not_eq_true', List.any_eq_false]
  constructor
  · intro clear other diverges path
    exact clear other ((mem_getAncestors acyclic).mpr path) (List.contains_iff_mem.mpr diverges)
  · intro clear other ancestor listed
    exact clear other (List.contains_iff_mem.mp listed) ((mem_getAncestors acyclic).mp ancestor)

/-- Among the divergent nodes there is a root, so the fallback always chooses one. -/
theorem topologicalRoot_root {package : PackageContent}
    (acyclic : Acyclic (dependencyEdges package)) (first : TraceDifference)
    (rest : List TraceDifference) :
    DivergentRoot package (first :: rest) (topologicalRoot package first rest).nodeId := by
  unfold topologicalRoot
  cases found : (first :: rest).find? (isRootCandidate package (first :: rest)) with
  | some root =>
    exact ⟨List.mem_map_of_mem (List.mem_of_find?_eq_some found),
      (isRootCandidate_iff acyclic).mp (List.find?_some found)⟩
  | none =>
    have nonempty : divergentNodeIds (first :: rest) ≠ [] := List.cons_ne_nil _ _
    obtain ⟨nodeId, diverges, clear⟩ := exists_root acyclic nonempty
    obtain ⟨root, member, same⟩ := List.mem_map.mp diverges
    have candidate : isRootCandidate package (first :: rest) root = true :=
      (isRootCandidate_iff acyclic).mpr (same.symm ▸ clear)
    exact absurd candidate (List.find?_eq_none.mp found root member)

/-- The preferred difference sits at a divergent root, or has no name, exactly when the
difference of each preference does where it is the one that counts. -/
theorem prioritizedCause_rooted {package : PackageContent} {traceDiffs : List TraceDifference}
    {differences : List SemanticDifference} :
    (∀ difference, prioritizedCause traceDiffs differences = some difference →
      difference.nodeId ≠ "" → DivergentRoot package traceDiffs difference.nodeId) ↔
      RootedCauses package traceDiffs differences := by
  unfold prioritizedCause
  constructor
  · intro rooted
    refine ⟨fun difference found => ?_, fun noTable difference found => ?_,
      fun noTable noDate difference found => ?_⟩
    · exact rooted difference (by rw [found, Option.some_or])
    · exact rooted difference (by rw [noTable, found, Option.none_or, Option.some_or])
    · exact rooted difference (by rw [noTable, noDate, found, Option.none_or, Option.none_or])
  · intro rooted difference found
    cases table : tableCause traceDiffs differences with
    | some change =>
      rw [table, Option.some_or] at found
      exact rooted.table difference (table.trans found)
    | none =>
      rw [table, Option.none_or] at found
      cases date : effectiveDateCause traceDiffs differences with
      | some change =>
        rw [date, Option.some_or] at found
        exact rooted.date table difference (date.trans found)
      | none =>
        rw [date, Option.none_or] at found
        exact rooted.order table date difference found

/-- The node that is blamed is a divergent root exactly when the preferred difference, if it is
named, sits at one. -/
theorem primaryCause_root_iff {package : PackageContent}
    (acyclic : Acyclic (dependencyEdges package)) (first : TraceDifference)
    (rest : List TraceDifference) (differences : List SemanticDifference) :
    DivergentRoot package (first :: rest) (primaryCause package first rest differences).1 ↔
      ∀ difference, prioritizedCause (first :: rest) differences = some difference →
        difference.nodeId ≠ "" → DivergentRoot package (first :: rest) difference.nodeId := by
  have root := topologicalRoot_root acyclic first rest
  unfold primaryCause
  cases preferred : prioritizedCause (first :: rest) differences with
  | none =>
    exact ⟨fun _ difference found => (by cases found), fun _ => root⟩
  | some difference =>
    by_cases named : difference.nodeId = ""
    · rw [Option.filter_some_neg (by simpa using named)]
      refine ⟨fun _ other found differs => ?_, fun _ => root⟩
      rw [← Option.some.inj found] at differs
      exact absurd named differs
    · rw [Option.filter_some_pos (by simpa using named)]
      constructor
      · intro rooted other found _
        rw [← Option.some.inj found]
        exact rooted
      · intro rooted
        exact rooted difference rfl named

/-- Package whose discounted premium is its base rate. -/
def discountedContent : PackageContent :=
  { flatContent ⟨false, 10000, -2⟩ (.reference "base_rate") with
    calculations := [⟨"premium_after_discounts", .reference "base_rate", [], none, none, none⟩]
    outputs := [⟨"premium", "premium_after_discounts", none⟩] }

/-- Its dependency graph builds. -/
theorem discounted_builds :
    checkDependencies (byGenerations String) discountedContent = .ok () :=
  (checkDependencies_iff _ _).mpr ⟨fun id => if id = "premium" then 1 else 0, by decide +kernel⟩

/-- A comparison that found a later start of the package. -/
def startDifference : SemanticDiffResult where
  leftPackageId := "flat_rate"
  rightPackageId := "flat_rate"
  leftVersion := "1.0.0"
  rightVersion := "1.0.0"
  differences := [periodDifference "package" "flat_rate" .package (some sampleDay)
    (some laterDay)]

/-- Divergence of one calculation by ten. -/
def calculationDivergence (nodeId : String) : TraceDifference where
  nodeId := nodeId
  nodeType := "CALCULATION"
  expectedValue := .int 100
  actualValue := .int 110
  absoluteDifference := some (.ofInt 10)
  percentageDifference := some (.finite false 100000 (-4))
  sequencePosition := 2

end RateGuard
