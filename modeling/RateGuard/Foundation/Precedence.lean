import Mathlib.Logic.Relation
import RateGuard.Foundation.TopologicalSort

/-!
# Precedence along edges

One node precedes another when a path of edges leads to it. The decision follows the edge list:
a path either avoids the first edge or splits at its uses. In an acyclic graph every nonempty set
of nodes has a root, a node none of the others precedes.
-/

namespace TopologicalSort

variable {α : Type}

/-- A path of at least one edge leads from the first node to the second. -/
def Precedes (edges : List (α × α)) : α → α → Prop :=
  Relation.TransGen fun first second => (first, second) ∈ edges

/-- The first node is the second or precedes it. -/
def Reaches (edges : List (α × α)) : α → α → Prop :=
  Relation.ReflTransGen fun first second => (first, second) ∈ edges

/-- More edges keep a path. -/
theorem Precedes.cons {edges : List (α × α)} {first second : α} (edge : α × α)
    (path : Precedes edges first second) : Precedes (edge :: edges) first second :=
  Relation.TransGen.mono (fun _ _ member => List.mem_cons_of_mem edge member) _ _ path

/-- More edges keep what is reached. -/
theorem Reaches.cons {edges : List (α × α)} {first second : α} (edge : α × α)
    (path : Reaches edges first second) : Reaches (edge :: edges) first second :=
  Relation.ReflTransGen.mono (fun _ _ member => List.mem_cons_of_mem edge member) _ _ path

/-- Reaching is being the node or preceding it. -/
theorem reaches_iff {edges : List (α × α)} {first second : α} :
    Reaches edges first second ↔ first = second ∨ Precedes edges first second := by
  unfold Reaches Precedes
  rw [Relation.reflTransGen_iff_eq_or_transGen]
  exact or_congr_left eq_comm

/-- A path avoids the first edge of the list, or leads to it before its first use and on from it
after its last. -/
theorem precedes_cons {edges : List (α × α)} {edge : α × α} {first second : α} :
    Precedes (edge :: edges) first second ↔
      Precedes edges first second ∨
        (Reaches edges first edge.1 ∧ Reaches edges edge.2 second) := by
  constructor
  · intro path
    induction path with
    | single member =>
      rcases List.mem_cons.mp member with same | later
      · rw [← same]
        exact .inr ⟨.refl, .refl⟩
      · exact .inl (.single later)
    | tail _ member ih =>
      rcases List.mem_cons.mp member with same | later
      · rw [← same]
        rw [← same] at ih
        rcases ih with avoids | ⟨before, _⟩
        · exact .inr ⟨avoids.to_reflTransGen, .refl⟩
        · exact .inr ⟨before, .refl⟩
      · rcases ih with avoids | ⟨before, after⟩
        · exact .inl (avoids.tail later)
        · exact .inr ⟨before, after.tail later⟩
  · rintro (avoids | ⟨before, after⟩)
    · exact avoids.cons edge
    · have used : Precedes (edge :: edges) edge.1 edge.2 := .single List.mem_cons_self
      exact (used.trans_right (before.cons edge)).trans_left (after.cons edge)

section Decision

variable [DecidableEq α]

/-- Whether one node precedes another, decided along the edges. -/
def precedes : List (α × α) → α → α → Bool
  | [], _, _ => false
  | edge :: edges, first, second =>
    precedes edges first second ||
      ((first == edge.1 || precedes edges first edge.1) &&
        (edge.2 == second || precedes edges edge.2 second))

/-- The decision follows the paths. -/
theorem precedes_iff (edges : List (α × α)) (first second : α) :
    precedes edges first second = true ↔ Precedes edges first second := by
  induction edges generalizing first second with
  | nil =>
    constructor
    · intro decided
      cases decided
    · intro path
      obtain ⟨_, member, _⟩ := Relation.TransGen.head'_iff.mp path
      cases member
  | cons edge edges ih =>
    rw [precedes_cons, reaches_iff, reaches_iff, ← ih, ← ih, ← ih]
    simp [precedes]

/-- Precedence is decidable. -/
instance (edges : List (α × α)) (first second : α) : Decidable (Precedes edges first second) :=
  decidable_of_iff _ (precedes_iff edges first second)

/-- The other nodes that precede a node. -/
def ancestors (nodes : List α) (edges : List (α × α)) (node : α) : List α :=
  nodes.filter fun other => other != node && precedes edges other node

/-- The other nodes that a node precedes. -/
def descendants (nodes : List α) (edges : List (α × α)) (node : α) : List α :=
  nodes.filter fun other => other != node && precedes edges node other

end Decision

/-- Ranks rise along a path. -/
theorem Precedes.rank_lt {edges : List (α × α)} {rank : α → Nat}
    (rises : ∀ edge ∈ edges, rank edge.1 < rank edge.2) {first second : α}
    (path : Precedes edges first second) : rank first < rank second := by
  induction path with
  | single member => exact rises _ member
  | tail _ member ih => exact Nat.lt_trans ih (rises _ member)

/-- A path starts at the source of an edge. -/
theorem Precedes.source {edges : List (α × α)} {first second : α}
    (path : Precedes edges first second) : ∃ edge ∈ edges, edge.1 = first := by
  obtain ⟨next, member, _⟩ := Relation.TransGen.head'_iff.mp path
  exact ⟨(first, next), member, rfl⟩

/-- In an acyclic graph the ancestors of a node are the nodes that precede it. -/
theorem mem_ancestors [DecidableEq α] {nodes : List α} {edges : List (α × α)}
    (acyclic : Acyclic edges) (ends : ∀ edge ∈ edges, edge.1 ∈ nodes) {node other : α} :
    other ∈ ancestors nodes edges node ↔ Precedes edges other node := by
  obtain ⟨rank, rises⟩ := acyclic
  constructor
  · intro member
    have kept := (List.mem_filter.mp member).2
    exact (precedes_iff edges other node).mp (Bool.and_eq_true_iff.mp kept).2
  · intro path
    obtain ⟨edge, member, source⟩ := path.source
    have differ : other ≠ node := by
      intro same
      have lower := path.rank_lt rises
      rw [same] at lower
      exact Nat.lt_irrefl _ lower
    refine List.mem_filter.mpr ⟨source ▸ ends edge member, ?_⟩
    exact Bool.and_eq_true_iff.mpr ⟨bne_iff_ne.mpr differ, (precedes_iff edges other node).mpr path⟩

/-- In an acyclic graph some node of a nonempty list has no predecessor in the list: one of least
rank. -/
theorem exists_root {edges : List (α × α)} (acyclic : Acyclic edges) {nodes : List α}
    (nonempty : nodes ≠ []) : ∃ root ∈ nodes, ∀ other ∈ nodes, ¬ Precedes edges other root := by
  obtain ⟨rank, rises⟩ := acyclic
  obtain ⟨root, member, minimal⟩ := exists_minimalFor_of_wellFoundedLT (· ∈ nodes) rank
    (List.exists_mem_of_ne_nil nodes nonempty)
  refine ⟨root, member, fun other inside path => ?_⟩
  have lower := path.rank_lt rises
  have least_rank := minimal inside (Nat.le_of_lt lower)
  exact absurd lower (Nat.not_lt.mpr least_rank)

/-- A graph is sorted exactly when it has no cycle. -/
theorem Sorter.acyclic [DecidableEq α] (sorter : Sorter α) {nodes : List α}
    {edges : List (α × α)} (ends : ∀ edge ∈ edges, edge.1 ∈ nodes ∧ edge.2 ∈ nodes) :
    (sorter.sort nodes edges).isSome ↔ Acyclic edges := by
  constructor
  · intro sorted
    obtain ⟨order, found⟩ := Option.isSome_iff_exists.mp sorted
    refine (sorter.respects nodes edges order ends found).acyclic fun edge member => ?_
    obtain ⟨source, target⟩ := ends edge member
    have kept := sorter.perm nodes edges order found
    exact ⟨kept.mem_iff.mpr source, kept.mem_iff.mpr target⟩
  · exact sorter.total nodes edges

end TopologicalSort
