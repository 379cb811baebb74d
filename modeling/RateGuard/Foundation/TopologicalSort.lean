import Mathlib.Data.List.Perm.Basic
import Mathlib.Data.List.Nodup
import Mathlib.Order.Minimal

/-!
# Topological sorting

The contract of a topological sort over a node list and an edge list, and one
sort that meets it by peeling generations of nodes without open predecessors.
A client is proved against the contract, so any lawful order of independent
nodes is covered; the concrete sort shows that the contract can be met.
-/

namespace TopologicalSort

variable {α : Type} [DecidableEq α]

/-- No edge of the order points backwards or from a node to itself. -/
structure Respects (edges : List (α × α)) (order : List α) : Prop where
  /-- A later node is no predecessor of an earlier one. -/
  forward : order.Pairwise fun earlier later => (later, earlier) ∉ edges
  /-- No node precedes itself. -/
  irreflexive : ∀ node ∈ order, (node, node) ∉ edges

/-- Some ranking rises along every edge. -/
def Acyclic (edges : List (α × α)) : Prop :=
  ∃ rank : α → Nat, ∀ edge ∈ edges, rank edge.1 < rank edge.2

/-- A topological sort: it orders exactly the nodes along the edges between them, and it
fails only on a cycle. -/
structure Sorter (α : Type) where
  /-- Sorted nodes, or nothing for a cyclic graph. -/
  sort : List α → List (α × α) → Option (List α)
  /-- A sorted list has exactly the nodes. -/
  perm : ∀ nodes edges order, sort nodes edges = some order → order.Perm nodes
  /-- A sorted list follows the edges. -/
  respects : ∀ nodes edges order, (∀ edge ∈ edges, edge.1 ∈ nodes ∧ edge.2 ∈ nodes) →
    sort nodes edges = some order → Respects edges order
  /-- Acyclic graphs are sorted. -/
  total : ∀ nodes edges, Acyclic edges → (sort nodes edges).isSome

/-- Nodes without a predecessor among the remaining ones. -/
def ready (edges : List (α × α)) (remaining : List α) : List α :=
  remaining.filter fun node => remaining.all fun other => !edges.contains (other, node)

/-- Nodes with a predecessor among the remaining ones. -/
def blocked (edges : List (α × α)) (remaining : List α) : List α :=
  remaining.filter fun node => !(remaining.all fun other => !edges.contains (other, node))

/-- Peels generations of ready nodes; each round removes a node, so the node count bounds
the rounds. -/
def generations (edges : List (α × α)) : Nat → List α → Option (List α)
  | 0, remaining => if remaining.isEmpty then some [] else none
  | rounds + 1, remaining =>
    if remaining.isEmpty then some []
    else if (ready edges remaining).isEmpty then none
    else (generations edges rounds (blocked edges remaining)).map (ready edges remaining ++ ·)

/-- A ready node has no remaining predecessor. -/
theorem ready_spec {edges : List (α × α)} {remaining : List α} {node : α} :
    node ∈ ready edges remaining ↔
      node ∈ remaining ∧ ∀ other ∈ remaining, (other, node) ∉ edges := by
  simp [ready]

/-- Ready and blocked nodes are the remaining ones. -/
theorem ready_append_blocked (edges : List (α × α)) (remaining : List α) :
    (ready edges remaining ++ blocked edges remaining).Perm remaining :=
  List.filter_append_perm _ remaining

/-- Sorted generations are a permutation of the remaining nodes. -/
theorem generations_perm (edges : List (α × α)) (rounds : Nat) (remaining order : List α)
    (sorted : generations edges rounds remaining = some order) : order.Perm remaining := by
  induction rounds generalizing remaining order with
  | zero =>
    unfold generations at sorted
    split at sorted
    · next empty =>
      rw [List.isEmpty_iff.mp empty, ← Option.some.inj sorted]
    · cases sorted
  | succ rounds ih =>
    unfold generations at sorted
    split at sorted
    · next empty =>
      rw [List.isEmpty_iff.mp empty, ← Option.some.inj sorted]
    · split at sorted
      · cases sorted
      · obtain ⟨rest, found, rfl⟩ := Option.map_eq_some_iff.mp sorted
        exact ((ih _ _ found).append_left _).trans (ready_append_blocked edges remaining)

/-- Sorted generations follow the edges. -/
theorem generations_respects (edges : List (α × α)) (rounds : Nat) (remaining order : List α)
    (sorted : generations edges rounds remaining = some order) : Respects edges order := by
  induction rounds generalizing remaining order with
  | zero =>
    unfold generations at sorted
    split at sorted
    · rw [← Option.some.inj sorted]
      exact ⟨List.Pairwise.nil, by simp⟩
    · cases sorted
  | succ rounds ih =>
    unfold generations at sorted
    split at sorted
    · rw [← Option.some.inj sorted]
      exact ⟨List.Pairwise.nil, by simp⟩
    · split at sorted
      · cases sorted
      · obtain ⟨rest, found, rfl⟩ := Option.map_eq_some_iff.mp sorted
        have later := ih _ _ found
        have inside : ∀ node ∈ rest, node ∈ remaining := fun node member =>
          (List.mem_filter.mp ((generations_perm _ _ _ _ found).mem_iff.mp member)).1
        constructor
        · refine List.pairwise_append.mpr ⟨?_, later.forward, ?_⟩
          · exact List.pairwise_of_forall_mem_list fun first firstReady second secondReady =>
              (ready_spec.mp firstReady).2 second (ready_spec.mp secondReady).1
          · exact fun first firstReady second member =>
              (ready_spec.mp firstReady).2 second (inside second member)
        · intro node member
          rcases List.mem_append.mp member with isReady | isLater
          · exact (ready_spec.mp isReady).2 node (ready_spec.mp isReady).1
          · exact later.irreflexive node isLater

/-- In an acyclic graph some remaining node is ready: one of least rank. -/
theorem ready_nonempty {edges : List (α × α)} (acyclic : Acyclic edges) {remaining : List α}
    (nonempty : remaining ≠ []) : ready edges remaining ≠ [] := by
  obtain ⟨rank, rises⟩ := acyclic
  obtain ⟨least, member, minimal⟩ := exists_minimalFor_of_wellFoundedLT (· ∈ remaining) rank
    (List.exists_mem_of_ne_nil remaining nonempty)
  refine @List.ne_nil_of_mem _ least _ ?_
  refine ready_spec.mpr ⟨member, fun other remains edge => ?_⟩
  have lower := rises _ edge
  have least_rank := minimal remains (Nat.le_of_lt lower)
  exact absurd lower (Nat.not_lt.mpr least_rank)

/-- Enough rounds sort every acyclic graph. -/
theorem generations_total {edges : List (α × α)} (acyclic : Acyclic edges) (rounds : Nat)
    (remaining : List α) (enough : remaining.length ≤ rounds) :
    (generations edges rounds remaining).isSome := by
  induction rounds generalizing remaining with
  | zero =>
    have empty : remaining = [] := List.length_eq_zero_iff.mp (by omega)
    simp [generations, empty]
  | succ rounds ih =>
    unfold generations
    by_cases empty : remaining = []
    · simp [empty]
    · have progress := ready_nonempty acyclic empty
      have shorter : (blocked edges remaining).length ≤ rounds := by
        have lengths := (ready_append_blocked edges remaining).length_eq
        rw [List.length_append] at lengths
        have positive := List.length_pos_iff.mpr progress
        omega
      simp only [List.isEmpty_iff, empty, if_false, progress, Option.isSome_map]
      exact ih _ shorter

/-- Sorting by generations meets the contract. -/
def byGenerations (α : Type) [DecidableEq α] : Sorter α where
  sort nodes edges := generations edges nodes.length nodes
  perm nodes edges order := generations_perm edges nodes.length nodes order
  respects nodes edges order _ := generations_respects edges nodes.length nodes order
  total nodes _ acyclic := generations_total acyclic nodes.length nodes (Nat.le_refl _)

/-- A sorted list ranks its nodes along the edges. -/
theorem Respects.acyclic {edges : List (α × α)} {order : List α} (respects : Respects edges order)
    (inside : ∀ edge ∈ edges, edge.1 ∈ order ∧ edge.2 ∈ order) : Acyclic edges := by
  refine ⟨order.idxOf, fun edge member => ?_⟩
  obtain ⟨source, target⟩ := inside edge member
  by_contra backwards
  rcases lt_or_eq_of_le (not_lt.mp backwards) with earlier | same
  · have sourceBound := List.idxOf_lt_length_of_mem source
    have targetBound := List.idxOf_lt_length_of_mem target
    have apart := List.pairwise_iff_getElem.mp respects.forward _ _ targetBound sourceBound earlier
    rw [List.getElem_idxOf, List.getElem_idxOf] at apart
    exact apart member
  · have equal : edge.2 = edge.1 := (List.idxOf_inj target).mp same
    refine respects.irreflexive edge.1 source ?_
    have loop : edge = (edge.1, edge.1) := Prod.ext rfl equal
    rw [← loop]
    exact member

/-- One graph listed in two ways is sorted both times or neither time. -/
theorem Sorter.isSome_iff (sorter : Sorter α) {nodes others : List α} {edges edges' : List (α × α)}
    (sameNodes : nodes.Perm others) (sameEdges : edges.Perm edges')
    (inside : ∀ edge ∈ edges, edge.1 ∈ nodes ∧ edge.2 ∈ nodes) :
    (sorter.sort nodes edges).isSome ↔ (sorter.sort others edges').isSome := by
  have transfers : ∀ {nodes others : List α} {edges edges' : List (α × α)},
      nodes.Perm others → edges.Perm edges' →
      (∀ edge ∈ edges, edge.1 ∈ nodes ∧ edge.2 ∈ nodes) →
      (sorter.sort nodes edges).isSome → (sorter.sort others edges').isSome := by
    intro nodes others edges edges' sameNodes sameEdges inside found
    obtain ⟨order, sorted⟩ := Option.isSome_iff_exists.mp found
    have listed := sorter.perm nodes edges order sorted
    have acyclic := (sorter.respects nodes edges order inside sorted).acyclic fun edge member =>
      ⟨listed.mem_iff.mpr (inside edge member).1, listed.mem_iff.mpr (inside edge member).2⟩
    obtain ⟨rank, rises⟩ := acyclic
    exact sorter.total others edges' ⟨rank, fun edge member =>
      rises edge (sameEdges.mem_iff.mpr member)⟩
  refine ⟨transfers sameNodes sameEdges inside, transfers sameNodes.symm sameEdges.symm ?_⟩
  intro edge member
  obtain ⟨source, target⟩ := inside edge (sameEdges.mem_iff.mpr member)
  exact ⟨sameNodes.mem_iff.mp source, sameNodes.mem_iff.mp target⟩

end TopologicalSort
