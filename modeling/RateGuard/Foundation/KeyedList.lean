import Mathlib.Data.List.Dedup
import Mathlib.Data.List.Sort
import Mathlib.Data.List.Forall2

/-!
# Lists read as dictionaries

A dictionary built from a list keeps the last element of each key. Two lists
with distinct keys whose elements correspond by key are the same up to order
and up to the correspondence.
-/

namespace KeyedList

variable {α β κ : Type}

/-- Elements of one key are one element when keys are distinct. -/
theorem eq_of_key {key : α → κ} {nodes : List α} (distinct : (nodes.map key).Nodup)
    {first second : α} (one : first ∈ nodes) (two : second ∈ nodes)
    (same : key first = key second) : first = second :=
  List.inj_on_of_nodup_map distinct one two same

section Dictionary

variable [DecidableEq κ]

/-- Entry of the dictionary built from a list: the last element with the key. -/
def lastWith (key : α → κ) (nodes : List α) (id : κ) : Option α :=
  nodes.reverse.find? fun node => key node == id

/-- Keys of two dictionaries in ascending order, each once. -/
def sortedUnion [LE κ] [DecidableLE κ] (left right : List κ) : List κ :=
  (left ++ right).dedup.insertionSort fun x y => x ≤ y

/-- The sorted keys are the keys of either dictionary. -/
@[simp] theorem mem_sortedUnion [LE κ] [DecidableLE κ] {left right : List κ} {id : κ} :
    id ∈ sortedUnion left right ↔ id ∈ left ∨ id ∈ right := by
  simp [sortedUnion, List.mem_insertionSort]

/-- A found element is in the list under its key. -/
theorem lastWith_eq_some {key : α → κ} {nodes : List α} {id : κ} {node : α}
    (found : lastWith key nodes id = some node) : node ∈ nodes ∧ key node = id := by
  have member := List.mem_of_find?_eq_some found
  have satisfied := List.find?_some found
  exact ⟨List.mem_reverse.mp member, by simpa using satisfied⟩

/-- No element is found exactly for the keys the list does not have. -/
theorem lastWith_eq_none {key : α → κ} {nodes : List α} {id : κ} :
    lastWith key nodes id = none ↔ id ∉ nodes.map key := by
  simp [lastWith, List.find?_eq_none]

/-- Every key of the list finds an element. -/
theorem lastWith_of_key (key : α → κ) {nodes : List α} {node : α} (member : node ∈ nodes) :
    ∃ last, lastWith key nodes (key node) = some last := by
  cases found : lastWith key nodes (key node) with
  | some last => exact ⟨last, rfl⟩
  | none => exact absurd (List.mem_map_of_mem member) (lastWith_eq_none.mp found)

/-- With distinct keys every element is found under its key. -/
theorem lastWith_of_mem {key : α → κ} {nodes : List α} (distinct : (nodes.map key).Nodup)
    {node : α} (member : node ∈ nodes) : lastWith key nodes (key node) = some node := by
  obtain ⟨last, found⟩ := lastWith_of_key key member
  obtain ⟨inside, same⟩ := lastWith_eq_some found
  rw [found, eq_of_key distinct inside member same]

/-- Elements in the order of their keys. -/
def inKeyOrder (key : α → κ) (nodes : List α) (order : List κ) : List α :=
  order.filterMap fun id => nodes.find? (key · == id)

/-- With distinct keys every element is the first with its key. -/
theorem find_key {key : α → κ} {nodes : List α} (distinct : (nodes.map key).Nodup)
    {node : α} (member : node ∈ nodes) : nodes.find? (key · == key node) = some node := by
  cases found : nodes.find? (key · == key node) with
  | none =>
    have absent := List.find?_eq_none.mp found node member
    exact absurd (beq_self_eq_true _) absent
  | some other =>
    have same : key other = key node := by simpa using List.find?_some found
    rw [eq_of_key distinct (List.mem_of_find?_eq_some found) member same]

/-- Ordered elements have the order's keys. -/
theorem inKeyOrder_keys (key : α → κ) (nodes : List α) (order : List κ)
    (named : ∀ id ∈ order, id ∈ nodes.map key) : (inKeyOrder key nodes order).map key = order := by
  induction order with
  | nil => rfl
  | cons id rest ih =>
    obtain ⟨node, member, same⟩ := List.mem_map.mp (named id List.mem_cons_self)
    have some_found : (nodes.find? (key · == id)).isSome :=
      List.find?_isSome.mpr ⟨node, member, beq_iff_eq.mpr same⟩
    obtain ⟨found, search⟩ := Option.isSome_iff_exists.mp some_found
    have found_key : key found = id := by simpa using List.find?_some search
    unfold inKeyOrder
    rw [List.filterMap_cons, search, List.map_cons, found_key]
    exact congrArg (id :: ·) (ih fun other later => named other (List.mem_cons_of_mem _ later))

/-- Ordered elements are among the elements. -/
theorem inKeyOrder_subset (key : α → κ) (nodes : List α) (order : List κ) :
    inKeyOrder key nodes order ⊆ nodes := by
  intro node member
  obtain ⟨id, _, search⟩ := List.mem_filterMap.mp member
  exact List.mem_of_find?_eq_some search

/-- Elements in an order of their keys are the same elements. -/
theorem inKeyOrder_perm {key : α → κ} {nodes : List α} {order : List κ}
    (distinct : (nodes.map key).Nodup) (perm : order.Perm (nodes.map key)) :
    (inKeyOrder key nodes order).Perm nodes := by
  have keys := inKeyOrder_keys key nodes order fun id member => perm.mem_iff.mp member
  have distinct_order : ((inKeyOrder key nodes order).map key).Nodup := by
    rw [keys]
    exact perm.nodup_iff.mpr distinct
  refine (List.perm_ext_iff_of_nodup distinct_order.of_map distinct.of_map).mpr fun node =>
    ⟨fun member => inKeyOrder_subset key nodes order member, fun member => ?_⟩
  have named : key node ∈ (inKeyOrder key nodes order).map key := by
    rw [keys]
    exact perm.mem_iff.mpr (List.mem_map_of_mem member)
  obtain ⟨other, belongs, same⟩ := List.mem_map.mp named
  rw [← eq_of_key distinct (inKeyOrder_subset key nodes order belongs) member same]
  exact belongs

end Dictionary

/-- Lists with distinct keys that correspond by key correspond up to order. -/
theorem align (key : α → κ) (keyRight : β → κ) {related : α → β → Prop} {lefts : List α}
    {rights : List β} (distinct : (lefts.map key).Nodup)
    (distinctRight : (rights.map keyRight).Nodup)
    (matched : ∀ x ∈ lefts, ∃ y ∈ rights, keyRight y = key x ∧ related x y)
    (covered : ∀ y ∈ rights, keyRight y ∈ lefts.map key) :
    ∃ middle, List.Forall₂ related lefts middle ∧ middle.Perm rights := by
  choose partner inside keyed holds using matched
  refine ⟨lefts.attach.map fun x => partner x.1 x.2, ?_, ?_⟩
  · rw [List.forall₂_map_right_iff]
    have paired : List.Forall₂ (fun x (y : {x // x ∈ lefts}) => x = y.1) lefts lefts.attach := by
      have own : List.Forall₂ (· = ·) lefts (lefts.attach.map Subtype.val) := by
        rw [List.attach_map_subtype_val]
        exact List.forall₂_same.mpr fun _ _ => rfl
      exact List.forall₂_map_right_iff.mp own
    refine paired.imp fun x y same => ?_
    subst same
    exact holds y.1 y.2
  · have keys : (lefts.attach.map fun x => partner x.1 x.2).map keyRight = lefts.map key := by
      rw [List.map_map]
      have pointwise : (keyRight ∘ fun x : {x // x ∈ lefts} => partner x.1 x.2) =
          key ∘ Subtype.val := funext fun x => keyed x.1 x.2
      rw [pointwise, ← List.map_map, List.attach_map_subtype_val]
    refine (List.perm_ext_iff_of_nodup (List.Nodup.of_map keyRight ?_)
      (List.Nodup.of_map keyRight distinctRight)).mpr fun y => ?_
    · rw [keys]
      exact distinct
    · constructor
      · intro member
        obtain ⟨x, -, rfl⟩ := List.mem_map.mp member
        exact inside x.1 x.2
      · intro member
        obtain ⟨x, one, same⟩ := List.mem_map.mp (covered y member)
        refine List.mem_map.mpr ⟨⟨x, one⟩, List.mem_attach _ _, ?_⟩
        exact eq_of_key distinctRight (inside x one) member ((keyed x one).trans same)

/-- Filtering after an insertion into an ordered list. -/
theorem filter_orderedInsert (r : α → α → Prop) [DecidableRel r] [IsTrans α r] (keep : α → Bool)
    (node : α) {nodes : List α} (ordered : nodes.Pairwise r) :
    (nodes.orderedInsert r node).filter keep =
      if keep node then (nodes.filter keep).orderedInsert r node else nodes.filter keep := by
  induction nodes with
  | nil => cases kept : keep node <;> simp [kept]
  | cons first rest ih =>
    obtain ⟨least, others⟩ := List.pairwise_cons.mp ordered
    by_cases before : r node first
    · rw [List.orderedInsert_cons_of_le r rest before]
      by_cases kept : keep node = true
      · rw [List.filter_cons_of_pos kept, if_pos kept]
        cases found : (first :: rest).filter keep with
        | nil => rfl
        | cons second tail =>
          have inside : second ∈ first :: rest :=
            (List.mem_filter.mp (found ▸ List.mem_cons_self)).1
          have above : r node second := by
            rcases List.mem_cons.mp inside with rfl | later
            · exact before
            · exact IsTrans.trans _ _ _ before (least second later)
          rw [List.orderedInsert_cons_of_le r tail above]
      · rw [List.filter_cons_of_neg kept, if_neg kept]
    · rw [List.orderedInsert_cons, if_neg before]
      by_cases kept : keep first = true
      · rw [List.filter_cons_of_pos kept, List.filter_cons_of_pos kept, ih others,
          List.orderedInsert_cons, if_neg before]
        split <;> rfl
      · rw [List.filter_cons_of_neg kept, List.filter_cons_of_neg kept, ih others]

/-- A key finds in a part of a list what it finds in the list, where that is kept. -/
theorem find_filter [DecidableEq κ] {key : α → κ} {nodes : List α}
    (distinct : (nodes.map key).Nodup) (keep : α → Bool) (id : κ) :
    (nodes.filter keep).find? (key · = id) = (nodes.find? (key · = id)).filter keep := by
  induction nodes with
  | nil => rfl
  | cons node rest ih =>
    obtain ⟨fresh, others⟩ := List.nodup_cons.mp distinct
    by_cases here : key node = id
    · have found : (node :: rest).find? (key · = id) = some node :=
        List.find?_cons_of_pos (by simpa using here)
      rw [found]
      by_cases kept : keep node = true
      · rw [List.filter_cons_of_pos kept, List.find?_cons_of_pos (by simpa using here)]
        simp [Option.filter, kept]
      · have absent : (rest.filter keep).find? (key · = id) = none := by
          refine List.find?_eq_none.mpr fun other member same => fresh ?_
          have equal : key other = id := by simpa using same
          rw [here, ← equal]
          exact List.mem_map_of_mem (List.mem_of_mem_filter member)
        rw [List.filter_cons_of_neg kept, absent]
        simp [Option.filter, kept]
    · have away : ∀ later, (node :: later).find? (key · = id) = later.find? (key · = id) :=
        fun later => List.find?_cons_of_neg (by simpa using here)
      rw [away, ← ih others]
      by_cases kept : keep node = true
      · rw [List.filter_cons_of_pos kept, away]
      · rw [List.filter_cons_of_neg kept]

/-- Sorting and filtering in either order. -/
theorem filter_insertionSort (r : α → α → Prop) [DecidableRel r] [IsTrans α r] [Std.Total r]
    (keep : α → Bool) (nodes : List α) :
    (nodes.insertionSort r).filter keep = (nodes.filter keep).insertionSort r := by
  induction nodes with
  | nil => rfl
  | cons node rest ih =>
    rw [List.insertionSort_cons, filter_orderedInsert r keep node (List.pairwise_insertionSort r rest),
      ih]
    by_cases kept : keep node = true
    · rw [if_pos kept, List.filter_cons_of_pos kept, List.insertionSort_cons]
    · rw [if_neg kept, List.filter_cons_of_neg kept]

end KeyedList
