import Mathlib

/-!
# Dictionaries as lists of entries

A dictionary keeps its keys in the order of their first assignment. Changing the entry of a key
leaves the others, so that a dictionary filled along a list holds under each key what the elements
of that key made of it.
-/

namespace Dictionary

variable {κ α β : Type} [DecidableEq κ]

/-- Changes the value of a key, or adds the key behind the others. -/
def change (entries : List (κ × α)) (key : κ) (next : Option α → α) : List (κ × α) :=
  match entries with
  | [] => [(key, next none)]
  | entry :: rest =>
    if entry.1 = key then (key, next (some entry.2)) :: rest else entry :: change rest key next

/-- Counts a key once more. -/
def count (entries : List (κ × Nat)) (key : κ) : List (κ × Nat) :=
  change entries key fun before => before.getD 0 + 1

/-- Only the changed key has another value. -/
theorem lookup_change (entries : List (κ × α)) (key other : κ) (next : Option α → α) :
    (change entries key next).lookup other =
      if other = key then some (next (entries.lookup key)) else entries.lookup other := by
  induction entries with
  | nil =>
    by_cases same : other = key
    · simp [change, List.lookup, same]
    · simp only [change, List.lookup, beq_false_of_ne same, if_neg same]
  | cons entry rest ih =>
    unfold change
    by_cases own : entry.1 = key
    · rw [if_pos own]
      by_cases same : other = key
      · simp [List.lookup, same, own]
      · simp only [List.lookup, own, beq_false_of_ne same, if_neg same]
    · rw [if_neg own]
      by_cases here : other = entry.1
      · have differs : ¬other = key := here ▸ own
        simp [List.lookup, here, own]
      · have away : (key == entry.1) = false := beq_false_of_ne (Ne.symm own)
        simp only [List.lookup, beq_false_of_ne here, ih, away]

/-- Only the counted key has a larger number. -/
theorem getD_count (entries : List (κ × Nat)) (key other : κ) :
    ((count entries key).lookup other).getD 0 =
      (entries.lookup other).getD 0 + if other = key then 1 else 0 := by
  unfold count
  rw [lookup_change]
  by_cases same : other = key
  · rw [if_pos same, if_pos same, Option.getD_some, same]
  · rw [if_neg same, if_neg same, Nat.add_zero]

/-- The keys after a change. -/
theorem mem_keys_change {entries : List (κ × α)} {key other : κ} {next : Option α → α} :
    other ∈ (change entries key next).map Prod.fst ↔
      other = key ∨ other ∈ entries.map Prod.fst := by
  induction entries with
  | nil => simp [change]
  | cons entry rest ih =>
    unfold change
    by_cases own : entry.1 = key
    · rw [if_pos own]
      simp [own]
    · rw [if_neg own, List.map_cons, List.mem_cons, ih, List.map_cons, List.mem_cons]
      exact or_left_comm

/-- Keys stay distinct. -/
theorem distinct_change {entries : List (κ × α)} {key : κ} {next : Option α → α}
    (distinct : (entries.map Prod.fst).Nodup) : ((change entries key next).map Prod.fst).Nodup := by
  induction entries with
  | nil => exact List.nodup_singleton key
  | cons entry rest ih =>
    obtain ⟨fresh, later⟩ := List.nodup_cons.mp distinct
    unfold change
    by_cases own : entry.1 = key
    · rw [if_pos own, List.map_cons]
      exact List.nodup_cons.mpr ⟨own ▸ fresh, later⟩
    · rw [if_neg own, List.map_cons]
      refine List.nodup_cons.mpr ⟨fun member => ?_, ih later⟩
      rcases mem_keys_change.mp member with same | inside
      · exact own same
      · exact fresh inside

/-- An entry after a change is the changed one or an old one. -/
theorem mem_change {entries : List (κ × α)} {key : κ} {next : Option α → α} {entry : κ × α}
    (member : entry ∈ change entries key next) :
    entry = (key, next (entries.lookup key)) ∨ entry ∈ entries := by
  induction entries with
  | nil => exact .inl (List.mem_singleton.mp member)
  | cons first rest ih =>
    unfold change at member
    by_cases own : first.1 = key
    · rw [if_pos own] at member
      rcases List.mem_cons.mp member with same | later
      · left
        simp [same, List.lookup, own]
      · exact .inr (List.mem_cons_of_mem first later)
    · rw [if_neg own] at member
      rcases List.mem_cons.mp member with same | later
      · exact .inr (same ▸ List.mem_cons_self)
      · have away : (key == first.1) = false := beq_false_of_ne (Ne.symm own)
        rcases ih later with changed | inside
        · left
          simp only [List.lookup, away, changed]
        · exact .inr (List.mem_cons_of_mem first inside)

/-- A change of a key after another change of it. -/
theorem change_change (entries : List (κ × α)) (key : κ) (first second : α) :
    change (change entries key fun _ => first) key (fun _ => second) =
      change entries key fun _ => second := by
  induction entries with
  | nil => simp [change]
  | cons entry rest ih =>
    by_cases own : entry.1 = key
    · simp [change, own]
    · simp [change, own, ih]

/-- What is found under a key is an entry. -/
theorem mem_of_lookup {entries : List (κ × α)} {key : κ} {value : α}
    (found : entries.lookup key = some value) : (key, value) ∈ entries := by
  obtain ⟨front, back, rfl, -⟩ := List.lookup_eq_some_iff.mp found
  exact List.mem_append_right front List.mem_cons_self

/-- Counting a key adds one to the sum. -/
theorem sum_count (entries : List (κ × Nat)) (key : κ) :
    ((count entries key).map Prod.snd).sum = (entries.map Prod.snd).sum + 1 := by
  unfold count
  induction entries with
  | nil => rfl
  | cons entry rest ih =>
    unfold change
    by_cases own : entry.1 = key
    · rw [if_pos own, List.map_cons, List.sum_cons, List.map_cons, List.sum_cons,
        Option.getD_some]
      omega
    · rw [if_neg own, List.map_cons, List.sum_cons, List.map_cons, List.sum_cons, ih]
      omega

/-- An entry of distinct keys is the one found under its key. -/
theorem lookup_of_mem {entries : List (κ × α)} (distinct : (entries.map Prod.fst).Nodup)
    {entry : κ × α} (member : entry ∈ entries) : entries.lookup entry.1 = some entry.2 := by
  induction entries with
  | nil => cases member
  | cons first rest ih =>
    obtain ⟨fresh, later⟩ := List.nodup_cons.mp distinct
    rcases List.mem_cons.mp member with rfl | inside
    · simp [List.lookup]
    · have differs : ¬entry.1 = first.1 := by
        intro same
        rw [← same] at fresh
        exact fresh (List.mem_map_of_mem inside)
      simp only [List.lookup, beq_false_of_ne differs]
      exact ih later inside

/-- Values by key, in the order of their first pairs. -/
def group (pairs : List (κ × α)) : List (κ × List α) :=
  pairs.foldl (fun groups pair => change groups pair.1 fun before => before.getD [] ++ [pair.2]) []

/-- Values of a key. -/
def valuesOf (pairs : List (κ × α)) (key : κ) : List α :=
  (pairs.filter fun pair => pair.1 = key).map Prod.snd

/-- A key holds its values, if it has any. -/
theorem lookup_group (pairs : List (κ × α)) (key : κ) :
    (group pairs).lookup key =
      if valuesOf pairs key = [] then none else some (valuesOf pairs key) := by
  induction pairs using List.reverseRecOn with
  | nil => rfl
  | append_singleton pairs pair ih =>
    have added : group (pairs ++ [pair]) =
        change (group pairs) pair.1 fun before => before.getD [] ++ [pair.2] := by
      unfold group
      rw [List.foldl_append, List.foldl_cons, List.foldl_nil]
    rw [added, lookup_change]
    unfold valuesOf at ih ⊢
    by_cases own : key = pair.1
    · subst own
      rw [if_pos rfl, ih, List.filter_append, List.filter_cons_of_pos (by simp), List.filter_nil,
        List.map_append, List.map_cons, List.map_nil, if_neg (List.append_ne_nil_of_right_ne_nil _
          (List.cons_ne_nil _ _))]
      split
      · next none => rw [none]; rfl
      · rfl
    · rw [if_neg own, ih, List.filter_append,
        List.filter_cons_of_neg (by simpa using Ne.symm own), List.filter_nil, List.append_nil]

/-- Groups have distinct keys. -/
theorem distinct_group (pairs : List (κ × α)) : ((group pairs).map Prod.fst).Nodup := by
  induction pairs using List.reverseRecOn with
  | nil => exact List.nodup_nil
  | append_singleton pairs pair ih =>
    unfold group at ih ⊢
    rw [List.foldl_append, List.foldl_cons, List.foldl_nil]
    exact distinct_change ih

/-- A group holds the values of its key. -/
theorem group_values {pairs : List (κ × α)} {entry : κ × List α} (member : entry ∈ group pairs) :
    entry.2 = valuesOf pairs entry.1 := by
  have found := lookup_of_mem (distinct_group pairs) member
  rw [lookup_group] at found
  split at found
  · cases found
  · exact (Option.some.inj found).symm

/-- Every key has a group. -/
theorem exists_group {pairs : List (κ × α)} {key : κ} (member : key ∈ pairs.map Prod.fst) :
    ∃ entry ∈ group pairs, entry.1 = key := by
  obtain ⟨pair, inside, rfl⟩ := List.mem_map.mp member
  have nonempty : valuesOf pairs pair.1 ≠ [] := List.ne_nil_of_mem
    (List.mem_map_of_mem (List.mem_filter.mpr ⟨inside, decide_eq_true rfl⟩))
  have found := lookup_group pairs pair.1
  rw [if_neg nonempty] at found
  obtain ⟨before, after, split, -⟩ := List.lookup_eq_some_iff.mp found
  exact ⟨_, by rw [split]; exact List.mem_append_right _ List.mem_cons_self, rfl⟩

end Dictionary
