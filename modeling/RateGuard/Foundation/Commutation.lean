import Mathlib.Data.List.Perm.Basic
import Mathlib.Data.List.Nodup
import RateGuard.Foundation.Outcome

/-!
# Reordering independent steps

A fallible step over a state whose entries are read through a view has a footprint: the entries
it may read and the entries it may write. Steps with disjoint footprints commute, and two orders
that respect one precedence of steps agree when unrelated steps commute.
-/

namespace Outcome

variable {ε σ ι β α : Type}

/-- A transformed computation succeeds with a transformed result. -/
theorem map_eq_ok {onResult : α → β} {run : Except ε α} {result : β}
    (succeeds : onResult <$> run = .ok result) :
    ∃ value, run = .ok value ∧ result = onResult value := by
  cases run with
  | error failed => cases succeeds
  | ok value => exact ⟨value, rfl, (Except.ok.inj succeeds).symm⟩

/-- Entries a step reads and writes. -/
structure Footprint (view : σ → ι → β) (reads writes : List ι) (step : σ → Except ε σ) :
    Prop where
  /-- Entries that are not written are kept. -/
  frame : ∀ {state after}, step state = .ok after →
    ∀ entry, entry ∉ writes → view after entry = view state entry
  /-- Where the read entries agree, the step fails alike and leaves agreeing entries agreeing. -/
  reading : ∀ {state other}, (∀ entry ∈ reads, view state entry = view other entry) →
    Agree (fun after next => ∀ entry, view state entry = view other entry →
      view after entry = view next entry) (step state) (step other)

/-- A step takes states of one view to states of one view. -/
theorem Footprint.respects {view : σ → ι → β} {reads writes : List ι} {step : σ → Except ε σ}
    (footprint : Footprint view reads writes step) {state other : σ}
    (same : view state = view other) :
    Agree (fun after next => view after = view next) (step state) (step other) :=
  (footprint.reading fun entry _ => congrFun same entry).mono fun _ _ entries =>
    funext fun entry => entries entry (congrFun same entry)

/-- Steps commute when neither writes what the other reads or writes. -/
theorem Footprint.commute {view : σ → ι → β} {reads writes reads' writes' : List ι}
    {first second : σ → Except ε σ} (one : Footprint view reads writes first)
    (two : Footprint view reads' writes' second)
    (unread : ∀ entry ∈ writes, entry ∉ reads') (unread' : ∀ entry ∈ writes', entry ∉ reads)
    (apart : ∀ entry ∈ writes, entry ∉ writes') (state : σ) :
    Agree (fun left right => view left = view right)
      (first state >>= second) (second state >>= first) := by
  cases ranFirst : first state with
  | error failed =>
    cases ranSecond : second state with
    | error other => exact .failure failed other
    | ok after =>
      have untouched : ∀ entry ∈ reads, view state entry = view after entry := fun entry mem =>
        (two.frame ranSecond entry fun written => unread' entry written mem).symm
      have fails := one.reading untouched
      rw [ranFirst] at fails
      change Agree _ (.error failed) (first after)
      cases rerun : first after with
      | error other => exact .failure failed other
      | ok next =>
        rw [rerun] at fails
        cases fails
  | ok left =>
    have untouched : ∀ entry ∈ reads', view left entry = view state entry := fun entry mem =>
      one.frame ranFirst entry fun written => unread entry written mem
    have later := two.reading untouched
    change Agree _ (second left) _
    cases ranSecond : second state with
    | error failed =>
      rw [ranSecond] at later
      cases rerun : second left with
      | error other => exact .failure other failed
      | ok next =>
        rw [rerun] at later
        cases later
    | ok right =>
      rw [ranSecond] at later
      have unmoved : ∀ entry ∈ reads, view right entry = view state entry := fun entry mem =>
        two.frame ranSecond entry fun written => unread' entry written mem
      have earlier := one.reading unmoved
      rw [ranFirst] at earlier
      change Agree _ (second left) (first right)
      cases rerunSecond : second left with
      | error failed =>
        rw [rerunSecond] at later
        cases later
      | ok both =>
        cases rerunFirst : first right with
        | error failed =>
          rw [rerunFirst] at earlier
          cases earlier
        | ok swapped =>
          rw [rerunSecond] at later
          rw [rerunFirst] at earlier
          cases later with
          | success later =>
            cases earlier with
            | success earlier =>
              refine .success (funext fun entry => ?_)
              by_cases written : entry ∈ writes
              · have skipped := apart entry written
                rw [earlier entry (two.frame ranSecond entry skipped),
                  two.frame rerunSecond entry skipped]
              · rw [later entry (one.frame ranFirst entry written),
                  one.frame rerunFirst entry written]

/-- A fold of steps that respect a relation respects it. -/
theorem Agree.foldlM_same {invariant : σ → σ → Prop} {step : σ → α → Except ε σ}
    {values : List α}
    (respects : ∀ c d x, x ∈ values → invariant c d → Agree invariant (step c x) (step d x))
    {start other : σ} (starts : invariant start other) :
    Agree invariant (values.foldlM step start) (values.foldlM step other) := by
  have paired : List.Forall₂ (fun x y => x = y ∧ x ∈ values) values values :=
    List.forall₂_same.mpr fun x member => ⟨rfl, member⟩
  refine Agree.foldlM paired (fun c d x y same held => ?_) starts
  obtain ⟨rfl, member⟩ := same
  exact respects c d x member held

/-- Folds along two orders of one list agree when both put every element after what precedes
it and elements without precedence commute. -/
theorem Agree.foldlM_linear (invariant : σ → σ → Prop) (precedes : α → α → Prop)
    {step : σ → α → Except ε σ} (reflexive : ∀ c, invariant c c)
    (transitive : ∀ c d e, invariant c d → invariant d e → invariant c e)
    {lefts rights : List α}
    (respects : ∀ c d x, x ∈ lefts → invariant c d → Agree invariant (step c x) (step d x))
    (swaps : ∀ c x y, x ∈ lefts → y ∈ lefts → x ≠ y → ¬precedes x y → ¬precedes y x →
      Agree invariant (step c x >>= fun d => step d y) (step c y >>= fun d => step d x))
    (distinct : lefts.Nodup) (perm : lefts.Perm rights)
    (left : lefts.Pairwise fun earlier later => ¬precedes later earlier)
    (right : rights.Pairwise fun earlier later => ¬precedes later earlier)
    {start other : σ} (starts : invariant start other) :
    Agree invariant (lefts.foldlM step start) (rights.foldlM step other) := by
  induction lefts generalizing rights start other with
  | nil =>
    rw [perm.symm.eq_nil]
    exact .success starts
  | cons head rest ih =>
    obtain ⟨before, after, rfl⟩ := List.append_of_mem (perm.mem_iff.mp List.mem_cons_self)
    have remaining : rest.Perm (before ++ after) :=
      (perm.trans List.perm_middle).cons_inv
    have inside : ∀ x ∈ before, x ∈ rest := fun x member =>
      remaining.mem_iff.mpr (List.mem_append_left after member)
    obtain ⟨earliest, later⟩ := List.pairwise_cons.mp left
    obtain ⟨absent, distinctRest⟩ := List.nodup_cons.mp distinct
    -- The head moves past everything the other order runs before it.
    have bubble : ∀ (list : List α) (c d : σ), (∀ x ∈ list, x ∈ before) → invariant c d →
        Agree invariant (step c head >>= fun e => list.foldlM step e)
          (list.foldlM step d >>= fun e => step e head) := by
      intro list
      induction list with
      | nil =>
        intro c d _ related
        have same := respects c d head List.mem_cons_self related
        simp only [List.foldlM_nil, bind_pure, pure_bind]
        exact same
      | cons x tail tailIh =>
        intro c d members related
        have early := members x List.mem_cons_self
        have unlike : head ≠ x := fun same => absent (same ▸ inside x early)
        have forward : ¬precedes head x :=
          (List.pairwise_append.mp right).2.2 x early head List.mem_cons_self
        have swapped := swaps c head x List.mem_cons_self
          (List.mem_cons_of_mem head (inside x early)) unlike forward
          (earliest x (inside x early))
        have regrouped : Agree invariant
            ((step c head >>= fun e => step e x) >>= fun e => tail.foldlM step e)
            ((step c x >>= fun e => step e head) >>= fun e => tail.foldlM step e) := by
          refine swapped.bind fun e f held => Agree.foldlM_same (fun g h y member kept => ?_) held
          exact respects g h y (List.mem_cons_of_mem head (inside y (members y
            (List.mem_cons_of_mem x member)))) kept
        have continued : Agree invariant
            (step c x >>= fun e => step e head >>= fun f => tail.foldlM step f)
            (step d x >>= fun e => tail.foldlM step e >>= fun f => step f head) :=
          (respects c d x (List.mem_cons_of_mem head (inside x early)) related).bind
            fun e f held => tailIh e f
              (fun y member => members y (List.mem_cons_of_mem x member)) held
        simp only [List.foldlM_cons, bind_assoc] at regrouped continued ⊢
        exact Agree.trans_of transitive regrouped continued
    have rightRest : (before ++ after).Pairwise fun earlier later => ¬precedes later earlier :=
      right.sublist (List.Sublist.append_left (List.sublist_cons_self head after) before)
    have moved := bubble before start other (fun _ member => member) starts
    have regroup : (before ++ head :: after).foldlM step other =
        (before.foldlM step other >>= fun e => step e head) >>= fun e => after.foldlM step e := by
      rw [List.foldlM_append, bind_assoc]
      rfl
    have split : (head :: (before ++ after)).foldlM step start =
        (step start head >>= fun e => before.foldlM step e) >>= fun e => after.foldlM step e := by
      rw [List.foldlM_cons, bind_assoc]
      refine congrArg (step start head >>= ·) (funext fun e => ?_)
      rw [List.foldlM_append]
    have tails : Agree invariant ((head :: rest).foldlM step start)
        ((head :: (before ++ after)).foldlM step start) := by
      rw [List.foldlM_cons, List.foldlM_cons]
      exact Agree.bind_same _ fun e => ih
        (fun c d x member => respects c d x (List.mem_cons_of_mem head member))
        (fun c x y one two => swaps c x y (List.mem_cons_of_mem head one)
          (List.mem_cons_of_mem head two)) distinctRest remaining later rightRest (reflexive e)
    refine Agree.trans_of transitive tails ?_
    rw [split, regroup]
    refine moved.bind fun e f held => Agree.foldlM_same (fun g h y member kept => ?_) held
    exact respects g h y (List.mem_cons_of_mem head (remaining.mem_iff.mpr
      (List.mem_append_right before member))) kept

end Outcome
