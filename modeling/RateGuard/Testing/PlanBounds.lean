import Mathlib.Data.List.Perm.Subperm
import RateGuard.Testing.Planner
import RateGuard.Testing.ProbeBounds

/-!
# Bounds of a test plan

What every plan that is returned keeps: its scenarios have distinct keys, the control cases go
before everything else, and whatever competes for room, no more are selected than asked for.
-/

open DecimalFloat CalendarDate TopologicalSort Outcome

namespace RateGuard

/-- New candidates are candidates, in order, with distinct keys that were not known. -/
theorem uniqueMutations_spec {candidates unique : List TestScenario} {seen : List ProbeKey}
    (found : uniqueMutations candidates seen = .ok unique) :
    unique.Sublist candidates ∧
      ∃ keys, KeyedBy unique keys ∧ keys.Nodup ∧ ∀ key ∈ keys, key ∉ seen := by
  induction candidates generalizing seen unique with
  | nil =>
    rw [← Except.ok.inj found]
    exact ⟨.slnil, [], .nil, List.nodup_nil, fun key member => by cases member⟩
  | cons candidate rest ih =>
    obtain ⟨key, keyed, found⟩ := bind_eq_ok found
    by_cases known : key ∈ seen
    · rw [if_pos (List.contains_iff_mem.mpr known)] at found
      obtain ⟨sublist, facts⟩ := ih found
      exact ⟨sublist.cons candidate, facts⟩
    · rw [if_neg fun listed => known (List.contains_iff_mem.mp listed)] at found
      obtain ⟨later, foundLater, found⟩ := bind_eq_ok found
      obtain ⟨sublist, keys, laterKeyed, distinct, fresh⟩ := ih foundLater
      rw [← Except.ok.inj found]
      refine ⟨sublist.cons_cons candidate, key :: keys, .cons keyed laterKeyed, ?_, ?_⟩
      · refine List.nodup_cons.mpr ⟨fun listed => ?_, distinct⟩
        exact fresh key listed List.mem_cons_self
      · intro other member
        rcases List.mem_cons.mp member with rfl | listed
        · exact known
        · exact fun seenBefore => fresh other listed (List.mem_cons_of_mem _ seenBefore)

/-- The greedy choice goes on with candidates in order, up to its limit. -/
theorem selectGreedily_spec {limit : Nat} {candidates : List Planned} {coverage result : Coverage}
    (selected : selectGreedily limit candidates coverage = .ok result) :
    ∃ extra, result.selected = coverage.selected ++ extra ∧ extra.Sublist candidates ∧
      (coverage.selected.length < limit → result.selected.length ≤ limit) := by
  induction candidates generalizing coverage with
  | nil =>
    rw [← Except.ok.inj selected]
    exact ⟨[], (List.append_nil _).symm, .slnil, Nat.le_of_lt⟩
  | cons planned rest ih =>
    obtain ⟨key, _, selected⟩ := bind_eq_ok selected
    dsimp only at selected
    by_cases known : coverage.combos.contains (key, planned.1.name) = true
    · rw [if_pos known] at selected
      obtain ⟨extra, appended, sublist, bound⟩ := ih selected
      exact ⟨extra, appended, sublist.cons planned, bound⟩
    · rw [if_neg known] at selected
      by_cases gains : coverage.gains planned.1 = true
      · rw [if_pos gains] at selected
        have longer : (coverage.select planned (key, planned.1.name)).selected.length =
            coverage.selected.length + 1 := by
          simp [Coverage.select]
        by_cases full : limit ≤ (coverage.select planned (key, planned.1.name)).selected.length
        · rw [if_pos full] at selected
          rw [← Except.ok.inj selected]
          exact ⟨[planned], rfl, List.singleton_sublist.mpr List.mem_cons_self,
            fun room => by rw [longer]; exact room⟩
        · rw [if_neg full] at selected
          obtain ⟨extra, appended, sublist, bound⟩ := ih selected
          refine ⟨planned :: extra, ?_, sublist.cons_cons planned, fun _ => bound ?_⟩
          · rw [appended]
            simp [Coverage.select]
          · exact Nat.lt_of_not_le full
      · rw [if_neg gains] at selected
        by_cases full : limit ≤ coverage.selected.length
        · rw [if_pos full] at selected
          rw [← Except.ok.inj selected]
          exact ⟨[], (List.append_nil _).symm, List.nil_sublist _, Nat.le_of_lt⟩
        · rw [if_neg full] at selected
          obtain ⟨extra, appended, sublist, bound⟩ := ih selected
          exact ⟨extra, appended, sublist.cons planned, bound⟩

/-- What is chosen among candidates aimed at differences: some of them, as they are left, within
the quota. -/
theorem chooseMutations_spec {mutations chosen : List Planned} {quota : Nat}
    (chose : chooseMutations mutations quota = .ok chosen) :
    chosen.Subperm (scoreMutations mutations quota) ∧ chosen.length ≤ quota := by
  unfold chooseMutations at chose
  unfold scoreMutations
  by_cases room : quota ≠ 0
  · rw [if_pos room] at chose
    rw [if_pos room]
    obtain ⟨coverage, selected, chose⟩ := bind_eq_ok chose
    obtain ⟨extra, appended, sublist, bound⟩ := selectGreedily_spec selected
    rw [← Except.ok.inj chose]
    refine ⟨?_, bound (Nat.pos_of_ne_zero room)⟩
    rw [appended]
    exact sublist.subperm.trans (List.perm_insertionSort _ _).subperm
  · rw [if_neg room] at chose
    rw [← Except.ok.inj chose]
    exact ⟨List.nil_subperm, Nat.zero_le _⟩

/-- The quota never exceeds the slots. -/
theorem mutationQuota_le (mutations : List Planned) (slots : Nat) :
    mutationQuota mutations slots ≤ slots := by
  unfold mutationQuota
  split
  · next room =>
    have positive := Nat.pos_of_ne_zero room.2
    omega
  · exact Nat.zero_le _

/-- What a plan selects of its candidates. -/
structure SelectionKept (candidates : PlanCandidates) (maxScenarios : Int)
    (selection : PlanSelection) : Prop where
  /-- Every probe that always runs. -/
  core : selection.core = candidates.probes.filter isCore
  /-- Boundary probes into the room that is left, in order. -/
  boundary : selection.boundary = (candidates.probes.filter isBoundary).take
    (planSlots maxScenarios selection.core - selection.mutations.length)
  /-- Some of the candidates aimed at differences. -/
  mutations : selection.mutations.Subperm selection.remaining
  /-- No more of them than there are slots. -/
  fits : selection.mutations.length ≤ planSlots maxScenarios selection.core
  /-- They are left as they were, but for their scores. -/
  remaining : selection.remaining = candidates.mutations ∨
    selection.remaining = candidates.mutations.map Planned.scored

/-- The selection of a plan. -/
theorem selectPlan_kept {candidates : PlanCandidates} {maxScenarios : Int}
    {selection : PlanSelection} (selected : selectPlan candidates maxScenarios = .ok selection) :
    SelectionKept candidates maxScenarios selection := by
  obtain ⟨chosen, chose, selected⟩ := bind_eq_ok selected
  obtain ⟨subperm, bound⟩ := chooseMutations_spec chose
  rw [← Except.ok.inj selected]
  refine ⟨rfl, rfl, subperm, bound.trans (mutationQuota_le _ _), ?_⟩
  dsimp only
  unfold scoreMutations
  split
  · exact .inr rfl
  · exact .inl rfl

/-- No probe always runs and is of a boundary. -/
theorem isCore_apart (planned : Planned) (core : isCore planned = true) :
    isBoundary planned = false := by
  unfold isCore at core
  unfold isBoundary
  cases origin : planned.1.origin with
  | boundary => simp [origin] at core
  | controlCase => simp
  | baseline => simp
  | mutation => simp

/-- Boundary probes are among those that do not always run. -/
theorem filter_boundary_sublist (probes : List Planned) :
    (probes.filter isBoundary).Sublist (probes.filter fun planned => !isCore planned) := by
  refine List.monotone_filter_right _ fun planned boundary => ?_
  cases core : isCore planned with
  | false => rfl
  | true =>
    rw [isCore_apart planned core] at boundary
    cases boundary

/-- Selected scenarios are candidates, none twice. -/
theorem SelectionKept.all_subperm {candidates : PlanCandidates} {maxScenarios : Int}
    {selection : PlanSelection} (kept : SelectionKept candidates maxScenarios selection) :
    selection.all.Subperm (candidates.probes ++ selection.remaining) := by
  refine List.Subperm.append ?_ kept.mutations
  rw [kept.boundary, kept.core]
  have room := List.take_sublist
    (planSlots maxScenarios (candidates.probes.filter isCore) - selection.mutations.length)
    (candidates.probes.filter isBoundary)
  have parts := (room.trans (filter_boundary_sublist _)).append_left (candidates.probes.filter isCore)
  exact parts.subperm.trans (List.filter_append_perm _ _).subperm

/-- No more scenarios are selected than asked for, when the probes are no more. -/
theorem SelectionKept.all_length {candidates : PlanCandidates} {maxScenarios : Int}
    {selection : PlanSelection} (kept : SelectionKept candidates maxScenarios selection)
    (probes : (candidates.probes.length : Int) ≤ maxScenarios) :
    (selection.all.length : Int) ≤ maxScenarios := by
  have core : selection.core.length ≤ candidates.probes.length := by
    rw [kept.core]
    exact List.length_filter_le _ _
  have boundary : selection.boundary.length ≤
      planSlots maxScenarios selection.core - selection.mutations.length := by
    rw [kept.boundary]
    exact List.length_take_le _ _
  have fits := kept.fits
  unfold PlanSelection.all
  rw [List.length_append, List.length_append]
  unfold planSlots at *
  omega

/-- Renumbering keeps what does not depend on identifiers. -/
theorem renumber_map {α : Type} (read : TestScenario → α)
    (kept : ∀ (scenario : TestScenario) (id : String),
      read { scenario with id := id } = read scenario)
    (selected : List Planned) :
    (renumber selected).map (fun planned => read planned.1) =
      selected.map fun planned => read planned.1 := by
  unfold renumber
  rw [List.map_map]
  have same : ((fun planned : Planned => read planned.1) ∘ fun planned : Planned × Nat =>
      ({ planned.1.1 with id := "RG-" ++ String.ofList (padded 3 planned.2) }, planned.1.2)) =
      (fun planned : Planned => read planned.1) ∘ Prod.fst := by
    funext planned
    exact kept planned.1.1 _
  rw [same, ← List.map_map, List.zipIdx_map_fst]

/-- How a plan came about: its probes, its new candidates and its selection. -/
structure PlanBuilt (printed : ControlCase → String → String)
    (description : SemanticDifference → String) (sorter : Sorter String)
    (package : PackageContent) (diffResult : SemanticDiffResult)
    (predicates : List ImpactPredicate) (cases : List ControlCase) (maxScenarios : Int)
    (plan : PricingTestPlan) where
  /-- The probes of the package. -/
  probes : PackageProbeResult
  /-- The candidates aimed at differences. -/
  mutations : List TestScenario
  /-- The new ones among them. -/
  unique : List TestScenario
  /-- The keys of the probes. -/
  known : List ProbeKey
  /-- The selection. -/
  selection : PlanSelection
  /-- The probes are generated. -/
  probed : generatePackageProbes printed sorter package cases maxScenarios = .ok probes
  /-- The candidates are generated. -/
  proposed : mutationCandidates description diffResult predicates package probes = .ok mutations
  /-- The keys are computed. -/
  keyed : probes.scenarios.mapM (·.key) = .ok known
  /-- The candidates are compared with them. -/
  fresh : uniqueMutations mutations known = .ok unique
  /-- The selection is made. -/
  selected : selectPlan (planCandidates probes.scenarios unique) maxScenarios = .ok selection
  /-- The plan selects it, renumbered. -/
  scenarios : plan.selectedScenarios = (renumber selection.all).map Prod.fst
  /-- The plan has all candidates, those that are selected renumbered. -/
  candidates : plan.candidateScenarios =
    ((planCandidates probes.scenarios unique).probes ++ selection.remaining).map
      (settle (renumber selection.all))

section Plan

variable {printed : ControlCase → String → String} {description : SemanticDifference → String}
  {sorter : Sorter String} {package : PackageContent} {diffResult : SemanticDiffResult}
  {predicates : List ImpactPredicate} {cases : List ControlCase} {maxScenarios : Int}
  {plan : PricingTestPlan}

/-- Every plan came about so. -/
theorem generatePlan_built
    (planned : generatePlan printed description sorter package diffResult predicates cases
      maxScenarios = .ok plan) :
    Nonempty (PlanBuilt printed description sorter package diffResult predicates cases
      maxScenarios plan) := by
  obtain ⟨probes, probed, planned⟩ := bind_eq_ok planned
  obtain ⟨mutations, proposed, planned⟩ := bind_eq_ok planned
  obtain ⟨known, keyed, planned⟩ := bind_eq_ok planned
  obtain ⟨unique, fresh, planned⟩ := bind_eq_ok planned
  obtain ⟨selection, selected, planned⟩ := bind_eq_ok planned
  refine ⟨⟨probes, mutations, unique, known, selection, probed, proposed, keyed, fresh, selected,
    ?_, ?_⟩⟩
  · rw [← Except.ok.inj planned]
  · rw [← Except.ok.inj planned]

/-- All candidates of a plan have distinct keys, also as the selection leaves them. -/
theorem PlanBuilt.remaining_keys
    (built : PlanBuilt printed description sorter package diffResult predicates cases maxScenarios
      plan) :
    ∃ keys : List ProbeKey, keys.Nodup ∧
      ((planCandidates built.probes.scenarios built.unique).probes ++
        built.selection.remaining).map (fun planned => planned.1.key) = keys.map Except.ok := by
  obtain ⟨keys, keyed, distinct⟩ := (generatePackageProbes_kept built.probed).distinct
  have listed : KeyedBy built.probes.scenarios built.known := mapM_eq_ok built.keyed
  have same : built.known.map (fun key => (Except.ok key : Except Failure ProbeKey)) =
      keys.map Except.ok :=
    listed.map_key.symm.trans keyed.map_key
  have known := List.map_injective_iff.mpr (fun one other ok => Except.ok.inj ok) same
  obtain ⟨_, fresh, others, apart, new⟩ := uniqueMutations_spec built.fresh
  have parts : (fun planned : Planned => planned.1.key) =
      (fun scenario : TestScenario => scenario.key) ∘ Prod.fst := rfl
  have first : (planCandidates built.probes.scenarios built.unique).probes.map
      (fun planned => planned.1.key) = built.probes.scenarios.map (·.key) := by
    rw [parts, ← List.map_map]
    exact congrArg _ (List.zipIdx_map_fst _ _)
  have unscored : (planCandidates built.probes.scenarios built.unique).mutations.map
      (fun planned => planned.1.key) = built.unique.map (·.key) := by
    rw [parts, ← List.map_map]
    exact congrArg _ (List.zipIdx_map_fst _ _)
  have second : built.selection.remaining.map (fun planned => planned.1.key) =
      built.unique.map (·.key) := by
    rcases (selectPlan_kept built.selected).remaining with left | scored
    · rw [left, unscored]
    · rw [scored, List.map_map]
      exact unscored
  refine ⟨keys ++ fresh, ?_, ?_⟩
  · refine List.nodup_append.mpr ⟨distinct, apart, fun key listed other added same => ?_⟩
    exact new other added (known ▸ same ▸ listed)
  · rw [List.map_append, first, second, keyed.map_key, others.map_key, ← List.map_append]

/-- Values of a part of a list are distinct when those of the list are. -/
theorem nodup_map_subperm {α β : Type} {part all : List α} {read : α → β} (sub : part.Subperm all)
    (distinct : (all.map read).Nodup) : (part.map read).Nodup := by
  obtain ⟨ordered, perm, sublist⟩ := sub
  exact (perm.map read).nodup_iff.mp ((sublist.map read).nodup distinct)

/-- Selected scenarios have distinct keys. -/
theorem PlanBuilt.selected_nodup
    (built : PlanBuilt printed description sorter package diffResult predicates cases maxScenarios
      plan) : (plan.selectedScenarios.map (·.key)).Nodup := by
  rw [built.scenarios, List.map_map]
  have renumbered := renumber_map (fun scenario => scenario.key) (fun _ _ => rfl)
    built.selection.all
  have parts : (fun scenario : TestScenario => scenario.key) ∘ Prod.fst =
      fun planned : Planned => planned.1.key := rfl
  rw [parts, renumbered]
  obtain ⟨keys, distinct, keyed⟩ := built.remaining_keys
  refine nodup_map_subperm (selectPlan_kept built.selected).all_subperm ?_
  rw [keyed]
  exact distinct.map fun one other same => Except.ok.inj same

/-- Selected scenarios have keys. -/
theorem PlanBuilt.selected_keyed
    (built : PlanBuilt printed description sorter package diffResult predicates cases maxScenarios
      plan) : ∀ scenario ∈ plan.selectedScenarios, ∃ key, scenario.key = .ok key := by
  intro scenario member
  rw [built.scenarios] at member
  obtain ⟨numbered, listed, rfl⟩ := List.mem_map.mp member
  have read := renumber_map (fun scenario => scenario.key) (fun _ _ => rfl) built.selection.all
  have found : numbered.1.key ∈ built.selection.all.map fun planned => planned.1.key := by
    rw [← read]
    exact List.mem_map.mpr ⟨numbered, listed, rfl⟩
  obtain ⟨planned, candidate, same⟩ := List.mem_map.mp found
  obtain ⟨keys, _, keyed⟩ := built.remaining_keys
  have key := (selectPlan_kept built.selected).all_subperm.subset candidate
  have listed : planned.1.key ∈ keys.map Except.ok := by
    rw [← keyed]
    exact List.mem_map.mpr ⟨planned, key, rfl⟩
  obtain ⟨found, _, ok⟩ := List.mem_map.mp listed
  exact ⟨found, same.symm.trans ok.symm⟩

/-- A plan selects a scenario of a control case under a key. -/
def SelectsControl (plan : PricingTestPlan) (key : ProbeKey) : Prop :=
  ∃ scenario ∈ plan.selectedScenarios, scenario.key = .ok key ∧ scenario.origin = .controlCase

/-- Every executable case has a key of the list. -/
theorem caseKey_mem {case : ControlCase} {key : ProbeKey} (member : case ∈ cases)
    (keyed : caseKey printed sorter package case = some key) :
    key ∈ controlKeys printed sorter package cases :=
  List.mem_dedup.mpr (List.mem_filterMap.mpr ⟨case, member, keyed⟩)

/-- What always runs is selected. -/
theorem PlanBuilt.core_selected
    (built : PlanBuilt printed description sorter package diffResult predicates cases maxScenarios
      plan) {scenario : TestScenario} (member : scenario ∈ built.probes.scenarios) {key : ProbeKey}
    (keyed : scenario.key = .ok key) (origin : scenario.origin = .controlCase) :
    SelectsControl plan key := by
  have listed : scenario ∈ built.probes.scenarios.zipIdx.map Prod.fst := by
    rw [List.zipIdx_map_fst]
    exact member
  obtain ⟨planned, candidate, rfl⟩ := List.mem_map.mp listed
  have core : planned ∈ built.selection.all := by
    unfold PlanSelection.all
    rw [(selectPlan_kept built.selected).core]
    refine List.mem_append_left _ (List.mem_append_left _ (List.mem_filter.mpr ⟨candidate, ?_⟩))
    simp [isCore, origin]
  have read := renumber_map (fun scenario => (scenario.key, scenario.origin)) (fun _ _ => rfl)
    built.selection.all
  have found : (planned.1.key, planned.1.origin) ∈ (renumber built.selection.all).map
      fun planned => (planned.1.key, planned.1.origin) := by
    rw [read]
    exact List.mem_map.mpr ⟨planned, core, rfl⟩
  obtain ⟨selected, numbered, same⟩ := List.mem_map.mp found
  refine ⟨selected.1, ?_, ?_, ?_⟩
  · rw [built.scenarios]
    exact List.mem_map.mpr ⟨selected, numbered, rfl⟩
  · exact (congrArg Prod.fst same).trans keyed
  · exact (congrArg Prod.snd same).trans origin

/-- A nonnegative limit takes from the front. -/
theorem upTo_nonneg {α : Type} {limit : Int} (nonneg : 0 ≤ limit) (values : List α) :
    upTo limit values = values.take limit.toNat := if_pos nonneg

/-- Probes are no more than a nonnegative limit. -/
theorem PlanBuilt.probes_length
    (built : PlanBuilt printed description sorter package diffResult predicates cases maxScenarios
      plan) (nonneg : 0 ≤ maxScenarios) :
    (built.probes.scenarios.length : Int) ≤ maxScenarios := by
  obtain ⟨core, extra, limited, _, _⟩ := (generatePackageProbes_kept built.probed).parts
  rw [limited, upTo_nonneg nonneg]
  have short := List.length_take_le maxScenarios.toNat (core.ordered ++ extra)
  omega

/-- When the executable control cases fit, all of them are selected. -/
theorem PlanBuilt.controls_selected
    (built : PlanBuilt printed description sorter package diffResult predicates cases maxScenarios
      plan)
    (fits : ((controlKeys printed sorter package cases).length : Int) ≤ maxScenarios)
    {key : ProbeKey} (listed : key ∈ controlKeys printed sorter package cases) :
    SelectsControl plan key := by
  obtain ⟨core, extra, limited, kept, _⟩ := (generatePackageProbes_kept built.probed).parts
  cases kept.kinds with
  | inr baseline =>
    rw [baseline.1] at listed
    cases listed
  | inl controls =>
    have seen := controls.seen_perm.mem_iff.mpr listed
    obtain ⟨scenario, member, keyed⟩ :=
      controls.probes.keyed.scenario_of_key (List.mem_reverse.mpr seen)
    refine built.core_selected ?_ keyed (controls.origins scenario member)
    have room : core.ordered.length ≤ maxScenarios.toNat := by
      rw [controls.probes.length_seen, controls.seen_perm.length_eq]
      omega
    rw [limited, upTo_nonneg (by omega), List.take_append, List.take_of_length_le room]
    exact List.mem_append_left _ member

/-- When they do not fit, nothing else is selected. -/
theorem PlanBuilt.controls_only
    (built : PlanBuilt printed description sorter package diffResult predicates cases maxScenarios
      plan) (nonneg : 0 ≤ maxScenarios)
    (more : maxScenarios < ((controlKeys printed sorter package cases).length : Int)) :
    ∀ scenario ∈ plan.selectedScenarios, scenario.origin = .controlCase := by
  obtain ⟨core, extra, limited, kept, _⟩ := (generatePackageProbes_kept built.probed).parts
  have controls : ControlsKept printed sorter package cases core := by
    cases kept.kinds with
    | inl controls => exact controls
    | inr baseline =>
      rw [baseline.1, List.length_nil] at more
      omega
  have full : maxScenarios.toNat ≤ core.ordered.length := by
    rw [controls.probes.length_seen, controls.seen_perm.length_eq]
    omega
  have probes : built.probes.scenarios = core.ordered.take maxScenarios.toNat := by
    rw [limited, upTo_nonneg nonneg, List.take_append_of_le_length full]
  have origins : ∀ planned ∈ (planCandidates built.probes.scenarios built.unique).probes,
      planned.1.origin = .controlCase := by
    intro planned member
    refine controls.origins _ (List.mem_of_mem_take (i := maxScenarios.toNat) ?_)
    rw [← probes, ← List.zipIdx_map_fst 0 built.probes.scenarios]
    exact List.mem_map.mpr ⟨planned, member, rfl⟩
  have selection := selectPlan_kept built.selected
  have all : built.selection.core = (planCandidates built.probes.scenarios built.unique).probes := by
    rw [selection.core]
    refine List.filter_eq_self.mpr fun planned member => ?_
    simp [isCore, origins planned member]
  have slots : planSlots maxScenarios built.selection.core = 0 := by
    have length : built.selection.core.length = maxScenarios.toNat := by
      rw [all]
      dsimp only [planCandidates]
      rw [List.length_zipIdx, probes, List.length_take, Nat.min_eq_left full]
    unfold planSlots
    omega
  have noMutations : built.selection.mutations = [] := by
    have fits := selection.fits
    rw [slots] at fits
    exact List.length_eq_zero_iff.mp (Nat.le_zero.mp fits)
  have noBoundaries : built.selection.boundary = [] := by
    rw [selection.boundary, slots, Nat.zero_sub, List.take_zero]
  intro scenario member
  rw [built.scenarios] at member
  obtain ⟨numbered, listed, rfl⟩ := List.mem_map.mp member
  have read := renumber_map (fun scenario => scenario.origin) (fun _ _ => rfl) built.selection.all
  have found : numbered.1.origin ∈ built.selection.all.map fun planned => planned.1.origin := by
    rw [← read]
    exact List.mem_map.mpr ⟨numbered, listed, rfl⟩
  unfold PlanSelection.all at found
  rw [noMutations, noBoundaries, List.append_nil, List.append_nil, all] at found
  obtain ⟨planned, candidate, same⟩ := List.mem_map.mp found
  rw [← same]
  exact origins planned candidate

/-- Every plan is bounded, without two scenarios of one key, and keeps its controls: all
executable cases when they fit, and nothing but cases when one is left out. -/
theorem generatePlan_bounded (positive : 1 ≤ maxScenarios)
    (planned : generatePlan printed description sorter package diffResult predicates cases
      maxScenarios = .ok plan) :
    (plan.selectedScenarios.length : Int) ≤ maxScenarios ∧
      ((plan.selectedScenarios.map (·.key)).Nodup ∧
        ∀ scenario ∈ plan.selectedScenarios, ∃ key, scenario.key = .ok key) ∧
      (((controlKeys printed sorter package cases).length : Int) ≤ maxScenarios →
        ∀ case ∈ cases, ∀ key, caseKey printed sorter package case = some key →
          SelectsControl plan key) ∧
      ((∃ case ∈ cases, ∃ key, caseKey printed sorter package case = some key ∧
          ¬SelectsControl plan key) →
        ∀ scenario ∈ plan.selectedScenarios, scenario.origin = .controlCase) := by
  obtain ⟨built⟩ := generatePlan_built planned
  have nonneg : 0 ≤ maxScenarios := by omega
  have selection := selectPlan_kept built.selected
  refine ⟨?_, ⟨built.selected_nodup, built.selected_keyed⟩, ?_, ?_⟩
  · rw [built.scenarios, List.length_map]
    unfold renumber
    rw [List.length_map, List.length_zipIdx]
    refine selection.all_length ?_
    dsimp only [planCandidates]
    rw [List.length_zipIdx]
    exact built.probes_length nonneg
  · intro fits case member key keyed
    exact built.controls_selected fits (caseKey_mem member keyed)
  · rintro ⟨case, member, key, keyed, missed⟩
    refine built.controls_only nonneg ?_
    by_contra fits
    exact missed (built.controls_selected (by omega) (caseKey_mem member keyed))

end Plan

/-- Small covers. -/
def smallCovers : RangeMatch where
  minimum := some (.int 1)
  maximum := some (.int 9)
  includeMinimum := true
  includeMaximum := true
  bounded := .inl rfl
  ordered := by decide

/-- Large covers. -/
def largeCovers : RangeMatch where
  minimum := some (.int 10)
  maximum := some (.int 20)
  includeMinimum := true
  includeMaximum := true
  bounded := .inl rfl
  ordered := by decide

/-- Table of one factor for small and large covers. -/
def coverTable (factor : Nat) : RateTable where
  id := "cover_factors"
  dimensions := [⟨"cover", .range⟩]
  rows := [⟨[.range smallCovers], ⟨false, factor, 0⟩, none⟩,
    ⟨[.range largeCovers], ⟨false, factor, 0⟩, none⟩]
  effectivePeriod := none
  requiresTotalCoverage := false
  defaultValue := none
  dimensioned := .inl rfl
  keyed := by
    intro row member
    rcases List.mem_pair.mp member with rfl | rfl
    · rfl
    · rfl

/-- The package of covers with that table. -/
def bracketContent (factor : Nat) : PackageContent :=
  { coverPackage.toPackageContent with tables := [coverTable factor] }

/-- Package of the factor one. -/
def bracketPackage : IPIRPackage where
  toPackageContent := bracketContent 1
  valid := by decide

/-- Package of the factor two. -/
def steeperPackage : IPIRPackage where
  toPackageContent := bracketContent 2
  valid := by decide

/-- Control case of a cover of twelve. -/
def coverCase : ControlCase where
  caseId := "cover_twelve"
  inputs := [("cover", .int 12)]
  expectedOutputs := [("premium", "112.00")]
  tolerance := ⟨false, 0, 0⟩
  identified := by decide
  inputsDistinct := by decide
  outputsDistinct := by decide
  expects := by decide
  nonnegative := by decide

/-- Plan of five scenarios for the two packages. -/
def bracketPlan : Except Failure PricingTestPlan := do
  let result ← comparePackages bracketPackage.toPackageContent steeperPackage.toPackageContent
  let predicates ← result.differences.mapM fun difference =>
    derivePredicate difference bracketPackage.toPackageContent
  generatePlan (fun _ _ => "") (fun _ => "") (byGenerations String) bracketPackage.toPackageContent
    result predicates [coverCase] 5

/-- The plan of the two packages is bounded and keeps its control case. -/
theorem generatePlan_bounded_bracket :
    ∃ plan key, bracketPlan = .ok plan ∧ plan.selectedScenarios.length ≤ 5 ∧
      (plan.selectedScenarios.map (·.key)).Nodup ∧
      caseKey (fun _ _ => "") (byGenerations String) bracketPackage.toPackageContent coverCase =
        some key ∧ SelectsControl plan key := by
  have returned : bracketPlan.isOk = true := by decide +kernel
  have executable : (caseKey (fun _ _ => "") (byGenerations String)
      bracketPackage.toPackageContent coverCase).isSome = true := by decide +kernel
  have single : (controlKeys (fun _ _ => "") (byGenerations String)
      bracketPackage.toPackageContent [coverCase]).length = 1 := by decide +kernel
  obtain ⟨plan, found⟩ := exists_of_isOk returned
  obtain ⟨key, keyed⟩ := Option.isSome_iff_exists.mp executable
  obtain ⟨result, compared, planned⟩ := bind_eq_ok found
  obtain ⟨predicates, derived, planned⟩ := bind_eq_ok planned
  obtain ⟨bound, distinct, controls, _⟩ := generatePlan_bounded (by decide) planned
  exact ⟨plan, key, found, Int.ofNat_le.mp bound, distinct.1, keyed,
    controls (by rw [single]; decide) coverCase (List.mem_singleton_self _) key keyed⟩

end RateGuard
