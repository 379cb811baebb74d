import RateGuard.Testing.PlanBounds

/-!
# Identifiers in a test plan

The identifiers under which the scenarios of a plan are joined later. Selected scenarios are
numbered, new candidates have numbers of their own, and a boundary probe that is not selected
keeps its provisional identifier.
-/

open DecimalFloat CalendarDate TopologicalSort Outcome

namespace RateGuard

/-- A numbered identifier determines its number. -/
theorem numbered_inj {start : String} {one other : Nat}
    (same : start ++ String.ofList (padded 3 one) = start ++ String.ofList (padded 3 other)) :
    one = other := by
  have texts := congrArg String.toList same
  rw [String.toList_append, String.toList_append, String.toList_ofList, String.toList_ofList] at texts
  have numbers := congrArg basicNumber (List.append_cancel_left texts)
  rw [basicNumber_padded, basicNumber_padded] at numbers
  exact Option.some.inj numbers

/-- Identifiers of numbered candidates. -/
theorem numberCandidates_ids (start : String) (candidates : List TestScenario) :
    (numberCandidates start candidates).map (·.id) =
      (List.range' 1 candidates.length).map fun number =>
        start ++ String.ofList (padded 3 number) := by
  unfold numberCandidates
  rw [List.map_map, ← List.zipIdx_map_snd 1 candidates, List.map_map]
  rfl

/-- They are distinct. -/
theorem numberCandidates_nodup (start : String) (candidates : List TestScenario) :
    ((numberCandidates start candidates).map (·.id)).Nodup := by
  rw [numberCandidates_ids]
  exact List.Nodup.map (fun one other same => numbered_inj same) List.nodup_range'

/-- Identifiers that start like those of candidates. -/
def IsCandidateId (id : String) : Prop := ∃ number, id = "RG_CAND_" ++ String.ofList (padded 3 number)

/-- Generated candidates are numbered. -/
theorem generateCandidateScenarios_numbered {description : SemanticDifference → String}
    {diffResult : SemanticDiffResult} {predicates : List ImpactPredicate}
    {package : PackageContent} {baseRisk : Option RiskInput} {baseDate : Option Date}
    {candidates : List TestScenario}
    (generated : generateCandidateScenarios description diffResult predicates package baseRisk
      baseDate = .ok candidates) :
    ∃ drafts, candidates = numberCandidates "RG_CAND_" drafts := by
  unfold generateCandidateScenarios at generated
  obtain ⟨_, _, generated⟩ := bind_eq_ok generated
  obtain ⟨_, _, generated⟩ := bind_eq_ok generated
  obtain ⟨_, _, generated⟩ := bind_eq_ok generated
  obtain ⟨_, _, generated⟩ := bind_eq_ok generated
  obtain ⟨_, _, generated⟩ := bind_eq_ok generated
  obtain ⟨_, _, generated⟩ := bind_eq_ok generated
  obtain ⟨_, _, generated⟩ := bind_eq_ok generated
  obtain ⟨_, _, generated⟩ := bind_eq_ok generated
  exact ⟨_, (Except.ok.inj generated).symm⟩

/-- Every candidate has such an identifier, and no two have the same. -/
theorem mutationCandidates_ids {description : SemanticDifference → String}
    {diffResult : SemanticDiffResult} {predicates : List ImpactPredicate}
    {package : PackageContent} {probes : PackageProbeResult} {mutations : List TestScenario}
    (proposed : mutationCandidates description diffResult predicates package probes =
      .ok mutations) :
    (mutations.map (·.id)).Nodup ∧ ∀ scenario ∈ mutations, IsCandidateId scenario.id := by
  have numbered : ∃ drafts, mutations = numberCandidates "RG_CAND_" drafts := by
    unfold mutationCandidates at proposed
    cases policy : probes.base with
    | none =>
      rw [policy] at proposed
      exact ⟨[], (Except.ok.inj proposed).symm⟩
    | some base =>
      rw [policy] at proposed
      exact generateCandidateScenarios_numbered proposed
  obtain ⟨drafts, rfl⟩ := numbered
  refine ⟨numberCandidates_nodup _ _, fun scenario member => ?_⟩
  have listed : scenario.id ∈ (numberCandidates "RG_CAND_" drafts).map (·.id) :=
    List.mem_map.mpr ⟨scenario, member, rfl⟩
  rw [numberCandidates_ids] at listed
  obtain ⟨number, _, same⟩ := List.mem_map.mp listed
  exact ⟨number, same.symm⟩

/-- Renumbering keeps identities. -/
theorem renumber_identities (selected : List Planned) :
    (renumber selected).map Prod.snd = selected.map Prod.snd := by
  unfold renumber
  rw [List.map_map]
  have same : (Prod.snd ∘ fun planned : Planned × Nat =>
      ({ planned.1.1 with id := "RG-" ++ String.ofList (padded 3 planned.2) }, planned.1.2)) =
      (Prod.snd : Planned → Nat) ∘ Prod.fst := rfl
  rw [same, ← List.map_map, List.zipIdx_map_fst]

/-- A candidate that is not selected stays as it is. -/
theorem settle_other {selected : List Planned} {planned : Planned}
    (absent : planned.2 ∉ selected.map Prod.snd) : settle (renumber selected) planned = planned.1 := by
  have unfound : (renumber selected).find? (·.2 = planned.2) = none := by
    refine List.find?_eq_none.mpr fun other member same => absent ?_
    rw [← renumber_identities]
    exact List.mem_map.mpr ⟨other, member, by simpa using same⟩
  unfold settle
  rw [unfound]
  rfl

/-- A selected candidate has the identifier of its place. -/
theorem settle_selected {selected : List Planned} (distinct : (selected.map Prod.snd).Nodup)
    {planned : Planned} (member : planned ∈ selected) :
    ∃ number, (planned, number) ∈ selected.zipIdx 1 ∧
      (settle (renumber selected) planned).id = "RG-" ++ String.ofList (padded 3 number) := by
  cases found : (renumber selected).find? (·.2 = planned.2) with
  | none =>
    have listed : planned.2 ∈ (renumber selected).map Prod.snd := by
      rw [renumber_identities]
      exact List.mem_map.mpr ⟨planned, member, rfl⟩
    obtain ⟨other, inside, same⟩ := List.mem_map.mp listed
    exact absurd (by simpa using same) (List.find?_eq_none.mp found other inside)
  | some entry =>
    have same : entry.2 = planned.2 := by simpa using List.find?_some found
    obtain ⟨placed, listed, rfl⟩ := List.mem_map.mp (List.mem_of_find?_eq_some found)
    have inside : placed.1 ∈ selected := List.fst_mem_of_mem_zipIdx listed
    have own : placed.1 = planned := List.inj_on_of_nodup_map distinct inside member same
    refine ⟨placed.2, own ▸ listed, ?_⟩
    unfold settle
    rw [found]
    rfl

/-- A list of at most one element has no two. -/
theorem mem_eq_of_length_le_one {α : Type} {values : List α} (few : values.length ≤ 1)
    {one other : α} (first : one ∈ values) (second : other ∈ values) : one = other := by
  rcases values with _ | ⟨value, _ | ⟨next, rest⟩⟩
  · cases first
  · exact (List.mem_singleton.mp first).trans (List.mem_singleton.mp second).symm
  · simp at few

/-- A place in a selection has one scenario. -/
theorem zipIdx_unique {selected : List Planned} {one other : Planned} {number : Nat}
    (first : (one, number) ∈ selected.zipIdx 1) (second : (other, number) ∈ selected.zipIdx 1) :
    one = other := by
  have numbers : ((selected.zipIdx 1).map Prod.snd).Nodup := by
    rw [List.zipIdx_map_snd]
    exact List.nodup_range'
  exact congrArg Prod.fst (List.inj_on_of_nodup_map numbers first second rfl)

/-- What a selection has to be for its candidates to be told apart by their identities. -/
structure IdentitiesKept (all selected : List Planned) : Prop where
  /-- Candidates have distinct identities. -/
  distinct : (all.map Prod.snd).Nodup
  /-- Selected ones are candidates, each once. -/
  subperm : selected.Subperm all

/-- A candidate is selected when one of its identity is. -/
theorem IdentitiesKept.selected_iff {all selected : List Planned}
    (kept : IdentitiesKept all selected) {planned : Planned} (member : planned ∈ all) :
    planned.2 ∈ selected.map Prod.snd ↔ planned ∈ selected := by
  constructor
  · intro listed
    obtain ⟨other, inside, same⟩ := List.mem_map.mp listed
    have candidate := kept.subperm.subset inside
    exact List.inj_on_of_nodup_map kept.distinct candidate member same ▸ inside
  · exact fun inside => List.mem_map.mpr ⟨planned, inside, rfl⟩

/-- Identifiers after the selection are distinct when those of the candidates that were not
selected are, and these do not look like numbers of the plan. -/
theorem IdentitiesKept.ids_nodup {all selected : List Planned}
    (kept : IdentitiesKept all selected)
    (plain : ∀ planned ∈ all, planned ∉ selected → ∀ number,
      planned.1.id ≠ "RG-" ++ String.ofList (padded 3 number))
    (apart : ∀ one ∈ all, one ∉ selected → ∀ other ∈ all, other ∉ selected →
      one.1.id = other.1.id → one = other) :
    ((all.map (settle (renumber selected))).map (·.id)).Nodup := by
  have distinct := nodup_map_subperm kept.subperm kept.distinct
  have unselected : ∀ planned ∈ all, planned ∉ selected →
      (settle (renumber selected) planned).id = planned.1.id := by
    intro planned member absent
    rw [settle_other fun listed => absent ((kept.selected_iff member).mp listed)]
  rw [List.map_map]
  refine List.Nodup.map_on (fun one first other second same => ?_) kept.distinct.of_map
  dsimp only [Function.comp_apply] at same
  by_cases chosen : one ∈ selected
  · obtain ⟨number, placed, named⟩ := settle_selected distinct chosen
    by_cases otherChosen : other ∈ selected
    · obtain ⟨otherNumber, otherPlaced, otherNamed⟩ := settle_selected distinct otherChosen
      obtain rfl := numbered_inj (named.symm.trans (same.trans otherNamed))
      exact zipIdx_unique placed otherPlaced
    · rw [named, unselected other second otherChosen] at same
      exact absurd same.symm (plain other second otherChosen number)
  · by_cases otherChosen : other ∈ selected
    · obtain ⟨number, _, named⟩ := settle_selected distinct otherChosen
      rw [named, unselected one first chosen] at same
      exact absurd same (plain one first chosen number)
    · rw [unselected one first chosen, unselected other second otherChosen] at same
      exact apart one first chosen other second otherChosen same

/-- A provisional identifier is no number of a plan. -/
theorem provisional_plain (number : Nat) :
    "RG_PKG_TMP" ≠ "RG-" ++ String.ofList (padded 3 number) := by
  intro same
  have third := congrArg (fun text : String => text.toList[2]?) same
  simp [String.toList_append] at third

/-- An identifier of a candidate is no number of a plan. -/
theorem IsCandidateId.plain {id : String} (candidate : IsCandidateId id) (number : Nat) :
    id ≠ "RG-" ++ String.ofList (padded 3 number) := by
  obtain ⟨own, rfl⟩ := candidate
  intro same
  have third := congrArg (fun text : String => text.toList[2]?) same
  simp [String.toList_append] at third

/-- An identifier of a candidate is not provisional. -/
theorem IsCandidateId.ne_provisional {id : String} (candidate : IsCandidateId id) :
    id ≠ "RG_PKG_TMP" := by
  obtain ⟨own, rfl⟩ := candidate
  intro same
  have fourth := congrArg (fun text : String => text.toList[3]?) same
  simp [String.toList_append] at fourth

/-- Number of boundary probes that the chosen candidates leave no room for. -/
def displacedProbes (printed : ControlCase → String → String)
    (description : SemanticDifference → String) (sorter : Sorter String)
    (package : PackageContent) (diffResult : SemanticDiffResult)
    (predicates : List ImpactPredicate) (cases : List ControlCase) (maxScenarios : Int) :
    Except Failure Nat := do
  let probes ← generatePackageProbes printed sorter package cases maxScenarios
  let mutations ← mutationCandidates description diffResult predicates package probes
  let unique ← uniqueMutations mutations (← probes.scenarios.mapM (·.key))
  let candidates := planCandidates probes.scenarios unique
  let slots := planSlots maxScenarios (candidates.probes.filter isCore)
  let chosen ← chooseMutations candidates.mutations (mutationQuota candidates.mutations slots)
  return (candidates.probes.filter isBoundary).length - (slots - chosen.length)

section Plan

variable {printed : ControlCase → String → String} {description : SemanticDifference → String}
  {sorter : Sorter String} {package : PackageContent} {diffResult : SemanticDiffResult}
  {predicates : List ImpactPredicate} {cases : List ControlCase} {maxScenarios : Int}
  {plan : PricingTestPlan}

/-- All candidates of a plan, as the selection leaves them. -/
def PlanBuilt.all
    (built : PlanBuilt printed description sorter package diffResult predicates cases maxScenarios
      plan) : List Planned :=
  (planCandidates built.probes.scenarios built.unique).probes ++ built.selection.remaining

/-- They have distinct identities, and what is selected is among them. -/
theorem PlanBuilt.identities
    (built : PlanBuilt printed description sorter package diffResult predicates cases maxScenarios
      plan) : IdentitiesKept built.all built.selection.all := by
  have kept := selectPlan_kept built.selected
  refine ⟨?_, kept.all_subperm⟩
  have remaining : built.selection.remaining.map Prod.snd =
      List.range' built.probes.scenarios.length built.unique.length := by
    rcases kept.remaining with left | scored
    · rw [left]
      exact List.zipIdx_map_snd _ _
    · have same : Prod.snd ∘ Planned.scored = (Prod.snd : Planned → Nat) := rfl
      rw [scored, List.map_map, same]
      exact List.zipIdx_map_snd _ _
  have probes : (planCandidates built.probes.scenarios built.unique).probes.map Prod.snd =
      List.range' 0 built.probes.scenarios.length := List.zipIdx_map_snd _ _
  unfold PlanBuilt.all
  rw [List.map_append, probes, remaining]
  refine List.nodup_append.mpr ⟨List.nodup_range', List.nodup_range', ?_⟩
  rintro one first _ second rfl
  have low := List.mem_range'_1.mp first
  have high := List.mem_range'_1.mp second
  omega

/-- Probes that are not of a boundary always run; the others have the provisional identifier. -/
theorem PlanBuilt.probe_kind
    (built : PlanBuilt printed description sorter package diffResult predicates cases maxScenarios
      plan) {planned : Planned}
    (member : planned ∈ (planCandidates built.probes.scenarios built.unique).probes) :
    isCore planned = true ∨ isBoundary planned = true ∧ planned.1.id = "RG_PKG_TMP" := by
  obtain ⟨core, extra, limited, kept, origins⟩ := (generatePackageProbes_kept built.probed).parts
  have listed : planned.1 ∈ core.ordered ++ extra := by
    refine (upTo_sublist maxScenarios _).subset ?_
    rw [← limited, ← List.zipIdx_map_fst 0 built.probes.scenarios]
    exact List.mem_map.mpr ⟨planned, member, rfl⟩
  rcases List.mem_append.mp listed with first | last
  · left
    cases kept.kinds with
    | inl controls => simp [isCore, controls.origins _ first]
    | inr baseline => simp [isCore, baseline.2 _ first]
  · right
    obtain ⟨origin, named⟩ := origins _ last
    exact ⟨by simp [isBoundary, origin], named⟩

/-- New candidates keep their identifiers. -/
theorem PlanBuilt.remaining_ids
    (built : PlanBuilt printed description sorter package diffResult predicates cases maxScenarios
      plan) :
    (built.selection.remaining.map (·.1.id)).Nodup ∧
      ∀ planned ∈ built.selection.remaining, IsCandidateId planned.1.id := by
  obtain ⟨distinct, named⟩ := mutationCandidates_ids built.proposed
  have sublist := (uniqueMutations_spec built.fresh).1
  have ids : built.selection.remaining.map (·.1.id) = built.unique.map (·.id) := by
    have parts : (fun planned : Planned => planned.1.id) =
        (fun scenario : TestScenario => scenario.id) ∘ Prod.fst := rfl
    have unscored : (planCandidates built.probes.scenarios built.unique).mutations.map
        (·.1.id) = built.unique.map (·.id) := by
      rw [parts, ← List.map_map]
      exact congrArg _ (List.zipIdx_map_fst _ _)
    rcases (selectPlan_kept built.selected).remaining with left | scored
    · rw [left, unscored]
    · rw [scored, List.map_map]
      exact unscored
  refine ⟨ids ▸ (sublist.map _).nodup distinct, fun planned member => ?_⟩
  have listed : planned.1.id ∈ built.unique.map (·.id) :=
    ids ▸ List.mem_map.mpr ⟨planned, member, rfl⟩
  obtain ⟨scenario, inside, same⟩ := List.mem_map.mp listed
  exact same ▸ named scenario (sublist.subset inside)

/-- Boundary probes of a plan that are not selected. -/
def PlanBuilt.displaced
    (built : PlanBuilt printed description sorter package diffResult predicates cases maxScenarios
      plan) : List Planned :=
  ((planCandidates built.probes.scenarios built.unique).probes.filter isBoundary).drop
    (planSlots maxScenarios built.selection.core - built.selection.mutations.length)

/-- They are as many as are displaced. -/
theorem PlanBuilt.displaced_length
    (built : PlanBuilt printed description sorter package diffResult predicates cases maxScenarios
      plan) :
    displacedProbes printed description sorter package diffResult predicates cases maxScenarios =
      .ok built.displaced.length := by
  obtain ⟨chosen, chose, selected⟩ := bind_eq_ok built.selected
  have core := congrArg PlanSelection.core (Except.ok.inj selected)
  have mutations := congrArg PlanSelection.mutations (Except.ok.inj selected)
  dsimp only at core mutations
  unfold displacedProbes PlanBuilt.displaced
  rw [List.length_drop, ← core, ← mutations, built.probed]
  dsimp only [bind, Except.bind]
  rw [built.proposed]
  dsimp only
  rw [built.keyed]
  dsimp only
  rw [built.fresh]
  dsimp only
  rw [chose]
  rfl

/-- They are candidates with the provisional identifier, not selected. -/
theorem PlanBuilt.displaced_spec
    (built : PlanBuilt printed description sorter package diffResult predicates cases maxScenarios
      plan) :
    built.displaced.Sublist built.all ∧
      ∀ planned ∈ built.displaced, planned ∉ built.selection.all ∧ planned.1.id = "RG_PKG_TMP" := by
  have kept := selectPlan_kept built.selected
  have sublist : built.displaced.Sublist built.all :=
    ((List.drop_sublist _ _).trans List.filter_sublist).trans (List.sublist_append_left _ _)
  refine ⟨sublist, fun planned member => ⟨fun selected => ?_, ?_⟩⟩
  · have apart : (built.selection.all ++ built.displaced).Subperm built.all := by
      have parts : (built.selection.all ++ built.displaced).Perm
          (built.selection.core ++ (built.selection.boundary ++ built.displaced) ++
            built.selection.mutations) := by
        unfold PlanSelection.all
        rw [← List.append_assoc built.selection.core, List.append_assoc _ _ built.displaced,
          List.append_assoc _ _ built.selection.mutations]
        exact List.Perm.append_left _ List.perm_append_comm
      refine parts.subperm.trans (List.Subperm.append ?_ kept.mutations)
      have whole : built.selection.boundary ++ built.displaced =
          (planCandidates built.probes.scenarios built.unique).probes.filter isBoundary := by
        rw [kept.boundary]
        exact List.take_append_drop _ _
      rw [whole, kept.core]
      have others : ((planCandidates built.probes.scenarios built.unique).probes.filter
          isBoundary).Sublist
          ((planCandidates built.probes.scenarios built.unique).probes.filter
            fun planned => !isCore planned) :=
        filter_boundary_sublist _
      exact (others.append_left _).subperm.trans (List.filter_append_perm _ _).subperm
    have distinct := (nodup_map_subperm apart built.identities.distinct).of_map
    exact (List.nodup_append.mp distinct).2.2 planned selected planned member rfl
  · have listed := List.mem_filter.mp (List.mem_of_mem_drop member)
    rcases built.probe_kind listed.1 with core | ⟨_, named⟩
    · exact absurd listed.2 (by rw [isCore_apart planned core]; exact Bool.false_ne_true)
    · exact named

/-- A candidate that is not selected is a displaced probe or a new candidate. -/
theorem PlanBuilt.unselected
    (built : PlanBuilt printed description sorter package diffResult predicates cases maxScenarios
      plan) {planned : Planned} (member : planned ∈ built.all)
    (absent : planned ∉ built.selection.all) :
    planned ∈ built.displaced ∨ planned ∈ built.selection.remaining := by
  have kept := selectPlan_kept built.selected
  rcases List.mem_append.mp member with probe | remaining
  · left
    have selects : ∀ part, planned ∈ part → (part = built.selection.core ∨
        part = built.selection.boundary) → False := by
      rintro part inside (rfl | rfl)
      · exact absent (List.mem_append_left _ (List.mem_append_left _ inside))
      · exact absent (List.mem_append_left _ (List.mem_append_right _ inside))
    rcases built.probe_kind probe with core | ⟨boundary, _⟩
    · exact (selects _ (kept.core ▸ List.mem_filter.mpr ⟨probe, core⟩) (.inl rfl)).elim
    · have listed := List.mem_filter.mpr ⟨probe, boundary⟩
      rw [← List.take_append_drop (planSlots maxScenarios built.selection.core -
        built.selection.mutations.length) (List.filter isBoundary _)] at listed
      rcases List.mem_append.mp listed with taken | dropped
      · exact (selects _ (kept.boundary ▸ taken) (.inr rfl)).elim
      · exact dropped
  · exact .inr remaining

/-- Identifiers of a plan are distinct when at most one boundary probe is displaced. -/
theorem PlanBuilt.ids_nodup_iff
    (built : PlanBuilt printed description sorter package diffResult predicates cases maxScenarios
      plan) :
    (plan.candidateScenarios.map (·.id)).Nodup ↔ built.displaced.length ≤ 1 := by
  obtain ⟨sublist, provisional⟩ := built.displaced_spec
  have settled : plan.candidateScenarios =
      built.all.map (settle (renumber built.selection.all)) := built.candidates
  rw [settled]
  constructor
  · intro distinct
    have ids : (built.displaced.map (settle (renumber built.selection.all))).map (·.id) =
        List.replicate built.displaced.length "RG_PKG_TMP" := by
      rw [List.map_map]
      refine List.eq_replicate_iff.mpr ⟨List.length_map _, fun id member => ?_⟩
      obtain ⟨planned, inside, rfl⟩ := List.mem_map.mp member
      obtain ⟨absent, named⟩ := provisional planned inside
      have candidate := sublist.subset inside
      rw [Function.comp_apply, settle_other fun listed =>
        absent ((built.identities.selected_iff candidate).mp listed), named]
    have part := ((sublist.map _).map _).nodup distinct
    rw [ids] at part
    exact List.nodup_replicate.mp part
  · intro few
    refine built.identities.ids_nodup (fun planned member absent number => ?_)
      fun one first absent other second otherAbsent same => ?_
    · rcases built.unselected member absent with displaced | remaining
      · rw [(provisional planned displaced).2]
        exact provisional_plain number
      · exact (built.remaining_ids.2 planned remaining).plain number
    · rcases built.unselected first absent with displaced | remaining
      · rcases built.unselected second otherAbsent with otherDisplaced | otherRemaining
        · exact mem_eq_of_length_le_one few displaced otherDisplaced
        · refine absurd ?_ (built.remaining_ids.2 other otherRemaining).ne_provisional
          rw [← same, (provisional one displaced).2]
      · rcases built.unselected second otherAbsent with otherDisplaced | otherRemaining
        · refine absurd ?_ (built.remaining_ids.2 one remaining).ne_provisional
          rw [same, (provisional other otherDisplaced).2]
        · exact List.inj_on_of_nodup_map built.remaining_ids.1 remaining otherRemaining same

/-- The scenarios of a plan are joined by their identifiers: no two candidates have one
identifier, and the pool of candidates returns each under its own. -/
def JoinedById (plan : PricingTestPlan) : Prop :=
  (plan.candidateScenarios.map (·.id)).Nodup ∧
    ∀ scenario ∈ plan.candidateScenarios,
      KeyedList.lastWith (·.id) plan.candidateScenarios scenario.id = some scenario

end Plan

end RateGuard
