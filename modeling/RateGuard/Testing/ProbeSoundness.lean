import RateGuard.Testing.ProbeBounds

/-!
# Soundness of package probes

When the probes of a package are generated at all, and when no boundary value is lost on the way:
nothing that is called for a case, the defaults or a candidate raises what is not caught there,
and boundary values that a dictionary merges have the same neighbours.
-/

open DecimalFloat CalendarDate TopologicalSort Outcome

namespace RateGuard

section Interleaving

/-- A candidate is dealt exactly if it was there. -/
theorem mem_interleave {candidate : BoundaryCandidate} {candidates : List BoundaryCandidate} :
    candidate ∈ interleave candidates ↔ candidate ∈ candidates := by
  unfold interleave
  simp only [List.mem_flatMap, List.mem_filterMap, List.mem_range, List.mem_dedup, List.mem_map]
  constructor
  · rintro ⟨rank, _, inputId, _, found⟩
    exact List.mem_of_mem_filter (List.mem_of_getElem? found)
  · intro member
    have own : candidate ∈ ofInput candidates candidate.inputId :=
      List.mem_filter.mpr ⟨member, by simp⟩
    obtain ⟨rank, inside, found⟩ := List.mem_iff_getElem.mp own
    refine ⟨rank, inside.trans_le (List.length_filter_le _ _), candidate.inputId,
      ⟨candidate, member, rfl⟩, ?_⟩
    rw [List.getElem?_eq_getElem inside, found]

/-- The ranks of a list within a longer range are as many as its elements. -/
theorem sum_range_lt {length bound : Nat} (fits : length ≤ bound) :
    ((List.range bound).map fun rank => if rank < length then 1 else 0).sum = length := by
  obtain ⟨more, rfl⟩ := Nat.exists_eq_add_of_le fits
  have inside : (List.range length).map (fun rank => if rank < length then 1 else 0) =
      (List.range length).map fun _ => 1 :=
    List.map_congr_left fun rank member => if_pos (List.mem_range.mp member)
  have outside : ((List.range more).map (length + ·)).map
      (fun rank => if rank < length then 1 else 0) = (List.range more).map fun _ => 0 := by
    rw [List.map_map]
    exact List.map_congr_left fun offset _ => if_neg (Nat.not_lt.mpr (Nat.le_add_right _ _))
  rw [List.range_add, List.map_append, List.sum_append, inside, outside]
  simp

/-- What is dealt of given inputs, rank by rank, is as much as the inputs have. -/
theorem length_dealt (candidates : List BoundaryCandidate) (inputIds : List String) (bound : Nat)
    (fits : ∀ inputId, (ofInput candidates inputId).length ≤ bound) :
    ((List.range bound).flatMap fun rank =>
        inputIds.filterMap fun inputId => (ofInput candidates inputId)[rank]?).length =
      (inputIds.map fun inputId => (ofInput candidates inputId).length).sum := by
  rw [List.length_flatMap]
  induction inputIds with
  | nil => simp
  | cons inputId rest ih =>
    have each : ∀ rank, ((inputId :: rest).filterMap fun id =>
        (ofInput candidates id)[rank]?).length =
        (if rank < (ofInput candidates inputId).length then 1 else 0) +
          (rest.filterMap fun id => (ofInput candidates id)[rank]?).length := by
      intro rank
      rw [List.filterMap_cons]
      by_cases inside : rank < (ofInput candidates inputId).length
      · rw [List.getElem?_eq_getElem inside, if_pos inside]
        exact Nat.add_comm _ _
      · rw [List.getElem?_eq_none (Nat.le_of_not_lt inside), if_neg inside]
        exact (Nat.zero_add _).symm
    have own : ((List.range bound).map fun rank =>
        if rank < (ofInput candidates inputId).length then 1 else 0).sum =
        (ofInput candidates inputId).length := sum_range_lt (fits inputId)
    rw [List.map_congr_left fun rank _ => each rank, List.sum_map_add, own, ih, List.map_cons,
      List.sum_cons]

/-- Dealing keeps the number of candidates. -/
theorem length_interleave (candidates : List BoundaryCandidate) :
    (interleave candidates).length = candidates.length := by
  unfold interleave
  rw [length_dealt candidates _ _ fun inputId => List.length_filter_le _ _]
  have counts : ∀ inputId, (ofInput candidates inputId).length =
      (candidates.map (·.inputId)).count inputId := by
    intro inputId
    rw [List.count, List.countP_map, List.countP_eq_length_filter]
    rfl
  rw [List.map_congr_left fun inputId _ => counts inputId,
    List.sum_map_count_dedup_eq_length, List.length_map]

end Interleaving

/-- The trial of a probe, and its key if it is priced, raise nothing that is not caught. -/
def Probe.Returns (sorter : Sorter String) (package : PackageContent) (probe : Probe) : Prop :=
  ∃ problem, probe.problem sorter package = .ok problem ∧
    (problem = none → probe.key.isOk = true)

/-- The schema accepts the values of a probe that is priced. -/
theorem Probe.scenario_isOk {sorter : Sorter String} {package : PackageContent} {probe : Probe}
    (tried : probe.problem sorter package = .ok none) (name : String)
    (classification : ScenarioClassification) (tags : List String) (origin : ProbeOrigin) :
    (probe.scenario name classification tags origin).isOk = true := by
  unfold Probe.problem executable at tried
  unfold Probe.scenario
  cases accepted : probe.values.risk with
  | ok risk => rfl
  | error failure =>
    rw [accepted] at tried
    dsimp only [bind, Except.bind] at tried
    split at tried
    · cases Except.ok.inj tried
    · cases tried

section Cases

variable {printed : ControlCase → String → String} {sorter : Sorter String}
  {package : PackageContent}

/-- Reading a control case, trying it and computing its key raise nothing that is not caught. -/
def CaseReturns (printed : ControlCase → String → String) (sorter : Sorter String)
    (package : PackageContent) (case : ControlCase) : Prop :=
  ∃ found, caseProbe printed sorter package case = .ok found ∧
    ∀ probe, found = .ok probe → probe.key.isOk = true

/-- Computing the declared defaults and trying them raise nothing that is not caught. -/
def BaselineReturns (sorter : Sorter String) (package : PackageContent) : Prop :=
  ∃ defaults, declaredDefaultRisk package.inputs .empty = .ok defaults ∧
    ∀ values, defaults = some values → ∀ date, resolveCalculationDate package none = some date →
      ∃ transaction, firstTransaction package = .ok transaction ∧
        Probe.Returns sorter package ⟨values, date, transaction⟩

/-- A case is added exactly when it returns, whatever probes there are. -/
theorem addCase_isOk_iff (state : ProbeState) (case : ControlCase) :
    (addCase printed sorter package state case).isOk = true ↔
      CaseReturns printed sorter package case := by
  constructor
  · intro returns
    obtain ⟨after, added⟩ := exists_of_isOk returns
    obtain ⟨found, tried, added⟩ := bind_eq_ok added
    refine ⟨found, tried, ?_⟩
    rintro probe rfl
    obtain ⟨key, keyed, _⟩ := bind_eq_ok added
    rw [keyed]
    rfl
  · rintro ⟨found, tried, keyed⟩
    unfold addCase
    rw [tried]
    cases found with
    | error reason => rfl
    | ok probe =>
      obtain ⟨key, computed⟩ := exists_of_isOk (keyed probe rfl)
      dsimp only [bind, Except.bind]
      rw [computed]
      dsimp only
      split
      · rfl
      · obtain ⟨scenario, built⟩ := exists_of_isOk (Probe.scenario_isOk (caseProbe_tried tried)
          ("Workbook Control Case (" ++ case.caseId ++ ")") .control ["CONTROL", "CONTROL_CASE"]
          .controlCase)
        rw [built]
        rfl

/-- The baseline is added exactly when it returns. -/
theorem addBaseline_isOk_iff (state : ProbeState) :
    (addBaseline sorter package state).isOk = true ↔ BaselineReturns sorter package := by
  constructor
  · intro returns
    obtain ⟨after, added⟩ := exists_of_isOk returns
    obtain ⟨defaults, declared, added⟩ := bind_eq_ok added
    refine ⟨defaults, declared, ?_⟩
    rintro values rfl date dated
    dsimp only at added
    rw [dated] at added
    obtain ⟨transaction, first, added⟩ := bind_eq_ok added
    obtain ⟨problem, tried, added⟩ := bind_eq_ok added
    refine ⟨transaction, first, problem, tried, ?_⟩
    rintro rfl
    obtain ⟨key, keyed, _⟩ := bind_eq_ok added
    rw [keyed]
    rfl
  · rintro ⟨defaults, declared, returns⟩
    unfold addBaseline
    rw [declared]
    cases defaults with
    | none => rfl
    | some values =>
      dsimp only [bind, Except.bind]
      cases dated : resolveCalculationDate package none with
      | none => rfl
      | some date =>
        obtain ⟨transaction, first, problem, tried, keyed⟩ := returns values rfl date dated
        dsimp only
        rw [first]
        dsimp only
        rw [tried]
        cases problem with
        | some failure => rfl
        | none =>
          obtain ⟨key, computed⟩ := exists_of_isOk (keyed rfl)
          obtain ⟨scenario, built⟩ := exists_of_isOk (Probe.scenario_isOk tried
            "Baseline Control Scenario (declared defaults)" .control ["CONTROL", "BASELINE"]
            .baseline)
          dsimp only
          rw [computed]
          dsimp only
          rw [built]
          rfl

/-- The probes before the boundaries are collected exactly when every case returns and, if none is
executable, the baseline does. -/
theorem coreProbes_isOk_iff {cases : List ControlCase} :
    (coreProbes printed sorter package cases).isOk = true ↔
      (∀ case ∈ cases, CaseReturns printed sorter package case) ∧
        (controlKeys printed sorter package cases = [] → BaselineReturns sorter package) := by
  have controls : (controlProbes printed sorter package cases).isOk = true ↔
      ∀ case ∈ cases, CaseReturns printed sorter package case :=
    foldlM_isOk_iff_all addCase_isOk_iff
  have empty : ∀ state, controlProbes printed sorter package cases = .ok state →
      (state.ordered.isEmpty = true ↔ controlKeys printed sorter package cases = []) := by
    intro state collected
    have kept := controlProbes_kept collected
    rw [List.isEmpty_iff, ← List.length_eq_zero_iff, kept.probes.length_seen,
      kept.seen_perm.length_eq, List.length_eq_zero_iff]
  rw [← controls]
  constructor
  · intro returns
    obtain ⟨core, collected⟩ := exists_of_isOk returns
    obtain ⟨state, found, collected⟩ := bind_eq_ok collected
    refine ⟨by rw [found]; rfl, fun none => ?_⟩
    rw [if_pos ((empty state found).mpr none)] at collected
    exact (addBaseline_isOk_iff state).mp (by rw [collected]; rfl)
  · rintro ⟨returns, baseline⟩
    obtain ⟨state, found⟩ := exists_of_isOk returns
    unfold coreProbes
    rw [found]
    dsimp only [bind, Except.bind]
    split
    · next none => exact (addBaseline_isOk_iff state).mpr (baseline ((empty state found).mp none))
    · rfl

end Cases

section Boundaries

variable {sorter : Sorter String} {package : PackageContent} {limit : Int} {base : BasePolicy}
  {transaction : TransactionType}

/-- Candidates in the order in which they are tried. -/
def dealtCandidates (candidates : List BoundaryCandidate) : List BoundaryCandidate :=
  interleave (candidates.insertionSort fun one other => one.precedes other)

/-- The same candidates are dealt. -/
theorem mem_dealtCandidates {candidate : BoundaryCandidate} {candidates : List BoundaryCandidate} :
    candidate ∈ dealtCandidates candidates ↔ candidate ∈ candidates :=
  mem_interleave.trans (List.perm_insertionSort _ _).mem_iff

/-- As many are dealt. -/
theorem length_dealtCandidates (candidates : List BoundaryCandidate) :
    (dealtCandidates candidates).length = candidates.length :=
  (length_interleave _).trans (List.perm_insertionSort _ _).length_eq

/-- While there is room, the key of a candidate, and its trial if the key is new, raise nothing
that is not caught. -/
def CandidateReturns (sorter : Sorter String) (package : PackageContent) (limit : Int)
    (base : BasePolicy) (transaction : TransactionType) (state : ProbeState)
    (candidate : BoundaryCandidate) : Prop :=
  state.ordered.length < limit →
    ∃ key, (candidateProbe base transaction candidate).key = .ok key ∧
      (key ∉ state.seen →
        ((candidateProbe base transaction candidate).problem sorter package).isOk = true)

/-- Collecting the candidates, sorting them and trying those that are reached raise nothing that
is not caught. -/
def BoundariesReturn (sorter : Sorter String) (package : PackageContent) (limit : Int)
    (base : BasePolicy) (core : ProbeState) : Prop :=
  ∃ transaction candidates, firstTransaction package = .ok transaction ∧
    boundaryCandidates package = .ok candidates ∧
    (candidates.Pairwise fun one other => one.comparable other) ∧
    ∀ before candidate after state, dealtCandidates candidates = before ++ candidate :: after →
      before.foldlM (addBoundary sorter package limit base transaction) core = .ok state →
      CandidateReturns sorter package limit base transaction state candidate

/-- A candidate is added exactly when it returns. -/
theorem addBoundary_isOk_iff (state : ProbeState) (candidate : BoundaryCandidate) :
    (addBoundary sorter package limit base transaction state candidate).isOk = true ↔
      CandidateReturns sorter package limit base transaction state candidate := by
  unfold addBoundary CandidateReturns
  by_cases full : limit ≤ state.ordered.length
  · rw [if_pos full]
    exact ⟨fun _ room => absurd room (Int.not_lt.mpr full), fun _ => rfl⟩
  · rw [if_neg full]
    have room : (state.ordered.length : Int) < limit := Int.not_le.mp full
    constructor
    · intro returns _
      obtain ⟨after, added⟩ := exists_of_isOk returns
      obtain ⟨key, keyed, added⟩ := bind_eq_ok added
      refine ⟨key, keyed, fun fresh => ?_⟩
      rw [if_neg fun listed => fresh (List.contains_iff_mem.mp listed)] at added
      obtain ⟨problem, tried, _⟩ := bind_eq_ok added
      rw [tried]
      rfl
    · intro returns
      obtain ⟨key, keyed, tries⟩ := returns room
      dsimp only [bind, Except.bind]
      rw [keyed]
      dsimp only
      by_cases known : key ∈ state.seen
      · rw [if_pos (List.contains_iff_mem.mpr known)]
        rfl
      · rw [if_neg fun listed => known (List.contains_iff_mem.mp listed)]
        obtain ⟨problem, tried⟩ := exists_of_isOk (tries known)
        rw [tried]
        cases problem with
        | some failure => rfl
        | none =>
          obtain ⟨scenario, built⟩ := exists_of_isOk (Probe.scenario_isOk tried
            ("Boundary Probe (" ++ candidate.ref ++ ")") .boundary
            ["BOUNDARY", "VAL_" ++ candidate.value.toString, "INPUT_" ++ candidate.inputId]
            .boundary)
          dsimp only
          rw [built]
          rfl

/-- Boundary probes are added exactly when they return. -/
theorem addBoundaries_isOk_iff {core : ProbeState} :
    (addBoundaries sorter package limit base core).isOk = true ↔
      BoundariesReturn sorter package limit base core := by
  constructor
  · intro returns
    obtain ⟨after, added⟩ := exists_of_isOk returns
    obtain ⟨transaction, first, added⟩ := bind_eq_ok added
    obtain ⟨candidates, collected, added⟩ := bind_eq_ok added
    obtain ⟨sorted, ordered, added⟩ := bind_eq_ok added
    unfold sortCandidates at ordered
    split at ordered
    · next comparable =>
      rw [← Except.ok.inj ordered] at added
      refine ⟨transaction, candidates, first, collected, comparable, ?_⟩
      intro before candidate later state split ran
      refine (addBoundary_isOk_iff state candidate).mp ?_
      have folded : ((dealtCandidates candidates).foldlM
          (addBoundary sorter package limit base transaction) core).isOk = true := by
        unfold dealtCandidates
        rw [added]
        rfl
      exact foldlM_isOk_iff.mp folded before candidate later state split ran
    · cases ordered
  · rintro ⟨transaction, candidates, first, collected, comparable, returns⟩
    unfold addBoundaries
    rw [first]
    dsimp only [bind, Except.bind]
    rw [collected]
    dsimp only
    rw [sortCandidates, if_pos comparable]
    refine foldlM_isOk_iff.mpr fun before candidate later state split ran => ?_
    exact (addBoundary_isOk_iff state candidate).mpr
      (returns before candidate later state split ran)

end Boundaries

section Coverage

variable {sorter : Sorter String} {package : PackageContent} {limit : Int} {base : BasePolicy}
  {transaction : TransactionType}

/-- Key of a candidate around a base policy. -/
def candidateKey (base : BasePolicy) (transaction : TransactionType)
    (candidate : BoundaryCandidate) : Except Failure ProbeKey :=
  (candidateProbe base transaction candidate).key

/-- What trying candidates with room for all of them leaves. -/
structure Settled (base : BasePolicy) (transaction : TransactionType) (core : ProbeState)
    (tried : List BoundaryCandidate) (state : ProbeState) : Prop where
  /-- Every candidate is known by its key or skipped. -/
  covered : ∀ candidate ∈ tried, ∃ key, candidateKey base transaction candidate = .ok key ∧
    (key ∈ state.seen ∨ ∃ reason, ⟨.boundary, candidate.ref, reason⟩ ∈ state.skipped)
  /-- Every known key was known before or is that of a candidate. -/
  known : ∀ key ∈ state.seen, key ∈ core.seen ∨
    ∃ candidate ∈ tried, candidateKey base transaction candidate = .ok key
  /-- What was known is known. -/
  kept : ∀ key ∈ core.seen, key ∈ state.seen
  /-- No more probes were added than candidates tried. -/
  room : state.ordered.length ≤ core.ordered.length + tried.length

/-- One more candidate. -/
theorem Settled.step {core state after : ProbeState} {tried : List BoundaryCandidate}
    (settled : Settled base transaction core tried state) (room : state.ordered.length < limit)
    {candidate : BoundaryCandidate}
    (added : addBoundary sorter package limit base transaction state candidate = .ok after) :
    Settled base transaction core (tried ++ [candidate]) after := by
  have longer : (tried ++ [candidate]).length = tried.length + 1 := by simp
  have earlier : ∀ key, (∃ other ∈ tried, candidateKey base transaction other = .ok key) →
      ∃ other ∈ tried ++ [candidate], candidateKey base transaction other = .ok key := by
    rintro key ⟨other, member, keyed⟩
    exact ⟨other, List.mem_append_left _ member, keyed⟩
  have before := settled.room
  rcases addBoundary_spec added with ⟨full, _⟩ | ⟨key, keyed, ⟨known, rfl⟩ | ⟨_, skipped | taken⟩⟩
  · exact absurd room (Int.not_lt.mpr full)
  · refine ⟨fun other member => ?_, fun one listed => (settled.known one listed).imp_right
      (earlier one), settled.kept, by omega⟩
    rcases List.mem_append.mp member with old | last
    · exact settled.covered other old
    · rw [List.mem_singleton.mp last]
      exact ⟨key, keyed, .inl known⟩
  · obtain ⟨reason, rfl⟩ := skipped
    refine ⟨fun other member => ?_, fun one listed => (settled.known one listed).imp_right
      (earlier one), settled.kept, by dsimp only [ProbeState.skip]; omega⟩
    rcases List.mem_append.mp member with old | last
    · obtain ⟨one, own, covered⟩ := settled.covered other old
      refine ⟨one, own, covered.imp_right ?_⟩
      rintro ⟨why, listed⟩
      exact ⟨why, List.mem_append_left _ listed⟩
    · rw [List.mem_singleton.mp last]
      exact ⟨key, keyed, .inr ⟨reason, List.mem_append_right _ (List.mem_singleton_self _)⟩⟩
  · obtain ⟨scenario, _, _, _, _, rfl⟩ := taken
    refine ⟨fun other member => ?_, fun one listed => ?_,
      fun one listed => List.mem_cons_of_mem _ (settled.kept one listed), ?_⟩
    · rcases List.mem_append.mp member with old | last
      · obtain ⟨one, own, covered⟩ := settled.covered other old
        exact ⟨one, own, covered.imp_left (List.mem_cons_of_mem _)⟩
      · rw [List.mem_singleton.mp last]
        exact ⟨key, keyed, .inl List.mem_cons_self⟩
    · rcases List.mem_cons.mp listed with rfl | old
      · exact .inr ⟨candidate, List.mem_append_right _ (List.mem_singleton_self _), keyed⟩
      · exact (settled.known one old).imp_right (earlier one)
    · dsimp only [ProbeState.take]
      rw [List.length_append, List.length_singleton]
      omega

/-- All candidates. -/
theorem Settled.run {core : ProbeState} {rest tried : List BoundaryCandidate}
    {state after : ProbeState} (settled : Settled base transaction core tried state)
    (room : (core.ordered.length : Int) + (tried.length + rest.length) ≤ limit)
    (ran : rest.foldlM (addBoundary sorter package limit base transaction) state = .ok after) :
    Settled base transaction core (tried ++ rest) after := by
  induction rest generalizing tried state with
  | nil =>
    rw [List.append_nil, ← Except.ok.inj ran]
    exact settled
  | cons candidate rest ih =>
    rw [List.foldlM_cons] at ran
    obtain ⟨middle, added, ran⟩ := bind_eq_ok ran
    have before := settled.room
    rw [List.length_cons] at room
    push_cast at room
    have next := ih (settled.step (by omega) added)
      (by rw [List.length_append, List.length_singleton]; push_cast; omega) ran
    rwa [List.append_assoc] at next

/-- Adding the boundary probes with room for all candidates settles them. -/
theorem addBoundaries_settled {core state : ProbeState} {candidates : List BoundaryCandidate}
    (first : firstTransaction package = .ok transaction)
    (collected : boundaryCandidates package = .ok candidates)
    (room : (core.ordered.length : Int) + candidates.length ≤ limit)
    (added : addBoundaries sorter package limit base core = .ok state) :
    Settled base transaction core (dealtCandidates candidates) state := by
  obtain ⟨other, again, added⟩ := bind_eq_ok added
  obtain rfl := Except.ok.inj (first.symm.trans again)
  obtain ⟨others, twice, added⟩ := bind_eq_ok added
  obtain rfl := Except.ok.inj (collected.symm.trans twice)
  obtain ⟨sorted, ordered, added⟩ := bind_eq_ok added
  unfold sortCandidates at ordered
  split at ordered
  · rw [← Except.ok.inj ordered] at added
    have start : Settled base transaction core [] core :=
      ⟨fun candidate member => absurd member List.not_mem_nil, fun key listed => .inl listed,
        fun key listed => listed, Nat.le_refl _⟩
    have ran : (dealtCandidates candidates).foldlM
        (addBoundary sorter package limit base transaction) core = .ok state := added
    have result : Settled base transaction core ([] ++ dealtCandidates candidates) state := by
      refine start.run ?_ ran
      rw [length_dealtCandidates, List.length_nil]
      push_cast
      omega
    exact result
  · cases ordered

end Coverage

section Generation

variable {printed : ControlCase → String → String} {sorter : Sorter String}
  {package : PackageContent} {cases : List ControlCase} {limit : Int}

/-- Nothing that the generation calls raises what is not caught there. -/
structure CallsReturn (printed : ControlCase → String → String) (sorter : Sorter String)
    (package : PackageContent) (cases : List ControlCase) (limit : Int) : Prop where
  /-- For every control case. -/
  read : ∀ case ∈ cases, CaseReturns printed sorter package case
  /-- For the declared defaults, if no case is executable. -/
  baseline : controlKeys printed sorter package cases = [] → BaselineReturns sorter package
  /-- For the boundaries around the first probe. -/
  boundaries : ∀ core base, coreProbes printed sorter package cases = .ok core →
    core.ordered.head?.map TestScenario.base = some base →
    BoundariesReturn sorter package limit base core

/-- Probes are generated exactly when everything that is called returns. -/
theorem generatePackageProbes_isOk_iff :
    (generatePackageProbes printed sorter package cases limit).isOk = true ↔
      CallsReturn printed sorter package cases limit := by
  constructor
  · intro returns
    obtain ⟨result, generated⟩ := exists_of_isOk returns
    obtain ⟨core, collected, generated⟩ := bind_eq_ok generated
    obtain ⟨read, declared⟩ := coreProbes_isOk_iff.mp
      (show (coreProbes printed sorter package cases).isOk = true by rw [collected]; rfl)
    refine ⟨read, declared, fun other base again policy => ?_⟩
    obtain rfl := Except.ok.inj (collected.symm.trans again)
    dsimp only at generated
    rw [policy] at generated
    obtain ⟨state, added, _⟩ := bind_eq_ok generated
    exact addBoundaries_isOk_iff.mp (by rw [added]; rfl)
  · rintro ⟨read, declared, boundaries⟩
    obtain ⟨core, collected⟩ := exists_of_isOk (coreProbes_isOk_iff.mpr ⟨read, declared⟩)
    unfold generatePackageProbes
    rw [collected]
    dsimp only [bind, Except.bind]
    cases policy : core.ordered.head?.map TestScenario.base with
    | none => rfl
    | some base =>
      obtain ⟨state, added⟩ := exists_of_isOk
        (addBoundaries_isOk_iff.mpr (boundaries core base collected policy))
      dsimp only
      rw [added]
      rfl

/-- The generated probes of a known core with a base policy. -/
theorem generated_boundaries {core : ProbeState} {base : BasePolicy} {result : PackageProbeResult}
    (collected : coreProbes printed sorter package cases = .ok core)
    (policy : result.base = some base)
    (generated : generatePackageProbes printed sorter package cases limit = .ok result) :
    core.ordered.head?.map TestScenario.base = some base ∧
      ∃ state, addBoundaries sorter package limit base core = .ok state ∧
        result.scenarios = upTo limit state.ordered ∧ result.skipped = state.skipped := by
  obtain ⟨other, again, generated⟩ := bind_eq_ok generated
  obtain rfl := Except.ok.inj (collected.symm.trans again)
  dsimp only at generated
  cases found : core.ordered.head?.map TestScenario.base with
  | none =>
    rw [found] at generated
    rw [← Except.ok.inj generated] at policy
    cases policy
  | some first =>
    rw [found] at generated
    obtain ⟨state, added, generated⟩ := bind_eq_ok generated
    rw [← Except.ok.inj generated] at policy ⊢
    cases policy
    exact ⟨rfl, state, added, rfl, rfl⟩

/-- The value of a candidate appears by its key among the probes or the base policy, or a
candidate of that key is listed as skipped. -/
def Covered (base : BasePolicy) (transaction : TransactionType)
    (candidates : List BoundaryCandidate) (result : PackageProbeResult)
    (candidate : BoundaryCandidate) : Prop :=
  ∃ key, candidateKey base transaction candidate = .ok key ∧
    ((∃ scenario ∈ result.scenarios, scenario.key = .ok key) ∨
      canonicalProbeKey base.risk.probeValues base.date transaction = .ok key ∨
      ∃ other ∈ candidates, candidateKey base transaction other = .ok key ∧
        ∃ reason, ⟨.boundary, other.ref, reason⟩ ∈ result.skipped)

/-- With room for all candidates, every neighbour of every boundary value is covered. -/
def ProbesComplete (printed : ControlCase → String → String) (sorter : Sorter String)
    (package : PackageContent) (cases : List ControlCase) (limit : Int)
    (result : PackageProbeResult) : Prop :=
  ∀ core base transaction candidates, coreProbes printed sorter package cases = .ok core →
    result.base = some base → firstTransaction package = .ok transaction →
    boundaryCandidates package = .ok candidates →
    (core.ordered.length : Int) + candidates.length ≤ limit →
    ∀ point ∈ boundaryPoints package, ∀ input,
      KeyedList.lastWith (·.id) package.inputs point.inputId = some input →
    ∀ values, neighbours input point.raw = .ok values → ∀ value ∈ values,
      Covered base transaction candidates result (boundaryCandidate point value)

/-- With room for all candidates, every neighbour of a boundary value that the collection merges
into another has the key of a case or baseline, of the base policy or of a neighbour of a value
that is kept. -/
def MergesKeep (printed : ControlCase → String → String) (sorter : Sorter String)
    (package : PackageContent) (cases : List ControlCase) (limit : Int) : Prop :=
  ∀ core base transaction candidates, coreProbes printed sorter package cases = .ok core →
    core.ordered.head?.map TestScenario.base = some base →
    firstTransaction package = .ok transaction →
    boundaryCandidates package = .ok candidates →
    (core.ordered.length : Int) + candidates.length ≤ limit →
    ∀ point ∈ boundaryPoints package, point ∉ collectBoundaries package → ∀ input,
      KeyedList.lastWith (·.id) package.inputs point.inputId = some input →
    ∀ values, neighbours input point.raw = .ok values → ∀ value ∈ values,
      ∃ key, candidateKey base transaction (boundaryCandidate point value) = .ok key ∧
        ((∃ scenario ∈ core.ordered, scenario.key = .ok key) ∨
          canonicalProbeKey base.risk.probeValues base.date transaction = .ok key ∨
          ∃ other ∈ candidates, candidateKey base transaction other = .ok key)

/-- The neighbours of a kept boundary value are candidates. -/
theorem mem_boundaryCandidates {candidates : List BoundaryCandidate}
    (collected : boundaryCandidates package = .ok candidates) {point : BoundaryPoint}
    (kept : point ∈ collectBoundaries package) {input : PricingInput}
    (declared : KeyedList.lastWith (·.id) package.inputs point.inputId = some input)
    {values : List (Value × Nat)} (found : neighbours input point.raw = .ok values)
    {value : Value × Nat} (member : value ∈ values) :
    boundaryCandidate point value ∈ candidates := by
  obtain ⟨parts, traversed, flat⟩ := bind_eq_ok collected
  rw [← Except.ok.inj flat]
  have listed : point ∈ pointsByInput package :=
    (List.perm_insertionSort _ _).mem_iff.mpr kept
  obtain ⟨part, inside, ran⟩ := mapM_step traversed listed
  unfold pointCandidates at ran
  rw [declared] at ran
  dsimp only at ran
  rw [found] at ran
  obtain rfl := Except.ok.inj ran
  exact List.mem_flatten.mpr ⟨_, inside, List.mem_map.mpr ⟨value, member, rfl⟩⟩

/-- A known key is the key of a probe, and the key of a probe is known. -/
theorem ProbesDistinct.mem_seen_iff {state : ProbeState}
    (probes : ProbesDistinct sorter package state) (key : ProbeKey) :
    key ∈ state.seen ↔ ∃ scenario ∈ state.ordered, scenario.key = .ok key := by
  have mapped := probes.keyed.map_key
  constructor
  · intro listed
    exact probes.keyed.scenario_of_key (List.mem_reverse.mpr listed)
  · rintro ⟨scenario, member, keyed⟩
    have listed : Except.ok key ∈ state.seen.reverse.map (fun key => (Except.ok key : Except Failure ProbeKey)) := by
      rw [← mapped]
      exact List.mem_map.mpr ⟨scenario, member, keyed⟩
    obtain ⟨other, inside, same⟩ := List.mem_map.mp listed
    exact Except.ok.inj same ▸ List.mem_reverse.mp inside

/-- The probes are complete exactly when merged boundary values lose nothing. -/
theorem probesComplete_iff {result : PackageProbeResult}
    (generated : generatePackageProbes printed sorter package cases limit = .ok result) :
    ProbesComplete printed sorter package cases limit result ↔
      MergesKeep printed sorter package cases limit := by
  have settled : ∀ core base transaction candidates,
      coreProbes printed sorter package cases = .ok core → result.base = some base →
      firstTransaction package = .ok transaction →
      boundaryCandidates package = .ok candidates →
      (core.ordered.length : Int) + candidates.length ≤ limit →
      ∃ state, ProbesDistinct sorter package core ∧ ProbesDistinct sorter package state ∧
        Settled base transaction core (dealtCandidates candidates) state ∧
        result.scenarios = state.ordered ∧ result.skipped = state.skipped := by
    intro core base transaction candidates collected policy first found room
    obtain ⟨_, state, added, scenarios, skipped⟩ :=
      generated_boundaries collected policy generated
    have probes := (coreProbes_kept collected).probes
    have settled := addBoundaries_settled first found room added
    refine ⟨state, probes, (addBoundaries_added probes added).probes, settled, ?_, skipped⟩
    have short := settled.room
    rw [length_dealtCandidates] at short
    rw [scenarios, upTo, if_pos (by omega), List.take_of_length_le (by omega)]
  constructor
  · intro complete core base transaction candidates collected policy first found room point member
      _ input declared values near value inside
    have same : result.base = some base := by
      obtain ⟨other, again, generated⟩ := bind_eq_ok generated
      obtain rfl := Except.ok.inj (collected.symm.trans again)
      dsimp only at generated
      rw [policy] at generated
      obtain ⟨state, _, generated⟩ := bind_eq_ok generated
      rw [← Except.ok.inj generated]
    obtain ⟨state, probes, distinct, settled, scenarios, _⟩ :=
      settled core base transaction candidates collected same first found room
    obtain ⟨key, keyed, covered⟩ := complete core base transaction candidates collected same first
      found room point member input declared values near value inside
    refine ⟨key, keyed, ?_⟩
    rcases covered with probe | policy | ⟨other, listed, own, _⟩
    · rw [scenarios] at probe
      rcases settled.known key ((distinct.mem_seen_iff key).mpr probe) with before | candidate
      · exact .inl ((probes.mem_seen_iff key).mp before)
      · obtain ⟨other, listed, own⟩ := candidate
        exact .inr (.inr ⟨other, mem_dealtCandidates.mp listed, own⟩)
    · exact .inr (.inl policy)
    · exact .inr (.inr ⟨other, listed, own⟩)
  · intro merges core base transaction candidates collected policy first found room point member
      input declared values near value inside
    obtain ⟨state, probes, distinct, settled, scenarios, skipped⟩ :=
      settled core base transaction candidates collected policy first found room
    have covers : ∀ other ∈ candidates, ∀ key, candidateKey base transaction other = .ok key →
        (∃ scenario ∈ result.scenarios, scenario.key = .ok key) ∨
          ∃ other ∈ candidates, candidateKey base transaction other = .ok key ∧
            ∃ reason, ⟨.boundary, other.ref, reason⟩ ∈ result.skipped := by
      intro other listed key keyed
      obtain ⟨own, again, covered⟩ := settled.covered other (mem_dealtCandidates.mpr listed)
      obtain rfl := Except.ok.inj (keyed.symm.trans again)
      rw [scenarios, skipped]
      exact covered.imp (distinct.mem_seen_iff key).mp fun reported => ⟨other, listed, keyed, reported⟩
    by_cases kept : point ∈ collectBoundaries package
    · have candidate := mem_boundaryCandidates found kept declared near inside
      obtain ⟨key, keyed, _⟩ := settled.covered _ (mem_dealtCandidates.mpr candidate)
      exact ⟨key, keyed, (covers _ candidate key keyed).imp_right .inr⟩
    · obtain ⟨key, keyed, known⟩ := merges core base transaction candidates collected
        (generated_boundaries collected policy generated).1 first found room point member kept
        input declared values near value inside
      refine ⟨key, keyed, ?_⟩
      rcases known with before | policy | ⟨other, listed, own⟩
      · left
        rw [scenarios]
        exact (distinct.mem_seen_iff key).mp
          (settled.kept key ((probes.mem_seen_iff key).mpr before))
      · exact .inr (.inl policy)
      · exact (covers other listed key own).imp_right .inr

/-- The generation returns probes within the limit, of distinct keys, priced and complete. -/
def ProbesSound (printed : ControlCase → String → String) (sorter : Sorter String)
    (package : PackageContent) (cases : List ControlCase) (limit : Int) : Prop :=
  ∃ result, generatePackageProbes printed sorter package cases limit = .ok result ∧
    (result.scenarios.length : Int) ≤ limit ∧
    (∃ keys, KeyedBy result.scenarios keys ∧ keys.Nodup) ∧
    (∀ scenario ∈ result.scenarios, scenario.Priced sorter package) ∧
    ProbesComplete printed sorter package cases limit result

end Generation

/-- Category of two grades, one of which reads as an undefined number. -/
def gradeInput : PricingInput where
  id := "grade"
  dataType := .category
  required := true
  allowedValues := some ["A", "NaN"]
  minimum := none
  maximum := none
  ordered := Eq.refl true
  unrestricted := by simp

/-- Table of the two grades. -/
def gradeTable : RateTable where
  id := "grade_factors"
  dimensions := [⟨"grade", .exact⟩]
  rows := [⟨[.exact (.str "A")], ⟨false, 1, 0⟩, none⟩, ⟨[.exact (.str "NaN")], ⟨false, 2, 0⟩, none⟩]
  effectivePeriod := none
  requiresTotalCoverage := false
  defaultValue := none
  dimensioned := .inl rfl
  keyed := by
    intro row member
    rcases List.mem_pair.mp member with rfl | rfl
    · rfl
    · rfl

/-- The flat package with the grade as an input and a table of it. -/
def gradePackage : IPIRPackage where
  toPackageContent :=
    { flatPackage.toPackageContent with inputs := [gradeInput], tables := [gradeTable] }
  valid := by decide

end RateGuard
