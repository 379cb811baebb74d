import RateGuard.Testing.PackageProbes

/-!
# Bounds of package probes

What the probes of a package keep: their keys are known and distinct, the control cases come
first, a baseline stands in for them only when none is executable, and boundary probes follow.
-/

open DecimalFloat CalendarDate TopologicalSort Outcome

namespace RateGuard

/-- Scenarios and their keys, in order. -/
abbrev KeyedBy : List TestScenario → List ProbeKey → Prop :=
  List.Forall₂ fun scenario key => scenario.key = .ok key

/-- Keys in order are the keys of the scenarios. -/
theorem KeyedBy.map_key {scenarios : List TestScenario} {keys : List ProbeKey}
    (keyed : KeyedBy scenarios keys) : scenarios.map (·.key) = keys.map Except.ok := by
  induction keyed with
  | nil => rfl
  | cons one _ ih => rw [List.map_cons, List.map_cons, one, ih]

/-- A known key is the key of a probe. -/
theorem KeyedBy.scenario_of_key {scenarios : List TestScenario} {keys : List ProbeKey}
    (keyed : KeyedBy scenarios keys) {key : ProbeKey} (listed : key ∈ keys) :
    ∃ scenario ∈ scenarios, scenario.key = .ok key := by
  have mapped : Except.ok key ∈ scenarios.map (·.key) := by
    rw [keyed.map_key]
    exact List.mem_map.mpr ⟨key, listed, rfl⟩
  exact List.mem_map.mp mapped

/-- The oracle prices a scenario. -/
def TestScenario.Priced (sorter : Sorter String) (package : PackageContent)
    (scenario : TestScenario) : Prop :=
  (evaluatePackage sorter package scenario.riskValues scenario.effectiveDate
    scenario.transactionType false).isOk = true

/-- The probes are priced, and their keys are known and distinct. -/
structure ProbesDistinct (sorter : Sorter String) (package : PackageContent)
    (state : ProbeState) : Prop where
  /-- The known keys are those of the probes, the last first. -/
  keyed : KeyedBy state.ordered state.seen.reverse
  /-- They are distinct. -/
  distinct : state.seen.Nodup
  /-- Every probe is priced. -/
  priced : ∀ scenario ∈ state.ordered, scenario.Priced sorter package

section Distinct

variable {sorter : Sorter String} {package : PackageContent}

/-- Taking a priced probe of a new key keeps the keys distinct. -/
theorem ProbesDistinct.take {state : ProbeState} (probes : ProbesDistinct sorter package state)
    {key : ProbeKey} {scenario : TestScenario} (keyed : scenario.key = .ok key)
    (fresh : key ∉ state.seen) (priced : scenario.Priced sorter package) :
    ProbesDistinct sorter package (state.take key scenario) := by
  refine ⟨?_, List.nodup_cons.mpr ⟨fresh, probes.distinct⟩, fun other member => ?_⟩
  · dsimp only [ProbeState.take]
    rw [List.reverse_cons]
    exact List.rel_append probes.keyed (.cons keyed .nil)
  · cases List.mem_append.mp member with
    | inl earlier => exact probes.priced other earlier
    | inr last => exact List.mem_singleton.mp last ▸ priced

/-- The distinct keys depend on the probes and the known keys alone. -/
theorem ProbesDistinct.congr {state other : ProbeState}
    (probes : ProbesDistinct sorter package state) (ordered : other.ordered = state.ordered)
    (seen : other.seen = state.seen) : ProbesDistinct sorter package other := by
  obtain ⟨keyed, distinct, priced⟩ := probes
  refine ⟨?_, seen ▸ distinct, ordered ▸ priced⟩
  rw [ordered, seen]
  exact keyed

/-- Without probes no key is known. -/
theorem ProbesDistinct.seen_nil {state : ProbeState}
    (probes : ProbesDistinct sorter package state) (none : state.ordered = []) : state.seen = [] := by
  have keyed := probes.keyed
  rw [none] at keyed
  cases reversed : state.seen.reverse with
  | nil => exact List.reverse_eq_nil_iff.mp reversed
  | cons key rest =>
    rw [reversed] at keyed
    cases keyed

/-- Probes are as many as the keys. -/
theorem ProbesDistinct.length_seen {state : ProbeState} 
    (probes : ProbesDistinct sorter package state) :
    state.ordered.length = state.seen.length := by
  rw [probes.keyed.length_eq, List.length_reverse]

end Distinct

/-- The scenario of a probe has its key and its origin. -/
theorem Probe.scenario_spec {probe : Probe} {name : String}
    {classification : ScenarioClassification} {tags : List String} {origin : ProbeOrigin}
    {scenario : TestScenario}
    (built : probe.scenario name classification tags origin = .ok scenario) :
    scenario.key = probe.key ∧ scenario.origin = origin ∧ scenario.id = "RG_PKG_TMP" := by
  obtain ⟨risk, accepted, built⟩ := bind_eq_ok built
  rw [← Except.ok.inj built]
  refine ⟨?_, rfl, rfl⟩
  unfold PricingTestScenario.key Probe.key
  dsimp only
  rw [ProbeValues.risk_probeValues accepted]

/-- The scenario of a probe without a problem is priced. -/
theorem Probe.scenario_priced {sorter : Sorter String} {package : PackageContent} {probe : Probe}
    (tried : probe.problem sorter package = .ok none) {name : String}
    {classification : ScenarioClassification} {tags : List String} {origin : ProbeOrigin}
    {scenario : TestScenario}
    (built : probe.scenario name classification tags origin = .ok scenario) :
    scenario.Priced sorter package := by
  obtain ⟨risk, accepted, built⟩ := bind_eq_ok built
  rw [← Except.ok.inj built]
  unfold Probe.problem executable at tried
  rw [accepted] at tried
  unfold TestScenario.Priced
  dsimp only
  cases run : evaluatePackage sorter package risk probe.date probe.transaction false with
  | ok result => rfl
  | error failure =>
    dsimp only [bind, Except.bind] at tried
    rw [run] at tried
    dsimp only at tried
    split at tried
    · cases Except.ok.inj tried
    · cases tried

section Cases

variable {printed : ControlCase → String → String} {sorter : Sorter String}
  {package : PackageContent}

/-- Key of a control case that becomes a probe. -/
def caseKey (printed : ControlCase → String → String) (sorter : Sorter String)
    (package : PackageContent) (case : ControlCase) : Option ProbeKey :=
  match caseProbe printed sorter package case with
  | .ok (.ok probe) => probe.key.toOption
  | _ => none

/-- Keys of the executable control cases, each once. -/
def controlKeys (printed : ControlCase → String → String) (sorter : Sorter String)
    (package : PackageContent) (cases : List ControlCase) : List ProbeKey :=
  (cases.filterMap (caseKey printed sorter package)).dedup

/-- The probe of a case has no problem. -/
theorem caseProbe_tried {case : ControlCase} {probe : Probe}
    (found : caseProbe printed sorter package case = .ok (.ok probe)) :
    probe.problem sorter package = .ok none := by
  unfold caseProbe at found
  cases dated : resolveCalculationDate package (case.input "effective_date") with
  | none =>
    rw [dated] at found
    cases found
  | some date =>
    rw [dated] at found
    obtain ⟨named, _, found⟩ := bind_eq_ok found
    cases named with
    | none => cases found
    | some transaction =>
      obtain ⟨typed, _, found⟩ := bind_eq_ok found
      cases typed with
      | error reason => cases found
      | ok values =>
        dsimp only at found
        split at found
        · cases found
        · obtain ⟨problem, tried, found⟩ := bind_eq_ok found
          cases problem with
          | some failure => cases found
          | none =>
            obtain rfl := Except.ok.inj (Except.ok.inj found)
            exact tried

/-- A case is skipped, known already, or taken under its key. -/
theorem addCase_spec {state after : ProbeState} {case : ControlCase}
    (added : addCase printed sorter package state case = .ok after) :
    (caseKey printed sorter package case = none ∧ after.ordered = state.ordered ∧
      after.seen = state.seen) ∨
    ∃ key, caseKey printed sorter package case = some key ∧
      ((key ∈ state.seen ∧ after = state) ∨
        (key ∉ state.seen ∧ ∃ scenario, scenario.key = .ok key ∧
          scenario.origin = .controlCase ∧ scenario.Priced sorter package ∧
          after = state.take key scenario)) := by
  unfold caseKey
  obtain ⟨found, tried, added⟩ := bind_eq_ok added
  rw [tried]
  cases found with
  | error reason =>
    rw [← Except.ok.inj added]
    exact .inl ⟨rfl, rfl, rfl⟩
  | ok probe =>
    obtain ⟨key, keyed, added⟩ := bind_eq_ok added
    refine .inr ⟨key, by dsimp only; rw [keyed]; rfl, ?_⟩
    by_cases known : key ∈ state.seen
    · rw [if_pos (List.contains_iff_mem.mpr known)] at added
      exact .inl ⟨known, (Except.ok.inj added).symm⟩
    · rw [if_neg fun listed => known (List.contains_iff_mem.mp listed)] at added
      obtain ⟨scenario, built, added⟩ := bind_eq_ok added
      obtain ⟨same, origin, _⟩ := Probe.scenario_spec built
      exact .inr ⟨known, scenario, same.trans keyed, origin,
        Probe.scenario_priced (caseProbe_tried tried) built, (Except.ok.inj added).symm⟩

/-- What the control cases leave: their keys, distinct, and probes of control cases only. -/
structure ControlsKept (printed : ControlCase → String → String) (sorter : Sorter String)
    (package : PackageContent) (cases : List ControlCase) (state : ProbeState) : Prop where
  /-- The keys are those of the probes and distinct. -/
  probes : ProbesDistinct sorter package state
  /-- The keys are those of the executable cases. -/
  keys : ∀ key, key ∈ state.seen ↔ key ∈ cases.filterMap (caseKey printed sorter package)
  /-- Every probe is of a control case. -/
  origins : ∀ scenario ∈ state.ordered, scenario.origin = .controlCase

/-- One more case. -/
theorem ControlsKept.step {cases : List ControlCase} {state after : ProbeState}
    (kept : ControlsKept printed sorter package cases state) {case : ControlCase}
    (added : addCase printed sorter package state case = .ok after) :
    ControlsKept printed sorter package (cases ++ [case]) after := by
  rcases addCase_spec added with ⟨keyless, ordered, seen⟩ | ⟨key, keyed, known | taken⟩
  · refine ⟨kept.probes.congr ordered seen, fun key => ?_, ordered ▸ kept.origins⟩
    rw [seen, kept.keys, List.filterMap_append, List.filterMap_cons, keyless]
    simp
  · obtain ⟨known, rfl⟩ := known
    refine ⟨kept.probes, fun other => ?_, kept.origins⟩
    rw [kept.keys, List.filterMap_append, List.filterMap_cons, keyed]
    simp only [List.filterMap_nil, List.mem_append, List.mem_singleton]
    refine ⟨.inl, ?_⟩
    rintro (listed | rfl)
    · exact listed
    · exact (kept.keys _).mp known
  · obtain ⟨fresh, scenario, same, origin, priced, rfl⟩ := taken
    refine ⟨kept.probes.take same fresh priced, fun other => ?_, fun other member => ?_⟩
    · rw [List.filterMap_append, List.filterMap_cons, keyed]
      simp only [ProbeState.take, List.filterMap_nil, List.mem_cons, List.mem_append,
        List.not_mem_nil, or_false, kept.keys]
      exact or_comm
    · cases List.mem_append.mp member with
      | inl earlier => exact kept.origins other earlier
      | inr last => exact List.mem_singleton.mp last ▸ origin

/-- The keys of the control cases are those of their probes, and as many. -/
theorem ControlsKept.seen_perm {cases : List ControlCase} {state : ProbeState}
    (kept : ControlsKept printed sorter package cases state) :
    state.seen.Perm (controlKeys printed sorter package cases) := by
  refine (List.perm_ext_iff_of_nodup kept.probes.distinct (List.nodup_dedup _)).mpr fun key => ?_
  rw [kept.keys key, List.mem_dedup]

/-- All cases. -/
theorem controlProbes_kept {cases : List ControlCase} {state : ProbeState}
    (collected : controlProbes printed sorter package cases = .ok state) :
    ControlsKept printed sorter package cases state := by
  have general : ∀ (rest done : List ControlCase) (start : ProbeState),
      ControlsKept printed sorter package done start →
      rest.foldlM (addCase printed sorter package) start = .ok state →
      ControlsKept printed sorter package (done ++ rest) state := by
    intro rest
    induction rest with
    | nil =>
      intro done start kept ended
      rw [List.append_nil, ← Except.ok.inj ended]
      exact kept
    | cons case rest ih =>
      intro done start kept ran
      rw [List.foldlM_cons] at ran
      obtain ⟨middle, added, ran⟩ := bind_eq_ok ran
      have result := ih (done ++ [case]) middle (kept.step added) ran
      rwa [List.append_assoc] at result
  refine general cases [] ⟨[], [], []⟩ ⟨⟨.nil, List.nodup_nil, ?_⟩, fun key => ?_, ?_⟩ collected
  · intro scenario member
    cases member
  · exact Iff.rfl
  · intro scenario member
    cases member

/-- A baseline is skipped or taken under its key. -/
theorem addBaseline_spec {state after : ProbeState}
    (added : addBaseline sorter package state = .ok after) :
    (after.ordered = state.ordered ∧ after.seen = state.seen) ∨
      ∃ key scenario, scenario.key = .ok key ∧ scenario.origin = .baseline ∧
        scenario.Priced sorter package ∧ after = state.take key scenario := by
  obtain ⟨defaults, _, added⟩ := bind_eq_ok added
  cases defaults with
  | none =>
    rw [← Except.ok.inj added]
    exact .inl ⟨rfl, rfl⟩
  | some values =>
    dsimp only at added
    split at added
    · rw [← Except.ok.inj added]
      exact .inl ⟨rfl, rfl⟩
    · obtain ⟨transaction, _, added⟩ := bind_eq_ok added
      obtain ⟨problem, tried, added⟩ := bind_eq_ok added
      cases problem with
      | some failure =>
        rw [← Except.ok.inj added]
        exact .inl ⟨rfl, rfl⟩
      | none =>
        obtain ⟨key, keyed, added⟩ := bind_eq_ok added
        obtain ⟨scenario, built, added⟩ := bind_eq_ok added
        obtain ⟨same, origin, _⟩ := Probe.scenario_spec built
        exact .inr ⟨key, scenario, same.trans keyed, origin,
          Probe.scenario_priced tried built, (Except.ok.inj added).symm⟩

/-- What the probes before the boundaries are: the control cases, or at most a baseline when no
case is executable. -/
structure CoreKept (printed : ControlCase → String → String) (sorter : Sorter String)
    (package : PackageContent) (cases : List ControlCase) (state : ProbeState) : Prop where
  /-- The keys are those of the probes and distinct. -/
  probes : ProbesDistinct sorter package state
  /-- The control cases, or a baseline. -/
  kinds : ControlsKept printed sorter package cases state ∨
    (controlKeys printed sorter package cases = [] ∧
      ∀ scenario ∈ state.ordered, scenario.origin = .baseline)

/-- The probes before the boundaries. -/
theorem coreProbes_kept {cases : List ControlCase} {state : ProbeState}
    (collected : coreProbes printed sorter package cases = .ok state) :
    CoreKept printed sorter package cases state := by
  obtain ⟨controls, found, collected⟩ := bind_eq_ok collected
  have kept := controlProbes_kept found
  by_cases empty : controls.ordered = []
  · rw [if_pos (List.isEmpty_iff.mpr empty)] at collected
    have unseen := kept.probes.seen_nil empty
    have keyless : controlKeys printed sorter package cases = [] := by
      unfold controlKeys
      refine List.eq_nil_iff_forall_not_mem.mpr fun key member => ?_
      have seen := (kept.keys key).mpr (List.mem_dedup.mp member)
      rw [unseen] at seen
      cases seen
    rcases addBaseline_spec collected with
      ⟨ordered, seen⟩ | ⟨key, scenario, keyed, origin, priced, rfl⟩
    · refine ⟨kept.probes.congr ordered seen, .inr ⟨keyless, fun scenario member => ?_⟩⟩
      rw [ordered, empty] at member
      cases member
    · refine ⟨kept.probes.take keyed (by rw [unseen]; exact List.not_mem_nil) priced,
        .inr ⟨keyless, fun other member => ?_⟩⟩
      dsimp only [ProbeState.take] at member
      rw [empty, List.nil_append] at member
      exact List.mem_singleton.mp member ▸ origin
  · rw [if_neg fun none => empty (List.isEmpty_iff.mp none)] at collected
    rw [← Except.ok.inj collected]
    exact ⟨kept.probes, .inl kept⟩

end Cases

/-- A boundary candidate finds no room, or is known already, skipped, or taken under its key. -/
theorem addBoundary_spec {sorter : Sorter String} {package : PackageContent} {limit : Int}
    {base : BasePolicy} {transaction : TransactionType} {state after : ProbeState}
    {candidate : BoundaryCandidate}
    (added : addBoundary sorter package limit base transaction state candidate = .ok after) :
    (limit ≤ state.ordered.length ∧ after = state) ∨
      ∃ key, (candidateProbe base transaction candidate).key = .ok key ∧
        ((key ∈ state.seen ∧ after = state) ∨
          (key ∉ state.seen ∧
            ((∃ reason, after = state.skip .boundary candidate.ref reason) ∨
              ∃ scenario, scenario.key = .ok key ∧ scenario.origin = .boundary ∧
                scenario.id = "RG_PKG_TMP" ∧ scenario.Priced sorter package ∧
                after = state.take key scenario))) := by
  unfold addBoundary at added
  by_cases full : limit ≤ state.ordered.length
  · rw [if_pos full] at added
    exact .inl ⟨full, (Except.ok.inj added).symm⟩
  · rw [if_neg full] at added
    obtain ⟨key, keyed, added⟩ := bind_eq_ok added
    refine .inr ⟨key, keyed, ?_⟩
    by_cases known : key ∈ state.seen
    · rw [if_pos (List.contains_iff_mem.mpr known)] at added
      exact .inl ⟨known, (Except.ok.inj added).symm⟩
    · rw [if_neg fun listed => known (List.contains_iff_mem.mp listed)] at added
      obtain ⟨problem, tried, added⟩ := bind_eq_ok added
      refine .inr ⟨known, ?_⟩
      cases problem with
      | some failure => exact .inl ⟨_, (Except.ok.inj added).symm⟩
      | none =>
        obtain ⟨scenario, built, added⟩ := bind_eq_ok added
        obtain ⟨same, origin, named⟩ := Probe.scenario_spec built
        exact .inr ⟨scenario, same.trans keyed, origin, named,
          Probe.scenario_priced tried built, (Except.ok.inj added).symm⟩

/-- What adding boundary probes leaves: distinct keys, and after the probes that were there only
probes of boundaries. -/
structure BoundariesAdded (sorter : Sorter String) (package : PackageContent)
    (before after : ProbeState) : Prop where
  /-- The probes are priced and their keys distinct. -/
  probes : ProbesDistinct sorter package after
  /-- What was added. -/
  added : ∃ extra, after.ordered = before.ordered ++ extra ∧
    ∀ scenario ∈ extra, scenario.origin = .boundary ∧ scenario.id = "RG_PKG_TMP"

/-- One more candidate. -/
theorem addBoundary_added {sorter : Sorter String} {package : PackageContent} {limit : Int}
    {base : BasePolicy} {transaction : TransactionType} {before state after : ProbeState}
    {candidate : BoundaryCandidate} (so_far : BoundariesAdded sorter package before state)
    (added : addBoundary sorter package limit base transaction state candidate = .ok after) :
    BoundariesAdded sorter package before after := by
  rcases addBoundary_spec added with ⟨_, rfl⟩ | ⟨key, _, ⟨_, rfl⟩ | ⟨fresh, skipped | taken⟩⟩
  · exact so_far
  · exact so_far
  · obtain ⟨reason, rfl⟩ := skipped
    exact ⟨so_far.probes.congr rfl rfl, so_far.added⟩
  · obtain ⟨scenario, keyed, origin, named, priced, rfl⟩ := taken
    obtain ⟨extra, ordered, origins⟩ := so_far.added
    refine ⟨so_far.probes.take keyed fresh priced, extra ++ [scenario], ?_, fun other member => ?_⟩
    · dsimp only [ProbeState.take]
      rw [ordered, List.append_assoc]
    · cases List.mem_append.mp member with
      | inl earlier => exact origins other earlier
      | inr last => exact List.mem_singleton.mp last ▸ ⟨origin, named⟩

/-- Boundary probes only follow. -/
theorem addBoundaries_added {sorter : Sorter String} {package : PackageContent} {limit : Int}
    {base : BasePolicy} {before after : ProbeState}
    (probes : ProbesDistinct sorter package before)
    (added : addBoundaries sorter package limit base before = .ok after) :
    BoundariesAdded sorter package before after := by
  obtain ⟨transaction, _, added⟩ := bind_eq_ok added
  obtain ⟨candidates, _, added⟩ := bind_eq_ok added
  obtain ⟨sorted, _, added⟩ := bind_eq_ok added
  refine foldlM_keeps (BoundariesAdded sorter package before)
    (fun state candidate next _ so_far one => addBoundary_added so_far one)
    ⟨probes, [], (List.append_nil _).symm, ?_⟩ added
  intro scenario member
  cases member

/-- What the generated probes are: as many as the limit allows of the control cases, or at most a
baseline, and then of boundaries. -/
structure ProbesKept (printed : ControlCase → String → String) (sorter : Sorter String)
    (package : PackageContent) (cases : List ControlCase) (limit : Int)
    (result : PackageProbeResult) : Prop where
  /-- The probes before the limit, and which of them are of boundaries. -/
  parts : ∃ core extra, result.scenarios = upTo limit (core.ordered ++ extra) ∧
    CoreKept printed sorter package cases core ∧
    ∀ scenario ∈ extra, scenario.origin = .boundary ∧ scenario.id = "RG_PKG_TMP"
  /-- Their keys are distinct. -/
  distinct : ∃ keys, KeyedBy result.scenarios keys ∧ keys.Nodup
  /-- They are priced. -/
  priced : ∀ scenario ∈ result.scenarios, scenario.Priced sorter package

/-- A part of a keyed list is keyed by a part of the keys. -/
theorem KeyedBy.sublist {scenarios part : List TestScenario} {keys : List ProbeKey}
    (keyed : KeyedBy scenarios keys) (sublist : part.Sublist scenarios) :
    ∃ others, KeyedBy part others ∧ others.Sublist keys := by
  induction keyed generalizing part with
  | nil =>
    rw [List.sublist_nil.mp sublist]
    exact ⟨[], .nil, .slnil⟩
  | @cons scenario key rest keys one _ ih =>
    cases sublist with
    | cons _ later =>
      obtain ⟨others, keyed, smaller⟩ := ih later
      exact ⟨others, keyed, smaller.cons key⟩
    | cons_cons _ later =>
      obtain ⟨others, keyed, smaller⟩ := ih later
      exact ⟨key :: others, .cons one keyed, smaller.cons_cons key⟩

/-- A limited list is a part. -/
theorem upTo_sublist {α : Type} (limit : Int) (values : List α) :
    (upTo limit values).Sublist values := by
  unfold upTo
  split
  · exact List.take_sublist _ _
  · exact List.take_sublist _ _

/-- The generated probes. -/
theorem generatePackageProbes_kept {printed : ControlCase → String → String}
    {sorter : Sorter String} {package : PackageContent} {cases : List ControlCase} {limit : Int}
    {result : PackageProbeResult}
    (generated : generatePackageProbes printed sorter package cases limit = .ok result) :
    ProbesKept printed sorter package cases limit result := by
  obtain ⟨core, collected, generated⟩ := bind_eq_ok generated
  have kept := coreProbes_kept collected
  have finished : ∃ state, BoundariesAdded sorter package core state ∧
      result.scenarios = upTo limit state.ordered := by
    dsimp only at generated
    cases base : core.ordered.head?.map TestScenario.base with
    | none =>
      rw [base] at generated
      refine ⟨core, ⟨kept.probes, [], (List.append_nil _).symm, fun scenario member => ?_⟩, ?_⟩
      · cases member
      · rw [← Except.ok.inj generated]
    | some policy =>
      rw [base] at generated
      obtain ⟨state, stepped, generated⟩ := bind_eq_ok generated
      refine ⟨state, addBoundaries_added kept.probes stepped, ?_⟩
      rw [← Except.ok.inj generated]
  obtain ⟨state, added, limited⟩ := finished
  obtain ⟨extra, ordered, origins⟩ := added.added
  obtain ⟨keys, keyed, sublist⟩ := added.probes.keyed.sublist (upTo_sublist limit state.ordered)
  refine ⟨⟨core, extra, by rw [limited, ordered], kept, origins⟩,
    ⟨keys, limited ▸ keyed, sublist.nodup (List.nodup_reverse.mpr added.probes.distinct)⟩,
    fun scenario member => ?_⟩
  rw [limited] at member
  exact added.probes.priced scenario ((upTo_sublist limit state.ordered).subset member)

end RateGuard
