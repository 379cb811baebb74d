import RateGuard.Testing.CandidateGenerator

/-!
# Test plans

The selection of a test plan: the probes of the package, and candidates aimed at its differences
that a greedy choice picks into part of the remaining room. Selected scenarios are renumbered in
place, so a scenario carries its identity from the candidates to the plan.
-/

open DecimalFloat CalendarDate TopologicalSort Outcome

namespace RateGuard

/-- `score_scenario`. -/
def scoreScenario (scenario : TestScenario) : Nat :=
  (if scenario.targetNodeIds ≠ [] then 30 else 0) +
    (if scenario.tags.contains "BOUNDARY" then 20 else 0) +
    (if scenario.tags.contains "INTERACTION" then 20 else 0) +
    (if scenario.tags.contains "TEMPORAL" then
      15 + if scenario.tags.contains "TARGETED" then 10 else 0 else 0) +
    (if scenario.tags.contains "MINIMUM_PREMIUM" || scenario.tags.contains "SEQUENCE_ORDER" then 15
      else 0) +
    if scenario.tags.contains "CONTROL" then 10 else 0

/-- A scenario with its identity among the candidates of a plan. -/
abbrev Planned := TestScenario × Nat

/-- A scenario with its score. -/
def Planned.scored (planned : Planned) : Planned :=
  ({ planned.1 with score := scoreScenario planned.1 }, planned.2)

/-- Order of the greedy choice: higher scores first, then identifiers. -/
def Planned.outranks (one other : Planned) : Bool :=
  other.1.score < one.1.score || one.1.score = other.1.score && one.1.id ≤ other.1.id

/-- What the greedy choice has covered. -/
structure Coverage where
  /-- Selected scenarios. -/
  selected : List Planned
  /-- Covered tags. -/
  tags : List String
  /-- Covered nodes. -/
  nodes : List String
  /-- Covered issue groups. -/
  groups : List String
  /-- Covered policies, by key and name. -/
  combos : List (ProbeKey × String)

/-- Whether some of the items are not covered. -/
def addsNew (items covered : List String) : Bool := items.any fun item => !covered.contains item

/-- Whether a scenario is worth selecting. -/
def Coverage.gains (coverage : Coverage) (scenario : TestScenario) : Bool :=
  addsNew scenario.targetIssueGroupIds coverage.groups ||
    addsNew scenario.targetNodeIds coverage.nodes || addsNew scenario.tags coverage.tags ||
    scenario.tags.contains "BOUNDARY" || scenario.tags.contains "CONTROL"

/-- Selects a scenario. -/
def Coverage.select (coverage : Coverage) (planned : Planned) (combo : ProbeKey × String) :
    Coverage where
  selected := coverage.selected ++ [planned]
  tags := coverage.tags ++ planned.1.tags
  nodes := coverage.nodes ++ planned.1.targetNodeIds
  groups := coverage.groups ++ planned.1.targetIssueGroupIds
  combos := combo :: coverage.combos

/-- Selects scenarios in order until there are enough. -/
def selectGreedily (limit : Nat) : List Planned → Coverage → Except Failure Coverage
  | [], coverage => .ok coverage
  | planned :: rest, coverage => do
    let combo := (← planned.1.key, planned.1.name)
    if coverage.combos.contains combo then selectGreedily limit rest coverage
    else
      let next := if coverage.gains planned.1 then coverage.select planned combo else coverage
      if limit ≤ next.selected.length then return next else selectGreedily limit rest next

/-- `optimize_test_plan`; the scenarios are numbered again by the planner. -/
def optimizeTestPlan (candidates : List Planned) (limit : Nat) : Except Failure (List Planned) := do
  let ranked := (candidates.map Planned.scored).insertionSort fun one other => one.outranks other
  return (← selectGreedily limit ranked ⟨[], [], [], [], []⟩).selected

/-- Candidates whose keys are new, one for each key. -/
def uniqueMutations : List TestScenario → List ProbeKey → Except Failure (List TestScenario)
  | [], _ => .ok []
  | candidate :: rest, seen => do
    let key ← candidate.key
    if seen.contains key then uniqueMutations rest seen
    else return candidate :: (← uniqueMutations rest (key :: seen))

/-- Plan of a test run. -/
structure PricingTestPlan where
  /-- Tested package. -/
  packageId : String
  /-- Compared packages. -/
  comparedPackageIds : List String
  /-- Differences between them. -/
  semanticDifferenceIds : List String
  /-- Selected scenarios. -/
  selectedScenarios : List TestScenario
  /-- All candidates. -/
  candidateScenarios : List TestScenario
  /-- Skipped probes. -/
  skippedProbes : List SkippedProbe

/-- Number of candidates. -/
def PricingTestPlan.candidateCount (plan : PricingTestPlan) : Nat := plan.candidateScenarios.length

/-- Number of selected scenarios. -/
def PricingTestPlan.selectedCount (plan : PricingTestPlan) : Nat := plan.selectedScenarios.length

/-- Whether nothing could be selected. -/
def PricingTestPlan.noExecutableProbe (plan : PricingTestPlan) : Bool := plan.selectedScenarios.isEmpty

/-- Whether a probe always runs. -/
def isCore (planned : Planned) : Bool :=
  planned.1.origin = .controlCase || planned.1.origin = .baseline

/-- Whether a probe is of a boundary. -/
def isBoundary (planned : Planned) : Bool := planned.1.origin = .boundary

/-- Room beside the probes that always run. -/
def planSlots (maxScenarios : Int) (core : List Planned) : Nat :=
  (maxScenarios - core.length).toNat

/-- Room for candidates aimed at differences: half of the slots, at least one. -/
def mutationQuota (mutations : List Planned) (slots : Nat) : Nat :=
  if mutations ≠ [] ∧ slots ≠ 0 then min mutations.length (max 1 (slots / 2)) else 0

/-- Candidates chosen into their quota. -/
def chooseMutations (mutations : List Planned) (quota : Nat) : Except Failure (List Planned) :=
  if quota ≠ 0 then optimizeTestPlan mutations quota else .ok []

/-- Candidates as the choice leaves them: scored, if there is a quota. -/
def scoreMutations (mutations : List Planned) (quota : Nat) : List Planned :=
  if quota ≠ 0 then mutations.map Planned.scored else mutations

/-- Scenarios numbered from one, with their identities. -/
def renumber (selected : List Planned) : List Planned :=
  (selected.zipIdx 1).map fun planned =>
    ({ planned.1.1 with id := "RG-" ++ String.ofList (padded 3 planned.2) }, planned.1.2)

/-- A candidate as the selection leaves it: renumbered if it was selected. -/
def settle (numbered : List Planned) (planned : Planned) : TestScenario :=
  ((numbered.find? (·.2 = planned.2)).getD planned).1

/-- Candidates of a plan, in two parts: probes of the package and new candidates aimed at its
differences. Identities count through both. -/
structure PlanCandidates where
  /-- Probes of the package. -/
  probes : List Planned
  /-- Candidates aimed at differences. -/
  mutations : List Planned

/-- What a plan selects of its candidates. -/
structure PlanSelection where
  /-- Probes that always run. -/
  core : List Planned
  /-- Chosen boundary probes. -/
  boundary : List Planned
  /-- Chosen candidates aimed at differences. -/
  mutations : List Planned
  /-- All candidates aimed at differences, as the choice leaves them. -/
  remaining : List Planned

/-- Selected scenarios in order. -/
def PlanSelection.all (selection : PlanSelection) : List Planned :=
  selection.core ++ selection.boundary ++ selection.mutations

/-- Candidates of a plan from its two sources. -/
def planCandidates (probes unique : List TestScenario) : PlanCandidates where
  probes := probes.zipIdx
  mutations := unique.zipIdx probes.length

/-- Chooses among the candidates of a plan. -/
def selectPlan (candidates : PlanCandidates) (maxScenarios : Int) :
    Except Failure PlanSelection := do
  let core := candidates.probes.filter isCore
  let slots := planSlots maxScenarios core
  let quota := mutationQuota candidates.mutations slots
  let chosen ← chooseMutations candidates.mutations quota
  return ⟨core, (candidates.probes.filter isBoundary).take (slots - chosen.length), chosen,
    scoreMutations candidates.mutations quota⟩

/-- Candidates aimed at differences, if there is a base policy to vary. -/
def mutationCandidates (description : SemanticDifference → String)
    (diffResult : SemanticDiffResult) (predicates : List ImpactPredicate)
    (package : PackageContent) (probes : PackageProbeResult) :
    Except Failure (List TestScenario) :=
  match probes.base with
  | some base =>
    generateCandidateScenarios description diffResult predicates package (some base.risk)
      (some base.date)
  | none => .ok []

/-- `PricingTestPlanner.generate_plan`. -/
def generatePlan (printed : ControlCase → String → String)
    (description : SemanticDifference → String) (sorter : Sorter String)
    (package : PackageContent) (diffResult : SemanticDiffResult)
    (predicates : List ImpactPredicate) (cases : List ControlCase) (maxScenarios : Int) :
    Except Failure PricingTestPlan := do
  let probes ← generatePackageProbes printed sorter package cases maxScenarios
  let mutations ← mutationCandidates description diffResult predicates package probes
  let unique ← uniqueMutations mutations (← probes.scenarios.mapM (·.key))
  let candidates := planCandidates probes.scenarios unique
  let selection ← selectPlan candidates maxScenarios
  let numbered := renumber selection.all
  return {
    packageId := package.id
    comparedPackageIds := [diffResult.leftPackageId, diffResult.rightPackageId]
    semanticDifferenceIds := diffResult.differences.map (·.id)
    selectedScenarios := numbered.map Prod.fst
    candidateScenarios := (candidates.probes ++ selection.remaining).map (settle numbered)
    skippedProbes := probes.skipped }

end RateGuard
