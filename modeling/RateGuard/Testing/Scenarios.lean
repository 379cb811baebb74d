import RateGuard.Testing.KeyCongruence
import RateGuard.Ingestion.ControlCases

/-!
# Test scenarios

Scenarios of a test plan with what the selection reads of them, the values they are built from,
and whether the oracle can price them.
-/

open DecimalFloat CalendarDate TopologicalSort Outcome

namespace RateGuard

/-- Intent of a scenario. -/
inductive ScenarioClassification where
  | control | boundary | singleDefect | multiDefect | temporal | interaction | constraintOrder
  deriving DecidableEq, Repr

/-- Where a probe comes from. -/
inductive ProbeOrigin where
  | controlCase | baseline | boundary | mutation
  deriving DecidableEq, Repr

/-- Risk-directed scenario of a test plan. -/
structure TestScenario extends PricingTestScenario where
  /-- Name of the scenario. -/
  name : String
  /-- Its intent. -/
  classification : ScenarioClassification
  /-- Differences it targets. -/
  targetDifferenceIds : List String
  /-- Issue groups it targets. -/
  targetIssueGroupIds : List String
  /-- Nodes it targets. -/
  targetNodeIds : List String
  /-- Tags. -/
  tags : List String
  /-- Quality score. -/
  score : Nat
  /-- Where it comes from. -/
  origin : ProbeOrigin

/-- Value the risk schema accepts; a decimal must be finite. -/
def Value.riskValue : Value → Option RiskValue
  | int value => some (.literal (.int value))
  | decimal value =>
    match value with
    | .finite negative coefficient exponent =>
      some (.literal (.decimal ⟨negative, coefficient, exponent⟩))
    | .infinity _ | .nan _ => none
  | str value => some (.literal (.str value))
  | bool value => some (.literal (.bool value))
  | date value => some (.date value)

/-- Entry the risk schema accepts. -/
def acceptEntry (entry : String × Value) : Option (String × RiskValue) :=
  entry.2.riskValue.map fun value => (entry.1, value)

/-- Risk of probe values; the schema accepts all of them or fails. -/
def ProbeValues.risk (values : ProbeValues) : Except Failure RiskInput :=
  match read : values.entries.mapM acceptEntry with
  | some entries => .ok ⟨entries, by
      have kept : entries.map Prod.fst = values.entries.map Prod.fst := by
        refine mapM_keys Prod.fst Prod.fst (fun entry result found => ?_) read
        obtain ⟨value, _, same⟩ := Option.map_eq_some_iff.mp found
        exact congrArg Prod.fst same.symm
      rw [kept]
      exact values.distinct⟩
  | none => .error (.schema "values")

/-- No probe values. -/
def ProbeValues.empty : ProbeValues := ⟨[], List.nodup_nil⟩

/-- Entries with one more assignment; a known identifier keeps its place. -/
def assignEntry (entries : List (String × Value)) (id : String) (value : Value) :
    List (String × Value) :=
  if id ∈ entries.map Prod.fst then
    entries.map fun entry => if entry.1 = id then (id, value) else entry
  else entries ++ [(id, value)]

/-- An assignment keeps identifiers distinct. -/
theorem assignEntry_distinct {entries : List (String × Value)}
    (distinct : (entries.map Prod.fst).Nodup) (id : String) (value : Value) :
    ((assignEntry entries id value).map Prod.fst).Nodup := by
  unfold assignEntry
  by_cases known : id ∈ entries.map Prod.fst
  · rw [if_pos known, List.map_map]
    have same : (Prod.fst ∘ fun entry : String × Value =>
        if entry.1 = id then (id, value) else entry) = Prod.fst := by
      funext entry
      by_cases named : entry.1 = id
      · simp [named]
      · simp [named]
    rw [same]
    exact distinct
  · rw [if_neg known, List.map_append]
    refine List.nodup_append.mpr ⟨distinct, List.nodup_singleton _, ?_⟩
    rintro other listed _ added rfl
    rw [List.mem_singleton.mp added] at listed
    exact known listed

/-- Assigns a probe value. -/
def ProbeValues.set (values : ProbeValues) (id : String) (value : Value) : ProbeValues where
  entries := assignEntry values.entries id value
  distinct := assignEntry_distinct values.distinct id value

/-- Whether a failure is caught where the executability of a probe is tried. -/
def Failure.isCaught : Failure → Bool
  | oracle _ | valueError | schema _ => true
  | decimal _ | typeError | overflowError | indexError | keyError _ | cyclicDependencies
  | calculationDate .. => false

/-- Failure that makes a probe not executable; other failures escape. -/
def executable (sorter : Sorter String) (package : PackageContent) (values : ProbeValues)
    (date : Date) (transaction : TransactionType) : Except Failure (Option Failure) :=
  match values.risk >>= fun risk =>
    evaluatePackage sorter package risk date transaction false with
  | .ok _ => .ok none
  | .error failure => if failure.isCaught then .ok (some failure) else .error failure

/-- First supported transaction. -/
def firstTransaction (package : PackageContent) : Except Failure TransactionType :=
  match package.transactionTypes with
  | transaction :: _ => .ok transaction
  | [] => .error .indexError

/-- Accepted values are read back as they were. -/
theorem Value.riskValue_toValue {value : Value} {accepted : RiskValue}
    (accepts : value.riskValue = some accepted) : accepted.toValue = value := by
  cases value with
  | decimal number =>
    cases number with
    | finite negative coefficient exponent =>
      rw [← Option.some.inj accepts]
      rfl
    | infinity negative => cases accepts
    | nan signaling => cases accepts
  | int number => rw [← Option.some.inj accepts]; rfl
  | str text => rw [← Option.some.inj accepts]; rfl
  | bool flag => rw [← Option.some.inj accepts]; rfl
  | date day => rw [← Option.some.inj accepts]; rfl

/-- Accepted entries are read back as they were. -/
theorem acceptEntry_values {entries : List (String × Value)}
    {accepted : List (String × RiskValue)}
    (accepts : List.Forall₂ (fun entry result => acceptEntry entry = some result) entries accepted) :
    accepted.map (fun entry => (entry.1, entry.2.toValue)) = entries := by
  induction accepts with
  | nil => rfl
  | cons one _ ih =>
    obtain ⟨value, taken, named⟩ := Option.map_eq_some_iff.mp one
    rw [List.map_cons, ih, ← named, Value.riskValue_toValue taken]

/-- The risk of probe values reads back as those values. -/
theorem ProbeValues.risk_probeValues {values : ProbeValues} {risk : RiskInput}
    (accepted : values.risk = .ok risk) : risk.probeValues = values := by
  unfold ProbeValues.risk at accepted
  split at accepted
  · next entries read =>
    rw [← Except.ok.inj accepted]
    unfold RiskInput.probeValues
    obtain ⟨listed, distinct⟩ := values
    simp only [ProbeValues.mk.injEq]
    exact acceptEntry_values (mapM_eq_some read)
  · cases accepted

end RateGuard
