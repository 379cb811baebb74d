import RateGuard.Foundation.KeyedList
import RateGuard.IpirV2.Simulation
import RateGuard.Oracle.Congruence
import RateGuard.Oracle.Evaluator
import RateGuard.Portfolio.Analyzer

/-!
# Control cases

The golden examples embedded in a 0.2 package: every expected output of a case is compared with
a run of the lowered package, and a compiled workbook is verified when every comparison passes.
How the risk schema reads a value of a case is a parameter.
-/

open DecimalFloat CalendarDate TopologicalSort Outcome

namespace RateGuard

/-- Values of a decoded JSON document. Structured values are told apart only by their kind; a
fractional number is the decimal of its printed form. -/
inductive JsonValue where
  | null
  | bool (value : Bool)
  | int (value : Int)
  | float (value : Decimal)
  | str (value : String)
  | list
  | object
  deriving DecidableEq

/-- `TransactionType` of its text. -/
def TransactionType.parse (text : String) : Option TransactionType :=
  if text = "NEW_BUSINESS" then some .newBusiness
  else if text = "RENEWAL" then some .renewal
  else if text = "POLICY_CHANGE" then some .policyChange
  else none

/-- A golden example of a package. -/
structure ControlCase where
  /-- Case identifier. -/
  caseId : String
  /-- Inputs by name, with the calculation date and the transaction type among them. -/
  inputs : List (String × JsonValue)
  /-- Expected output texts by output identifier. -/
  expectedOutputs : List (String × String)
  /-- Accepted distance. -/
  tolerance : FiniteDecimal
  /-- The identifier is machine-readable. -/
  identified : isIdentifierV2 caseId = true
  /-- Input names are keys. -/
  inputsDistinct : (inputs.map Prod.fst).Nodup
  /-- Output identifiers are keys. -/
  outputsDistinct : (expectedOutputs.map Prod.fst).Nodup
  /-- Something is expected. -/
  expects : expectedOutputs ≠ []
  /-- The tolerance is not negative. -/
  nonnegative : Decimal.lt tolerance.toDecimal (.ofInt 0) = .ok false

/-- A 0.2 package with its control cases. -/
structure CertifiedPackage where
  /-- Package. -/
  package : PackageV2
  /-- Its control cases. -/
  cases : List ControlCase
  /-- The package lists their identifiers. -/
  listed : package.controlCases = cases.map (·.caseId)

/-- Input of a case under its name. -/
def ControlCase.input (case : ControlCase) (name : String) : Option JsonValue :=
  case.inputs.lookup name

/-- `_case_effective_date`: the date a case names by text, else the start of the package. -/
def caseEffectiveDate (package : PackageV2) (case : ControlCase) : Except Failure Date :=
  match case.input "effective_date" with
  | some (.str text) =>
    match fromIsoformat text.toList with
    | some date => .ok date
    | none => .error .valueError
  | _ => .ok package.effectivePeriod.start

/-- `_case_transaction_type`: the type a case names by text, else the first supported one. -/
def caseTransactionType (package : PackageV2) (case : ControlCase) :
    Except Failure TransactionType :=
  match case.input "transaction_type" with
  | some (.str text) =>
    match TransactionType.parse text with
    | some transaction => .ok transaction
    | none => .error .valueError
  | _ =>
    match package.transactionTypes with
    | transaction :: _ => .ok transaction
    | [] => .error .indexError

/-- Entry of a risk from an input of a case. -/
def riskEntry (accepts : JsonValue → Option RiskValue) (entry : String × JsonValue) :
    Option (String × RiskValue) :=
  (accepts entry.2).map fun value => (entry.1, value)

/-- Risk of a case; the schema accepts all of its inputs or fails. -/
def ControlCase.risk (accepts : JsonValue → Option RiskValue) (case : ControlCase) :
    Except Failure RiskInput :=
  match read : case.inputs.mapM (riskEntry accepts) with
  | some values => .ok ⟨values, by
      have kept : values.map Prod.fst = case.inputs.map Prod.fst := by
        refine mapM_keys Prod.fst Prod.fst (fun entry result found => ?_) read
        obtain ⟨value, _, same⟩ := Option.map_eq_some_iff.mp found
        exact congrArg Prod.fst same.symm
      rw [kept]
      exact case.inputsDistinct⟩
  | none => .error (.schema case.caseId)

/-- Outcome of one expected output. -/
structure ControlCaseResult where
  /-- Case. -/
  caseId : String
  /-- Whether the output is within tolerance. -/
  passed : Bool
  /-- Output. -/
  outputId : String
  /-- Expected text. -/
  expected : String
  /-- Recorded value, absent as empty text. -/
  actual : Option Decimal
  /-- Recorded distance, absent as empty text. -/
  difference : Option Decimal
  /-- Failure named in the detail; an undeclared output has none. -/
  detail : Option Failure

section Running

variable (accepts : JsonValue → Option RiskValue) (sorter : Sorter String)

/-- Evaluation of the lowered package on a case. -/
def evaluateCase (package : PackageV2) (lowered : IPIRPackage) (case : ControlCase) :
    Except Failure OracleResult := do
  let risk ← case.risk accepts
  let date ← caseEffectiveDate package case
  let transaction ← caseTransactionType package case
  evaluatePackage sorter lowered.toPackageContent risk date transaction false

/-- Number of an expected text. -/
def expectedNumber (expected : String) : Except Failure Decimal :=
  match Decimal.parse expected.toList with
  | some number => .ok number
  | none => .error (.decimal .invalidOperation)

/-- Distance of a value from an expected text, and whether it is within a tolerance. -/
def compareExpected (actual : Decimal) (expected : String) (tolerance : FiniteDecimal) :
    Except Failure (Decimal × Bool) := do
  let number ← expectedNumber expected
  let delta ← raising (Decimal.sub decimalContext actual number)
  let difference ← raising (absolute delta)
  return (difference, ← raising (difference.le tolerance.toDecimal))

/-- Comparison of one expected output of a case: the premium is what is compared. -/
def compareOutput (package : PackageV2) (lowered : IPIRPackage) (case : ControlCase)
    (expected : String × String) : Except Failure (Decimal × Decimal × Bool) := do
  let result ← evaluateCase accepts sorter package lowered case
  let (difference, passed) ← compareExpected result.finalPremium expected.2 case.tolerance
  return (result.finalPremium, difference, passed)

/-- Result of one expected output of a case. -/
def controlCaseResult (package : PackageV2) (lowered : IPIRPackage) (case : ControlCase)
    (expected : String × String) : ControlCaseResult :=
  match package.outputs.find? (·.id == expected.1) with
  | none => ⟨case.caseId, false, expected.1, expected.2, none, none, none⟩
  | some _ =>
    match compareOutput accepts sorter package lowered case expected with
    | .ok (actual, difference, passed) =>
      ⟨case.caseId, passed, expected.1, expected.2, some actual, some difference, none⟩
    | .error failure => ⟨case.caseId, false, expected.1, expected.2, none, none, some failure⟩

/-- `run_control_cases`. -/
def runControlCases (certified : CertifiedPackage) :
    Except LoweringError (List ControlCaseResult) := do
  let lowered ← lowerToV01 certified.package
  return certified.cases.flatMap fun case =>
    case.expectedOutputs.map (controlCaseResult accepts sorter certified.package lowered case)

/-- Status of a compiled package. -/
inductive CompilationStatus where
  | verified | reviewRequired
  deriving DecidableEq, Repr

/-- `compile_workbook`: the status of a package that was built. No case, or a run that fails,
leaves a warning. -/
def compilationStatus (certified : CertifiedPackage) : CompilationStatus :=
  if certified.cases.isEmpty then .reviewRequired
  else
    match runControlCases accepts sorter certified with
    | .error _ => .reviewRequired
    | .ok results =>
      if !results.isEmpty && results.all (·.passed) then .verified else .reviewRequired

/-- Number an evaluation resolves for a node. -/
def OracleResult.numberAt (result : OracleResult) (id : String) : Option Decimal :=
  (result.resolvedValues id).bind fun value => value.toDecimal.toOption

/-- Whether a value is within the tolerance of an expected text. -/
def WithinTolerance (value : Decimal) (expected : String) (tolerance : FiniteDecimal) : Prop :=
  ∃ difference, compareExpected value expected tolerance = .ok (difference, true)

/-- Whether control cases certify what they name: a value recorded for an output is the one its
source node has, and a verified package has every expected output within its tolerance. -/
structure Certifies (certified : CertifiedPackage) : Prop where
  /-- Recorded values are the values of the named outputs. -/
  recorded : ∀ lowered results, lowerToV01 certified.package = .ok lowered →
    runControlCases accepts sorter certified = .ok results →
    ∀ case ∈ certified.cases, ∀ record ∈ results, record.caseId = case.caseId →
    ∀ actual, record.actual = some actual →
    ∀ output, certified.package.outputs.find? (·.id == record.outputId) = some output →
    ∀ result, evaluateCase accepts sorter certified.package lowered case = .ok result →
    ∃ number, result.numberAt output.sourceRef = some number ∧ Decimal.Same actual number
  /-- Verified packages meet every expectation. -/
  verified : compilationStatus accepts sorter certified = .verified →
    ∀ lowered, lowerToV01 certified.package = .ok lowered →
    ∀ case ∈ certified.cases, ∀ expected ∈ case.expectedOutputs,
    ∃ output ∈ certified.package.outputs, output.id = expected.1 ∧
      ∃ result number, evaluateCase accepts sorter certified.package lowered case = .ok result ∧
        result.numberAt output.sourceRef = some number ∧
        WithinTolerance number expected.2 case.tolerance

/-- Whether the outputs that cases name read the same number as the first output, wherever a
comparison takes place. -/
def NamesPremium (certified : CertifiedPackage) : Prop :=
  ∀ lowered, lowerToV01 certified.package = .ok lowered →
    ∀ case ∈ certified.cases, ∀ expected ∈ case.expectedOutputs,
    ∀ output, certified.package.outputs.find? (·.id == expected.1) = some output →
    ∀ result, evaluateCase accepts sorter certified.package lowered case = .ok result →
    (compareExpected result.finalPremium expected.2 case.tolerance).isOk = true →
    ∃ first premium number, certified.package.outputs.head? = some first ∧
      result.numberAt first.sourceRef = some premium ∧
      result.numberAt output.sourceRef = some number ∧ Decimal.Same premium number

end Running

/-- Equal numbers have equal magnitudes. -/
theorem absolute_same {left right : Decimal} (same : Decimal.Same left right) :
    SameResult (absolute left) (absolute right) := by
  induction same using same_cases with
  | finite negative first exponent other second scale same =>
    refine fit_same decimalContext ?_
    rcases finite_same same with ⟨rfl, rfl⟩ | ⟨_, _, rfl, _⟩
    · exact same_of_magnitude false (by simp)
    · refine same_of_magnitude false ?_
      have values := finite_same_value same
      cases negative with
      | false => simpa [signed] using values
      | true => simpa [signed] using values
  | infinity negative => exact .success (.refl _)
  | nan signaling => cases signaling <;> exact Agree.refl Decimal.Same.refl _

/-- Equal values are within tolerance alike. -/
theorem WithinTolerance.of_same {left right : Decimal} {expected : String}
    {tolerance : FiniteDecimal} (same : Decimal.Same left right)
    (within : WithinTolerance left expected tolerance) :
    WithinTolerance right expected tolerance := by
  have agrees : Agree (fun one two => one.2 = two.2) (compareExpected left expected tolerance)
      (compareExpected right expected tolerance) := by
    unfold compareExpected
    refine Agree.bind_same _ fun number => ?_
    refine (agree_raising (sub_same decimalContext same (.refl number))).bind fun _ _ deltas => ?_
    refine (agree_raising (absolute_same deltas)).bind fun _ _ differences => ?_
    rw [le_same differences (.refl _)]
    exact Agree.bind_same _ fun decided => .success rfl
  obtain ⟨difference, compared⟩ := within
  rw [compared] at agrees
  cases compares : compareExpected right expected tolerance with
  | error failed =>
    rw [compares] at agrees
    cases agrees
  | ok result =>
    rw [compares] at agrees
    cases agrees with
    | success passed =>
      have passed : true = result.2 := passed
      exact ⟨result.1, by rw [compares, passed]⟩

/-- The premium of an evaluation is the number of its first output. -/
theorem evaluatePackage_premium {sorter : Sorter String} {package : PackageContent}
    {risk : RiskInput} {date : Date} {transaction : TransactionType} {strict : Bool}
    {result : OracleResult}
    (priced : evaluatePackage sorter package risk date transaction strict = .ok result) :
    ∃ output, package.outputs.head? = some output ∧
      result.numberAt output.sourceRef = some result.finalPremium := by
  obtain ⟨_, _, priced⟩ := bind_eq_ok priced
  obtain ⟨prepared, _, priced⟩ := bind_eq_ok priced
  obtain ⟨calculated, _, finished⟩ := bind_eq_ok priced
  unfold finish at finished
  split at finished
  · cases finished
  · rename_i output rest outputs
    split at finished
    · cases finished
    · rename_i value entry
      obtain ⟨premium, converted, finished⟩ := bind_eq_ok finished
      obtain ⟨final, recorded, finished⟩ := bind_eq_ok finished
      split at finished
      · cases finished
      · cases finished
        refine ⟨output, by rw [outputs]; rfl, ?_⟩
        unfold OracleResult.numberAt
        dsimp only
        rw [(addStep_eq_ok recorded).1, entry]
        cases number : value.toDecimal with
        | error signal =>
          rw [number] at converted
          cases converted
        | ok found =>
          rw [number] at converted
          cases converted
          change value.toDecimal.toOption = some premium
          rw [number]
          rfl

/-- What a recorded value says: the output is declared, its evaluation succeeded and the value
is the premium, compared with the expected text. -/
theorem controlCaseResult_actual {accepts : JsonValue → Option RiskValue}
    {sorter : Sorter String} {package : PackageV2} {lowered : IPIRPackage} {case : ControlCase}
    {expected : String × String} {actual : Decimal}
    (recorded : (controlCaseResult accepts sorter package lowered case expected).actual =
      some actual) :
    ∃ output result difference,
      package.outputs.find? (·.id == expected.1) = some output ∧
      evaluateCase accepts sorter package lowered case = .ok result ∧
      result.finalPremium = actual ∧
      compareExpected actual expected.2 case.tolerance = .ok (difference,
        (controlCaseResult accepts sorter package lowered case expected).passed) := by
  unfold controlCaseResult at recorded ⊢
  cases found : package.outputs.find? (·.id == expected.1) with
  | none =>
    rw [found] at recorded
    cases recorded
  | some output =>
    rw [found] at recorded
    dsimp only at recorded ⊢
    cases compared : compareOutput accepts sorter package lowered case expected with
    | error failure =>
      rw [compared] at recorded
      cases recorded
    | ok outcome =>
      rw [compared] at recorded
      obtain ⟨result, evaluated, rest⟩ := bind_eq_ok compared
      obtain ⟨⟨difference, passed⟩, compares, rest⟩ := bind_eq_ok rest
      cases rest
      cases recorded
      exact ⟨output, result, difference, rfl, evaluated, rfl, compares⟩

/-- A passed result has a recorded value. -/
theorem controlCaseResult_passed {accepts : JsonValue → Option RiskValue}
    {sorter : Sorter String} {package : PackageV2} {lowered : IPIRPackage} {case : ControlCase}
    {expected : String × String}
    (passed : (controlCaseResult accepts sorter package lowered case expected).passed = true) :
    ∃ actual, (controlCaseResult accepts sorter package lowered case expected).actual =
      some actual := by
  unfold controlCaseResult at passed ⊢
  cases found : package.outputs.find? (·.id == expected.1) with
  | none =>
    rw [found] at passed
    cases passed
  | some output =>
    rw [found] at passed
    dsimp only at passed ⊢
    cases compared : compareOutput accepts sorter package lowered case expected with
    | error failure =>
      rw [compared] at passed
      cases passed
    | ok outcome => exact ⟨outcome.1, rfl⟩

/-- A comparison that takes place records the premium. -/
theorem controlCaseResult_of_compared {accepts : JsonValue → Option RiskValue}
    {sorter : Sorter String} {package : PackageV2} {lowered : IPIRPackage} {case : ControlCase}
    {expected : String × String} {output : PricingOutputV2} {result : OracleResult}
    (found : package.outputs.find? (·.id == expected.1) = some output)
    (evaluated : evaluateCase accepts sorter package lowered case = .ok result)
    (compared : (compareExpected result.finalPremium expected.2 case.tolerance).isOk = true) :
    (controlCaseResult accepts sorter package lowered case expected).actual =
      some result.finalPremium := by
  obtain ⟨outcome, compares⟩ := exists_of_isOk compared
  have whole : compareOutput accepts sorter package lowered case expected =
      .ok (result.finalPremium, outcome) := by
    unfold compareOutput
    rw [evaluated]
    simp only [bind, Except.bind]
    rw [compares]
    rfl
  unfold controlCaseResult
  rw [found, whole]

/-- Every result belongs to an expected output of a case and names both. -/
theorem mem_runControlCases {accepts : JsonValue → Option RiskValue} {sorter : Sorter String}
    {certified : CertifiedPackage} {lowered : IPIRPackage} {results : List ControlCaseResult}
    (lowers : lowerToV01 certified.package = .ok lowered)
    (ran : runControlCases accepts sorter certified = .ok results) {record : ControlCaseResult} :
    record ∈ results ↔ ∃ case ∈ certified.cases, ∃ expected ∈ case.expectedOutputs,
      controlCaseResult accepts sorter certified.package lowered case expected = record := by
  unfold runControlCases at ran
  rw [lowers] at ran
  cases ran
  simp only [List.mem_flatMap, List.mem_map]

/-- A result names its case and its output. -/
theorem controlCaseResult_names (accepts : JsonValue → Option RiskValue) (sorter : Sorter String)
    (package : PackageV2) (lowered : IPIRPackage) (case : ControlCase)
    (expected : String × String) :
    (controlCaseResult accepts sorter package lowered case expected).caseId = case.caseId ∧
      (controlCaseResult accepts sorter package lowered case expected).outputId = expected.1 := by
  unfold controlCaseResult
  cases package.outputs.find? (·.id == expected.1) with
  | none => exact ⟨rfl, rfl⟩
  | some output =>
    dsimp only
    cases compareOutput accepts sorter package lowered case expected with
    | error failure => exact ⟨rfl, rfl⟩
    | ok outcome => exact ⟨rfl, rfl⟩

/-- A verified package ran its cases and every result passed. -/
theorem compilationStatus_verified {accepts : JsonValue → Option RiskValue}
    {sorter : Sorter String} {certified : CertifiedPackage}
    (verified : compilationStatus accepts sorter certified = .verified) :
    ∃ results, runControlCases accepts sorter certified = .ok results ∧
      ∀ record ∈ results, record.passed = true := by
  unfold compilationStatus at verified
  split at verified
  · cases verified
  · cases ran : runControlCases accepts sorter certified with
    | error failed =>
      rw [ran] at verified
      cases verified
    | ok results =>
      rw [ran] at verified
      dsimp only at verified
      split at verified
      · rename_i passed
        rw [Bool.and_eq_true, List.all_eq_true] at passed
        exact ⟨results, rfl, passed.2⟩
      · cases verified

/-- The premium of a case is the number of the package's first output. -/
theorem evaluateCase_premium {accepts : JsonValue → Option RiskValue} {sorter : Sorter String}
    {package : PackageV2} {lowered : IPIRPackage} (lowers : lowerToV01 package = .ok lowered)
    {case : ControlCase} {result : OracleResult}
    (evaluated : evaluateCase accepts sorter package lowered case = .ok result) :
    ∃ first, package.outputs.head? = some first ∧
      result.numberAt first.sourceRef = some result.finalPremium := by
  obtain ⟨risk, _, evaluated⟩ := bind_eq_ok evaluated
  obtain ⟨date, _, evaluated⟩ := bind_eq_ok evaluated
  obtain ⟨transaction, _, evaluated⟩ := bind_eq_ok evaluated
  obtain ⟨output, head, number⟩ := evaluatePackage_premium evaluated
  have outputs : lowered.outputs = package.outputs.map fun output =>
      ⟨output.id, output.sourceRef, some output.currency⟩ := by
    obtain ⟨⟨calculations, context⟩, _, built⟩ := bind_eq_ok lowers
    dsimp only at built
    split at built
    · cases built
      rfl
    · cases built
  rw [outputs, List.head?_map, Option.map_eq_some_iff] at head
  obtain ⟨first, head, rfl⟩ := head
  exact ⟨first, head, number⟩

/-- Control cases certify what they name exactly when the named outputs read the same number as
the first output wherever a comparison takes place. -/
theorem certifies_iff (accepts : JsonValue → Option RiskValue) (sorter : Sorter String)
    (certified : CertifiedPackage) (valid : certified.package.Valid) :
    Certifies accepts sorter certified ↔ NamesPremium accepts sorter certified := by
  constructor
  · intro certifies lowered lowers case member expected listed output found result evaluated
      compared
    obtain ⟨first, head, premium⟩ := evaluateCase_premium lowers evaluated
    have names := controlCaseResult_names accepts sorter certified.package lowered case expected
    have runs : runControlCases accepts sorter certified = .ok (certified.cases.flatMap fun case =>
        case.expectedOutputs.map
          (controlCaseResult accepts sorter certified.package lowered case)) := by
      unfold runControlCases
      rw [lowers]
      rfl
    obtain ⟨number, reads, same⟩ := certifies.recorded lowered _ lowers runs case member _
      ((mem_runControlCases lowers runs).mpr ⟨case, member, expected, listed, rfl⟩) names.1 _
      (controlCaseResult_of_compared found evaluated compared) output
      (by rw [names.2]; exact found) result evaluated
    exact ⟨first, result.finalPremium, number, head, premium, reads, same⟩
  · intro shares
    have recorded : ∀ lowered, lowerToV01 certified.package = .ok lowered →
        ∀ case ∈ certified.cases, ∀ expected ∈ case.expectedOutputs, ∀ actual,
        (controlCaseResult accepts sorter certified.package lowered case expected).actual =
          some actual →
        ∃ output result number, certified.package.outputs.find? (·.id == expected.1) = some output ∧
          evaluateCase accepts sorter certified.package lowered case = .ok result ∧
          result.numberAt output.sourceRef = some number ∧ Decimal.Same actual number ∧
          ∃ difference, compareExpected actual expected.2 case.tolerance = .ok (difference,
            (controlCaseResult accepts sorter certified.package lowered case expected).passed) := by
      intro lowered lowers case member expected listed actual records
      obtain ⟨output, result, difference, found, evaluated, rfl, compared⟩ :=
        controlCaseResult_actual records
      obtain ⟨first, head, premium⟩ := evaluateCase_premium lowers evaluated
      obtain ⟨first', premium', number, head', reads, readsToo, same⟩ := shares lowered lowers case
        member expected listed output found result evaluated (by rw [compared]; rfl)
      rw [head] at head'
      cases head'
      rw [premium] at reads
      cases reads
      exact ⟨output, result, number, found, evaluated, readsToo, same, difference, compared⟩
    constructor
    · intro lowered results lowers ran case member record inside named actual records output found
        result evaluated
      obtain ⟨other, otherMember, expected, listed, rfl⟩ :=
        (mem_runControlCases lowers ran).mp inside
      have names := controlCaseResult_names accepts sorter certified.package lowered other expected
      have distinct : (certified.cases.map (·.caseId)).Nodup := by
        rw [← certified.listed]
        exact valid.cases_distinct
      have same : other = case := KeyedList.eq_of_key distinct otherMember member
        (names.1.symm.trans named)
      subst same
      obtain ⟨output', result', number, found', evaluated', reads, same, _⟩ :=
        recorded lowered lowers other member expected listed actual records
      rw [names.2, found'] at found
      cases found
      rw [evaluated'] at evaluated
      cases evaluated
      exact ⟨number, reads, same⟩
    · intro verified lowered lowers case member expected listed
      obtain ⟨results, ran, passed⟩ := compilationStatus_verified verified
      have inside := (mem_runControlCases lowers ran).mpr ⟨case, member, expected, listed, rfl⟩
      have succeeded := passed _ inside
      obtain ⟨actual, records⟩ := controlCaseResult_passed succeeded
      obtain ⟨output, result, number, found, evaluated, reads, same, difference, compared⟩ :=
        recorded lowered lowers case member expected listed actual records
      rw [succeeded] at compared
      exact ⟨output, List.mem_of_find?_eq_some found, by simpa using List.find?_some found, result,
        number, evaluated, reads, WithinTolerance.of_same same ⟨difference, compared⟩⟩

/-- Plain reading of scalar values by the risk schema; fractional numbers are left out. -/
def acceptsScalar : JsonValue → Option RiskValue
  | .bool value => some (.literal (.bool value))
  | .int value => some (.literal (.int value))
  | .str value => some (.literal (.str value))
  | .null | .float _ | .list | .object => none

/-- Sample levy of ten, rounded to cents. -/
def levyNode : CalculationNodeV2 where
  id := "tax"
  expression := .round (.literal (.int 10)) cents .halfUp
  dependsOn := []
  effectivePeriod := none

/-- Sample package with the premium as its first output and the levy as its second. -/
def levyPackage : PackageV2 :=
  { worksheet [plainNode, levyNode] with
    outputs := [⟨"total", "premium", "USD", cents, .halfUp⟩, ⟨"levy", "tax", "USD", cents, .halfUp⟩]
    controlCases := ["levy_case"] }

/-- Sample case that expects the premium of one hundred as the levy. -/
def levyCase : ControlCase where
  caseId := "levy_case"
  inputs := []
  expectedOutputs := [("levy", "100.00")]
  tolerance := ⟨false, 0, 0⟩
  identified := by decide +kernel
  inputsDistinct := List.nodup_nil
  outputsDistinct := List.nodup_singleton _
  expects := List.cons_ne_nil _ _
  nonnegative := rfl

/-- Sample package with its case. -/
def levyCertified : CertifiedPackage where
  package := levyPackage
  cases := [levyCase]
  listed := rfl

/-- The sample package is valid. -/
theorem levyPackage_valid : levyPackage.Valid where
  wellFormed := by decide +kernel
  calculations_nonempty := List.cons_ne_nil _ _
  outputs_nonempty := List.cons_ne_nil _ _
  ids_distinct := by decide +kernel
  cases_distinct := List.nodup_singleton _
  refs_resolve := by decide +kernel
  dependencies_resolve := by decide +kernel
  outputs_resolve := by decide +kernel
  acyclic := ⟨worksheetRank, by decide +kernel⟩
  covered := fun _ member => absurd member List.not_mem_nil
  outputs_agree := by decide +kernel

/-- The sample case certifies its levy exactly when the levy reads the premium's number. -/
theorem certifies_iff_levy :
    Certifies acceptsScalar (byGenerations String) levyCertified ↔
      NamesPremium acceptsScalar (byGenerations String) levyCertified :=
  certifies_iff acceptsScalar (byGenerations String) levyCertified levyPackage_valid

/-- Control cases do not always certify what they name: a levy of ten is verified as one hundred,
the premium. -/
theorem certifies_not_always :
    ¬∀ (accepts : JsonValue → Option RiskValue) (sorter : Sorter String)
      (certified : CertifiedPackage), certified.package.Valid →
      Certifies accepts sorter certified := by
  intro always
  have certifies := always acceptsScalar (byGenerations String) levyCertified levyPackage_valid
  have verified : compilationStatus acceptsScalar (byGenerations String) levyCertified =
      .verified := by decide +kernel
  have succeeds : (lowerToV01 levyPackage).isOk = true := by decide +kernel
  obtain ⟨lowered, lowers⟩ := exists_of_isOk succeeds
  have reads : ((lowerToV01 levyPackage).toOption.bind fun lowered =>
      (evaluateCase acceptsScalar (byGenerations String) levyPackage lowered levyCase).toOption.bind
        fun result => result.numberAt "tax") = some (.finite false 1000 (-2)) := by decide +kernel
  obtain ⟨output, member, named, result, number, evaluated, resolved, difference, within⟩ :=
    certifies.verified verified lowered lowers levyCase (List.mem_singleton_self _)
      ("levy", "100.00") (List.mem_singleton_self _)
  have source : output.sourceRef = "tax" := by
    rcases List.mem_cons.mp member with rfl | later
    · exact absurd named (by decide)
    · rw [List.mem_singleton.mp later]
  rw [lowers] at reads
  change (evaluateCase acceptsScalar (byGenerations String) levyPackage lowered
    levyCase).toOption.bind _ = _ at reads
  have evaluated : evaluateCase acceptsScalar (byGenerations String) levyPackage lowered
    levyCase = .ok result := evaluated
  rw [evaluated] at reads
  have reads : result.numberAt "tax" = some (.finite false 1000 (-2)) := reads
  rw [source, reads] at resolved
  cases resolved
  have outside : (compareExpected (.finite false 1000 (-2)) "100.00" levyCase.tolerance).toOption.map
      Prod.snd = some false := by decide +kernel
  rw [within] at outside
  cases outside

end RateGuard
