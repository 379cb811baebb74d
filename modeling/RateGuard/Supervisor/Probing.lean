import RateGuard.Scan.Aggregate
import RateGuard.Scan.Remote
import RateGuard.Supervisor.Inputs
import RateGuard.Testing.Planner

/-!
# Probing of the two sides

A probe prices a scenario with the oracle and asks the other side for its premium: the oracle of
another package, or a live connector. It ends in agreement, in a proven difference, or without a
conclusion. What a connector answers may depend on all it was asked before.
-/

open DecimalFloat CalendarDate TopologicalSort Outcome

namespace RateGuard

/-- `ConnectorFailureClass`. -/
inductive ConnectorFailureClass where
  | authDenied | timeout | contractError | versionUnsupported | unavailable
  deriving DecidableEq, Repr

/-- `_FAILURE_CLASS_BY_CODE`. -/
def failureClassByCode : List (String × ConnectorFailureClass) :=
  [("CONNECTOR_AUTH_DENIED", .authDenied), ("CONNECTOR_AUTH_UNAVAILABLE", .authDenied),
    ("CONNECTOR_TIMEOUT", .timeout),
    ("CONNECTOR_ENGINE_VERSION_NOT_ALLOWED", .versionUnsupported),
    ("CONNECTOR_ENGINE_VERSION_MISMATCH", .versionUnsupported),
    ("CONNECTOR_NOT_REGISTERED", .contractError), ("CONNECTOR_MALFORMED_JSON", .contractError),
    ("CONNECTOR_SCHEMA_VIOLATION", .contractError),
    ("CONNECTOR_UNSUPPORTED_TRACE_NODE", .contractError),
    ("CONNECTOR_OUTPUT_NOT_DECIMAL_STRING", .contractError),
    ("CONNECTOR_REQUEST_ID_MISMATCH", .contractError),
    ("CONNECTOR_INCOMPLETE_OUTPUT_BATCH", .contractError),
    ("CONNECTOR_BATCH_ITEM_MISMATCH", .contractError),
    ("CONNECTOR_BATCH_REQUEST_TOO_LARGE", .contractError),
    ("CONNECTOR_RESPONSE_TOO_LARGE", .contractError),
    ("CONNECTOR_REQUEST_REJECTED", .contractError),
    ("CONNECTOR_UNEXPECTED_STATUS", .contractError),
    ("CONNECTOR_UNEXPECTED_REDIRECT", .contractError)]

/-- `classify_failure`. -/
def classifyFailure (code : String) : ConnectorFailureClass :=
  (failureClassByCode.lookup code).getD .unavailable

/-- `ConnectorQuoteRequest` without its identifier. -/
structure ConnectorQuoteRequest where
  /-- Engine version. -/
  engineVersion : String
  /-- Product. -/
  product : String
  /-- Jurisdiction. -/
  jurisdiction : String
  /-- Calculation date. -/
  effectiveDate : Date
  /-- Transaction. -/
  transactionType : TransactionType
  /-- Inputs. -/
  inputs : List (String × Value)

/-- Status of a probe of a connector. -/
inductive ConnectorProbeStatus where
  | success | connectorFailure | partialResponse
  deriving DecidableEq, Repr

/-- Printed status. -/
def ConnectorProbeStatus.value : ConnectorProbeStatus → String
  | success => "SUCCESS"
  | connectorFailure => "CONNECTOR_FAILURE"
  | partialResponse => "PARTIAL_RESPONSE"

/-- Everything a connector was asked, with the status of each probe. -/
abbrev QuoteHistory := List (ConnectorQuoteRequest × ConnectorProbeStatus)

/-- `ConnectorClient.send_quote`, after all that was asked before. -/
abbrev SendQuote := QuoteHistory → ConnectorQuoteRequest → Except ConnectorRaised QuoteBody

/-- Exceptions that end a mission. -/
inductive MissionFault where
  /-- An engine failed. -/
  | engine (failure : Failure)
  /-- The connector or the impact runner raised something of their own. -/
  | external (kind : String)
  /-- A stage was recorded without its reason. -/
  | missingReason (stage : String)
  /-- An attribute of a plan was read where there is none. -/
  | missingPlan
  /-- An element was taken that does not exist. -/
  | noElement

/-- An exception of the decimals ends the mission. -/
def arithmetic {α : Type} (result : Except Signal α) : Except MissionFault α :=
  (raising result).mapError .engine

/-- Value of a probe as the connector gets it: decimals and dates as text. -/
def connectorInput : RiskValue → Value
  | .literal (.decimal value) => .str (String.ofList value.toDecimal.text)
  | .literal value => value.toValue
  | .date value => .str (String.ofList value.isoformat)

/-- Inputs of a probe as the connector gets them. -/
def connectorInputs (risk : RiskInput) : List (String × Value) :=
  (risk.values.filter fun entry => !contextKeys.contains entry.1).map fun entry =>
    (entry.1, connectorInput entry.2)

/-- Quote that a mission asks a connector for. -/
def quoteRequest (mission : AssuranceMission) (connector : ConnectorSelection)
    (scenario : PricingTestScenario) (calcDate : Date) : ConnectorQuoteRequest where
  engineVersion := connector.engineVersion
  product := mission.product
  jurisdiction := mission.jurisdiction
  effectiveDate := calcDate
  transactionType := scenario.transactionType
  inputs := connectorInputs scenario.riskValues

/-- Answer to a quote: a premium if there is one, and why there is none. -/
structure QuoteAnswer where
  /-- Premium. -/
  premium : Option Decimal
  /-- Status. -/
  status : ConnectorProbeStatus
  /-- Class of the failure. -/
  failureClass : Option ConnectorFailureClass

/-- `_quote_via_connector`: an error of the connector is no premium. -/
def quoteViaConnector (sendQuote : SendQuote) (history : QuoteHistory)
    (request : ConnectorQuoteRequest) : Except MissionFault QuoteAnswer :=
  match sendQuote history request with
  | .error (.connector error) => .ok {
      premium := none
      status := if error.category = .reviewRequired then .partialResponse else .connectorFailure
      failureClass := some (classifyFailure error.code) }
  | .error (.other kind) => .error (.external kind)
  | .ok body =>
    let text := (body.outputs.lookup "final_premium").getD ""
    if text = "" then .ok ⟨none, .partialResponse, none⟩
    else do
      let premium ← arithmetic (readDecimal text)
      .ok ⟨some premium, .success, none⟩

/-- Outcome of a probe. -/
inductive ExperimentOutcome where
  | matched | mismatched | inconclusive
  deriving DecidableEq, Repr

/-- Why a probe was run. -/
inductive ExperimentCategory where
  | boundary | riskDirected | additionalProbe
  deriving DecidableEq, Repr

/-- `RuntimeExperiment`. -/
structure RuntimeExperiment where
  /-- Identifier of the scenario. -/
  experimentId : String
  /-- Its name. -/
  probeName : String
  /-- Why it was run. -/
  category : ExperimentCategory
  /-- Risk values. -/
  riskInputs : RiskInput
  /-- Premium of the oracle. -/
  expectedPremium : Option Decimal
  /-- Premium of the other side. -/
  actualPremium : Option Decimal
  /-- Outcome. -/
  outcome : ExperimentOutcome
  /-- Why there is no conclusion. -/
  inconclusiveReason : Option String
  /-- Class of a failure of the connector. -/
  inconclusiveClass : Option ConnectorFailureClass
  /-- Calculation date of the oracle. -/
  calculationDate : Option Date
  /-- Origin of the probe. -/
  probeOrigin : ProbeOrigin

/-- `matches`. -/
def RuntimeExperiment.agrees (experiment : RuntimeExperiment) : Bool :=
  experiment.outcome = .matched

/-- The other side of a mission. -/
structure MissionTarget where
  /-- Package of the other side. -/
  rightPkg : Option CompiledSource
  /-- Connector of the other side. -/
  targetConnector : Option ConnectorSelection

/-- Printed reason for a date that the oracle rejects. -/
def rejectedDate (date : Date) (package : PackageContent) : String :=
  "CALCULATION_DATE_OUT_OF_PERIOD: Calculation date " ++ String.ofList date.isoformat ++
    " (EXPLICIT) is outside the effective period of package '" ++ package.id ++ "' (" ++
    String.ofList package.effectivePeriod.start.isoformat ++ " to " ++
    ((package.effectivePeriod.endDate.map fun last => String.ofList last.isoformat).getD "open") ++
    ")."

/-- A premium, or the reason for which a calculation date is rejected. -/
def datedPremium (sorter : Sorter String) (package : PackageContent)
    (scenario : PricingTestScenario) : Except MissionFault (Except String Decimal) :=
  match calculatePolicyPremium sorter package scenario with
  | .ok result => .ok (.ok result.finalPremium)
  | .error (.calculationDate date _) => .ok (.error (rejectedDate date package))
  | .error failure => .error (.engine failure)

/-- What the other side says to a probe. -/
structure TargetAnswer where
  /-- Its premium. -/
  actual : Option Decimal
  /-- Why there is none. -/
  reason : Option String
  /-- Class of a failure of the connector. -/
  failureClass : Option ConnectorFailureClass
  /-- Quote it was asked for. -/
  quote : Option (ConnectorQuoteRequest × ConnectorProbeStatus)

/-- Reason for which a status of a connector gives no premium. -/
def ConnectorProbeStatus.reason : ConnectorProbeStatus → String
  | connectorFailure => "CONNECTOR_FAILURE"
  | partialResponse => "CONNECTOR_PARTIAL_RESPONSE"
  | success => "CONNECTOR_SUCCESS"

/-- Asks the other side; without any its premium counts as zero. -/
def askTarget (sorter : Sorter String) (mission : AssuranceMission) (target : MissionTarget)
    (sendQuote : SendQuote) (history : QuoteHistory) (scenario : PricingTestScenario) :
    Except MissionFault TargetAnswer :=
  match target.targetConnector, target.rightPkg with
  | some connector, _ => do
    let request := quoteRequest mission connector scenario scenario.effectiveDate
    let answer ← quoteViaConnector sendQuote history request
    .ok {
      actual := answer.premium
      reason := if answer.premium.isNone then some answer.status.reason else none
      failureClass := answer.failureClass
      quote := some (request, answer.status) }
  | none, some right => do
    match ← datedPremium sorter right.toPackageContent scenario with
    | .ok premium => .ok ⟨some premium, none, none, none⟩
    | .error reason => .ok ⟨none, some reason, none, none⟩
  | none, none => .ok ⟨some (.finite false 0 (-2)), none, none, none⟩

/-- A probe and the quote it asked for. -/
structure ExecutedProbe where
  /-- Experiment. -/
  experiment : RuntimeExperiment
  /-- Quote. -/
  quote : Option (ConnectorQuoteRequest × ConnectorProbeStatus)

/-- Experiment of a scenario with two premiums. -/
def comparedExperiment (scenario : TestScenario) (category : ExperimentCategory)
    (expected actual : Decimal) (equal : Bool) : RuntimeExperiment where
  experimentId := scenario.id
  probeName := scenario.name
  category := category
  riskInputs := scenario.riskValues
  expectedPremium := some expected
  actualPremium := some actual
  outcome := if equal then .matched else .mismatched
  inconclusiveReason := none
  inconclusiveClass := none
  calculationDate := some scenario.effectiveDate
  probeOrigin := scenario.origin

/-- Experiment of a scenario without a conclusion. -/
def inconclusiveExperiment (scenario : TestScenario) (category : ExperimentCategory)
    (expected : Option Decimal) (reason : Option String)
    (failureClass : Option ConnectorFailureClass) : RuntimeExperiment where
  experimentId := scenario.id
  probeName := scenario.name
  category := category
  riskInputs := scenario.riskValues
  expectedPremium := expected
  actualPremium := none
  outcome := .inconclusive
  inconclusiveReason := reason
  inconclusiveClass := failureClass
  calculationDate := expected.map fun _ => scenario.effectiveDate
  probeOrigin := scenario.origin

/-- `_execute_probe`, apart from the counters. -/
def executedProbe (sorter : Sorter String) (mission : AssuranceMission) (left : CompiledSource)
    (target : MissionTarget) (sendQuote : SendQuote) (history : QuoteHistory)
    (category : ExperimentCategory) (scenario : TestScenario) :
    Except MissionFault ExecutedProbe := do
  match ← datedPremium sorter left.toPackageContent scenario.toPricingTestScenario with
  | .error reason => .ok ⟨inconclusiveExperiment scenario category none (some reason) none, none⟩
  | .ok expected =>
    let answer ← askTarget sorter mission target sendQuote history scenario.toPricingTestScenario
    match answer.actual with
    | none => .ok ⟨inconclusiveExperiment scenario category (some expected) answer.reason
        answer.failureClass, answer.quote⟩
    | some actual =>
      let equal ← arithmetic (expected.eq actual)
      .ok ⟨comparedExperiment scenario category expected actual equal, answer.quote⟩

/-- Probes of scenarios in turn. -/
def executedProbes (sorter : Sorter String) (mission : AssuranceMission) (left : CompiledSource)
    (target : MissionTarget) (sendQuote : SendQuote) (category : ExperimentCategory) :
    QuoteHistory → List TestScenario → Except MissionFault (List ExecutedProbe)
  | _, [] => .ok []
  | history, scenario :: rest => do
    let probe ← executedProbe sorter mission left target sendQuote history category scenario
    let later ← executedProbes sorter mission left target sendQuote category
      (history ++ probe.quote.toList) rest
    .ok (probe :: later)

/-- Number of experiments of an outcome. -/
def outcomeCount (outcome : ExperimentOutcome) (experiments : List RuntimeExperiment) : Nat :=
  experiments.countP fun experiment => experiment.outcome = outcome

end RateGuard
