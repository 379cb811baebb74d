import RateGuard.Foundation.Text
import RateGuard.Ipir.Package
import RateGuard.Connector.Errors

/-!
# Mission inputs

What a mission compares: an uploaded source with another source or with a registered connector. The
mission is validated before anything runs, and whatever makes its two sides hard to compare is
listed as a reason for a review.
-/

open DecimalFloat CalendarDate

namespace RateGuard

/-- `ComparisonMode`. -/
inductive ComparisonMode where
  | equivalence | releaseConformance
  deriving DecidableEq, Repr

/-- `PricingSourceRef`, as far as a mission reads it. -/
structure PricingSourceRef where
  /-- Identifier of the source. -/
  sourceId : String
  /-- Kind of the source. -/
  sourceType : String
  /-- Whether its extraction was flagged for a review. -/
  requiresHumanReview : Bool
  /-- Connector of a live source. -/
  connectorId : Option String
  /-- Engine version of a live source. -/
  engineVersion : Option String

/-- `AssuranceMission`, as far as the validation and the supervisor read it. -/
structure AssuranceMission where
  /-- Name. -/
  name : String
  /-- Mode. -/
  mode : ComparisonMode
  /-- Insurance product. -/
  product : String
  /-- Jurisdiction. -/
  jurisdiction : String
  /-- First source. -/
  sourceA : PricingSourceRef
  /-- Second source. -/
  sourceB : Option PricingSourceRef

/-- `ConnectorSelection`. -/
structure ConnectorSelection where
  /-- Registered connector. -/
  connectorId : String
  /-- Declared version of its engine. -/
  engineVersion : String
  deriving DecidableEq

/-- `ValidationIssue`, which is always an error. -/
structure ValidationIssue where
  /-- Field. -/
  field : String
  /-- Code. -/
  code : String
  /-- Message. -/
  message : String
  deriving DecidableEq

/-- Connectors by identifier, with the engine versions they declare. -/
abbrev ConnectorRegistry := List (String × List String)

/-- Printed list of texts without quotes or escapes in them. -/
def printedTexts (texts : List String) : String :=
  "[" ++ ", ".intercalate (texts.map fun text => "'" ++ text ++ "'") ++ "]"

/-- `select_connector`. -/
def selectConnector (registry : ConnectorRegistry) (connectorId engineVersion : String) :
    Except ConnectorError (List String) :=
  match registry.lookup connectorId with
  | none => .error ⟨"CONNECTOR_NOT_REGISTERED",
      "Connector '" ++ connectorId ++ "' is not in the configured registry.", .nonRetryable,
      [("connector_id", .text connectorId)]⟩
  | some allowed =>
    if engineVersion ∈ allowed then .ok allowed
    else .error ⟨"CONNECTOR_ENGINE_VERSION_NOT_ALLOWED",
      "Engine version '" ++ engineVersion ++ "' is not declared for connector '" ++ connectorId ++
        "'. Allowed: " ++ printedTexts (allowed.insertionSort (· ≤ ·)) ++ ".", .nonRetryable,
      [("connector_id", .text connectorId), ("engine_version", .text engineVersion),
        ("allowed", .text (printedTexts (allowed.insertionSort (· ≤ ·))))]⟩

/-- Issue of a required field that is blank. -/
def requiredIssue (field message text : String) : List ValidationIssue :=
  if Text.strip text.toList = [] then [⟨field, "REQUIRED", message⟩] else []

/-- Issue of a source that is not named. -/
def sourceIssue (field message : String) (source : Option PricingSourceRef) :
    List ValidationIssue :=
  if (source.map (·.sourceId)).getD "" = "" then [⟨field, "REQUIRED", message⟩] else []

/-- Issues of the sources, in the words of the mode. -/
def sourceIssues (mission : AssuranceMission) : List ValidationIssue :=
  match mission.mode with
  | .releaseConformance =>
    sourceIssue "source_a"
        "Authoritative Pricing Intent (Source A) is required for Release Conformance mode."
        (some mission.sourceA) ++
      sourceIssue "source_b"
        "Target Rating Implementation (Source B) is required for Release Conformance mode."
        mission.sourceB
  | .equivalence =>
    sourceIssue "source_a"
        "Source A must be explicitly selected for Equivalence comparison mode."
        (some mission.sourceA) ++
      sourceIssue "source_b"
        "Source B must be explicitly selected for Equivalence comparison mode." mission.sourceB

/-- Issues of a live source: it names a connector and an engine version that are registered. -/
def connectorIssues (registry : ConnectorRegistry) (source : Option PricingSourceRef) :
    List ValidationIssue :=
  match source with
  | none => []
  | some source =>
    if source.sourceType ≠ "API_CONNECTOR" then []
    else if source.connectorId.getD "" = "" ∨ source.engineVersion.getD "" = "" then
      [⟨"source_b", "CONNECTOR_SELECTION_REQUIRED",
        "A connector-backed Source B requires both connector_id and engine_version."⟩]
    else
      match selectConnector registry (source.connectorId.getD "")
          (source.engineVersion.getD "") with
      | .ok _ => []
      | .error error => [⟨"source_b", error.code, error.message⟩]

/-- `validate_mission`. -/
def validateMission (registry : ConnectorRegistry) (mission : AssuranceMission) :
    List ValidationIssue :=
  requiredIssue "name" "Mission name is required." mission.name ++
    requiredIssue "product" "Target insurance product is required." mission.product ++
    requiredIssue "jurisdiction" "Target jurisdiction is required." mission.jurisdiction ++
    sourceIssues mission ++ connectorIssues registry mission.sourceB

/-- `InsuranceLine`. -/
inductive InsuranceLine where
  | homeowners | personalAuto | commercialAuto | commercialProperty | workersCompensation | other
  deriving DecidableEq, Repr

/-- The value of a line. -/
def InsuranceLine.value : InsuranceLine → String
  | homeowners => "HOMEOWNERS"
  | personalAuto => "PERSONAL_AUTO"
  | commercialAuto => "COMMERCIAL_AUTO"
  | commercialProperty => "COMMERCIAL_PROPERTY"
  | workersCompensation => "WORKERS_COMPENSATION"
  | other => "OTHER"

/-- A package with what its product says of line and jurisdiction. -/
structure CompiledSource extends PackageContent where
  /-- Line of business. -/
  line : InsuranceLine
  /-- Country. -/
  country : String
  /-- State or province. -/
  stateOrProvince : Option String

/-- Named jurisdiction of a source. -/
def CompiledSource.jurisdiction (source : CompiledSource) : String :=
  match source.stateOrProvince with
  | some state => if state = "" then source.country else state
  | none => source.country

/-- Whether one period starts no later than the other ends. -/
def EffectivePeriod.startsWithin (period other : EffectivePeriod) : Prop :=
  ∀ last ∈ other.endDate, period.start ≤ last

instance (period other : EffectivePeriod) : Decidable (period.startsWithin other) :=
  inferInstanceAs (Decidable (∀ last ∈ other.endDate, period.start ≤ last))

/-- Printed period. -/
def EffectivePeriod.printed (period : EffectivePeriod) : String :=
  "[" ++ String.ofList period.start.isoformat ++ ", " ++
    ((period.endDate.map fun last => String.ofList last.isoformat).getD "open") ++ "]"

/-- Why two packages are not meaningfully compared; the first mismatch is named. -/
def compatibilityReasons (left right : CompiledSource) : List String :=
  if left.line ≠ right.line then
    ["Source A is product line '" ++ left.line.value ++ "' but Source B is '" ++
      right.line.value ++ "' -- these are not the same insurance product."]
  else if left.stateOrProvince ≠ right.stateOrProvince ∨ left.country ≠ right.country then
    ["Source A jurisdiction (" ++ left.jurisdiction ++
      ") does not match Source B jurisdiction (" ++ right.jurisdiction ++ ")."]
  else if left.effectivePeriod.startsWithin right.effectivePeriod ∧
      right.effectivePeriod.startsWithin left.effectivePeriod then []
  else
    ["Source A and Source B effective periods do not overlap: A=" ++
      left.effectivePeriod.printed ++ ", B=" ++ right.effectivePeriod.printed ++ "."]

/-- `compilation_uncertain`. -/
def AssuranceMission.compilationUncertain (mission : AssuranceMission) : Bool :=
  mission.sourceA.requiresHumanReview || mission.sourceB.any (·.requiresHumanReview)

/-- Reasons for a review that are known before anything runs. -/
def reviewReasons (mission : AssuranceMission) (left : CompiledSource)
    (right : Option CompiledSource) (notice : Option String) : List String :=
  (if notice.getD "" = "" then [] else ["REUPLOAD_REQUIRED: " ++ notice.getD ""]) ++
    (if mission.compilationUncertain then
      ["Source extraction confidence was flagged for human review."]
    else []) ++
    (right.map (compatibilityReasons left)).getD []

end RateGuard
