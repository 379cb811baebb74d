import RateGuard.Diff.Comparator

/-!
# Remediation proposals

Findings of a comparison, the proposal to correct some of them, and what a
proposal asks for: the defective package with each proposed difference corrected
to the intent, every other difference kept.
-/

open DecimalFloat CalendarDate KeyedList

namespace RateGuard

/-- Written name of a difference type. -/
def DifferenceType.name : DifferenceType → String
  | valueChange => "VALUE_CHANGE"
  | rangeChange => "RANGE_CHANGE"
  | ruleChange => "RULE_CHANGE"
  | orderChange => "ORDER_CHANGE"
  | effectiveDateChange => "EFFECTIVE_DATE_CHANGE"
  | roundingChange => "ROUNDING_CHANGE"
  | missingNode => "MISSING_NODE"
  | extraNode => "EXTRA_NODE"
  | tableRowChange => "TABLE_ROW_CHANGE"
  | tableRowMissing => "TABLE_ROW_MISSING"
  | tableRowExtra => "TABLE_ROW_EXTRA"
  | tableCoverageGap => "TABLE_COVERAGE_GAP"
  | outputChange => "OUTPUT_CHANGE"
  | modifierChange => "MODIFIER_CHANGE"
  | constraintChange => "CONSTRAINT_CHANGE"
  | feeChange => "FEE_CHANGE"

/-- Finding recorded for a difference. -/
structure MaterialFinding where
  /-- Identifier of the finding. -/
  findingId : String
  /-- Type and place of the difference. -/
  title : String
  /-- Written value of the intent. -/
  intentValue : String
  /-- Written value of the target. -/
  targetValue : String
  /-- Node that differs. -/
  affectedNode : String

/-- Written side of a difference. -/
def sideText (value : Option Value) : String := (value.map Value.toString).getD "None"

/-- Finding of a difference under a given identifier. -/
def findingOf (findingId : String) (difference : SemanticDifference) : MaterialFinding where
  findingId := findingId
  title := difference.differenceType.name ++ ": " ++ difference.semanticPath
  intentValue := sideText difference.leftValue
  targetValue := sideText difference.rightValue
  affectedNode := difference.nodeId

/-- `to_material_findings`, with the identifiers drawn for the findings. -/
def toMaterialFindings (identifiers : List String) (result : SemanticDiffResult) :
    List MaterialFinding :=
  (identifiers.zip result.differences).map fun pair => findingOf pair.1 pair.2

/-- Change a proposal asks for. -/
structure ProposedChange where
  /-- Title of the finding. -/
  title : String
  /-- Value of the target before the change. -/
  beforeTargetValue : String
  /-- Value of the intent. -/
  proposedIntentValue : String
  /-- Node to change. -/
  affectedNode : String
  deriving DecidableEq

/-- Proposed correction of some findings. -/
structure RemediationProposal where
  /-- Identifier of the proposal. -/
  remediationId : String
  /-- Identifier of the derived package. -/
  derivedPackageId : String
  /-- Changes by finding. -/
  proposedChanges : List (String × ProposedChange)

/-- Change that corrects a finding. -/
def changeOf (finding : MaterialFinding) : ProposedChange where
  title := finding.title
  beforeTargetValue := finding.targetValue
  proposedIntentValue := finding.intentValue
  affectedNode := finding.affectedNode

/-- `generate_remediation_proposal`, with the identifiers drawn for it. -/
def generateRemediationProposal (remediationId derivedPackageId : String)
    (findings : List MaterialFinding) : RemediationProposal where
  remediationId := remediationId
  derivedPackageId := derivedPackageId
  proposedChanges := findings.map fun finding => (finding.findingId, changeOf finding)

/-- Whether a proposal corrects a difference. -/
def RemediationProposal.proposes (proposal : RemediationProposal)
    (difference : SemanticDifference) : Bool :=
  proposal.proposedChanges.any fun change => change.2 = changeOf (findingOf change.1 difference)

/-- Period with a corrected start, if one exists that ends when the period did. -/
def correctStart (start : Option Date) (period : Option EffectivePeriod) :
    Option (Option EffectivePeriod) :=
  match start with
  | none => some none
  | some start =>
    if ordered : ∀ last ∈ period.bind (·.endDate), start ≤ last then
      some (some ⟨start, period.bind (·.endDate), ordered⟩)
    else none

/-- Applies a change to the nodes of one identifier. -/
def changeNode {α : Type} (id : α → String) (nodeId : String) (change : α → α) (nodes : List α) :
    List α :=
  nodes.map fun node => if id node = nodeId then change node else node

/-- Rows with the values of one key text corrected. -/
def correctRowValue (key : String) (value : FiniteDecimal) (table : RateTable) : RateTable :=
  { table with
    rows := table.rows.map fun row => if formatMatchKey row = key then { row with value } else row
    keyed := by
      intro row member
      obtain ⟨other, inside, rfl⟩ := List.mem_map.mp member
      split
      · exact table.keyed other inside
      · exact table.keyed other inside }

/-- Table with a row added. -/
def addRow (added : TableRow) (table : RateTable) : RateTable :=
  if fits : added.rowMatches.length = table.dimensions.length then
    { table with
      rows := table.rows ++ [added]
      keyed := by
        intro row member
        rcases List.mem_append.mp member with inside | last
        · exact table.keyed row inside
        · rw [List.mem_singleton.mp last]
          exact fits }
  else table

/-- Table without the rows of one key text. -/
def removeRows (key : String) (table : RateTable) : RateTable :=
  { table with
    rows := table.rows.filter fun row => formatMatchKey row ≠ key
    keyed := fun row member => table.keyed row (List.mem_of_mem_filter member) }

/-- Row of the intent with a key text. -/
def intentRow (intent : PackageContent) (tableId key : String) : Option TableRow :=
  (lastWith (·.id) intent.tables tableId).bind fun table =>
    lastWith formatMatchKey table.rows key

/-- Restores a field of the nodes of one identifier from the intent's node. -/
def restoreNode {α : Type} (id : α → String) (nodeId : String) (restore : α → α → α)
    (intended nodes : List α) : List α :=
  match lastWith id intended nodeId with
  | some node => changeNode id nodeId (restore node) nodes
  | none => nodes

/-- Corrects the value that differs in a node to that of the intent. -/
def correctValue (intent : PackageContent) (difference : SemanticDifference)
    (package : PackageContent) : PackageContent :=
  match difference.nodeType with
  | .constant =>
    { package with
      constants := restoreNode (·.id) difference.nodeId
        (fun node other => { other with value := node.value })
        intent.constants package.constants }
  | .modifier =>
    { package with
      modifiers := restoreNode (·.id) difference.nodeId
        (fun node other => { other with value := node.value })
        intent.modifiers package.modifiers }
  | .constraint =>
    { package with
      constraints := restoreNode (·.id) difference.nodeId
        (fun node other => { other with amount := node.amount })
        intent.constraints package.constraints }
  | .fee =>
    { package with
      fees := restoreNode (·.id) difference.nodeId
        (fun node other => { other with amount := node.amount }) intent.fees package.fees }
  | .package | .input | .tableRow => package

/-- Corrects the order of a node to that of the intent. -/
def correctSequence (intent : PackageContent) (difference : SemanticDifference)
    (package : PackageContent) : PackageContent :=
  match difference.nodeType with
  | .modifier =>
    { package with
      modifiers := restoreNode (·.id) difference.nodeId
        (fun node other => { other with sequence := node.sequence })
        intent.modifiers package.modifiers }
  | .constraint =>
    { package with
      constraints := restoreNode (·.id) difference.nodeId
        (fun node other => { other with sequence := node.sequence })
        intent.constraints package.constraints }
  | .fee =>
    { package with
      fees := restoreNode (·.id) difference.nodeId
        (fun node other => { other with sequence := node.sequence }) intent.fees package.fees }
  | .package | .input | .constant | .tableRow => package

/-- Corrects a start date to that of the intent, if a period allows it. -/
def correctPeriod (intent : PackageContent) (difference : SemanticDifference)
    (package : PackageContent) : Option PackageContent :=
  match difference.nodeType with
  | .package => do
    let period ← correctStart (some intent.effectivePeriod.start) (some package.effectivePeriod)
    return { package with effectivePeriod := ← period }
  | .modifier => do
    let node ← lastWith (·.id) intent.modifiers difference.nodeId
    let modifiers ← package.modifiers.mapM fun other =>
      if other.id = node.id then
        (correctStart (node.effectivePeriod.map (·.start)) other.effectivePeriod).map
          fun period => { other with effectivePeriod := period }
      else some other
    return { package with modifiers }
  | _ => some package

/-- Corrects a row of a table to the intent. -/
def correctRow (intent : PackageContent) (difference : SemanticDifference)
    (package : PackageContent) : PackageContent :=
  let key := difference.dimensionKey.getD ""
  let change : RateTable → RateTable :=
    match difference.differenceType, intentRow intent difference.nodeId key with
    | .tableRowChange, some row => correctRowValue key row.value
    | .tableRowMissing, some row => addRow row
    | .tableRowExtra, _ => removeRows key
    | _, _ => fun table => table
  { package with tables := changeNode (·.id) difference.nodeId change package.tables }

/-- Corrects the presence of an input to the intent. -/
def correctInput (intent : PackageContent) (difference : SemanticDifference)
    (package : PackageContent) : PackageContent :=
  match lastWith (·.id) intent.inputs difference.nodeId with
  | some input => { package with inputs := package.inputs ++ [input] }
  | none => { package with inputs := package.inputs.filter (·.id ≠ difference.nodeId) }

/-- Corrects one difference; nothing, when the corrected package cannot exist. -/
def correctDifference (intent : PackageContent) (package : PackageContent)
    (difference : SemanticDifference) : Option PackageContent :=
  match difference.differenceType with
  | .effectiveDateChange => correctPeriod intent difference package
  | .missingNode | .extraNode => some (correctInput intent difference package)
  | .valueChange | .modifierChange | .constraintChange | .feeChange =>
    some (correctValue intent difference package)
  | .orderChange => some (correctSequence intent difference package)
  | .tableRowChange | .tableRowMissing | .tableRowExtra =>
    some (correctRow intent difference package)
  | .rangeChange | .ruleChange | .roundingChange | .tableCoverageGap | .outputChange =>
    some package

/-- What a proposal asks for: the defective package with the proposed differences corrected. -/
def correct (intent defective : PackageContent) (proposal : RemediationProposal) :
    Option PackageContent :=
  match comparePackages intent defective with
  | .ok result =>
    (result.differences.filter proposal.proposes).foldlM (correctDifference intent) defective
  | .error _ => none

end RateGuard
