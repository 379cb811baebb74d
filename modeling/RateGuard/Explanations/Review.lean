import RateGuard.Access.Users
import RateGuard.Foundation.Dictionary
import RateGuard.Storage.Tenancy

/-!
# Human review of explanations

A draft of a mission becomes a record that reviewers approve or reject. Each request reads the
mission, reads the records and writes one of them in accesses of their own, so that requests of any
users overlap. What a record says about the mission is settled when it is made, and a decision is
never taken back.
-/

open CalendarDate

namespace RateGuard

/-- Status of an explanation. -/
inductive ExplanationStatus where
  | draft | approved | rejected
  deriving DecidableEq

/-- Reason of a rejection, within the bounds of `RejectExplanationRequest`. -/
structure RejectionReason where
  /-- Text. -/
  text : String
  /-- It is neither too short nor too long. -/
  bounded : 3 ≤ text.length ∧ text.length ≤ 1000

/-- The facts of a mission's report, `φ` being what is in them besides their hash. -/
structure ReportedFacts (φ : Type) where
  /-- Hash. -/
  factsSha256 : Option String
  /-- Content. -/
  content : φ

/-- The draft of a mission's report. -/
structure ReportedDraft where
  /-- Text. -/
  draftText : Option String
  /-- Source. -/
  source : Option String
  /-- Whether its values were found in the facts. -/
  validated : Option Bool

/-- The sections of a mission's report that explain it. -/
structure MissionReport (φ : Type) where
  /-- `explanation_facts`. -/
  facts : Option (ReportedFacts φ)
  /-- `explanation_draft`. -/
  draft : Option ReportedDraft

/-- Where an explanation is stored: `missions/{mission_id}/explanations/{explanation_id}`. -/
structure ExplanationKey where
  /-- Mission. -/
  missionId : String
  /-- Explanation. -/
  explanationId : String
  deriving DecidableEq

/-- Record of an explanation. -/
structure ExplanationRecord (φ : Type) where
  /-- Explanation. -/
  explanationId : String
  /-- Mission. -/
  missionId : String
  /-- Tenant. -/
  tenantId : String
  /-- User who made it. -/
  createdBy : String
  /-- Time when it was made. -/
  createdAt : Moment
  /-- Status. -/
  status : ExplanationStatus
  /-- Text. -/
  draftText : String
  /-- Source of the text. -/
  source : String
  /-- Whether its values were found in the facts. -/
  validated : Bool
  /-- Facts. -/
  facts : ReportedFacts φ
  /-- Hash of the facts. -/
  factsSha256 : String
  /-- User who decided. -/
  reviewedBy : Option String
  /-- Time of the decision. -/
  reviewedAt : Option Moment
  /-- Reason of a rejection. -/
  rejectionReason : Option String

variable {φ : Type}

namespace ExplanationRecord

/-- Where a record is stored. -/
def key (record : ExplanationRecord φ) : ExplanationKey := ⟨record.missionId, record.explanationId⟩

/-- What a review leaves as it is: the record before any decision. -/
def original (record : ExplanationRecord φ) : ExplanationRecord φ :=
  { record with status := .draft, reviewedBy := none, reviewedAt := none, rejectionReason := none }

end ExplanationRecord

/-- The part of a random number that is in an explanation's name. -/
structure ExplanationNumber where
  /-- Hexadecimal digits. -/
  digits : List Char
  /-- There are eight. -/
  eight : digits.length = 8
  /-- They are capital. -/
  capital : digits.all ("0123456789ABCDEF".toList.contains ·) = true

/-- Name of an explanation of a mission. -/
def explanationIdOf (number : ExplanationNumber) (missionId : String) : String :=
  String.ofList ("EXP-".toList ++ number.digits ++ '-' :: missionId.toList)

/-- `str.split` at a character with a largest number of splits. -/
def splitAtMost (separator : Char) : Nat → List Char → List (List Char)
  | 0, text => [text]
  | count + 1, text =>
    match text.dropWhile (· ≠ separator) with
    | [] => [text]
    | _ :: rest => text.takeWhile (· ≠ separator) :: splitAtMost separator count rest

/-- `_mission_id_from_explanation_id`. -/
def missionIdFromExplanationId (explanationId : String) : Option String :=
  match splitAtMost '-' 2 explanationId.toList with
  | [start, _, mission] =>
    if start = "EXP".toList ∧ mission ≠ [] then some (String.ofList mission) else none
  | _ => none

/-- A text before a separator is split off. -/
theorem splitAtMost_append {separator : Char} {front : List Char} (count : Nat) (rest : List Char)
    (solid : ∀ character ∈ front, character ≠ separator) :
    splitAtMost separator (count + 1) (front ++ separator :: rest) =
      front :: splitAtMost separator count rest := by
  have passes : ∀ character ∈ front, decide (character ≠ separator) = true :=
    fun character inside => decide_eq_true (solid character inside)
  have stops : decide (separator ≠ separator) = false := by simp
  have dropped : (front ++ separator :: rest).dropWhile (· ≠ separator) = separator :: rest := by
    rw [List.dropWhile_append_of_pos passes]
    exact List.dropWhile_cons_of_neg (by simp)
  have taken : (front ++ separator :: rest).takeWhile (· ≠ separator) = front := by
    rw [List.takeWhile_append_of_pos passes, List.takeWhile_cons_of_neg (by simp), List.append_nil]
  rw [splitAtMost, dropped, taken]

/-- The digits of a number are no separators. -/
theorem ExplanationNumber.solid (number : ExplanationNumber) :
    ∀ character ∈ number.digits, character ≠ '-' := by
  rintro character inside rfl
  have digit := List.all_eq_true.mp number.capital '-' inside
  exact absurd digit (by decide)

/-- The mission of an explanation is read off its name. -/
theorem missionIdFromExplanationId_explanationIdOf (number : ExplanationNumber) {missionId : String}
    (named : missionId ≠ "") :
    missionIdFromExplanationId (explanationIdOf number missionId) = some missionId := by
  have text : (explanationIdOf number missionId).toList =
      "EXP".toList ++ '-' :: (number.digits ++ '-' :: missionId.toList) := by
    unfold explanationIdOf
    rw [String.toList_ofList, List.append_assoc]
    rfl
  have every : "EXP".toList.all (· ≠ '-') = true := by decide
  have front : ∀ character ∈ "EXP".toList, character ≠ '-' := fun character inside =>
    of_decide_eq_true (List.all_eq_true.mp every character inside)
  have kept : missionId.toList ≠ [] := fun empty => named (String.toList_eq_nil_iff.mp empty)
  unfold missionIdFromExplanationId
  rw [text, splitAtMost_append 1 _ front, splitAtMost_append 0 _ number.solid]
  change (if "EXP".toList = "EXP".toList ∧ missionId.toList ≠ [] then
    some (String.ofList missionId.toList) else none) = some missionId
  rw [if_pos ⟨rfl, kept⟩, String.ofList_toList]

/-- What reviewers decide. -/
inductive ExplanationDecision where
  | approve
  | reject (reason : RejectionReason)

namespace ExplanationDecision

/-- Status after a decision. -/
def status : ExplanationDecision → ExplanationStatus
  | .approve => .approved
  | .reject _ => .rejected

/-- Reason of a decision. -/
def reason : ExplanationDecision → Option String
  | .approve => none
  | .reject reason => some reason.text

end ExplanationDecision

/-- A request about explanations. -/
inductive ExplanationRequest where
  /-- `create_explanation`. -/
  | create (missionId : String)
  /-- `approve_explanation` and `reject_explanation`. -/
  | review (explanationId : String) (decision : ExplanationDecision)

/-- Roles that may make a request. -/
def ExplanationRequest.roles : ExplanationRequest → List Role
  | .create _ => explanationCreateRoles
  | .review _ _ => explanationReviewRoles

/-- Answer to a request. -/
inductive ExplanationAnswer (φ : Type) where
  /-- Turned away before anything is read. -/
  | refused (refusal : AccessRefusal)
  /-- No such mission or explanation, or one of another tenant. -/
  | notFound
  /-- `NO_EXPLANATION_AVAILABLE`. -/
  | noExplanationAvailable
  /-- `EXPLANATION_ALREADY_REVIEWED`, with the status. -/
  | alreadyReviewed (status : ExplanationStatus)
  /-- `EXPLANATION_NOT_VALIDATED`. -/
  | notValidated
  /-- The record. -/
  | record (shown : ExplanationRecord φ)

/-- How far a request is. -/
inductive ExplanationProgress (φ : Type) where
  /-- The user is admitted. -/
  | admitted (user : AuthenticatedUser) (request : ExplanationRequest)
  /-- The mission of a new explanation is read. -/
  | described (user : AuthenticatedUser) (missionId tenantId : String) (facts : ReportedFacts φ)
    (draft : ReportedDraft)
  /-- The mission of a reviewed explanation is read. -/
  | reviewing (user : AuthenticatedUser) (missionId explanationId : String)
    (decision : ExplanationDecision)
  /-- A new record is made. -/
  | composed (record : ExplanationRecord φ)
  /-- A decision is in the copy of a record. -/
  | decided (record : ExplanationRecord φ)
  /-- The request is answered. -/
  | answered (answer : ExplanationAnswer φ)

/-- Explanations, missions and requests. -/
structure ReviewState (φ : Type) where
  /-- Missions. -/
  missions : RunStore (MissionReport φ)
  /-- Records of explanations in the order in which they were first saved. -/
  explanations : List (ExplanationKey × ExplanationRecord φ)
  /-- Requests in the order of their arrival. -/
  requests : List (ExplanationProgress φ)

namespace ReviewState

/-- `save_explanation`. -/
def saveExplanation (explanations : List (ExplanationKey × ExplanationRecord φ))
    (record : ExplanationRecord φ) : List (ExplanationKey × ExplanationRecord φ) :=
  Dictionary.change explanations record.key fun _ => record

/-- `get_explanation`. -/
def getExplanation (state : ReviewState φ) (missionId explanationId : String) :
    Option (ExplanationRecord φ) := state.explanations.lookup ⟨missionId, explanationId⟩

/-- `MAX_SUBCOLLECTION_RECORDS`. -/
def maxSubcollectionRecords : Nat := 5000

/-- Explanations of a tenant's mission. -/
def tenantExplanations (state : ReviewState φ) (missionId tenantId : String) :
    List (ExplanationRecord φ) :=
  (state.explanations.filter fun entry => entry.1.missionId = missionId ∧ entry.2.tenantId = tenantId).map
    Prod.snd

/-- `list_explanations`. -/
def listExplanations (state : ReviewState φ) (missionId tenantId : String) :
    List (ExplanationRecord φ) :=
  (state.tenantExplanations missionId tenantId).take maxSubcollectionRecords

end ReviewState

/-- `include_legacy_for`. -/
def includeLegacyFor (legacyTenant : Option String) (user : AuthenticatedUser) : Bool :=
  match legacyTenant with
  | none => false
  | some legacy => legacy ≠ "" ∧ legacy = user.tenantId

/-- The tenant of a new record. -/
def explanationTenant (run : AssuranceRunRecord (MissionReport φ)) (user : AuthenticatedUser) :
    String :=
  match run.tenantId with
  | none => user.tenantId
  | some tenant => if tenant = "" then user.tenantId else tenant

/-- The record that `create_explanation` makes. -/
def newExplanation (user : AuthenticatedUser) (missionId tenantId : String)
    (facts : ReportedFacts φ) (draft : ReportedDraft) (number : ExplanationNumber) (now : Moment) :
    ExplanationRecord φ where
  explanationId := explanationIdOf number missionId
  missionId
  tenantId
  createdBy := user.uid
  createdAt := now
  status := .draft
  draftText := draft.draftText.getD ""
  source := draft.source.getD "deterministic_fallback"
  validated := draft.validated.getD false
  facts
  factsSha256 := facts.factsSha256.getD ""
  reviewedBy := none
  reviewedAt := none
  rejectionReason := none

/-- `_review` on a record that was read: the refusal or the changed copy. -/
def reviewRecord (user : AuthenticatedUser) (decision : ExplanationDecision) (now : Moment)
    (record : ExplanationRecord φ) : ExplanationProgress φ :=
  if record.status ≠ .draft then .answered (.alreadyReviewed record.status)
  else if decision.status = .approved ∧ record.validated = false then .answered .notValidated
  else .decided { record with
    status := decision.status
    reviewedBy := some user.uid
    reviewedAt := some now
    rejectionReason := decision.reason.or record.rejectionReason }

/-- `get_scoped_run`. -/
def getScopedRun (missions : RunStore (MissionReport φ)) (legacyTenant : Option String)
    (user : AuthenticatedUser) (missionId : String) :
    Option (AssuranceRunRecord (MissionReport φ)) :=
  missions.getRunForTenant missionId user.tenantId (includeLegacyFor legacyTenant user)

/-- The first access of a request: the mission. -/
def readMission (missions : RunStore (MissionReport φ)) (legacyTenant : Option String)
    (user : AuthenticatedUser) : ExplanationRequest → ExplanationProgress φ
  | .create missionId =>
    match getScopedRun missions legacyTenant user missionId with
    | none => .answered .notFound
    | some run =>
      match run.content.facts, run.content.draft with
      | some facts, some draft =>
        .described user missionId (explanationTenant run user) facts draft
      | _, _ => .answered .noExplanationAvailable
  | .review explanationId decision =>
    match missionIdFromExplanationId explanationId with
    | none => .answered .notFound
    | some missionId =>
      match getScopedRun missions legacyTenant user missionId with
      | none => .answered .notFound
      | some _ => .reviewing user missionId explanationId decision

/-- The second access of a new explanation: the records of the mission. -/
def readExisting (state : ReviewState φ) (user : AuthenticatedUser) (missionId tenantId : String)
    (facts : ReportedFacts φ) (draft : ReportedDraft) (number : ExplanationNumber) (now : Moment) :
    ExplanationProgress φ :=
  match (state.listExplanations missionId user.tenantId).find? fun existing =>
      some existing.factsSha256 = facts.factsSha256 with
  | some existing => .answered (.record existing)
  | none => .composed (newExplanation user missionId tenantId facts draft number now)

/-- The second access of a review: the record. -/
def readReviewed (state : ReviewState φ) (user : AuthenticatedUser)
    (missionId explanationId : String) (decision : ExplanationDecision) (now : Moment) :
    ExplanationProgress φ :=
  match state.getExplanation missionId explanationId with
  | none => .answered .notFound
  | some record =>
    if record.tenantId ≠ "" ∧ record.tenantId ≠ user.tenantId then .answered .notFound
    else reviewRecord user decision now record

/-- What happens to explanations and missions. -/
inductive ReviewEvent (φ : Type) where
  /-- A request arrives, and its headers are looked at. -/
  | arrive (world : AccessWorld) (headers : AccessHeaders) (request : ExplanationRequest)
  /-- A request makes its next access, with the random number and the time it takes. -/
  | advance (index : Nat) (number : ExplanationNumber) (now : Moment)
  /-- The missions change. -/
  | change (missions : RunStore (MissionReport φ))

/-- A request that arrives. -/
def arrival (world : AccessWorld) (headers : AccessHeaders) (request : ExplanationRequest) :
    ExplanationProgress φ :=
  match requireRoles request.roles world headers with
  | .error refusal => .answered (.refused refusal)
  | .ok user => .admitted user request

namespace ReviewState

/-- A request after its next access. -/
def progressed (legacyTenant : Option String) (state : ReviewState φ) (number : ExplanationNumber)
    (now : Moment) : ExplanationProgress φ → ExplanationProgress φ
  | .admitted user request => readMission state.missions legacyTenant user request
  | .described user missionId tenantId facts draft =>
    readExisting state user missionId tenantId facts draft number now
  | .reviewing user missionId explanationId decision =>
    readReviewed state user missionId explanationId decision now
  | .composed record => .answered (.record record)
  | .decided record => .answered (.record record)
  | .answered answer => .answered answer

/-- Records after the next access of a request. -/
def written (explanations : List (ExplanationKey × ExplanationRecord φ)) :
    ExplanationProgress φ → List (ExplanationKey × ExplanationRecord φ)
  | .composed record => saveExplanation explanations record
  | .decided record => saveExplanation explanations record
  | .admitted _ _ | .described _ _ _ _ _ | .reviewing _ _ _ _ | .answered _ => explanations

/-- One event. -/
def next (legacyTenant : Option String) (state : ReviewState φ) : ReviewEvent φ → ReviewState φ
  | .arrive world headers request =>
    { state with requests := state.requests ++ [arrival world headers request] }
  | .change missions => { state with missions }
  | .advance index number now =>
    match state.requests[index]? with
    | none => state
    | some progress =>
      { state with
        explanations := written state.explanations progress
        requests := state.requests.set index (state.progressed legacyTenant number now progress) }

end ReviewState

/-- A request that has not arrived makes no access. -/
theorem ReviewState.next_advance_none {state : ReviewState φ} {index : Nat}
    (absent : state.requests[index]? = none) (legacyTenant : Option String)
    (number : ExplanationNumber) (now : Moment) :
    state.next legacyTenant (.advance index number now) = state := by
  unfold ReviewState.next
  dsimp only
  rw [absent]

/-- A request that has arrived makes its next access. -/
theorem ReviewState.next_advance_some {state : ReviewState φ} {index : Nat}
    {progress : ExplanationProgress φ} (found : state.requests[index]? = some progress)
    (legacyTenant : Option String) (number : ExplanationNumber) (now : Moment) :
    state.next legacyTenant (.advance index number now) =
      { state with
        explanations := written state.explanations progress
        requests := state.requests.set index (state.progressed legacyTenant number now progress) } := by
  unfold ReviewState.next
  dsimp only
  rw [found]

/-- A user whom a request was admitted from. -/
def Admitted (events : List (ReviewEvent φ)) (user : AuthenticatedUser)
    (request : ExplanationRequest) : Prop :=
  ∃ world headers, .arrive world headers request ∈ events ∧ user.role ∈ request.roles ∧
    world.Provisions user

section Accounts

variable (legacyTenant : Option String) (start : ReviewState φ)

/-- Facts and draft that a mission had in the report that its user could see. -/
structure Described (events : List (ReviewEvent φ)) (user : AuthenticatedUser)
    (missionId tenantId : String) (facts : ReportedFacts φ) (draft : ReportedDraft) : Prop where
  /-- The user may make explanations. -/
  admitted : Admitted events user (.create missionId)
  /-- The tenant is the user's. -/
  tenant : tenantId = user.tenantId ∧ tenantId ≠ ""
  /-- The mission had the report at some time. -/
  reported : ∃ before run, before <+: events ∧
    getScopedRun (Transition.run (ReviewState.next legacyTenant) start before).missions legacyTenant
      user missionId = some run ∧ run.content.facts = some facts ∧ run.content.draft = some draft

/-- What happened so far accounts for a record. -/
structure Accounted (events : List (ReviewEvent φ)) (record : ExplanationRecord φ) : Prop where
  /-- It says what a mission's report said to a user of its tenant. -/
  origin : ∃ user facts draft number now,
    Described legacyTenant start events user record.missionId record.tenantId facts draft ∧
      record.original =
        newExplanation user record.missionId record.tenantId facts draft number now
  /-- No decision, or the one of a reviewer of its tenant. -/
  decision : record = record.original ∨ ∃ user decision now,
    Admitted events user (.review record.explanationId decision) ∧
      user.tenantId = record.tenantId ∧
      (decision.status = .approved → record.validated = true) ∧
      record = { record.original with
        status := decision.status
        reviewedBy := some user.uid
        reviewedAt := some now
        rejectionReason := decision.reason }

/-- What happened so far accounts for how far a request is. -/
def ExplanationProgress.Accounted (events : List (ReviewEvent φ)) : ExplanationProgress φ → Prop
  | .admitted user request => Admitted events user request
  | .described user missionId tenantId facts draft =>
    Described legacyTenant start events user missionId tenantId facts draft
  | .reviewing user missionId explanationId decision =>
    Admitted events user (.review explanationId decision) ∧
      missionIdFromExplanationId explanationId = some missionId
  | .composed record | .decided record => RateGuard.Accounted legacyTenant start events record
  | .answered _ => True

/-- What happened so far accounts for the records and the requests. -/
structure ReviewState.Traced (events : List (ReviewEvent φ)) (state : ReviewState φ) : Prop where
  /-- Records. -/
  stored : ∀ entry ∈ state.explanations,
    entry.1 = entry.2.key ∧ Accounted legacyTenant start events entry.2
  /-- Requests. -/
  underway : ∀ progress ∈ state.requests, progress.Accounted legacyTenant start events

end Accounts

section Growth

variable {legacyTenant : Option String} {start : ReviewState φ} {events : List (ReviewEvent φ)}

/-- An admitted user stays one. -/
theorem Admitted.snoc {user : AuthenticatedUser} {request : ExplanationRequest}
    (admitted : Admitted events user request) (event : ReviewEvent φ) :
    Admitted (events ++ [event]) user request := by
  obtain ⟨world, headers, arrived, role, provisioned⟩ := admitted
  exact ⟨world, headers, List.mem_append_left _ arrived, role, provisioned⟩

/-- A report that a mission had stays one. -/
theorem Described.snoc {user : AuthenticatedUser} {missionId tenantId : String}
    {facts : ReportedFacts φ} {draft : ReportedDraft}
    (described : Described legacyTenant start events user missionId tenantId facts draft)
    (event : ReviewEvent φ) :
    Described legacyTenant start (events ++ [event]) user missionId tenantId facts draft := by
  obtain ⟨before, run, early, read, reported⟩ := described.reported
  exact ⟨described.admitted.snoc event, described.tenant, before, run,
    early.trans (List.prefix_append _ _), read, reported⟩

/-- An account of a record stays one. -/
theorem Accounted.snoc {record : ExplanationRecord φ}
    (accounted : Accounted legacyTenant start events record) (event : ReviewEvent φ) :
    Accounted legacyTenant start (events ++ [event]) record := by
  obtain ⟨user, facts, draft, number, now, described, same⟩ := accounted.origin
  refine ⟨⟨user, facts, draft, number, now, described.snoc event, same⟩, ?_⟩
  rcases accounted.decision with undecided | ⟨reviewer, decision, time, admitted, rest⟩
  · exact .inl undecided
  · exact .inr ⟨reviewer, decision, time, admitted.snoc event, rest⟩

/-- An account of a request stays one. -/
theorem ExplanationProgress.Accounted.snoc {progress : ExplanationProgress φ}
    (accounted : progress.Accounted legacyTenant start events) (event : ReviewEvent φ) :
    progress.Accounted legacyTenant start (events ++ [event]) := by
  cases progress with
  | admitted user request => exact Admitted.snoc accounted event
  | described user missionId tenantId facts draft => exact Described.snoc accounted event
  | reviewing user missionId explanationId decision =>
    exact ⟨Admitted.snoc accounted.1 event, accounted.2⟩
  | composed record => exact RateGuard.Accounted.snoc accounted event
  | decided record => exact RateGuard.Accounted.snoc accounted event
  | answered answer => trivial

end Growth

/-- A mission that a user sees belongs to the user's tenant. -/
theorem explanationTenant_eq {missions : RunStore (MissionReport φ)} {legacyTenant : Option String}
    {user : AuthenticatedUser} {missionId : String} {run : AssuranceRunRecord (MissionReport φ)}
    (seen : getScopedRun missions legacyTenant user missionId = some run) :
    explanationTenant run user = user.tenantId ∧ explanationTenant run user ≠ "" := by
  unfold getScopedRun RunStore.getRunForTenant at seen
  by_cases owned : ownedBy (missions.getRun missionId) user.tenantId
      (includeLegacyFor legacyTenant user) = true
  · rw [if_pos owned] at seen
    rw [seen] at owned
    unfold ownedBy at owned
    dsimp only at owned
    by_cases blank : user.tenantId = ""
    · rw [if_pos blank] at owned
      exact absurd owned Bool.false_ne_true
    · rw [if_neg blank] at owned
      unfold explanationTenant
      cases owner : run.tenantId with
      | none => exact ⟨rfl, blank⟩
      | some tenant =>
        rw [owner] at owned
        dsimp only at owned ⊢
        by_cases empty : tenant = ""
        · rw [if_pos empty]
          exact ⟨rfl, blank⟩
        · rw [if_neg empty] at owned ⊢
          have same : tenant = user.tenantId := of_decide_eq_true owned
          exact ⟨same, empty⟩
  · rw [if_neg owned] at seen
    cases seen

/-- Users who only read make no explanations. -/
theorem viewer_notMem_create : Role.viewer ∉ explanationCreateRoles := by decide

/-- Users who only read review no explanations. -/
theorem viewer_notMem_review : Role.viewer ∉ explanationReviewRoles := by decide

/-- Roles of requests are not those of users who only read. -/
theorem ExplanationRequest.viewer_notMem (request : ExplanationRequest) :
    Role.viewer ∉ request.roles := by
  cases request with
  | create missionId => exact viewer_notMem_create
  | review explanationId decision => exact viewer_notMem_review

/-- An undecided record is its original. -/
theorem Accounted.undecided {legacyTenant : Option String} {start : ReviewState φ}
    {events : List (ReviewEvent φ)} {record : ExplanationRecord φ}
    (accounted : Accounted legacyTenant start events record) (draft : record.status = .draft) :
    record = record.original := by
  rcases accounted.decision with undecided | ⟨user, decision, now, -, -, -, decided⟩
  · exact undecided
  · rw [decided] at draft
    cases decision <;> cases draft

section Steps

variable {legacyTenant : Option String} {start : ReviewState φ} {events : List (ReviewEvent φ)}

/-- A request that arrives is accounted for. -/
theorem arrival_accounted (world : AccessWorld) (headers : AccessHeaders)
    (request : ExplanationRequest) :
    (arrival world headers request : ExplanationProgress φ).Accounted legacyTenant start
      (events ++ [.arrive world headers request]) := by
  unfold arrival
  cases access : requireRoles request.roles world headers with
  | error refusal => trivial
  | ok user =>
    have known := requireRoles_provisioned request.viewer_notMem access
    exact ⟨world, headers, List.mem_append_right _ List.mem_cons_self, known⟩

/-- Reading the mission accounts for what is said about it. -/
theorem readMission_accounted {user : AuthenticatedUser} {request : ExplanationRequest}
    (admitted : Admitted events user request) :
    (readMission (Transition.run (ReviewState.next legacyTenant) start events).missions legacyTenant
      user request).Accounted legacyTenant start events := by
  cases request with
  | create missionId =>
    unfold readMission
    dsimp only
    cases seen : getScopedRun (Transition.run (ReviewState.next legacyTenant) start events).missions
        legacyTenant user missionId with
    | none => trivial
    | some run =>
      dsimp only
      cases reportedFacts : run.content.facts with
      | none => trivial
      | some facts =>
        cases reportedDraft : run.content.draft with
        | none => trivial
        | some draft =>
          exact ⟨admitted, explanationTenant_eq seen, events, run, List.prefix_refl events, seen,
            reportedFacts, reportedDraft⟩
  | review explanationId decision =>
    unfold readMission
    dsimp only
    cases named : missionIdFromExplanationId explanationId with
    | none => trivial
    | some missionId =>
      dsimp only
      cases getScopedRun (Transition.run (ReviewState.next legacyTenant) start events).missions
          legacyTenant user missionId with
      | none => trivial
      | some run => exact ⟨admitted, named⟩

/-- A record made from a mission's report is accounted for. -/
theorem newExplanation_accounted {user : AuthenticatedUser} {missionId tenantId : String}
    {facts : ReportedFacts φ} {draft : ReportedDraft} (number : ExplanationNumber) (now : Moment)
    (described : Described legacyTenant start events user missionId tenantId facts draft) :
    Accounted legacyTenant start events
      (newExplanation user missionId tenantId facts draft number now) :=
  ⟨⟨user, facts, draft, number, now, described, rfl⟩, .inl rfl⟩

/-- A decision about a record of the reviewer's tenant is accounted for. -/
theorem reviewRecord_accounted {user : AuthenticatedUser} {decision : ExplanationDecision}
    {record : ExplanationRecord φ} (now : Moment)
    (admitted : Admitted events user (.review record.explanationId decision))
    (tenant : user.tenantId = record.tenantId)
    (accounted : Accounted legacyTenant start events record) :
    (reviewRecord user decision now record).Accounted legacyTenant start events := by
  unfold reviewRecord
  by_cases settled : record.status ≠ .draft
  · rw [if_pos settled]
    trivial
  · rw [if_neg settled]
    by_cases unsound : decision.status = .approved ∧ record.validated = false
    · rw [if_pos unsound]
      trivial
    · rw [if_neg unsound]
      have same := accounted.undecided (of_not_not settled)
      have noReason : record.rejectionReason = none := by rw [same]; rfl
      refine ⟨accounted.origin, .inr ⟨user, decision, now, admitted, tenant, fun approves => ?_, ?_⟩⟩
      · exact Bool.eq_true_of_not_eq_false fun invalid => unsound ⟨approves, invalid⟩
      · rw [noReason, Option.or_none]
        rfl

/-- The next access of a request that is accounted for leaves it so. -/
theorem progressed_accounted
    (traced : ReviewState.Traced legacyTenant start events
      (Transition.run (ReviewState.next legacyTenant) start events))
    (number : ExplanationNumber) (now : Moment) {progress : ExplanationProgress φ}
    (accounted : progress.Accounted legacyTenant start events) :
    ((Transition.run (ReviewState.next legacyTenant) start events).progressed legacyTenant number
      now progress).Accounted legacyTenant start events := by
  cases progress with
  | admitted user request => exact readMission_accounted accounted
  | described user missionId tenantId facts draft =>
    unfold ReviewState.progressed readExisting
    dsimp only
    split
    · trivial
    · exact newExplanation_accounted number now accounted
  | reviewing user missionId explanationId decision =>
    unfold ReviewState.progressed readReviewed
    dsimp only
    cases found : (Transition.run (ReviewState.next legacyTenant) start events).getExplanation
        missionId explanationId with
    | none => trivial
    | some record =>
      dsimp only
      unfold ReviewState.getExplanation at found
      obtain ⟨key, known⟩ := traced.stored _ (Dictionary.mem_of_lookup found)
      have named : record.explanationId = explanationId := (ExplanationKey.mk.inj key).2.symm
      by_cases foreign : record.tenantId ≠ "" ∧ record.tenantId ≠ user.tenantId
      · rw [if_pos foreign]
        trivial
      · rw [if_neg foreign]
        obtain ⟨creator, facts, draft, number, time, described, -⟩ := known.origin
        have own : record.tenantId = user.tenantId :=
          of_not_not fun other => foreign ⟨described.tenant.2, other⟩
        refine reviewRecord_accounted now ?_ own.symm known
        rw [named]
        exact accounted.1
  | composed record => trivial
  | decided record => trivial
  | answered answer => trivial

/-- Records that are accounted for stay so when an accounted one is saved. -/
theorem saveExplanation_accounted {explanations : List (ExplanationKey × ExplanationRecord φ)}
    {record : ExplanationRecord φ}
    (stored : ∀ entry ∈ explanations,
      entry.1 = entry.2.key ∧ Accounted legacyTenant start events entry.2)
    (accounted : Accounted legacyTenant start events record) :
    ∀ entry ∈ ReviewState.saveExplanation explanations record,
      entry.1 = entry.2.key ∧ Accounted legacyTenant start events entry.2 := by
  intro entry inside
  rcases Dictionary.mem_change inside with same | other
  · rw [same]
    exact ⟨rfl, accounted⟩
  · exact stored entry other

/-- Every event leaves records and requests accounted for. -/
theorem ReviewState.Traced.next
    (traced : ReviewState.Traced legacyTenant start events
      (Transition.run (ReviewState.next legacyTenant) start events)) (event : ReviewEvent φ) :
    ReviewState.Traced legacyTenant start (events ++ [event])
      ((Transition.run (ReviewState.next legacyTenant) start events).next legacyTenant event) := by
  have stored : ∀ entry ∈ (Transition.run (ReviewState.next legacyTenant) start events).explanations,
      entry.1 = entry.2.key ∧ Accounted legacyTenant start (events ++ [event]) entry.2 :=
    fun entry inside => ⟨(traced.stored entry inside).1, (traced.stored entry inside).2.snoc event⟩
  have underway : ∀ progress ∈
      (Transition.run (ReviewState.next legacyTenant) start events).requests,
      progress.Accounted legacyTenant start (events ++ [event]) :=
    fun progress inside => (traced.underway progress inside).snoc event
  cases event with
  | arrive world headers request =>
    refine ⟨stored, fun progress inside => ?_⟩
    rcases List.mem_append.mp inside with old | last
    · exact underway progress old
    · rw [List.mem_singleton.mp last]
      exact arrival_accounted world headers request
  | change missions => exact ⟨stored, underway⟩
  | advance index number now =>
    cases found : (Transition.run (ReviewState.next legacyTenant) start events).requests[index]? with
    | none =>
      rw [ReviewState.next_advance_none found]
      exact ⟨stored, underway⟩
    | some progress =>
      rw [ReviewState.next_advance_some found]
      have inside := List.mem_of_getElem? found
      have known := underway progress inside
      refine ⟨?_, fun other member => ?_⟩
      · cases progress with
        | composed record => exact saveExplanation_accounted stored known
        | decided record => exact saveExplanation_accounted stored known
        | admitted user request => exact stored
        | described user missionId tenantId facts draft => exact stored
        | reviewing user missionId explanationId decision => exact stored
        | answered answer => exact stored
      · rcases List.mem_or_eq_of_mem_set member with old | same
        · exact underway other old
        · rw [same]
          exact (progressed_accounted traced number now (traced.underway progress inside)).snoc _

end Steps

/-- The beginning: missions without explanations. -/
def ReviewState.beginning (missions : RunStore (MissionReport φ)) : ReviewState φ := ⟨missions, [], []⟩

/-- What happened accounts for all records and requests at any time. -/
theorem ReviewState.traced_run (legacyTenant : Option String)
    (missions : RunStore (MissionReport φ)) (events : List (ReviewEvent φ)) :
    ReviewState.Traced legacyTenant (beginning missions) events
      (Transition.run (ReviewState.next legacyTenant) (beginning missions) events) := by
  induction events using List.reverseRecOn with
  | nil =>
    refine ⟨fun entry inside => ?_, fun progress inside => ?_⟩
    · cases inside
    · cases inside
  | append_singleton before event ih =>
    rw [Transition.run_append]
    exact ih.next event

end RateGuard
