import RateGuard.Foundation.Outcome
import RateGuard.Foundation.Text

/-!
# Users of the protected routes

A route admits the user that the server's directory has for a verified token, and takes the role and
the tenant from there. One key for scripts stands for a user who can only read. Everything else is
turned away with a status and a code.
-/

namespace RateGuard

/-- `Role`. -/
inductive Role where
  | admin | releaseOwner | consumerReviewer | viewer
  deriving DecidableEq, Repr

/-- The value of a role. -/
def Role.value : Role → String
  | .admin => "ADMIN"
  | .releaseOwner => "RELEASE_OWNER"
  | .consumerReviewer => "CONSUMER_REVIEWER"
  | .viewer => "VIEWER"

/-- `Role` of a value. -/
def Role.ofValue (value : List Char) : Option Role :=
  [Role.admin, .releaseOwner, .consumerReviewer, .viewer].find? fun role =>
    role.value.toList = value

/-- `UserRecord`. -/
structure UserRecord where
  /-- User. -/
  uid : String
  /-- Tenant. -/
  tenantId : String
  /-- Role. -/
  role : Role
  /-- Whether the account is closed. -/
  disabled : Bool
  /-- Address. -/
  email : Option String
  deriving DecidableEq

/-- `AuthenticatedUser`. -/
structure AuthenticatedUser where
  /-- User. -/
  uid : String
  /-- Tenant. -/
  tenantId : String
  /-- Role. -/
  role : Role
  /-- Address of the token. -/
  email : Option String
  deriving DecidableEq

/-- A field of a stored document: a text, or another value that is true or false as a condition. -/
inductive DocumentField where
  /-- Text. -/
  | text (content : List Char)
  /-- Another value. -/
  | other (truthy : Bool)
  deriving DecidableEq

/-- `bool` of a field. -/
def DocumentField.truthy : DocumentField → Bool
  | .text content => !content.isEmpty
  | .other truthy => truthy

/-- Fields of a user's document. -/
structure UserDocument where
  /-- Tenant. -/
  tenantId : Option DocumentField
  /-- Role. -/
  role : Option DocumentField
  /-- Whether the account is closed. -/
  disabled : Option DocumentField
  /-- Address. -/
  email : Option DocumentField
  deriving DecidableEq

/-- `parse_user_document`. -/
def parseUserDocument (uid : String) : Option UserDocument → Option UserRecord
  | none => none
  | some document =>
    match document.tenantId with
    | some (.text tenant) =>
      if (Text.strip tenant).isEmpty then none
      else
        match document.role with
        | some (.text value) =>
          (Role.ofValue value).map fun role =>
            { uid
              tenantId := String.ofList (Text.strip tenant)
              role
              disabled := (document.disabled.map DocumentField.truthy).getD false
              email :=
                match document.email with
                | some (.text email) => some (String.ofList email)
                | _ => none }
        | _ => none
    | _ => none

/-- A parsed document has a tenant and keeps the user it is filed under. -/
theorem parseUserDocument_some {uid : String} {document : Option UserDocument} {record : UserRecord}
    (parsed : parseUserDocument uid document = some record) :
    record.uid = uid ∧ record.tenantId ≠ "" := by
  unfold parseUserDocument at parsed
  rcases document with _ | ⟨tenantId, role, disabled, email⟩
  · cases parsed
  · rcases tenantId with _ | (tenant | truthy)
    · cases parsed
    · dsimp only at parsed
      by_cases blank : (Text.strip tenant).isEmpty = true
      · rw [if_pos blank] at parsed
        cases parsed
      · rw [if_neg blank] at parsed
        rcases role with _ | (value | truthy)
        · cases parsed
        · obtain ⟨role, -, rfl⟩ := Option.map_eq_some_iff.mp parsed
          refine ⟨rfl, fun empty => blank ?_⟩
          have stripped : Text.strip tenant = [] := String.ofList_injective empty
          rw [stripped, List.isEmpty_nil]
        · cases parsed
    · cases parsed

/-- Reasons for which a verifier gives no user. -/
inductive VerifierFault where
  /-- `TokenVerificationError`. -/
  | invalid
  /-- `TokenServiceUnavailableError`. -/
  | unavailable
  deriving DecidableEq

/-- `VerifiedToken`. -/
structure VerifiedToken where
  /-- User. -/
  uid : String
  /-- Address. -/
  email : Option String

/-- What a route turns a request away with: a status and a code, or the server's own failure. -/
inductive AccessRefusal where
  /-- `HTTPException`. -/
  | denied (status : Nat) (code : String)
  /-- An exception that no handler expects. -/
  | failure
  deriving DecidableEq

/-- `unauthorized`. -/
def unauthorized (code : String) : AccessRefusal := .denied 401 code

/-- `forbidden`. -/
def forbidden (code : String) : AccessRefusal := .denied 403 code

/-- `auth_unavailable`. -/
def authUnavailable : AccessRefusal := .denied 503 "AUTH_SERVICE_UNAVAILABLE"

/-- What decides about a request besides its headers. -/
structure AccessWorld where
  /-- `demo_api_key`. -/
  demoApiKey : List Char
  /-- `demo_api_key_tenant_id`. -/
  demoApiKeyTenantId : String
  /-- The verifier of tokens. -/
  verify : List Char → Except VerifierFault VerifiedToken
  /-- Documents of the directory, or none for a directory that cannot be read. -/
  documents : String → Option (Option UserDocument)

/-- Headers that a route looks at. -/
structure AccessHeaders where
  /-- `authorization`. -/
  authorization : Option (List Char)
  /-- `x-rateguard-api-key`. -/
  apiKey : Option (List Char)
  deriving DecidableEq

/-- `MAX_TOKEN_LENGTH`. -/
def maxTokenLength : Nat := 8192

/-- The class of characters in `_BEARER_RE`. -/
def isTokenCharacter (character : Char) : Bool :=
  character.isAlpha || character.isDigit || "._~+/=-".toList.contains character

/-- The start that `_BEARER_RE` asks for. -/
def bearerStart : List Char := "Bearer ".toList

/-- `_BEARER_RE.match` of a text, with what its group takes. -/
def matchBearer (text : List Char) : Option (List Char) :=
  if bearerStart.isPrefixOf text && !(text.drop bearerStart.length).isEmpty &&
      (text.drop bearerStart.length).all isTokenCharacter then
    some (text.drop bearerStart.length)
  else none

/-- `_extract_bearer_token`. -/
def extractBearerToken (headers : AccessHeaders) : Except AccessRefusal (List Char) :=
  match headers.authorization with
  | none => .error (unauthorized "AUTHENTICATION_REQUIRED")
  | some header =>
    if header.isEmpty then .error (unauthorized "AUTHENTICATION_REQUIRED")
    else
      match matchBearer (Text.strip header) with
      | none => .error (unauthorized "MALFORMED_AUTHORIZATION")
      | some token =>
        if maxTokenLength < token.length then .error (unauthorized "MALFORMED_AUTHORIZATION")
        else .ok token

/-- Whether a text has characters that `compare_digest` refuses. -/
def hasWideCharacter (text : List Char) : Bool := text.any fun character => 128 ≤ character.toNat

/-- The user of the key for scripts. -/
def AccessWorld.demoUser (world : AccessWorld) : AuthenticatedUser :=
  ⟨"demo-api-key", world.demoApiKeyTenantId, .viewer, none⟩

/-- `_demo_api_key_user`. -/
def demoApiKeyUser (world : AccessWorld) (headers : AccessHeaders) :
    Except AccessRefusal (Option AuthenticatedUser) :=
  if world.demoApiKey.isEmpty then .ok none
  else
    match headers.apiKey with
    | none => .ok none
    | some supplied =>
      if supplied.isEmpty then .ok none
      else if hasWideCharacter supplied || hasWideCharacter world.demoApiKey then .error .failure
      else if supplied = world.demoApiKey then .ok (some world.demoUser)
      else .error (unauthorized "INVALID_API_KEY")

/-- `get_current_user` after the key for scripts: the user of a token. -/
def tokenUser (world : AccessWorld) (token : List Char) : Except AccessRefusal AuthenticatedUser :=
  match world.verify token with
  | .error .invalid => .error (unauthorized "INVALID_TOKEN")
  | .error .unavailable => .error authUnavailable
  | .ok verified =>
    match world.documents verified.uid with
    | none => .error authUnavailable
    | some document =>
      match parseUserDocument verified.uid document with
      | none => .error (forbidden "ACCOUNT_NOT_PROVISIONED")
      | some record =>
        if record.disabled then .error (forbidden "ACCOUNT_DISABLED")
        else .ok ⟨record.uid, record.tenantId, record.role, verified.email⟩

/-- `get_current_user`. -/
def getCurrentUser (world : AccessWorld) (headers : AccessHeaders) :
    Except AccessRefusal AuthenticatedUser := do
  match ← demoApiKeyUser world headers with
  | some user => return user
  | none =>
    let token ← extractBearerToken headers
    tokenUser world token

/-- `require_roles`. -/
def requireRoles (allowed : List Role) (world : AccessWorld) (headers : AccessHeaders) :
    Except AccessRefusal AuthenticatedUser := do
  let user ← getCurrentUser world headers
  if allowed.contains user.role then return user
  else .error (forbidden "INSUFFICIENT_ROLE")

/-- `EXPLANATION_CREATE_ROLES`. -/
def explanationCreateRoles : List Role := [.admin, .releaseOwner, .consumerReviewer]

/-- `EXPLANATION_REVIEW_ROLES`. -/
def explanationReviewRoles : List Role := [.admin, .consumerReviewer]

/-- `READ_ROLES`. -/
def readRoles : List Role := [.admin, .releaseOwner, .consumerReviewer, .viewer]

/-- A user whom the directory has, with an open account. -/
def AccessWorld.Provisions (world : AccessWorld) (user : AuthenticatedUser) : Prop :=
  ∃ document record, world.documents user.uid = some document ∧
    parseUserDocument user.uid document = some record ∧ record.disabled = false ∧
    record.tenantId = user.tenantId ∧ record.role = user.role

/-- The user of a token is one whom the directory has. -/
theorem tokenUser_ok {world : AccessWorld} {token : List Char} {user : AuthenticatedUser}
    (found : tokenUser world token = .ok user) :
    (∃ verified, world.verify token = .ok verified ∧ verified.uid = user.uid) ∧
      world.Provisions user := by
  unfold tokenUser at found
  rcases verification : world.verify token with (_ | _) | verified
  · rw [verification] at found
    cases found
  · rw [verification] at found
    cases found
  · rw [verification] at found
    dsimp only at found
    cases filed : world.documents verified.uid with
    | none =>
      rw [filed] at found
      cases found
    | some document =>
      rw [filed] at found
      dsimp only at found
      cases parsed : parseUserDocument verified.uid document with
      | none =>
        rw [parsed] at found
        cases found
      | some record =>
        rw [parsed] at found
        dsimp only at found
        cases closed : record.disabled with
        | true =>
          rw [closed, if_pos rfl] at found
          cases found
        | false =>
          rw [closed, if_neg Bool.false_ne_true] at found
          cases found
          have same := (parseUserDocument_some parsed).1
          refine ⟨⟨verified, rfl, same.symm⟩, document, record, ?_, ?_, closed, rfl, rfl⟩
          · rw [same]
            exact filed
          · rw [same]
            exact parsed

/-- The key for scripts gives its one user. -/
theorem demoApiKeyUser_some {world : AccessWorld} {headers : AccessHeaders}
    {user : AuthenticatedUser} (found : demoApiKeyUser world headers = .ok (some user)) :
    user = world.demoUser := by
  unfold demoApiKeyUser at found
  by_cases unset : world.demoApiKey.isEmpty = true
  · rw [if_pos unset] at found
    cases found
  · rw [if_neg unset] at found
    cases supply : headers.apiKey with
    | none =>
      rw [supply] at found
      cases found
    | some supplied =>
      rw [supply] at found
      dsimp only at found
      split at found
      · cases found
      · split at found
        · cases found
        · split at found
          · cases found
            rfl
          · cases found

/-- An admitted user has an allowed role, and is in the directory or uses the key for scripts. -/
theorem requireRoles_ok {allowed : List Role} {world : AccessWorld} {headers : AccessHeaders}
    {user : AuthenticatedUser} (admitted : requireRoles allowed world headers = .ok user) :
    user.role ∈ allowed ∧ (world.Provisions user ∨ user = world.demoUser) := by
  obtain ⟨current, found, rest⟩ := Outcome.bind_eq_ok admitted
  have known : world.Provisions current ∨ current = world.demoUser := by
    obtain ⟨demo, first, second⟩ := Outcome.bind_eq_ok found
    cases demo with
    | some own =>
      cases second
      exact .inr (demoApiKeyUser_some first)
    | none =>
      obtain ⟨token, -, verified⟩ := Outcome.bind_eq_ok second
      exact .inl (tokenUser_ok verified).2
  by_cases inside : allowed.contains current.role = true
  · rw [if_pos inside] at rest
    cases rest
    exact ⟨List.contains_iff_mem.mp inside, known⟩
  · rw [if_neg inside] at rest
    cases rest

/-- Where a route does not admit those who only read, it admits users of the directory only. -/
theorem requireRoles_provisioned {allowed : List Role} {world : AccessWorld}
    {headers : AccessHeaders} {user : AuthenticatedUser} (writes : Role.viewer ∉ allowed)
    (admitted : requireRoles allowed world headers = .ok user) :
    user.role ∈ allowed ∧ world.Provisions user := by
  obtain ⟨inside, known | rfl⟩ := requireRoles_ok admitted
  · exact ⟨inside, known⟩
  · exact absurd inside writes

end RateGuard
