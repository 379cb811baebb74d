import RateGuard.Foundation.Dictionary
import RateGuard.Foundation.Transition

/-!
# Artifacts of tenants

An artifact is addressed by a key whose parts are checked when it is made, so that its path stays
under its tenant and tells the parts apart. Artifacts are kept in a bucket that all processes share,
and each process keeps copies of what it saved itself, which it falls back on while the bucket
cannot be used.
-/

namespace RateGuard

/-- The characters that an identifier may have behind its first one. -/
def isIdentifierCharacter (character : Char) : Bool :=
  character.isAlphanum || character = '_' || character = '-'

/-- `validate_identifier`. -/
def validIdentifier : List Char → Bool
  | [] => false
  | first :: rest => first.isAlphanum && rest.length ≤ 127 && rest.all isIdentifierCharacter

/-- `_ALLOWED_KINDS`. -/
def kindAllowed (scope kind : List Char) : Bool :=
  (scope = "sources".toList && (kind = "raw".toList || kind = "compiled".toList)) ||
    (scope = "missions".toList && kind = "evidence".toList)

/-- `ArtifactKey`. -/
@[ext] structure ArtifactKey where
  /-- Tenant. -/
  tenantId : List Char
  /-- Sources or missions. -/
  scope : List Char
  /-- Source or mission. -/
  scopeId : List Char
  /-- Kind. -/
  kind : List Char
  /-- Artifact. -/
  artifactId : List Char
  /-- The tenant is an identifier. -/
  tenantValid : validIdentifier tenantId = true
  /-- The source or mission is an identifier. -/
  scopeValid : validIdentifier scopeId = true
  /-- The artifact is an identifier. -/
  artifactValid : validIdentifier artifactId = true
  /-- The kind belongs to the scope. -/
  allowed : kindAllowed scope kind = true
  deriving DecidableEq

/-- `ArtifactPathError`, with its message. -/
structure ArtifactPathError where
  /-- Message. -/
  message : String
  deriving DecidableEq

namespace ArtifactKey

/-- `ArtifactKey.__post_init__`. -/
def make (tenantId scope scopeId kind artifactId : List Char) :
    Except ArtifactPathError ArtifactKey :=
  if tenantValid : validIdentifier tenantId = true then
    if scopeValid : validIdentifier scopeId = true then
      if artifactValid : validIdentifier artifactId = true then
        if allowed : kindAllowed scope kind = true then
          .ok ⟨tenantId, scope, scopeId, kind, artifactId, tenantValid, scopeValid, artifactValid,
            allowed⟩
        else .error ⟨"Invalid scope/kind combination for an artifact path."⟩
      else .error ⟨"Invalid artifact id for an artifact path."⟩
    else .error ⟨"Invalid " ++ String.ofList scope ++ " id for an artifact path."⟩
  else .error ⟨"Invalid tenant id for an artifact path."⟩

/-- Parts of the path of an artifact. -/
def components (key : ArtifactKey) : List (List Char) :=
  ["tenants".toList, key.tenantId, key.scope, key.scopeId, key.kind, key.artifactId]

/-- `object_path`. -/
def objectPath (key : ArtifactKey) : List Char := ['/'].intercalate key.components

/-- `legacy_object_path`. -/
def legacyObjectPath (key : ArtifactKey) : List Char :=
  ['/'].intercalate ["artifacts".toList, key.artifactId]

end ArtifactKey

/-- An identifier has no separator. -/
theorem separator_notMem {text : List Char} (valid : validIdentifier text = true) :
    '/' ∉ text := by
  intro member
  cases text with
  | nil => cases member
  | cons first rest =>
    rw [validIdentifier, Bool.and_eq_true, Bool.and_eq_true] at valid
    obtain ⟨⟨start, -⟩, others⟩ := valid
    rcases List.mem_cons.mp member with rfl | later
    · exact absurd start (by decide)
    · exact absurd (List.all_eq_true.mp others '/' later) (by decide)

/-- An identifier is no step to the same or the outer folder. -/
theorem validIdentifier_ne_dots {text : List Char} (valid : validIdentifier text = true) :
    text ≠ [] ∧ text ≠ ['.'] ∧ text ≠ ['.', '.'] := by
  refine ⟨?_, ?_, ?_⟩ <;> rintro rfl <;> exact absurd valid (by decide)

/-- A kind and a scope that belong together are identifiers. -/
theorem kindAllowed_valid {scope kind : List Char} (allowed : kindAllowed scope kind = true) :
    validIdentifier scope = true ∧ validIdentifier kind = true := by
  unfold kindAllowed at allowed
  rw [Bool.or_eq_true, Bool.and_eq_true, Bool.and_eq_true, Bool.or_eq_true] at allowed
  rcases allowed with ⟨source, raw | compiled⟩ | ⟨mission, evidence⟩
  · rw [of_decide_eq_true source, of_decide_eq_true raw]
    decide
  · rw [of_decide_eq_true source, of_decide_eq_true compiled]
    decide
  · rw [of_decide_eq_true mission, of_decide_eq_true evidence]
    decide

/-- Names of folders are identifiers. -/
theorem folders_valid :
    validIdentifier "tenants".toList = true ∧ validIdentifier "artifacts".toList = true := by
  decide

namespace ArtifactKey

/-- The parts of a path are identifiers. -/
theorem components_valid (key : ArtifactKey) :
    ∀ part ∈ key.components, validIdentifier part = true := by
  have allowed := kindAllowed_valid key.allowed
  intro part member
  unfold components at member
  simp only [List.mem_cons, List.not_mem_nil, or_false] at member
  rcases member with rfl | rfl | rfl | rfl | rfl | rfl
  · exact folders_valid.1
  · exact key.tenantValid
  · exact allowed.1
  · exact key.scopeValid
  · exact allowed.2
  · exact key.artifactValid

/-- The parts of a path are read off it. -/
theorem objectPath_splitOn (key : ArtifactKey) : key.objectPath.splitOn '/' = key.components :=
  List.splitOn_intercalate '/'
    (fun part member => separator_notMem (key.components_valid part member)) (List.cons_ne_nil _ _)

/-- Different keys have different paths. -/
theorem objectPath_injective : Function.Injective objectPath := by
  intro one other same
  have parts : one.components = other.components := by
    rw [← objectPath_splitOn, same, objectPath_splitOn]
  unfold components at parts
  simp only [List.cons.injEq, true_and, and_true] at parts
  obtain ⟨tenant, scope, scopeId, kind, artifact⟩ := parts
  exact ArtifactKey.ext tenant scope scopeId kind artifact

/-- The parts of a path from before tenants are read off it. -/
theorem legacyObjectPath_splitOn (key : ArtifactKey) :
    key.legacyObjectPath.splitOn '/' = ["artifacts".toList, key.artifactId] := by
  refine List.splitOn_intercalate '/' (fun part member => ?_) (List.cons_ne_nil _ _)
  simp only [List.mem_cons, List.not_mem_nil, or_false] at member
  rcases member with rfl | rfl
  · exact separator_notMem folders_valid.2
  · exact separator_notMem key.artifactValid

/-- No artifact has a path from before tenants. -/
theorem objectPath_ne_legacy (one other : ArtifactKey) :
    one.objectPath ≠ other.legacyObjectPath := by
  intro same
  have parts := congrArg (List.splitOn '/') same
  rw [objectPath_splitOn, legacyObjectPath_splitOn] at parts
  exact absurd (congrArg List.length parts) (by simp [components])

end ArtifactKey

/-- `Path.resolve` of a path below a root without links: steps to the same folder are left out, and
steps to the outer one are made. -/
def resolvePath (root : List (List Char)) (parts : List (List Char)) : List (List Char) :=
  parts.foldl (fun folders part =>
    if part = [] ∨ part = ['.'] then folders
    else if part = ['.', '.'] then folders.dropLast
    else folders ++ [part]) root

/-- `LocalArtifactStore._path_for`. -/
def pathFor (root : List (List Char)) (key : ArtifactKey) :
    Except ArtifactPathError (List (List Char)) :=
  let target := resolvePath root (key.objectPath.splitOn '/')
  if root.isPrefixOf target && root ≠ target then .ok target
  else .error ⟨"Resolved artifact path escapes the storage root."⟩

/-- A path of identifiers stays below the root. -/
theorem resolvePath_identifiers (root : List (List Char)) {parts : List (List Char)}
    (valid : ∀ part ∈ parts, validIdentifier part = true) :
    resolvePath root parts = root ++ parts := by
  unfold resolvePath
  induction parts generalizing root with
  | nil => exact (List.append_nil root).symm
  | cons part rest ih =>
    obtain ⟨some, same, outer⟩ := validIdentifier_ne_dots (valid part List.mem_cons_self)
    rw [List.foldl_cons, if_neg (not_or.mpr ⟨some, same⟩), if_neg outer,
      ih _ fun other later => valid other (List.mem_cons_of_mem part later), List.append_assoc]
    rfl

/-- The file of an artifact is found below the root: the check behind the keys never fails. -/
theorem pathFor_eq (root : List (List Char)) (key : ArtifactKey) :
    pathFor root key = .ok (root ++ key.components) := by
  unfold pathFor
  rw [key.objectPath_splitOn, resolvePath_identifiers root key.components_valid]
  have below : root.isPrefixOf (root ++ key.components) = true :=
    List.isPrefixOf_iff_prefix.mpr (List.prefix_append _ _)
  have other : root ≠ root ++ key.components := by
    intro same
    exact absurd (List.self_eq_append_right.mp same) (List.cons_ne_nil _ _)
  simp only [below, other, ne_eq, not_false_eq_true, decide_true, Bool.and_self, if_true]

/-- Characters that a displayed name keeps. -/
def isNameCharacter (character : Char) : Bool :=
  character.isAlphanum || ['.', '_', ' ', '-'].contains character

/-- Characters that are taken off both ends of a displayed name. -/
def isNameEdge (character : Char) : Bool := character = ' ' || character = '.'

/-- `sanitize_filename`. -/
def sanitizeFilename (name : List Char) : List Char :=
  let base := ((name.map fun character => if character = '\\' then '/' else character).splitOn
    '/').getLastD []
  let cleaned := base.map fun character => if isNameCharacter character then character else '_'
  let trimmed := ((cleaned.dropWhile isNameEdge).rdropWhile isNameEdge).take 120
  if trimmed.isEmpty then "artifact".toList else trimmed

/-- The name that stands for none. -/
theorem fallbackName_safe : "artifact".toList.all isNameCharacter = true := by decide

/-- A displayed name is not empty, not long, and has no characters of paths. -/
theorem sanitizeFilename_safe (name : List Char) :
    sanitizeFilename name ≠ [] ∧ (sanitizeFilename name).length ≤ 120 ∧
      ∀ character ∈ sanitizeFilename name, isNameCharacter character = true := by
  unfold sanitizeFilename
  dsimp only
  generalize ((name.map fun character => if character = '\\' then '/' else character).splitOn
    '/').getLastD [] = base
  have cleaned : ∀ character ∈ base.map (fun character => if isNameCharacter character then character
      else '_'), isNameCharacter character = true := by
    intro character member
    obtain ⟨first, -, rfl⟩ := List.mem_map.mp member
    by_cases kept : isNameCharacter first = true
    · rw [if_pos kept]
      exact kept
    · rw [if_neg kept]
      decide
  generalize base.map (fun character => if isNameCharacter character then character else '_') =
    letters at cleaned
  have inside : ∀ character ∈ ((letters.dropWhile isNameEdge).rdropWhile isNameEdge).take 120,
      isNameCharacter character = true := by
    intro character member
    refine cleaned character ?_
    have trimmed := List.mem_of_mem_take member
    exact (List.dropWhile_suffix _).subset ((List.rdropWhile_prefix _ _).subset trimmed)
  by_cases empty : (((letters.dropWhile isNameEdge).rdropWhile isNameEdge).take 120).isEmpty = true
  · rw [if_pos empty]
    exact ⟨List.cons_ne_nil _ _, by decide, List.all_eq_true.mp fallbackName_safe⟩
  · rw [if_neg empty]
    refine ⟨fun none => empty (List.isEmpty_iff.mpr none), ?_, inside⟩
    exact (List.length_take_le _ _)

/-- `ArtifactCategory`. -/
inductive ArtifactCategory where
  | sourceDocument | sourceWorkbook | sourceJson | ipirPackage | assuranceReport
  deriving DecidableEq

/-- `ArtifactDescriptor` with what the stores look at. -/
structure ArtifactDescriptor where
  /-- Artifact. -/
  artifactId : List Char
  /-- Tenant. -/
  tenantId : Option (List Char)
  /-- Sources or missions. -/
  scope : Option (List Char)
  /-- Source or mission. -/
  scopeId : Option (List Char)
  /-- Kind. -/
  kind : Option (List Char)
  /-- Category. -/
  category : ArtifactCategory
  /-- Displayed name. -/
  filename : List Char
  /-- Type of the content. -/
  contentType : String
  /-- Number of bytes. -/
  sizeBytes : Nat
  /-- Where the content is. -/
  storageUri : List Char
  deriving DecidableEq

/-- The text of a field that is given and not empty. -/
def givenText : Option (List Char) → Option (List Char)
  | none => none
  | some text => if text = [] then none else some text

/-- `descriptor_key`. -/
def descriptorKey (descriptor : ArtifactDescriptor) : Except ArtifactPathError ArtifactKey :=
  match givenText descriptor.tenantId, givenText descriptor.scope, givenText descriptor.scopeId,
    givenText descriptor.kind with
  | some tenant, some scope, some scopeId, some kind =>
    ArtifactKey.make tenant scope scopeId kind descriptor.artifactId
  | _, _, _, _ => .error ⟨"Artifacts must be saved with tenant, scope, scope id and kind."⟩

/-- Name of an object. -/
structure ObjectName where
  /-- Path. -/
  path : List Char
  deriving DecidableEq

/-- Name of a file. -/
structure FileName where
  /-- Folders and the file in its folder. -/
  parts : List (List Char)
  deriving DecidableEq

/-- An object of the bucket. -/
structure ArtifactBlob where
  /-- Content. -/
  content : List UInt8
  /-- Type of the content. -/
  contentType : String
  /-- Category, if the object says one. -/
  category : Option ArtifactCategory
  /-- Displayed name, if the object says one. -/
  filename : Option (List Char)

/-- `LocalArtifactStore`: descriptors under their paths, and contents under their files' parts. -/
structure LocalArtifactStore where
  /-- `_descriptors`. -/
  descriptors : List (ObjectName × ArtifactDescriptor)
  /-- Files. -/
  files : List (FileName × List UInt8)

/-- What all stores of a deployment share. -/
structure ArtifactSettings where
  /-- Folder of the local stores. -/
  root : List (List Char)
  /-- Name of the bucket. -/
  bucketName : List Char
  /-- `legacy_record_tenant_id`. -/
  legacyTenant : Option (List Char)

/-- Why an operation of a store fails. -/
inductive ArtifactFault where
  /-- A key or a path is not allowed. -/
  | path (error : ArtifactPathError)
  /-- The bucket cannot be used, and there is no falling back. -/
  | bucket
  deriving DecidableEq

namespace LocalArtifactStore

variable (settings : ArtifactSettings)

/-- Text of an absolute path. -/
def pathText (parts : List (List Char)) : List Char := '/' :: ['/'].intercalate parts

/-- `LocalArtifactStore.save_artifact`. -/
def saveArtifact (store : LocalArtifactStore) (descriptor : ArtifactDescriptor)
    (content : List UInt8) : Except ArtifactPathError (ArtifactDescriptor × LocalArtifactStore) := do
  let key ← descriptorKey descriptor
  let target ← pathFor settings.root key
  let saved := { descriptor with
    filename := sanitizeFilename descriptor.filename
    storageUri := pathText target
    sizeBytes := content.length }
  return (saved, ⟨Dictionary.change store.descriptors ⟨key.objectPath⟩ fun _ => saved,
    Dictionary.change store.files ⟨target⟩ fun _ => content⟩)

/-- `LocalArtifactStore.get_artifact_content`. -/
def getArtifactContent (store : LocalArtifactStore) (key : ArtifactKey) :
    Except ArtifactPathError (Option (List UInt8)) :=
  match store.descriptors.lookup ⟨key.objectPath⟩ with
  | none => .ok none
  | some _ => (pathFor settings.root key).map fun target => store.files.lookup ⟨target⟩

/-- `LocalArtifactStore.get_descriptor`. -/
def getDescriptor (store : LocalArtifactStore) (key : ArtifactKey) : Option ArtifactDescriptor :=
  store.descriptors.lookup ⟨key.objectPath⟩

end LocalArtifactStore

/-- The bucket and the local stores of all processes. -/
structure ArtifactWorld where
  /-- Objects of the bucket. -/
  bucket : List (ObjectName × ArtifactBlob)
  /-- Local stores. -/
  locals : Nat → LocalArtifactStore

/-- How a call finds the bucket. -/
inductive BucketCondition where
  /-- It works. -/
  | working
  /-- A call to it raises, which the store survives. -/
  | fallingBack
  /-- A call to it raises, which the store passes on. -/
  | raising
  deriving DecidableEq

/-- `legacy_readable_by`. -/
def legacyReadableBy (settings : ArtifactSettings) (key : ArtifactKey) : Bool :=
  match settings.legacyTenant with
  | none => false
  | some legacy => legacy ≠ [] && legacy = key.tenantId &&
    (key.kind = "raw".toList || key.kind = "compiled".toList)

/-- `_candidate_paths`. -/
def candidatePaths (settings : ArtifactSettings) (key : ArtifactKey) : List (List Char) :=
  key.objectPath :: if legacyReadableBy settings key then [key.legacyObjectPath] else []

/-- Address of an object of the bucket. -/
def bucketUri (settings : ArtifactSettings) (path : List Char) : List Char :=
  "gs://".toList ++ settings.bucketName ++ '/' :: path

namespace ArtifactWorld

variable (settings : ArtifactSettings)

/-- A world with another local store of a process. -/
def withLocal (world : ArtifactWorld) (process : Nat) (store : LocalArtifactStore) :
    ArtifactWorld :=
  { world with locals := Function.update world.locals process store }

/-- `GCSArtifactStore.save_artifact`. The descriptor that the local store keeps is the one that is
returned, so that it gets the address of the object too. -/
def saveArtifact (world : ArtifactWorld) (process : Nat) (condition : BucketCondition)
    (descriptor : ArtifactDescriptor) (content : List UInt8) :
    Except ArtifactFault ArtifactDescriptor × ArtifactWorld :=
  match descriptorKey descriptor with
  | .error error => (.error (.path error), world)
  | .ok key =>
    match (world.locals process).saveArtifact settings descriptor content with
    | .error error => (.error (.path error), world)
    | .ok (saved, store) =>
      match condition with
      | .fallingBack => (.ok saved, world.withLocal process store)
      | .raising => (.error .bucket, world.withLocal process store)
      | .working =>
        let addressed := { saved with storageUri := bucketUri settings key.objectPath }
        let blob : ArtifactBlob :=
          ⟨content, descriptor.contentType, some descriptor.category,
            some (sanitizeFilename saved.filename)⟩
        (.ok addressed, { world.withLocal process { store with
            descriptors := Dictionary.change store.descriptors ⟨key.objectPath⟩ fun _ => addressed }
          with bucket := Dictionary.change world.bucket ⟨key.objectPath⟩ fun _ => blob })

/-- The first object under some paths. -/
def firstBlob (world : ArtifactWorld) (paths : List (List Char)) :
    Option (List Char × ArtifactBlob) :=
  paths.findSome? fun path => (world.bucket.lookup ⟨path⟩).map fun blob => (path, blob)

/-- What the local store of a process has of an artifact. -/
def localContent (world : ArtifactWorld) (process : Nat) (key : ArtifactKey) :
    Except ArtifactFault (Option (List UInt8)) :=
  match (world.locals process).getArtifactContent settings key with
  | .ok content => .ok content
  | .error error => .error (.path error)

/-- `GCSArtifactStore.get_artifact_content`. -/
def getArtifactContent (world : ArtifactWorld) (process : Nat) (condition : BucketCondition)
    (key : ArtifactKey) : Except ArtifactFault (Option (List UInt8)) :=
  match condition with
  | .raising => .error .bucket
  | .fallingBack => world.localContent settings process key
  | .working =>
    match world.firstBlob (candidatePaths settings key) with
    | some (_, blob) => .ok (some blob.content)
    | none => world.localContent settings process key

/-- The descriptor that an object of the bucket stands for. -/
def blobDescriptor (key : ArtifactKey) (path : List Char) (blob : ArtifactBlob) :
    ArtifactDescriptor where
  artifactId := key.artifactId
  tenantId := if path = key.legacyObjectPath then none else some key.tenantId
  scope := some key.scope
  scopeId := some key.scopeId
  kind := some key.kind
  category := blob.category.getD .sourceJson
  filename := sanitizeFilename (blob.filename.getD key.artifactId)
  contentType := if blob.contentType = "" then "application/octet-stream" else blob.contentType
  sizeBytes := blob.content.length
  storageUri := bucketUri settings path

/-- `GCSArtifactStore.get_descriptor`. -/
def getDescriptor (world : ArtifactWorld) (process : Nat) (condition : BucketCondition)
    (key : ArtifactKey) : Except ArtifactFault (Option ArtifactDescriptor) :=
  match (world.locals process).getDescriptor key with
  | some cached => .ok (some cached)
  | none =>
    match condition with
    | .raising => .error .bucket
    | .fallingBack => .ok none
    | .working => .ok ((world.firstBlob (candidatePaths settings key)).map fun found =>
        blobDescriptor settings key found.1 found.2)

/-- `GCSArtifactStore.exists`. -/
def artifactExists (world : ArtifactWorld) (process : Nat) (condition : BucketCondition)
    (key : ArtifactKey) : Except ArtifactFault Bool :=
  (world.getDescriptor settings process condition key).map (·.isSome)

end ArtifactWorld

/-- A call of a store. -/
inductive ArtifactCall where
  /-- `save_artifact`. -/
  | save (process : Nat) (condition : BucketCondition) (descriptor : ArtifactDescriptor)
    (content : List UInt8)
  /-- `get_artifact_content`. -/
  | content (process : Nat) (condition : BucketCondition) (key : ArtifactKey)
  /-- `get_descriptor`. -/
  | descriptor (process : Nat) (condition : BucketCondition) (key : ArtifactKey)
  /-- `exists`. -/
  | exist (process : Nat) (condition : BucketCondition) (key : ArtifactKey)

/-- What a call returns or raises. -/
inductive ArtifactAnswer where
  /-- Descriptor of a saved artifact. -/
  | saved (result : Except ArtifactFault ArtifactDescriptor)
  /-- Content. -/
  | content (result : Except ArtifactFault (Option (List UInt8)))
  /-- Descriptor. -/
  | descriptor (result : Except ArtifactFault (Option ArtifactDescriptor))
  /-- Whether there is an artifact. -/
  | exist (result : Except ArtifactFault Bool)

namespace ArtifactCall

/-- The tenant on whose behalf a call is made. -/
def tenant : ArtifactCall → Option (List Char)
  | .save _ _ saved _ => saved.tenantId
  | .content _ _ key | .descriptor _ _ key | .exist _ _ key => some key.tenantId

/-- The key under which a call saves. -/
def savedKey : ArtifactCall → Option ArtifactKey
  | .save _ _ saved _ => (descriptorKey saved).toOption
  | .content _ _ _ | .descriptor _ _ _ | .exist _ _ _ => none

end ArtifactCall

namespace ArtifactWorld

variable (settings : ArtifactSettings)

/-- Answer to a call. -/
def answer (world : ArtifactWorld) : ArtifactCall → ArtifactAnswer
  | .save process condition descriptor content =>
    .saved (world.saveArtifact settings process condition descriptor content).1
  | .content process condition key =>
    .content (world.getArtifactContent settings process condition key)
  | .descriptor process condition key =>
    .descriptor (world.getDescriptor settings process condition key)
  | .exist process condition key => .exist (world.artifactExists settings process condition key)

/-- World after a call. -/
def next (world : ArtifactWorld) : ArtifactCall → ArtifactWorld
  | .save process condition descriptor content =>
    (world.saveArtifact settings process condition descriptor content).2
  | .content _ _ _ | .descriptor _ _ _ | .exist _ _ _ => world

end ArtifactWorld

/-- The key of a descriptor is one of the descriptor's tenant. -/
theorem descriptorKey_tenant {descriptor : ArtifactDescriptor} {key : ArtifactKey}
    (made : descriptorKey descriptor = .ok key) : descriptor.tenantId = some key.tenantId := by
  unfold descriptorKey at made
  cases tenantGiven : givenText descriptor.tenantId with
  | none =>
    rw [tenantGiven] at made
    cases made
  | some tenant =>
    cases scopeGiven : givenText descriptor.scope with
    | none =>
      rw [tenantGiven, scopeGiven] at made
      cases made
    | some scope =>
      cases scopeIdGiven : givenText descriptor.scopeId with
      | none =>
        rw [tenantGiven, scopeGiven, scopeIdGiven] at made
        cases made
      | some scopeId =>
        cases kindGiven : givenText descriptor.kind with
        | none =>
          rw [tenantGiven, scopeGiven, scopeIdGiven, kindGiven] at made
          cases made
        | some kind =>
          rw [tenantGiven, scopeGiven, scopeIdGiven, kindGiven] at made
          dsimp only at made
          unfold ArtifactKey.make at made
          split_ifs at made
          cases made
          unfold givenText at tenantGiven
          cases given : descriptor.tenantId with
          | none =>
            rw [given] at tenantGiven
            cases tenantGiven
          | some text =>
            rw [given] at tenantGiven
            dsimp only at tenantGiven
            split_ifs at tenantGiven
            cases tenantGiven
            rfl

section Saving

variable (settings : ArtifactSettings)

/-- The descriptor that a local store keeps. -/
def savedDescriptor (key : ArtifactKey) (descriptor : ArtifactDescriptor) (content : List UInt8) :
    ArtifactDescriptor :=
  { descriptor with
    filename := sanitizeFilename descriptor.filename
    storageUri := LocalArtifactStore.pathText (settings.root ++ key.components)
    sizeBytes := content.length }

/-- The descriptor with the address of the object in the bucket. -/
def addressedDescriptor (key : ArtifactKey) (descriptor : ArtifactDescriptor)
    (content : List UInt8) : ArtifactDescriptor :=
  { savedDescriptor settings key descriptor content with
    storageUri := bucketUri settings key.objectPath }

/-- The object that is saved in the bucket. -/
def savedBlob (descriptor : ArtifactDescriptor) (content : List UInt8) : ArtifactBlob :=
  ⟨content, descriptor.contentType, some descriptor.category,
    some (sanitizeFilename (sanitizeFilename descriptor.filename))⟩

/-- A local store after a save. -/
def savedLocally (store : LocalArtifactStore) (key : ArtifactKey) (kept : ArtifactDescriptor)
    (content : List UInt8) : LocalArtifactStore :=
  ⟨Dictionary.change store.descriptors ⟨key.objectPath⟩ fun _ => kept,
    Dictionary.change store.files ⟨settings.root ++ key.components⟩ fun _ => content⟩

variable {settings}

/-- A local store saves under every key. -/
theorem LocalArtifactStore.saveArtifact_ok {store : LocalArtifactStore}
    {descriptor : ArtifactDescriptor} {key : ArtifactKey}
    (made : descriptorKey descriptor = .ok key) (content : List UInt8) :
    store.saveArtifact settings descriptor content =
      .ok (savedDescriptor settings key descriptor content,
        savedLocally settings store key (savedDescriptor settings key descriptor content)
          content) := by
  unfold LocalArtifactStore.saveArtifact
  rw [made]
  change (pathFor settings.root key >>= _) = _
  rw [pathFor_eq]
  rfl

/-- What a save does to the world. -/
theorem ArtifactWorld.saveArtifact_ok {world : ArtifactWorld} {descriptor : ArtifactDescriptor}
    {key : ArtifactKey} (made : descriptorKey descriptor = .ok key) (process : Nat)
    (condition : BucketCondition) (content : List UInt8) :
    world.saveArtifact settings process condition descriptor content =
      match condition with
      | .fallingBack => (.ok (savedDescriptor settings key descriptor content),
          world.withLocal process (savedLocally settings (world.locals process) key
            (savedDescriptor settings key descriptor content) content))
      | .raising => (.error .bucket,
          world.withLocal process (savedLocally settings (world.locals process) key
            (savedDescriptor settings key descriptor content) content))
      | .working => (.ok (addressedDescriptor settings key descriptor content),
          { world.withLocal process (savedLocally settings (world.locals process) key
              (addressedDescriptor settings key descriptor content) content) with
            bucket := Dictionary.change world.bucket ⟨key.objectPath⟩ fun _ =>
              savedBlob descriptor content }) := by
  unfold ArtifactWorld.saveArtifact
  rw [made]
  dsimp only
  rw [LocalArtifactStore.saveArtifact_ok made]
  dsimp only
  cases condition with
  | fallingBack => rfl
  | raising => rfl
  | working =>
    dsimp only
    unfold savedLocally
    dsimp only
    rw [Dictionary.change_change]
    rfl

/-- A save without a key does nothing. -/
theorem ArtifactWorld.saveArtifact_error {world : ArtifactWorld} {descriptor : ArtifactDescriptor}
    {error : ArtifactPathError} (refused : descriptorKey descriptor = .error error) (process : Nat)
    (condition : BucketCondition) (content : List UInt8) :
    world.saveArtifact settings process condition descriptor content =
      (.error (.path error), world) := by
  unfold ArtifactWorld.saveArtifact
  rw [refused]

end Saving

/-- What the bucket and the processes have under one key. -/
@[ext] structure ArtifactView where
  /-- Object of the bucket. -/
  blob : Option ArtifactBlob
  /-- Descriptors of the processes. -/
  descriptors : Nat → Option ArtifactDescriptor
  /-- Files of the processes. -/
  files : Nat → Option (List UInt8)

namespace ArtifactWorld

variable (settings : ArtifactSettings)

/-- What a world has under a key. -/
def view (world : ArtifactWorld) (key : ArtifactKey) : ArtifactView where
  blob := world.bucket.lookup ⟨key.objectPath⟩
  descriptors process := (world.locals process).descriptors.lookup ⟨key.objectPath⟩
  files process := (world.locals process).files.lookup ⟨settings.root ++ key.components⟩

end ArtifactWorld

section Views

variable {settings : ArtifactSettings} {world : ArtifactWorld}

/-- The descriptor that a save leaves in its process. -/
def keptDescriptor (settings : ArtifactSettings) (condition : BucketCondition) (key : ArtifactKey)
    (descriptor : ArtifactDescriptor) (content : List UInt8) : ArtifactDescriptor :=
  match condition with
  | .working => addressedDescriptor settings key descriptor content
  | .fallingBack | .raising => savedDescriptor settings key descriptor content

/-- What there is under a key after a save under it. -/
def ArtifactView.saved (settings : ArtifactSettings) (process : Nat) (condition : BucketCondition)
    (key : ArtifactKey) (descriptor : ArtifactDescriptor) (content : List UInt8)
    (view : ArtifactView) : ArtifactView where
  blob :=
    match condition with
    | .working => some (savedBlob descriptor content)
    | .fallingBack | .raising => view.blob
  descriptors := Function.update view.descriptors process
    (some (keptDescriptor settings condition key descriptor content))
  files := Function.update view.files process (some content)

/-- Different keys have different files. -/
theorem files_injective (root : List (List Char)) {one other : ArtifactKey}
    (same : root ++ one.components = root ++ other.components) : one = other := by
  refine ArtifactKey.objectPath_injective ?_
  unfold ArtifactKey.objectPath
  rw [List.append_cancel_left same]

/-- A local save changes what there is under its key only. -/
theorem savedLocally_lookup (store : LocalArtifactStore) (key other : ArtifactKey)
    (kept : ArtifactDescriptor) (content : List UInt8) :
    (savedLocally settings store key kept content).descriptors.lookup ⟨other.objectPath⟩ =
        (if other = key then some kept else store.descriptors.lookup ⟨other.objectPath⟩) ∧
      (savedLocally settings store key kept content).files.lookup
          ⟨settings.root ++ other.components⟩ =
        (if other = key then some content
          else store.files.lookup ⟨settings.root ++ other.components⟩) := by
  unfold savedLocally
  dsimp only
  rw [Dictionary.lookup_change, Dictionary.lookup_change]
  by_cases same : other = key
  · rw [same, if_pos rfl, if_pos rfl, if_pos rfl, if_pos rfl]
    exact ⟨rfl, rfl⟩
  · rw [if_neg same, if_neg same,
      if_neg fun path => same (ArtifactKey.objectPath_injective (ObjectName.mk.inj path)),
      if_neg fun file => same (files_injective settings.root (FileName.mk.inj file))]
    exact ⟨rfl, rfl⟩

/-- A world after a local save under another key. -/
theorem view_withLocal (process : Nat) (key other : ArtifactKey) (kept : ArtifactDescriptor)
    (content : List UInt8) :
    (world.withLocal process (savedLocally settings (world.locals process) key kept content)).view
        settings other =
      if other = key then
        { world.view settings other with
          descriptors := Function.update (world.view settings other).descriptors process (some kept)
          files := Function.update (world.view settings other).files process (some content) }
      else world.view settings other := by
  unfold ArtifactWorld.view ArtifactWorld.withLocal
  have lookups := @savedLocally_lookup settings (world.locals process) key other kept content
  by_cases same : other = key
  · rw [if_pos same, if_pos same] at lookups
    rw [if_pos same]
    refine ArtifactView.ext rfl (funext fun reader => ?_) (funext fun reader => ?_)
    · by_cases own : reader = process
      · subst own
        simp only [Function.update_self]
        exact lookups.1
      · simp only [Function.update_of_ne own]
    · by_cases own : reader = process
      · subst own
        simp only [Function.update_self]
        exact lookups.2
      · simp only [Function.update_of_ne own]
  · rw [if_neg same, if_neg same] at lookups
    rw [if_neg same]
    refine ArtifactView.ext rfl (funext fun reader => ?_) (funext fun reader => ?_)
    · by_cases own : reader = process
      · subst own
        simp only [Function.update_self]
        exact lookups.1
      · simp only [Function.update_of_ne own]
    · by_cases own : reader = process
      · subst own
        simp only [Function.update_self]
        exact lookups.2
      · simp only [Function.update_of_ne own]

/-- A save changes what there is under its key only. -/
theorem view_saveArtifact {descriptor : ArtifactDescriptor} {key : ArtifactKey}
    (made : descriptorKey descriptor = .ok key) (process : Nat) (condition : BucketCondition)
    (content : List UInt8) (other : ArtifactKey) :
    (world.saveArtifact settings process condition descriptor content).2.view settings other =
      if other = key then
        (world.view settings other).saved settings process condition key descriptor content
      else world.view settings other := by
  rw [ArtifactWorld.saveArtifact_ok made]
  cases condition with
  | fallingBack => exact view_withLocal process key other _ content
  | raising => exact view_withLocal process key other _ content
  | working =>
    have locals := @view_withLocal settings world process key other
      (addressedDescriptor settings key descriptor content) content
    have bucket := Dictionary.lookup_change world.bucket ⟨key.objectPath⟩ ⟨other.objectPath⟩
      fun _ => savedBlob descriptor content
    by_cases same : other = key
    · rw [if_pos same] at locals ⊢
      rw [if_pos (congrArg (fun named => ObjectName.mk named.objectPath) same)] at bucket
      have descriptors := congrArg ArtifactView.descriptors locals
      have files := congrArg ArtifactView.files locals
      exact ArtifactView.ext bucket descriptors files
    · rw [if_neg same] at locals ⊢
      rw [if_neg fun path => same (ArtifactKey.objectPath_injective (ObjectName.mk.inj path))]
        at bucket
      have descriptors := congrArg ArtifactView.descriptors locals
      have files := congrArg ArtifactView.files locals
      exact ArtifactView.ext bucket descriptors files

/-- No call changes an object from before tenants. -/
theorem legacy_next (call : ArtifactCall) (other : ArtifactKey) :
    (world.next settings call).bucket.lookup ⟨other.legacyObjectPath⟩ =
      world.bucket.lookup ⟨other.legacyObjectPath⟩ := by
  cases call with
  | content process condition key => rfl
  | descriptor process condition key => rfl
  | exist process condition key => rfl
  | save process condition descriptor content =>
    unfold ArtifactWorld.next
    dsimp only
    cases made : descriptorKey descriptor with
    | error error => rw [ArtifactWorld.saveArtifact_error made]
    | ok key =>
      rw [ArtifactWorld.saveArtifact_ok made]
      cases condition with
      | fallingBack => rfl
      | raising => rfl
      | working =>
        dsimp only
        rw [Dictionary.lookup_change,
          if_neg fun path => key.objectPath_ne_legacy other (ObjectName.mk.inj path).symm]

/-- A call changes what there is under the key that it saves under only. -/
theorem view_next (call : ArtifactCall) (other : ArtifactKey) (away : call.savedKey ≠ some other) :
    (world.next settings call).view settings other = world.view settings other := by
  cases call with
  | content process condition key => rfl
  | descriptor process condition key => rfl
  | exist process condition key => rfl
  | save process condition descriptor content =>
    unfold ArtifactWorld.next
    dsimp only
    cases made : descriptorKey descriptor with
    | error error => rw [ArtifactWorld.saveArtifact_error made]
    | ok key =>
      rw [view_saveArtifact made, if_neg]
      rintro rfl
      refine away ?_
      unfold ArtifactCall.savedKey
      dsimp only
      rw [made]
      rfl

/-- Content as it is found in what there is under a key. -/
theorem getArtifactContent_eq (process : Nat) (condition : BucketCondition) (key : ArtifactKey) :
    world.getArtifactContent settings process condition key =
      match condition with
      | .raising => .error .bucket
      | .fallingBack => .ok (((world.view settings key).descriptors process).bind fun _ =>
          (world.view settings key).files process)
      | .working =>
        match (world.view settings key).blob.or (if legacyReadableBy settings key then
            world.bucket.lookup ⟨key.legacyObjectPath⟩ else none) with
        | some blob => .ok (some blob.content)
        | none => .ok (((world.view settings key).descriptors process).bind fun _ =>
            (world.view settings key).files process) := by
  have fallback : world.localContent settings process key =
      .ok (((world.view settings key).descriptors process).bind fun _ =>
        (world.view settings key).files process) := by
    unfold ArtifactWorld.localContent LocalArtifactStore.getArtifactContent ArtifactWorld.view
    dsimp only
    cases (world.locals process).descriptors.lookup ⟨key.objectPath⟩ with
    | none => rfl
    | some descriptor =>
      dsimp only
      rw [pathFor_eq]
      rfl
  unfold ArtifactWorld.getArtifactContent
  cases condition with
  | raising => rfl
  | fallingBack => exact fallback
  | working =>
    dsimp only
    rw [fallback]
    unfold ArtifactWorld.firstBlob candidatePaths ArtifactWorld.view
    dsimp only
    rw [List.findSome?_cons]
    cases world.bucket.lookup ⟨key.objectPath⟩ with
    | some blob => rfl
    | none =>
      rw [Option.map_none, Option.none_or]
      by_cases readable : legacyReadableBy settings key = true
      · rw [if_pos readable, if_pos readable, List.findSome?_cons]
        cases world.bucket.lookup ⟨key.legacyObjectPath⟩ <;> rfl
      · rw [if_neg readable, if_neg readable]
        rfl

/-- Descriptor as it is found in what there is under a key. -/
theorem getDescriptor_eq (process : Nat) (condition : BucketCondition) (key : ArtifactKey) :
    world.getDescriptor settings process condition key =
      match (world.view settings key).descriptors process with
      | some cached => .ok (some cached)
      | none =>
        match condition with
        | .raising => .error .bucket
        | .fallingBack => .ok none
        | .working => .ok (((world.view settings key).blob.map fun blob =>
            ArtifactWorld.blobDescriptor settings key key.objectPath blob).or
              (if legacyReadableBy settings key then
                (world.bucket.lookup ⟨key.legacyObjectPath⟩).map fun blob =>
                  ArtifactWorld.blobDescriptor settings key key.legacyObjectPath blob
              else none)) := by
  have first : (world.firstBlob (candidatePaths settings key)).map (fun found =>
        ArtifactWorld.blobDescriptor settings key found.1 found.2) =
      ((world.view settings key).blob.map fun blob =>
        ArtifactWorld.blobDescriptor settings key key.objectPath blob).or
          (if legacyReadableBy settings key then
            (world.bucket.lookup ⟨key.legacyObjectPath⟩).map fun blob =>
              ArtifactWorld.blobDescriptor settings key key.legacyObjectPath blob
          else none) := by
    unfold ArtifactWorld.firstBlob candidatePaths ArtifactWorld.view
    dsimp only
    rw [List.findSome?_cons]
    cases world.bucket.lookup ⟨key.objectPath⟩ with
    | some blob => rfl
    | none =>
      rw [Option.map_none, Option.map_none, Option.none_or]
      by_cases readable : legacyReadableBy settings key = true
      · rw [if_pos readable, if_pos readable, List.findSome?_cons]
        cases world.bucket.lookup ⟨key.legacyObjectPath⟩ <;> rfl
      · rw [if_neg readable, if_neg readable]
        rfl
  unfold ArtifactWorld.getDescriptor LocalArtifactStore.getDescriptor
  rw [first]
  rfl

end Views

/-- Whether two worlds look alike to a tenant: under its keys, and in the objects from before
tenants. -/
def AlikeTo (settings : ArtifactSettings) (tenant : List Char) (one other : ArtifactWorld) : Prop :=
  ∀ key : ArtifactKey, key.tenantId = tenant →
    one.view settings key = other.view settings key ∧
      one.bucket.lookup ⟨key.legacyObjectPath⟩ = other.bucket.lookup ⟨key.legacyObjectPath⟩

section Isolation

variable {settings : ArtifactSettings} {tenant : List Char} {one other : ArtifactWorld}

/-- A tenant's call is answered alike by worlds that look alike to it. -/
theorem AlikeTo.answer {call : ArtifactCall} (own : call.tenant = some tenant)
    (alike : AlikeTo settings tenant one other) :
    one.answer settings call = other.answer settings call := by
  cases call with
  | save process condition descriptor content =>
    refine congrArg ArtifactAnswer.saved ?_
    cases made : descriptorKey descriptor with
    | error error =>
      rw [ArtifactWorld.saveArtifact_error made, ArtifactWorld.saveArtifact_error made]
    | ok key =>
      rw [ArtifactWorld.saveArtifact_ok made, ArtifactWorld.saveArtifact_ok made]
      cases condition <;> rfl
  | content process condition key =>
    obtain ⟨view, legacy⟩ := alike key (Option.some.inj own)
    refine congrArg ArtifactAnswer.content ?_
    rw [getArtifactContent_eq, getArtifactContent_eq, view, legacy]
  | descriptor process condition key =>
    obtain ⟨view, legacy⟩ := alike key (Option.some.inj own)
    refine congrArg ArtifactAnswer.descriptor ?_
    rw [getDescriptor_eq, getDescriptor_eq, view, legacy]
  | exist process condition key =>
    obtain ⟨view, legacy⟩ := alike key (Option.some.inj own)
    refine congrArg ArtifactAnswer.exist ?_
    unfold ArtifactWorld.artifactExists
    rw [getDescriptor_eq, getDescriptor_eq, view, legacy]

/-- A call leaves worlds that look alike to a tenant so. -/
theorem AlikeTo.next (call : ArtifactCall) (alike : AlikeTo settings tenant one other) :
    AlikeTo settings tenant (one.next settings call) (other.next settings call) := by
  intro key own
  obtain ⟨view, legacy⟩ := alike key own
  refine ⟨?_, by rw [legacy_next, legacy_next, legacy]⟩
  by_cases here : call.savedKey = some key
  · cases call with
    | content process condition other => cases here
    | descriptor process condition other => cases here
    | exist process condition other => cases here
    | save process condition descriptor content =>
      cases made : descriptorKey descriptor with
      | error error =>
        unfold ArtifactWorld.next
        dsimp only
        rw [ArtifactWorld.saveArtifact_error made, ArtifactWorld.saveArtifact_error made]
        exact view
      | ok saved =>
        unfold ArtifactWorld.next
        dsimp only
        rw [view_saveArtifact made, view_saveArtifact made, view]
  · rw [view_next call key here, view_next call key here, view]

/-- A call of another tenant changes nothing for a tenant. -/
theorem AlikeTo.foreign {call : ArtifactCall} (away : call.tenant ≠ some tenant)
    (alike : AlikeTo settings tenant one other) :
    AlikeTo settings tenant (one.next settings call) other := by
  intro key own
  obtain ⟨view, legacy⟩ := alike key own
  refine ⟨?_, by rw [legacy_next, legacy]⟩
  rw [view_next call key ?_, view]
  intro here
  refine away ?_
  cases call with
  | content process condition other => cases here
  | descriptor process condition other => cases here
  | exist process condition other => cases here
  | save process condition descriptor content =>
    unfold ArtifactCall.savedKey at here
    dsimp only at here
    cases made : descriptorKey descriptor with
    | error error =>
      rw [made] at here
      cases here
    | ok saved =>
      rw [made] at here
      have same : saved = key := Option.some.inj here
      have owner := descriptorKey_tenant made
      rw [same, own] at owner
      exact owner

end Isolation

/-- Whatever tenants, processes and faults of the bucket come together, a tenant's calls are answered
as if no other tenant made any. -/
theorem artifacts_isolated (settings : ArtifactSettings) (tenant : List Char)
    (world : ArtifactWorld) (calls : List ArtifactCall) :
    Transition.responsesTo (fun call => call.tenant = some tenant)
        (ArtifactWorld.answer settings) (ArtifactWorld.next settings) world calls =
      Transition.responses (ArtifactWorld.answer settings) (ArtifactWorld.next settings) world
        (calls.filter fun call => call.tenant = some tenant) := by
  have own : ∀ one other (call : ArtifactCall), decide (call.tenant = some tenant) = true →
      AlikeTo settings tenant one other →
        one.answer settings call = other.answer settings call ∧
          AlikeTo settings tenant (one.next settings call) (other.next settings call) :=
    fun one other call mine alike => ⟨alike.answer (of_decide_eq_true mine), alike.next call⟩
  have foreign : ∀ one other (call : ArtifactCall), decide (call.tenant = some tenant) = false →
      AlikeTo settings tenant one other →
        AlikeTo settings tenant (one.next settings call) other :=
    fun one other call away alike => alike.foreign (of_decide_eq_false away)
  exact Transition.responsesTo_filter (AlikeTo settings tenant) own foreign
    (fun key _ => ⟨rfl, rfl⟩) calls

/-- What every process reads of an artifact that was saved in the bucket, as long as nothing else is
saved under its key, and what the process that saved it reads even while the bucket fails. -/
theorem saved_artifact_read (settings : ArtifactSettings) (world : ArtifactWorld) (process : Nat)
    (descriptor : ArtifactDescriptor) (content : List UInt8) (key : ArtifactKey)
    (made : descriptorKey descriptor = .ok key) (calls : List ArtifactCall)
    (kept : ∀ call ∈ calls, call.savedKey ≠ some key) (reader : Nat) (later : ArtifactWorld)
    (reached : later = Transition.run (ArtifactWorld.next settings) world
      (.save process .working descriptor content :: calls)) :
    later.getArtifactContent settings reader .working key = .ok (some content) ∧
      later.artifactExists settings reader .working key = .ok true ∧
      later.getArtifactContent settings process .fallingBack key = .ok (some content) ∧
      later.getDescriptor settings process .raising key =
        .ok (some (addressedDescriptor settings key descriptor content)) := by
  have along : Transition.Along (ArtifactWorld.next settings)
      (fun _ call => call.savedKey ≠ some key)
      (world.next settings (.save process .working descriptor content)) calls :=
    Transition.along_of_forall kept
  have view : later.view settings key =
      (world.view settings key).saved settings process .working key descriptor content := by
    rw [reached, Transition.run_cons]
    refine along.invariant (fun state => state.view settings key =
        (world.view settings key).saved settings process .working key descriptor content)
      (fun state call away same => (view_next call key away).trans same) ?_
    exact (view_saveArtifact made process .working content key).trans (if_pos rfl)
  refine ⟨?_, ?_, ?_, ?_⟩
  · rw [getArtifactContent_eq, view]
    rfl
  · unfold ArtifactWorld.artifactExists
    rw [getDescriptor_eq, view]
    unfold ArtifactView.saved
    dsimp only
    cases Function.update (world.view settings key).descriptors process
      (some (keptDescriptor settings .working key descriptor content)) reader <;> rfl
  · rw [getArtifactContent_eq, view]
    unfold ArtifactView.saved
    dsimp only
    rw [Function.update_self, Function.update_self]
    rfl
  · rw [getDescriptor_eq, view]
    unfold ArtifactView.saved
    dsimp only
    rw [Function.update_self]
    rfl

/-- Identifiers of a sample. -/
theorem sampleKey_valid : validIdentifier "tenant-a".toList = true ∧
    validIdentifier "SRC-1".toList = true ∧ validIdentifier "IPIR-SRC-1".toList = true ∧
    kindAllowed "sources".toList "compiled".toList = true := by decide

/-- Key of a compiled source. -/
def sampleKey : ArtifactKey where
  tenantId := "tenant-a".toList
  scope := "sources".toList
  scopeId := "SRC-1".toList
  kind := "compiled".toList
  artifactId := "IPIR-SRC-1".toList
  tenantValid := sampleKey_valid.1
  scopeValid := sampleKey_valid.2.1
  artifactValid := sampleKey_valid.2.2.1
  allowed := sampleKey_valid.2.2.2

/-- Descriptor of a compiled source of a tenant. -/
def compiledSource (tenant : String) : ArtifactDescriptor :=
  ⟨"IPIR-SRC-1".toList, some tenant.toList, some "sources".toList, some "SRC-1".toList,
    some "compiled".toList, .ipirPackage, "../rates.json".toList, "application/json", 0, []⟩

/-- Settings of a deployment. -/
def sampleSettings : ArtifactSettings := ⟨["data".toList], "bucket".toList, none⟩

/-- Nothing is saved. -/
def emptyArtifacts : ArtifactWorld := ⟨[], fun _ => ⟨[], []⟩⟩

/-- Another tenant saves under a key with the same source and artifact, and the bucket fails once. -/
def laterCalls : List ArtifactCall :=
  [.save 1 .working (compiledSource "tenant-b") [9], .content 0 .fallingBack sampleKey]

/-- Another process reads what was saved. -/
theorem sampleKey_read :
    (Transition.run (ArtifactWorld.next sampleSettings) emptyArtifacts
      (.save 0 .working (compiledSource "tenant-a") [1, 2] :: laterCalls)).getArtifactContent
        sampleSettings 7 .working sampleKey = .ok (some [1, 2]) :=
  (saved_artifact_read sampleSettings emptyArtifacts 0 (compiledSource "tenant-a") [1, 2] sampleKey
    (by rfl) laterCalls (by decide +kernel) 7 _ rfl).1

end RateGuard
