import Mathlib.Algebra.Order.Floor.Defs
import Mathlib.Data.Rat.Floor
import RateGuard.Foundation.Text
import RateGuard.Foundation.Transition

/-!
# The distributed rate limiter

Every window of a caller owns as many slot documents as the policy allows requests, and a request
is allowed only by creating one that is not there. A request counts the documents of its window,
then tries one slot after the other; other requests take their steps in between. Moments are
rational numbers of seconds, and the hash behind document identifiers is a parameter.
-/

namespace RateGuard

/-- Slots tried before giving up. -/
def maxSlotProbes : Nat := 32

/-- Retries of conflicts. -/
def maxContentionRetries : Nat := 3

/-- Seconds advertised when contention denies a request. -/
def contentionRetryAfter : Int := 1

/-- Seconds that documents outlive their window. -/
def expiryGraceSeconds : Int := 3600

/-- Fixed-window policy of an operation. -/
structure RateLimitPolicy where
  /-- Operation. -/
  operation : String
  /-- Requests allowed in a window. -/
  limit : Int
  /-- Length of a window. -/
  windowSeconds : Int
  deriving DecidableEq

/-- Why a request is denied. -/
inductive DenialReason where
  | limitReached | contention | corruptState
  deriving DecidableEq, Repr

/-- Answer to a request. -/
structure RateDecision where
  /-- Whether it is allowed. -/
  allowed : Bool
  /-- Requests left in the window. -/
  remaining : Int
  /-- Seconds to wait. -/
  retryAfterSeconds : Int
  /-- Why it is denied. -/
  reason : Option DenialReason
  deriving DecidableEq

/-- `window_bounds`. -/
def windowBounds (now : ℚ) (policy : RateLimitPolicy) : Int × Int :=
  let start := ⌊now / policy.windowSeconds⌋ * policy.windowSeconds
  (start, start + policy.windowSeconds)

/-- `_retry_after`. -/
def retryAfter (now : ℚ) (windowEnd : Int) : Int := max 1 ⌈(windowEnd : ℚ) - now⌉

/-- Value of a document field. -/
inductive FieldValue where
  | null
  | bool (value : Bool)
  | int (value : Int)
  | float (value : ℚ)
  | str (value : String)
  | other
  deriving DecidableEq

/-- Whether a field is equal to an integer; booleans and fractions may be. -/
def FieldValue.isInt (number : Int) : FieldValue → Bool
  | bool value => (if value then 1 else 0) = number
  | int value => value = number
  | float value => value = number
  | null | str _ | other => false

/-- Fields of a document. -/
abbrev SlotDocument := List (String × FieldValue)

/-- Field of a document. -/
def SlotDocument.field (document : SlotDocument) (name : String) : FieldValue :=
  (List.lookup name document).getD .null

/-- Deleting one key of a dictionary leaves the others. -/
theorem lookup_filter_ne {β : Type} {entries : List (String × β)} {id removed : String}
    (other : removed ≠ id) :
    (entries.filter fun entry => entry.1 ≠ removed).lookup id = entries.lookup id := by
  induction entries with
  | nil => rfl
  | cons head rest ih =>
    obtain ⟨name, value⟩ := head
    by_cases same : name = removed
    · have away : (id == name) = false := beq_eq_false_iff_ne.mpr fun equal =>
        other (same.symm.trans equal.symm)
      rw [List.filter_cons_of_neg (by simpa using same), List.lookup_cons, away]
      exact ih
    · rw [List.filter_cons_of_pos (by simpa using same), List.lookup_cons, List.lookup_cons, ih]

/-- A request: who asks, under which policy and when. -/
structure RateRequest where
  /-- Tenant. -/
  tenantId : String
  /-- User. -/
  uid : String
  /-- Policy of the operation. -/
  policy : RateLimitPolicy
  /-- Moment of the request. -/
  now : ℚ
  deriving DecidableEq

/-- First second of the window of a request. -/
def RateRequest.windowStart (request : RateRequest) : Int :=
  (windowBounds request.now request.policy).1

/-- Hash of an operation, a tenant, a user and a window. -/
abbrev CounterHash := String → String → String → Int → String

section Requests

variable (hash : CounterHash)

/-- `counter_id`. -/
def RateRequest.counterId (request : RateRequest) : String :=
  hash request.policy.operation request.tenantId request.uid request.windowStart

/-- Identifier of a slot document. -/
def slotId (counter : String) (slot : Nat) : String :=
  counter ++ "_" ++ String.ofList (Text.digitsOf slot)

/-- Document that a request creates for a slot. -/
def RateRequest.document (request : RateRequest) (slot : Nat) : SlotDocument :=
  [("tenant_id", .str request.tenantId), ("uid", .str request.uid),
   ("operation", .str request.policy.operation), ("window_start", .int request.windowStart),
   ("window_key", .str (request.counterId hash)), ("slot", .int slot), ("expires_at", .other)]

/-- Whether a document is the slot document of a request. -/
def RateRequest.accepts (request : RateRequest) (slot : Nat) (document : SlotDocument) : Bool :=
  document.field "slot" = .int slot &&
    document.field "window_key" = .str (request.counterId hash) &&
    (document.field "window_start").isInt request.windowStart &&
    document.field "operation" = .str request.policy.operation &&
    document.field "tenant_id" = .str request.tenantId && document.field "uid" = .str request.uid

end Requests

/-- Where a request is. -/
inductive HitPhase where
  /-- It counts the documents of its window. -/
  | counting
  /-- It creates the document of a slot. -/
  | probing (slot probes conflicts : Nat)
  /-- It reads the document of a slot that another has taken. -/
  | reading (slot probes conflicts : Nat)
  /-- It is allowed and holds a slot. -/
  | allowed (slot : Nat)
  /-- It is denied. -/
  | denied (reason : DenialReason)
  /-- The storage failed. -/
  | unavailable
  deriving DecidableEq, Repr

/-- Whether a request has ended. -/
def HitPhase.ended : HitPhase → Bool
  | counting | probing .. | reading .. => false
  | allowed _ | denied _ | unavailable => true

/-- Head of the loop over the slots. -/
def HitPhase.probe (limit : Int) (slot probes conflicts : Nat) : HitPhase :=
  if slot < limit then
    if maxSlotProbes ≤ probes then denied .contention else probing slot probes conflicts
  else denied .limitReached

/-- A request at work. -/
structure Hit where
  /-- The request. -/
  request : RateRequest
  /-- Where it is. -/
  phase : HitPhase
  /-- Number of documents it has tried to create. -/
  attempts : Nat
  deriving DecidableEq

/-- Answer of a request that ended, unless the storage failed. -/
def Hit.decision (hit : Hit) : Option RateDecision :=
  let wait := retryAfter hit.request.now (windowBounds hit.request.now hit.request.policy).2
  match hit.phase with
  | .allowed slot => some ⟨true, hit.request.policy.limit - slot - 1, wait, none⟩
  | .denied .contention =>
    some ⟨false, 0, min wait contentionRetryAfter, some .contention⟩
  | .denied reason => some ⟨false, 0, wait, some reason⟩
  | .counting | .probing .. | .reading .. | .unavailable => none

/-- Documents by identifier, and the requests that arrived. -/
structure LimiterState where
  /-- Documents. -/
  documents : List (String × SlotDocument)
  /-- Requests in the order of their arrival. -/
  hits : List Hit

/-- What happens next. -/
inductive LimiterEvent where
  /-- A request arrives. -/
  | arrive (request : RateRequest)
  /-- The next call of a request goes through. -/
  | advance (index : Nat)
  /-- The next call of a request meets a retryable conflict. -/
  | conflict (index : Nat)
  /-- The time of a request is used up before its next call. -/
  | exhaust (index : Nat)
  /-- The next call of a request fails; a creation may have taken effect. -/
  | fail (index : Nat) (written : Bool)
  /-- A document is deleted. -/
  | purge (id : String)

/-- The request an event is a step of. -/
def LimiterEvent.index? : LimiterEvent → Option Nat
  | advance index | conflict index | exhaust index | fail index _ => some index
  | arrive _ | purge _ => none

section Steps

variable (hash : CounterHash)

/-- Documents of a window. -/
def LimiterState.used (state : LimiterState) (counter : String) : Nat :=
  state.documents.countP fun document => document.2.field "window_key" = .str counter

/-- Document of an identifier. -/
def LimiterState.document (state : LimiterState) (id : String) : Option SlotDocument :=
  state.documents.lookup id

/-- Phase after counting: denied at the limit, else at the slot after the counted ones. -/
def Hit.counted (hit : Hit) (used : Nat) : Hit :=
  { hit with
    phase := if hit.request.policy.limit ≤ used then .denied .limitReached
      else .probe hit.request.policy.limit used 0 0 }

/-- Request after reading a taken slot: it tries the slot again if the document is gone, ends if it
is not a slot document of its window, and goes on to the next slot otherwise. -/
def Hit.read (hit : Hit) (slot probes conflicts : Nat) : Option SlotDocument → Hit
  | none => { hit with phase := .probe hit.request.policy.limit slot probes conflicts }
  | some document =>
    if hit.request.accepts hash slot document then
      { hit with phase := .probe hit.request.policy.limit (slot + 1) probes conflicts }
    else { hit with phase := .denied .corruptState }

/-- Request after another attempt to create a document. -/
def Hit.attempted (hit : Hit) (phase : HitPhase) : Hit :=
  { hit with phase := phase, attempts := hit.attempts + 1 }

/-- State with a request replaced. -/
def LimiterState.setHit (state : LimiterState) (index : Nat) (hit : Hit) : LimiterState :=
  { state with hits := state.hits.set index hit }

/-- State with one more document. -/
def LimiterState.write (state : LimiterState) (id : String) (document : SlotDocument) :
    LimiterState :=
  { state with documents := (id, document) :: state.documents }

/-- Next call of a request. Creating a document is atomic and refused when it is there. -/
def LimiterState.advance (state : LimiterState) (index : Nat) (hit : Hit) : LimiterState :=
  match hit.phase with
  | .counting => state.setHit index (hit.counted (state.used (hit.request.counterId hash)))
  | .probing slot probes conflicts =>
    let id := slotId (hit.request.counterId hash) slot
    match state.document id with
    | some _ => state.setHit index (hit.attempted (.reading slot (probes + 1) conflicts))
    | none =>
      (state.write id (hit.request.document hash slot)).setHit index
        (hit.attempted (.allowed slot))
  | .reading slot probes conflicts =>
    let id := slotId (hit.request.counterId hash) slot
    state.setHit index (hit.read hash slot probes conflicts (state.document id))
  | .allowed _ | .denied _ | .unavailable => state

/-- A conflict of a call: a creation is retried a few times, elsewhere it counts as a failure. -/
def LimiterState.conflict (state : LimiterState) (index : Nat) (hit : Hit) : LimiterState :=
  match hit.phase with
  | .counting | .reading .. => state.setHit index { hit with phase := .unavailable }
  | .probing slot probes conflicts =>
    state.setHit index (hit.attempted
      (if maxContentionRetries < conflicts + 1 then .denied .contention
      else .probe hit.request.policy.limit slot (probes + 1) (conflicts + 1)))
  | .allowed _ | .denied _ | .unavailable => state

/-- The time budget ends a request. -/
def LimiterState.exhaust (state : LimiterState) (index : Nat) (hit : Hit) : LimiterState :=
  if hit.phase.ended then state
  else state.setHit index { hit with phase := .denied .contention }

/-- A failure of the storage ends a request. -/
def LimiterState.fail (state : LimiterState) (index : Nat) (written : Bool) (hit : Hit) :
    LimiterState :=
  match hit.phase with
  | .counting | .reading .. => state.setHit index { hit with phase := .unavailable }
  | .probing slot _ _ =>
    let id := slotId (hit.request.counterId hash) slot
    let failed := hit.attempted .unavailable
    if written && (state.document id).isNone then
      (state.write id (hit.request.document hash slot)).setHit index failed
    else state.setHit index failed
  | .allowed _ | .denied _ | .unavailable => state

/-- Step of the limiter. -/
def LimiterState.step (state : LimiterState) (event : LimiterEvent) : LimiterState :=
  match event with
  | .arrive request => { state with hits := state.hits ++ [⟨request, .counting, 0⟩] }
  | .purge id => { state with documents := state.documents.filter fun document => document.1 ≠ id }
  | .advance index => (state.hits[index]?).elim state (state.advance hash index)
  | .conflict index => (state.hits[index]?).elim state (state.conflict index)
  | .exhaust index => (state.hits[index]?).elim state (state.exhaust index)
  | .fail index written => (state.hits[index]?).elim state (state.fail hash index written)

end Steps

end RateGuard
