import Mathlib.Data.Finset.Card
import RateGuard.RateLimit.Limiter

/-!
# Bounds of the distributed rate limiter

However the steps of requests interleave, no two allowed requests of one window hold the same
slot, so no more are allowed than the limit; and every request ends after a bounded number of
its own steps.
-/

open Transition

namespace RateGuard

/-- Slot of a phase. -/
def HitPhase.slot? : HitPhase → Option Nat
  | probing slot _ _ | reading slot _ _ | allowed slot => some slot
  | counting | denied _ | unavailable => none

/-- Slots tried so far, as the loop counts them. -/
def HitPhase.probes : HitPhase → Nat
  | counting => 0
  | probing _ probes _ | reading _ probes _ => probes
  | allowed _ | denied _ | unavailable => maxSlotProbes

/-- Steps that a request has left at most. -/
def HitPhase.remaining : HitPhase → Nat
  | counting => 2 * maxSlotProbes + 2
  | probing _ probes _ => 2 * (maxSlotProbes - probes) + 1
  | reading _ probes _ => 2 * (maxSlotProbes - probes) + 2
  | allowed _ | denied _ | unavailable => 0

/-- Whether a request is about to create a document. -/
def HitPhase.isProbing : HitPhase → Bool
  | probing .. => true
  | counting | reading .. | allowed _ | denied _ | unavailable => false

/-- What holds of a request wherever it is. -/
structure HitSound (hit : Hit) : Prop where
  /-- Its slot is one of the policy. -/
  slots : ∀ slot, hit.phase.slot? = some slot → (slot : Int) < hit.request.policy.limit
  /-- It has tried no more documents than the loop has counted. -/
  attempts : hit.attempts ≤ hit.phase.probes
  /-- The loop has counted no more than allowed. -/
  probes : hit.phase.probes ≤ maxSlotProbes
  /-- Before a creation the loop has counted fewer. -/
  room : hit.phase.isProbing = true → hit.phase.probes < maxSlotProbes

/-- What a step makes of a request. -/
structure HitMoves (hit next : Hit) : Prop where
  /-- The request stays. -/
  request : next.request = hit.request
  /-- It stays sound. -/
  sound : HitSound hit → HitSound next
  /-- It has fewer steps left. -/
  fewer : HitSound hit → next.phase.remaining < hit.phase.remaining

/-- A request that starts is sound. -/
theorem hitSound_counting (request : RateRequest) : HitSound ⟨request, .counting, 0⟩ where
  slots := fun slot held => by cases held
  attempts := Nat.le_refl 0
  probes := Nat.zero_le _
  room := fun probing => by cases probing

/-- A denied request, or one whose storage failed, is sound. -/
theorem hitSound_slotless (request : RateRequest) {phase : HitPhase} (slotless : phase.slot? = none)
    (full : phase.probes = maxSlotProbes) (idle : phase.isProbing = false) {attempts : Nat}
    (tried : attempts ≤ maxSlotProbes) : HitSound ⟨request, phase, attempts⟩ where
  slots := fun slot held => by rw [slotless] at held; cases held
  attempts := by rw [full]; exact tried
  probes := Nat.le_of_eq full
  room := fun probing => by rw [idle] at probing; cases probing

/-- At the head of the loop a request is sound when it has tried no more than counted. -/
theorem hitSound_probe (request : RateRequest) {slot probes conflicts attempts : Nat}
    (tried : attempts ≤ probes) (counted : probes ≤ maxSlotProbes) :
    HitSound ⟨request, .probe request.policy.limit slot probes conflicts, attempts⟩ := by
  unfold HitPhase.probe
  split
  · next inside =>
    split
    · exact hitSound_slotless request rfl rfl rfl (tried.trans counted)
    · next room =>
      refine ⟨fun other held => ?_, tried, counted, fun _ => Nat.lt_of_not_le room⟩
      cases held
      exact inside
  · exact hitSound_slotless request rfl rfl rfl (tried.trans counted)

/-- At the head of the loop a request has at most the steps of the slots left to try. -/
theorem remaining_probe_le (limit : Int) (slot probes conflicts : Nat) :
    (HitPhase.probe limit slot probes conflicts).remaining ≤ 2 * (maxSlotProbes - probes) + 1 := by
  unfold HitPhase.probe
  split
  · split
    · exact Nat.zero_le _
    · exact Nat.le_refl _
  · exact Nat.zero_le _

/-- Counting moves a request on. -/
theorem Hit.counted_moves {hit : Hit} (counting : hit.phase = .counting) (used : Nat) :
    HitMoves hit (hit.counted used) := by
  obtain ⟨request, phase, attempts⟩ := hit
  obtain rfl : phase = .counting := counting
  refine ⟨rfl, fun sound => ?_, fun _ => ?_⟩
  · have none : attempts ≤ 0 := sound.attempts
    unfold Hit.counted
    dsimp only
    split
    · exact hitSound_slotless request rfl rfl rfl (none.trans (Nat.zero_le _))
    · exact hitSound_probe request none (Nat.zero_le _)
  · unfold Hit.counted
    dsimp only
    split
    · exact Nat.succ_pos _
    · have left := remaining_probe_le request.policy.limit used 0 0
      have start : HitPhase.counting.remaining = 2 * maxSlotProbes + 2 := rfl
      omega

/-- Reading a taken slot moves a request on. -/
theorem Hit.read_moves (hash : CounterHash) {hit : Hit} {slot probes conflicts : Nat}
    (reading : hit.phase = .reading slot probes conflicts) (document : Option SlotDocument) :
    HitMoves hit (hit.read hash slot probes conflicts document) := by
  obtain ⟨request, phase, attempts⟩ := hit
  obtain rfl : phase = .reading slot probes conflicts := reading
  have before : (HitPhase.reading slot probes conflicts).remaining =
      2 * (maxSlotProbes - probes) + 2 := rfl
  have fewer : ∀ next, (HitPhase.probe request.policy.limit next probes conflicts).remaining <
      (HitPhase.reading slot probes conflicts).remaining := by
    intro next
    have left := remaining_probe_le request.policy.limit next probes conflicts
    omega
  unfold Hit.read
  cases document with
  | none =>
    exact ⟨rfl, fun sound => hitSound_probe request sound.attempts sound.probes,
      fun _ => fewer slot⟩
  | some document =>
    dsimp only
    split
    · exact ⟨rfl, fun sound => hitSound_probe request sound.attempts sound.probes,
        fun _ => fewer (slot + 1)⟩
    · refine ⟨rfl, fun sound => ?_, fun _ => ?_⟩
      · exact hitSound_slotless request rfl rfl rfl (sound.attempts.trans sound.probes)
      · exact Nat.succ_pos _

/-- An attempt that finds the slot taken moves a request on. -/
theorem Hit.taken_moves {hit : Hit} {slot probes conflicts : Nat}
    (probing : hit.phase = .probing slot probes conflicts) :
    HitMoves hit (hit.attempted (.reading slot (probes + 1) conflicts)) := by
  obtain ⟨request, phase, attempts⟩ := hit
  obtain rfl : phase = .probing slot probes conflicts := probing
  refine ⟨rfl, fun sound => ⟨sound.slots, ?_, sound.room rfl, fun idle => ?_⟩, fun sound => ?_⟩
  · exact Nat.succ_le_succ sound.attempts
  · cases idle
  · have room : probes < maxSlotProbes := sound.room rfl
    have before : (HitPhase.probing slot probes conflicts).remaining =
        2 * (maxSlotProbes - probes) + 1 := rfl
    have after : (HitPhase.reading slot (probes + 1) conflicts).remaining =
        2 * (maxSlotProbes - (probes + 1)) + 2 := rfl
    dsimp only [Hit.attempted]
    omega

/-- An attempt that takes the slot moves a request on. -/
theorem Hit.allowed_moves {hit : Hit} {slot probes conflicts : Nat}
    (probing : hit.phase = .probing slot probes conflicts) :
    HitMoves hit (hit.attempted (.allowed slot)) := by
  obtain ⟨request, phase, attempts⟩ := hit
  obtain rfl : phase = .probing slot probes conflicts := probing
  refine ⟨rfl, fun sound => ⟨sound.slots, ?_, Nat.le_refl _, fun idle => ?_⟩, fun _ => ?_⟩
  · exact (Nat.succ_le_succ sound.attempts).trans (sound.room rfl)
  · cases idle
  · exact Nat.succ_pos _

/-- An attempt that meets a conflict moves a request on. -/
theorem Hit.conflict_moves {hit : Hit} {slot probes conflicts : Nat}
    (probing : hit.phase = .probing slot probes conflicts) :
    HitMoves hit (hit.attempted
      (if maxContentionRetries < conflicts + 1 then .denied .contention
      else .probe hit.request.policy.limit slot (probes + 1) (conflicts + 1))) := by
  obtain ⟨request, phase, attempts⟩ := hit
  obtain rfl : phase = .probing slot probes conflicts := probing
  unfold Hit.attempted
  split
  · refine ⟨rfl, fun sound => ?_, fun _ => Nat.succ_pos _⟩
    exact hitSound_slotless request rfl rfl rfl
      ((Nat.succ_le_succ sound.attempts).trans (sound.room rfl))
  · refine ⟨rfl, fun sound => ?_, fun sound => ?_⟩
    · exact hitSound_probe request (Nat.succ_le_succ sound.attempts) (sound.room rfl)
    · have room : probes < maxSlotProbes := sound.room rfl
      have left := remaining_probe_le request.policy.limit slot (probes + 1) (conflicts + 1)
      have before : (HitPhase.probing slot probes conflicts).remaining =
          2 * (maxSlotProbes - probes) + 1 := rfl
      dsimp only at left ⊢
      omega

/-- A request that has not ended has steps left. -/
theorem remaining_pos {phase : HitPhase} (live : phase.ended = false) : 0 < phase.remaining := by
  cases phase with
  | counting => exact Nat.succ_pos _
  | probing slot probes conflicts => exact Nat.succ_pos _
  | reading slot probes conflicts => exact Nat.succ_pos _
  | allowed slot => cases live
  | denied reason => cases live
  | unavailable => cases live

/-- A live request that ends without a slot moves on, after at most one more attempt while it is
probing. -/
theorem Hit.ends_moves {hit : Hit} (live : hit.phase.ended = false) {phase : HitPhase}
    (slotless : phase.slot? = none) (full : phase.probes = maxSlotProbes)
    (idle : phase.isProbing = false) (done : phase.remaining = 0) {attempts : Nat}
    (tried : attempts ≤ hit.attempts ∨ hit.phase.isProbing = true ∧ attempts = hit.attempts + 1) :
    HitMoves hit ⟨hit.request, phase, attempts⟩ := by
  refine ⟨rfl, fun sound => hitSound_slotless hit.request slotless full idle ?_, fun _ => ?_⟩
  · rcases tried with same | ⟨probing, rfl⟩
    · exact same.trans (sound.attempts.trans sound.probes)
    · exact (Nat.succ_le_succ sound.attempts).trans (sound.room probing)
  · dsimp only
    rw [done]
    exact remaining_pos live

section Steps

variable {hash : CounterHash}

/-- What a step makes of the documents and of the request that takes it. -/
inductive HitStep (hash : CounterHash) (documents : List (String × SlotDocument)) (hit : Hit) :
    List (String × SlotDocument) → Hit → Prop
  /-- The request takes no slot; at most one document is written. -/
  | other (next : Hit) (after : List (String × SlotDocument)) (moves : HitMoves hit next)
      (free : ∀ slot, next.phase ≠ .allowed slot)
      (kept : ∀ id, (documents.lookup id).isSome → (after.lookup id).isSome) :
      HitStep hash documents hit after next
  /-- The request takes a slot whose document was not there and is now. -/
  | takes (slot : Nat) (next : Hit) (moves : HitMoves hit next)
      (allowed : next.phase = .allowed slot)
      (absent : documents.lookup (slotId (hit.request.counterId hash) slot) = none) :
      HitStep hash documents hit
        ((slotId (hit.request.counterId hash) slot, hit.request.document hash slot) :: documents)
        next

/-- However a request moves, it moves on. -/
theorem HitStep.hitMoves {documents after : List (String × SlotDocument)} {hit next : Hit}
    (step : HitStep hash documents hit after next) : HitMoves hit next := by
  cases step with
  | other _ _ moves free kept => exact moves
  | takes slot _ moves allowed absent => exact moves

/-- A written document leaves the others. -/
theorem lookup_write_isSome (documents : List (String × SlotDocument)) (written : String)
    (document : SlotDocument) (id : String) (there : (documents.lookup id).isSome = true) :
    (((written, document) :: documents).lookup id).isSome = true := by
  rw [List.lookup_cons]
  cases id == written with
  | true => rfl
  | false => exact there

/-- What the head of the loop never is. -/
theorem probe_ne_allowed (limit : Int) (slot probes conflicts other : Nat) :
    HitPhase.probe limit slot probes conflicts ≠ .allowed other := by
  unfold HitPhase.probe
  split
  · split
    · exact fun same => by cases same
    · exact fun same => by cases same
  · exact fun same => by cases same

/-- What a step makes of a state: nothing, one more request, one document less, or a move of one
request that has not ended. -/
inductive LimiterStep (hash : CounterHash) (state : LimiterState) :
    LimiterEvent → LimiterState → Prop
  /-- Nothing changes, as the request of the step is not there or has ended. -/
  | same (event : LimiterEvent) (idle : ∀ index hit, event.index? = some index →
      state.hits[index]? = some hit → hit.phase.ended = true) : LimiterStep hash state event state
  /-- A request arrives. -/
  | arrive (request : RateRequest) :
      LimiterStep hash state (.arrive request)
        { state with hits := state.hits ++ [⟨request, .counting, 0⟩] }
  /-- A document is deleted. -/
  | purge (id : String) :
      LimiterStep hash state (.purge id)
        { state with documents := state.documents.filter fun document => document.1 ≠ id }
  /-- A request moves on. -/
  | move (event : LimiterEvent) (index : Nat) (hit next : Hit)
      (documents : List (String × SlotDocument)) (steps : event.index? = some index)
      (found : state.hits[index]? = some hit)
      (moves : HitStep hash state.documents hit documents next) :
      LimiterStep hash state event ⟨documents, state.hits.set index next⟩

/-- A step of a request that is not there changes nothing. -/
theorem LimiterStep.missing {state : LimiterState} {event : LimiterEvent} {index : Nat}
    (steps : event.index? = some index) (missing : state.hits[index]? = none) :
    LimiterStep hash state event state := by
  refine .same event fun other hit again found => ?_
  obtain rfl := Option.some.inj (steps.symm.trans again)
  rw [missing] at found
  cases found

/-- A step of a request that has ended changes nothing. -/
theorem LimiterStep.over {state : LimiterState} {event : LimiterEvent} {index : Nat} {hit : Hit}
    (steps : event.index? = some index) (found : state.hits[index]? = some hit)
    (ended : hit.phase.ended = true) : LimiterStep hash state event state := by
  refine .same event fun other one again there => ?_
  obtain rfl := Option.some.inj (steps.symm.trans again)
  obtain rfl := Option.some.inj (found.symm.trans there)
  exact ended

/-- A live request that a step ends without a slot moves. -/
theorem LimiterStep.stops {state : LimiterState} {event : LimiterEvent} {index : Nat} {hit : Hit}
    (steps : event.index? = some index) (found : state.hits[index]? = some hit)
    (live : hit.phase.ended = false) :
    LimiterStep hash state event (state.setHit index { hit with phase := .unavailable }) :=
  .move event index hit _ _ steps found (.other _ _
    (Hit.ends_moves live rfl rfl rfl rfl (.inl (Nat.le_refl _)))
    (fun other same => by cases same) fun id there => there)

/-- Every step is one of these. -/
theorem step_limiterStep (hash : CounterHash) (state : LimiterState) (event : LimiterEvent) :
    LimiterStep hash state event (state.step hash event) := by
  cases event with
  | arrive request => exact .arrive request
  | purge id => exact .purge id
  | advance index =>
    unfold LimiterState.step
    dsimp only
    cases found : state.hits[index]? with
    | none => exact .missing rfl found
    | some hit =>
      dsimp only [Option.elim]
      unfold LimiterState.advance
      cases phase : hit.phase with
      | counting =>
        refine .move _ index hit _ _ rfl found (.other _ _ (Hit.counted_moves phase _) ?_
          fun id there => there)
        intro slot
        unfold Hit.counted
        dsimp only
        split
        · exact fun same => by cases same
        · exact probe_ne_allowed _ _ _ _ _
      | probing slot probes conflicts =>
        dsimp only
        cases taken : state.document (slotId (hit.request.counterId hash) slot) with
        | some document =>
          exact .move _ index hit _ _ rfl found (.other _ _ (Hit.taken_moves phase)
            (fun other same => by cases same) fun id there => there)
        | none =>
          exact .move _ index hit _ _ rfl found (.takes slot _ (Hit.allowed_moves phase) rfl taken)
      | reading slot probes conflicts =>
        refine .move _ index hit _ _ rfl found (.other _ _ (Hit.read_moves hash phase _) ?_
          fun id there => there)
        intro other
        unfold Hit.read
        cases state.document (slotId (hit.request.counterId hash) slot) with
        | none => exact probe_ne_allowed _ _ _ _ _
        | some document =>
          dsimp only
          split
          · exact probe_ne_allowed _ _ _ _ _
          · exact fun same => by cases same
      | allowed slot => exact .over rfl found (by rw [phase]; rfl)
      | denied reason => exact .over rfl found (by rw [phase]; rfl)
      | unavailable => exact .over rfl found (by rw [phase]; rfl)
  | conflict index =>
    unfold LimiterState.step
    dsimp only
    cases found : state.hits[index]? with
    | none => exact .missing rfl found
    | some hit =>
      dsimp only [Option.elim]
      unfold LimiterState.conflict
      cases phase : hit.phase with
      | probing slot probes conflicts =>
        refine .move _ index hit _ _ rfl found (.other _ _ (Hit.conflict_moves phase) ?_
          fun id there => there)
        intro other
        unfold Hit.attempted
        dsimp only
        split
        · exact fun same => by cases same
        · exact probe_ne_allowed _ _ _ _ _
      | counting => exact .stops rfl found (by rw [phase]; rfl)
      | reading slot probes conflicts => exact .stops rfl found (by rw [phase]; rfl)
      | allowed slot => exact .over rfl found (by rw [phase]; rfl)
      | denied reason => exact .over rfl found (by rw [phase]; rfl)
      | unavailable => exact .over rfl found (by rw [phase]; rfl)
  | exhaust index =>
    unfold LimiterState.step
    dsimp only
    cases found : state.hits[index]? with
    | none => exact .missing rfl found
    | some hit =>
      dsimp only [Option.elim]
      unfold LimiterState.exhaust
      cases live : hit.phase.ended with
      | true => exact .over rfl found live
      | false =>
        exact .move _ index hit _ _ rfl found (.other _ _
          (Hit.ends_moves live rfl rfl rfl rfl (.inl (Nat.le_refl _)))
          (fun other same => by cases same) fun id there => there)
  | fail index written =>
    unfold LimiterState.step
    dsimp only
    cases found : state.hits[index]? with
    | none => exact .missing rfl found
    | some hit =>
      dsimp only [Option.elim]
      unfold LimiterState.fail
      cases phase : hit.phase with
      | counting => exact .stops rfl found (by rw [phase]; rfl)
      | reading slot probes conflicts => exact .stops rfl found (by rw [phase]; rfl)
      | probing slot probes conflicts =>
        have moved : HitMoves hit ⟨hit.request, .unavailable, hit.attempts + 1⟩ :=
          Hit.ends_moves (by rw [phase]; rfl) rfl rfl rfl rfl (.inr ⟨by rw [phase]; rfl, rfl⟩)
        dsimp only
        split
        · exact .move _ index hit _ _ rfl found (.other _ _ moved
            (fun other same => by cases same) (lookup_write_isSome state.documents _ _))
        · exact .move _ index hit _ _ rfl found (.other _ _ moved
            (fun other same => by cases same) fun id there => there)
      | allowed slot => exact .over rfl found (by rw [phase]; rfl)
      | denied reason => exact .over rfl found (by rw [phase]; rfl)
      | unavailable => exact .over rfl found (by rw [phase]; rfl)

/-- Every step keeps all requests sound. -/
theorem hitSound_step (state : LimiterState) (event : LimiterEvent)
    (sound : ∀ hit ∈ state.hits, HitSound hit) :
    ∀ hit ∈ (state.step hash event).hits, HitSound hit := by
  have steps := step_limiterStep hash state event
  generalize state.step hash event = after at steps
  cases steps with
  | same _ idle => exact sound
  | purge id => exact sound
  | arrive request =>
    intro hit member
    rcases List.mem_append.mp member with before | new
    · exact sound hit before
    · rw [List.mem_singleton.mp new]
      exact hitSound_counting request
  | move _ index hit next documents own found moves =>
    intro other member
    rcases List.mem_or_eq_of_mem_set member with old | rfl
    · exact sound other old
    · exact moves.hitMoves.sound (sound hit (List.mem_of_getElem? found))

/-- A request has no more steps left than at its start. -/
theorem remaining_le (phase : HitPhase) : phase.remaining ≤ 2 * maxSlotProbes + 2 := by
  cases phase with
  | counting => exact Nat.le_refl _
  | probing slot probes conflicts =>
    show 2 * (maxSlotProbes - probes) + 1 ≤ _
    omega
  | reading slot probes conflicts =>
    show 2 * (maxSlotProbes - probes) + 2 ≤ _
    omega
  | allowed slot => exact Nat.zero_le _
  | denied reason => exact Nat.zero_le _
  | unavailable => exact Nat.zero_le _

/-- A request that has ended has no steps left. -/
theorem remaining_eq_zero {phase : HitPhase} : phase.remaining = 0 ↔ phase.ended = true := by
  constructor
  · intro none
    cases live : phase.ended with
    | true => rfl
    | false => exact absurd none (Nat.ne_of_gt (remaining_pos live))
  · intro ended
    cases phase with
    | counting => cases ended
    | probing slot probes conflicts => cases ended
    | reading slot probes conflicts => cases ended
    | allowed slot => rfl
    | denied reason => rfl
    | unavailable => rfl

/-- A step keeps every request; its own request has a step less left. -/
theorem remaining_step {state : LimiterState} (sound : ∀ hit ∈ state.hits, HitSound hit)
    (event : LimiterEvent) {index : Nat} {hit : Hit} (found : state.hits[index]? = some hit) :
    ∃ next, (state.step hash event).hits[index]? = some next ∧ next.request = hit.request ∧
      next.phase.remaining ≤
        hit.phase.remaining - if event.index? = some index then 1 else 0 := by
  have steps := step_limiterStep hash state event
  generalize state.step hash event = after at steps
  cases steps with
  | same _ idle =>
    refine ⟨hit, found, rfl, ?_⟩
    split
    · next own =>
      rw [remaining_eq_zero.mpr (idle index hit own found)]
    · exact Nat.le_refl _
  | purge id => exact ⟨hit, found, rfl, Nat.le_refl _⟩
  | arrive request =>
    refine ⟨hit, ?_, rfl, Nat.le_refl _⟩
    have inside : index < state.hits.length := (List.getElem?_eq_some_iff.mp found).1
    rw [← found]
    exact List.getElem?_append_left inside
  | move _ position mover next documents own there moves =>
    by_cases same : index = position
    · subst same
      obtain rfl := Option.some.inj (there.symm.trans found)
      have inside : index < state.hits.length := (List.getElem?_eq_some_iff.mp found).1
      have fewer := moves.hitMoves.fewer (sound mover (List.mem_of_getElem? found))
      refine ⟨next, List.getElem?_set_self inside, moves.hitMoves.request, ?_⟩
      rw [if_pos own]
      exact Nat.le_sub_one_of_lt fewer
    · have foreign : event.index? ≠ some index := by
        rw [own]
        exact fun equal => same (Option.some.inj equal).symm
      refine ⟨hit, ?_, rfl, ?_⟩
      · dsimp only
        rw [List.getElem?_set_ne (Ne.symm same)]
        exact found
      · rw [if_neg foreign]
        exact Nat.le_refl _

/-- Along a run a request has as many steps less left as are its own. -/
theorem remaining_run (events : List LimiterEvent) {state : LimiterState}
    (sound : ∀ hit ∈ state.hits, HitSound hit) {index : Nat} {hit : Hit}
    (found : state.hits[index]? = some hit) :
    ∃ next, (run (LimiterState.step hash) state events).hits[index]? = some next ∧
      next.request = hit.request ∧ next.phase.remaining ≤
        hit.phase.remaining - events.countP fun event => event.index? = some index := by
  induction events generalizing state hit with
  | nil => exact ⟨hit, found, rfl, Nat.le_refl _⟩
  | cons event rest ih =>
    obtain ⟨middle, foundMiddle, requestMiddle, lessMiddle⟩ :=
      remaining_step sound event found
    obtain ⟨next, foundNext, requestNext, lessNext⟩ :=
      ih (hitSound_step state event sound) foundMiddle
    refine ⟨next, foundNext, requestNext.trans requestMiddle, ?_⟩
    rw [List.countP_cons]
    simp only [decide_eq_true_eq]
    omega

/-- Slot identifiers of a window differ for different slots. -/
theorem slotId_injective {counter : String} {first second : Nat}
    (same : slotId counter first = slotId counter second) : first = second := by
  have lists := congrArg String.toList same
  simp only [slotId, String.toList_append, String.toList_ofList] at lists
  have digits : Text.digitsOf first = Text.digitsOf second := List.append_cancel_left lists
  calc first = Text.numeral (Text.digitsOf first) := (Text.numeral_digitsOf first).symm
    _ = Text.numeral (Text.digitsOf second) := by rw [digits]
    _ = second := Text.numeral_digitsOf second

/-- What holds in a run that deletes no slot document of a window. -/
structure WindowSound (hash : CounterHash) (counter : String) (state : LimiterState) : Prop where
  /-- The document of every slot held in the window is there. -/
  stored : ∀ hit ∈ state.hits, hit.request.counterId hash = counter →
    ∀ slot, hit.phase = .allowed slot →
      (state.documents.lookup (slotId counter slot)).isSome = true
  /-- No two requests of the window hold the same slot. -/
  apart : ∀ (first second : Nat) (one other : Hit) (slot : Nat),
    state.hits[first]? = some one → state.hits[second]? = some other →
    one.request.counterId hash = counter → other.request.counterId hash = counter →
    one.phase = .allowed slot → other.phase = .allowed slot → first = second

/-- Before the first request everything holds. -/
theorem windowSound_start (hash : CounterHash) (counter : String)
    (documents : List (String × SlotDocument)) : WindowSound hash counter ⟨documents, []⟩ where
  stored := fun hit member => by cases member
  apart := fun first second one other slot found => by cases found

/-- A request of the list after a replacement is the new one or an old one. -/
theorem getElem?_set_cases {hits : List Hit} {index position : Nat} {next hit : Hit}
    (found : (hits.set index next)[position]? = some hit) :
    position = index ∧ hit = next ∨ position ≠ index ∧ hits[position]? = some hit := by
  by_cases same : position = index
  · subst same
    obtain ⟨inside, equal⟩ := List.getElem?_eq_some_iff.mp found
    rw [List.getElem_set_self] at equal
    exact .inl ⟨rfl, equal.symm⟩
  · rw [List.getElem?_set_ne (Ne.symm same)] at found
    exact .inr ⟨same, found⟩

/-- A move of one request keeps the soundness of a window. -/
theorem windowSound_move {counter : String} {state : LimiterState} {index : Nat} {hit next : Hit}
    {documents : List (String × SlotDocument)} (found : state.hits[index]? = some hit)
    (moves : HitStep hash state.documents hit documents next)
    (sound : WindowSound hash counter state) :
    WindowSound hash counter ⟨documents, state.hits.set index next⟩ := by
  have keptDocuments : ∀ id, (state.documents.lookup id).isSome = true →
      (documents.lookup id).isSome = true := by
    cases moves with
    | other _ _ moves free kept => exact kept
    | takes slot _ moves allowed absent => exact lookup_write_isSome state.documents _ _
  have requestNext : next.request = hit.request := moves.hitMoves.request
  -- The slot that the new request holds had no document before.
  have fresh : ∀ slot, next.phase = .allowed slot → next.request.counterId hash = counter →
      state.documents.lookup (slotId counter slot) = none ∧
        (documents.lookup (slotId counter slot)).isSome = true := by
    intro slot held window
    cases moves with
    | other _ _ moves free kept => exact absurd held (free slot)
    | takes taken _ moves allowed absent =>
      obtain rfl : taken = slot := by
        have phases := allowed.symm.trans held
        injection phases
      rw [requestNext] at window
      rw [window] at absent ⊢
      refine ⟨absent, ?_⟩
      rw [List.lookup_cons, beq_self_eq_true]
      rfl
  have unshared : ∀ (position : Nat) (other : Hit) (slot : Nat), position ≠ index →
      state.hits[position]? = some other → other.request.counterId hash = counter →
      other.phase = .allowed slot → next.phase = .allowed slot →
      next.request.counterId hash = counter → False := by
    intro position other slot _ there window held heldNext windowNext
    have stored := sound.stored other (List.mem_of_getElem? there) window slot held
    rw [(fresh slot heldNext windowNext).1] at stored
    cases stored
  refine ⟨fun other inside window slot held => ?_, ?_⟩
  · rcases List.mem_or_eq_of_mem_set inside with old | rfl
    · exact keptDocuments _ (sound.stored other old window slot held)
    · exact (fresh slot held window).2
  · intro first second one other slot foundOne foundOther windowOne windowOther heldOne heldOther
    rcases getElem?_set_cases foundOne with ⟨rfl, rfl⟩ | ⟨awayOne, thereOne⟩
    · rcases getElem?_set_cases foundOther with ⟨rfl, rfl⟩ | ⟨awayOther, thereOther⟩
      · rfl
      · exact absurd (unshared second other slot awayOther thereOther windowOther heldOther heldOne
          windowOne) id
    · rcases getElem?_set_cases foundOther with ⟨rfl, rfl⟩ | ⟨awayOther, thereOther⟩
      · exact absurd (unshared first one slot awayOne thereOne windowOne heldOne heldOther
          windowOther) id
      · exact sound.apart first second one other slot thereOne thereOther windowOne windowOther
          heldOne heldOther

/-- An arrival keeps the soundness of a window. -/
theorem windowSound_arrive {counter : String} {state : LimiterState} (request : RateRequest)
    (sound : WindowSound hash counter state) :
    WindowSound hash counter
      { state with hits := state.hits ++ [⟨request, .counting, 0⟩] } := by
  have old : ∀ {position : Nat} {hit : Hit} {slot : Nat},
      (state.hits ++ [⟨request, .counting, 0⟩])[position]? = some hit →
      hit.phase = .allowed slot → state.hits[position]? = some hit := by
    intro position hit slot found held
    by_cases inside : position < state.hits.length
    · rw [List.getElem?_append_left inside] at found
      exact found
    · rw [List.getElem?_append_right (Nat.not_lt.mp inside)] at found
      have new := List.mem_of_getElem? found
      rw [List.mem_singleton] at new
      rw [new] at held
      cases held
  refine ⟨fun hit member window slot held => ?_, ?_⟩
  · rcases List.mem_append.mp member with before | new
    · exact sound.stored hit before window slot held
    · rw [List.mem_singleton.mp new] at held
      cases held
  · intro first second one other slot foundOne foundOther windowOne windowOther heldOne heldOther
    exact sound.apart first second one other slot (old foundOne heldOne) (old foundOther heldOther)
      windowOne windowOther heldOne heldOther

/-- A step that deletes no slot document of a window keeps its soundness. -/
theorem windowSound_step {counter : String} {state : LimiterState} {event : LimiterEvent}
    (kept : ∀ slot, event ≠ .purge (slotId counter slot))
    (sound : WindowSound hash counter state) :
    WindowSound hash counter (state.step hash event) := by
  have steps := step_limiterStep hash state event
  generalize state.step hash event = after at steps
  cases steps with
  | same _ idle => exact sound
  | arrive request => exact windowSound_arrive request sound
  | move _ index hit next documents own found moves => exact windowSound_move found moves sound
  | purge id =>
    refine ⟨fun hit member window slot held => ?_, sound.apart⟩
    have other : id ≠ slotId counter slot := fun same => kept slot (congrArg _ same)
    have stored := sound.stored hit member window slot held
    rw [← lookup_filter_ne other] at stored
    exact stored

end Steps

/-- Slot that a request of a window holds. -/
def Hit.heldSlot (policy : RateLimitPolicy) (tenantId uid : String) (start : Int) (hit : Hit) :
    Option Nat :=
  if hit.request.policy = policy ∧ hit.request.tenantId = tenantId ∧ hit.request.uid = uid ∧
      hit.request.windowStart = start then
    match hit.phase with
    | .allowed slot => some slot
    | .counting | .probing .. | .reading .. | .denied _ | .unavailable => none
  else none

/-- Slots that the allowed requests of a window hold, in the order of their arrival. -/
def LimiterState.heldSlots (policy : RateLimitPolicy) (tenantId uid : String) (start : Int)
    (state : LimiterState) : List Nat :=
  state.hits.filterMap (Hit.heldSlot policy tenantId uid start)

/-- A held slot is that of an allowed request of the window. -/
theorem heldSlot_eq_some {policy : RateLimitPolicy} {tenantId uid : String} {start : Int}
    {hit : Hit} {slot : Nat} (held : hit.heldSlot policy tenantId uid start = some slot) :
    hit.request.policy = policy ∧ hit.phase = .allowed slot ∧
      ∀ hash, hit.request.counterId hash = hash policy.operation tenantId uid start := by
  obtain ⟨request, phase, attempts⟩ := hit
  unfold Hit.heldSlot at held
  split at held
  · next window =>
    obtain ⟨rfl, rfl, rfl, rfl⟩ := window
    cases phase with
    | allowed taken =>
      cases held
      exact ⟨rfl, rfl, fun hash => rfl⟩
    | counting => cases held
    | probing slot probes conflicts => cases held
    | reading slot probes conflicts => cases held
    | denied reason => cases held
    | unavailable => cases held
  · cases held

/-- The distributed limit holds in every run from any documents, as long as no slot document of the
window is deleted: the allowed requests hold different slots and are no more than the limit. Every
request creates no more documents than the probe budget, and ends after twice as many of its own
steps, whatever the others do. -/
theorem distributed_limit_kept (hash : CounterHash) (documents : List (String × SlotDocument))
    (events : List LimiterEvent) (policy : RateLimitPolicy) (tenantId uid : String) (start : Int)
    (kept : ∀ event ∈ events, ∀ slot,
      event ≠ .purge (slotId (hash policy.operation tenantId uid start) slot)) :
    let state := run (LimiterState.step hash) ⟨documents, []⟩ events
    let held := state.heldSlots policy tenantId uid start
    held.Nodup ∧ (∀ slot ∈ held, (slot : Int) < policy.limit) ∧
      held.length ≤ policy.limit.toNat ∧
      (∀ hit ∈ state.hits, hit.attempts ≤ maxSlotProbes) ∧
      ∀ before later, events = before ++ later → ∀ (index : Nat) (hit : Hit),
        (run (LimiterState.step hash) ⟨documents, []⟩ before).hits[index]? = some hit →
        2 * maxSlotProbes + 2 ≤ later.countP (fun event => event.index? = some index) →
        ∃ next, state.hits[index]? = some next ∧ next.request = hit.request ∧
          next.phase.ended = true := by
  intro state held
  have soundAt : ∀ before : List LimiterEvent,
      ∀ hit ∈ (run (LimiterState.step hash) ⟨documents, []⟩ before).hits, HitSound hit :=
    run_invariant (fun state : LimiterState => ∀ hit ∈ state.hits, HitSound hit) hitSound_step
      (fun hit member => absurd member List.not_mem_nil)
  have sound : ∀ hit ∈ state.hits, HitSound hit := soundAt events
  have window : WindowSound hash (hash policy.operation tenantId uid start) state := by
    have along : Along (LimiterState.step hash) (fun _ event => ∀ slot,
        event ≠ .purge (slotId (hash policy.operation tenantId uid start) slot))
        ⟨documents, []⟩ events := along_of_forall kept
    exact along.invariant _ (fun state event => windowSound_step)
      (windowSound_start hash _ documents)
  have different : held.Nodup := by
    refine List.pairwise_filterMap.mpr (List.pairwise_iff_getElem.mpr ?_)
    intro first second insideFirst insideSecond before slot heldFirst other heldSecond same
    subst same
    obtain ⟨_, allowedFirst, windowFirst⟩ := heldSlot_eq_some heldFirst
    obtain ⟨_, allowedSecond, windowSecond⟩ := heldSlot_eq_some heldSecond
    exact Nat.ne_of_lt before (window.apart first second _ _ slot
      (List.getElem?_eq_getElem insideFirst) (List.getElem?_eq_getElem insideSecond)
      (windowFirst hash) (windowSecond hash) allowedFirst allowedSecond)
  have below : ∀ slot ∈ held, (slot : Int) < policy.limit := by
    intro slot member
    obtain ⟨hit, inside, holds⟩ := List.mem_filterMap.mp member
    obtain ⟨rfl, allowed, _⟩ := heldSlot_eq_some holds
    exact (sound hit inside).slots slot (by rw [allowed]; rfl)
  refine ⟨different, below, ?_, fun hit inside => ?_, ?_⟩
  · have within : held ⊆ List.range policy.limit.toNat := by
      intro slot member
      have bound := below slot member
      exact List.mem_range.mpr (by omega)
    calc held.length ≤ (List.range policy.limit.toNat).length :=
          (List.subperm_of_subset different within).length_le
      _ = policy.limit.toNat := List.length_range
  · exact (sound hit inside).attempts.trans (sound hit inside).probes
  · intro before later parts index hit found enough
    obtain ⟨next, foundNext, requestNext, less⟩ := remaining_run later (soundAt before) found
    refine ⟨next, ?_, requestNext, remaining_eq_zero.mp ?_⟩
    · rw [← foundNext, ← run_append, ← parts]
    · have most : hit.phase.remaining ≤ 2 * maxSlotProbes + 2 := remaining_le hit.phase
      omega

/-- Two requests race for the only slot of a window: the second finds it taken and is denied. -/
theorem distributed_limit_kept_race :
    let policy : RateLimitPolicy := ⟨"scan", 1, 60⟩
    let hash : CounterHash := fun operation tenantId uid _ => operation ++ tenantId ++ uid
    let request : RateRequest := ⟨"t", "u", policy, 125⟩
    let events : List LimiterEvent := [.arrive request, .arrive request, .advance 0, .advance 1,
      .advance 1, .advance 0, .purge "other", .advance 0]
    let state := run (LimiterState.step hash) ⟨[], []⟩ events
    state.heldSlots policy "t" "u" 120 = [0] ∧
      (state.heldSlots policy "t" "u" 120).length ≤ policy.limit.toNat ∧
      state.hits.map Hit.decision = [some ⟨false, 0, 55, some .limitReached⟩,
        some ⟨true, 0, 55, none⟩] := by
  intro policy hash request events state
  refine ⟨by decide +kernel, ?_, by decide +kernel⟩
  exact (distributed_limit_kept hash [] events policy "t" "u" 120 fun event member slot => by
    rintro rfl
    have other : slotId (hash policy.operation "t" "u" 120) slot = "other" := by
      simpa [events] using member
    have first := congrArg (fun text => text.toList.head?) other
    simp [slotId, hash, policy] at first).2.2.1

end RateGuard
