import RateGuard.RateLimit.InMemory

/-!
# The two rate limiters decide alike

Served one request after another, without storage failures and deletions, the distributed limiter
counts the slot documents of a window where the other reads a counter. The counter and the number
of documents agree for every window that a further request may still fall into.
-/

open Transition

namespace RateGuard

/-- A request served to its end while no other takes a step: it counts, then creates. -/
def LimiterState.serve (hash : CounterHash) (state : LimiterState) (request : RateRequest) :
    LimiterState :=
  run (LimiterState.step hash) state
    [.arrive request, .advance state.hits.length, .advance state.hits.length]

/-- A new distributed limiter. -/
def LimiterState.initial : LimiterState := ⟨[], []⟩

section SlotIds

/-- Digits hold no separator. -/
theorem separator_not_mem_digitsOf (slot : Nat) : '_' ∉ Text.digitsOf slot := by
  intro member
  have digit := Text.digitsOf_basic member
  revert digit
  decide

/-- Texts that end in digits after a separator have the same front when they are the same. -/
theorem append_digits_inj {first second tail other : List Char} (plain : '_' ∉ tail)
    (clean : '_' ∉ other) (same : first ++ '_' :: tail = second ++ '_' :: other) :
    first = second ∧ tail = other := by
  induction first generalizing second with
  | nil =>
    cases second with
    | nil => exact ⟨rfl, (List.cons.inj same).2⟩
    | cons head rest =>
      have tails : tail = rest ++ '_' :: other := (List.cons.inj same).2
      exact absurd (by rw [tails]; simp) plain
  | cons head rest ih =>
    cases second with
    | nil =>
      have tails : rest ++ '_' :: tail = other := (List.cons.inj same).2
      exact absurd (by rw [← tails]; simp) clean
    | cons start more =>
      obtain ⟨heads, tails⟩ := List.cons.inj same
      obtain ⟨fronts, ends⟩ := ih tails
      exact ⟨by rw [heads, fronts], ends⟩

/-- Slot identifiers tell windows and slots apart. -/
theorem slotId_inj {first second : String} {slot other : Nat}
    (same : slotId first slot = slotId second other) : first = second ∧ slot = other := by
  have lists := congrArg String.toList same
  simp only [slotId, String.toList_append, String.toList_ofList, List.append_assoc] at lists
  obtain ⟨fronts, digits⟩ := append_digits_inj (separator_not_mem_digitsOf slot)
    (separator_not_mem_digitsOf other) lists
  refine ⟨String.toList_inj.mp fronts, ?_⟩
  calc slot = Text.numeral (Text.digitsOf slot) := (Text.numeral_digitsOf slot).symm
    _ = Text.numeral (Text.digitsOf other) := by rw [digits]
    _ = other := Text.numeral_digitsOf other

end SlotIds

section Serving

variable {hash : CounterHash}

/-- The next call of the request that arrived last. -/
theorem step_last (documents : List (String × SlotDocument)) (hits : List Hit) (hit : Hit) :
    LimiterState.step hash ⟨documents, hits ++ [hit]⟩ (.advance hits.length) =
      LimiterState.advance hash ⟨documents, hits ++ [hit]⟩ hits.length hit := by
  unfold LimiterState.step
  dsimp only
  rw [List.getElem?_append_right (Nat.le_refl _), Nat.sub_self]
  rfl

/-- Replacing the last request. -/
theorem set_last (hits : List Hit) (hit next : Hit) :
    (hits ++ [hit]).set hits.length next = hits ++ [next] := by
  rw [List.set_append_right _ _ (Nat.le_refl _), Nat.sub_self]
  rfl

/-- At the limit a counted request is denied. -/
theorem Hit.counted_full {request : RateRequest} {used : Nat}
    (full : request.policy.limit ≤ used) :
    Hit.counted ⟨request, .counting, 0⟩ used = ⟨request, .denied .limitReached, 0⟩ := by
  unfold Hit.counted
  dsimp only
  rw [if_pos full]

/-- Below the limit a counted request tries the slot after the counted ones. -/
theorem Hit.counted_room {request : RateRequest} {used : Nat}
    (room : (used : Int) < request.policy.limit) :
    Hit.counted ⟨request, .counting, 0⟩ used = ⟨request, .probing used 0 0, 0⟩ := by
  unfold Hit.counted HitPhase.probe
  dsimp only
  rw [if_neg (not_le.mpr room), if_pos room, if_neg (by decide)]

/-- Served at the limit a request is denied. -/
theorem serve_full {state : LimiterState} {request : RateRequest}
    (full : request.policy.limit ≤ state.used (request.counterId hash)) :
    state.serve hash request =
      ⟨state.documents, state.hits ++ [⟨request, .denied .limitReached, 0⟩]⟩ := by
  obtain ⟨documents, hits⟩ := state
  have counted : LimiterState.step hash ⟨documents, hits ++ [⟨request, .counting, 0⟩]⟩
      (.advance hits.length) =
      ⟨documents, hits ++ [⟨request, .denied .limitReached, 0⟩]⟩ := by
    rw [step_last]
    show LimiterState.setHit _ _ (Hit.counted _
      (LimiterState.used ⟨documents, hits⟩ (request.counterId hash))) = _
    rw [Hit.counted_full full, LimiterState.setHit, set_last]
  have idle : LimiterState.step hash
      ⟨documents, hits ++ [⟨request, .denied .limitReached, 0⟩]⟩ (.advance hits.length) =
      ⟨documents, hits ++ [⟨request, .denied .limitReached, 0⟩]⟩ := by
    rw [step_last]
    rfl
  calc LimiterState.serve hash ⟨documents, hits⟩ request
      = LimiterState.step hash (LimiterState.step hash
          ⟨documents, hits ++ [⟨request, .counting, 0⟩]⟩ (.advance hits.length))
          (.advance hits.length) := rfl
    _ = ⟨documents, hits ++ [⟨request, .denied .limitReached, 0⟩]⟩ := by rw [counted, idle]

/-- Served below the limit a request takes the slot after the counted ones, if it is free. -/
theorem serve_free {state : LimiterState} {request : RateRequest}
    (room : (state.used (request.counterId hash) : Int) < request.policy.limit)
    (free : state.document (slotId (request.counterId hash)
      (state.used (request.counterId hash))) = none) :
    let slot := state.used (request.counterId hash)
    state.serve hash request =
      ⟨(slotId (request.counterId hash) slot, request.document hash slot) :: state.documents,
        state.hits ++ [⟨request, .allowed slot, 1⟩]⟩ := by
  intro slot
  obtain ⟨documents, hits⟩ := state
  have counted : LimiterState.step hash ⟨documents, hits ++ [⟨request, .counting, 0⟩]⟩
      (.advance hits.length) =
      ⟨documents, hits ++ [⟨request, .probing slot 0 0, 0⟩]⟩ := by
    rw [step_last]
    show LimiterState.setHit _ _ (Hit.counted _
      (LimiterState.used ⟨documents, hits⟩ (request.counterId hash))) = _
    rw [Hit.counted_room room, LimiterState.setHit, set_last]
  have created : LimiterState.step hash
      ⟨documents, hits ++ [⟨request, .probing slot 0 0, 0⟩]⟩ (.advance hits.length) =
      ⟨(slotId (request.counterId hash) slot, request.document hash slot) :: documents,
        hits ++ [⟨request, .allowed slot, 1⟩]⟩ := by
    rw [step_last]
    unfold LimiterState.advance LimiterState.document
    dsimp only
    have absent : documents.lookup (slotId (request.counterId hash) slot) = none := free
    rw [absent]
    dsimp only [LimiterState.setHit, LimiterState.write, Hit.attempted]
    rw [set_last]
  calc LimiterState.serve hash ⟨documents, hits⟩ request
      = LimiterState.step hash (LimiterState.step hash
          ⟨documents, hits ++ [⟨request, .counting, 0⟩]⟩ (.advance hits.length))
          (.advance hits.length) := rfl
    _ = _ := by rw [counted, created]

/-- A written document is one more of its window. -/
theorem used_write (documents : List (String × SlotDocument)) (hits : List Hit)
    (request : RateRequest) (id : String) (slot : Nat) (counter : String) :
    LimiterState.used ⟨(id, request.document hash slot) :: documents, hits⟩ counter =
      LimiterState.used ⟨documents, hits⟩ counter +
        if request.counterId hash = counter then 1 else 0 := by
  unfold LimiterState.used
  rw [List.countP_cons]
  have key : (request.document hash slot).field "window_key" =
      .str (request.counterId hash) := rfl
  simp only [key, FieldValue.str.injEq, decide_eq_true_eq]

end Serving

/-- What the two limiters have in common before further requests under one policy. -/
structure LimitersAlike (hash : CounterHash) (memory : MemoryState) (shared : LimiterState)
    (rest : List RateRequest) : Prop where
  /-- The requests and their answers are the same. -/
  answers : shared.hits.map (fun hit => (hit.request, hit.decision)) =
    memory.log.map fun answered => (answered.1, some answered.2)
  /-- The slots of a window that have documents are those below their number. -/
  filled : ∀ counter slot, (shared.document (slotId counter slot)).isSome = true →
    slot < shared.used counter
  /-- A counter is the number of documents, and of the window of its further requests. -/
  counted : ∀ counter ∈ memory.counters, counter.2.2 = shared.used counter.1 ∧
    ∀ request ∈ rest, request.counterId hash = counter.1 → counter.2.1 = request.windowStart
  /-- A window of a further request that has no counter has no documents. -/
  uncounted : ∀ request ∈ rest, memory.counters.lookup (request.counterId hash) = none →
    shared.used (request.counterId hash) = 0

/-- A found entry is an entry. -/
theorem mem_of_lookup {β : Type} {entries : List (String × β)} {id : String} {value : β}
    (found : entries.lookup id = some value) : (id, value) ∈ entries := by
  obtain ⟨before, after, parts, -⟩ := List.lookup_eq_some_iff.mp found
  rw [parts]
  exact List.mem_append_right before List.mem_cons_self

section Steps

variable {hash : CounterHash} {memory : MemoryState} {shared : LimiterState}
  {request : RateRequest} {rest : List RateRequest}

/-- A cleanup leaves the counters of the windows that further requests fall into. -/
theorem uncounted_kept (alike : LimitersAlike hash memory shared (request :: rest)) {next : RateRequest}
    (further : next ∈ request :: rest) (later : request.now ≤ next.now)
    (one : next.policy = request.policy) (long : 0 < request.policy.windowSeconds)
    (none : (memory.kept request).lookup (next.counterId hash) = none) :
    shared.used (next.counterId hash) = 0 := by
  cases found : memory.counters.lookup (next.counterId hash) with
  | none => exact alike.uncounted next further found
  | some counter =>
    have start : counter.1 = next.windowStart :=
      (alike.counted _ (mem_of_lookup found)).2 next further rfl
    have running : request.now < next.windowStart + request.policy.windowSeconds := by
      have inside : next.now < next.windowEnd := (now_mem_window (one ▸ long)).2
      have ends : next.windowEnd = next.windowStart + next.policy.windowSeconds := rfl
      rw [ends, one] at inside
      push_cast at inside
      exact lt_of_le_of_lt later inside
    have spared : request.finished counter = false := by
      refine decide_eq_false (not_lt.mpr ?_)
      have positive : (0 : ℚ) < request.policy.windowSeconds := by exact_mod_cast long
      rw [start]
      linarith
    rw [lookup_kept found spared] at none
    cases none

/-- The counter of a request is the number of documents of its window. -/
theorem count_eq_used (alike : LimitersAlike hash memory shared (request :: rest))
    (long : 0 < request.policy.windowSeconds) :
    memory.count hash request = shared.used (request.counterId hash) := by
  cases found : (memory.kept request).lookup (request.counterId hash) with
  | none =>
    rw [uncounted_kept alike List.mem_cons_self (le_refl _) rfl long found]
    unfold MemoryState.count
    rw [found]
    rfl
  | some counter =>
    rw [count_of_kept found]
    exact (alike.counted _ (List.mem_of_mem_filter (mem_of_lookup found))).1

/-- Denied requests leave the limiters alike. -/
theorem alike_full (alike : LimitersAlike hash memory shared (request :: rest))
    (long : 0 < request.policy.windowSeconds)
    (one : ∀ next ∈ rest, next.policy = request.policy)
    (later : ∀ next ∈ rest, request.now ≤ next.now)
    (full : request.policy.limit ≤ shared.used (request.counterId hash)) :
    LimitersAlike hash (memory.hit hash request) (shared.serve hash request) rest := by
  have count := count_eq_used alike long
  have denied : memory.hit hash request = ⟨memory.kept request, memory.log ++ [(request,
      ⟨false, 0, retryAfter request.now request.windowEnd, some .limitReached⟩)]⟩ := by
    unfold MemoryState.hit
    dsimp only
    rw [if_pos (by rw [count]; exact full)]
  rw [denied, serve_full full]
  refine ⟨?_, alike.filled, fun counter member => ?_, fun next further none => ?_⟩
  · rw [List.map_append, List.map_append, alike.answers]
    rfl
  · obtain ⟨same, starts⟩ := alike.counted counter (List.mem_of_mem_filter member)
    exact ⟨same, fun next further => starts next (List.mem_cons_of_mem request further)⟩
  · exact uncounted_kept alike (List.mem_cons_of_mem request further) (later next further)
      (one next further) long none

/-- Allowed requests leave the limiters alike. -/
theorem alike_room (alike : LimitersAlike hash memory shared (request :: rest))
    (long : 0 < request.policy.windowSeconds)
    (one : ∀ next ∈ rest, next.policy = request.policy)
    (later : ∀ next ∈ rest, request.now ≤ next.now)
    (apart : ∀ next ∈ rest, next.counterId hash = request.counterId hash →
      next.windowStart = request.windowStart)
    (room : (shared.used (request.counterId hash) : Int) < request.policy.limit) :
    LimitersAlike hash (memory.hit hash request) (shared.serve hash request) rest := by
  have count := count_eq_used alike long
  have allowed : memory.hit hash request =
      ⟨(request.counterId hash, request.windowStart,
          shared.used (request.counterId hash) + 1) ::
        (memory.kept request).filter fun counter => counter.1 ≠ request.counterId hash,
        memory.log ++ [(request,
          ⟨true, request.policy.limit - shared.used (request.counterId hash) - 1,
            retryAfter request.now request.windowEnd, none⟩)]⟩ := by
    unfold MemoryState.hit
    dsimp only
    rw [count, if_neg (not_le.mpr room)]
  have free : shared.document (slotId (request.counterId hash)
      (shared.used (request.counterId hash))) = none := by
    rw [← Option.not_isSome_iff_eq_none]
    exact fun there => Nat.lt_irrefl _ (alike.filled _ _ there)
  rw [allowed, serve_free room free]
  refine ⟨?_, fun counter slot there => ?_, fun counter member => ?_,
    fun next further none => ?_⟩
  · rw [List.map_append, List.map_append, alike.answers]
    rfl
  · rw [used_write]
    unfold LimiterState.document at there
    rw [List.lookup_cons] at there
    cases same : slotId counter slot == slotId (request.counterId hash)
        (shared.used (request.counterId hash)) with
    | true =>
      obtain ⟨rfl, rfl⟩ := slotId_inj (eq_of_beq same)
      rw [if_pos rfl]
      exact Nat.lt_succ_self _
    | false =>
      rw [same] at there
      exact Nat.lt_of_lt_of_le (alike.filled counter slot there) (Nat.le_add_right _ _)
  · rw [used_write]
    rcases List.mem_cons.mp member with rfl | old
    · refine ⟨?_, fun next further same => ?_⟩
      · exact (if_pos rfl).symm ▸ rfl
      · exact (apart next further same).symm
    · obtain ⟨kept, other⟩ := List.mem_filter.mp old
      obtain ⟨same, starts⟩ := alike.counted counter (List.mem_of_mem_filter kept)
      rw [if_neg (Ne.symm (of_decide_eq_true other)), Nat.add_zero]
      exact ⟨same, fun next further => starts next (List.mem_cons_of_mem request further)⟩
  · rw [used_write]
    rw [List.lookup_cons] at none
    cases same : next.counterId hash == request.counterId hash with
    | true =>
      rw [same] at none
      cases none
    | false =>
      rw [same] at none
      have other : request.counterId hash ≠ next.counterId hash :=
        Ne.symm (beq_eq_false_iff_ne.mp same)
      dsimp only at none
      rw [lookup_filter_ne other] at none
      rw [if_neg other, Nat.add_zero]
      exact uncounted_kept alike (List.mem_cons_of_mem request further) (later next further)
        (one next further) long none

/-- Requests leave the limiters alike. -/
theorem alike_hit (alike : LimitersAlike hash memory shared (request :: rest))
    (long : 0 < request.policy.windowSeconds)
    (one : ∀ next ∈ rest, next.policy = request.policy)
    (later : ∀ next ∈ rest, request.now ≤ next.now)
    (apart : ∀ next ∈ rest, next.counterId hash = request.counterId hash →
      next.windowStart = request.windowStart) :
    LimitersAlike hash (memory.hit hash request) (shared.serve hash request) rest := by
  rcases lt_or_ge (shared.used (request.counterId hash) : Int) request.policy.limit with room | full
  · exact alike_room alike long one later apart room
  · exact alike_full alike long one later full

/-- Runs leave the limiters alike. -/
theorem alike_run {policy : RateLimitPolicy} (long : 0 < policy.windowSeconds)
    (requests : List RateRequest) {memory : MemoryState} {shared : LimiterState}
    (one : ∀ request ∈ requests, request.policy = policy)
    (ordered : requests.Pairwise fun first second => first.now ≤ second.now)
    (apart : requests.Pairwise fun first second =>
      second.counterId hash = first.counterId hash → second.windowStart = first.windowStart)
    (alike : LimitersAlike hash memory shared requests) :
    LimitersAlike hash (run (MemoryState.hit hash) memory requests)
      (run (LimiterState.serve hash) shared requests) [] := by
  induction requests generalizing memory shared with
  | nil => exact alike
  | cons request rest ih =>
    obtain ⟨later, ordered⟩ := List.pairwise_cons.mp ordered
    obtain ⟨distinct, apart⟩ := List.pairwise_cons.mp apart
    have first : request.policy = policy := one request List.mem_cons_self
    have others : ∀ next ∈ rest, next.policy = policy :=
      fun next member => one next (List.mem_cons_of_mem request member)
    exact ih others ordered apart (alike_hit alike (first.symm ▸ long)
      (fun next member => (others next member).trans first.symm) later distinct)

end Steps

/-- For every policy and every sequence of requests made one after another at nondecreasing times,
whose windows the hash tells apart, the two limiters give the same answers. -/
theorem limiters_decide_alike (hash : CounterHash) (policy : RateLimitPolicy)
    (long : 0 < policy.windowSeconds) (requests : List RateRequest)
    (one : ∀ request ∈ requests, request.policy = policy)
    (ordered : requests.Pairwise fun first second => first.now ≤ second.now)
    (apart : requests.Pairwise fun first second =>
      second.counterId hash = first.counterId hash → second.windowStart = first.windowStart) :
    let memory := run (MemoryState.hit hash) .initial requests
    let shared := run (LimiterState.serve hash) .initial requests
    shared.hits.map (fun hit => (hit.request, hit.decision)) =
      memory.log.map fun answered => (answered.1, some answered.2) := by
  intro memory shared
  have initial : LimitersAlike hash .initial .initial requests :=
    ⟨rfl, fun _ _ there => (by cases there), fun _ member => (by cases member), fun _ _ _ => rfl⟩
  exact (alike_run long requests one ordered apart initial).answers

/-- Four requests of two users over two windows, of which the third is one too many. -/
def windowedRequests : List RateRequest :=
  [⟨"t", "u", ⟨"scan", 1, 60⟩, 0⟩, ⟨"t", "v", ⟨"scan", 1, 60⟩, 10⟩, ⟨"t", "u", ⟨"scan", 1, 60⟩, 20⟩,
    ⟨"t", "u", ⟨"scan", 1, 60⟩, 200⟩]

/-- Both limiters allow all of them but the third. -/
theorem limiters_decide_alike_windowed :
    (run (LimiterState.serve sampleHash) .initial windowedRequests).hits.map
        (fun hit => (hit.request, hit.decision)) =
      (run (MemoryState.hit sampleHash) .initial windowedRequests).log.map
        (fun answered => (answered.1, some answered.2)) ∧
    (run (MemoryState.hit sampleHash) .initial windowedRequests).log.map (·.2.allowed) =
      [true, true, false, true] :=
  ⟨limiters_decide_alike sampleHash ⟨"scan", 1, 60⟩ (by decide) windowedRequests
    (by decide +kernel) (by decide +kernel) (by decide +kernel), by decide +kernel⟩

end RateGuard
