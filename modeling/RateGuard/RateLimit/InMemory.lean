import RateGuard.RateLimit.Limiter

/-!
# The in-memory rate limiter

One table of counters serves every policy. A request first deletes the counters that it takes for
finished, judged by the length of its own window. The limit of a window is kept in every run in
which these cleanups spare the counters of windows that still run; a request under a short window
deletes the running counter of a long one.
-/

open Transition

namespace RateGuard

/-- Counters by identifier, each with the start of its window, and the answered requests. -/
structure MemoryState where
  /-- Counters. -/
  counters : List (String × Int × Nat)
  /-- Requests with their answers, in the order of the calls. -/
  log : List (RateRequest × RateDecision)

/-- A new limiter. -/
def MemoryState.initial : MemoryState := ⟨[], []⟩

/-- Moment at which the window of a request ends. -/
def RateRequest.windowEnd (request : RateRequest) : Int :=
  (windowBounds request.now request.policy).2

/-- Whether a request takes a counter for one of a finished window. -/
def RateRequest.finished (request : RateRequest) (counter : Int × Nat) : Bool :=
  (counter.1 : ℚ) + 2 * request.policy.windowSeconds < request.now

/-- Counters after the cleanup of a request. -/
def MemoryState.kept (state : MemoryState) (request : RateRequest) : List (String × Int × Nat) :=
  state.counters.filter fun counter => !request.finished counter.2

section Hits

variable (hash : CounterHash)

/-- Count of a request's window after the cleanup. -/
def MemoryState.count (state : MemoryState) (request : RateRequest) : Nat :=
  (((state.kept request).lookup (request.counterId hash)).getD (request.windowStart, 0)).2

/-- `hit`. -/
def MemoryState.hit (state : MemoryState) (request : RateRequest) : MemoryState :=
  let id := request.counterId hash
  let kept := state.kept request
  let count := state.count hash request
  let wait := retryAfter request.now request.windowEnd
  if request.policy.limit ≤ count then
    ⟨kept, state.log ++ [(request, ⟨false, 0, wait, some .limitReached⟩)]⟩
  else
    ⟨(id, request.windowStart, count + 1) :: kept.filter fun counter => counter.1 ≠ id,
      state.log ++ [(request, ⟨true, request.policy.limit - count - 1, wait, none⟩)]⟩

/-- Whether the cleanup of a request spares the counter of every answered request whose window
still runs. -/
def CleanupSpares (state : MemoryState) (request : RateRequest) : Prop :=
  ∀ earlier ∈ state.log, request.now < earlier.1.windowEnd →
    ∀ counter, state.counters.lookup (earlier.1.counterId hash) = some counter →
      request.finished counter = false

instance CleanupSpares.decidable (state : MemoryState) (request : RateRequest) :
    Decidable (CleanupSpares hash state request) :=
  decidable_of_iff (∀ earlier ∈ state.log, request.now < earlier.1.windowEnd →
    ∀ counter ∈ state.counters.lookup (earlier.1.counterId hash),
      request.finished counter = false) Iff.rfl

end Hits

/-- Whether a request is one of a window. -/
def RateRequest.InWindow (policy : RateLimitPolicy) (tenantId uid : String) (start : Int)
    (request : RateRequest) : Prop :=
  request.policy = policy ∧ request.tenantId = tenantId ∧ request.uid = uid ∧
    request.windowStart = start

instance RateRequest.InWindow.decidable (policy : RateLimitPolicy) (tenantId uid : String)
    (start : Int) (request : RateRequest) :
    Decidable (request.InWindow policy tenantId uid start) :=
  inferInstanceAs (Decidable (_ ∧ _ ∧ _ ∧ _))

/-- Number of allowed requests of a window. -/
def MemoryState.allowedIn (policy : RateLimitPolicy) (tenantId uid : String) (start : Int)
    (state : MemoryState) : Nat :=
  state.log.countP fun answered =>
    decide (answered.1.InWindow policy tenantId uid start) && answered.2.allowed

section Windows

/-- A request lies in its window. -/
theorem now_mem_window {request : RateRequest} (long : 0 < request.policy.windowSeconds) :
    (request.windowStart : ℚ) ≤ request.now ∧ request.now < request.windowEnd := by
  have positive : (0 : ℚ) < request.policy.windowSeconds := by exact_mod_cast long
  have below : (⌊request.now / request.policy.windowSeconds⌋ : ℚ) ≤
      request.now / request.policy.windowSeconds := Int.floor_le _
  have above : request.now / request.policy.windowSeconds <
      ⌊request.now / request.policy.windowSeconds⌋ + 1 := Int.lt_floor_add_one _
  rw [le_div_iff₀ positive] at below
  rw [div_lt_iff₀ positive, add_mul, one_mul] at above
  have ends : request.windowEnd = request.windowStart + request.policy.windowSeconds := rfl
  have starts : request.windowStart =
      ⌊request.now / request.policy.windowSeconds⌋ * request.policy.windowSeconds := rfl
  rw [ends, starts]
  push_cast
  exact ⟨below, above⟩

/-- Requests of one window have the same end. -/
theorem windowEnd_of_inWindow {policy : RateLimitPolicy} {tenantId uid : String} {start : Int}
    {request : RateRequest} (inside : request.InWindow policy tenantId uid start) :
    request.windowEnd = start + policy.windowSeconds := by
  obtain ⟨rfl, -, -, rfl⟩ := inside
  rfl

/-- A counter that a cleanup spares is found as before. -/
theorem lookup_kept {state : MemoryState} {request : RateRequest} {id : String}
    {counter : Int × Nat} (found : state.counters.lookup id = some counter)
    (spared : request.finished counter = false) :
    (state.kept request).lookup id = some counter := by
  unfold MemoryState.kept
  generalize state.counters = counters at found
  induction counters with
  | nil => cases found
  | cons head rest ih =>
    obtain ⟨name, value⟩ := head
    rw [List.lookup_cons] at found
    cases same : id == name with
    | true =>
      rw [same] at found
      cases found
      rw [List.filter_cons_of_pos (by rw [spared]; rfl), List.lookup_cons, same]
    | false =>
      rw [same] at found
      rw [List.filter_cons]
      split
      · rw [List.lookup_cons, same]
        exact ih found
      · exact ih found

/-- A counter that is there after the cleanup is the one that is counted. -/
theorem count_of_kept {hash : CounterHash} {state : MemoryState} {request : RateRequest}
    {counter : Int × Nat}
    (found : (state.kept request).lookup (request.counterId hash) = some counter) :
    state.count hash request = counter.2 := by
  unfold MemoryState.count
  rw [found]
  rfl

end Windows

/-- What holds of a window while further requests come: no more than the limit are allowed, and
while the window runs for one of them its counter counts the allowed. -/
structure WindowCounted (hash : CounterHash) (policy : RateLimitPolicy) (tenantId uid : String)
    (start : Int) (state : MemoryState) (rest : List RateRequest) : Prop where
  /-- The limit is kept. -/
  within : state.allowedIn policy tenantId uid start ≤ policy.limit.toNat
  /-- The counter counts the allowed requests. -/
  counted : 0 < state.allowedIn policy tenantId uid start →
    (∃ request ∈ rest, request.now < start + policy.windowSeconds) →
    ∃ counter, state.counters.lookup (hash policy.operation tenantId uid start) = some counter ∧
      state.allowedIn policy tenantId uid start ≤ counter.2

section Steps

variable {hash : CounterHash} {policy : RateLimitPolicy} {tenantId uid : String} {start : Int}

/-- A window with an allowed request has an answered request. -/
theorem exists_answered {state : MemoryState}
    (some : 0 < state.allowedIn policy tenantId uid start) :
    ∃ answered ∈ state.log, answered.1.InWindow policy tenantId uid start := by
  obtain ⟨answered, member, allowed⟩ := List.countP_pos_iff.mp some
  exact ⟨answered, member, of_decide_eq_true (Bool.and_eq_true_iff.mp allowed).1⟩

/-- While a window runs, a cleanup that spares running counters leaves the counter of its allowed
requests. -/
theorem counted_kept {state : MemoryState} {request : RateRequest} {rest : List RateRequest}
    (spares : CleanupSpares hash state request)
    (sound : WindowCounted hash policy tenantId uid start state (request :: rest))
    (some : 0 < state.allowedIn policy tenantId uid start)
    (running : request.now < start + policy.windowSeconds) :
    ∃ counter, (state.kept request).lookup (hash policy.operation tenantId uid start) =
      Option.some counter ∧ state.allowedIn policy tenantId uid start ≤ counter.2 := by
  obtain ⟨counter, found, enough⟩ :=
    sound.counted some ⟨request, List.mem_cons_self, running⟩
  obtain ⟨answered, member, inside⟩ := exists_answered some
  have id : answered.1.counterId hash = hash policy.operation tenantId uid start := by
    obtain ⟨rfl, rfl, rfl, rfl⟩ := inside
    rfl
  have spared : request.finished counter = false := by
    refine spares answered member ?_ counter ?_
    · rw [windowEnd_of_inWindow inside]
      push_cast
      exact running
    · rw [id]
      exact found
  exact ⟨counter, lookup_kept found spared, enough⟩

/-- Another answer counts when it allows a request of the window. -/
theorem allowedIn_append (counters : List (String × Int × Nat)) (state : MemoryState)
    (request : RateRequest) (decision : RateDecision) :
    MemoryState.allowedIn policy tenantId uid start
        ⟨counters, state.log ++ [(request, decision)]⟩ =
      state.allowedIn policy tenantId uid start +
        if request.InWindow policy tenantId uid start ∧ decision.allowed = true then 1 else 0 := by
  unfold MemoryState.allowedIn
  rw [List.countP_append, List.countP_singleton]
  simp only [Bool.and_eq_true, decide_eq_true_eq]

/-- A request keeps what holds of a window. -/
theorem windowCounted_hit {state : MemoryState} {request : RateRequest} {rest : List RateRequest}
    (long : 0 < policy.windowSeconds) (later : ∀ other ∈ rest, request.now ≤ other.now)
    (spares : CleanupSpares hash state request)
    (sound : WindowCounted hash policy tenantId uid start state (request :: rest)) :
    WindowCounted hash policy tenantId uid start (state.hit hash request) rest := by
  have earlier : (∃ other ∈ rest, other.now < start + policy.windowSeconds) →
      request.now < start + policy.windowSeconds := by
    rintro ⟨other, member, running⟩
    exact lt_of_le_of_lt (later other member) running
  have kept := counted_kept spares sound
  unfold MemoryState.hit
  dsimp only
  split
  · next full =>
    refine ⟨?_, ?_⟩
    · rw [allowedIn_append, if_neg (by simp)]
      exact sound.within
    · rw [allowedIn_append, if_neg (by simp)]
      exact fun some running => kept some (earlier running)
  · next room =>
    by_cases inside : request.InWindow policy tenantId uid start
    · have id : request.counterId hash = hash policy.operation tenantId uid start := by
        obtain ⟨rfl, rfl, rfl, rfl⟩ := inside
        rfl
      have running : request.now < start + policy.windowSeconds := by
        have within : request.now < request.windowEnd := (now_mem_window (inside.1 ▸ long)).2
        rw [windowEnd_of_inWindow inside] at within
        exact_mod_cast within
      have enough : state.allowedIn policy tenantId uid start ≤ state.count hash request := by
        rcases Nat.eq_zero_or_pos (state.allowedIn policy tenantId uid start) with none | some
        · rw [none]
          exact Nat.zero_le _
        · obtain ⟨counter, found, counts⟩ := kept some running
          rw [← id] at found
          rw [count_of_kept found]
          exact counts
      have limit : request.policy = policy := inside.1
      rw [limit] at room
      refine ⟨?_, fun _ _ => ⟨(request.windowStart, state.count hash request + 1), ?_, ?_⟩⟩
      · rw [allowedIn_append, if_pos ⟨inside, rfl⟩]
        omega
      · rw [id, List.lookup_cons, beq_self_eq_true]
      · rw [allowedIn_append, if_pos ⟨inside, rfl⟩]
        exact Nat.succ_le_succ enough
    · refine ⟨?_, ?_⟩
      · rw [allowedIn_append, if_neg fun both => inside both.1]
        exact sound.within
      · rw [allowedIn_append, if_neg fun both => inside both.1]
        intro some running
        obtain ⟨counter, found, counts⟩ := kept some (earlier running)
        by_cases same : request.counterId hash = hash policy.operation tenantId uid start
        · refine ⟨(request.windowStart, state.count hash request + 1), ?_, ?_⟩
          · rw [same, List.lookup_cons, beq_self_eq_true]
          · rw [← same] at found
            rw [count_of_kept found]
            exact Nat.le_succ_of_le counts
        · refine ⟨counter, ?_, counts⟩
          rw [List.lookup_cons, beq_eq_false_iff_ne.mpr (Ne.symm same), lookup_filter_ne same]
          exact found

/-- The requests of an ordered run keep what holds of a window. -/
theorem windowCounted_run (long : 0 < policy.windowSeconds) (requests : List RateRequest)
    {state : MemoryState} (ordered : requests.Pairwise fun first second => first.now ≤ second.now)
    (spared : Along (MemoryState.hit hash) (CleanupSpares hash) state requests)
    (sound : WindowCounted hash policy tenantId uid start state requests) :
    WindowCounted hash policy tenantId uid start (run (MemoryState.hit hash) state requests)
      [] := by
  induction requests generalizing state with
  | nil => exact sound
  | cons request rest ih =>
    obtain ⟨later, ordered⟩ := List.pairwise_cons.mp ordered
    exact ih ordered spared.2 (windowCounted_hit long later spared.1 sound)

end Steps

/-- In every run of requests at nondecreasing times whose cleanups spare the counters of running
windows, no window has more allowed requests than its policy's limit, whatever policies the other
requests are under. -/
theorem memory_limit_kept (hash : CounterHash) (requests : List RateRequest)
    (ordered : requests.Pairwise fun first second => first.now ≤ second.now)
    (spared : Along (MemoryState.hit hash) (CleanupSpares hash) .initial requests)
    (policy : RateLimitPolicy) (long : 0 < policy.windowSeconds) (tenantId uid : String)
    (start : Int) :
    (run (MemoryState.hit hash) .initial requests).allowedIn policy tenantId uid start ≤
      policy.limit.toNat :=
  (windowCounted_run long requests ordered spared
    ⟨Nat.zero_le _, fun some => absurd some (Nat.lt_irrefl 0)⟩).within

/-- A hash that keeps its arguments apart. -/
def sampleHash : CounterHash := fun operation tenantId uid start =>
  operation ++ ":" ++ tenantId ++ ":" ++ uid ++ ":" ++ String.ofList (Text.digitsOf start.toNat)

/-- A short policy beside two requests of a long one, all in the first minutes. -/
def interleavedRequests (pause : ℚ) : List RateRequest :=
  [⟨"t", "u", ⟨"mission_create", 1, 3600⟩, 0⟩, ⟨"t", "u", ⟨"source_upload", 1, 60⟩, pause⟩,
    ⟨"t", "u", ⟨"mission_create", 1, 3600⟩, 150⟩]

/-- While the short window is not twice over, the long one keeps its limit. -/
theorem memory_limit_kept_soon :
    (run (MemoryState.hit sampleHash) .initial (interleavedRequests 120)).allowedIn
      ⟨"mission_create", 1, 3600⟩ "t" "u" 0 ≤ 1 :=
  memory_limit_kept sampleHash (interleavedRequests 120) (by decide +kernel) (by decide +kernel)
    ⟨"mission_create", 1, 3600⟩ (by decide) "t" "u" 0

/-- A request under a short window deletes the running counter of a long one, which then allows two
requests where its limit is one. -/
theorem memory_limit_exceeded :
    ((interleavedRequests 121).Pairwise fun first second => first.now ≤ second.now) ∧
    (run (MemoryState.hit sampleHash) .initial (interleavedRequests 121)).allowedIn
      ⟨"mission_create", 1, 3600⟩ "t" "u" 0 = 2 := by
  decide +kernel

end RateGuard
