import RateGuard.Scan.Answering
import RateGuard.Scan.Remote

/-!
# Joining remote answers to their rows

However the chunks of a batch interleave and whatever arrives for them, a pricing that returns has
answered each row once, and a premium of a row is the one that the response to its own chunk gives
under its own identifier.
-/

open DecimalFloat KeyedList Outcome Transition

namespace RateGuard

variable {α : Type}

/-- Identifiers of different rows differ. -/
theorem itemId_injective {first second : Nat} (same : itemId first = itemId second) :
    first = second := by
  have lists := congrArg String.toList same
  unfold itemId at lists
  rw [String.toList_append, String.toList_append] at lists
  have digits : Text.digitsOf first = Text.digitsOf second := by
    simpa [Text.digitsOf] using List.append_cancel_left lists
  calc first = Text.numeral (Text.digitsOf first) := (Text.numeral_digitsOf first).symm
    _ = Text.numeral (Text.digitsOf second) := by rw [digits]
    _ = second := Text.numeral_digitsOf second

/-- Where a premium of a row comes from: the response to a chunk of the row, which corresponds to
the chunk and has the row's identifier once, or the response to the row's own request. -/
inductive CarriesPremium (job : RemoteJob) (items : List PendingRow) (row : PendingRow)
    (premium : Decimal) : Arrival → Prop
  | batch (body : BatchBody) (text : Option String)
      (matching : job.parseBatch items body = .ok body)
      (item : (itemId row.index, ItemResult.priced text) ∈ body.results)
      (once : ∀ other ∈ body.results, other.1 = itemId row.index →
        other = (itemId row.index, ItemResult.priced text))
      (reads : parsePremium text = .premium premium) :
      CarriesPremium job items row premium (.batch body)
  | quote (body : QuoteBody) (alone : items.head? = some row)
      (own : body.requestId = job.requestId row)
      (reads : parsePremium (body.outputs.lookup "final_premium") = .premium premium) :
      CarriesPremium job items row premium (.quote body)

/-- A premium of a row has arrived for a chunk of the row. -/
def RemoteRun.Joins (job : RemoteJob) (run : RemoteRun) (index : Nat) (premium : Decimal) : Prop :=
  ∃ position items row arrival, job.chunks[position]? = some items ∧ row ∈ items ∧
    row.index = index ∧ (position, arrival) ∈ run.arrivals ∧
    CarriesPremium job items row premium arrival

/-- Rows of a chunk. -/
def RemoteJob.rowsOf (job : RemoteJob) (position : Nat) : List Nat :=
  ((job.chunks[position]?).getD []).map (·.index)

section Answers

variable {job : RemoteJob} {items : List PendingRow}

/-- The answers of a chunk are one for each of its rows, in their order. -/
theorem answers_rows {reply : ChunkReply} {report : RemoteReport}
    (answered : job.answers items reply = some report) :
    report.results.map Prod.fst = items.map (·.index) := by
  have all : ∀ answer, (answerAll items answer).map Prod.fst = items.map (·.index) := by
    intro answer
    rw [answerAll, List.map_map]
    rfl
  unfold RemoteJob.answers sendChunk at answered
  dsimp only at answered
  cases reply with
  | cancelled =>
    cases answered
    exact all _
  | circuitOpen permanent =>
    cases answered
    exact all _
  | refused code transient =>
    cases answered
    exact all _
  | raised => cases answered
  | quote premium =>
    dsimp only at answered
    split at answered
    · cases answered
      exact all _
    · cases answered
  | batch revision results =>
    dsimp only at answered
    split at answered
    · cases answered
    · obtain ⟨found, each, made⟩ := Option.bind_eq_some_iff.mp answered
      cases made
      refine mapM_keys (·.index) Prod.fst (fun item answer one => ?_) each
      obtain ⟨other, -, made⟩ := Option.bind_eq_some_iff.mp one
      cases made
      rfl

/-- Only a reply with a premium answers by one. -/
theorem answerAll_error {code : String} {transient : Bool} {entry : Nat × RemoteResult}
    (member : entry ∈ answerAll items (.error code transient)) {premium : Decimal}
    (priced : entry.2 = .premium premium) : False := by
  obtain ⟨item, -, rfl⟩ := List.mem_map.mp member
  cases priced

/-- A response that corresponds to a chunk of different rows has an identifier once. -/
theorem parseBatch_once {body read : BatchBody} (parsed : job.parseBatch items body = .ok read)
    (distinct : (items.map (·.index)).Nodup) :
    read = body ∧ (body.results.map Prod.fst).Nodup := by
  unfold RemoteJob.parseBatch at parsed
  split at parsed
  · cases parsed
  · split at parsed
    · cases parsed
    · next same =>
      refine ⟨(Except.ok.inj parsed).symm, ?_⟩
      have sent : (items.map fun item => itemId item.index).Nodup := by
        have apart := distinct.map (f := itemId) fun _ _ => itemId_injective
        rw [List.map_map] at apart
        exact apart
      have matching : (items.map fun item => itemId item.index).Perm (body.results.map Prod.fst) :=
        ((List.perm_insertionSort (· ≤ ·) _).symm.trans
          (List.Perm.of_eq (not_not.mp same))).trans (List.perm_insertionSort (· ≤ ·) _)
      exact matching.nodup_iff.mp sent

/-- A premium among the answers of a chunk is carried by what arrived for it. -/
theorem receive_carries {arrival : Arrival} {report : RemoteReport}
    (answered : job.answers items (job.receive items arrival) = some report)
    (distinct : (items.map (·.index)).Nodup) (single : job.batchMax = 0 → items.length ≤ 1)
    {entry : Nat × RemoteResult} (member : entry ∈ report.results) {premium : Decimal}
    (priced : entry.2 = .premium premium) :
    ∃ row ∈ items, row.index = entry.1 ∧ CarriesPremium job items row premium arrival := by
  have refused : ∀ code transient, job.receive items arrival = .refused code transient → False := by
    intro code transient same
    rw [same] at answered
    cases answered
    exact answerAll_error member priced
  cases arrival with
  | raised => cases answered
  | refused error => exact (refused _ _ rfl).elim
  | quote body =>
    unfold RemoteJob.receive at answered refused
    dsimp only at answered refused
    cases head : items.head? with
    | none =>
      rw [head] at answered
      cases answered
    | some row =>
      rw [head] at answered refused
      dsimp only at answered refused
      cases parsed : job.parseQuote row body with
      | error error =>
        rw [parsed] at refused
        exact (refused _ _ rfl).elim
      | ok read =>
        rw [parsed] at answered
        unfold RemoteJob.answers sendChunk at answered
        dsimp only at answered
        split at answered
        · next alone =>
          have one : items = [row] := by
            cases items with
            | nil => cases head
            | cons first rest =>
              cases head
              have short := single alone
              rw [List.length_cons] at short
              rw [List.eq_nil_of_length_eq_zero (show rest.length = 0 by omega)]
          cases answered
          obtain ⟨item, inside, rfl⟩ := List.mem_map.mp member
          obtain rfl : item = row := by
            rw [one, List.mem_singleton] at inside
            exact inside
          obtain ⟨own, same⟩ : body.requestId = job.requestId item ∧ read = body := by
            unfold RemoteJob.parseQuote at parsed
            split at parsed
            · cases parsed
            · next own =>
              split at parsed
              · cases parsed
              · split at parsed
                · cases parsed
                · exact ⟨not_not.mp own, (Except.ok.inj parsed).symm⟩
          subst same
          exact ⟨item, inside, rfl, .quote read head own priced⟩
        · cases answered
  | batch body =>
    unfold RemoteJob.receive at answered refused
    dsimp only at answered refused
    cases parsed : job.parseBatch items body with
    | error error =>
      rw [parsed] at refused
      exact (refused _ _ rfl).elim
    | ok read =>
      obtain ⟨rfl, once⟩ := parseBatch_once parsed distinct
      rw [parsed] at answered
      unfold RemoteJob.answers sendChunk at answered
      dsimp only at answered
      split at answered
      · cases answered
      · obtain ⟨results, each, made⟩ := Option.bind_eq_some_iff.mp answered
        cases made
        obtain ⟨row, inside, one⟩ := exists_left (mapM_eq_some each) member
        obtain ⟨answer, found, made⟩ := Option.bind_eq_some_iff.mp one
        cases made
        obtain ⟨known, named⟩ := lastWith_eq_some found
        obtain ⟨id, item⟩ := answer
        dsimp only at named priced
        subst named
        cases item with
        | failed code => cases priced
        | priced text =>
          refine ⟨row, inside, rfl, .batch read text parsed known (fun other among same => ?_)
            priced⟩
          exact eq_of_key once among known same

end Answers

/-- How a chunk ends: by a cancellation, by the breaker or by what arrives. -/
inductive EndsBy (job : RemoteJob) (run : RemoteRun) (position : Nat) (items : List PendingRow) :
    CircuitBreaker → List (Nat × Arrival) → ChunkReply → Prop
  | cancelled : EndsBy job run position items run.breaker run.arrivals .cancelled
  | refused (now : ℚ) : EndsBy job run position items (run.breaker.allow now).2 run.arrivals
      (.circuitOpen (run.breaker.allow now).2.permanentCode)
  | arrived (now : ℚ) (arrival : Arrival) : EndsBy job run position items
      (run.record job items now (job.receive items arrival))
      (run.arrivals ++ [(position, arrival)]) (job.receive items arrival)

/-- What a step does: it ends a chunk, or at most moves one on. -/
inductive RemoteMove (job : RemoteJob) (run : RemoteRun) : RemoteRun → Prop
  | stays (after : RemoteRun) (results : after.results = run.results)
      (replies : after.replies = run.replies) (arrivals : after.arrivals = run.arrivals)
      (raised : after.raised = run.raised)
      (permanent : after.breaker.permanentCode = run.breaker.permanentCode)
      (phases : after.phases = run.phases ∨ ∃ position phase next,
        run.phases[position]? = some phase ∧ phase ≠ .finished ∧ next ≠ .finished ∧
          after.phases = run.phases.set position next) : RemoteMove job run after
  | ends (position : Nat) (items : List PendingRow) (phase : ChunkPhase)
      (breaker : CircuitBreaker) (arrivals : List (Nat × Arrival)) (reply : ChunkReply)
      (here : run.phases[position]? = some phase) (unfinished : phase ≠ .finished)
      (chunk : job.chunks[position]? = some items)
      (ending : EndsBy job run position items breaker arrivals reply) :
      RemoteMove job run
        (RemoteRun.finish { run with breaker, arrivals } job position items reply)

/-- A step that changes nothing. -/
theorem RemoteMove.idle (job : RemoteJob) (run : RemoteRun) : RemoteMove job run run :=
  .stays run rfl rfl rfl rfl rfl (.inl rfl)

/-- Asking the breaker keeps a permanent failure, or that there is none. -/
theorem allow_permanentCode (breaker : CircuitBreaker) (now : ℚ) :
    (breaker.allow now).2.permanentCode = breaker.permanentCode := by
  unfold CircuitBreaker.allow
  split
  · rfl
  · split
    · rfl
    · split <;> rfl

/-- Every step is one of these. -/
theorem step_remoteMove (job : RemoteJob) (run : RemoteRun) (event : RemoteEvent) :
    RemoteMove job run (run.step job event) := by
  cases event with
  | cancelled position =>
    unfold RemoteRun.step
    dsimp only
    split
    · next items here chunk =>
      exact .ends position items .waiting _ _ _ here (by decide) chunk .cancelled
    · exact .idle job run
  | enter position now =>
    unfold RemoteRun.step
    dsimp only
    split
    · next items here chunk =>
      split
      · exact .stays _ rfl rfl rfl rfl (allow_permanentCode run.breaker now)
          (.inr ⟨position, .waiting, .admitted, here, by decide, by decide, rfl⟩)
      · exact .ends position items .waiting _ _ _ here (by decide) chunk (.refused now)
    · exact .idle job run
  | send position =>
    unfold RemoteRun.step
    dsimp only
    split
    · next here =>
      split
      · exact .stays _ rfl rfl rfl rfl rfl
          (.inr ⟨position, .admitted, .sent, here, by decide, by decide, rfl⟩)
      · exact .idle job run
    · exact .idle job run
  | arrive position now arrival =>
    unfold RemoteRun.step
    dsimp only
    split
    · next items here chunk =>
      exact .ends position items .sent _ _ _ here (by decide) chunk (.arrived now arrival)
    · exact .idle job run

/-- A chunk that ends is finished, and has a reply and its answers, if any. -/
theorem finish_eq (run : RemoteRun) (job : RemoteJob) (position : Nat) (items : List PendingRow)
    (reply : ChunkReply) :
    (run.finish job position items reply).phases = run.phases.set position .finished ∧
      (run.finish job position items reply).replies = run.replies ++ [(position, reply)] ∧
      (run.finish job position items reply).arrivals = run.arrivals ∧
      (run.finish job position items reply).breaker = run.breaker ∧
      (run.finish job position items reply).results =
        run.results ++ ((job.answers items reply).map (·.results)).getD [] ∧
      (run.finish job position items reply).raised =
        (run.raised || (job.answers items reply).isNone) := by
  unfold RemoteRun.finish
  cases job.answers items reply with
  | none => exact ⟨rfl, rfl, rfl, rfl, (List.append_nil _).symm, (Bool.or_true _).symm⟩
  | some report => exact ⟨rfl, rfl, rfl, rfl, rfl, (Bool.or_false _).symm⟩

/-- What holds while the chunks of a registered connector are priced. -/
structure RemoteSound (job : RemoteJob) (run : RemoteRun) : Prop where
  /-- Every chunk is somewhere. -/
  size : run.phases.length = job.chunks.length
  /-- Chunks end once. -/
  once : (run.replies.map Prod.fst).Nodup
  /-- The finished chunks are those with a reply. -/
  finished : ∀ position, run.phases[position]? = some .finished ↔
    position ∈ run.replies.map Prod.fst
  /-- The rows of the finished chunks are answered, each once. -/
  answered : run.raised = false →
    run.results.map Prod.fst = (run.replies.map Prod.fst).flatMap job.rowsOf
  /-- Premiums have arrived for their rows. -/
  joined : ∀ entry ∈ run.results, ∀ premium, entry.2 = .premium premium →
    run.Joins job entry.1 premium

/-- Before the first step everything holds. -/
theorem remoteSound_start (job : RemoteJob) : RemoteSound job (.start job none) where
  size := List.length_map _
  once := List.nodup_nil
  finished := by
    intro position
    refine ⟨fun done => ?_, fun member => absurd member List.not_mem_nil⟩
    have inside := List.mem_of_getElem? done
    obtain ⟨chunk, -, waits⟩ := List.mem_map.mp inside
    cases waits
  answered := fun _ => rfl
  joined := fun entry member => absurd member List.not_mem_nil

/-- A joined premium stays joined when more arrives. -/
theorem RemoteRun.Joins.mono {job : RemoteJob} {run after : RemoteRun} {index : Nat}
    {premium : Decimal} (joins : run.Joins job index premium)
    (more : ∀ arrival ∈ run.arrivals, arrival ∈ after.arrivals) : after.Joins job index premium := by
  obtain ⟨position, items, row, arrival, chunk, inside, same, arrived, carries⟩ := joins
  exact ⟨position, items, row, arrival, chunk, inside, same, more _ arrived, carries⟩

/-- Chunks have different rows and, for single quotes, one at most. -/
structure RemoteJob.Proper (job : RemoteJob) (items : List PendingRow) : Prop where
  /-- The rows differ. -/
  distinct : (items.map (·.index)).Nodup
  /-- Single quotes take one row. -/
  single : job.batchMax = 0 → items.length ≤ 1

/-- Chunks of different rows are proper. -/
theorem chunks_proper {job : RemoteJob} (distinct : (job.pending.map (·.index)).Nodup)
    {items : List PendingRow} (member : items ∈ job.chunks) : job.Proper items := by
  obtain ⟨positive, one⟩ := chunkSize_pos job.batchMax job.batchSize
  have whole : job.chunks.flatten = job.pending := chunksWithin_flatten positive _ _ le_rfl
  refine ⟨?_, fun alone => ?_⟩
  · rw [← whole, List.map_flatten] at distinct
    exact (List.nodup_flatten.mp distinct).1 _ (List.mem_map_of_mem member)
  · rw [← one alone]
    exact (mem_chunksWithin positive member).2

/-- Ending a chunk keeps what holds. -/
theorem remoteSound_ends {job : RemoteJob} (distinct : (job.pending.map (·.index)).Nodup)
    {run : RemoteRun} (sound : RemoteSound job run) {position : Nat} {items : List PendingRow}
    {phase : ChunkPhase} {breaker : CircuitBreaker} {arrivals : List (Nat × Arrival)}
    {reply : ChunkReply} (here : run.phases[position]? = some phase)
    (unfinished : phase ≠ .finished) (chunk : job.chunks[position]? = some items)
    (ending : EndsBy job run position items breaker arrivals reply) :
    RemoteSound job (RemoteRun.finish { run with breaker, arrivals } job position items reply) := by
  obtain ⟨phases, replies, arrivalsEq, -, results, raised⟩ :=
    finish_eq { run with breaker, arrivals } job position items reply
  generalize RemoteRun.finish { run with breaker, arrivals } job position items reply = after
    at phases replies arrivalsEq results raised
  have inside : position < run.phases.length := (List.getElem?_eq_some_iff.mp here).1
  have proper := chunks_proper distinct (List.mem_of_getElem? chunk)
  have fresh : position ∉ run.replies.map Prod.fst := by
    intro member
    rw [(sound.finished position).mpr member] at here
    exact unfinished (Option.some.inj here).symm
  have more : ∀ arrival ∈ run.arrivals, arrival ∈ after.arrivals := by
    intro arrival member
    rw [arrivalsEq]
    cases ending with
    | cancelled => exact member
    | refused now => exact member
    | arrived now arrival => exact List.mem_append_left _ member
  refine ⟨?_, ?_, fun other => ?_, fun calm => ?_, fun entry member premium priced => ?_⟩
  · rw [phases, List.length_set]
    exact sound.size
  · rw [replies, List.map_append]
    exact List.nodup_append.mpr ⟨sound.once, List.nodup_singleton _, fun one first two second =>
      fun same => fresh (by
        rw [List.map_singleton, List.mem_singleton] at second
        rw [same, second] at first
        exact first)⟩
  · rw [phases, replies, List.map_append, List.mem_append, List.map_singleton,
      List.mem_singleton, ← sound.finished other]
    by_cases same : other = position
    · subst same
      rw [List.getElem?_set_self inside]
      exact ⟨fun _ => .inr rfl, fun _ => rfl⟩
    · rw [List.getElem?_set_ne (Ne.symm same)]
      exact ⟨.inl, fun either => either.resolve_right same⟩
  · rw [raised] at calm
    obtain ⟨quiet, answered⟩ := Bool.or_eq_false_iff.mp calm
    cases report : job.answers items reply with
    | none =>
      rw [report] at answered
      cases answered
    | some found =>
      rw [results, replies, report, List.map_append, List.map_append, List.flatMap_append,
        sound.answered quiet, List.map_singleton, List.flatMap_singleton]
      unfold RemoteJob.rowsOf
      rw [chunk]
      exact congrArg _ (answers_rows report)
  · rw [results] at member
    rcases List.mem_append.mp member with old | new
    · exact (sound.joined entry old premium priced).mono more
    · cases report : job.answers items reply with
      | none =>
        rw [report] at new
        exact absurd new List.not_mem_nil
      | some found =>
        rw [report] at new
        cases ending with
        | cancelled =>
          cases report
          exact (answerAll_error new priced).elim
        | refused now =>
          cases report
          exact (answerAll_error new priced).elim
        | arrived now arrival =>
          obtain ⟨row, among, same, carries⟩ :=
            receive_carries report proper.distinct proper.single new priced
          refine ⟨position, items, row, arrival, chunk, among, same, ?_, carries⟩
          rw [arrivalsEq]
          exact List.mem_append_right _ List.mem_cons_self

/-- Every step keeps what holds. -/
theorem remoteSound_step {job : RemoteJob} (distinct : (job.pending.map (·.index)).Nodup)
    (run : RemoteRun) (event : RemoteEvent) (sound : RemoteSound job run) :
    RemoteSound job (run.step job event) := by
  have moves := step_remoteMove job run event
  generalize run.step job event = after at moves
  cases moves with
  | ends position items phase breaker arrivals reply here unfinished chunk ending =>
    exact remoteSound_ends distinct sound here unfinished chunk ending
  | stays _ results replies arrivals raised permanent phases =>
    have joined : ∀ entry ∈ after.results, ∀ premium, entry.2 = .premium premium →
        after.Joins job entry.1 premium := by
      intro entry member premium priced
      rw [results] at member
      refine (sound.joined entry member premium priced).mono fun arrival there => ?_
      rw [arrivals]
      exact there
    have answered : after.raised = false →
        after.results.map Prod.fst = (after.replies.map Prod.fst).flatMap job.rowsOf := by
      rw [raised, results, replies]
      exact sound.answered
    have once : (after.replies.map Prod.fst).Nodup := by
      rw [replies]
      exact sound.once
    rcases phases with same | ⟨position, phase, next, here, unfinished, going, same⟩
    · refine ⟨?_, once, ?_, answered, joined⟩
      · rw [same]
        exact sound.size
      · rw [same, replies]
        exact sound.finished
    · have inside : position < run.phases.length := (List.getElem?_eq_some_iff.mp here).1
      refine ⟨?_, once, fun other => ?_, answered, joined⟩
      · rw [same, List.length_set]
        exact sound.size
      · rw [same, replies, ← sound.finished other]
        by_cases equal : other = position
        · subst equal
          rw [List.getElem?_set_self inside, here]
          exact ⟨fun done => absurd (Option.some.inj done) going,
            fun done => absurd (Option.some.inj done) unfinished⟩
        · rw [List.getElem?_set_ne (Ne.symm equal)]

/-- The elements of a list by their positions are the list. -/
theorem range_map_getD (parts : List (List α)) :
    ((List.range parts.length).map fun position => (parts[position]?).getD []) = parts := by
  refine List.ext_getElem (by simp) fun position inside there => ?_
  simp [List.getElem?_eq_getElem there]

/-- Without chunks nothing happens. -/
theorem run_unregistered (job : RemoteJob) (code : String) (events : List RemoteEvent) :
    run (RemoteRun.step job) (.start job (some code)) events = .start job (some code) := by
  refine run_invariant (fun state : RemoteRun => state = .start job (some code))
    (fun state event same => ?_) rfl events
  subst same
  cases event with
  | cancelled position => rfl
  | enter position now => rfl
  | send position => rfl
  | arrive position now arrival => rfl

/-- For every list of rows with distinct indices, every chunk size and every interleaving of the
chunks with whatever arrives for them, a pricing that returns has answered each row exactly once,
and every premium of a row is the one carried by the response to the row's own chunk. -/
theorem remote_joins (job : RemoteJob) (distinct : (job.pending.map (·.index)).Nodup)
    (unregistered : Option String) (events : List RemoteEvent)
    (returned : (run (RemoteRun.step job) (.start job unregistered) events).Returned) :
    let final := run (RemoteRun.step job) (.start job unregistered) events
    (final.results.map Prod.fst).Perm (job.pending.map (·.index)) ∧
      ∀ entry ∈ final.results, ∀ premium, entry.2 = .premium premium →
        final.Joins job entry.1 premium := by
  intro final
  cases unregistered with
  | some code =>
    have same : final = .start job (some code) := run_unregistered job code events
    rw [same]
    refine ⟨?_, fun entry member premium priced => ?_⟩
    · show ((answerAll job.pending _).map Prod.fst).Perm _
      rw [answerAll, List.map_map]
      exact .refl _
    · exact (answerAll_error member priced).elim
  | none =>
    have sound : RemoteSound job final :=
      run_invariant (RemoteSound job) (remoteSound_step distinct) (remoteSound_start job) events
    refine ⟨?_, sound.joined⟩
    have positions : (final.replies.map Prod.fst).Perm (List.range job.chunks.length) := by
      refine (List.perm_ext_iff_of_nodup sound.once List.nodup_range).mpr fun position => ?_
      rw [← sound.finished position, List.mem_range, ← sound.size]
      constructor
      · intro done
        exact (List.getElem?_eq_some_iff.mp done).1
      · intro inside
        rw [List.getElem?_eq_getElem inside]
        exact congrArg some (returned.2 _ (List.getElem_mem inside))
    have whole : (List.range job.chunks.length).flatMap job.rowsOf = job.pending.map (·.index) := by
      have flat : job.chunks.flatten = job.pending :=
        chunksWithin_flatten (chunkSize_pos job.batchMax job.batchSize).1 _ _ le_rfl
      calc (List.range job.chunks.length).flatMap job.rowsOf
          = ((List.range job.chunks.length).map fun position =>
              (job.chunks[position]?).getD []).flatMap fun items => items.map (·.index) := by
            rw [List.flatMap_map]
            rfl
        _ = job.chunks.flatMap fun items => items.map (·.index) := by
            rw [range_map_getD]
        _ = job.pending.map (·.index) := by
            rw [← flat, List.map_flatten]
            rfl
    rw [sound.answered returned.1]
    exact (positions.flatMap_right job.rowsOf).trans (.of_eq whole)

/-- A row to price at some index. -/
def pendingRow (index : Nat) : PendingRow :=
  ⟨index, ⟨[], List.nodup_nil⟩, sampleDay, .newBusiness, .finite false 100 0⟩

/-- Two rows priced in one batch quote. -/
def quotedPair : RemoteJob :=
  ⟨"JOB-1", "v1", 2, 10, 1, 8, 20, [pendingRow 0, pendingRow 1]⟩

/-- The response to the pair, in the other order. -/
def swappedBody : BatchBody :=
  ⟨"JOB-1:0", "v1", [("r1", .priced (some "7")), ("r0", .priced (some "5"))], none⟩

/-- The pair is answered by the items of its own identifiers. -/
theorem remote_joins_swapped :
    let final := run (RemoteRun.step quotedPair) (.start quotedPair none)
      [.enter 0 1, .send 0, .arrive 0 2 (.batch swappedBody)]
    (final.results.map Prod.fst).Perm [0, 1] ∧
      final.results = [(0, .premium (.finite false 5 0)), (1, .premium (.finite false 7 0))] :=
  ⟨(remote_joins quotedPair (by decide) none
    [.enter 0 1, .send 0, .arrive 0 2 (.batch swappedBody)] (by decide +kernel)).1, rfl⟩

end RateGuard
