import RateGuard.Explanations.Review

/-!
# Finality of reviews

Random numbers that are not in use yet give explanations names of their own. Records then stay under
their names with what they say about the mission, and a decided one is not undecided again. Two
reviews that both found a draft may overwrite each other's decision; once none of them is left, the
decision stays.
-/

open CalendarDate

namespace RateGuard

variable {φ : Type}

/-- Name of a record that is about to be saved first. -/
def ExplanationProgress.reservedKey : ExplanationProgress φ → Option ExplanationKey
  | .composed record => some record.key
  | .admitted _ _ | .described _ _ _ _ _ | .reviewing _ _ _ _ | .decided _ | .answered _ => none

namespace ReviewState

/-- A name that no record has, saved or about to be. -/
def Unused (state : ReviewState φ) (key : ExplanationKey) : Prop :=
  state.explanations.lookup key = none ∧
    ∀ progress ∈ state.requests, progress.reservedKey ≠ some key

instance (state : ReviewState φ) (key : ExplanationKey) : Decidable (state.Unused key) :=
  decidable_of_iff ((state.explanations.lookup key).isNone = true ∧
    ∀ progress ∈ state.requests, progress.reservedKey ≠ some key)
    (and_congr_left fun _ => Option.isNone_iff_eq_none)

/-- The mission of a new explanation that looks at the mission's records next. -/
def describedMission (state : ReviewState φ) (index : Nat) : Option (String × AuthenticatedUser) :=
  match state.requests[index]? with
  | some (.described user missionId _ _ _) => some (missionId, user)
  | _ => none

/-- The number that a new explanation draws gives it an unused name. -/
def Fresh (state : ReviewState φ) : ReviewEvent φ → Prop
  | .advance index number _ => ∀ described ∈ state.describedMission index,
    state.Unused ⟨described.1, explanationIdOf number described.1⟩
  | .arrive _ _ _ | .change _ => True

instance (state : ReviewState φ) : ∀ event, Decidable (state.Fresh event)
  | .advance index number _ => inferInstanceAs (Decidable (∀ described ∈
      state.describedMission index, state.Unused ⟨described.1, explanationIdOf number described.1⟩))
  | .arrive _ _ _ | .change _ => .isTrue trivial

/-- How records and requests belong together while names are unused. -/
structure Orderly (state : ReviewState φ) : Prop where
  /-- Records are stored under their names. -/
  filed : ∀ {key : ExplanationKey} {record : ExplanationRecord φ},
    state.explanations.lookup key = some record → record.key = key
  /-- No record has the name of one that is about to be saved first. -/
  reserved : ∀ {index : Nat} {record : ExplanationRecord φ},
    state.requests[index]? = some (.composed record) →
      state.explanations.lookup record.key = none
  /-- Two records that are about to be saved first have different names. -/
  apart : ∀ {first second : Nat} {one other : ExplanationRecord φ},
    state.requests[first]? = some (.composed one) →
      state.requests[second]? = some (.composed other) → one.key = other.key → first = second
  /-- A decided copy differs from the stored record in the decision only. -/
  copies : ∀ {record : ExplanationRecord φ}, .decided record ∈ state.requests →
    record.status ≠ .draft ∧ ∃ stored, state.explanations.lookup record.key = some stored ∧
      stored.original = record.original

end ReviewState

/-- A review that goes on has a decided copy of a draft. -/
theorem readReviewed_decided {state : ReviewState φ} {user : AuthenticatedUser}
    {missionId explanationId : String} {decision : ExplanationDecision} {now : Moment}
    {record : ExplanationRecord φ}
    (goesOn : readReviewed state user missionId explanationId decision now = .decided record) :
    record.status ≠ .draft ∧ ∃ stored, state.getExplanation missionId explanationId = some stored ∧
      stored.status = .draft ∧ stored.key = record.key ∧ stored.original = record.original := by
  unfold readReviewed at goesOn
  cases found : state.getExplanation missionId explanationId with
  | none =>
    rw [found] at goesOn
    cases goesOn
  | some stored =>
    rw [found] at goesOn
    dsimp only at goesOn
    by_cases foreign : stored.tenantId ≠ "" ∧ stored.tenantId ≠ user.tenantId
    · rw [if_pos foreign] at goesOn
      cases goesOn
    · rw [if_neg foreign] at goesOn
      unfold reviewRecord at goesOn
      by_cases settled : stored.status ≠ .draft
      · rw [if_pos settled] at goesOn
        cases goesOn
      · rw [if_neg settled] at goesOn
        by_cases unsound : decision.status = .approved ∧ stored.validated = false
        · rw [if_pos unsound] at goesOn
          cases goesOn
        · rw [if_neg unsound] at goesOn
          cases goesOn
          refine ⟨?_, stored, rfl, of_not_not settled, rfl, rfl⟩
          cases decision <;> exact fun same => by cases same

/-- A new explanation that goes on has a record named by the drawn number. -/
theorem readExisting_composed {state : ReviewState φ} {user : AuthenticatedUser}
    {missionId tenantId : String} {facts : ReportedFacts φ} {draft : ReportedDraft}
    {number : ExplanationNumber} {now : Moment} {record : ExplanationRecord φ}
    (goesOn : readExisting state user missionId tenantId facts draft number now =
      .composed record) :
    record = newExplanation user missionId tenantId facts draft number now ∧
      ∀ existing ∈ state.listExplanations missionId user.tenantId,
        some existing.factsSha256 ≠ facts.factsSha256 := by
  unfold readExisting at goesOn
  cases found : (state.listExplanations missionId user.tenantId).find? fun existing =>
      some existing.factsSha256 = facts.factsSha256 with
  | some existing =>
    rw [found] at goesOn
    cases goesOn
  | none =>
    rw [found] at goesOn
    cases goesOn
    refine ⟨rfl, fun existing inside same => ?_⟩
    exact List.find?_eq_none.mp found existing inside (decide_eq_true same)

/-- Reading the mission leaves nothing to be saved. -/
theorem readMission_unsaved (missions : RunStore (MissionReport φ)) (legacyTenant : Option String)
    (user : AuthenticatedUser) (request : ExplanationRequest) (record : ExplanationRecord φ) :
    readMission missions legacyTenant user request ≠ .composed record ∧
      readMission missions legacyTenant user request ≠ .decided record := by
  unfold readMission
  cases request with
  | create missionId =>
    dsimp only
    split
    · exact ⟨nofun, nofun⟩
    · split <;> exact ⟨nofun, nofun⟩
  | review explanationId decision =>
    dsimp only
    split
    · exact ⟨nofun, nofun⟩
    · split <;> exact ⟨nofun, nofun⟩

/-- A request that arrives leaves nothing to be saved. -/
theorem arrival_unsaved (world : AccessWorld) (headers : AccessHeaders)
    (request : ExplanationRequest) (record : ExplanationRecord φ) :
    arrival world headers request ≠ .composed record ∧
      arrival world headers request ≠ .decided record := by
  unfold arrival
  split <;> exact ⟨nofun, nofun⟩

section Inversion

variable {legacyTenant : Option String} {state : ReviewState φ} {event : ReviewEvent φ}

/-- A record that is about to be saved first was so before, or its name was just drawn. -/
theorem composed_next {index : Nat} {record : ExplanationRecord φ}
    (waits : (state.next legacyTenant event).requests[index]? = some (.composed record)) :
    (state.requests[index]? = some (.composed record) ∧
      ∀ number now, event ≠ .advance index number now) ∨
    ∃ number now user missionId tenantId facts draft, event = .advance index number now ∧
      state.requests[index]? = some (.described user missionId tenantId facts draft) ∧
      readExisting state user missionId tenantId facts draft number now = .composed record := by
  cases event with
  | change missions => exact .inl ⟨waits, fun _ _ => nofun⟩
  | arrive world headers request =>
    left
    refine ⟨?_, fun _ _ => nofun⟩
    unfold ReviewState.next at waits
    dsimp only at waits
    rw [List.getElem?_append] at waits
    by_cases inside : index < state.requests.length
    · rw [if_pos inside] at waits
      exact waits
    · rw [if_neg inside] at waits
      have last := List.mem_singleton.mp (List.mem_of_getElem? waits)
      exact absurd last.symm (arrival_unsaved world headers request record).1
  | advance moved number now =>
    cases found : state.requests[moved]? with
    | none =>
      rw [ReviewState.next_advance_none found] at waits
      left
      refine ⟨waits, fun _ _ same => ?_⟩
      cases same
      rw [found] at waits
      cases waits
    | some progress =>
      rw [ReviewState.next_advance_some found] at waits
      dsimp only at waits
      by_cases here : moved = index
      · subst here
        rw [List.getElem?_set_self (List.getElem?_eq_some_iff.mp found).1] at waits
        have made : state.progressed legacyTenant number now progress = .composed record :=
          Option.some.inj waits
        right
        cases progress with
        | admitted user request =>
          exact absurd made (readMission_unsaved state.missions legacyTenant user request record).1
        | described user missionId tenantId facts draft =>
          exact ⟨number, now, user, missionId, tenantId, facts, draft, rfl, found, made⟩
        | reviewing user missionId explanationId decision =>
          unfold ReviewState.progressed readReviewed reviewRecord at made
          dsimp only at made
          split at made
          · cases made
          · split at made
            · cases made
            · split at made
              · cases made
              · split at made <;> cases made
        | composed record => cases made
        | decided record => cases made
        | answered answer => cases made
      · left
        rw [List.getElem?_set_ne here] at waits
        exact ⟨waits, fun _ _ same => here (ReviewEvent.advance.inj same).1⟩

/-- A decided copy was one before, or a draft was just read. -/
theorem decided_next {record : ExplanationRecord φ}
    (waits : .decided record ∈ (state.next legacyTenant event).requests) :
    .decided record ∈ state.requests ∨ ∃ user missionId explanationId decision now,
      readReviewed state user missionId explanationId decision now = .decided record := by
  cases event with
  | change missions => exact .inl waits
  | arrive world headers request =>
    rcases List.mem_append.mp waits with old | last
    · exact .inl old
    · exact absurd (List.mem_singleton.mp last).symm (arrival_unsaved world headers request record).2
  | advance moved number now =>
    cases found : state.requests[moved]? with
    | none =>
      rw [ReviewState.next_advance_none found] at waits
      exact .inl waits
    | some progress =>
      rw [ReviewState.next_advance_some found] at waits
      rcases List.mem_or_eq_of_mem_set waits with old | made
      · exact .inl old
      · right
        cases progress with
        | admitted user request =>
          exact absurd made.symm
            (readMission_unsaved state.missions legacyTenant user request record).2
        | described user missionId tenantId facts draft =>
          unfold ReviewState.progressed readExisting at made
          dsimp only at made
          split at made <;> cases made
        | reviewing user missionId explanationId decision =>
          exact ⟨user, missionId, explanationId, decision, now, made.symm⟩
        | composed record => cases made
        | decided record => cases made
        | answered answer => cases made

/-- Records stay, or one that was about to be saved is. -/
theorem explanations_next :
    (state.next legacyTenant event).explanations = state.explanations ∨
    ∃ index number now record, event = .advance index number now ∧
      (state.requests[index]? = some (.composed record) ∨
        state.requests[index]? = some (.decided record)) ∧
      (state.next legacyTenant event).explanations =
        ReviewState.saveExplanation state.explanations record := by
  cases event with
  | change missions => exact .inl rfl
  | arrive world headers request => exact .inl rfl
  | advance index number now =>
    cases found : state.requests[index]? with
    | none =>
      rw [ReviewState.next_advance_none found]
      exact .inl rfl
    | some progress =>
      rw [ReviewState.next_advance_some found]
      cases progress with
      | composed record => exact .inr ⟨index, number, now, record, rfl, .inl found, rfl⟩
      | decided record => exact .inr ⟨index, number, now, record, rfl, .inr found, rfl⟩
      | admitted user request => exact .inl rfl
      | described user missionId tenantId facts draft => exact .inl rfl
      | reviewing user missionId explanationId decision => exact .inl rfl
      | answered answer => exact .inl rfl

end Inversion

section Order

variable {legacyTenant : Option String} {state : ReviewState φ} {event : ReviewEvent φ}

/-- What is found after a save. -/
theorem lookup_saveExplanation (explanations : List (ExplanationKey × ExplanationRecord φ))
    (record : ExplanationRecord φ) (key : ExplanationKey) :
    (ReviewState.saveExplanation explanations record).lookup key =
      if key = record.key then some record else explanations.lookup key :=
  Dictionary.lookup_change explanations record.key key _

/-- A record that is found before an event is found after it, and differs in a decision only. -/
theorem ReviewState.Orderly.lookup_next (orderly : state.Orderly) {key : ExplanationKey}
    {record : ExplanationRecord φ} (found : state.explanations.lookup key = some record) :
    ∃ later, (state.next legacyTenant event).explanations.lookup key = some later ∧
      later.original = record.original ∧
      (later = record ∨ later.status ≠ .draft ∧ later.key = key ∧
        .decided later ∈ state.requests) := by
  rcases @explanations_next _ legacyTenant state event with
    same | ⟨index, number, now, saved, -, waits, same⟩
  · rw [same]
    exact ⟨record, found, rfl, .inl rfl⟩
  · rw [same, lookup_saveExplanation]
    by_cases own : key = saved.key
    · rw [if_pos own]
      refine ⟨saved, rfl, ?_⟩
      rcases waits with first | again
      · have absent := orderly.reserved first
        rw [← own, found] at absent
        cases absent
      · have copy := List.mem_of_getElem? again
        obtain ⟨decided, stored, kept, origin⟩ := orderly.copies copy
        rw [← own, found] at kept
        cases kept
        exact ⟨origin.symm, .inr ⟨decided, own.symm, copy⟩⟩
    · rw [if_neg own]
      exact ⟨record, found, rfl, .inl rfl⟩

/-- A name that is new after an event was waiting for its first save. -/
theorem ReviewState.Orderly.lookup_next_none (orderly : state.Orderly) {key : ExplanationKey}
    (absent : state.explanations.lookup key = none)
    (unwritten : ∀ index number now record, event = .advance index number now →
      state.requests[index]? = some (.composed record) → key ≠ record.key) :
    (state.next legacyTenant event).explanations.lookup key = none := by
  rcases @explanations_next _ legacyTenant state event with
    same | ⟨index, number, now, saved, moved, waits, same⟩
  · rw [same]
    exact absent
  · rw [same, lookup_saveExplanation]
    have other : key ≠ saved.key := by
      rcases waits with first | again
      · exact unwritten index number now saved moved first
      · rintro rfl
        obtain ⟨-, stored, kept, -⟩ := orderly.copies (List.mem_of_getElem? again)
        rw [absent] at kept
        cases kept
    rw [if_neg other]
    exact absent

/-- The number that is drawn for a new explanation gives it an unused name. -/
theorem ReviewState.Fresh.unused {index : Nat} {number : ExplanationNumber} {now : Moment}
    {user : AuthenticatedUser} {missionId tenantId : String} {facts : ReportedFacts φ}
    {draft : ReportedDraft} (fresh : state.Fresh (.advance index number now))
    (described :
      state.requests[index]? = some (.described user missionId tenantId facts draft)) :
    state.Unused ⟨missionId, explanationIdOf number missionId⟩ := by
  have found : state.describedMission index = some (missionId, user) := by
    unfold describedMission
    rw [described]
  exact fresh (missionId, user) found

/-- Events with unused names keep records and requests in order. -/
theorem ReviewState.Orderly.next (orderly : state.Orderly) (fresh : state.Fresh event) :
    (state.next legacyTenant event).Orderly where
  filed := by
    intro key record found
    rcases @explanations_next _ legacyTenant state event with
      same | ⟨index, number, now, saved, -, -, same⟩
    · rw [same] at found
      exact orderly.filed found
    · rw [same, lookup_saveExplanation] at found
      by_cases own : key = saved.key
      · rw [if_pos own] at found
        cases found
        exact own.symm
      · rw [if_neg own] at found
        exact orderly.filed found
  reserved := by
    intro index record waits
    rcases composed_next waits with ⟨before, unmoved⟩ |
      ⟨number, now, user, missionId, tenantId, facts, draft, rfl, described, made⟩
    · refine orderly.lookup_next_none (orderly.reserved before) ?_
      rintro moved number now other rfl first same
      exact unmoved number now (by rw [orderly.apart first before same.symm])
    · obtain ⟨rfl, -⟩ := readExisting_composed made
      refine orderly.lookup_next_none (fresh.unused described).1 ?_
      rintro moved number now other same first -
      obtain ⟨rfl, -, -⟩ := ReviewEvent.advance.inj same
      rw [described] at first
      cases first
  apart := by
    intro first second one other waitsOne waitsOther same
    rcases composed_next waitsOne with ⟨beforeOne, -⟩ |
      ⟨number, now, user, missionId, tenantId, facts, draft, rfl, described, made⟩
    · rcases composed_next waitsOther with ⟨beforeOther, -⟩ |
        ⟨number, now, user, missionId, tenantId, facts, draft, rfl, described, made⟩
      · exact orderly.apart beforeOne beforeOther same
      · obtain ⟨rfl, -⟩ := readExisting_composed made
        exact absurd (congrArg some same)
          ((fresh.unused described).2 _ (List.mem_of_getElem? beforeOne))
    · rcases composed_next waitsOther with ⟨beforeOther, -⟩ | ⟨_, _, _, _, _, _, _, again, -, -⟩
      · obtain ⟨rfl, -⟩ := readExisting_composed made
        exact absurd (congrArg some same.symm)
          ((fresh.unused described).2 _ (List.mem_of_getElem? beforeOther))
      · exact (ReviewEvent.advance.inj again).1
  copies := by
    intro record waits
    rcases decided_next waits with before | ⟨user, missionId, explanationId, decision, now, made⟩
    · obtain ⟨decided, stored, kept, origin⟩ := orderly.copies before
      obtain ⟨later, found, same, -⟩ := orderly.lookup_next kept
      exact ⟨decided, later, found, same.trans origin⟩
    · obtain ⟨decided, stored, read, -, key, origin⟩ := readReviewed_decided made
      unfold ReviewState.getExplanation at read
      have named : record.key = ⟨missionId, explanationId⟩ := key.symm.trans (orderly.filed read)
      obtain ⟨later, found, same, -⟩ := orderly.lookup_next read
      rw [named]
      exact ⟨decided, later, found, same.trans origin⟩

/-- In the beginning everything is in order. -/
theorem ReviewState.beginning_orderly (missions : RunStore (MissionReport φ)) :
    (ReviewState.beginning missions).Orderly where
  filed := fun found => by cases found
  reserved := fun waits => by cases waits
  apart := fun waits => by cases waits
  copies := fun waits => by cases waits

/-- A decided record that no request is about to overwrite. -/
structure ReviewState.Settled (state : ReviewState φ) (key : ExplanationKey)
    (record : ExplanationRecord φ) : Prop where
  /-- It is stored. -/
  stored : state.explanations.lookup key = some record
  /-- It is decided. -/
  decided : record.status ≠ .draft
  /-- No other decision waits for its save. -/
  alone : ∀ copy : ExplanationRecord φ, .decided copy ∈ state.requests → copy.key ≠ key

/-- A settled record stays settled. -/
theorem ReviewState.Settled.next (orderly : state.Orderly) {key : ExplanationKey}
    {record : ExplanationRecord φ} (settled : state.Settled key record) :
    (state.next legacyTenant event).Settled key record where
  stored := by
    obtain ⟨later, found, -, rfl | ⟨-, own, waits⟩⟩ := orderly.lookup_next settled.stored
    · exact found
    · exact absurd own (settled.alone later waits)
  decided := settled.decided
  alone := by
    intro copy waits same
    rcases decided_next waits with before | ⟨user, missionId, explanationId, decision, now, made⟩
    · exact settled.alone copy before same
    · obtain ⟨-, stored, read, draft, own, -⟩ := readReviewed_decided made
      unfold ReviewState.getExplanation at read
      have named : key = ⟨missionId, explanationId⟩ :=
        same.symm.trans (own.symm.trans (orderly.filed read))
      rw [← named, settled.stored] at read
      cases read
      exact settled.decided draft

/-- A review of a decided record is turned away. -/
theorem readReviewed_settled {record : ExplanationRecord φ} {missionId explanationId : String}
    (stored : state.getExplanation missionId explanationId = some record)
    (decided : record.status ≠ .draft) (user : AuthenticatedUser) (decision : ExplanationDecision)
    (now : Moment) :
    readReviewed state user missionId explanationId decision now = .answered .notFound ∨
      readReviewed state user missionId explanationId decision now =
        .answered (.alreadyReviewed record.status) := by
  unfold readReviewed reviewRecord
  rw [stored]
  dsimp only
  by_cases foreign : record.tenantId ≠ "" ∧ record.tenantId ≠ user.tenantId
  · rw [if_pos foreign]
    exact .inl rfl
  · rw [if_neg foreign, if_pos decided]
    exact .inr rfl

end Order

/-- Where drawn numbers give unused names, a record stays under its name with what it says about the
mission, and a decided one is not undecided again. Once no other decision on it waits for its save,
the decision stays, and every review that reads it is turned away. -/
theorem decided_explanations_final (legacyTenant : Option String)
    (missions : RunStore (MissionReport φ)) (events later : List (ReviewEvent φ))
    (fresh : Transition.Along (ReviewState.next legacyTenant) ReviewState.Fresh
      (ReviewState.beginning missions) (events ++ later))
    (key : ExplanationKey) (record : ExplanationRecord φ)
    (stored : (Transition.run (ReviewState.next legacyTenant) (ReviewState.beginning missions)
      events).explanations.lookup key = some record) :
    (∃ kept, (Transition.run (ReviewState.next legacyTenant) (ReviewState.beginning missions)
        (events ++ later)).explanations.lookup key = some kept ∧
      kept.original = record.original ∧ (record.status ≠ .draft → kept.status ≠ .draft)) ∧
    (record.status ≠ .draft →
      (∀ copy : ExplanationRecord φ, .decided copy ∈ (Transition.run
        (ReviewState.next legacyTenant) (ReviewState.beginning missions) events).requests →
          copy.key ≠ key) →
      (Transition.run (ReviewState.next legacyTenant) (ReviewState.beginning missions)
        (events ++ later)).explanations.lookup key = some record ∧
      ∀ user decision now,
        readReviewed (Transition.run (ReviewState.next legacyTenant)
            (ReviewState.beginning missions) (events ++ later)) user key.missionId
              key.explanationId decision now = .answered .notFound ∨
          readReviewed (Transition.run (ReviewState.next legacyTenant)
              (ReviewState.beginning missions) (events ++ later)) user key.missionId
                key.explanationId decision now = .answered (.alreadyReviewed record.status)) := by
  obtain ⟨before, after⟩ := Transition.along_append.mp fresh
  have orderly := before.invariant ReviewState.Orderly
    (fun state event unused order => order.next unused) (ReviewState.beginning_orderly missions)
  rw [Transition.run_append]
  constructor
  · have kept := after.invariant
      (fun state => state.Orderly ∧ ∃ kept, state.explanations.lookup key = some kept ∧
        kept.original = record.original ∧ (record.status ≠ .draft → kept.status ≠ .draft))
      (fun state event unused holds => by
        obtain ⟨order, kept, found, origin, decided⟩ := holds
        obtain ⟨next, next_found, next_origin, cause⟩ := order.lookup_next found
        refine ⟨order.next unused, next, next_found, next_origin.trans origin, fun was => ?_⟩
        rcases cause with rfl | ⟨now_decided, -⟩
        · exact decided was
        · exact now_decided)
      ⟨orderly, record, stored, rfl, id⟩
    exact kept.2
  · intro decided alone
    have settled := after.invariant
      (fun state => state.Orderly ∧ state.Settled key record)
      (fun state event unused holds => ⟨holds.1.next unused, holds.2.next holds.1⟩)
      ⟨orderly, stored, decided, alone⟩
    exact ⟨settled.2.stored, readReviewed_settled settled.2.stored decided⟩

/-! ### One explanation for the same facts -/

namespace ReviewState

/-- A new explanation sees all records of its mission: none is about to be saved first, and the
listing is complete. -/
def Apart (state : ReviewState φ) : ReviewEvent φ → Prop
  | .advance index _ _ => ∀ described ∈ state.describedMission index,
    (∀ progress ∈ state.requests,
      progress.reservedKey.map ExplanationKey.missionId ≠ some described.1) ∧
    (state.tenantExplanations described.1 described.2.tenantId).length ≤ maxSubcollectionRecords
  | .arrive _ _ _ | .change _ => True

instance (state : ReviewState φ) : ∀ event, Decidable (state.Apart event)
  | .advance index _ _ => inferInstanceAs (Decidable (∀ described ∈ state.describedMission index,
    (∀ progress ∈ state.requests,
      progress.reservedKey.map ExplanationKey.missionId ≠ some described.1) ∧
    (state.tenantExplanations described.1 described.2.tenantId).length ≤ maxSubcollectionRecords))
  | .arrive _ _ _ | .change _ => .isTrue trivial

end ReviewState

namespace ExplanationRecord

/-- Whether two records explain the same facts of a mission to a tenant. -/
def SameFacts (one other : ExplanationRecord φ) : Prop :=
  one.missionId = other.missionId ∧ one.tenantId = other.tenantId ∧
    one.facts.factsSha256 = other.facts.factsSha256 ∧ one.facts.factsSha256 ≠ none

/-- Explaining the same facts is symmetric. -/
theorem SameFacts.symm {one other : ExplanationRecord φ} (same : one.SameFacts other) :
    other.SameFacts one :=
  ⟨same.1.symm, same.2.1.symm, same.2.2.1.symm, same.2.2.1 ▸ same.2.2.2⟩

/-- Decisions do not change the facts. -/
theorem SameFacts.of_original {one other kept : ExplanationRecord φ}
    (origin : kept.original = other.original) (same : one.SameFacts kept) :
    one.SameFacts other := by
  have mission : kept.original.missionId = other.original.missionId := by rw [origin]
  have tenant : kept.original.tenantId = other.original.tenantId := by rw [origin]
  have facts : kept.original.facts = other.original.facts := by rw [origin]
  change kept.missionId = other.missionId at mission
  change kept.tenantId = other.tenantId at tenant
  change kept.facts = other.facts at facts
  unfold SameFacts at same ⊢
  rw [← mission, ← tenant, ← facts]
  exact same

end ExplanationRecord

/-- Explanations of the same facts are one explanation, saved or about to be. -/
structure ReviewState.Single (state : ReviewState φ) : Prop where
  /-- Stored records. -/
  stored : ∀ {first second : ExplanationKey} {one other : ExplanationRecord φ},
    state.explanations.lookup first = some one → state.explanations.lookup second = some other →
      one.SameFacts other → first = second
  /-- A record that is about to be saved first, and a stored one. -/
  reserved : ∀ {index : Nat} {key : ExplanationKey} {one other : ExplanationRecord φ},
    state.requests[index]? = some (.composed one) →
      state.explanations.lookup key = some other → ¬one.SameFacts other
  /-- Records of a mission that are about to be saved first. -/
  alone : ∀ {first second : Nat} {one other : ExplanationRecord φ},
    state.requests[first]? = some (.composed one) →
      state.requests[second]? = some (.composed other) → one.missionId = other.missionId →
        first = second

section Single

variable {legacyTenant : Option String} {state : ReviewState φ} {event : ReviewEvent φ}

/-- A record that is found after an event was there before it, or is saved first by it. -/
theorem ReviewState.Orderly.lookup_next_some (orderly : state.Orderly) {key : ExplanationKey}
    {record : ExplanationRecord φ}
    (found : (state.next legacyTenant event).explanations.lookup key = some record) :
    (∃ before, state.explanations.lookup key = some before ∧
      record.original = before.original) ∨
    ∃ index number now, event = .advance index number now ∧
      state.requests[index]? = some (.composed record) ∧ key = record.key := by
  cases before : state.explanations.lookup key with
  | some old =>
    obtain ⟨later, next, origin, -⟩ := @ReviewState.Orderly.lookup_next _ legacyTenant state event orderly _ _ before
    have same : later = record := Option.some.inj (next.symm.trans found)
    exact .inl ⟨old, rfl, same ▸ origin⟩
  | none =>
    right
    rcases @explanations_next _ legacyTenant state event with
      same | ⟨index, number, now, saved, moved, waits, same⟩
    · rw [same, before] at found
      cases found
    · rw [same, lookup_saveExplanation] at found
      by_cases own : key = saved.key
      · rw [if_pos own] at found
        cases found
        rcases waits with first | again
        · exact ⟨index, number, now, moved, first, own⟩
        · obtain ⟨-, stored, kept, -⟩ := orderly.copies (List.mem_of_getElem? again)
          rw [← own, before] at kept
          cases kept
      · rw [if_neg own, before] at found
        cases found

/-- A stored record of a mission and a tenant is among the tenant's explanations. -/
theorem ReviewState.Orderly.mem_tenantExplanations (orderly : state.Orderly) {key : ExplanationKey}
    {record : ExplanationRecord φ} (found : state.explanations.lookup key = some record) :
    record ∈ state.tenantExplanations record.missionId record.tenantId := by
  have own := orderly.filed found
  refine List.mem_map.mpr ⟨(key, record), List.mem_filter.mpr ⟨Dictionary.mem_of_lookup found, ?_⟩,
    rfl⟩
  exact decide_eq_true ⟨(congrArg ExplanationKey.missionId own).symm, rfl⟩

/-- The hash that a record stores is that of its facts. -/
theorem Accounted.factsSha256 {start : ReviewState φ} {events : List (ReviewEvent φ)}
    {record : ExplanationRecord φ} (accounted : Accounted legacyTenant start events record) :
    record.factsSha256 = record.facts.factsSha256.getD "" := by
  obtain ⟨user, facts, draft, number, now, -, origin⟩ := accounted.origin
  have hash : record.factsSha256 = facts.factsSha256.getD "" :=
    congrArg ExplanationRecord.factsSha256 origin
  have same : record.facts = facts := congrArg ExplanationRecord.facts origin
  rw [hash, same]

/-- A request that draws a number is one whose mission is read. -/
theorem ReviewState.Apart.alone {index : Nat} {number : ExplanationNumber} {now : Moment}
    {user : AuthenticatedUser} {missionId tenantId : String} {facts : ReportedFacts φ}
    {draft : ReportedDraft} (apart : state.Apart (.advance index number now))
    (described :
      state.requests[index]? = some (.described user missionId tenantId facts draft)) :
    (∀ {other : Nat} {record : ExplanationRecord φ},
      state.requests[other]? = some (.composed record) → record.missionId ≠ missionId) ∧
    (state.tenantExplanations missionId user.tenantId).length ≤ maxSubcollectionRecords := by
  have found : state.describedMission index = some (missionId, user) := by
    unfold describedMission
    rw [described]
  obtain ⟨alone, complete⟩ := apart (missionId, user) found
  refine ⟨fun waits same => ?_, complete⟩
  exact alone _ (List.mem_of_getElem? waits) (congrArg some same)

/-- Events with unused names keep explanations single where new ones see all records. -/
theorem ReviewState.Single.next {start : ReviewState φ} {events : List (ReviewEvent φ)}
    (traced : ReviewState.Traced legacyTenant start events state) (orderly : state.Orderly)
    (fresh : state.Fresh event) (apart : state.Apart event) (single : state.Single) :
    (state.next legacyTenant event).Single where
  stored := by
    intro first second one other foundOne foundOther same
    rcases orderly.lookup_next_some foundOne with ⟨beforeOne, kept, origin⟩ |
      ⟨index, number, now, rfl, waits, rfl⟩
    · rcases orderly.lookup_next_some foundOther with ⟨beforeOther, keptOther, originOther⟩ |
        ⟨index, number, now, rfl, waits, rfl⟩
      · exact single.stored kept keptOther
          (((same.of_original originOther).symm.of_original origin).symm)
      · exact absurd (same.symm.of_original origin) (single.reserved waits kept)
    · rcases orderly.lookup_next_some foundOther with ⟨beforeOther, keptOther, originOther⟩ |
        ⟨_, _, _, again, waitsOther, rfl⟩
      · exact absurd (same.of_original originOther) (single.reserved waits keptOther)
      · obtain ⟨rfl, -, -⟩ := ReviewEvent.advance.inj again
        rw [waits] at waitsOther
        cases waitsOther
        rfl
  reserved := by
    intro index key one other waits found same
    rcases composed_next waits with ⟨before, unmoved⟩ |
      ⟨number, now, user, missionId, tenantId, facts, draft, rfl, described, made⟩
    · rcases orderly.lookup_next_some found with ⟨old, kept, origin⟩ |
        ⟨moved, number, now, rfl, first, rfl⟩
      · exact single.reserved before kept (same.of_original origin)
      · have here : index = moved := single.alone before first same.1
        exact unmoved number now (by rw [here])
    · obtain ⟨rfl, absent⟩ := readExisting_composed made
      rcases orderly.lookup_next_some found with ⟨old, kept, origin⟩ | ⟨_, _, _, again, first, rfl⟩
      · obtain ⟨mission, tenant, hash, known⟩ := same.of_original origin
        have own : tenantId = user.tenantId :=
          (traced.underway _ (List.mem_of_getElem? described)).tenant.1
        have inside := orderly.mem_tenantExplanations kept
        rw [← mission, ← tenant] at inside
        change old ∈ state.tenantExplanations missionId tenantId at inside
        rw [own] at inside
        have listed : old ∈ state.listExplanations missionId user.tenantId := by
          unfold ReviewState.listExplanations
          rw [List.take_of_length_le (apart.alone described).2]
          exact inside
        refine absent old listed ?_
        have stored := (traced.stored _ (Dictionary.mem_of_lookup kept)).2.factsSha256
        change facts.factsSha256 = old.facts.factsSha256 at hash
        change facts.factsSha256 ≠ none at known
        rw [stored, ← hash]
        cases value : facts.factsSha256 with
        | none => exact absurd value known
        | some text => rfl
      · obtain ⟨rfl, -, -⟩ := ReviewEvent.advance.inj again
        rw [described] at first
        cases first
  alone := by
    intro first second one other waitsOne waitsOther mission
    rcases composed_next waitsOne with ⟨beforeOne, -⟩ |
      ⟨number, now, user, missionId, tenantId, facts, draft, rfl, described, made⟩
    · rcases composed_next waitsOther with ⟨beforeOther, -⟩ |
        ⟨number, now, user, missionId, tenantId, facts, draft, rfl, described, made⟩
      · exact single.alone beforeOne beforeOther mission
      · obtain ⟨rfl, -⟩ := readExisting_composed made
        exact absurd mission ((apart.alone described).1 beforeOne)
    · rcases composed_next waitsOther with ⟨beforeOther, -⟩ | ⟨_, _, _, _, _, _, _, again, -, -⟩
      · obtain ⟨rfl, -⟩ := readExisting_composed made
        exact absurd mission.symm ((apart.alone described).1 beforeOther)
      · exact (ReviewEvent.advance.inj again).1

end Single

/-- Where new explanations of a mission do not overlap, and its tenant has few enough of them to be
listed, the same facts are explained to a tenant only once. -/
theorem explanations_single (legacyTenant : Option String) (missions : RunStore (MissionReport φ))
    (events : List (ReviewEvent φ))
    (orderly : Transition.Along (ReviewState.next legacyTenant)
      (fun state event => state.Fresh event ∧ state.Apart event)
      (ReviewState.beginning missions) events)
    (first second : ExplanationKey) (one other : ExplanationRecord φ)
    (foundOne : (Transition.run (ReviewState.next legacyTenant) (ReviewState.beginning missions)
      events).explanations.lookup first = some one)
    (foundOther : (Transition.run (ReviewState.next legacyTenant) (ReviewState.beginning missions)
      events).explanations.lookup second = some other)
    (same : one.SameFacts other) : first = second ∧ one = other := by
  have single : (Transition.run (ReviewState.next legacyTenant) (ReviewState.beginning missions)
        events).Orderly ∧
      (Transition.run (ReviewState.next legacyTenant) (ReviewState.beginning missions)
        events).Single := by
    clear foundOne foundOther
    induction events using List.reverseRecOn with
    | nil =>
      exact ⟨ReviewState.beginning_orderly missions, (fun found => by cases found),
        (fun waits => by cases waits), (fun waits => by cases waits)⟩
    | append_singleton before event ih =>
      obtain ⟨early, last, -⟩ := Transition.along_append.mp orderly
      obtain ⟨order, alone⟩ := ih early
      rw [Transition.run_append]
      exact ⟨order.next last.1, alone.next (ReviewState.traced_run legacyTenant missions before)
        order last.1 last.2⟩
  have keys := single.2.stored foundOne foundOther same
  refine ⟨keys, ?_⟩
  rw [keys, foundOther] at foundOne
  exact (Option.some.inj foundOne).symm

/-- Eight digits. -/
theorem sampleDigits_eight : "0000000A".toList.length = 8 := by decide

/-- Capital digits. -/
theorem sampleDigits_capital :
    "0000000A".toList.all ("0123456789ABCDEF".toList.contains ·) = true := by decide

/-- A random number. -/
def sampleNumber : ExplanationNumber := ⟨"0000000A".toList, sampleDigits_eight, sampleDigits_capital⟩

/-- A reason is long enough. -/
theorem sampleReason_bounded :
    3 ≤ "wrong factor".length ∧ "wrong factor".length ≤ 1000 := by decide

/-- When the mission ran. -/
def missionMoment : Moment := fullHour ⟨1, Nat.le_of_ble_eq_true rfl⟩

/-- When it is explained. -/
def draftMoment : Moment := fullHour ⟨2, Nat.le_of_ble_eq_true rfl⟩

/-- When the explanation is reviewed. -/
def reviewMoment : Moment := fullHour ⟨3, Nat.le_of_ble_eq_true rfl⟩

/-- When it is reviewed again. -/
def laterMoment : Moment := fullHour ⟨4, Nat.le_of_ble_eq_true rfl⟩

/-- A mission with a draft. -/
def explainedRun : AssuranceRunRecord (MissionReport Unit) :=
  ⟨"MSN-1", some "tenant-a", missionMoment, missionMoment,
    ⟨some ⟨some "facts", ()⟩, some ⟨some "The premium changed.", none, some true⟩⟩⟩

/-- A store with that mission. -/
def explainedMissions : RunStore (MissionReport Unit) := ⟨[explainedRun], List.nodup_singleton _⟩

/-- A directory in which everyone is an administrator. -/
def openWorld : AccessWorld where
  demoApiKey := []
  demoApiKeyTenantId := ""
  verify token := .ok ⟨String.ofList token, none⟩
  documents _ := some (some ⟨some (.text "tenant-a".toList), some (.text "ADMIN".toList), none, none⟩)

/-- Headers of a user. -/
def headersOf (uid : String) : AccessHeaders := ⟨some ("Bearer ".toList ++ uid.toList), none⟩

/-- Name of the explanation. -/
def sampleExplanation : ExplanationKey := ⟨"MSN-1", explanationIdOf sampleNumber "MSN-1"⟩

/-- An explanation is made and approved. -/
def approvalEvents : List (ReviewEvent Unit) :=
  [.arrive openWorld (headersOf "maker") (.create "MSN-1"),
    .advance 0 sampleNumber draftMoment, .advance 0 sampleNumber draftMoment,
    .advance 0 sampleNumber draftMoment,
    .arrive openWorld (headersOf "reviewer") (.review sampleExplanation.explanationId .approve),
    .advance 1 sampleNumber reviewMoment, .advance 1 sampleNumber reviewMoment,
    .advance 1 sampleNumber reviewMoment]

/-- Another reviewer rejects it, and it is asked for again. -/
def laterEvents : List (ReviewEvent Unit) :=
  [.arrive openWorld (headersOf "other")
      (.review sampleExplanation.explanationId (.reject ⟨"wrong factor", sampleReason_bounded⟩)),
    .advance 2 sampleNumber laterMoment, .advance 2 sampleNumber laterMoment,
    .arrive openWorld (headersOf "maker") (.create "MSN-1"), .advance 3 sampleNumber laterMoment]

/-- The approved record. -/
def approvedExplanation : ExplanationRecord Unit :=
  { newExplanation ⟨"maker", "tenant-a", .admin, none⟩ "MSN-1" "tenant-a" ⟨some "facts", ()⟩
      ⟨some "The premium changed.", none, some true⟩ sampleNumber draftMoment with
    status := .approved
    reviewedBy := some "reviewer"
    reviewedAt := some reviewMoment }

/-- The approval stays, although another reviewer rejects the explanation. -/
theorem approvedExplanation_final :
    (Transition.run (ReviewState.next none) (ReviewState.beginning explainedMissions)
      (approvalEvents ++ laterEvents)).explanations.lookup sampleExplanation =
        some approvedExplanation := by
  have final := decided_explanations_final none explainedMissions approvalEvents laterEvents
    (by decide +kernel) sampleExplanation approvedExplanation rfl
  refine (final.2 (fun same => by cases same) fun copy waits => ?_).1
  have requests : (Transition.run (ReviewState.next none)
      (ReviewState.beginning explainedMissions) approvalEvents).requests =
        [.answered (.record approvedExplanation.original),
          .answered (.record approvedExplanation)] := rfl
  rw [requests] at waits
  simp only [List.mem_cons, reduceCtorEq, List.not_mem_nil, or_self] at waits

/-- The name of the explanation. -/
theorem sampleExplanation_eq :
    (⟨"MSN-1", "EXP-0000000A-MSN-1"⟩ : ExplanationKey) = sampleExplanation := by decide +kernel

/-- The explanation that is asked for again is the one that is stored under its name. -/
theorem approvedExplanation_single :
    (⟨"MSN-1", "EXP-0000000A-MSN-1"⟩ : ExplanationKey) = sampleExplanation ∧
      approvedExplanation = approvedExplanation :=
  explanations_single none explainedMissions (approvalEvents ++ laterEvents) (by decide +kernel)
    ⟨"MSN-1", "EXP-0000000A-MSN-1"⟩ sampleExplanation approvedExplanation approvedExplanation
    (sampleExplanation_eq ▸ rfl) rfl ⟨rfl, rfl, rfl, nofun⟩

end RateGuard
