import Mathlib.Data.List.Sort
import Mathlib.Data.Set.Finite.Lemmas
import Mathlib.Data.Set.Finite.List

/-!
# Spans of a dense line

Intervals whose two ends are included or not, over any linear order. On a dense one, two
spans share a point exactly when neither is empty and neither ends before the other
begins. Points that no span of a list contains are stretches that no span bridges, or
single ends that every span leaves out. In the order of the lower ends every stretch
appears between neighbours.
-/

namespace Spans

/-- Interval of a linear order, with or without its ends. -/
structure Span (L : Type*) [LinearOrder L] where
  /-- Lower end. -/
  low : L
  /-- Upper end. -/
  high : L
  /-- Whether the lower end belongs to it. -/
  includesLow : Bool
  /-- Whether the upper end belongs to it. -/
  includesHigh : Bool
  /-- The ends are not reversed. -/
  ordered : low ≤ high

variable {L : Type*} [LinearOrder L]

/-- Whether a span contains a point. -/
def Span.Contains (span : Span L) (point : L) : Prop :=
  (span.low < point ∨ span.low = point ∧ span.includesLow) ∧
    (point < span.high ∨ point = span.high ∧ span.includesHigh)

/-- Whether a span is a point that it leaves out. -/
def Span.Empty (span : Span L) : Prop :=
  span.low = span.high ∧ ¬(span.includesLow ∧ span.includesHigh)

/-- Whether a span ends before another begins. -/
def Span.Before (first second : Span L) : Prop :=
  first.high < second.low ∨
    first.high = second.low ∧ ¬(first.includesHigh ∧ second.includesLow)

/-- Whether two spans share a point. -/
def Span.Meets (first second : Span L) : Prop :=
  ∃ point, first.Contains point ∧ second.Contains point

instance (span : Span L) (point : L) : Decidable (span.Contains point) :=
  inferInstanceAs (Decidable ((_ ∨ _) ∧ (_ ∨ _)))

instance (span : Span L) : Decidable span.Empty := inferInstanceAs (Decidable (_ ∧ _))

instance (first second : Span L) : Decidable (first.Before second) :=
  inferInstanceAs (Decidable (_ ∨ _))

/-- A contained point lies between the ends. -/
theorem Span.Contains.bounds {span : Span L} {point : L} (inside : span.Contains point) :
    span.low ≤ point ∧ point ≤ span.high := by
  obtain ⟨lower, upper⟩ := inside
  constructor
  · rcases lower with above | ⟨same, -⟩
    · exact above.le
    · exact same.le
  · rcases upper with below | ⟨same, -⟩
    · exact below.le
    · exact same.le

/-- A point strictly between the ends is contained. -/
theorem Span.contains_of_between {span : Span L} {point : L} (above : span.low < point)
    (below : point < span.high) : span.Contains point := ⟨.inl above, .inl below⟩

/-- An empty span contains nothing. -/
theorem Span.Empty.free {span : Span L} (empty : span.Empty) (point : L) :
    ¬span.Contains point := by
  rintro ⟨lower, upper⟩
  obtain ⟨same, excluded⟩ := empty
  rcases lower with above | ⟨low, includesLow⟩
  · rcases upper with below | ⟨high, -⟩
    · exact absurd (above.trans below) same.not_lt
    · exact absurd (high ▸ above) same.not_lt
  · rcases upper with below | ⟨high, includesHigh⟩
    · exact absurd (low ▸ below) same.not_lt
    · exact excluded ⟨includesLow, includesHigh⟩

/-- Spans of which one ends before the other begins share nothing. -/
theorem Span.Before.apart {first second : Span L} (before : first.Before second) :
    ¬first.Meets second := by
  rintro ⟨point, ⟨-, upper⟩, ⟨lower, -⟩⟩
  rcases before with gap | ⟨touching, excluded⟩
  · rcases upper with below | ⟨high, -⟩
    · rcases lower with above | ⟨low, -⟩
      · exact absurd (below.trans gap) above.asymm
      · exact absurd (below.trans gap) low.not_gt
    · rcases lower with above | ⟨low, -⟩
      · exact absurd (high ▸ gap) above.asymm
      · exact absurd (high ▸ gap) low.not_gt
  · rcases upper with below | ⟨high, includesHigh⟩
    · rcases lower with above | ⟨low, -⟩
      · exact absurd (touching ▸ below) above.asymm
      · exact absurd (touching ▸ below) low.not_gt
    · rcases lower with above | ⟨low, includesLow⟩
      · exact absurd (high.trans touching) above.ne'
      · exact excluded ⟨includesHigh, includesLow⟩

/-- Sharing a point is symmetric. -/
theorem Span.Meets.symm {first second : Span L} (meets : first.Meets second) :
    second.Meets first := by
  obtain ⟨point, left, right⟩ := meets
  exact ⟨point, right, left⟩

section Dense

variable [DenselyOrdered L]

/-- Nonempty spans meet where the later of the two begins, unless one ends before that. -/
theorem Span.meets_of_low {first second : Span L} (later : first.low ≤ second.low)
    (nonempty : ¬second.Empty) (free : ¬first.Before second) (back : ¬second.Before first)
    (filled : ¬first.Empty) : first.Meets second := by
  have reaches : second.low ≤ first.high := by
    by_contra short
    exact free (.inl (not_le.mp short))
  rcases reaches.lt_or_eq with inner | touching
  · rcases second.ordered.lt_or_eq with wide | single
    · obtain ⟨point, above, below⟩ := exists_between (lt_min inner wide)
      exact ⟨point, Span.contains_of_between (later.trans_lt above) (lt_min_iff.mp below).1,
        Span.contains_of_between above (lt_min_iff.mp below).2⟩
    · have ends : second.includesLow ∧ second.includesHigh := by
        by_contra excluded
        exact nonempty ⟨single, excluded⟩
      refine ⟨second.low, ⟨?_, .inl inner⟩, .inr ⟨rfl, ends.1⟩, .inr ⟨single, ends.2⟩⟩
      rcases later.lt_or_eq with strict | same
      · exact .inl strict
      · have begins : first.includesLow := by
          by_contra excluded
          exact back (.inr ⟨(same.trans single).symm, fun both => excluded both.2⟩)
        exact .inr ⟨same, begins⟩
  · have ends : first.includesHigh ∧ second.includesLow := by
      by_contra excluded
      exact free (.inr ⟨touching.symm, excluded⟩)
    refine ⟨second.low, ⟨?_, .inr ⟨touching, ends.1⟩⟩, .inr ⟨rfl, ends.2⟩, ?_⟩
    · rcases later.lt_or_eq with strict | same
      · exact .inl strict
      · have begins : first.includesLow := by
          by_contra excluded
          exact filled ⟨same.trans touching, fun both => excluded both.1⟩
        exact .inr ⟨same, begins⟩
    · rcases second.ordered.lt_or_eq with wide | single
      · exact .inl wide
      · have closes : second.includesHigh := by
          by_contra excluded
          exact nonempty ⟨single, fun both => excluded both.2⟩
        exact .inr ⟨single, closes⟩

/-- Two spans share a point exactly when neither is empty and neither ends before the other. -/
theorem Span.meets_iff {first second : Span L} :
    first.Meets second ↔
      (¬first.Empty ∧ ¬second.Empty) ∧ ¬(first.Before second ∨ second.Before first) := by
  constructor
  · intro meets
    have shared := meets
    obtain ⟨point, left, right⟩ := shared
    refine ⟨⟨fun empty => empty.free point left, fun empty => empty.free point right⟩, ?_⟩
    rintro (before | before)
    · exact before.apart meets
    · exact before.apart meets.symm
  · rintro ⟨⟨filled, nonempty⟩, free⟩
    have forth : ¬first.Before second := fun before => free (.inl before)
    have back : ¬second.Before first := fun before => free (.inr before)
    rcases le_total first.low second.low with later | later
    · exact Span.meets_of_low later nonempty forth back filled
    · exact (Span.meets_of_low later filled back forth nonempty).symm

end Dense

/-- Whether a point lies strictly between the smallest lower and the largest upper end. -/
def Inside (spans : List (Span L)) (point : L) : Prop :=
  (∃ span ∈ spans, span.low < point) ∧ ∃ span ∈ spans, point < span.high

/-- Whether some point inside lies in no span. -/
def Gap (spans : List (Span L)) : Prop :=
  ∃ point, Inside spans point ∧ ∀ span ∈ spans, ¬span.Contains point

/-- Whether some span ends below a later one and no span reaches across its end. -/
def Interrupted (spans : List (Span L)) : Prop :=
  ∃ ending ∈ spans, (∃ span ∈ spans, ending.high < span.high) ∧
    ∀ span ∈ spans, ending.high < span.high → ending.high < span.low

/-- Whether some upper end inside lies in no span. -/
def Punctured (spans : List (Span L)) : Prop :=
  ∃ ending ∈ spans, Inside spans ending.high ∧ ∀ span ∈ spans, ¬span.Contains ending.high

instance (spans : List (Span L)) (point : L) : Decidable (Inside spans point) :=
  inferInstanceAs (Decidable (_ ∧ _))

instance (spans : List (Span L)) : Decidable (Interrupted spans) :=
  inferInstanceAs (Decidable (∃ ending ∈ spans, _ ∧ ∀ span ∈ spans, _ → _))

instance (spans : List (Span L)) : Decidable (Punctured spans) :=
  inferInstanceAs (Decidable (∃ ending ∈ spans, _ ∧ ∀ span ∈ spans, _))

/-- A point in no span comes after an end that no span reaches across, or is such an end. -/
theorem interrupted_or_punctured {spans : List (Span L)} {point : L}
    (inside : Inside spans point) (free : ∀ span ∈ spans, ¬span.Contains point) :
    Interrupted spans ∨ Punctured spans := by
  have around := inside
  obtain ⟨⟨first, member, above⟩, ⟨later, last, below⟩⟩ := inside
  -- The latest upper end up to the point is where coverage stops.
  have ended : ∃ ending ∈ {span | span ∈ spans ∧ span.high ≤ point},
      ∀ span ∈ {span | span ∈ spans ∧ span.high ≤ point}, span.high ≤ ending.high := by
    apply Set.exists_max_image
    · exact (List.finite_toSet spans).subset fun span found => found.1
    · refine ⟨first, member, ?_⟩
      by_contra short
      exact free first member (Span.contains_of_between above (not_le.mp short))
  obtain ⟨ending, ⟨known, upto⟩, latest⟩ := ended
  rcases upto.lt_or_eq with strict | same
  · refine .inl ⟨ending, known, ⟨later, last, strict.trans below⟩, fun span found longer => ?_⟩
    by_contra early
    have beyond : point < span.high := by
      by_contra short
      exact absurd (latest span ⟨found, not_lt.mp short⟩) (not_le.mpr longer)
    exact free span found (Span.contains_of_between ((not_lt.mp early).trans_lt strict) beyond)
  · exact .inr ⟨ending, known, same ▸ around, same ▸ free⟩

/-- No span contains a point just after an end that no span reaches across. -/
theorem Interrupted.gap [DenselyOrdered L] {spans : List (Span L)}
    (interrupted : Interrupted spans) : Gap spans := by
  obtain ⟨ending, known, ⟨later, last, longer⟩, free⟩ := interrupted
  have begun : ∃ next ∈ {span | span ∈ spans ∧ ending.high < span.high},
      ∀ span ∈ {span | span ∈ spans ∧ ending.high < span.high}, next.low ≤ span.low := by
    apply Set.exists_min_image
    · exact (List.finite_toSet spans).subset fun span found => found.1
    · exact ⟨later, last, longer⟩
  obtain ⟨next, ⟨found, beyond⟩, earliest⟩ := begun
  obtain ⟨point, after, before⟩ := exists_between (free next found beyond)
  have under : point < later.high :=
    before.trans_le ((earliest later ⟨last, longer⟩).trans later.ordered)
  refine ⟨point, ⟨⟨ending, known, ending.ordered.trans_lt after⟩, ⟨later, last, under⟩⟩, ?_⟩
  intro span member contains
  have reaching := earliest span ⟨member, after.trans_le contains.bounds.2⟩
  exact absurd (before.trans_le reaching) (not_lt.mpr contains.bounds.1)

/-- The points that no span contains are found at the upper ends. -/
theorem gap_iff [DenselyOrdered L] {spans : List (Span L)} :
    Gap spans ↔ Interrupted spans ∨ Punctured spans := by
  constructor
  · rintro ⟨point, inside, free⟩
    exact interrupted_or_punctured inside free
  · rintro (interrupted | ⟨ending, -, inside, free⟩)
    · exact interrupted.gap
    · exact ⟨ending.high, inside, free⟩

/-- Whether some neighbours leave a stretch between them. -/
def Jumps (spans : List (Span L)) : Prop :=
  ∃ pair ∈ spans.zip spans.tail, pair.1.high < pair.2.low

instance (spans : List (Span L)) : Decidable (Jumps spans) :=
  inferInstanceAs (Decidable (∃ pair ∈ _, _))

/-- A list that starts with a property and loses it does so between two neighbours. -/
theorem exists_step {α : Type*} (property : α → Prop) {first : α} {rest : List α}
    (starts : property first) (loses : ∃ value ∈ rest, ¬property value) :
    ∃ pair ∈ (first :: rest).zip rest, property pair.1 ∧ ¬property pair.2 := by
  induction rest generalizing first with
  | nil =>
    obtain ⟨value, member, -⟩ := loses
    exact absurd member List.not_mem_nil
  | cons second rest ih =>
    by_cases keeps : property second
    · have later : ∃ value ∈ rest, ¬property value := by
        obtain ⟨value, member, lost⟩ := loses
        rcases List.mem_cons.mp member with rfl | member
        · exact absurd keeps lost
        · exact ⟨value, member, lost⟩
      obtain ⟨pair, member, step⟩ := ih keeps later
      exact ⟨pair, List.mem_cons_of_mem _ member, step⟩
    · exact ⟨(first, second), List.mem_cons_self, starts, keeps⟩

/-- In the order of lower ends, an end that no span reaches across lies between neighbours. -/
theorem Interrupted.jumps {spans : List (Span L)}
    (sorted : spans.Pairwise fun first second => first.low ≤ second.low)
    (interrupted : Interrupted spans) : Jumps spans := by
  obtain ⟨ending, known, ⟨later, last, longer⟩, free⟩ := interrupted
  cases spans with
  | nil => exact absurd known List.not_mem_nil
  | cons first rest =>
    have begins : first.low ≤ ending.high := by
      rcases List.mem_cons.mp known with rfl | member
      · exact ending.ordered
      · exact (List.rel_of_pairwise_cons sorted member).trans ending.ordered
    have loses : ∃ span ∈ rest, ¬span.low ≤ ending.high := by
      rcases List.mem_cons.mp last with rfl | member
      · exact absurd (free later last longer) (not_lt.mpr begins)
      · exact ⟨later, member, not_le.mpr (free later last longer)⟩
    obtain ⟨pair, member, upto, after⟩ :=
      exists_step (fun span => Span.low span ≤ ending.high) begins loses
    refine ⟨pair, member, ?_⟩
    have stops : pair.1.high ≤ ending.high := by
      by_contra reaches
      exact absurd (free pair.1 (List.of_mem_zip member).1 (not_le.mp reaches)) (not_lt.mpr upto)
    exact stops.trans_lt (not_le.mp after)

/-- In the order of lower ends and without a stretch between neighbours, every point between the
smallest lower and the largest upper end lies between the ends of a span. -/
theorem between_of_not_jumps {spans : List (Span L)} {point : L}
    (sorted : spans.Pairwise fun first second => first.low ≤ second.low)
    (joined : ¬Jumps spans) (above : ∃ span ∈ spans, span.low ≤ point)
    (below : ∃ span ∈ spans, point ≤ span.high) :
    ∃ span ∈ spans, span.low ≤ point ∧ point ≤ span.high := by
  obtain ⟨earlier, known, lower⟩ := above
  obtain ⟨later, last, upper⟩ := below
  cases spans with
  | nil => exact absurd known List.not_mem_nil
  | cons first rest =>
    have begins : first.low ≤ point := by
      rcases List.mem_cons.mp known with rfl | member
      · exact lower
      · exact (List.rel_of_pairwise_cons sorted member).trans lower
    by_cases within : later.low ≤ point
    · exact ⟨later, last, within, upper⟩
    · have loses : ∃ span ∈ rest, ¬span.low ≤ point := by
        rcases List.mem_cons.mp last with rfl | member
        · exact absurd begins within
        · exact ⟨later, member, within⟩
      obtain ⟨pair, member, upto, after⟩ :=
        exists_step (fun span => Span.low span ≤ point) begins loses
      refine ⟨pair.1, (List.of_mem_zip member).1, upto, ?_⟩
      by_contra short
      exact joined ⟨pair, member, (not_le.mp short).trans (not_le.mp after)⟩

end Spans
