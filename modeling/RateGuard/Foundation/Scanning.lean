import Mathlib

/-!
# Scanning of text

A pattern reads a token from the front of a text. Scanning takes the tokens of a text from the left
without overlap, skipping one character where none starts. No token reaches over a character that
does not join, so a text is scanned part by part between such characters. Where a fixed phrase occurs
in a text is found part by part too.
-/

namespace Scanning

variable {α : Type}

/-- A language of tokens with a reader and the characters that can stand in a token. -/
structure Pattern (α : Type) where
  /-- Whether a text is a token. -/
  Token : List α → Prop
  /-- Token at the front of a text, with the text behind it. -/
  read : List α → Option (List α × List α)
  /-- Whether a character can stand in a token. -/
  joins : α → Bool
  /-- The reader finds the token that a text begins with, which is the only one. -/
  read_iff : ∀ {text token rest}, read text = some (token, rest) ↔
    Token token ∧ text = token ++ rest
  /-- A token is not empty. -/
  nonempty : ¬Token []
  /-- All characters of a token join. -/
  joined : ∀ {token}, Token token → ∀ character ∈ token, joins character = true

namespace Pattern

variable (pattern : Pattern α)

/-- Tokens of a text behind a number of characters that are passed over. -/
def scan : Nat → List α → List (List α)
  | _, [] => []
  | skip + 1, _ :: rest => scan skip rest
  | 0, first :: rest =>
    match pattern.read (first :: rest) with
    | none => scan 0 rest
    | some (token, _) => token :: scan (token.length - 1) rest

/-- Tokens of a text from the left, without overlap. -/
def findAll (text : List α) : List (List α) := pattern.scan 0 text

/-- Passing over characters scans the text behind them. -/
theorem scan_skip (skip : Nat) (text : List α) :
    pattern.scan skip text = pattern.findAll (text.drop skip) := by
  induction text generalizing skip with
  | nil => simp [scan, findAll]
  | cons first rest ih =>
    cases skip with
    | zero => rfl
    | succ skip => exact ih skip

/-- An empty text has no tokens. -/
@[simp] theorem findAll_nil : pattern.findAll [] = [] := rfl

/-- A token is read together with what stands behind it. -/
theorem read_append {token : List α} (isToken : pattern.Token token) (rest : List α) :
    pattern.read (token ++ rest) = some (token, rest) := pattern.read_iff.mpr ⟨isToken, rfl⟩

/-- A token is not empty. -/
theorem ne_nil {token : List α} (isToken : pattern.Token token) : token ≠ [] := by
  rintro rfl
  exact pattern.nonempty isToken

/-- No token is read from an empty text. -/
theorem read_nil : pattern.read [] = none := by
  refine Option.eq_none_iff_forall_ne_some.mpr fun parts found => ?_
  obtain ⟨isToken, split⟩ := pattern.read_iff.mp found
  exact pattern.ne_nil isToken (List.append_eq_nil_iff.mp split.symm).1

/-- A character that does not join completes no token. -/
theorem read_none_append {text : List α} {character : α} (rest : List α)
    (splits : pattern.joins character = false) (none : pattern.read text = none) :
    pattern.read (text ++ character :: rest) = Option.none := by
  refine Option.eq_none_iff_forall_ne_some.mpr fun parts found => ?_
  obtain ⟨isToken, split⟩ := pattern.read_iff.mp found
  rcases List.append_eq_append_iff.mp split with ⟨more, longer, behind⟩ | ⟨more, shorter, -⟩
  · cases more with
    | nil =>
      have read := pattern.read_append isToken []
      rw [longer, List.append_nil, List.append_nil, none] at read
      cases read
    | cons first more =>
      -- the token reaches over the character
      obtain ⟨same, -⟩ := List.cons.inj behind
      have member : character ∈ parts.1 := by
        rw [longer, same]
        exact List.mem_append_right _ List.mem_cons_self
      have joining := pattern.joined isToken character member
      rw [splits] at joining
      cases joining
  · have read := pattern.read_append isToken more
    rw [← shorter, none] at read
    cases read

/-- Where no token starts, one character is passed over. -/
theorem findAll_none {first : α} {rest : List α} (none : pattern.read (first :: rest) = none) :
    pattern.findAll (first :: rest) = pattern.findAll rest := by
  rw [findAll, scan, none]
  rfl

/-- Behind a token the scan goes on. -/
theorem findAll_some {text token rest : List α} (found : pattern.read text = some (token, rest)) :
    pattern.findAll text = token :: pattern.findAll rest := by
  obtain ⟨isToken, split⟩ := pattern.read_iff.mp found
  cases token with
  | nil => exact absurd isToken pattern.nonempty
  | cons first more =>
    subst split
    rw [List.cons_append] at found ⊢
    rw [findAll, scan, found]
    change _ :: pattern.scan more.length (more ++ rest) = _
    rw [scan_skip, List.drop_left]

/-- Texts by their scan: empty, behind a character that starts no token, and behind a token. -/
theorem scan_induction {motive : List α → Prop} (empty : motive [])
    (pass : ∀ first rest, pattern.read (first :: rest) = none → motive rest →
      motive (first :: rest))
    (take : ∀ token rest, pattern.Token token → motive rest → motive (token ++ rest))
    (text : List α) : motive text := by
  induction count : text.length using Nat.strong_induction_on generalizing text with
  | _ bound ih =>
    cases text with
    | nil => exact empty
    | cons first more =>
      cases found : pattern.read (first :: more) with
      | none =>
        refine pass first more found (ih more.length ?_ more rfl)
        rw [← count, List.length_cons]
        exact Nat.lt_succ_self _
      | some parts =>
        obtain ⟨token, behind⟩ := parts
        obtain ⟨isToken, split⟩ := pattern.read_iff.mp found
        rw [split] at count ⊢
        refine take token behind isToken (ih behind.length ?_ behind rfl)
        have positive := List.length_pos_iff.mpr (pattern.ne_nil isToken)
        rw [← count, List.length_append]
        omega

/-- A character that does not join starts no token. -/
theorem read_apart {character : α} (rest : List α) (splits : pattern.joins character = false) :
    pattern.read (character :: rest) = none :=
  pattern.read_none_append rest splits pattern.read_nil

/-- A text is scanned part by part around a character that does not join. -/
theorem findAll_append {character : α} (rest : List α) (splits : pattern.joins character = false)
    (text : List α) : pattern.findAll (text ++ character :: rest) =
      pattern.findAll text ++ pattern.findAll rest := by
  induction text using pattern.scan_induction with
  | empty => exact pattern.findAll_none (pattern.read_apart rest splits)
  | pass first more none ih =>
    have still := pattern.read_none_append rest splits none
    rw [List.cons_append] at still ⊢
    rw [pattern.findAll_none none, pattern.findAll_none still, ih]
  | take token behind isToken ih =>
    rw [List.append_assoc, pattern.findAll_some (pattern.read_append isToken _),
      pattern.findAll_some (pattern.read_append isToken _), ih, List.cons_append]

/-- A text is scanned part by part between characters that do not join. -/
theorem findAll_splitOnP {separates : α → Bool}
    (apart : ∀ character, separates character = true → pattern.joins character = false)
    (text : List α) :
    pattern.findAll text = (text.splitOnP separates).flatMap pattern.findAll := by
  induction count : text.length using Nat.strong_induction_on generalizing text with
  | _ bound ih =>
    by_cases whole : ∀ character ∈ text, separates character = false
    · rw [List.splitOnP_eq_singleton whole, List.flatMap_singleton]
    · push Not at whole
      obtain ⟨character, member, splits⟩ := whole
      obtain ⟨before, after, rfl⟩ := List.append_of_mem member
      have separated : separates character = true := by simpa using splits
      rw [List.length_append, List.length_cons] at count
      rw [pattern.findAll_append after (apart character separated),
        List.splitOnP_append_cons before after separated, List.flatMap_append,
        ih before.length (by omega) before rfl, ih after.length (by omega) after rfl]

/-- The tokens that are found are tokens, and parts of the text. -/
theorem findAll_token {text token : List α} (found : token ∈ pattern.findAll text) :
    pattern.Token token ∧ token <:+: text := by
  induction text using pattern.scan_induction with
  | empty => cases found
  | pass first more none ih =>
    rw [pattern.findAll_none none] at found
    exact ⟨(ih found).1, List.infix_cons (ih found).2⟩
  | take taken behind isToken ih =>
    rw [pattern.findAll_some (pattern.read_append isToken behind), List.mem_cons] at found
    rcases found with rfl | later
    · exact ⟨isToken, List.infix_append_left⟩
    · exact ⟨(ih later).1, List.infix_append_of_infix_right (ih later).2⟩

/-- A text that is one token has it as its only token. -/
theorem findAll_whole {token : List α} (isToken : pattern.Token token) :
    pattern.findAll token = [token] := by
  have read := pattern.read_append isToken []
  rw [List.append_nil] at read
  rw [pattern.findAll_some read, findAll_nil]

/-- A token behind characters that start none is found. -/
theorem mem_findAll {token : List α} (isToken : pattern.Token token) (after : List α)
    {before : List α} (starts : ∀ character ∈ before, ∀ rest,
      pattern.read (character :: rest) = none) :
    token ∈ pattern.findAll (before ++ (token ++ after)) := by
  induction before with
  | nil =>
    rw [List.nil_append, pattern.findAll_some (pattern.read_append isToken after)]
    exact List.mem_cons_self
  | cons first rest ih =>
    rw [List.cons_append, pattern.findAll_none (starts first List.mem_cons_self _)]
    exact ih fun character member => starts character (List.mem_cons_of_mem _ member)

/-- A text without a character of every token has no tokens. -/
theorem findAll_eq_nil {text : List α} {needed : α}
    (needs : ∀ {token}, pattern.Token token → needed ∈ token) (lacks : needed ∉ text) :
    pattern.findAll text = [] := by
  refine List.eq_nil_iff_forall_not_mem.mpr fun token found => lacks ?_
  obtain ⟨isToken, part⟩ := pattern.findAll_token found
  exact part.subset (needs isToken)

end Pattern

/-- A phrase does not reach over two adjacent characters that are not adjacent in it. -/
theorem infix_append_apart {phrase : List α} {last first : α} (front back : List α)
    (apart : ¬[last, first] <:+: phrase) :
    phrase <:+: (front ++ [last]) ++ first :: back ↔
      phrase <:+: front ++ [last] ∨ phrase <:+: first :: back := by
  rw [List.infix_append_iff_ne_nil, ← or_assoc]
  refine or_iff_left ?_
  rintro ⟨start, rest, some, more, rfl, ending, beginning⟩
  refine apart ?_
  obtain ⟨before, same⟩ := ending
  obtain ⟨after, again⟩ := beginning
  obtain ⟨next, others, rfl⟩ := List.exists_cons_of_ne_nil more
  have head := (List.cons.inj again).1
  have tail : start.getLast some = last := by
    have whole := congrArg List.getLast? same
    rw [List.getLast?_append_of_ne_nil _ some, List.getLast?_append_of_ne_nil _ (List.cons_ne_nil _ _),
      List.getLast?_eq_getLast_of_ne_nil some] at whole
    exact Option.some.inj whole
  refine ⟨start.dropLast, others, ?_⟩
  rw [← head, ← tail]
  conv_rhs => rw [← List.dropLast_append_getLast some]
  simp

/-- A phrase does not reach over a character that is not in it. -/
theorem infix_append_breaker {phrase : List α} {breaker : α} (front back : List α)
    (apart : breaker ∉ phrase) :
    phrase <:+: front ++ breaker :: back ↔ phrase <:+: front ∨ phrase <:+: back := by
  constructor
  · intro inside
    rcases List.infix_append_iff_ne_nil.mp inside with left | right | ⟨start, rest, -, more, rfl, -,
      beginning⟩
    · exact .inl left
    · rcases List.infix_cons_iff.mp right with front | behind
      · rcases List.prefix_cons_iff.mp front with rfl | ⟨others, rfl, -⟩
        · exact .inr List.nil_infix
        · exact absurd List.mem_cons_self apart
      · exact .inr behind
    · obtain ⟨next, others, rfl⟩ := List.exists_cons_of_ne_nil more
      obtain ⟨after, same⟩ := beginning
      have head := (List.cons.inj same).1
      exact absurd (List.mem_append_right _ (head ▸ List.mem_cons_self)) apart
  · rintro (left | right)
    · exact List.infix_append_of_infix_left left
    · exact List.infix_append_of_infix_right (List.infix_cons right)

/-- A phrase occurs behind a character that it does not begin with as it occurs without it. -/
theorem infix_cons_of_head {phrase : List α} {character : α} (rest : List α)
    (some : phrase ≠ []) (other : phrase.head? ≠ .some character) :
    phrase <:+: character :: rest ↔ phrase <:+: rest := by
  refine List.infix_cons_iff.trans (or_iff_right fun front => ?_)
  rcases List.prefix_cons_iff.mp front with rfl | ⟨others, rfl, -⟩
  · exact some rfl
  · exact other rfl

/-- A phrase occurs before a character that it does not end with as it occurs without it. -/
theorem infix_concat_of_getLast {phrase : List α} {character : α} (text : List α)
    (some : phrase ≠ []) (other : phrase.getLast? ≠ .some character) :
    phrase <:+: text ++ [character] ↔ phrase <:+: text := by
  refine List.infix_concat_iff.trans (or_iff_right fun ending => ?_)
  rcases List.suffix_concat_iff.mp ending with rfl | ⟨others, rfl, -⟩
  · exact some rfl
  · exact other List.getLast?_concat

/-- A phrase occurs in a transformed text as in the text where the transformation changes only
characters that do not give one of the phrase. -/
theorem infix_map_iff {phrase text : List α} {transform : α → α}
    (fixed : ∀ character ∈ phrase, transform character = character)
    (only : ∀ character, transform character ∈ phrase → transform character = character) :
    phrase <:+: text.map transform ↔ phrase <:+: text := by
  constructor
  · rintro ⟨before, after, split⟩
    obtain ⟨front, back, rfl, found, -⟩ := List.map_eq_append_iff.mp split.symm
    obtain ⟨start, middle, rfl, -, same⟩ := List.map_eq_append_iff.mp found
    have unchanged : middle.map transform = middle := by
      have kept := List.map_congr_left fun character member =>
        only character (same ▸ List.mem_map_of_mem (f := transform) member)
      rw [kept, List.map_id']
    rw [unchanged] at same
    exact ⟨start, back, by rw [same]⟩
  · rintro ⟨before, after, rfl⟩
    refine ⟨before.map transform, after.map transform, ?_⟩
    rw [List.map_append, List.map_append, List.map_congr_left fixed, List.map_id']

end Scanning
