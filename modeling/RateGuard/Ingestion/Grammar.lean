import RateGuard.Ingestion.Formulas

/-!
# Language of the formulas

The language of operands and conditions, stated without the order in which its forms are tried.
The parsers accept exactly its texts whose identifiers are not read as an infinite or undefined
decimal, and a parsed condition that is printed parses as itself.
-/

open DecimalFloat CalendarDate TopologicalSort Outcome

namespace RateGuard

/-- Texts of operands. -/
inductive OperandText : List Char → ExpressionV2 → Prop
  /-- A finite decimal. -/
  | literal {text : List Char} {value : FiniteDecimal}
      (parsed : Decimal.parse text = some value.toDecimal) :
      OperandText text (.literal (.decimal value))
  /-- A marked finite decimal. -/
  | marked {text : List Char} {value : FiniteDecimal}
      (parsed : Decimal.parse text = some value.toDecimal) :
      OperandText ('#' :: text) (.literal (.decimal value))
  /-- An identifier. -/
  | identifier {text : List Char} (named : isIdentifierV2 (String.ofList text) = true) :
      OperandText text (.reference (String.ofList text))

/-- Texts of comparisons: three words. -/
inductive ComparisonText (letters : Letters) : List Char → ConditionV2 → Prop
  | words {text left operator right : List Char} {first second : ExpressionV2}
      {comparison : ComparisonOperator} (three : words text = [left, operator, right])
      (named : comparisonOperator (letters.upper (String.ofList operator)) = some comparison)
      (leftText : OperandText left first) (rightText : OperandText right second) :
      ComparisonText letters text (.comparison first comparison second)

/-- Whether no part of a word stands on either side of a place. -/
structure WordBounded (isWord : Char → Bool) (left right : List Char) : Prop where
  /-- Before it. -/
  before : left.getLast?.any isWord = false
  /-- Behind it. -/
  behind : right.head?.any isWord = false

/-- Texts of conditions: a comparison, or two comparisons joined by one operator. -/
inductive ConditionText (letters : Letters) : List Char → ConditionV2 → Prop
  | comparison {text : List Char} {condition : ConditionV2}
      (single : ComparisonText letters text condition) : ConditionText letters text condition
  | joined {left right : List Char} {first second : ConditionV2} {operator : LogicalOperator}
      (bounded : WordBounded letters.isWord left right)
      (leftText : ComparisonText letters (Text.strip left) first)
      (rightText : ComparisonText letters (Text.strip right) second) :
      ConditionText letters (left ++ (logicalWord operator ++ right))
        (.logical operator [first, second])

/-- Whether a text, without underscores, is the name of an infinite or undefined decimal. -/
def isSpecialName (text : List Char) : Bool :=
  let bare := text.filter (· ≠ '_')
  bare = "inf".toList || bare = "infinity".toList ||
    (bare.take 3 = "nan".toList && (bare.drop 3).all Text.isDigit) ||
    (bare.take 4 = "snan".toList && (bare.drop 4).all Text.isDigit)

/-- Whether nothing refers to a special name. -/
def PlainRefs (refs : List ExpressionRef) : Prop :=
  ∀ ref ∈ refs, isSpecialName ref.id.toList = false

section Texts

/-- Trimming removes whitespace only. -/
theorem mem_strip {text : List Char} {character : Char} (member : character ∈ text) :
    Text.isSpace character = true ∨ character ∈ Text.strip text := by
  have kept : ∀ chars : List Char, character ∈ chars →
      Text.isSpace character = true ∨ character ∈ chars.dropWhile Text.isSpace := by
    intro chars inside
    rw [← List.takeWhile_append_dropWhile (p := Text.isSpace) (l := chars)] at inside
    exact (List.mem_append.mp inside).imp List.mem_takeWhile_imp id
  rcases kept text member with space | inside
  · exact .inl space
  · rcases kept _ (List.mem_reverse.mpr inside) with space | last
    · exact .inl space
    · exact .inr (List.mem_reverse.mpr last)

/-- Every character is whitespace or part of a word. -/
theorem mem_words {text : List Char} {character : Char} (member : character ∈ text) :
    Text.isSpace character = true ∨ ∃ word ∈ words text, character ∈ word := by
  have parts : Text.isSpace character = true ∨
      ∃ part ∈ text.splitOnP Text.isSpace, character ∈ part := by
    induction text with
    | nil => cases member
    | cons first rest ih =>
      rw [List.splitOnP_cons_eq_if_modifyHead]
      by_cases space : Text.isSpace first = true
      · rw [if_pos space]
        rcases List.mem_cons.mp member with rfl | later
        · exact .inl space
        · exact (ih later).imp id fun ⟨part, inside, holds⟩ =>
            ⟨part, List.mem_cons_of_mem _ inside, holds⟩
      · rw [if_neg space]
        cases split : rest.splitOnP Text.isSpace with
        | nil => exact absurd split (List.splitOnP_ne_nil _ _)
        | cons head tail =>
          rw [List.modifyHead_cons]
          rcases List.mem_cons.mp member with rfl | later
          · exact .inr ⟨_, List.mem_cons_self, List.mem_cons_self⟩
          · rcases ih later with space | ⟨part, inside, holds⟩
            · exact .inl space
            · rw [split] at inside
              rcases List.mem_cons.mp inside with rfl | behind
              · exact .inr ⟨_, List.mem_cons_self, List.mem_cons_of_mem _ holds⟩
              · exact .inr ⟨part, List.mem_cons_of_mem _ behind, holds⟩
  refine parts.imp id fun ⟨part, inside, holds⟩ => ⟨part, List.mem_filter.mpr ⟨inside, ?_⟩, holds⟩
  exact decide_eq_true (List.ne_nil_of_mem holds)

/-- Words have no whitespace. -/
theorem words_solid {text word : List Char} (member : word ∈ words text) :
    ∀ character ∈ word, Text.isSpace character = false := by
  have inside := (List.mem_filter.mp member).1
  clear member
  induction text generalizing word with
  | nil =>
    rw [List.splitOnP_nil] at inside
    rw [List.mem_singleton.mp inside]
    exact fun _ member => absurd member List.not_mem_nil
  | cons first rest ih =>
    rw [List.splitOnP_cons_eq_if_modifyHead] at inside
    by_cases space : Text.isSpace first = true
    · rw [if_pos space] at inside
      rcases List.mem_cons.mp inside with rfl | later
      · exact fun _ member => absurd member List.not_mem_nil
      · exact ih later
    · rw [if_neg space] at inside
      cases split : rest.splitOnP Text.isSpace with
      | nil => exact absurd split (List.splitOnP_ne_nil _ _)
      | cons head tail =>
        rw [split] at inside ih
        rw [List.modifyHead_cons] at inside
        rcases List.mem_cons.mp inside with rfl | later
        · intro character member
          rcases List.mem_cons.mp member with rfl | behind
          · exact Bool.eq_false_iff.mpr space
          · exact ih List.mem_cons_self character behind
        · exact ih (List.mem_cons_of_mem _ later)

/-- A text without whitespace is one word. -/
theorem words_single {word : List Char} (nonempty : word ≠ [])
    (solid : ∀ character ∈ word, Text.isSpace character = false) : words word = [word] := by
  unfold words
  rw [List.splitOnP_eq_singleton solid, List.filter_cons_of_pos (by simpa using nonempty),
    List.filter_nil]

/-- A word before a blank is the first word. -/
theorem words_cons {word : List Char} (rest : List Char) (nonempty : word ≠ [])
    (solid : ∀ character ∈ word, Text.isSpace character = false) :
    words (word ++ ' ' :: rest) = word :: words rest := by
  unfold words
  rw [List.splitOnP_append_cons_of_forall_mem solid ' ' (by decide),
    List.filter_cons_of_pos (by simpa using nonempty)]

/-- Whitespace in front adds no word. -/
theorem words_spaces_append {spaces : List Char} (text : List Char)
    (blank : ∀ character ∈ spaces, Text.isSpace character = true) :
    words (spaces ++ text) = words text := by
  induction spaces with
  | nil => rfl
  | cons first rest ih =>
    rw [← ih fun character member => blank character (List.mem_cons_of_mem _ member)]
    unfold words
    rw [List.cons_append, List.splitOnP_cons_eq_if_modifyHead, if_pos (blank first List.mem_cons_self)]
    rfl

/-- Whitespace behind adds no word. -/
theorem words_append_spaces {spaces : List Char} (text : List Char)
    (blank : ∀ character ∈ spaces, Text.isSpace character = true) :
    words (text ++ spaces) = words text := by
  induction spaces using List.reverseRecOn with
  | nil => rw [List.append_nil]
  | append_singleton rest last ih =>
    rw [← ih fun character member => blank character (List.mem_append_left _ member)]
    unfold words
    rw [← List.append_assoc, List.splitOnP_append_cons _ _ (blank last (by simp)),
      List.splitOnP_nil, List.filter_append]
    exact List.append_nil _

/-- Trimming keeps the words. -/
theorem words_strip (text : List Char) : words (Text.strip text) = words text := by
  have front : words (text.dropWhile Text.isSpace) = words text := by
    conv_rhs => rw [← List.takeWhile_append_dropWhile (p := Text.isSpace) (l := text)]
    exact (words_spaces_append _ fun character member => List.mem_takeWhile_imp member).symm
  have parts := List.takeWhile_append_dropWhile (p := Text.isSpace)
    (l := (text.dropWhile Text.isSpace).reverse)
  have split : text.dropWhile Text.isSpace = Text.strip text ++
      ((text.dropWhile Text.isSpace).reverse.takeWhile Text.isSpace).reverse := by
    unfold Text.strip
    rw [← List.reverse_append, parts, List.reverse_reverse]
  rw [← front]
  conv_rhs => rw [split]
  refine (words_append_spaces _ fun character member => ?_).symm
  exact List.mem_takeWhile_imp (List.mem_reverse.mp member)

/-- Trimming keeps a text that starts and ends with words. -/
theorem strip_between {first last : List Char} (middle : List Char) (nonempty : first ≠ [])
    (ends : last ≠ []) (solid : ∀ character ∈ first, Text.isSpace character = false)
    (closed : ∀ character ∈ last, Text.isSpace character = false) :
    Text.strip (first ++ (middle ++ last)) = first ++ (middle ++ last) := by
  have starts : ∀ (word rest : List Char), word ≠ [] →
      (∀ character ∈ word, Text.isSpace character = false) →
      (word ++ rest).dropWhile Text.isSpace = word ++ rest := by
    intro word rest some none
    obtain ⟨head, tail, rfl⟩ := List.exists_cons_of_ne_nil some
    rw [List.cons_append, List.dropWhile_cons_of_neg]
    rw [none head List.mem_cons_self]
    exact Bool.false_ne_true
  unfold Text.strip
  rw [starts first _ nonempty solid, List.reverse_append, List.reverse_append, List.append_assoc,
    starts last.reverse _ (by simpa using ends) (fun character member =>
      closed character (List.mem_reverse.mp member))]
  simp

end Texts

section Search

variable {isWord : Char → Bool}

/-- What is found is a whole word. -/
theorem searchWord_sound {word before rest : List Char} {parts : List Char × List Char}
    (found : searchWord isWord word before rest = some parts) :
    before.reverse ++ rest = parts.1 ++ (word ++ parts.2) ∧ WordBounded isWord parts.1 parts.2 := by
  induction rest generalizing before with
  | nil => cases found
  | cons first rest ih =>
    unfold searchWord at found
    split at found
    · next here =>
      cases found
      simp only [Bool.and_eq_true, Bool.not_eq_true'] at here
      obtain ⟨⟨starts, left⟩, right⟩ := here
      refine ⟨congrArg _ ?_, ⟨?_, right⟩⟩
      · obtain ⟨behind, same⟩ := List.isPrefixOf_iff_prefix.mp starts
        rw [← same, List.drop_left]
      · rw [List.getLast?_reverse]
        exact left
    · obtain ⟨same, bounded⟩ := ih found
      refine ⟨?_, bounded⟩
      rw [← same, List.reverse_cons, List.append_assoc]
      rfl

/-- A word is not found without its first letter. -/
theorem searchWord_absent {mark : Char} {word before rest : List Char}
    (absent : mark ∉ rest) : searchWord isWord (mark :: word) before rest = none := by
  induction rest generalizing before with
  | nil => rfl
  | cons first rest ih =>
    obtain ⟨differs, later⟩ := not_or.mp (mt List.mem_cons.mpr absent)
    unfold searchWord
    have away : (mark :: word).isPrefixOf (first :: rest) = false := by
      simp [List.isPrefixOf, differs]
    rw [away]
    exact ih later

/-- A whole word is found at the first occurrence of its first letter. -/
theorem searchWord_complete {mark : Char} {word before left right : List Char}
    (absent : mark ∉ left) (bounded : WordBounded isWord (before.reverse ++ left) right) :
    searchWord isWord (mark :: word) before (left ++ (mark :: word ++ right)) =
      some (before.reverse ++ left, right) := by
  induction left generalizing before with
  | nil =>
    have starts : (mark :: word).isPrefixOf (mark :: (word ++ right)) = true :=
      List.isPrefixOf_iff_prefix.mpr (List.prefix_append (mark :: word) right)
    have lastBefore := bounded.before
    rw [List.append_nil, List.getLast?_reverse] at lastBefore
    have rest : (mark :: (word ++ right)).drop (mark :: word).length = right := by
      rw [← List.cons_append]
      exact List.drop_left
    rw [List.nil_append, List.cons_append, List.append_nil]
    unfold searchWord
    rw [starts, lastBefore, rest, bounded.behind]
    rfl
  | cons first left ih =>
    obtain ⟨differs, later⟩ := not_or.mp (mt List.mem_cons.mpr absent)
    have away : (mark :: word).isPrefixOf (first :: (left ++ (mark :: word ++ right))) = false := by
      simp [List.isPrefixOf, differs]
    have same : before.reverse ++ first :: left = (first :: before).reverse ++ left := by
      rw [List.reverse_cons, List.append_assoc]
      rfl
    rw [same] at bounded ⊢
    rw [List.cons_append]
    unfold searchWord
    rw [away]
    exact ih later bounded

end Search

section Characters

/-- Characters of a finite decimal. -/
def IsNumberChar (character : Char) : Prop :=
  Text.isSpace character = true ∨ character ∈ ['_', '-', '+', '.', 'E', 'e'] ∨
    Text.isDigit character = true

/-- Exponents have characters of numbers. -/
theorem parseExponent_chars {text : List Char} {exponent : Int}
    (parsed : Decimal.parseExponent text = some exponent) {character : Char}
    (member : character ∈ text) : IsNumberChar character := by
  cases text with
  | nil => cases member
  | cons mark rest =>
    obtain ⟨letter, parsed⟩ := Option.ite_none_right_eq_some.mp parsed
    obtain ⟨⟨-, digits⟩, -⟩ := Option.ite_none_right_eq_some.mp parsed
    rcases List.mem_cons.mp member with rfl | later
    · rcases letter with rfl | rfl
      · exact .inr (.inl (by decide))
      · exact .inr (.inl (by decide))
    · cases rest with
      | nil => cases later
      | cons sign tail =>
        have all := List.all_eq_true.mp digits
        by_cases signed : sign = '-' ∨ sign = '+'
        · rcases List.mem_cons.mp later with rfl | behind
          · rcases signed with rfl | rfl
            · exact .inr (.inl (by decide))
            · exact .inr (.inl (by decide))
          · refine .inr (.inr (all character ?_))
            rcases signed with rfl | rfl <;> simpa using behind
        · obtain ⟨noMinus, noPlus⟩ := not_or.mp signed
          refine .inr (.inr (all character ?_))
          simpa [noMinus, noPlus] using later

/-- Magnitudes have characters of numbers. -/
theorem parseMagnitude_chars {negative : Bool} {text : List Char} {value : Decimal}
    (parsed : Decimal.parseMagnitude negative text = some value) {character : Char}
    (member : character ∈ text) : IsNumberChar character := by
  obtain ⟨-, parsed⟩ := Option.ite_none_left_eq_some.mp parsed
  obtain ⟨exponent, suffix, -⟩ := Option.map_eq_some_iff.mp parsed
  rw [← List.takeWhile_append_dropWhile (p := Text.isDigit) (l := text)] at member
  rcases List.mem_append.mp member with whole | rest
  · exact .inr (.inr (List.mem_takeWhile_imp whole))
  · by_cases pointed : ((text.dropWhile Text.isDigit).head? == some '.') = true
    · rw [if_pos pointed] at suffix
      cases tail : text.dropWhile Text.isDigit with
      | nil =>
        rw [tail] at rest
        cases rest
      | cons point behind =>
        rw [tail] at rest suffix pointed
        rcases List.mem_cons.mp rest with rfl | later
        · have same : character = '.' := by simpa using pointed
          exact .inr (.inl (by rw [same]; decide))
        · rw [← List.takeWhile_append_dropWhile (p := Text.isDigit) (l := behind)] at later
          rcases List.mem_append.mp later with fraction | last
          · exact .inr (.inr (List.mem_takeWhile_imp fraction))
          · exact parseExponent_chars suffix last
    · rw [if_neg pointed] at suffix
      exact parseExponent_chars suffix rest

/-- Finite decimals have characters of numbers. -/
theorem parse_finite_chars {text : List Char} {value : FiniteDecimal}
    (parsed : Decimal.parse text = some value.toDecimal) {character : Char}
    (member : character ∈ text) : IsNumberChar character := by
  have unsigned : ∀ (negative : Bool) (rest : List Char),
      Decimal.parseUnsigned negative rest = some value.toDecimal →
      ∀ other ∈ rest, IsNumberChar other := by
    intro negative rest read other inside
    unfold Decimal.parseUnsigned at read
    dsimp only at read
    split at read
    · cases read
    · split at read
      · cases read
      · split at read
        · cases read
        · exact parseMagnitude_chars read inside
  rcases mem_strip member with space | inside
  · exact .inl space
  · by_cases bar : character = '_'
    · exact .inr (.inl (by rw [bar]; decide))
    · have kept : character ∈ (Text.strip text).filter (· ≠ '_') :=
        List.mem_filter.mpr ⟨inside, by simpa using bar⟩
      unfold Decimal.parse at parsed
      split at parsed
      · next rest same =>
        rw [same] at kept
        rcases List.mem_cons.mp kept with rfl | later
        · exact .inr (.inl (by decide))
        · exact unsigned true rest parsed character later
      · next rest same =>
        rw [same] at kept
        rcases List.mem_cons.mp kept with rfl | later
        · exact .inr (.inl (by decide))
        · exact unsigned false rest parsed character later
      · exact unsigned false _ parsed character kept

end Characters

section Operands

/-- A lowercase letter is no digit, no underscore, no sign, no point and no mark. -/
theorem lower_letter {character : Char} (lower : character.isLower = true) :
    Text.isDigit character = false ∧ character ≠ '_' ∧ character ≠ '-' ∧ character ≠ '+' ∧
      character ≠ '.' ∧ character ≠ '#' := by
  have range : 97 ≤ character.toNat ∧ character.toNat ≤ 122 := by
    unfold Char.isLower at lower
    simp only [Bool.and_eq_true, decide_eq_true_eq] at lower
    exact ⟨UInt32.le_iff_toNat_le.mp lower.1, UInt32.le_iff_toNat_le.mp lower.2⟩
  have other : ∀ mark : Char, mark.toNat < 97 → character ≠ mark := by
    rintro mark small rfl
    omega
  refine ⟨?_, other '_' (by decide), other '-' (by decide), other '+' (by decide),
    other '.' (by decide), other '#' (by decide)⟩
  have basic : ¬character.isDigit = true := by
    intro digit
    have below : character.toNat ≤ 57 := (Char.isDigit_iff_toNat.mp digit).2
    omega
  have scripts : ∀ start ∈ Text.scriptZeros, 122 < start := by decide
  unfold Text.isDigit Text.digitValue
  rw [if_neg basic, Option.isSome_map, Option.isSome_eq_false_iff, Option.isNone_iff_eq_none,
    List.find?_eq_none]
  intro start member
  have above := scripts start member
  simp only [Bool.and_eq_true, decide_eq_true_eq]
  omega

/-- Characters of identifiers are no whitespace and are not changed in lowercase. -/
theorem identifier_char {character : Char} (allowed : isIdentifierV2Char character = true) :
    Text.isSpace character = false ∧ character.toLower = character := by
  unfold isIdentifierV2Char at allowed
  simp only [Bool.or_eq_true, beq_iff_eq] at allowed
  rcases allowed with (lower | digit) | rfl
  · have range : 97 ≤ character.toNat ∧ character.toNat ≤ 122 := by
      unfold Char.isLower at lower
      simp only [Bool.and_eq_true, decide_eq_true_eq] at lower
      exact ⟨UInt32.le_iff_toNat_le.mp lower.1, UInt32.le_iff_toNat_le.mp lower.2⟩
    have gap : ∀ code ∈ Text.spaces, code < 97 ∨ 122 < code := by decide
    constructor
    · rw [Text.isSpace, Bool.eq_false_iff]
      intro space
      have outside := gap _ (List.contains_iff_mem.mp space)
      omega
    · have upper : ¬(character.val ≥ 'A'.val ∧ character.val ≤ 'Z'.val) := by
        intro upper
        have below : character.toNat ≤ 90 := UInt32.le_iff_toNat_le.mp upper.2
        omega
      unfold Char.toLower
      rw [dif_neg upper]
  · exact ⟨(Decimal.printed_of_isDigit digit).1, Decimal.toLower_of_isDigit digit⟩
  · decide

/-- An identifier starts with a lowercase letter and has only characters of identifiers. -/
theorem identifier_chars {text : List Char} (named : isIdentifierV2 (String.ofList text) = true) :
    (∃ first rest, text = first :: rest ∧ first.isLower = true) ∧
      ∀ character ∈ text, isIdentifierV2Char character = true := by
  unfold isIdentifierV2 at named
  rw [String.toList_ofList] at named
  cases text with
  | nil => cases named
  | cons first rest =>
    simp only [Bool.and_eq_true] at named
    obtain ⟨⟨⟨lower, -⟩, -⟩, all⟩ := named
    refine ⟨⟨first, rest, rfl, lower⟩, fun character member => ?_⟩
    rcases List.mem_cons.mp member with rfl | later
    · unfold isIdentifierV2Char
      rw [lower]
      rfl
    · exact List.all_eq_true.mp all character later

/-- An identifier is read as a decimal exactly when it is a special name, and then as one that is
not finite. -/
theorem parse_identifier {text : List Char} (named : isIdentifierV2 (String.ofList text) = true) :
    (isSpecialName text = false → Decimal.parse text = none) ∧
      (isSpecialName text = true → ∃ value, Decimal.parse text = some value ∧
        ∀ finite : FiniteDecimal, value ≠ finite.toDecimal) := by
  obtain ⟨⟨first, rest, rfl, lower⟩, allowed⟩ := identifier_chars named
  obtain ⟨digit, bar, minus, plus, point, -⟩ := lower_letter lower
  have solid : Text.strip (first :: rest) = first :: rest :=
    Text.strip_eq_self _ fun character member => (identifier_char (allowed character member)).1
  have bare : (first :: rest).filter (· ≠ '_') = first :: rest.filter (· ≠ '_') :=
    List.filter_cons_of_pos (by simpa using bar)
  have lowered : ((first :: rest).filter (· ≠ '_')).map Char.toLower =
      (first :: rest).filter (· ≠ '_') := by
    refine (List.map_congr_left fun character member => ?_).trans (List.map_id _)
    exact (identifier_char (allowed character (List.mem_filter.mp member).1)).2
  have magnitude : Decimal.parseMagnitude false ((first :: rest).filter (· ≠ '_')) = none := by
    rw [bare]
    unfold Decimal.parseMagnitude
    simp [digit, point]
  have read : Decimal.parse (first :: rest) =
      Decimal.parseUnsigned false ((first :: rest).filter (· ≠ '_')) := by
    unfold Decimal.parse
    rw [solid, bare]
    split
    · next same => exact absurd (List.cons.inj same).1 minus
    · next same => exact absurd (List.cons.inj same).1 plus
    · rfl
  unfold isSpecialName
  dsimp only
  rw [read]
  unfold Decimal.parseUnsigned
  rw [lowered, magnitude]
  constructor
  · intro ordinary
    simp only [Bool.or_eq_false_iff, Bool.and_eq_false_iff, decide_eq_false_iff_not] at ordinary
    obtain ⟨⟨⟨inf, infinity⟩, nan⟩, snan⟩ := ordinary
    simp only [not_or.mpr ⟨inf, infinity⟩, if_false]
    rw [if_neg fun both => ?_, if_neg fun both => ?_]
    · rcases snan with name | digits
      · exact name both.1
      · rw [both.2] at digits
        cases digits
    · rcases nan with name | digits
      · exact name both.1
      · rw [both.2] at digits
        cases digits
  · intro special
    simp only [Bool.or_eq_true, Bool.and_eq_true, decide_eq_true_eq] at special
    dsimp only
    split
    · exact ⟨_, rfl, fun _ same => by cases same⟩
    · next finite =>
      split
      · exact ⟨_, rfl, fun _ same => by cases same⟩
      · next quiet =>
        split
        · exact ⟨_, rfl, fun _ same => by cases same⟩
        · next signaling =>
          rcases special with ((inf | infinity) | nan) | snan
          · exact absurd (.inl inf) finite
          · exact absurd (.inr infinity) finite
          · exact absurd nan quiet
          · exact absurd snan signaling

/-- A finite field holds a number exactly when it is finite. -/
theorem finiteField_eq_ok {number : Decimal} {value : FiniteDecimal} :
    finiteField number = .ok value ↔ number = value.toDecimal := by
  cases number with
  | finite negative coefficient exponent =>
    constructor
    · intro accepted
      cases accepted
      rfl
    · intro same
      cases same
      rfl
  | infinity negative => exact ⟨fun accepted => (by cases accepted), fun same => (by cases same)⟩
  | nan signaling => exact ⟨fun accepted => (by cases accepted), fun same => (by cases same)⟩

/-- Only finite decimals have no mark. -/
theorem parse_marked (text : List Char) (value : FiniteDecimal) :
    Decimal.parse ('#' :: text) ≠ some value.toDecimal := by
  intro parsed
  rcases parse_finite_chars parsed List.mem_cons_self with space | sign | digit
  · exact absurd space (by decide)
  · exact absurd sign (by decide)
  · exact absurd digit (by decide)

/-- An identifier that is no special name is no decimal. -/
theorem parse_plain {text : List Char} (named : isIdentifierV2 (String.ofList text) = true)
    (plain : PlainRefs (ExpressionV2.reference (String.ofList text)).refs) :
    Decimal.parse text = none := by
  have ordinary := plain (.node (String.ofList text)) (List.mem_singleton_self _)
  rw [ExpressionRef.id, String.toList_ofList] at ordinary
  exact (parse_identifier named).1 ordinary

/-- An identifier that is no decimal refers to no special name. -/
theorem plain_of_parse {text : List Char} (named : isIdentifierV2 (String.ofList text) = true)
    (unread : Decimal.parse text = none) :
    PlainRefs (ExpressionV2.reference (String.ofList text)).refs := by
  intro ref member
  rw [List.mem_singleton.mp member, ExpressionRef.id, String.toList_ofList]
  by_contra special
  obtain ⟨value, read, -⟩ := (parse_identifier named).2 (Bool.eq_true_of_not_eq_false special)
  rw [unread] at read
  cases read

/-- The operand parser accepts exactly the operands without special names. -/
theorem parseOperand_iff {token : List Char} {cell : String} {expression : ExpressionV2} :
    parseOperand token cell = .ok expression ↔
      OperandText (Text.strip token) expression ∧ PlainRefs expression.refs := by
  have literal : ∀ value : FiniteDecimal,
      PlainRefs (ExpressionV2.literal (.decimal value)).refs := fun _ _ member =>
    absurd member List.not_mem_nil
  unfold parseOperand
  dsimp only
  generalize Text.strip token = text
  by_cases empty : text = []
  · rw [if_pos empty, empty]
    constructor
    · exact fun accepted => by cases accepted
    · rintro ⟨read, -⟩
      cases read with
      | literal parsed => cases parsed
      | identifier named => cases named
  · rw [if_neg empty]
    by_cases mark : text.head? = some '#'
    · rw [if_pos mark]
      obtain ⟨rest, rfl⟩ : ∃ rest, text = '#' :: rest := by
        cases text with
        | nil => cases mark
        | cons first rest => exact ⟨rest, by rw [Option.some.inj mark]⟩
      have unnamed : isIdentifierV2 (String.ofList ('#' :: rest)) = false := by
        rw [Bool.eq_false_iff]
        intro named
        obtain ⟨⟨first, tail, same, lower⟩, -⟩ := identifier_chars named
        exact (lower_letter lower).2.2.2.2.2 (List.cons.inj same).1.symm
      rw [List.tail_cons, unnamed]
      constructor
      · intro accepted
        cases parsed : Decimal.parse rest with
        | none =>
          rw [parsed] at accepted
          cases accepted
        | some number =>
          rw [parsed] at accepted
          obtain ⟨value, finite, accepted⟩ := bind_eq_ok accepted
          cases accepted
          rw [finiteField_eq_ok.mp finite] at parsed
          exact ⟨.marked parsed, literal value⟩
      · rintro ⟨read, -⟩
        cases read with
        | literal parsed => exact absurd parsed (parse_marked _ _)
        | marked parsed =>
          rw [parsed]
          dsimp only
          rw [finiteField_eq_ok.mpr rfl]
          rfl
        | identifier named =>
          rw [unnamed] at named
          cases named
    · rw [if_neg mark]
      constructor
      · intro accepted
        cases parsed : Decimal.parse text with
        | none =>
          rw [parsed] at accepted
          dsimp only at accepted
          split at accepted
          · next named =>
            cases accepted
            exact ⟨.identifier named, plain_of_parse named parsed⟩
          · cases accepted
        | some number =>
          rw [parsed] at accepted
          obtain ⟨value, finite, accepted⟩ := bind_eq_ok accepted
          cases accepted
          rw [finiteField_eq_ok.mp finite] at parsed
          exact ⟨.literal parsed, literal value⟩
      · rintro ⟨read, plain⟩
        cases read with
        | literal parsed =>
          rw [parsed]
          dsimp only
          rw [finiteField_eq_ok.mpr rfl]
          rfl
        | marked parsed => exact absurd rfl mark
        | identifier named =>
          rw [parse_plain named plain]
          dsimp only
          rw [if_pos named]

end Operands

section Conditions

variable {letters : Letters}

/-- First letters of the logical operators. -/
def IsLogicalMark (mark : Char) : Prop := mark = 'A' ∨ mark = 'O'

/-- The first letter of an operator and the rest of it. -/
theorem logicalWord_cons (operator : LogicalOperator) :
    ∃ mark rest, logicalWord operator = mark :: rest ∧ IsLogicalMark mark := by
  cases operator with
  | and => exact ⟨'A', ['N', 'D'], rfl, .inl rfl⟩
  | or => exact ⟨'O', ['R'], rfl, .inr rfl⟩

/-- Numbers have no first letter of an operator. -/
theorem number_mark {mark : Char} (listed : IsLogicalMark mark) : ¬IsNumberChar mark := by
  obtain ⟨space, sign, digit⟩ : Text.isSpace mark = false ∧
      mark ∉ ['_', '-', '+', '.', 'E', 'e'] ∧ Text.isDigit mark = false := by
    rcases listed with rfl | rfl <;> decide
  rintro (isSpace | isSign | isDigit)
  · rw [space] at isSpace
    cases isSpace
  · exact sign isSign
  · rw [digit] at isDigit
    cases isDigit

/-- Operands have no first letter of an operator. -/
theorem operand_mark {text : List Char} {expression : ExpressionV2}
    (read : OperandText text expression) {mark : Char} (listed : IsLogicalMark mark) :
    mark ∉ text := by
  intro member
  cases read with
  | literal parsed => exact number_mark listed (parse_finite_chars parsed member)
  | marked parsed =>
    rcases List.mem_cons.mp member with rfl | later
    · rcases listed with same | same <;> exact absurd same (by decide)
    · exact number_mark listed (parse_finite_chars parsed later)
  | identifier named =>
    have allowed := (identifier_chars named).2 mark member
    rcases listed with rfl | rfl <;> exact absurd allowed (by decide)

/-- Names of comparisons have no first letter of a logical operator. -/
theorem comparison_mark {operator : List Char} {comparison : ComparisonOperator}
    (named : comparisonOperator (letters.upper (String.ofList operator)) = some comparison)
    {mark : Char} (listed : IsLogicalMark mark) : mark ∉ operator := by
  intro member
  have upper : mark ∈ (letters.upper (String.ofList operator)).toList := by
    obtain ⟨small, same⟩ : mark.toNat < 128 ∧ mark.toUpper = mark := by
      rcases listed with rfl | rfl <;> decide
    unfold Letters.upper
    rw [String.toList_ofList, String.toList_ofList]
    refine List.mem_flatMap.mpr ⟨mark, member, ?_⟩
    rw [letters.upper_ascii mark small, same]
    exact List.mem_singleton_self mark
  unfold comparisonOperator at named
  obtain ⟨before, after, split, -⟩ := List.lookup_eq_some_iff.mp named
  have name : letters.upper (String.ofList operator) ∈ ["EQ", "NE", "GT", "GTE", "LT", "LTE"] := by
    have inside := congrArg (List.map Prod.fst) split
    change ["EQ", "NE", "GT", "GTE", "LT", "LTE"] = _ at inside
    rw [inside, List.map_append]
    exact List.mem_append_right _ List.mem_cons_self
  have each : ∀ text ∈ ["EQ", "NE", "GT", "GTE", "LT", "LTE"],
      'A' ∉ text.toList ∧ 'O' ∉ text.toList := by decide
  obtain ⟨noAnd, noOr⟩ := each _ name
  rcases listed with rfl | rfl
  · exact noAnd upper
  · exact noOr upper

/-- Comparisons have no first letter of a logical operator. -/
theorem comparisonText_mark {text : List Char} {condition : ConditionV2}
    (read : ComparisonText letters text condition) {mark : Char} (listed : IsLogicalMark mark) :
    mark ∉ text := by
  intro member
  obtain ⟨three, named, leftText, rightText⟩ := read
  rcases mem_words member with space | ⟨word, inside, holds⟩
  · exact number_mark listed (.inl space)
  · rw [three] at inside
    rcases List.mem_cons.mp inside with rfl | inside
    · exact operand_mark leftText listed holds
    · rcases List.mem_cons.mp inside with rfl | inside
      · exact comparison_mark named listed holds
      · rw [List.mem_singleton.mp inside] at holds
        exact operand_mark rightText listed holds

/-- Trimming a comparison removes none of its letters. -/
theorem comparisonText_strip_mark {text : List Char} {condition : ConditionV2}
    (read : ComparisonText letters (Text.strip text) condition) {mark : Char}
    (listed : IsLogicalMark mark) : mark ∉ text := by
  intro member
  rcases mem_strip member with space | inside
  · exact number_mark listed (.inl space)
  · exact comparisonText_mark read listed inside

/-- The comparison parser accepts exactly the comparisons without special names. -/
theorem parseComparison_iff {text : List Char} {cell : String} {condition : ConditionV2} :
    parseComparison letters text cell = .ok condition ↔
      ComparisonText letters text condition ∧ PlainRefs condition.refs := by
  have word : ∀ part ∈ words text, Text.strip part = part := fun part member =>
    Text.strip_eq_self part (words_solid member)
  constructor
  · intro accepted
    unfold parseComparison at accepted
    split at accepted
    · next left operator right three =>
      rw [three] at word
      split at accepted
      · next comparison named =>
        obtain ⟨first, leftRead, accepted⟩ := bind_eq_ok accepted
        obtain ⟨second, rightRead, accepted⟩ := bind_eq_ok accepted
        cases accepted
        obtain ⟨leftText, leftPlain⟩ := parseOperand_iff.mp leftRead
        obtain ⟨rightText, rightPlain⟩ := parseOperand_iff.mp rightRead
        rw [word left (by simp)] at leftText
        rw [word right (by simp)] at rightText
        refine ⟨.words three named leftText rightText, fun ref member => ?_⟩
        rcases List.mem_append.mp member with one | other
        · exact leftPlain ref one
        · exact rightPlain ref other
      · cases accepted
    · cases accepted
  · rintro ⟨read, plain⟩
    cases read with
    | @words left operator right first second comparison three named leftText rightText =>
      rw [three] at word
      have leftRead : parseOperand left cell = .ok first := by
        refine parseOperand_iff.mpr ⟨?_, fun ref member => plain ref (List.mem_append_left _ member)⟩
        rw [word left (by simp)]
        exact leftText
      have rightRead : parseOperand right cell = .ok second := by
        refine parseOperand_iff.mpr
          ⟨?_, fun ref member => plain ref (List.mem_append_right _ member)⟩
        rw [word right (by simp)]
        exact rightText
      unfold parseComparison
      rw [three]
      dsimp only
      rw [named]
      dsimp only
      rw [leftRead, rightRead]
      rfl

/-- The condition parser accepts exactly the conditions without special names. -/
theorem parseCondition_iff {order : List LogicalOperator} (both : order.Perm [.and, .or])
    {token : List Char} {cell : String} {condition : ConditionV2} :
    parseCondition letters order token cell = .ok condition ↔
      ConditionText letters (Text.strip token) condition ∧ PlainRefs condition.refs := by
  unfold parseCondition
  dsimp only
  generalize Text.strip token = raw
  by_cases empty : raw = []
  · rw [if_pos empty, empty]
    constructor
    · exact fun accepted => by cases accepted
    · rintro ⟨read, -⟩
      generalize blank : ([] : List Char) = text at read
      cases read with
      | comparison single =>
        rw [← blank] at single
        cases single with
        | words three => cases three
      | @joined left right _ _ operator =>
        obtain ⟨mark, rest, word, -⟩ := logicalWord_cons operator
        rw [word] at blank
        simp at blank
  · rw [if_neg empty]
    constructor
    · intro accepted
      split at accepted
      · next operator parts found =>
        obtain ⟨other, -, searched⟩ := List.exists_of_findSome?_eq_some found
        obtain ⟨split, searched, same⟩ := Option.map_eq_some_iff.mp searched
        cases same
        obtain ⟨first, leftRead, accepted⟩ := bind_eq_ok accepted
        obtain ⟨second, rightRead, accepted⟩ := bind_eq_ok accepted
        cases accepted
        obtain ⟨leftText, leftPlain⟩ := parseComparison_iff.mp leftRead
        obtain ⟨rightText, rightPlain⟩ := parseComparison_iff.mp rightRead
        obtain ⟨same, bounded⟩ := searchWord_sound searched
        rw [List.reverse_nil, List.nil_append] at same
        rw [same]
        refine ⟨.joined bounded leftText rightText, fun ref member => ?_⟩
        rcases List.mem_append.mp member with one | later
        · exact leftPlain ref one
        · rcases List.mem_append.mp later with other | none
          · exact rightPlain ref other
          · exact absurd none List.not_mem_nil
      · obtain ⟨single, plain⟩ := parseComparison_iff.mp accepted
        exact ⟨.comparison single, plain⟩
    · rintro ⟨read, plain⟩
      cases read with
      | comparison single =>
        have absent : ∀ operator ∈ order,
            (searchWord letters.isWord (logicalWord operator) [] raw).map (Prod.mk operator) =
              none := by
          intro operator _
          obtain ⟨mark, rest, word, listed⟩ := logicalWord_cons operator
          rw [word, searchWord_absent (comparisonText_mark single listed), Option.map_none]
        rw [List.findSome?_eq_none_iff.mpr absent]
        exact parseComparison_iff.mpr ⟨single, plain⟩
      | @joined left right first second operator bounded leftText rightText =>
        have leftRead : parseComparison letters (Text.strip left) cell = .ok first :=
          parseComparison_iff.mpr
            ⟨leftText, fun ref member => plain ref (List.mem_append_left _ member)⟩
        have rightRead : parseComparison letters (Text.strip right) cell = .ok second :=
          parseComparison_iff.mpr ⟨rightText, fun ref member =>
            plain ref (List.mem_append_right _ (List.mem_append_left _ member))⟩
        -- The operator that joins is found at its place, and the other one nowhere.
        have found : order.findSome? (fun other =>
            (searchWord letters.isWord (logicalWord other) []
              (left ++ (logicalWord operator ++ right))).map (Prod.mk other)) =
            some (operator, left, right) := by
          have here : searchWord letters.isWord (logicalWord operator) []
              (left ++ (logicalWord operator ++ right)) = some (left, right) := by
            obtain ⟨mark, rest, word, listed⟩ := logicalWord_cons operator
            rw [word]
            exact searchWord_complete (comparisonText_strip_mark leftText listed) bounded
          have nowhere : ∀ other, other ≠ operator →
              searchWord letters.isWord (logicalWord other) []
                (left ++ (logicalWord operator ++ right)) = none := by
            intro other differs
            obtain ⟨mark, rest, word, listed⟩ := logicalWord_cons other
            have apart : mark ∉ logicalWord operator := by
              cases other <;> cases operator <;> cases word <;>
                first | exact absurd rfl differs | decide
            rw [word]
            refine searchWord_absent fun member => ?_
            rcases List.mem_append.mp member with inside | later
            · exact comparisonText_strip_mark leftText listed inside
            · rcases List.mem_append.mp later with inside | behind
              · exact apart inside
              · exact comparisonText_strip_mark rightText listed behind
          have member : operator ∈ order := both.mem_iff.mpr (by cases operator <;> decide)
          obtain ⟨before, after, rfl⟩ := List.append_of_mem member
          have distinct : (before ++ operator :: after).Nodup := both.nodup_iff.mpr (by decide)
          rw [List.findSome?_append, List.findSome?_eq_none_iff.mpr fun other inside => ?_,
            List.findSome?_cons, here]
          · rfl
          · rw [nowhere other fun same => ?_, Option.map_none]
            rw [same] at inside
            exact (List.nodup_append.mp distinct).2.2 operator inside operator
              List.mem_cons_self rfl
        rw [found]
        dsimp only
        unfold parseJoined
        dsimp only
        rw [leftRead, rightRead]
        rfl

end Conditions

section Printing

/-- Printed operand. -/
def printOperand : ExpressionV2 → List Char
  | .literal value => value.toValue.text
  | .reference ref => ref.toList
  | .negate _ | .binary .. | .nary .. | .conditional .. | .tableLookup _ | .round .. => []

/-- Name of a comparison. -/
def comparisonName : ComparisonOperator → List Char
  | .eq => "EQ".toList
  | .ne => "NE".toList
  | .gt => "GT".toList
  | .gte => "GTE".toList
  | .lt => "LT".toList
  | .lte => "LTE".toList

/-- Printed comparison. -/
def printComparison : ConditionV2 → List Char
  | .comparison left operator right =>
    printOperand left ++ ' ' :: (comparisonName operator ++ ' ' :: printOperand right)
  | .logical _ _ => []

/-- Printed condition. -/
def printCondition : ConditionV2 → List Char
  | .comparison left operator right => printComparison (.comparison left operator right)
  | .logical operator conditions =>
    ((conditions.map printComparison).intersperse (' ' :: (logicalWord operator ++ [' ']))).flatten

variable {letters : Letters}

/-- A printed operand is a word that reads as the operand. -/
theorem printOperand_text {text : List Char} {expression : ExpressionV2}
    (read : OperandText text expression) :
    OperandText (printOperand expression) expression ∧ printOperand expression ≠ [] ∧
      ∀ character ∈ printOperand expression, Text.isSpace character = false := by
  have decimal : ∀ value : FiniteDecimal, value.toDecimal.text ≠ [] ∧
      ∀ character ∈ value.toDecimal.text, Text.isSpace character = false := by
    intro value
    obtain ⟨printed, first, rest, found, -⟩ :=
      Decimal.magnitudeText_printed value.coefficient value.exponent
    have shape : value.toDecimal.text =
        (if value.negative then ['-'] else []) ++ (first :: rest) := by
      rw [← found]
      rfl
    rw [found] at printed
    rw [shape]
    refine ⟨List.append_ne_nil_of_right_ne_nil _ (List.cons_ne_nil _ _), fun character member => ?_⟩
    rcases List.mem_append.mp member with sign | later
    · split at sign
      · rw [List.mem_singleton.mp sign]
        decide
      · cases sign
    · exact (printed character later).1
  cases read with
  | @literal _ value parsed =>
    exact ⟨.literal (Decimal.parse_text value.toDecimal), decimal value⟩
  | @marked _ value parsed =>
    exact ⟨.literal (Decimal.parse_text value.toDecimal), decimal value⟩
  | identifier named =>
    obtain ⟨⟨first, rest, rfl, -⟩, allowed⟩ := identifier_chars named
    have shape : printOperand (.reference (String.ofList (first :: rest))) = first :: rest :=
      String.toList_ofList
    rw [shape]
    exact ⟨.identifier named, List.cons_ne_nil _ _, fun character member =>
      (identifier_char (allowed character member)).1⟩

/-- The name of a comparison is a word that is read as the comparison. -/
theorem comparisonName_read (letters : Letters) (operator : ComparisonOperator) :
    comparisonOperator (letters.upper (String.ofList (comparisonName operator))) = some operator ∧
      comparisonName operator ≠ [] ∧
      ∀ character ∈ comparisonName operator, Text.isSpace character = false := by
  have ascii : ∀ character ∈ comparisonName operator, character.toNat < 128 ∧
      character.toUpper = character ∧ Text.isSpace character = false := by
    have all : (comparisonName operator).all (fun character => decide (character.toNat < 128) &&
        (character.toUpper == character && !Text.isSpace character)) = true := by
      cases operator <;> decide
    intro character member
    simpa using List.all_eq_true.mp all character member
  have upper : letters.upper (String.ofList (comparisonName operator)) =
      String.ofList (comparisonName operator) := by
    unfold Letters.upper
    rw [String.toList_ofList]
    refine congrArg String.ofList ?_
    generalize comparisonName operator = name at ascii
    induction name with
    | nil => rfl
    | cons first rest ih =>
      obtain ⟨small, same, -⟩ := ascii first List.mem_cons_self
      rw [List.flatMap_cons, letters.upper_ascii first small, same,
        ih fun character member => ascii character (List.mem_cons_of_mem _ member)]
      rfl
  rw [upper]
  refine ⟨?_, ?_, fun character member => (ascii character member).2.2⟩
  · cases operator <;> decide
  · cases operator <;> exact List.cons_ne_nil _ _

/-- A printed comparison reads as the comparison, and it starts and ends with a word. -/
theorem printComparison_text {text : List Char} {condition : ConditionV2}
    (read : ComparisonText letters text condition) :
    ComparisonText letters (printComparison condition) condition ∧
      ∃ first middle last, printComparison condition = first ++ (middle ++ last) ∧
        (first ≠ [] ∧ ∀ character ∈ first, Text.isSpace character = false) ∧
        last ≠ [] ∧ ∀ character ∈ last, Text.isSpace character = false := by
  cases read with
  | @words left operator right first second comparison three named leftText rightText =>
    obtain ⟨leftRead, leftSome, leftSolid⟩ := printOperand_text leftText
    obtain ⟨rightRead, rightSome, rightSolid⟩ := printOperand_text rightText
    obtain ⟨nameRead, nameSome, nameSolid⟩ := comparisonName_read letters comparison
    refine ⟨.words ?_ nameRead leftRead rightRead, printOperand first,
      ' ' :: (comparisonName comparison ++ [' ']), printOperand second, ?_,
      ⟨leftSome, leftSolid⟩, rightSome, rightSolid⟩
    · unfold printComparison
      rw [words_cons _ leftSome leftSolid, words_cons _ nameSome nameSolid,
        words_single rightSome rightSolid]
    · unfold printComparison
      simp

/-- A comparison is decided by its words. -/
theorem ComparisonText.congr {text other : List Char} {condition : ConditionV2}
    (read : ComparisonText letters text condition) (same : RateGuard.words text = RateGuard.words other) :
    ComparisonText letters other condition := by
  cases read with
  | words three named leftText rightText =>
    exact .words (same.symm.trans three) named leftText rightText

/-- A comparison may be trimmed. -/
theorem ComparisonText.strip {text : List Char} {condition : ConditionV2}
    (read : ComparisonText letters text condition) :
    ComparisonText letters (Text.strip text) condition :=
  read.congr (words_strip text).symm

/-- A printed condition reads as the condition. -/
theorem printCondition_text {text : List Char} {condition : ConditionV2}
    (read : ConditionText letters text condition) :
    ConditionText letters (Text.strip (printCondition condition)) condition := by
  cases read with
  | comparison single =>
    have printed := (printComparison_text single).1.strip
    cases single with
    | words => exact .comparison printed
  | @joined left right first second operator bounded leftText rightText =>
    obtain ⟨leftRead, start, middle, last, leftParts, ⟨startSome, startSolid⟩, -⟩ :=
      printComparison_text leftText
    obtain ⟨rightRead, start', middle', last', rightParts, -, endSome, endSolid⟩ :=
      printComparison_text rightText
    have text : printCondition (.logical operator [first, second]) =
        (printComparison first ++ [' ']) ++
          (logicalWord operator ++ (' ' :: printComparison second)) := by
      simp [printCondition]
    have kept : Text.strip (printCondition (.logical operator [first, second])) =
        printCondition (.logical operator [first, second]) := by
      have parts : printCondition (.logical operator [first, second]) =
          start ++ ((middle ++ last ++ ' ' :: (logicalWord operator ++ ' ' :: (start' ++ middle'))) ++
            last') := by
        rw [text, leftParts, rightParts]
        simp
      rw [parts]
      exact strip_between _ startSome endSome startSolid endSolid
    have blank : letters.isWord ' ' = false := letters.word_ascii ' ' (by decide)
    have space : ∀ character ∈ [' '], Text.isSpace character = true := by
      intro character member
      rw [List.mem_singleton.mp member]
      decide
    rw [kept, text]
    refine .joined ⟨?_, ?_⟩ ?_ ?_
    · simp [blank]
    · simp [blank]
    · exact (leftRead.congr (words_append_spaces _ space).symm).strip
    · exact (rightRead.congr (words_spaces_append _ space).symm).strip

/-- Whether operands and conditions parse exactly from a text. -/
structure ParsesExactly (letters : Letters) (order : List LogicalOperator) (token : List Char) :
    Prop where
  /-- Operands. -/
  operand : ∀ cell expression, parseOperand token cell = .ok expression ↔
    OperandText (Text.strip token) expression
  /-- Conditions. -/
  condition : ∀ cell condition, parseCondition letters order token cell = .ok condition ↔
    ConditionText letters (Text.strip token) condition
  /-- Printed conditions. -/
  printed : ∀ cell condition, parseCondition letters order token cell = .ok condition →
    ∀ other, parseCondition letters order (printCondition condition) other = .ok condition

/-- Whether a text names no special decimal, neither as an operand nor as part of a condition. -/
structure NamesNoNumber (letters : Letters) (token : List Char) : Prop where
  /-- As an operand. -/
  operand : ∀ expression, OperandText (Text.strip token) expression → PlainRefs expression.refs
  /-- In a condition. -/
  condition : ∀ condition, ConditionText letters (Text.strip token) condition →
    PlainRefs condition.refs

/-- Operands and conditions parse exactly from the texts in which no identifier is, without
underscores, the name of an infinite or undefined decimal. -/
theorem parsesExactly_iff (letters : Letters) (order : List LogicalOperator)
    (both : order.Perm [.and, .or]) (token : List Char) :
    ParsesExactly letters order token ↔ NamesNoNumber letters token := by
  constructor
  · intro exact
    constructor
    · intro expression read
      exact (parseOperand_iff.mp ((exact.operand "" expression).mpr read)).2
    · intro condition read
      exact ((parseCondition_iff both).mp ((exact.condition "" condition).mpr read)).2
  · intro plain
    refine ⟨fun cell expression => ?_, fun cell condition => ?_, fun cell condition accepted other => ?_⟩
    · rw [parseOperand_iff]
      exact and_iff_left_of_imp (plain.operand expression)
    · rw [parseCondition_iff both]
      exact and_iff_left_of_imp (plain.condition condition)
    · obtain ⟨read, refs⟩ := (parseCondition_iff both).mp accepted
      exact (parseCondition_iff both).mpr ⟨printCondition_text read, refs⟩

end Printing

/-- Letter tables of ASCII. -/
def asciiLetters : Letters where
  lower := fun text => String.ofList (text.toList.map Char.toLower)
  upperChar := fun character => [character.toUpper]
  isUpper := fun text => text.toList.any Char.isUpper && !text.toList.any Char.isLower
  isWord := fun character => character.isAlphanum || character == '_'
  upper_ascii := fun _ _ => rfl
  word_ascii := fun _ _ => rfl

/-- The text of a comparison of a roof age. -/
theorem parsesExactly_roof_age :
    ParsesExactly asciiLetters [.or, .and] "roof_age GTE 21".toList ↔
      NamesNoNumber asciiLetters "roof_age GTE 21".toList :=
  parsesExactly_iff asciiLetters [.or, .and] (by decide) "roof_age GTE 21".toList

/-- Texts do not always parse exactly: an identifier is read as an infinite decimal, which no
literal accepts. -/
theorem parsesExactly_not_always :
    ¬∀ (letters : Letters) (order : List LogicalOperator) (token : List Char),
      order.Perm [.and, .or] → ParsesExactly letters order token := by
  intro always
  have exact := always asciiLetters [.or, .and] "inf".toList (by decide)
  have read : OperandText (Text.strip "inf".toList) (.reference (String.ofList "inf".toList)) :=
    .identifier (by decide +kernel)
  have accepted := (exact.operand "" _).mpr read
  have fails : (parseOperand "inf".toList "").isOk = false := by decide +kernel
  rw [accepted] at fails
  cases fails

end RateGuard
