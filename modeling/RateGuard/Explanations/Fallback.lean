import RateGuard.Explanations.Draft

/-!
# The deterministic fallback

The fallback text puts values of the facts, the label and the currency between fixed words. Spaces
and brackets keep the parts apart: tokens are found part by part, and so are phrases. The values are
tokens of the facts and a label without digits has none, so the text is valid when the currency is.
-/

open DecimalFloat CalendarDate Scanning

namespace RateGuard

/-- Whether all tokens of a text are values of the facts. -/
def TokensAllowed (facts : ExplanationFacts) (text : List Char) : Prop :=
  ∀ token ∈ extractValueTokens text, token ∈ facts.allowedValueTokens

instance (facts : ExplanationFacts) (text : List Char) : Decidable (TokensAllowed facts text) :=
  inferInstanceAs (Decidable (∀ _ ∈ _, _))

/-- Whether no prohibited phrase occurs in a text. -/
def NoPhrase (lowering : Lowering) (text : List Char) : Prop :=
  ∀ phrase ∈ prohibitedPhrases, ¬phrase <:+: lowering.lower text

/-- Tokens are found part by part around a character that separates figures. -/
theorem tokensAllowed_append {facts : ExplanationFacts} {character : Char} (front back : List Char)
    (separates : figureChar character = false) :
    TokensAllowed facts (front ++ character :: back) ↔
      TokensAllowed facts front ∧ TokensAllowed facts back := by
  have amounts := amountPattern.findAll_append back (amount_apart character (by simp [separates]))
    front
  have dates := datePattern.findAll_append back (date_apart character (by simp [separates])) front
  unfold TokensAllowed extractValueTokens
  rw [amounts, dates]
  simp only [List.map_append, List.mem_append]
  constructor
  · intro all
    exact ⟨fun token member => all token (member.imp .inl .inl),
      fun token member => all token (member.imp .inr .inr)⟩
  · rintro ⟨left, right⟩ token ((one | two) | (three | four))
    · exact left token (.inl one)
    · exact right token (.inl two)
    · exact left token (.inr three)
    · exact right token (.inr four)

/-- Tokens have digits. -/
theorem tokensAllowed_of_no_digit {facts : ExplanationFacts} {text : List Char}
    (plain : text.any Text.isDigit = false) : TokensAllowed facts text := by
  have none : ∀ character ∈ text, ¬Text.isDigit character = true := by simpa using plain
  have amounts : amountPattern.findAll text = [] := by
    refine List.eq_nil_iff_forall_not_mem.mpr fun token found => ?_
    obtain ⟨⟨sign, currency, first, whole, tenth, hundredth, rfl, -, -, digit, -⟩, part⟩ :=
      amountPattern.findAll_token found
    exact none first (part.subset (by simp)) digit
  have dates : datePattern.findAll text = [] := by
    refine List.eq_nil_iff_forall_not_mem.mpr fun token found => ?_
    obtain ⟨⟨a, b, c, d, e, f, g, h, rfl, digits⟩, part⟩ := datePattern.findAll_token found
    exact none a (part.subset List.mem_cons_self) (List.all_eq_true.mp digits a List.mem_cons_self)
  intro token member
  rw [extractValueTokens, amounts, dates] at member
  cases member

/-- An amount that is printed plainly: digits, a point and at most one sign. -/
structure PrintedAmount (text : List Char) : Prop where
  /-- The text has the form of an amount. -/
  token : AmountToken text
  /-- Its characters are basic digits, signs and points. -/
  plain : ∀ character ∈ text, character.isDigit = true ∨ character = '-' ∨ character = '.'
  /-- It has at most one sign. -/
  signs : text.count '-' ≤ 1

/-- Whether a text is one of a premium in cents, which may be undefined. -/
def CentsText (text : List Char) : Prop := text = "NaN".toList ∨ PrintedAmount text

/-- The digits of a magnitude in cents. -/
theorem magnitudeText_cents (coefficient : Nat) : ∃ first whole tenth hundredth,
    Decimal.magnitudeText coefficient (-2) = first :: (whole ++ ['.', tenth, hundredth]) ∧
      ∀ character ∈ first :: (whole ++ [tenth, hundredth]), character.isDigit = true := by
  have basic : ∀ c ∈ Text.digitsOf coefficient, c.isDigit := fun _ member =>
    Text.digitsOf_basic member
  have some : Text.digitsOf coefficient ≠ [] := Nat.toDigits_ne_nil
  unfold Decimal.magnitudeText
  generalize Text.digitsOf coefficient = digits at basic some
  have positive := List.length_pos_iff.mpr some
  have places : Decimal.pointPlaces digits.length (-2) = -2 + digits.length :=
    if_pos ⟨by decide, by omega⟩
  have exponent : Decimal.exponentText (-2 + digits.length - (-2 + digits.length)) = [] :=
    if_pos (by omega)
  rw [places, exponent, List.append_nil]
  match digits, basic with
  | [hundredth], basic =>
    refine ⟨'0', [], '0', hundredth, rfl, ?_⟩
    simpa using basic
  | [tenth, hundredth], basic =>
    refine ⟨'0', [], tenth, hundredth, rfl, ?_⟩
    simpa using basic
  | a :: b :: c :: rest, basic =>
    have length : ((a :: b :: c :: rest).drop (rest.length + 1)).length = 2 := by
      rw [List.length_drop]
      simp only [List.length_cons]
      omega
    obtain ⟨tenth, hundredth, last⟩ := List.length_eq_two.mp length
    have parts := List.take_append_drop (rest.length + 1) (a :: b :: c :: rest)
    refine ⟨a, (b :: c :: rest).take rest.length, tenth, hundredth, ?_, ?_⟩
    · have large : ¬(-2 + ((a :: b :: c :: rest).length : Int) ≤ 0) := by
        simp only [List.length_cons]
        omega
      have inside : ¬(((a :: b :: c :: rest).length : Int) ≤ -2 + (a :: b :: c :: rest).length) := by
        omega
      have count : (-2 + ((a :: b :: c :: rest).length : Int)).toNat = rest.length + 1 := by
        simp only [List.length_cons]
        omega
      rw [Decimal.pointed, if_neg large, if_neg inside, count, last]
      rfl
    · intro character member
      refine basic character ?_
      rw [last] at parts
      rw [← parts]
      exact member
/-- A sign and digits with two places are a printed amount. -/
theorem printedAmount_of_digits {sign whole : List Char} {first tenth hundredth : Char}
    (signs : sign = [] ∨ sign = ['-'])
    (digits : ∀ character ∈ first :: (whole ++ [tenth, hundredth]), character.isDigit = true) :
    PrintedAmount (sign ++ first :: (whole ++ ['.', tenth, hundredth])) := by
  have digit : ∀ character ∈ first :: (whole ++ [tenth, hundredth]),
      Text.isDigit character = true := fun character member =>
    Text.isDigit_of_basic (digits character member)
  have parts : ∀ character ∈ first :: (whole ++ ['.', tenth, hundredth]),
      character = '.' ∨ character ∈ first :: (whole ++ [tenth, hundredth]) := by
    intro character member
    simp only [List.mem_cons, List.mem_append, List.not_mem_nil, or_false] at member ⊢
    tauto
  refine ⟨⟨sign, [], first, whole, tenth, hundredth, rfl, signs, .inl rfl, digit _ (by simp),
    fun character member => ?_, digit _ (by simp), digit _ (by simp)⟩, ?_, ?_⟩
  · rw [grouped, digit character (by simp [member]), Bool.true_or]
  · intro character member
    rcases List.mem_append.mp member with front | behind
    · rcases signs with rfl | rfl
      · cases front
      · exact .inr (.inl (List.mem_singleton.mp front))
    · exact (parts character behind).elim (fun point => .inr (.inr point))
        fun inside => .inl (digits character inside)
  · have behind : (first :: (whole ++ ['.', tenth, hundredth])).count '-' = 0 := by
      refine List.count_eq_zero.mpr fun member => ?_
      rcases parts '-' member with point | inside
      · exact absurd point (by decide)
      · exact absurd (digits '-' inside) (by decide)
    have front : sign.count '-' ≤ 1 := by
      rcases signs with rfl | rfl <;> decide
    rw [List.count_append, behind]
    exact front

/-- Premiums in cents are printed with two places. -/
theorem inCents_text {amount result : Decimal} (found : inCents amount = .ok result) :
    CentsText result.text := by
  rcases quantize_exponent found with rfl | ⟨negative, coefficient, rfl⟩
  · exact .inl rfl
  · obtain ⟨first, whole, tenth, hundredth, shape, digits⟩ := magnitudeText_cents coefficient
    rw [Decimal.text, shape]
    refine .inr (printedAmount_of_digits ?_ digits)
    cases negative
    · exact .inl rfl
    · exact .inr rfl

/-- A printed amount is its own normal form. -/
theorem PrintedAmount.plainAmount {text : List Char} (printed : PrintedAmount text) :
    plainAmount text = text := by
  have kept : ∀ mark : Char, mark.isDigit = false → mark ≠ '-' → mark ≠ '.' →
      ∀ character ∈ text, (character != mark) = true := by
    intro mark none noMinus noPoint character member
    rw [bne_iff_ne]
    rintro rfl
    rcases printed.plain character member with digit | minus | point
    · rw [none] at digit
      cases digit
    · exact noMinus minus
    · exact noPoint point
  rw [RateGuard.plainAmount,
    List.filter_eq_self.mpr (kept '$' (by decide) (by decide) (by decide)),
    List.filter_eq_self.mpr (kept ',' (by decide) (by decide) (by decide))]

/-- Dates have two dashes. -/
theorem dateToken_count {token : List Char} (date : DateToken token) : 2 ≤ token.count '-' := by
  obtain ⟨a, b, c, d, e, f, g, h, rfl, -⟩ := date
  have parts : [a, b, c, d, '-', e, f, '-', g, h] = [a, b, c, d] ++ '-' :: ([e, f] ++ '-' :: [g, h]) :=
    rfl
  rw [parts, List.count_append, List.count_cons_self, List.count_append, List.count_cons_self]
  omega

/-- The only token of a printed premium is the premium. -/
theorem centsText_tokens {text : List Char} (shape : CentsText text) :
    ∀ token ∈ extractValueTokens text, token = text := by
  rcases shape with rfl | printed
  · have none : extractValueTokens "NaN".toList = [] := by decide
    rw [none]
    exact fun token member => by cases member
  · have dates : datePattern.findAll text = [] := by
      refine List.eq_nil_iff_forall_not_mem.mpr fun token found => ?_
      obtain ⟨date, part⟩ := datePattern.findAll_token found
      have two := dateToken_count date
      have few := part.sublist.count_le '-'
      have one := printed.signs
      omega
    intro token member
    rw [extractValueTokens, amountPattern.findAll_whole printed.token, dates, List.append_nil,
      List.map_singleton, printed.plainAmount] at member
    exact List.mem_singleton.mp member

/-- The text of a date is one. -/
theorem dateToken_isoformat (date : Date) : DateToken date.isoformat := by
  obtain ⟨year, month, day, yearValid, dayValid⟩ := date
  have months := month_le_of_day dayValid
  have days := daysInMonth_le year month
  have yearLength := padded_length 4 year (by omega) (by decide)
  obtain ⟨m, n, monthDigits⟩ :=
    List.length_eq_two.mp (padded_length 2 month (by omega) (by decide))
  obtain ⟨d, e, dayDigits⟩ := List.length_eq_two.mp (padded_length 2 day (by omega) (by decide))
  match yearDigits : padded 4 year, yearLength with
  | [a, b, c, f], _ =>
    refine ⟨a, b, c, f, m, n, d, e, ?_, ?_⟩
    · rw [Date.isoformat, yearDigits, monthDigits, dayDigits]
      rfl
    · rw [List.all_eq_true]
      intro character member
      have inside : character ∈ padded 4 year ++ (padded 2 month ++ padded 2 day) := by
        rw [yearDigits, monthDigits, dayDigits]
        exact member
      refine Text.isDigit_of_basic ?_
      rcases List.mem_append.mp inside with first | rest
      · exact padded_basic first
      · exact (List.mem_append.mp rest).elim padded_basic padded_basic

/-- The only token of a printed date before a comma is the date. -/
theorem isoformat_tokens (date : Date) :
    ∀ token ∈ extractValueTokens (date.isoformat ++ [',']), token = date.isoformat := by
  have isToken := dateToken_isoformat date
  have needs : ∀ {token}, amountPattern.Token token → '.' ∈ token := by
    rintro token ⟨sign, currency, first, whole, tenth, hundredth, rfl, -⟩
    simp
  have lacks : '.' ∉ date.isoformat ++ [','] := by
    intro member
    rcases List.mem_append.mp member with inside | comma
    · exact absurd (datePattern.joined isToken '.' inside) (by decide)
    · exact absurd comma (by decide)
  intro token member
  rw [extractValueTokens, amountPattern.findAll_eq_nil needs lacks, datePattern.findAll_append [] (by decide),
    datePattern.findAll_whole isToken] at member
  exact List.mem_singleton.mp member

/-- The two small forms of sigma as one. -/
def unifySigma (character : Char) : Char := if character = 'ς' then 'σ' else character

/-- Lowercase text with one small form of sigma, character by character. -/
def Lowering.folded (lowering : Lowering) (text : List Char) : List Char :=
  text.flatMap fun character =>
    if character = 'Σ' then ['σ'] else (lowering.lowerChar character).map unifySigma

/-- Folded text is lowercase text with one form of sigma. -/
theorem lowerBehind_folded (lowering : Lowering) (before text : List Char) :
    (lowering.lowerBehind before text).map unifySigma = lowering.folded text := by
  induction text generalizing before with
  | nil => rfl
  | cons first rest ih =>
    have parts : lowering.folded (first :: rest) =
        (if first = 'Σ' then ['σ'] else (lowering.lowerChar first).map unifySigma) ++
          lowering.folded rest := List.flatMap_cons
    rw [Lowering.lowerBehind, List.map_append, ih, parts]
    congr 1
    by_cases sigma : first = 'Σ'
    · rw [if_pos sigma, if_pos sigma]
      split <;> decide
    · rw [if_neg sigma, if_neg sigma]

/-- The phrases have no sigma, are not empty and neither begin nor end with a space. -/
theorem prohibited_shape : ∀ phrase ∈ prohibitedPhrases, ('σ' ∉ phrase ∧ 'ς' ∉ phrase) ∧
    phrase ≠ [] ∧ phrase.head? ≠ some ' ' ∧ phrase.getLast? ≠ some ' ' := by decide

section Phrases

variable {lowering : Lowering}

/-- Phrases occur in a text as in the folded one. -/
theorem noPhrase_iff {text : List Char} : NoPhrase lowering text ↔
    ∀ phrase ∈ prohibitedPhrases, ¬phrase <:+: lowering.folded text := by
  refine forall₂_congr fun phrase known => not_congr ?_
  obtain ⟨⟨noSmall, noFinal⟩, -⟩ := prohibited_shape phrase known
  rw [← lowerBehind_folded lowering [] text]
  refine (infix_map_iff (fun character member => ?_) fun character member => ?_).symm
  · refine if_neg ?_
    rintro rfl
    exact noFinal member
  · by_cases final : character = 'ς'
    · rw [unifySigma, if_pos final] at member
      exact absurd member noSmall
    · exact if_neg final

/-- Folding is done part by part. -/
theorem folded_append (front back : List Char) :
    lowering.folded (front ++ back) = lowering.folded front ++ lowering.folded back :=
  List.flatMap_append

/-- A basic character is folded to its lowercase. -/
theorem folded_basic {character : Char} (basic : character.toNat < 128) (rest : List Char) :
    lowering.folded (character :: rest) = character.toLower :: lowering.folded rest := by
  have noSigma : character ≠ 'Σ' := by
    rintro rfl
    exact absurd basic (by decide)
  have noFinal : character.toLower ≠ 'ς' := by
    have all : ∀ code < 128, (Char.ofNat code).toLower ≠ 'ς' := by decide
    have own := all character.toNat basic
    rwa [Char.ofNat_toNat] at own
  rw [Lowering.folded, List.flatMap_cons, if_neg noSigma, lowering.lower_ascii character basic,
    List.map_singleton, unifySigma, if_neg noFinal]
  rfl

/-- Basic text is folded to its lowercase. -/
theorem folded_text {text : List Char} (basic : ∀ character ∈ text, character.toNat < 128) :
    lowering.folded text = text.map Char.toLower := by
  induction text with
  | nil => rfl
  | cons first rest ih =>
    rw [folded_basic (basic first List.mem_cons_self), List.map_cons,
      ih fun character member => basic character (List.mem_cons_of_mem _ member)]

/-- Whether a character stays as it is and is in no phrase. -/
def Breaker (character : Char) : Prop :=
  character.toNat < 128 ∧ character.toLower = character ∧
    ∀ phrase ∈ prohibitedPhrases, character ∉ phrase

instance (character : Char) : Decidable (Breaker character) :=
  inferInstanceAs (Decidable (_ ∧ _ ∧ _))

/-- Basic digits are breakers. -/
theorem breaker_of_isDigit {character : Char} (digit : character.isDigit = true) :
    Breaker character := by
  have all : ∀ code < 58, 48 ≤ code → Breaker (Char.ofNat code) := by decide
  have bounds : 48 ≤ character.toNat ∧ character.toNat ≤ 57 := Char.isDigit_iff_toNat.mp digit
  have own := all character.toNat (by omega) (by omega)
  rwa [Char.ofNat_toNat] at own

/-- Phrases occur part by part around a breaker. -/
theorem noPhrase_breaker {breaker : Char} (breaks : Breaker breaker) (front back : List Char) :
    NoPhrase lowering (front ++ breaker :: back) ↔
      NoPhrase lowering front ∧ NoPhrase lowering back := by
  obtain ⟨basic, lower, absent⟩ := breaks
  simp only [noPhrase_iff, ← forall₂_and]
  refine forall₂_congr fun phrase known => ?_
  rw [folded_append, folded_basic basic, lower,
    infix_append_breaker _ _ (absent phrase known), not_or]

/-- No phrase occurs in an empty text. -/
theorem noPhrase_nil : NoPhrase lowering [] := by
  refine noPhrase_iff.mpr fun phrase known inside => ?_
  exact (prohibited_shape phrase known).2.1 (List.infix_nil.mp inside)

/-- Phrases occur part by part around a text of breakers. -/
theorem noPhrase_breakers {text : List Char} (breaks : ∀ character ∈ text, Breaker character)
    (some : text ≠ []) (front back : List Char) :
    NoPhrase lowering (front ++ (text ++ back)) ↔
      NoPhrase lowering front ∧ NoPhrase lowering back := by
  induction text generalizing front with
  | nil => exact absurd rfl some
  | cons first rest ih =>
    rw [List.cons_append, noPhrase_breaker (breaks first List.mem_cons_self)]
    cases rest with
    | nil => rw [List.nil_append]
    | cons second more =>
      have later := ih (fun character member => breaks character (List.mem_cons_of_mem _ member))
        (List.cons_ne_nil _ _) []
      rw [List.nil_append] at later
      rw [later]
      exact and_congr_right fun _ => and_iff_right noPhrase_nil

/-- Basic text without phrases. -/
theorem noPhrase_basic {text : List Char} (basic : text.all (·.toNat < 128) = true)
    (silent : ∀ phrase ∈ prohibitedPhrases, ¬phrase <:+: text.map Char.toLower) :
    NoPhrase lowering text := by
  have codes : ∀ character ∈ text, character.toNat < 128 := by simpa using basic
  rw [noPhrase_iff, folded_text codes]
  exact silent

/-- A space before a text completes no phrase. -/
theorem noPhrase_space_cons (text : List Char) :
    NoPhrase lowering (' ' :: text) ↔ NoPhrase lowering text := by
  simp only [noPhrase_iff]
  refine forall₂_congr fun phrase known => not_congr ?_
  obtain ⟨-, some, head, -⟩ := prohibited_shape phrase known
  rw [folded_basic (by decide)]
  exact infix_cons_of_head _ some head

/-- A space behind a text completes no phrase. -/
theorem noPhrase_concat_space (text : List Char) :
    NoPhrase lowering (text ++ [' ']) ↔ NoPhrase lowering text := by
  simp only [noPhrase_iff]
  refine forall₂_congr fun phrase known => not_congr ?_
  obtain ⟨-, some, -, last⟩ := prohibited_shape phrase known
  rw [folded_append, folded_basic (by decide)]
  exact infix_concat_of_getLast _ some last

/-- Phrases occur part by part between two characters that are adjacent in none. -/
theorem noPhrase_pair {left right : Char} (leftBasic : left.toNat < 128)
    (rightBasic : right.toNat < 128)
    (apart : ∀ phrase ∈ prohibitedPhrases, ¬[left.toLower, right.toLower] <:+: phrase)
    (front back : List Char) :
    NoPhrase lowering (front ++ left :: right :: back) ↔
      NoPhrase lowering (front ++ [left]) ∧ NoPhrase lowering (right :: back) := by
  simp only [noPhrase_iff, ← forall₂_and]
  refine forall₂_congr fun phrase known => ?_
  rw [folded_append, folded_append, folded_basic leftBasic, folded_basic leftBasic,
    folded_basic rightBasic, List.append_cons (lowering.folded front),
    infix_append_apart _ _ (apart phrase known), not_or]
  rfl

/-- Phrases occur part by part around an undefined premium behind a mark. -/
theorem noPhrase_undefined {mark : Char} (basic : mark.toNat < 128)
    (apart : ∀ phrase ∈ prohibitedPhrases, ¬[mark.toLower, 'n'] <:+: phrase)
    (front back : List Char) :
    NoPhrase lowering (front ++ mark :: ("NaN".toList ++ ' ' :: back)) ↔
      NoPhrase lowering (front ++ [mark]) ∧ NoPhrase lowering back := by
  have silent : NoPhrase lowering "NaN".toList :=
    noPhrase_basic (by decide) (by decide +kernel)
  have behind : NoPhrase lowering ("NaN".toList ++ ' ' :: back) ↔ NoPhrase lowering back := by
    have parts : NoPhrase lowering (['N', 'a'] ++ 'N' :: ' ' :: back) ↔
        NoPhrase lowering (['N', 'a'] ++ ['N']) ∧ NoPhrase lowering (' ' :: back) :=
      noPhrase_pair (by decide) (by decide) (by decide) _ _
    rw [noPhrase_space_cons] at parts
    exact parts.trans (and_iff_right silent)
  rw [← behind]
  exact noPhrase_pair basic (by decide : 'N'.toNat < 128) apart front ('a' :: 'N' :: ' ' :: back)

/-- Phrases occur part by part around a premium in cents behind a space or a bracket. -/
theorem noPhrase_premium {text : List Char} (shape : CentsText text) {mark : Char}
    (known : mark = ' ' ∨ mark = '(') (front back : List Char) :
    NoPhrase lowering (front ++ mark :: (text ++ ' ' :: back)) ↔
      NoPhrase lowering front ∧ NoPhrase lowering back := by
  have marked : NoPhrase lowering (front ++ [mark]) ↔ NoPhrase lowering front := by
    rcases known with rfl | rfl
    · exact noPhrase_concat_space front
    · exact (noPhrase_breaker (by decide) front []).trans (and_iff_left noPhrase_nil)
  rcases shape with rfl | printed
  · rw [← marked]
    rcases known with rfl | rfl
    · exact noPhrase_undefined (by decide) (by decide) front back
    · exact noPhrase_undefined (by decide) (by decide) front back
  · have breaks : ∀ character ∈ text, Breaker character := by
      intro character member
      rcases printed.plain character member with digit | rfl | rfl
      · exact breaker_of_isDigit digit
      · decide
      · decide
    have some : text ≠ [] := amountPattern.ne_nil printed.token
    rw [← noPhrase_space_cons back, List.append_cons, noPhrase_breakers breaks some, marked]

end Phrases

/-- Parts of the fallback text of facts with one factor. -/
theorem fallback_text {facts : ExplanationFacts} {label : List Char}
    (factor : facts.approvedFactors = [⟨label, facts.netChange⟩]) :
    (deterministicFallbackDraft facts).draftText =
      "For authorized review--not sent. Effective".toList ++ ' ' ::
      (facts.effectiveDate.isoformat ++ ',' :: ' ' :: ("the premium changed from".toList ++ ' ' ::
      (facts.priorPremium ++ ' ' :: (facts.currency ++ ' ' :: ("to".toList ++ ' ' ::
      (facts.newPremium ++ ' ' :: (facts.currency ++ ' ' :: '(' :: ("net change".toList ++ ' ' ::
      (facts.netChange ++ ' ' :: (facts.currency ++ ')' :: (". Contributing factor(s):".toList ++
      ' ' :: (label ++ ' ' :: '(' :: (facts.netChange ++ ' ' ::
      (facts.currency ++ ')' :: ['.'])))))))))))))) := by
  have lines : "; ".toList.intercalate [label ++ (" (".toList ++ (facts.netChange ++ ' ' ::
      (facts.currency ++ [')'])))] = label ++ ' ' :: '(' :: (facts.netChange ++ ' ' ::
      (facts.currency ++ [')'])) := List.intercalate_singleton
  unfold deterministicFallbackDraft
  rw [factor]
  dsimp only
  rw [List.map_singleton, lines]
  simp

/-- Facts of one change: its premiums are printed in cents, and the change is its only factor. -/
theorem buildExplanationFacts_shape {caseId label currency : List Char} {prior new : Decimal}
    {date : Date} {facts : ExplanationFacts}
    (built : buildExplanationFacts caseId prior new label date currency = .ok facts) :
    facts.currency = currency ∧ facts.approvedFactors = [⟨label, facts.netChange⟩] ∧
      CentsText facts.priorPremium ∧ CentsText facts.newPremium ∧ CentsText facts.netChange := by
  unfold buildExplanationFacts at built
  obtain ⟨change, -, built⟩ := Outcome.bind_eq_ok built
  obtain ⟨before, one, built⟩ := Outcome.bind_eq_ok built
  obtain ⟨after, two, built⟩ := Outcome.bind_eq_ok built
  obtain ⟨net, three, built⟩ := Outcome.bind_eq_ok built
  obtain rfl := Except.ok.inj built
  exact ⟨rfl, rfl, inCents_text one, inCents_text two, inCents_text three⟩

/-- Texts whose only token is a value of the facts have allowed tokens. -/
theorem tokensAllowed_of_only {facts : ExplanationFacts} {text value : List Char}
    (only : ∀ token ∈ extractValueTokens text, token = value)
    (known : value ∈ facts.allowedValueTokens) : TokensAllowed facts text := by
  intro token member
  rw [only token member]
  exact known

/-- The tokens of a fallback text are allowed when those of the currency are. -/
theorem fallback_tokens {facts : ExplanationFacts} {label : List Char}
    (factor : facts.approvedFactors = [⟨label, facts.netChange⟩])
    (prior : CentsText facts.priorPremium) (new : CentsText facts.newPremium)
    (net : CentsText facts.netChange) (plain : label.any Text.isDigit = false) :
    TokensAllowed facts (deterministicFallbackDraft facts).draftText ↔
      TokensAllowed facts facts.currency := by
  have space : figureChar ' ' = false := by decide
  have close : figureChar ')' = false := by decide
  have words : ∀ {text : List Char}, text.any Text.isDigit = false →
      (TokensAllowed facts text ↔ True) := fun none => iff_true_intro (tokensAllowed_of_no_digit none)
  have date : TokensAllowed facts (facts.effectiveDate.isoformat ++ [',']) :=
    tokensAllowed_of_only (isoformat_tokens _) (by simp [ExplanationFacts.allowedValueTokens])
  have priors : TokensAllowed facts facts.priorPremium :=
    tokensAllowed_of_only (centsText_tokens prior) (by simp [ExplanationFacts.allowedValueTokens])
  have news : TokensAllowed facts facts.newPremium :=
    tokensAllowed_of_only (centsText_tokens new) (by simp [ExplanationFacts.allowedValueTokens])
  have nets : TokensAllowed facts facts.netChange :=
    tokensAllowed_of_only (centsText_tokens net) (by simp [ExplanationFacts.allowedValueTokens])
  have opened : ∀ back : List Char,
      TokensAllowed facts ('(' :: back) ↔ TokensAllowed facts back := fun back =>
    (tokensAllowed_append [] back (by decide)).trans (and_iff_right (words rfl |>.mpr trivial))
  rw [fallback_text factor, List.append_cons facts.effectiveDate.isoformat]
  simp only [tokensAllowed_append _ _ space, tokensAllowed_append _ _ close, opened, date, priors,
    news, nets, words plain, words (by decide : "For authorized review--not sent. Effective".toList.any
      Text.isDigit = false), words (by decide : "the premium changed from".toList.any
      Text.isDigit = false), words (by decide : "to".toList.any Text.isDigit = false),
    words (by decide : "net change".toList.any Text.isDigit = false),
    words (by decide : ". Contributing factor(s):".toList.any Text.isDigit = false),
    words (by decide : ['.'].any Text.isDigit = false), true_and, and_true, and_self]

/-- Dates are printed with breakers only. -/
theorem isoformat_breakers (date : Date) : ∀ character ∈ date.isoformat, Breaker character := by
  intro character member
  unfold Date.isoformat at member
  simp only [List.mem_append, List.mem_cons] at member
  rcases member with year | rfl | month | rfl | day
  · exact breaker_of_isDigit (padded_basic year)
  · decide
  · exact breaker_of_isDigit (padded_basic month)
  · decide
  · exact breaker_of_isDigit (padded_basic day)

/-- No phrase occurs in a fallback text when none occurs in its currency. -/
theorem fallback_phrases {lowering : Lowering} {facts : ExplanationFacts} {label : List Char}
    (factor : facts.approvedFactors = [⟨label, facts.netChange⟩])
    (prior : CentsText facts.priorPremium) (new : CentsText facts.newPremium)
    (net : CentsText facts.netChange) (silent : NoPhrase lowering label) :
    NoPhrase lowering (deterministicFallbackDraft facts).draftText ↔
      NoPhrase lowering facts.currency := by
  have date : ∀ back, NoPhrase lowering ("For authorized review--not sent. Effective".toList ++ ' ' ::
      (facts.effectiveDate.isoformat ++ ',' :: ' ' :: back)) ↔ NoPhrase lowering back := by
    intro back
    have words : NoPhrase lowering "For authorized review--not sent. Effective".toList :=
      noPhrase_basic (by decide) (by decide +kernel)
    have comma : NoPhrase lowering ([] ++ ',' :: ' ' :: back) ↔ NoPhrase lowering back := by
      rw [noPhrase_breaker (by decide), noPhrase_space_cons]
      exact and_iff_right noPhrase_nil
    rw [List.append_cons, noPhrase_breakers (isoformat_breakers _)
      (datePattern.ne_nil (dateToken_isoformat _)), noPhrase_concat_space]
    exact (and_iff_right words).trans comma
  have priors : ∀ back, NoPhrase lowering ("the premium changed from".toList ++ ' ' ::
      (facts.priorPremium ++ ' ' :: back)) ↔ NoPhrase lowering back := fun back =>
    (noPhrase_premium prior (.inl rfl) _ back).trans
      (and_iff_right (noPhrase_basic (by decide) (by decide +kernel)))
  have news : ∀ back, NoPhrase lowering (facts.currency ++ ' ' :: ("to".toList ++ ' ' ::
      (facts.newPremium ++ ' ' :: back))) ↔
      NoPhrase lowering facts.currency ∧ NoPhrase lowering back := by
    intro back
    have words : NoPhrase lowering "to".toList := noPhrase_basic (by decide) (by decide +kernel)
    have cut : NoPhrase lowering (facts.currency ++ ' ' :: 't' :: 'o' :: ' ' ::
        (facts.newPremium ++ ' ' :: back)) ↔ NoPhrase lowering (facts.currency ++ [' ']) ∧
        NoPhrase lowering ('t' :: 'o' :: ' ' :: (facts.newPremium ++ ' ' :: back)) :=
      noPhrase_pair (by decide) (by decide) (by decide +kernel) _ _
    rw [noPhrase_concat_space] at cut
    refine cut.trans (and_congr_right fun _ => ?_)
    exact (noPhrase_premium new (.inl rfl) "to".toList back).trans (and_iff_right words)
  have nets : ∀ back, NoPhrase lowering (facts.currency ++ ' ' :: '(' :: ("net change".toList ++
      ' ' :: (facts.netChange ++ ' ' :: back))) ↔
      NoPhrase lowering facts.currency ∧ NoPhrase lowering back := by
    intro back
    rw [List.append_cons, noPhrase_breaker (by decide), noPhrase_concat_space,
      noPhrase_premium net (.inl rfl)]
    exact and_congr_right fun _ =>
      and_iff_right (noPhrase_basic (by decide) (by decide +kernel))
  have labels : ∀ back, NoPhrase lowering (facts.currency ++ ')' ::
      (". Contributing factor(s):".toList ++ ' ' :: (label ++ ' ' :: '(' ::
      (facts.netChange ++ ' ' :: back)))) ↔
      NoPhrase lowering facts.currency ∧ NoPhrase lowering back := by
    intro back
    have words : NoPhrase lowering ". Contributing factor(s)".toList :=
      noPhrase_basic (by decide) (by decide +kernel)
    have colon : ". Contributing factor(s):".toList = ". Contributing factor(s)".toList ++ [':'] := by
      decide
    have factors : NoPhrase lowering (label ++ ' ' :: '(' :: (facts.netChange ++ ' ' :: back)) ↔
        NoPhrase lowering back := by
      rw [List.append_cons, noPhrase_premium net (.inr rfl), noPhrase_concat_space]
      exact and_iff_right silent
    rw [noPhrase_breaker (by decide), colon, List.append_assoc, List.singleton_append,
      noPhrase_breaker (by decide), noPhrase_space_cons, factors]
    exact and_congr_right fun _ => and_iff_right words
  have ending : NoPhrase lowering (facts.currency ++ ')' :: ['.']) ↔
      NoPhrase lowering facts.currency := by
    rw [noPhrase_breaker (by decide)]
    exact and_iff_left (noPhrase_basic (by decide) (by decide +kernel))
  rw [fallback_text factor, date, priors, news, nets, labels, ending, and_self, and_self, and_self]

/-- A fallback text is valid when its currency is, for a label without digits and phrases. -/
theorem fallback_valid_iff (lowering : Lowering) {caseId label currency : List Char}
    {prior new : Decimal} {date : Date} {facts : ExplanationFacts}
    (built : buildExplanationFacts caseId prior new label date currency = .ok facts)
    (plain : label.any Text.isDigit = false) (silent : NoPhrase lowering label) :
    (validateDraftText lowering (deterministicFallbackDraft facts).draftText facts).1 = true ↔
      TokensAllowed facts currency ∧ NoPhrase lowering currency := by
  obtain ⟨rfl, factor, priors, news, nets⟩ := buildExplanationFacts_shape built
  rw [validateDraftText_iff]
  exact and_congr (fallback_tokens factor priors news nets plain)
    (fallback_phrases factor priors news nets silent)

/-- Accepted drafts state only facts where their stray figures do, and the fallback is valid where
its currency is. -/
theorem explanations_state_facts (lowering : Lowering) :
    (∀ (facts : ExplanationFacts) (text : List Char),
      ((buildExplanationDraft lowering facts (some text)).source = .gemini →
          ∀ figure ∈ figures text, StatesFact facts figure) ↔
        Refused lowering facts text ∨
          ∀ figure ∈ figures text, Stray figure → StatesFact facts figure) ∧
    ∀ (caseId : List Char) (prior new : Decimal) (label : List Char) (date : Date)
      (currency : List Char) (facts : ExplanationFacts),
      buildExplanationFacts caseId prior new label date currency = .ok facts →
      label.any Text.isDigit = false → NoPhrase lowering label →
      ((validateDraftText lowering (deterministicFallbackDraft facts).draftText facts).1 = true ↔
        TokensAllowed facts currency ∧ NoPhrase lowering currency) :=
  ⟨accepted_states_facts lowering,
    fun _ _ _ _ _ _ _ built plain silent => fallback_valid_iff lowering built plain silent⟩

/-- Lowercase letters of basic text. -/
def basicLowering : Lowering := ⟨fun character => [character.toLower], fun _ _ => true, fun _ _ => rfl⟩

/-- The year of the sample is one. -/
theorem changeDate_year : 1 ≤ 2026 ∧ 2026 ≤ 9999 := by decide

/-- The month of the sample has fifteen days. -/
theorem changeDate_day : 1 ≤ 15 ∧ 15 ≤ daysInMonth 2026 10 := by decide

/-- A date for the samples. -/
def changeDate : Date := ⟨2026, 10, 15, changeDate_year, changeDate_day⟩

/-- Facts of a premium that rises from 686 to 700. -/
def roofFacts : ExplanationFacts :=
  ⟨"case-025".toList, "USD".toList, "686.00".toList, "700.00".toList, "14.00".toList,
    [⟨"roof age band".toList, "14.00".toList⟩], changeDate⟩

/-- The facts are built from the premiums. -/
theorem roofFacts_built : buildExplanationFacts "case-025".toList (.finite false 68600 (-2))
    (.finite false 70000 (-2)) "roof age band".toList changeDate "USD".toList = .ok roofFacts := by
  decide +kernel

/-- The fallback of the facts is valid. -/
theorem roofFacts_fallback : (validateDraftText basicLowering
    (deterministicFallbackDraft roofFacts).draftText roofFacts).1 = true :=
  ((explanations_state_facts basicLowering).2 _ _ _ _ _ _ _ roofFacts_built (by decide)
    (noPhrase_basic (by decide) (by decide +kernel))).mpr
    ⟨by decide, noPhrase_basic (by decide) (by decide +kernel)⟩

/-- A draft with an invented amount without cents is accepted. -/
theorem invented_amount_accepted :
    ¬∀ (lowering : Lowering), (∀ (facts : ExplanationFacts) (text : List Char),
        (buildExplanationDraft lowering facts (some text)).source = .gemini →
          ∀ figure ∈ figures text, StatesFact facts figure) ∧
      ∀ (caseId : List Char) (prior new : Decimal) (label : List Char) (date : Date)
        (currency : List Char) (facts : ExplanationFacts),
        buildExplanationFacts caseId prior new label date currency = .ok facts →
        label.any Text.isDigit = false → NoPhrase lowering label →
        (validateDraftText lowering (deterministicFallbackDraft facts).draftText facts).1 = true := by
  intro holds
  have states := (holds basicLowering).1 roofFacts "Your premium rose by 999 dollars.".toList
    (by decide +kernel) "999".toList (by decide +kernel)
  revert states
  unfold StatesFact
  decide

end RateGuard
