import RateGuard.Foundation.CalendarDate
import RateGuard.Foundation.DecimalGrid
import RateGuard.Foundation.DecimalText
import RateGuard.Foundation.Scanning
import RateGuard.Ipir.Value

/-!
# Explanation drafts

A draft of a model is accepted when the amounts and dates that two patterns find in it are values of
the facts and no prohibited phrase occurs. The figures of a text, which are what a reader takes for
numbers and dates, are defined apart from the patterns: a figure in a form that neither pattern
takes whole is stray, and drafts are accepted whatever it says.
-/

open DecimalFloat CalendarDate Scanning

namespace RateGuard

/-- `ApprovedFactor`. -/
structure ApprovedFactor where
  /-- Label. -/
  label : List Char
  /-- Effect as text. -/
  effect : List Char
  deriving DecidableEq

/-- `ExplanationFacts` without its hash. -/
structure ExplanationFacts where
  /-- Case. -/
  caseId : List Char
  /-- Currency. -/
  currency : List Char
  /-- Premium before the change. -/
  priorPremium : List Char
  /-- Premium after the change. -/
  newPremium : List Char
  /-- Change of the premium. -/
  netChange : List Char
  /-- Factors. -/
  approvedFactors : List ApprovedFactor
  /-- Effective date. -/
  effectiveDate : Date
  deriving DecidableEq

/-- `allowed_value_tokens`. -/
def ExplanationFacts.allowedValueTokens (facts : ExplanationFacts) : List (List Char) :=
  [facts.priorPremium, facts.newPremium, facts.netChange, facts.effectiveDate.isoformat] ++
    facts.approvedFactors.map (·.effect)

/-- `ExplanationDraft.source`. -/
inductive DraftSource where
  | gemini | deterministicFallback
  deriving DecidableEq

/-- `ExplanationDraft` before its review. -/
structure ExplanationDraft where
  /-- Text. -/
  draftText : List Char
  /-- Cited facts. -/
  citedFactIds : List (List Char)
  /-- Origin of the text. -/
  source : DraftSource
  /-- Whether the text counts as valid. -/
  validated : Bool
  /-- Tokens for which a model's text was refused. -/
  rejectedTokens : List (List Char)
  deriving DecidableEq

/-- A premium in cents. -/
def inCents (amount : Decimal) : Except Signal Decimal :=
  amount.quantize decimalContext (-2) decimalContext.rounding

/-- `build_explanation_facts`. -/
def buildExplanationFacts (caseId : List Char) (priorPremium newPremium : Decimal)
    (factorLabel : List Char) (effectiveDate : Date) (currency : List Char) :
    Except Signal ExplanationFacts := do
  let netChange ← newPremium.sub decimalContext priorPremium
  let prior ← inCents priorPremium
  let new ← inCents newPremium
  let net ← inCents netChange
  pure ⟨caseId, currency, prior.text, new.text, net.text, [⟨factorLabel, net.text⟩], effectiveDate⟩

/-- Whether a character can stand between the digits of an amount. -/
def grouped (character : Char) : Bool := Text.isDigit character || character == ','

/-- A mark at the front of a text where it stands there, and the text behind it. -/
def optionalMark (mark : Char) : List Char → List Char × List Char
  | [] => ([], [])
  | first :: rest => if first = mark then ([mark], rest) else ([], first :: rest)

/-- Amount at the front of a text: digits with separators, a point and two digits, behind a sign and
a currency mark. No shorter run of digits leads to the point, so nothing is tried twice. -/
def readAmount (text : List Char) : Option (List Char × List Char) :=
  let (sign, unsigned) := optionalMark '-' text
  let (currency, amount) := optionalMark '$' unsigned
  match amount with
  | [] => none
  | first :: rest =>
    match rest.dropWhile grouped with
    | '.' :: tenth :: hundredth :: behind =>
      if Text.isDigit first && Text.isDigit tenth && Text.isDigit hundredth then
        some (sign ++ (currency ++ first :: (rest.takeWhile grouped ++ ['.', tenth, hundredth])),
          behind)
      else none
    | _ => none

/-- Date at the front of a text: four, two and two digits. -/
def readDate : List Char → Option (List Char × List Char)
  | a :: b :: c :: d :: '-' :: e :: f :: '-' :: g :: h :: behind =>
    if [a, b, c, d, e, f, g, h].all Text.isDigit then
      some ([a, b, c, d, '-', e, f, '-', g, h], behind)
    else none
  | _ => none

/-- Whether a text has the form of `_AMOUNT_PATTERN`. -/
def AmountToken (token : List Char) : Prop :=
  ∃ sign currency first whole tenth hundredth,
    token = sign ++ (currency ++ first :: (whole ++ ['.', tenth, hundredth])) ∧
    (sign = [] ∨ sign = ['-']) ∧ (currency = [] ∨ currency = ['$']) ∧
    Text.isDigit first = true ∧ (∀ character ∈ whole, grouped character = true) ∧
    Text.isDigit tenth = true ∧ Text.isDigit hundredth = true

/-- Whether a text has the form of `_DATE_PATTERN`. -/
def DateToken (token : List Char) : Prop :=
  ∃ a b c d e f g h, token = [a, b, c, d, '-', e, f, '-', g, h] ∧
    [a, b, c, d, e, f, g, h].all Text.isDigit = true

/-- A mark is read where it stands. -/
theorem optionalMark_append {mark : Char} {front rest : List Char}
    (known : front = [] ∨ front = [mark]) (other : rest.head? ≠ some mark) :
    optionalMark mark (front ++ rest) = (front, rest) := by
  rcases known with rfl | rfl
  · cases rest with
    | nil => rfl
    | cons first behind =>
      refine if_neg fun same => other ?_
      rw [same]
      rfl
  · exact if_pos rfl

/-- A text is its mark and the text behind it. -/
theorem optionalMark_split (mark : Char) (text : List Char) :
    text = (optionalMark mark text).1 ++ (optionalMark mark text).2 ∧
      ((optionalMark mark text).1 = [] ∨ (optionalMark mark text).1 = [mark]) := by
  cases text with
  | nil => exact ⟨rfl, .inl rfl⟩
  | cons first rest =>
    by_cases same : first = mark
    · rw [optionalMark, if_pos same, same]
      exact ⟨rfl, .inr rfl⟩
    · rw [optionalMark, if_neg same]
      exact ⟨rfl, .inl rfl⟩

/-- A digit is none of the other characters. -/
theorem ne_of_isDigit {character other : Char} (digit : Text.isDigit character = true)
    (none : Text.isDigit other = false) : character ≠ other := by
  rintro rfl
  rw [digit] at none
  cases none

/-- The reader of amounts finds the amount that a text begins with. -/
theorem readAmount_iff {text token rest : List Char} :
    readAmount text = some (token, rest) ↔ AmountToken token ∧ text = token ++ rest := by
  constructor
  · intro found
    obtain ⟨signed, signs⟩ := optionalMark_split '-' text
    obtain ⟨marked, currencies⟩ := optionalMark_split '$' (optionalMark '-' text).2
    unfold readAmount at found
    dsimp only at found
    split at found
    · cases found
    · next first more amount =>
      split at found
      · next tenth hundredth behind after =>
        split at found
        · next digits =>
          rw [Bool.and_eq_true, Bool.and_eq_true] at digits
          obtain ⟨rfl, rfl⟩ := Prod.mk.inj (Option.some.inj found)
          refine ⟨⟨_, _, first, more.takeWhile grouped, tenth, hundredth, rfl, signs, currencies,
            digits.1.1, fun _ member => List.mem_takeWhile_imp member, digits.1.2, digits.2⟩, ?_⟩
          have parts := List.takeWhile_append_dropWhile (p := grouped) (l := more)
          rw [after] at parts
          conv_lhs => rw [signed, marked, amount, ← parts]
          simp
        · cases found
      · cases found
  · rintro ⟨⟨sign, currency, first, whole, tenth, hundredth, rfl, signs, currencies, one, groups,
      two, three⟩, rfl⟩
    have noDollar : first ≠ '$' := ne_of_isDigit one (by decide)
    have noMinus : first ≠ '-' := ne_of_isDigit one (by decide)
    have unsigned : optionalMark '-' (sign ++ (currency ++ first :: (whole ++
        ['.', tenth, hundredth])) ++ rest) = (sign, currency ++ first :: (whole ++
        '.' :: tenth :: hundredth :: rest)) := by
      have shape : sign ++ (currency ++ first :: (whole ++ ['.', tenth, hundredth])) ++ rest =
          sign ++ (currency ++ first :: (whole ++ '.' :: tenth :: hundredth :: rest)) := by simp
      rw [shape]
      refine optionalMark_append signs ?_
      rcases currencies with rfl | rfl
      · simpa using noMinus
      · exact fun same => absurd (Option.some.inj same) (by decide)
    have bare : optionalMark '$' (currency ++ first :: (whole ++ '.' :: tenth :: hundredth ::
        rest)) = (currency, first :: (whole ++ '.' :: tenth :: hundredth :: rest)) :=
      optionalMark_append currencies (by simpa using noDollar)
    have taken : (whole ++ '.' :: tenth :: hundredth :: rest).takeWhile grouped = whole := by
      rw [List.takeWhile_append_of_pos groups, List.takeWhile_cons_of_neg (by decide),
        List.append_nil]
    have dropped : (whole ++ '.' :: tenth :: hundredth :: rest).dropWhile grouped =
        '.' :: tenth :: hundredth :: rest := by
      rw [List.dropWhile_append_of_pos groups, List.dropWhile_cons_of_neg (by decide)]
    unfold readAmount
    simp only [unsigned, bare, taken, dropped, one, two, three, Bool.and_self, if_true]

/-- The reader of dates finds the date that a text begins with. -/
theorem readDate_iff {text token rest : List Char} :
    readDate text = some (token, rest) ↔ DateToken token ∧ text = token ++ rest := by
  constructor
  · intro found
    unfold readDate at found
    split at found
    · next a b c d e f g h behind =>
      split at found
      · next digits =>
        obtain ⟨rfl, rfl⟩ := Prod.mk.inj (Option.some.inj found)
        exact ⟨⟨a, b, c, d, e, f, g, h, rfl, digits⟩, rfl⟩
      · cases found
    · cases found
  · rintro ⟨⟨a, b, c, d, e, f, g, h, rfl, digits⟩, rfl⟩
    exact if_pos digits

/-- `_AMOUNT_PATTERN`. -/
def amountPattern : Pattern Char where
  Token := AmountToken
  read := readAmount
  joins character := grouped character || ['-', '$', '.'].contains character
  read_iff := readAmount_iff
  nonempty := by
    rintro ⟨sign, currency, first, whole, tenth, hundredth, same, -⟩
    simp at same
  joined := by
    rintro token ⟨sign, currency, first, whole, tenth, hundredth, rfl, signs, currencies, one,
      groups, two, three⟩ character member
    have digit : ∀ {c : Char}, Text.isDigit c = true → grouped c = true := by
      intro c digits
      rw [grouped, digits, Bool.true_or]
    simp only [List.mem_append, List.mem_cons, List.not_mem_nil, or_false] at member
    rcases member with marked | marked | rfl | inside | rfl | rfl | rfl
    · rcases signs with rfl | rfl
      · cases marked
      · rw [List.mem_singleton.mp marked]
        decide
    · rcases currencies with rfl | rfl
      · cases marked
      · rw [List.mem_singleton.mp marked]
        decide
    · rw [digit one, Bool.true_or]
    · rw [groups character inside, Bool.true_or]
    · decide
    · rw [digit two, Bool.true_or]
    · rw [digit three, Bool.true_or]

/-- `_DATE_PATTERN`. -/
def datePattern : Pattern Char where
  Token := DateToken
  read := readDate
  joins character := Text.isDigit character || character == '-'
  read_iff := readDate_iff
  nonempty := by
    rintro ⟨a, b, c, d, e, f, g, h, same, -⟩
    cases same
  joined := by
    rintro token ⟨a, b, c, d, e, f, g, h, rfl, digits⟩ character member
    rw [List.all_eq_true] at digits
    rw [Bool.or_eq_true, beq_iff_eq, or_iff_not_imp_right]
    intro noDash
    refine digits character ?_
    simp only [List.mem_cons, List.not_mem_nil, or_false, noDash, false_or] at member ⊢
    exact member

/-- Normal form of an amount: without currency marks and separators. -/
def plainAmount (token : List Char) : List Char :=
  (token.filter (· != '$')).filter (· != ',')

/-- `extract_value_tokens`. -/
def extractValueTokens (text : List Char) : List (List Char) :=
  (amountPattern.findAll text).map plainAmount ++ datePattern.findAll text

/-- `PROHIBITED_PHRASES`. -/
def prohibitedPhrases : List (List Char) :=
  ["guarantee", "compliant", "legal advice", "you are eligible", "not covered", "climate",
    "credit score", "criminal"].map String.toList

/-- Lowercase letters of the scripts. -/
structure Lowering where
  /-- Lowercase of a character other than the capital sigma. -/
  lowerChar : Char → List Char
  /-- Whether a capital sigma between two texts ends a word. -/
  endsWord : List Char → List Char → Bool
  /-- Basic characters have one lowercase character. -/
  lower_ascii : ∀ character : Char, character.toNat < 128 →
    lowerChar character = [character.toLower]

/-- `str.lower` of the text behind another one. -/
def Lowering.lowerBehind (lowering : Lowering) : List Char → List Char → List Char
  | _, [] => []
  | before, first :: rest =>
    (if first = 'Σ' then [if lowering.endsWord before rest then 'ς' else 'σ']
      else lowering.lowerChar first) ++ lowering.lowerBehind (before ++ [first]) rest

/-- `str.lower`. -/
def Lowering.lower (lowering : Lowering) (text : List Char) : List Char :=
  lowering.lowerBehind [] text

/-- `validate_draft_text`. -/
def validateDraftText (lowering : Lowering) (text : List Char) (facts : ExplanationFacts) :
    Bool × List (List Char) :=
  let rejected := (extractValueTokens text).filter (!facts.allowedValueTokens.contains ·) ++
    (prohibitedPhrases.filter fun phrase => decide (phrase <:+: lowering.lower text)).map
      ("prohibited_phrase:".toList ++ ·)
  (rejected.isEmpty, rejected)

/-- `deterministic_fallback_draft`. -/
def deterministicFallbackDraft (facts : ExplanationFacts) : ExplanationDraft :=
  let factorLines := "; ".toList.intercalate (facts.approvedFactors.map fun factor =>
    factor.label ++ (" (".toList ++ (factor.effect ++ ' ' :: (facts.currency ++ [')']))))
  let text := "For authorized review--not sent. Effective ".toList ++
    (facts.effectiveDate.isoformat ++ (", the premium changed from ".toList ++
    (facts.priorPremium ++ ' ' :: (facts.currency ++ (" to ".toList ++
    (facts.newPremium ++ ' ' :: (facts.currency ++ (" (net change ".toList ++
    (facts.netChange ++ ' ' :: (facts.currency ++ ("). Contributing factor(s): ".toList ++
    (factorLines ++ ['.']))))))))))))
  ⟨text, [facts.caseId], .deterministicFallback, true, []⟩

/-- `build_explanation_draft`. -/
def buildExplanationDraft (lowering : Lowering) (facts : ExplanationFacts)
    (geminiDraftText : Option (List Char)) : ExplanationDraft :=
  match geminiDraftText with
  | none | some [] => deterministicFallbackDraft facts
  | some text =>
    match validateDraftText lowering text facts with
    | (true, _) => ⟨text, [facts.caseId], .gemini, true, []⟩
    | (false, rejected) => { deterministicFallbackDraft facts with rejectedTokens := rejected }

/-- Whether a character is one that numbers and dates are written with: a digit, a sign, a
separator, a currency mark or a percent sign. -/
def figureChar (character : Char) : Bool :=
  Text.isDigit character || ['-', '−', '.', ',', '$', '%'].contains character

/-- Whether a character behind a figure is punctuation of the sentence. -/
def closesFigure (character : Char) : Bool := ['.', ',', '-'].contains character

/-- A run of such characters without the punctuation around it. -/
def trimmedFigure (run : List Char) : List Char :=
  (run.dropWhile (· == ',')).rdropWhile closesFigure

/-- Figures of a text: its longest runs of characters of numbers and dates that have a digit. -/
def figures (text : List Char) : List (List Char) :=
  ((text.splitOnP (!figureChar ·)).map trimmedFigure).filter (·.any Text.isDigit)

/-- Whether a figure is a value of the facts. -/
def StatesFact (facts : ExplanationFacts) (figure : List Char) : Prop :=
  plainAmount figure ∈ facts.allowedValueTokens

/-- Whether a figure has neither of the two forms, so that no pattern takes it whole. -/
def Stray (figure : List Char) : Prop := ¬AmountToken figure ∧ ¬DateToken figure

/-- Whether a text is refused for what the patterns and phrases find in it. -/
def Refused (lowering : Lowering) (facts : ExplanationFacts) (text : List Char) : Prop :=
  text = [] ∨ (∃ token ∈ extractValueTokens text, token ∉ facts.allowedValueTokens) ∨
    ∃ phrase ∈ prohibitedPhrases, phrase <:+: lowering.lower text

/-- No amount starts at a comma. -/
theorem readAmount_comma (rest : List Char) : readAmount (',' :: rest) = none := by
  have digit : Text.isDigit ',' = false := by decide
  unfold readAmount
  have signed : optionalMark '-' (',' :: rest) = ([], ',' :: rest) := by
    rw [optionalMark, if_neg (by decide)]
  have marked : optionalMark '$' (',' :: rest) = ([], ',' :: rest) := by
    rw [optionalMark, if_neg (by decide)]
  simp only [signed, marked, digit, Bool.false_and, Bool.false_eq_true, if_false]
  split <;> rfl

/-- Characters that separate figures stand in no amount. -/
theorem amount_apart (character : Char) (separates : (!figureChar character) = true) :
    amountPattern.joins character = false := by
  rw [Bool.not_eq_true', figureChar, Bool.or_eq_false_iff] at separates
  simp only [List.contains_eq_mem, decide_eq_false_iff_not, List.mem_cons, List.not_mem_nil,
    or_false, not_or] at separates
  simp [amountPattern, grouped, separates]

/-- Characters that separate figures stand in no date. -/
theorem date_apart (character : Char) (separates : (!figureChar character) = true) :
    datePattern.joins character = false := by
  rw [Bool.not_eq_true', figureChar, Bool.or_eq_false_iff] at separates
  simp only [List.contains_eq_mem, decide_eq_false_iff_not, List.mem_cons, List.not_mem_nil,
    or_false, not_or] at separates
  simp [datePattern, separates]

/-- A date is its own normal form. -/
theorem plainAmount_date {token : List Char} (date : DateToken token) :
    plainAmount token = token := by
  have kept : ∀ mark : Char, datePattern.joins mark = false →
      ∀ character ∈ token, (character != mark) = true := by
    intro mark apart character member
    have joins := datePattern.joined date character member
    rw [bne_iff_ne]
    rintro rfl
    rw [joins] at apart
    cases apart
  rw [plainAmount, List.filter_eq_self.mpr (kept '$' (by decide)),
    List.filter_eq_self.mpr (kept ',' (by decide))]

/-- A run is its figure with commas before it and punctuation behind it. -/
theorem trimmedFigure_split (run : List Char) : ∃ before after,
    run = before ++ (trimmedFigure run ++ after) ∧ ∀ character ∈ before, character = ',' := by
  refine ⟨run.takeWhile (· == ','), (run.dropWhile (· == ',')).rtakeWhile closesFigure, ?_, ?_⟩
  · rw [trimmedFigure, List.rdropWhile_append_rtakeWhile, List.takeWhile_append_dropWhile]
  · intro character member
    have comma := List.mem_takeWhile_imp member
    simpa using comma

/-- A token of a pattern that is a figure of a text is found in it. -/
theorem figure_mem_findAll (pattern : Pattern Char)
    (apart : ∀ character, (!figureChar character) = true → pattern.joins character = false)
    (comma : ∀ rest, pattern.read (',' :: rest) = none) {text figure : List Char}
    (member : figure ∈ figures text) (isToken : pattern.Token figure) :
    figure ∈ pattern.findAll text := by
  obtain ⟨trimmed, -⟩ := List.mem_filter.mp member
  obtain ⟨run, inside, rfl⟩ := List.mem_map.mp trimmed
  obtain ⟨before, after, split, commas⟩ := trimmedFigure_split run
  rw [pattern.findAll_splitOnP apart]
  refine List.mem_flatMap.mpr ⟨run, inside, ?_⟩
  have starts : ∀ character ∈ before, ∀ rest, pattern.read (character :: rest) = none := by
    intro character first rest
    rw [commas character first]
    exact comma rest
  have found := pattern.mem_findAll isToken after starts
  rwa [← split] at found

/-- Figures that are not stray are among the tokens of the text. -/
theorem figure_extracted {text figure : List Char} (member : figure ∈ figures text)
    (form : ¬Stray figure) : plainAmount figure ∈ extractValueTokens text := by
  rw [Stray, not_and_or, not_not, not_not] at form
  refine List.mem_append.mpr (form.imp (fun amount => ?_) fun date => ?_)
  · exact List.mem_map_of_mem
      (figure_mem_findAll amountPattern amount_apart readAmount_comma member amount)
  · rw [plainAmount_date date]
    exact figure_mem_findAll datePattern date_apart
      (fun rest => datePattern.read_apart rest (by decide)) member date

/-- Validation succeeds when no token is foreign to the facts and no phrase occurs. -/
theorem validateDraftText_iff {lowering : Lowering} {text : List Char} {facts : ExplanationFacts} :
    (validateDraftText lowering text facts).1 = true ↔
      (∀ token ∈ extractValueTokens text, token ∈ facts.allowedValueTokens) ∧
        ∀ phrase ∈ prohibitedPhrases, ¬phrase <:+: lowering.lower text := by
  simp [validateDraftText, List.filter_eq_nil_iff]

/-- A model's text is taken as the draft unless it is refused. -/
theorem buildExplanationDraft_gemini {lowering : Lowering} {facts : ExplanationFacts}
    {text : List Char} :
    (buildExplanationDraft lowering facts (some text)).source = .gemini ↔
      ¬Refused lowering facts text := by
  cases text with
  | nil => exact iff_of_false (fun same => by cases same) (not_not.mpr (.inl rfl))
  | cons first rest =>
    have accepted : (buildExplanationDraft lowering facts (some (first :: rest))).source = .gemini ↔
        (validateDraftText lowering (first :: rest) facts).1 = true := by
      unfold buildExplanationDraft
      dsimp only
      split
      · next valid =>
        rw [valid]
        exact iff_of_true rfl rfl
      · next invalid =>
        rw [invalid]
        exact iff_of_false (fun same => by cases same) Bool.false_ne_true
    rw [accepted, validateDraftText_iff, Refused]
    simp

/-- An accepted draft states only facts where all its stray figures do. -/
theorem accepted_states_facts (lowering : Lowering) (facts : ExplanationFacts) (text : List Char) :
    ((buildExplanationDraft lowering facts (some text)).source = .gemini →
        ∀ figure ∈ figures text, StatesFact facts figure) ↔
      Refused lowering facts text ∨
        ∀ figure ∈ figures text, Stray figure → StatesFact facts figure := by
  rw [buildExplanationDraft_gemini, or_iff_not_imp_left]
  refine imp_congr_right fun accepted => ⟨fun all figure member _ => all figure member, ?_⟩
  intro strays figure member
  by_cases stray : Stray figure
  · exact strays figure member stray
  · have found := figure_extracted member stray
    by_contra foreign
    exact accepted (.inr (.inl ⟨_, found, foreign⟩))

end RateGuard
