import Mathlib

/-!
# Numeric text

Whitespace, decimal digits of every script and integer literals over character
lists. Canonical digits of a natural number read back as that number, and text
without outer whitespace is not changed by trimming.
-/

namespace Text

/-- Code points treated as whitespace when text is trimmed. -/
def spaces : List Nat :=
  [0x9, 0xa, 0xb, 0xc, 0xd, 0x1c, 0x1d, 0x1e, 0x1f, 0x20, 0x85, 0xa0, 0x1680, 0x2000, 0x2001,
   0x2002, 0x2003, 0x2004, 0x2005, 0x2006, 0x2007, 0x2008, 0x2009, 0x200a, 0x2028, 0x2029,
   0x202f, 0x205f, 0x3000]

/-- Whether a character is whitespace. -/
def isSpace (character : Char) : Bool := spaces.contains character.toNat

/-- Text without leading and trailing whitespace. -/
def strip (text : List Char) : List Char :=
  ((text.dropWhile isSpace).reverse.dropWhile isSpace).reverse

/-- Zero digits of the scripts beyond the basic one; nine digits follow each. -/
def scriptZeros : List Nat :=
  [0x660, 0x6f0, 0x7c0, 0x966, 0x9e6, 0xa66, 0xae6, 0xb66, 0xbe6, 0xc66, 0xce6, 0xd66, 0xde6,
   0xe50, 0xed0, 0xf20, 0x1040, 0x1090, 0x17e0, 0x1810, 0x1946, 0x19d0, 0x1a80, 0x1a90, 0x1b50,
   0x1bb0, 0x1c40, 0x1c50, 0xa620, 0xa8d0, 0xa900, 0xa9d0, 0xa9f0, 0xaa50, 0xabf0, 0xff10,
   0x104a0, 0x10d30, 0x11066, 0x110f0, 0x11136, 0x111d0, 0x112f0, 0x11450, 0x114d0, 0x11650,
   0x116c0, 0x11730, 0x118e0, 0x11950, 0x11c50, 0x11d50, 0x11da0, 0x11f50, 0x16a60, 0x16ac0,
   0x16b50, 0x1d7ce, 0x1d7d8, 0x1d7e2, 0x1d7ec, 0x1d7f6, 0x1e140, 0x1e2f0, 0x1e4f0, 0x1e950,
   0x1fbf0]

/-- Digit value of a character in any script. -/
def digitValue (character : Char) : Option Nat :=
  if character.isDigit then some (character.toNat - '0'.toNat)
  else (scriptZeros.find? fun start => start ≤ character.toNat && character.toNat ≤ start + 9).map
    fun start => character.toNat - start

/-- Whether a character is a digit of some script. -/
def isDigit (character : Char) : Bool := (digitValue character).isSome

/-- Positional value of a digit sequence. -/
def numeral (text : List Char) : Nat :=
  text.foldl (fun value character => 10 * value + (digitValue character).getD 0) 0

/-- Canonical digits of a natural number. -/
def digitsOf (value : Nat) : List Char := Nat.toDigits 10 value

/-- Digits with single underscores between them. -/
def underscoredDigits : List Char → Option (List Char)
  | [] => none
  | [last] => if isDigit last then some [last] else none
  | first :: '_' :: rest =>
    if isDigit first then (underscoredDigits rest).map (first :: ·) else none
  | first :: rest => if isDigit first then (underscoredDigits rest).map (first :: ·) else none

/-- Integer literal with optional sign, outer whitespace and inner underscores. -/
def parseInt (text : List Char) : Option Int :=
  match strip text with
  | '-' :: rest => (underscoredDigits rest).map fun digits => -(numeral digits : Int)
  | '+' :: rest => (underscoredDigits rest).map fun digits => (numeral digits : Int)
  | rest => (underscoredDigits rest).map fun digits => (numeral digits : Int)

/-- Parts of a text between doubled occurrences of a character, found from the left. -/
def splitOnDouble (separator : Char) : List Char → List (List Char)
  | [] => [[]]
  | [last] => [[last]]
  | first :: second :: rest =>
    if first = separator ∧ second = separator then [] :: splitOnDouble separator rest
    else
      match splitOnDouble separator (second :: rest) with
      | [] => [[first]]
      | part :: parts => (first :: part) :: parts

/-- A basic digit has its distance from zero as value. -/
theorem digitValue_of_isDigit {character : Char} (digit : character.isDigit) :
    digitValue character = some (character.toNat - '0'.toNat) := by
  rw [digitValue, if_pos digit]

/-- A basic digit is a digit. -/
theorem isDigit_of_basic {character : Char} (digit : character.isDigit) :
    isDigit character = true := by
  rw [isDigit, digitValue_of_isDigit digit]
  rfl

/-- Canonical digits are basic digits. -/
theorem digitsOf_basic {value : Nat} {character : Char} (member : character ∈ digitsOf value) :
    character.isDigit :=
  Nat.isDigit_of_mem_toDigits (by decide) (by decide) member

/-- Basic digits have the library's positional value. -/
theorem numeral_eq_ofDigitChars (text : List Char) (basic : ∀ c ∈ text, c.isDigit) :
    numeral text = Nat.ofDigitChars 10 text 0 := by
  rw [numeral, Nat.ofDigitChars_eq_foldl]
  refine List.foldl_ext _ _ 0 fun value character member => ?_
  rw [digitValue_of_isDigit (basic character member)]
  rfl

/-- Canonical digits read back. -/
theorem numeral_digitsOf (value : Nat) : numeral (digitsOf value) = value := by
  rw [numeral_eq_ofDigitChars _ fun _ => digitsOf_basic]
  exact Nat.ofDigitChars_ten_toDigits

/-- Leading zeros do not change a numeral. -/
theorem numeral_zeros_append (zeros : Nat) (text : List Char) (basic : ∀ c ∈ text, c.isDigit) :
    numeral (List.replicate zeros '0' ++ text) = numeral text := by
  have padded : ∀ c ∈ List.replicate zeros '0' ++ text, c.isDigit := by
    intro character member
    rcases List.mem_append.mp member with zero | digit
    · rw [List.eq_of_mem_replicate zero]
      rfl
    · exact basic character digit
  rw [numeral_eq_ofDigitChars _ padded, numeral_eq_ofDigitChars _ basic,
    Nat.ofDigitChars_append, Nat.ofDigitChars_replicate_zero, Nat.mul_zero]

/-- Trailing zeros scale a numeral. -/
theorem numeral_append_zeros (zeros : Nat) (text : List Char) (basic : ∀ c ∈ text, c.isDigit) :
    numeral (text ++ List.replicate zeros '0') = numeral text * 10 ^ zeros := by
  have padded : ∀ c ∈ text ++ List.replicate zeros '0', c.isDigit := by
    intro character member
    rcases List.mem_append.mp member with digit | zero
    · exact basic character digit
    · rw [List.eq_of_mem_replicate zero]
      rfl
  rw [numeral_eq_ofDigitChars _ padded, numeral_eq_ofDigitChars _ basic,
    Nat.ofDigitChars_append, Nat.ofDigitChars_replicate_zero, Nat.mul_comm]

/-- Trimming keeps text without whitespace. -/
theorem strip_eq_self (text : List Char) (solid : ∀ c ∈ text, isSpace c = false) :
    strip text = text := by
  have kept : ∀ chars : List Char, (∀ c ∈ chars, isSpace c = false) →
      chars.dropWhile isSpace = chars := by
    intro chars none
    cases chars with
    | nil => rfl
    | cons first rest =>
      rw [List.dropWhile_cons_of_neg]
      rw [none first (by simp)]
      exact Bool.false_ne_true
  rw [strip, kept text solid, kept text.reverse (fun c member => solid c (by simpa using member)),
    List.reverse_reverse]

/-- A text with at most one separator has one part. -/
theorem splitOnDouble_single {separator : Char} {text : List Char}
    (few : text.count separator ≤ 1) : splitOnDouble separator text = [text] := by
  induction text with
  | nil => rfl
  | cons first tail ih =>
    cases tail with
    | nil => rfl
    | cons second rest =>
      have different : ¬(first = separator ∧ second = separator) := by
        rintro ⟨rfl, rfl⟩
        simp only [List.count_cons_self] at few
        omega
      have fewer : (second :: rest).count separator ≤ 1 :=
        (List.count_le_count_cons).trans few
      rw [splitOnDouble, if_neg different, ih fewer]

/-- Text before a doubled separator is the first part when it has at most one separator, and none
at its end. -/
theorem splitOnDouble_append {separator : Char} {text : List Char} (rest : List Char)
    (few : text.count separator ≤ 1) (last : text.getLast? ≠ some separator) :
    splitOnDouble separator (text ++ separator :: separator :: rest) =
      text :: splitOnDouble separator rest := by
  induction text with
  | nil => rw [List.nil_append, splitOnDouble, if_pos ⟨rfl, rfl⟩]
  | cons first tail ih =>
    have fewer : tail.count separator ≤ 1 := (List.count_le_count_cons).trans few
    cases tail with
    | nil =>
      have different : ¬(first = separator ∧ separator = separator) := fun same =>
        last (congrArg some same.1)
      rw [List.cons_append, List.nil_append, splitOnDouble, if_neg different,
        show splitOnDouble separator (separator :: separator :: rest) =
          [] :: splitOnDouble separator rest by rw [splitOnDouble, if_pos ⟨rfl, rfl⟩]]
    | cons second tail =>
      have different : ¬(first = separator ∧ second = separator) := by
        rintro ⟨rfl, rfl⟩
        simp only [List.count_cons_self] at few
        omega
      have ended : (second :: tail).getLast? ≠ some separator := by
        rwa [List.getLast?_cons_cons] at last
      have read := ih fewer ended
      rw [List.cons_append] at read
      rw [List.cons_append, List.cons_append, splitOnDouble, if_neg different, read]

end Text
