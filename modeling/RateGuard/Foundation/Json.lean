import Mathlib

/-!
# Serialized documents

Documents as trees, and their compact text: no whitespace, characters outside ASCII as they are,
quotation marks, backslashes and control characters escaped.
-/

/-- A document. Numbers are kept by their text, and the entries of an object in their order. -/
inductive JsonTree where
  | null
  | bool (value : Bool)
  | number (text : List Char)
  | str (text : List Char)
  | array (items : List JsonTree)
  | object (entries : List (List Char × JsonTree))

namespace JsonTree

/-- Hexadecimal digit. -/
def hexDigit (value : Nat) : Char := if value < 10 then Char.ofNat (48 + value) else Char.ofNat (87 + value)

/-- A character within quotation marks. -/
def escape (character : Char) : List Char :=
  if character = '"' then ['\\', '"']
  else if character = '\\' then ['\\', '\\']
  else if character = '\n' then ['\\', 'n']
  else if character = '\r' then ['\\', 'r']
  else if character = '\t' then ['\\', 't']
  else if character.toNat = 8 then ['\\', 'b']
  else if character.toNat = 12 then ['\\', 'f']
  else if character.toNat < 32 then
    ['\\', 'u', '0', '0', hexDigit (character.toNat / 16), hexDigit (character.toNat % 16)]
  else [character]

/-- A text in quotation marks. -/
def quote (text : List Char) : List Char := '"' :: text.flatMap escape ++ ['"']

mutual

/-- Compact text of a document. -/
def print : JsonTree → List Char
  | null => ['n', 'u', 'l', 'l']
  | bool true => ['t', 'r', 'u', 'e']
  | bool false => ['f', 'a', 'l', 's', 'e']
  | number text => text
  | str text => quote text
  | array items => '[' :: printItems items ++ [']']
  | object entries => '{' :: printEntries entries ++ ['}']

/-- Items, separated by commas. -/
def printItems : List JsonTree → List Char
  | [] => []
  | item :: rest => print item ++ (if rest.isEmpty then [] else ',' :: printItems rest)

/-- Entries, separated by commas. -/
def printEntries : List (List Char × JsonTree) → List Char
  | [] => []
  | (key, value) :: rest =>
    quote key ++ ':' :: print value ++ (if rest.isEmpty then [] else ',' :: printEntries rest)

end

/-- Number of bytes of the text in UTF-8. -/
def size (document : JsonTree) : Nat := (document.print.map Char.utf8Size).sum

end JsonTree
