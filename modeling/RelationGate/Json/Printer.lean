import RelationGate.Json.Value

/-!
# The text of a document

Documents are written without blanks, members in the order in which they are kept. In a text only
the quote, the backslash and the controls below U+0020 are escaped, so a written document never
holds a line break.
-/

namespace RelationGate.Json

open Number

/-- Two hexadecimal digits. -/
def hexPair (n : Nat) : List Char :=
  [Nat.digitChar (n / 16 % 16), Nat.digitChar (n % 16)]

/-- One character as it stands between quotes. -/
def escapedChar (c : Char) : List Char :=
  if c = '"' then ['\\', '"']
  else if c = '\\' then ['\\', '\\']
  else if c = '\x08' then ['\\', 'b']
  else if c = '\x0c' then ['\\', 'f']
  else if c = '\n' then ['\\', 'n']
  else if c = '\r' then ['\\', 'r']
  else if c = '\t' then ['\\', 't']
  else if c.toNat < 0x20 then ['\\', 'u', '0', '0'] ++ hexPair c.toNat
  else [c]

/-- A text between quotes. -/
def quotedChars (s : String) : List Char :=
  '"' :: s.toList.flatMap escapedChar ++ ['"']

/-- The pieces with commas between them. -/
def separated : List (List Char) → List Char
  | [] => []
  | [piece] => piece
  | piece :: rest => piece ++ ',' :: separated rest

mutual

/-- The characters of a written document. -/
def chars : Json → List Char
  | .null => ['n', 'u', 'l', 'l']
  | .bool true => ['t', 'r', 'u', 'e']
  | .bool false => ['f', 'a', 'l', 's', 'e']
  | .int n => (toString n).toList
  | .float x => (Binary64.text Binary64.documentLayout x).toList
  | .str s => quotedChars s
  | .arr xs => '[' :: separated (elementChars xs) ++ [']']
  | .obj ms => '{' :: separated (memberChars ms) ++ ['}']

/-- The written elements of a list. -/
def elementChars : List Json → List (List Char)
  | [] => []
  | x :: xs => chars x :: elementChars xs

/-- The written members of an object. -/
def memberChars : List (String × Json) → List (List Char)
  | [] => []
  | (name, x) :: ms => (quotedChars name ++ ':' :: chars x) :: memberChars ms

end

/-- The text of a document. -/
def text (j : Json) : String := String.ofList (chars j)

/-- An object with its members in the given order, already written. -/
def objectText (members : List (String × String)) : String :=
  "\x7b" ++ String.intercalate ","
    (members.map fun m => String.ofList (quotedChars m.1) ++ ":" ++ m.2) ++ "\x7d"

end RelationGate.Json
