import RelationGate.Text.Scan
import RelationGate.Toml.Value
import RelationGate.Number.Binary64
import RelationGate.Number.Digits
import RelationGate.Number.Word
import RelationGate.Calendar

/-!
# Words of a configuration text

Blanks and comments, keys, and the values that hold no other values: texts in their four forms,
numbers, truth values, dates and times.
-/

namespace RelationGate.Toml

open Text Scan Number

/-! ## Blanks and comments -/

/-- A blank inside a line. -/
def isSpace (c : Char) : Bool := c == ' ' || c == '\t'

/-- A character that may stand in a text or a comment: any but the control characters, the tab
being none of them. -/
def isPlain (c : Char) : Bool := c == '\t' || (' ' ≤ c && c ≠ '\x7f')

/-- Blanks inside a line. -/
def spaces : Scan Unit := discard (run isSpace)

/-- The end of a line. -/
def newline : Scan Unit := char '\n' <|> literal "\r\n"

/-- A comment, up to the end of its line. -/
def comment : Scan Unit := do
  char '#'
  discard (run isPlain)

/-- The end of a line or of the text. -/
def lineEnd : Scan Unit := newline <|> atEnd

/-- What may follow a statement on its line. -/
def restOfLine : Scan Unit := do
  spaces
  discard (maybe comment)
  lineEnd

/-- Blanks, comments and line ends between the elements of a list. -/
def gap : Scan Unit := discard (many (discard (someRun isSpace) <|> newline <|> comment))

/-! ## Texts -/

/-- The character of a code point in so many hexadecimal digits. -/
def codePoint (digits : Nat) : Scan Char := do
  let n := numberIn 16 (← exactly digits (isDigitIn 16))
  if n.isValidChar then return Char.ofNat n else failure

/-- A character written with a backslash. -/
def escaped : Scan Char := do
  char '\\'
  match ← next with
  | 'b' => return '\x08'
  | 't' => return '\t'
  | 'n' => return '\n'
  | 'f' => return '\x0c'
  | 'r' => return '\r'
  | '"' => return '"'
  | '\\' => return '\\'
  | 'u' => codePoint 4
  | 'U' => codePoint 8
  | _ => failure

/-- A character that stands for itself in double quotes. -/
def isBasic (c : Char) : Bool := isPlain c && c ≠ '"' && c ≠ '\\'

/-- A character that stands for itself in single quotes. -/
def isLiteral (c : Char) : Bool := isPlain c && c ≠ '\''

/-- A text in double quotes. -/
def basicText : Scan String := do
  char '"'
  let cs ← many (satisfy isBasic <|> escaped)
  char '"'
  return String.ofList cs

/-- A text in single quotes. -/
def literalText : Scan String := do
  char '\''
  let cs ← run isLiteral
  char '\''
  return String.ofList cs

/-- A line end that a backslash takes away, with the blanks after it. -/
def joinedLine : Scan Unit := do
  char '\\'
  spaces
  newline
  discard (many (discard (someRun isSpace) <|> newline))

/-- One or two quotes inside a text in triple quotes. -/
def innerQuotes (quote : Char) : Scan (List Char) := do
  let quotes ← someRun (· == quote)
  if quotes.length < 3 then return quotes else failure

/-- The three quotes that end a text; one or two more right in front of them belong to it. -/
def closingQuotes (quote : Char) : Scan (List Char) := do
  let quotes ← someRun (· == quote)
  if 3 ≤ quotes.length ∧ quotes.length ≤ 5 then return quotes.drop 3 else failure

/-- A text in triple quotes, of pieces. A line end right after the opening quotes is dropped. -/
def blockText (quote : Char) (piece : Scan (List Char)) : Scan String := do
  literal (String.ofList [quote, quote, quote])
  discard (maybe newline)
  let pieces ← many (piece <|> (newline *> pure ['\n']) <|> innerQuotes quote)
  let last ← closingQuotes quote
  return String.ofList (pieces.flatten ++ last)

/-- A text in triple double quotes. -/
def basicBlock : Scan String :=
  blockText '"'
    (List.singleton <$> satisfy isBasic <|> (joinedLine *> pure []) <|>
      List.singleton <$> escaped)

/-- A text in triple single quotes. -/
def literalBlock : Scan String := blockText '\'' (List.singleton <$> satisfy isLiteral)

/-- A text in one of its four forms. -/
def quotedText : Scan String := basicBlock <|> basicText <|> literalBlock <|> literalText

/-! ## Keys -/

/-- A character of a key without quotes. -/
def isBare (c : Char) : Bool :=
  ('a' ≤ c && c ≤ 'z') || ('A' ≤ c && c ≤ 'Z') || ('0' ≤ c && c ≤ '9') || c == '_' || c == '-'

/-- One part of a key. -/
def keyPart : Scan String := basicText <|> literalText <|> String.ofList <$> someRun isBare

/-- How many parts a key may have, and how deep values may nest. -/
def nestingLimit : Nat := 79

/-- A key: a path and a name. -/
def key : Scan (List String × String) := do
  let parts ← sepBy1 (spaces *> keyPart <* spaces) (char '.')
  match parts.getLast? with
  | some name => if parts.length ≤ nestingLimit then return (parts.dropLast, name) else failure
  | none => failure

/-! ## Numbers -/

/-- Digits of a base; a single underscore may stand between two of them. -/
def digitRun (base : Nat) : Scan (List Char) := do
  let digit := satisfy (isDigitIn base)
  let first ← digit
  return first :: (← many (digit <|> (char '_' *> digit)))

/-- A sign, and whether it is a minus. -/
def sign : Scan Bool := do
  match ← maybe (satisfy fun c => c == '+' || c == '-') with
  | some c => return c == '-'
  | none => return false

/-- The digits of a whole number; only zero itself starts with a zero. -/
def wholeDigits : Scan (List Char) := do
  match ← peek with
  | some '0' => next *> pure ['0']
  | _ => digitRun 10

/-- A whole number within 64 bits with sign. -/
def signed (n : Int) : Scan Value :=
  if -(signWeight : Int) ≤ n ∧ n < signWeight then return .integer n else failure

/-- A whole number in another base than ten, which its mark tells. -/
def markedInteger (mark : String) (base : Nat) : Scan Value := do
  literal mark
  signed (numberIn base (← digitRun base))

/-- A whole number in base ten. -/
def decimalInteger : Scan Value := do
  let minus ← sign
  let n : Int := numberIn 10 (← wholeDigits)
  signed (if minus then -n else n)

/-- A whole number. -/
def integer : Scan Value :=
  markedInteger "0x" 16 <|> markedInteger "0o" 8 <|> markedInteger "0b" 2 <|> decimalInteger

/-- A decimal number lies beyond the largest binary64 value. -/
def isTooLarge (significand : Nat) (exponent : Int) : Bool :=
  let size := exponent + (Nat.toDigits 10 significand).length
  if significand = 0 ∨ size < 0 then false
  else if 400 < size then true
  else if 0 ≤ exponent then (Binary64.roundRatio (significand * Nat.pow 10 exponent.toNat) 1).isNone
  else (Binary64.roundRatio significand (Nat.pow 10 (-exponent).toNat)).isNone

/-- The characters that a scanner takes. -/
def written (p : Scan Unit) : Scan String := do
  let before ← get
  p
  return String.ofList (before.take (before.length - (← get).length))

/-- A number with a fraction or an exponent. A positive one has to be in range. -/
def decimalFloat : Scan Unit := do
  let minus ← sign
  let digits ← wholeDigits
  let fraction ← maybe (char '.' *> digitRun 10)
  let exponent ← maybe do
    discard (satisfy fun c => c == 'e' || c == 'E')
    return (← sign, ← digitRun 10)
  if fraction.isNone ∧ exponent.isNone then failure
  let fraction := fraction.getD []
  let e : Int :=
    match exponent with
    | some (true, ds) => -numberIn 10 ds
    | some (false, ds) => numberIn 10 ds
    | none => 0
  if !minus && isTooLarge (numberIn 10 (digits ++ fraction)) (e - fraction.length) then failure

/-- An infinite number, or none at all. -/
def specialFloat : Scan Unit := do
  discard sign
  literal "inf" <|> literal "nan"

/-! ## Dates and times -/

/-- A number of so many digits. -/
def fixed (digits : Nat) : Scan Nat := numberIn 10 <$> exactly digits isDecimal

/-- A day of the calendar. -/
def date : Scan Unit := do
  let year ← fixed 4
  char '-'
  let month ← fixed 2
  char '-'
  if Calendar.isDate year month (← fixed 2) then return () else failure

/-- A time of day. A minute may have a second more. -/
def time : Scan Unit := do
  let hour ← fixed 2
  char ':'
  let minute ← fixed 2
  char ':'
  let second ← fixed 2
  discard (maybe (char '.' *> someRun isDecimal))
  if Calendar.isTime 61 hour minute second then return () else failure

/-- The distance of a time from the universal one. -/
def offset : Scan Unit :=
  discard (satisfy fun c => c == 'Z' || c == 'z') <|> do
    discard (satisfy fun c => c == '+' || c == '-')
    let hours ← fixed 2
    char ':'
    if Calendar.isTime 60 hours (← fixed 2) 0 then return () else failure

/-- A date, a time or both, with an offset only if both. -/
def moment : Scan Unit :=
  (do
    date
    discard (maybe do
      discard (satisfy fun c => c == 'T' || c == 't' || c == ' ')
      time
      discard (maybe offset))) <|> time

/-- A value that holds no other values. -/
def scalar : Scan Value :=
  .text <$> quotedText <|> .moment <$> written moment <|>
    .float <$> written (decimalFloat <|> specialFloat) <|> integer <|>
    (literal "true" *> pure (.flag true)) <|> (literal "false" *> pure (.flag false))

end RelationGate.Toml
