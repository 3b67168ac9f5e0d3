import RelationGate.Toml.Lexeme

/-!
# Reading a configuration text

A text is a sequence of lines: headers, keys with values, comments and empty lines. A text that
breaks a rule of the format, down to a name given twice, is refused as a whole.
-/

namespace RelationGate.Toml

open Text Scan

/-! ## Values that hold values -/

/-- A list. A comma may follow its last element. -/
def listOf (element : Scan Value) : Scan Value := do
  char '['
  let spaced := gap *> element <* gap
  let elements ← (sepBy1 spaced (char ',') <* maybe (char ',')) <|> pure []
  gap
  char ']'
  return .list elements

/-- A key with its value. -/
def pairOf (value : Scan Value) : Scan ((List String × String) × Value) := do
  let k ← key
  char '='
  spaces
  return (k, ← value)

/-- A table in braces, on one line but for the lists and texts in it. -/
def inlineOf (value : Scan Value) : Scan Value := do
  char '\x7b'
  let pairs ← sepBy (pairOf value <* spaces) (char ',')
  spaces
  char '\x7d'
  match Members.ofPairs pairs with
  | some members => return .inline members
  | none => failure

/-- A value, within so many levels of lists and tables. -/
def value : Nat → Scan Value
  | 0 => scalar
  | levels + 1 => listOf (value levels) <|> inlineOf (value levels) <|> scalar

/-! ## Lines -/

/-- A header. -/
def header : Scan Line :=
  (do
    literal "[["
    let (path, name) ← key
    literal "]]"
    restOfLine
    return .row path name) <|> do
    char '['
    let (path, name) ← key
    char ']'
    restOfLine
    return .table path name

/-- A key with its value on a line of its own. -/
def assignment : Scan Line := do
  let ((path, name), v) ← pairOf (value nestingLimit)
  restOfLine
  return .assign path name v

/-- A line, which need not say anything. -/
def line : Scan (Option Line) :=
  (some <$> header <|> (comment *> lineEnd *> pure none) <|> (newline *> pure none) <|>
    some <$> assignment) <* spaces

/-- The lines of a text that say something. A mark of its encoding may stand in front. -/
def lines : Scan (List Line) := do
  discard (maybe (char '\ufeff'))
  spaces
  return (← many line).reduceOption

/-- The table that a configuration text describes. -/
def read (text : String) : Option Members := do
  Draft.ofLines (← Scan.whole lines text)

end RelationGate.Toml
