/-!
# Scanners

A scanner takes characters off the front of a text and gives a value, or refuses; an alternative
starts again where the refused one did. Repetition goes on for as long as its scanner succeeds, and
is bounded by the unread characters because every round takes at least one.
-/

namespace RelationGate.Text

/-- A reader of characters that may refuse. -/
abbrev Scan := StateT (List Char) Option

namespace Scan

/-- The next character, unread. -/
def peek : Scan (Option Char) := return (← get).head?

/-- Takes one character. -/
def next : Scan Char := do
  match ← get with
  | [] => failure
  | c :: rest =>
    set rest
    return c

/-- Takes one character of a class. -/
def satisfy (p : Char → Bool) : Scan Char := do
  let c ← next
  if p c then return c else failure

/-- Takes one given character. -/
def char (c : Char) : Scan Unit := discard (satisfy (· == c))

/-- Takes a given text. -/
def literal (s : String) : Scan Unit := s.toList.forM char

/-- Takes the characters of a class as far as they go. -/
def run (p : Char → Bool) : Scan (List Char) :=
  modifyGet fun cs => (cs.takeWhile p, cs.dropWhile p)

/-- Takes the characters of a class as far as they go, at least one. -/
def someRun (p : Char → Bool) : Scan (List Char) := do
  let cs ← run p
  if cs.isEmpty then failure else return cs

/-- Takes so many characters of a class. -/
def exactly (n : Nat) (p : Char → Bool) : Scan (List Char) :=
  (List.replicate n ()).mapM fun _ => satisfy p

/-- What a scanner gives, or nothing where it refuses. -/
def maybe {α : Type} (p : Scan α) : Scan (Option α) := some <$> p <|> pure none

/-- Repeats a scanner for at most so many rounds. -/
def manyFrom {α : Type} (p : Scan α) : Nat → List Char → List α × List Char
  | 0, cs => ([], cs)
  | rounds + 1, cs =>
    match p cs with
    | none => ([], cs)
    | some (a, rest) =>
      let (others, rest) := manyFrom p rounds rest
      (a :: others, rest)

/-- Repeats a scanner as long as it succeeds. -/
def many {α : Type} (p : Scan α) : Scan (List α) :=
  modifyGet fun cs => manyFrom p cs.length cs

/-- One or more pieces with separators between them. -/
def sepBy1 {α : Type} (p : Scan α) (separator : Scan Unit) : Scan (List α) := do
  let first ← p
  return first :: (← many (separator *> p))

/-- Any number of pieces with separators between them. -/
def sepBy {α : Type} (p : Scan α) (separator : Scan Unit) : Scan (List α) :=
  sepBy1 p separator <|> pure []

/-- The end of the text. -/
def atEnd : Scan Unit := do
  if (← get).isEmpty then return () else failure

/-- What a scanner makes of a whole text. -/
def whole {α : Type} (p : Scan α) (s : String) : Option α :=
  match p s.toList with
  | some (a, []) => some a
  | _ => none

end Scan

end RelationGate.Text
