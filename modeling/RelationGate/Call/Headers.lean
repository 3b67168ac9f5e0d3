import RelationGate.Text.Blank

/-!
# Headers of a call

Headers are pairs of a name and a value in the order in which they came. Names are compared
without regard to the case of ASCII letters, and of two headers with one name the first counts. A
value is only readable if it consists of visible ASCII characters, spaces and tabs.
-/

namespace RelationGate

open Text

/-- The headers of a call. -/
structure Headers where
  entries : List (String × String) := []
  deriving DecidableEq, Repr

namespace Headers

/-- A character of a readable value. -/
def isReadable (c : Char) : Bool := c == '\t' || (' ' ≤ c && c ≤ '~')

/-- The first value under a name. -/
def first? (h : Headers) (name : String) : Option String :=
  (h.entries.find? fun e => e.1.toLower == name.toLower).map Prod.snd

/-- The readable text under a name, without the blanks around it; an empty one counts as none. -/
def text? (h : Headers) (name : String) : Option String :=
  match h.first? name with
  | none => none
  | some value =>
    if value.toList.all isReadable then
      let trimmed := trim value
      if trimmed.isEmpty then none else some trimmed
    else none

end Headers

end RelationGate
