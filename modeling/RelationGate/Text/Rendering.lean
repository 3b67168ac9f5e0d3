import RelationGate.Text.Printable

/-!
# Structural rendering

The one-line form in which a value appears in the log and in error texts: a text is quoted, a
record shows its name and its fields in order, an absent value is `None` and a present one
`Some(..)`. A record without fields shows its name alone.
-/

namespace RelationGate.Text

/-- A code point in lower-case hexadecimal, without padding. -/
def hex (n : Nat) : String :=
  String.ofList (Nat.toDigits 16 n)

/-- One character as it stands inside quotes. -/
def quotedChar (c : Char) : String :=
  if c = '\x00' then "\\0"
  else if c = '\t' then "\\t"
  else if c = '\n' then "\\n"
  else if c = '\r' then "\\r"
  else if c = '"' then "\\\""
  else if c = '\\' then "\\\\"
  else if isPrintable c then c.toString
  else "\\u\x7b" ++ hex c.toNat ++ "\x7d"

/-- A text in quotes. A single quote needs no escape. -/
def quoted (s : String) : String :=
  "\"" ++ String.join (s.toList.map quotedChar) ++ "\""

/-- Values with a structural rendering. -/
class Render (α : Type) where
  /-- The one-line form of a value. -/
  render : α → String

export Render (render)

instance : Render String := ⟨quoted⟩
instance : Render Nat := ⟨fun n => toString n⟩
instance : Render Bool := ⟨fun b => if b then "true" else "false"⟩

/-- A named group of values in parentheses. -/
def renderTuple (name : String) (arguments : List String) : String :=
  name ++ "(" ++ String.intercalate ", " arguments ++ ")"

/-- A named record with its fields in order. -/
def renderRecord (name : String) (fields : List (String × String)) : String :=
  if fields.isEmpty then name
  else
    name ++ " \x7b " ++ String.intercalate ", " (fields.map fun f => f.1 ++ ": " ++ f.2) ++ " \x7d"

instance {α : Type} [Render α] : Render (Option α) where
  render
    | none => "None"
    | some a => renderTuple "Some" [render a]

instance {α : Type} [Render α] : Render (List α) where
  render xs := "[" ++ String.intercalate ", " (xs.map render) ++ "]"

end RelationGate.Text
