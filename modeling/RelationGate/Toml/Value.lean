/-!
# Tables of a configuration text

A configuration text in TOML describes a table of named values. Its lines add to the table one
after the other, and how an inner table came to be decides who may still add to it: a table with a
header of its own takes no dotted keys from outside, a table made by dotted keys gets no header, and
a value written as a whole, such as an inline table, is closed.
-/

namespace RelationGate.Toml

/-- How a table came to be. -/
inductive Origin where
  /-- It has a header of its own, or it is the outermost table. -/
  | declared
  /-- Only tables inside it have headers. -/
  | implied
  /-- Dotted keys have made it. -/
  | dotted
  deriving DecidableEq, Repr

/-- A value. A float and a moment are kept as they are written. -/
inductive Value where
  | text (value : String)
  | integer (value : Int)
  | float (written : String)
  | flag (value : Bool)
  /-- A date, a time or both. -/
  | moment (written : String)
  | list (elements : List Value)
  /-- A table written in braces. -/
  | inline (members : List (String × Value))
  | table (origin : Origin) (members : List (String × Value))
  /-- A list of tables, each under a header of the list. -/
  | rows (tables : List (List (String × Value)))
  deriving Inhabited

/-- The members of a table, each name once, in the order of their first mention. -/
abbrev Members := List (String × Value)

namespace Members

/-- Changes what stands under a name, where nothing may stand as yet. -/
def change (name : String) (f : Option Value → Option Value) : Members → Option Members
  | [] => (f none).map fun v => [(name, v)]
  | (other, v) :: rest =>
    if other = name then (f (some v)).map fun v => (name, v) :: rest
    else (change name f rest).map ((other, v) :: ·)

/-- Changes the table at the end of a path. Tables that are missing on the way arise from what
makes them; a list of tables is entered at its last one. -/
def changeAt (maker : Origin) (f : Origin → Members → Option Members) :
    List String → Origin → Members → Option Members
  | [], origin, members => f origin members
  | name :: path, _, members =>
    members.change name fun
      | none => (changeAt maker f path maker []).map (.table maker)
      | some (.table origin inner) =>
        if maker = .dotted ∧ origin = .declared then none
        else (changeAt maker f path origin inner).map (.table origin)
      | some (.rows tables) =>
        match tables.getLast? with
        | none => none
        | some last =>
          (changeAt maker f path .declared last).map fun last => .rows (tables.dropLast ++ [last])
      | some _ => none

/-- Gives a value to a dotted key: a path and a name. Nothing may stand there, and only a key with
a path may add to a table that dotted keys have made. -/
def assign (path : List String) (name : String) (value : Value) (members : Members) :
    Option Members :=
  changeAt .dotted
    (fun origin inner =>
      if (origin == .dotted) == path.isEmpty then none
      else inner.change name fun
        | none => some value
        | some _ => none)
    path .declared members

/-- The table of some dotted keys and their values. -/
def ofPairs (pairs : List ((List String × String) × Value)) : Option Members :=
  pairs.foldlM (fun members pair => members.assign pair.1.1 pair.1.2 pair.2) []

end Members

/-- A line of a configuration text that says something. -/
inductive Line where
  | assign (path : List String) (name : String) (value : Value)
  /-- The header of a table. -/
  | table (path : List String) (name : String)
  /-- The header of one more table in a list. -/
  | row (path : List String) (name : String)

/-- A table that is being filled, and where in it the next values go. -/
structure Draft where
  members : Members := []
  current : List String := []

namespace Draft

/-- Opens what a header names and makes it current. -/
def openAt (d : Draft) (path : List String) (name : String)
    (f : Option Value → Option Value) : Option Draft := do
  let members ← d.members.changeAt .implied (fun _ inner => inner.change name f) path .declared
  return { members, current := path ++ [name] }

/-- Adds a line. A table gets its header only once, but it may come after those of tables inside
it. -/
def add (d : Draft) : Line → Option Draft
  | .assign path name value => do
    let members ← d.members.changeAt .implied
      (fun _ inner => inner.assign path name value) d.current .declared
    return { d with members }
  | .table path name => d.openAt path name fun
    | none => some (.table .declared [])
    | some (.table .implied inner) => some (.table .declared inner)
    | some _ => none
  | .row path name => d.openAt path name fun
    | none => some (.rows [[]])
    | some (.rows tables) => some (.rows (tables ++ [[]]))
    | some _ => none

/-- The table that some lines describe. -/
def ofLines (lines : List Line) : Option Members :=
  (lines.foldlM add {}).map (·.members)

end Draft

end RelationGate.Toml
