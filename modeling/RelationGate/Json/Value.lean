import RelationGate.Number.Binary64

/-!
# Documents

A document is null, a truth value, a number, a text, a list or an object. A whole number that
fits a signed or an unsigned 64-bit word is exact; every other number is a binary64 value. The
members of an object are kept in the order of their names by code point, each name once.
-/

namespace RelationGate

open Number

/-- A document. -/
inductive Json where
  | null
  | bool (value : Bool)
  | int (value : Int)
  | float (value : Binary64)
  | str (value : String)
  | arr (elements : List Json)
  | obj (members : List (String × Json))
  deriving Inhabited

namespace Json

/-- The members with one more, in place of an earlier one of the same name. -/
def insertMember (name : String) (value : Json) : List (String × Json) → List (String × Json)
  | [] => [(name, value)]
  | (other, old) :: rest =>
    if name = other then (name, value) :: rest
    else if name < other then (name, value) :: (other, old) :: rest
    else (other, old) :: insertMember name value rest

/-- The object of some members, in any order; of two with one name the later counts. -/
def ofMembers (members : List (String × Json)) : Json :=
  .obj (members.foldl (fun sorted m => insertMember m.1 m.2 sorted) [])

/-- The object without members. -/
def empty : Json := .obj []

/-- A natural number. -/
def nat (n : Nat) : Json := .int n

/-- The member of a name, if the document is an object that has one. -/
def member? (name : String) : Json → Option Json
  | .obj members => members.lookup name
  | _ => none

end Json

end RelationGate
