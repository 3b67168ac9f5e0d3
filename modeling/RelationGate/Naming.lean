import RelationGate.Error
import RelationGate.Text.Blank

/-!
# Naming rules

The name of an object type, a relation or a permission starts with a lower-case letter and goes on
with lower-case letters, digits and underscores, a type name also with slashes. An object id may
hold any character but white space and the three separators of the written form. Lengths count
the bytes of UTF-8.
-/

namespace RelationGate

open Text

/-- The most bytes of a name. -/
def maxNameLength : Nat := 128

/-- The most bytes of an object id. -/
def maxIdLength : Nat := 1024

/-- A lower-case ASCII letter. -/
def isLowerLetter (c : Char) : Bool := 'a' ≤ c && c ≤ 'z'

/-- A decimal digit. -/
def isDecimalDigit (c : Char) : Bool := '0' ≤ c && c ≤ '9'

/-- A character of a relation name. -/
def isRelationChar (c : Char) : Bool := isLowerLetter c || isDecimalDigit c || c == '_'

/-- A character of a type name. -/
def isTypeChar (c : Char) : Bool := isRelationChar c || c == '/'

/-- The characters of a name whose later ones are in a class. -/
def isNameOf (later : Char → Bool) : List Char → Bool
  | [] => false
  | c :: cs => isLowerLetter c && cs.all later

/-- A character that an object id may not hold. -/
def isReserved (c : Char) : Bool := isBlank c || c == '#' || c == '@' || c == ':'

/-- A broken naming rule. -/
inductive NameFault where
  | empty
  | tooLong (limit : Nat)
  | badCharacters (name : String)
  deriving DecidableEq

/-- The words of a broken rule for a field. -/
def NameFault.describe (field : String) : NameFault → String
  | .empty => field ++ " must not be empty"
  | .tooLong limit => field ++ " exceeds " ++ toString limit ++ " characters"
  | .badCharacters name => field ++ " has invalid characters: " ++ quoted name

/-- The first rule that a text breaks. -/
def nameFault? (limit : Nat) (wellFormed : List Char → Bool) (s : String) : Option NameFault :=
  if s.isEmpty then some .empty
  else if limit < s.utf8ByteSize then some (.tooLong limit)
  else if wellFormed s.toList then none
  else some (.badCharacters s)

/-- Refuses a text that breaks a rule. -/
def checkName (field : String) (fault : Option NameFault) : Except BackendError Unit :=
  match fault with
  | none => .ok ()
  | some fault => .error (invalid (fault.describe field))

/-- Checks the name of an object type. -/
def checkTypeName (field name : String) : Except BackendError Unit :=
  checkName field (nameFault? maxNameLength (isNameOf isTypeChar) name)

/-- Checks the name of a relation or a permission. -/
def checkRelationName (field name : String) : Except BackendError Unit :=
  checkName field (nameFault? maxNameLength (isNameOf isRelationChar) name)

/-- Checks an object id. -/
def checkObjectId (id : String) : Except BackendError Unit :=
  checkName "object_id" (nameFault? maxIdLength (fun cs => cs.all (!isReserved ·)) id)

/-- Checks a text that need not be there. -/
def checkOptional (check : String → Except BackendError Unit) :
    Option String → Except BackendError Unit
  | none => .ok ()
  | some s => check s

end RelationGate
