import RelationGate.Json.Value
import RelationGate.Text.Rendering

/-!
# Why a document is refused

A fault is a cause and, for a document given as text, the place where reading stopped: the line,
counted from one, and the number of bytes read in it. A fault of a document that is already a
value has no place.
-/

namespace RelationGate.Json

open Number Text

/-- What stands where something else was wanted. -/
inductive Found where
  | null
  | flag (value : Bool)
  | integer (value : Int)
  | float (value : Binary64)
  | text (value : String)
  | sequence
  | map
  deriving DecidableEq

/-- What a document is, for a fault. -/
def found : Json → Found
  | .null => .null
  | .bool b => .flag b
  | .int n => .integer n
  | .float x => .float x
  | .str s => .text s
  | .arr _ => .sequence
  | .obj _ => .map

/-- The words of a fault for what was found. -/
def Found.describe : Found → String
  | .null => "null"
  | .flag b => "boolean `" ++ render b ++ "`"
  | .integer n => "integer `" ++ toString n ++ "`"
  | .float x => "floating point `" ++ Binary64.text Binary64.documentLayout x ++ "`"
  | .text s => "string " ++ quoted s
  | .sequence => "sequence"
  | .map => "map"

/-- A text that is no document. -/
inductive Malformed where
  | endInValue
  | endInList
  | endInObject
  | endInText
  | noValue
  | noIdent
  | noColon
  | noListEnd
  | noObjectEnd
  | keyNotText
  | trailingComma
  | trailingCharacters
  | badNumber
  | numberOutOfRange
  | badEscape
  | endOfSurrogatePair
  | loneSurrogate
  | controlCharacter
  | badCodePoint
  | tooDeep
  deriving DecidableEq

/-- The words for a text that is no document. -/
def Malformed.describe : Malformed → String
  | .endInValue => "EOF while parsing a value"
  | .endInList => "EOF while parsing a list"
  | .endInObject => "EOF while parsing an object"
  | .endInText => "EOF while parsing a string"
  | .noValue => "expected value"
  | .noIdent => "expected ident"
  | .noColon => "expected `:`"
  | .noListEnd => "expected `,` or `]`"
  | .noObjectEnd => "expected `,` or `\x7d`"
  | .keyNotText => "key must be a string"
  | .trailingComma => "trailing comma"
  | .trailingCharacters => "trailing characters"
  | .badNumber => "invalid number"
  | .numberOutOfRange => "number out of range"
  | .badEscape => "invalid escape"
  | .endOfSurrogatePair => "unexpected end of hex escape"
  | .loneSurrogate => "lone leading surrogate in hex escape"
  | .controlCharacter => "control character (\\u0000-\\u001F) found while parsing a string"
  | .badCodePoint => "invalid unicode code point"
  | .tooDeep => "recursion limit exceeded"

/-- The cause of a refusal. -/
inductive Cause where
  | malformed (what : Malformed)
  | invalidType (found : Found) (expected : String)
  | invalidValue (found : Found) (expected : String)
  | invalidLength (length : Nat) (expected : String)
  | unknownVariant (name : String) (known : List String)
  | missingField (name : String)
  | duplicateField (name : String)
  /-- A document fits none of the branches of a choice. -/
  | noBranch (choice : String)
  deriving DecidableEq

/-- A name between back quotes. -/
def backQuoted (name : String) : String := "`" ++ name ++ "`"

/-- The known names of a closed choice. -/
def describeKnown : List String → String
  | [] => "there are no variants"
  | [a] => "expected " ++ backQuoted a
  | [a, b] => "expected " ++ backQuoted a ++ " or " ++ backQuoted b
  | names => "expected one of " ++ String.intercalate ", " (names.map backQuoted)

/-- The words of a cause. -/
def Cause.describe : Cause → String
  | .malformed what => what.describe
  | .invalidType found expected =>
    "invalid type: " ++ found.describe ++ ", expected " ++ expected
  | .invalidValue found expected =>
    "invalid value: " ++ found.describe ++ ", expected " ++ expected
  | .invalidLength n expected => "invalid length " ++ toString n ++ ", expected " ++ expected
  | .unknownVariant name known =>
    "unknown variant " ++ backQuoted name ++ ", " ++ describeKnown known
  | .missingField name => "missing field " ++ backQuoted name
  | .duplicateField name => "duplicate field " ++ backQuoted name
  | .noBranch choice => "data did not match any variant of untagged enum " ++ choice

/-- A place in a text. -/
structure Place where
  line : Nat
  column : Nat
  deriving DecidableEq

/-- A refusal. -/
structure Fault where
  cause : Cause
  place : Option Place := none
  deriving DecidableEq

/-- The words of a refusal. -/
def Fault.describe (f : Fault) : String :=
  match f.place with
  | none => f.cause.describe
  | some p =>
    f.cause.describe ++ " at line " ++ toString p.line ++ " column " ++ toString p.column

end RelationGate.Json
