import RelationGate.Call.Context
import RelationGate.Number.Decimal

/-!
# Which events are logged

The log level is a list of directives with commas between them. A directive names a level, a source
of events, or both; a source alone admits every level, and a source stands for all sources that begin
with it. Of the directives that an event falls under, the one with the longest source decides, and of
two with the same source the later one. A directive that cannot be read is left out with a complaint.
Without any directive at all only errors are logged.
-/

namespace RelationGate.Daemon

open Number

/-- How many levels are at least as grave. -/
def rank : Level → Nat
  | .error => 1
  | .warn => 2
  | .info => 3

/-- A directive: the source it is for, if it is for one, and up to which rank it admits events. -/
structure Directive where
  source : Option String
  most : Nat
  deriving DecidableEq, Repr

/-- Why a directive is left out. -/
inductive DirectiveFault where
  | form
  | level
  deriving DecidableEq, Repr

/-- The words of a fault. -/
def DirectiveFault.describe : DirectiveFault → String
  | form => "invalid filter directive"
  | level =>
    "error parsing level filter: expected one of \"off\", \"error\", \"warn\", \"info\", " ++
      "\"debug\", \"trace\", or a number 0-5"

namespace Directive

/-- The ranks of the named levels. -/
def ranks : List (String × Nat) :=
  [("off", 0), ("error", 1), ("warn", 2), ("info", 3), ("debug", 4), ("trace", 5)]

/-- The rank that admits every event. -/
def everything : Nat := 5

/-- The rank that a level stands for: a name in any case, or a number. -/
def rank? (s : String) : Option Nat :=
  match word? s with
  | some n => if n ≤ everything then some n else none
  | none => ranks.lookup s.toLower

/-- A directive may begin with this character. -/
def isInitial (c : Char) : Bool :=
  c.isAlphanum || c == '-' || c == ':' || c == '_' || (0x80 ≤ c.toNat && !Text.isBlank c)

/-- The directive that a text stands for. -/
def ofText (s : String) : Except DirectiveFault Directive :=
  let cs := s.toList
  if !((Text.trimChars cs).head?.map isInitial).getD false then .error .form
  else
    let source := String.ofList (cs.takeWhile (· ≠ '='))
    match cs.dropWhile (· ≠ '=') with
    | [] =>
      match rank? s with
      | some most => .ok ⟨none, most⟩
      | none => .ok ⟨some s, everything⟩
    | [_] => .ok ⟨some source, everything⟩
    | _ :: level =>
      match rank? (String.ofList level) with
      | some most => .ok ⟨some source, most⟩
      | none => .error .level

/-- An event of a source falls under a directive. -/
def covers (d : Directive) (source : String) : Bool :=
  match d.source with
  | none => true
  | some s => source.startsWith s

/-- How closely a directive picks its events. -/
def weight (d : Directive) : Nat :=
  match d.source with
  | none => 0
  | some s => s.utf8ByteSize + 1

end Directive

/-- Which events are logged. -/
structure LogFilter where
  directives : List Directive
  /-- What is said about the directives that were left out. -/
  complaints : List String
  deriving DecidableEq, Repr

namespace LogFilter

/-- Adds a directive. -/
def add (f : LogFilter) (text : String) : LogFilter :=
  match Directive.ofText text with
  | .ok d => { f with directives := f.directives ++ [d] }
  | .error e =>
    { f with complaints := f.complaints ++ ["ignoring `" ++ text ++ "`: " ++ e.describe] }

/-- The filter that a log level stands for. -/
def ofText (level : String) : LogFilter :=
  ((level.toList.splitOn ',').filter (· ≠ [])).foldl (fun f cs => f.add (String.ofList cs)) ⟨[], []⟩

/-- The directive that decides on events of a source. -/
def deciding (f : LogFilter) (source : String) : Option Directive :=
  f.directives.foldl (fun best d =>
    if !d.covers source then best
    else
      match best with
      | some b => if d.weight < b.weight then best else some d
      | none => some d) none

/-- An event is logged. -/
def admits (f : LogFilter) (e : Event) : Bool :=
  if f.directives.isEmpty then rank e.level ≤ rank .error
  else
    match f.deciding e.source with
    | some d => rank e.level ≤ d.most
    | none => false

end LogFilter

end RelationGate.Daemon
