import RelationGate.Toml.Document

/-!
# Sections of a configuration

A section is a table of settings or a list of them in their order. What it does not have takes its
default, and what it has beyond the known settings does not count.
-/

namespace RelationGate.Config

open Toml

/-- The settings of a section. -/
inductive Section where
  | named (members : Members)
  | listed (elements : List Value)

namespace Section

/-- The section that a value stands for. A date or a time is one without known settings. -/
def of : Value → Option Section
  | .inline members | .table _ members => some (.named members)
  | .list elements => some (.listed elements)
  | .rows tables => some (.listed (tables.map (.table .declared)))
  | .moment _ => some (.named [])
  | _ => none

/-- The value of a setting, by its name or by its place. -/
def value? (s : Section) (place : Nat) (name : String) : Option Value :=
  match s with
  | named members => members.lookup name
  | listed elements => elements[place]?

/-- A setting of a type, or its default. -/
def get {α : Type} (s : Section) (place : Nat) (name : String) (read : Value → Option α)
    (default : α) : Option α :=
  match s.value? place name with
  | some v => read v
  | none => some default

end Section

/-- A text. -/
def text? : Value → Option String
  | .text s => some s
  | _ => none

/-- A truth value. -/
def flag? : Value → Option Bool
  | .flag b => some b
  | _ => none

/-- A whole number from zero up to below a bound. -/
def below? (bound : Nat) : Value → Option Nat
  | .integer n => if 0 ≤ n ∧ n < bound then some n.toNat else none
  | _ => none

/-- A word of 16 bits. -/
def word16? (v : Value) : Option UInt16 := (below? UInt16.size v).map UInt16.ofNat

/-- A word of 32 bits. -/
def word32? (v : Value) : Option UInt32 := (below? UInt32.size v).map UInt32.ofNat

/-- A word of 64 bits. -/
def word64? (v : Value) : Option UInt64 := (below? UInt64.size v).map UInt64.ofNat

end RelationGate.Config
