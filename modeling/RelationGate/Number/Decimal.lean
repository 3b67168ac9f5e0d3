import RelationGate.Number.Word

/-!
# Decimal words

The tokens of the store are unsigned 64-bit numbers in decimal. Writing gives the digits without
sign or leading zero; reading admits one plus sign and leading zeros, and refuses an empty digit
string, any other character and a value of 2^64 or more.
-/

namespace RelationGate.Number

/-- The value of a decimal digit. -/
def digit? (c : Char) : Option Nat :=
  if '0' ≤ c ∧ c ≤ '9' then some (c.toNat - '0'.toNat) else none

/-- The value of a string of decimal digits read after `acc`. -/
def digits? : List Char → Nat → Option Nat
  | [], acc => some acc
  | c :: cs, acc => do digits? cs (10 * acc + (← digit? c))

/-- An unsigned decimal number: at least one digit. -/
def natural? : List Char → Option Nat
  | [] => none
  | c :: cs => digits? (c :: cs) 0

/-- The characters without one leading plus sign. -/
def withoutPlus : List Char → List Char
  | '+' :: cs => cs
  | cs => cs

/-- The 64-bit word that a decimal text stands for. -/
def word? (s : String) : Option Nat := do
  let n ← natural? (withoutPlus s.toList)
  if n < wordBound then some n else none

/-- The decimal text of a number. -/
def decimal (n : Nat) : String := toString n

end RelationGate.Number
