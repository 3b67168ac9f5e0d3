/-!
# Digits in a base

Digits beyond nine are the letters from `a` to `f`, in either case.
-/

namespace RelationGate.Number

/-- A decimal digit. -/
def isDecimal (c : Char) : Bool := '0' ≤ c && c ≤ '9'

/-- The value of a digit in a base up to sixteen. -/
def digitIn? (base : Nat) (c : Char) : Option Nat :=
  let n :=
    if '0' ≤ c ∧ c ≤ '9' then c.toNat - 48
    else if 'a' ≤ c ∧ c ≤ 'f' then c.toNat - 87
    else if 'A' ≤ c ∧ c ≤ 'F' then c.toNat - 55
    else base
  if n < base then some n else none

/-- A digit in a base up to sixteen. -/
def isDigitIn (base : Nat) (c : Char) : Bool := (digitIn? base c).isSome

/-- The number that some digits write; other characters count as zero. -/
def numberIn (base : Nat) (digits : List Char) : Nat :=
  digits.foldl (fun n c => base * n + (digitIn? base c).getD 0) 0

end RelationGate.Number
