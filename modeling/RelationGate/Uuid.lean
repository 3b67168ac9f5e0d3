/-!
# Identifiers of 128 bits

A fresh identifier begins with the moment at which it was made, so that later ones sort after
earlier ones. The rest is random, apart from the two marks of its layout: the version, which is 7,
and the variant, which is 2.
-/

namespace RelationGate

/-- An identifier of 128 bits. -/
structure Uuid where
  bits : BitVec 128
  deriving DecidableEq

namespace Uuid

/-- One more than the largest number of 74 bits, as many as an identifier has at random. -/
def randomBound : Nat := 1 <<< 74

/-- The identifier of a moment, in milliseconds since the beginning of 1970, with random bits. -/
def ofMoment (moment random : Nat) : Uuid :=
  ⟨BitVec.ofNat 48 moment ++ 7#4 ++ BitVec.ofNat 12 (random >>> 62) ++ 2#2 ++
    BitVec.ofNat 62 random⟩

/-- The version of the layout. -/
def version (u : Uuid) : Nat := (u.bits.extractLsb' 76 4).toNat

/-- Cuts a list into groups of given lengths. -/
def groups {α : Type} : List Nat → List α → List (List α)
  | [], _ => []
  | n :: ns, as => as.take n :: groups ns (as.drop n)

/-- The text of an identifier: its hexadecimal digits in five groups. -/
def text (u : Uuid) : String :=
  String.intercalate "-" ((groups [8, 4, 4, 4, 12] u.bits.toHex.toList).map String.ofList)

end Uuid

end RelationGate
