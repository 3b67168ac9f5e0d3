/-!
# Words of 64 bits

The bounds of words, as natural numbers: a word without sign is below `wordBound`, and one with a
sign lies from `-signWeight` up to below `signWeight`.
-/

namespace RelationGate.Number

/-- One more than the largest 64-bit word. -/
def wordBound : Nat := UInt64.size

/-- The weight of the highest bit of a 64-bit word, one more than the largest word with a sign. -/
def signWeight : Nat := 0x8000000000000000

end RelationGate.Number
