/-!
# The SHA-2 digests

The digests of 256, 384 and 512 bits follow one scheme and differ in the width of a word, the
number of rounds, the amounts of rotation and the primes from whose roots the constants come. A
constant is the beginning of the fractional part of a square or cube root, so the constants are
computed and not listed.
-/

namespace RelationGate.Sha2

/-! ## Constants -/

/-- The largest number whose `power`-th power is at most `n`, found bit by bit from below
`2 ^ bits`. -/
def rootFrom (power n : Nat) : Nat → Nat → Nat
  | 0, root => root
  | bits + 1, root =>
    let candidate := root + Nat.pow 2 bits
    if Nat.pow candidate power ≤ n then rootFrom power n bits candidate else rootFrom power n bits root

/-- The first bits of the fractional part of a root. -/
def fractionOfRoot (power width n : Nat) : Nat :=
  rootFrom power (n * Nat.pow 2 (power * width)) (width + 8) 0 % Nat.pow 2 width

/-- A number without a divisor between two and itself. -/
def isPrime (n : Nat) : Bool :=
  2 ≤ n && (List.range n).all fun d => d < 2 || n % d != 0

/-- The primes below 410, of which there are eighty. -/
def primes : List Nat := (List.range 410).filter isPrime

/-! ## The scheme -/

/-- What tells the digests apart. -/
structure Variant where
  /-- The bits of a word. -/
  width : Nat
  rounds : Nat
  /-- The rotations that mix the first working variable, the fifth one and the message, the last
  amount of the message being a shift. -/
  mixFirst : Nat × Nat × Nat
  mixFifth : Nat × Nat × Nat
  mixEarly : Nat × Nat × Nat
  mixLate : Nat × Nat × Nat
  /-- How many primes come before those of the start values. -/
  skipped : Nat
  /-- The words of a digest. -/
  words : Nat

/-- The digest of 256 bits. -/
def sha256 : Variant := ⟨32, 64, (2, 13, 22), (6, 11, 25), (7, 18, 3), (17, 19, 10), 0, 8⟩

/-- The digest of 512 bits. -/
def sha512 : Variant := ⟨64, 80, (28, 34, 39), (14, 18, 41), (1, 8, 7), (19, 61, 6), 0, 8⟩

/-- The digest of 384 bits: as with 512, with other start values, and cut. -/
def sha384 : Variant := { sha512 with skipped := 8, words := 6 }

namespace Variant

/-- The constants of the rounds. -/
def roundConstants (v : Variant) : List Nat :=
  (primes.take v.rounds).map (fractionOfRoot 3 v.width)

/-- The words that the digest starts from. -/
def startWords (v : Variant) : List Nat :=
  ((primes.drop v.skipped).take 8).map (fractionOfRoot 2 v.width)

/-- The bytes of a word. -/
def wordBytes (v : Variant) : Nat := v.width / 8

/-- The bytes of a block. -/
def blockBytes (v : Variant) : Nat := 16 * v.wordBytes

/-- One more than the largest word. -/
def modulus (v : Variant) : Nat := Nat.pow 2 v.width

/-- A sum of words. -/
def sum (v : Variant) (words : List Nat) : Nat := words.foldl (· + ·) 0 % v.modulus

/-- A rotation to the right. -/
def rotate (v : Variant) (x n : Nat) : Nat :=
  (x >>> n) ||| ((x <<< (v.width - n)) % v.modulus)

/-- Three rotations mixed. -/
def mix (v : Variant) (m : Nat × Nat × Nat) (x : Nat) : Nat :=
  v.rotate x m.1 ^^^ v.rotate x m.2.1 ^^^ v.rotate x m.2.2

/-- Two rotations and a shift mixed. -/
def mixShift (v : Variant) (m : Nat × Nat × Nat) (x : Nat) : Nat :=
  v.rotate x m.1 ^^^ v.rotate x m.2.1 ^^^ (x >>> m.2.2)

/-- The next word of a message schedule, whose words are given with the newest first. -/
def scheduleNext (v : Variant) (newest : List Nat) : Nat :=
  let nth (n : Nat) := newest.getD n 0
  v.sum [v.mixShift v.mixLate (nth 1), nth 6, v.mixShift v.mixEarly (nth 14), nth 15]

/-- Extends a message schedule, newest word first, by so many words. -/
def scheduleFrom (v : Variant) : Nat → List Nat → List Nat
  | 0, newest => newest
  | n + 1, newest => v.scheduleFrom n (v.scheduleNext newest :: newest)

/-- The message schedule of the sixteen words of a block. -/
def schedule (v : Variant) (block : List Nat) : List Nat :=
  (v.scheduleFrom (v.rounds - 16) block.reverse).reverse

/-- One round on the eight working variables. -/
def round (v : Variant) (state : List Nat) (constant word : Nat) : List Nat :=
  match state with
  | [a, b, c, d, e, f, g, h] =>
    let choice := (e &&& f) ^^^ ((v.modulus - 1 - e) &&& g)
    let majority := (a &&& b) ^^^ (a &&& c) ^^^ (b &&& c)
    let t := v.sum [h, v.mix v.mixFifth e, choice, constant, word]
    [v.sum [t, v.mix v.mixFirst a, majority], a, b, c, v.sum [d, t], e, f, g]
  | other => other

/-- The state after a block. -/
def compress (v : Variant) (constants : List Nat) (state : List Nat) (block : List Nat) : List Nat :=
  let mixed := (constants.zip (v.schedule block)).foldl (fun s k => v.round s k.1 k.2) state
  List.zipWith (fun a b => (a + b) % v.modulus) state mixed

/-- A number of bytes, highest first. -/
def ofBytes (bytes : List UInt8) : Nat := bytes.foldl (fun n b => n * 256 + b.toNat) 0

/-- The lowest bytes of a number, highest first. -/
def toBytes (count n : Nat) : List UInt8 :=
  ((List.range count).map fun i => UInt8.ofNat (n >>> (8 * i))).reverse

/-- A list cut into pieces of one length; a shorter rest is dropped. -/
def pieces {α : Type} (size : Nat) : Nat → List α → List (List α)
  | 0, _ => []
  | count + 1, xs => xs.take size :: pieces size count (xs.drop size)

/-- A message filled up to whole blocks: a one bit, zeros, and the length in bits. -/
def padded (v : Variant) (message : List UInt8) : List UInt8 :=
  let used := (message.length + 1 + 2 * v.wordBytes) % v.blockBytes
  message ++ [128] ++ List.replicate ((v.blockBytes - used) % v.blockBytes) 0 ++
    toBytes (2 * v.wordBytes) (8 * message.length)

/-- The digest of a message. -/
def digest (v : Variant) (message : List UInt8) : List UInt8 :=
  let bytes := v.padded message
  let blocks := pieces v.blockBytes (bytes.length / v.blockBytes) bytes
  let constants := v.roundConstants
  let last := blocks.foldl
    (fun state block => v.compress constants state ((pieces v.wordBytes 16 block).map ofBytes))
    v.startWords
  (last.take v.words).flatMap (toBytes v.wordBytes)

/-- The keyed digest of a message. -/
def keyedDigest (v : Variant) (key message : List UInt8) : List UInt8 :=
  let key := if v.blockBytes < key.length then v.digest key else key
  let key := key ++ List.replicate (v.blockBytes - key.length) 0
  v.digest (key.map (· ^^^ 0x5c) ++ v.digest (key.map (· ^^^ 0x36) ++ message))

end Variant

end RelationGate.Sha2
