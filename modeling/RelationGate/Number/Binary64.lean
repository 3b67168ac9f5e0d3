import RelationGate.Number.Word

/-!
# Binary floating point in exact arithmetic

A number of a document that is no 64-bit integer is kept as the word of a binary64 value. Rounding, the
reading of a decimal and the shortest text that reads back are all done on natural numbers, so
nothing here depends on the processor. `ofDecimal?` is the rule of the document format: the leading
digits as a word, then one scaling by a power of ten, each rounded to nearest.
-/

namespace RelationGate.Number

/-- A finite binary64 value, by its word. -/
structure Binary64 where
  word : UInt64
  deriving DecidableEq, Repr

namespace Binary64

/-- The leading bit of the significand of a normal value, which its word leaves out. -/
def leadingBit : Nat := 0x10000000000000

/-- The quotient of two naturals rounded to nearest, a tie to the even neighbour. -/
def roundDiv (num den : Nat) : Nat :=
  let q := num / den
  let r := num % den
  if 2 * r < den then q
  else if den < 2 * r then q + 1
  else if q % 2 = 0 then q else q + 1

/-- The largest `e` with `2 ^ e ≤ num / den`, for positive `num` and `den`. -/
def floorLog2 (num den : Nat) : Int :=
  let e : Int := (Nat.log2 num : Int) - (Nat.log2 den : Int)
  let holds := if 0 ≤ e then den * Nat.pow 2 e.toNat ≤ num else den ≤ num * Nat.pow 2 (-e).toNat
  if holds then e else e - 1

/-- The word of the value nearest to `num / den`, or `none` beyond the largest finite value. -/
def roundRatio (num den : Nat) : Option Nat :=
  if num = 0 then some 0
  else
    let e := max (-1074) (floorLog2 num den - 52)
    let q :=
      if 0 ≤ e then roundDiv num (den * Nat.pow 2 e.toNat)
      else roundDiv (num * Nat.pow 2 (-e).toNat) den
    let word := (e + 1074).toNat * leadingBit + q
    if word < 0x7FF0000000000000 then some word else none

/-- The significand and the exponent of a word without sign: its value is `m * 2 ^ q`. -/
def split (word : Nat) : Nat × Int :=
  let e : Nat := word / leadingBit % 2048
  let f : Nat := word % leadingBit
  if e = 0 then (f, -1074) else (leadingBit + f, Int.ofNat e - 1075)

/-- The value of a word without sign as a fraction. -/
def ratio (word : Nat) : Nat × Nat :=
  let (m, q) := split word
  if 0 ≤ q then (m * Nat.pow 2 q.toNat, 1) else (m, Nat.pow 2 (-q).toNat)

/-- The word nearest to `10 ^ n`, for `n ≤ 308`. -/
def powerOfTen (n : Nat) : Nat :=
  (roundRatio (Nat.pow 10 n) 1).getD 0

/-- The product of two words without sign, rounded. -/
def mul? (a b : Nat) : Option Nat :=
  let (an, ad) := ratio a
  let (bn, bd) := ratio b
  roundRatio (an * bn) (ad * bd)

/-- The quotient of two words without sign, the second not zero, rounded. -/
def div? (a b : Nat) : Option Nat :=
  let (an, ad) := ratio a
  let (bn, bd) := ratio b
  roundRatio (an * bd) (ad * bn)

/-- `word * 10 ^ exponent`, in steps of at most `10 ^ 308`. A word below `2 ^ 64` is zero after
three such divisions, so four rounds are enough. -/
def scale : Nat → Nat → Int → Option Nat
  | 0, _, _ => some 0
  | rounds + 1, word, exponent =>
    if exponent.natAbs ≤ 308 then
      if 0 ≤ exponent then mul? word (powerOfTen exponent.toNat)
      else div? word (powerOfTen exponent.natAbs)
    else if word = 0 then some 0
    else if 0 ≤ exponent then none
    else do scale rounds (← div? word (powerOfTen 308)) (exponent + 308)

/-- The value with a sign put on it. -/
def withSign (negative : Bool) (word : Nat) : Binary64 :=
  ⟨UInt64.ofNat (if negative then signWeight + word else word)⟩

/-- The value read for `significand * 10 ^ exponent`, or `none` if it is out of range. -/
def ofDecimal? (negative : Bool) (significand : Nat) (exponent : Int) : Option Binary64 := do
  let word ← roundRatio significand 1
  withSign negative <$> scale 4 word exponent

/-- The value is negative, or the negative zero. -/
def isNegative (x : Binary64) : Bool := signWeight ≤ x.word.toNat

/-- The word without its sign. -/
def magnitude (x : Binary64) : Nat := x.word.toNat % signWeight

/-! ## The shortest text that reads back -/

/-- The largest `k` with `10 ^ k ≤ num / den`, searched downwards from a bound. -/
def floorLog10 (num den : Nat) : Int :=
  let estimate := (floorLog2 num den * 30103 - 30103) / 100000
  let reached (k : Int) : Bool :=
    if 0 ≤ k then den * Nat.pow 10 k.toNat ≤ num else den ≤ num * Nat.pow 10 (-k).toNat
  if reached (estimate + 2) then estimate + 2
  else if reached (estimate + 1) then estimate + 1
  else if reached estimate then estimate
  else estimate - 1

/-- The grid point of step `10 ^ unit` that rounds to the word, if there is one: of two, the
nearer, and of two equally near the even one. -/
def gridPoint? (word : Nat) (unit : Int) : Option Nat :=
  let (m, q) := split word
  let atPower := m = leadingBit ∧ -1074 < q
  let s := q - 2
  let scaleUp := Nat.pow 2 s.toNat * Nat.pow 10 (-unit).toNat
  let scaleDown := Nat.pow 2 (-s).toNat * Nat.pow 10 unit.toNat
  let low := (if atPower then 4 * m - 1 else 4 * m - 2) * scaleUp
  let mid := 4 * m * scaleUp
  let high := (4 * m + 2) * scaleUp
  let inside (c : Nat) : Bool :=
    if m % 2 = 0 then low ≤ c * scaleDown && c * scaleDown ≤ high
    else low < c * scaleDown && c * scaleDown < high
  let below := mid / scaleDown
  let above := below + 1
  match inside below, inside above with
  | true, false => some below
  | false, true => some above
  | false, false => none
  | true, true =>
    let d := mid - below * scaleDown
    let u := above * scaleDown - mid
    if d < u then some below else if u < d then some above
    else if below % 2 = 0 then some below else some above

/-- The fewest decimal digits that read back as a positive word, as a digit string and the
exponent of its last digit. At most seventeen digits are ever needed. A value just below a power
of ten may meet the grid in that power, whose zero is then dropped. -/
def shortest (word : Nat) : Nat × Int :=
  let (num, den) := ratio word
  let k := floorLog10 num den
  let rec search : Nat → Nat → Nat × Int
    | 0, _ => (num / den, 0)
    | left + 1, digits =>
      let unit := k + 1 - digits
      match gridPoint? word unit with
      | some c => if c % 10 = 0 then (c / 10, unit + 1) else (c, unit)
      | none => search left (digits + 1)
  search 17 1

/-- How a value is laid out: the exponents written positionally, and the least number of digits
of a written exponent. -/
structure Layout where
  least : Int
  below : Int
  exponentDigits : Nat

/-- Positional from `10 ^ -5` up to below `10 ^ 16`; an exponent has a sign and two digits. -/
def documentLayout : Layout := ⟨-5, 16, 2⟩

/-- Digits of a written exponent. -/
def exponentText (layout : Layout) (e : Int) : String :=
  let digits := Nat.toDigits 10 e.natAbs
  (if e < 0 then "e-" else "e+") ++
    String.ofList (List.replicate (layout.exponentDigits - digits.length) '0' ++ digits)

/-- The text of a value: the shortest digits that read back, always with a fraction or an
exponent, so that it is never taken for an integer. -/
def text (layout : Layout) (x : Binary64) : String :=
  let sign := if x.isNegative then "-" else ""
  if x.magnitude = 0 then sign ++ "0.0"
  else
    let (point, unit) := shortest x.magnitude
    let digits := Nat.toDigits 10 point
    let k := unit + (digits.length : Int) - 1
    let body :=
      if layout.least ≤ k ∧ k < layout.below then
        if 0 ≤ unit then String.ofList (digits ++ List.replicate unit.toNat '0') ++ ".0"
        else if 0 ≤ k then
          String.ofList (digits.take (k.toNat + 1)) ++ "." ++ String.ofList (digits.drop (k.toNat + 1))
        else "0." ++ String.ofList (List.replicate (-k - 1).toNat '0' ++ digits)
      else
        let fraction := digits.drop 1
        String.ofList (digits.take 1) ++
          (if fraction.isEmpty then "" else "." ++ String.ofList fraction) ++ exponentText layout k
    sign ++ body

end Binary64

end RelationGate.Number
