/-!
# Base64 for URLs, without padding

Three bytes stand as four characters; a rest of one or two bytes stands as two or three. Reading
is strict: no padding, no foreign characters, no bits beyond the last byte. The faults name the
offending byte and its offset.

All quads but the last are read first, so a padding sign among them is a foreign byte. In the last
group padding is noticed and refused as such only when nothing else is wrong.
-/

namespace RelationGate.Base64Url

/-- Why a text is refused. -/
inductive Fault where
  | badSymbol (byte : UInt8) (offset : Nat)
  | badLength (length : Nat)
  | badLastSymbol (byte : UInt8) (offset : Nat)
  | padded
  deriving DecidableEq

/-- The words of a fault. -/
def Fault.describe : Fault → String
  | .badSymbol b n => "Invalid symbol " ++ toString b.toNat ++ ", offset " ++ toString n ++ "."
  | .badLength n => "Invalid input length: " ++ toString n
  | .badLastSymbol b n =>
    "Invalid last symbol " ++ toString b.toNat ++ ", offset " ++ toString n ++ "."
  | .padded => "Invalid padding"

/-- The character of a value below 64. -/
def symbol (n : Nat) : Char :=
  if n < 26 then Char.ofNat (n + 65)
  else if n < 52 then Char.ofNat (n + 71)
  else if n < 62 then Char.ofNat (n - 4)
  else if n = 62 then '-' else '_'

/-- The value of a byte. -/
def value? (b : UInt8) : Option Nat :=
  let n := b.toNat
  if 65 ≤ n && n ≤ 90 then some (n - 65)
  else if 97 ≤ n && n ≤ 122 then some (n - 71)
  else if 48 ≤ n && n ≤ 57 then some (n + 4)
  else if n = 45 then some 62
  else if n = 95 then some 63
  else none

/-- The text of some bytes. -/
def encode : List UInt8 → List Char
  | a :: b :: c :: rest =>
    let n := (a.toNat * 256 + b.toNat) * 256 + c.toNat
    symbol (n >>> 18) :: symbol ((n >>> 12) % 64) :: symbol ((n >>> 6) % 64) ::
      symbol (n % 64) :: encode rest
  | [a, b] =>
    let n := (a.toNat * 256 + b.toNat) * 4
    [symbol (n >>> 12), symbol ((n >>> 6) % 64), symbol (n % 64)]
  | [a] =>
    let n := a.toNat * 16
    [symbol (n / 64), symbol (n % 64)]
  | [] => []

/-- The padding sign. -/
def pad : UInt8 := 61

/-- The value of a byte at an offset. -/
def symbolAt (b : UInt8) (offset : Nat) : Except Fault Nat :=
  match value? b with
  | some n => .ok n
  | none => .error (.badSymbol b offset)

/-- The last group: its values, how many padding signs follow them and where the first one is. -/
def lastGroup : List UInt8 → Nat → Nat → List (Nat × UInt8) → Option Nat →
    Except Fault (List (Nat × UInt8) × Bool)
  | [], _, _, values, padding => .ok (values.reverse, padding.isSome)
  | b :: rest, start, index, values, padding =>
    if b = pad then
      if index < 2 then .error (.badSymbol b (start + index))
      else lastGroup rest start (index + 1) values (padding <|> some index)
    else
      match padding with
      | some first => .error (.badSymbol pad (start + first))
      | none => do
        let n ← symbolAt b (start + index)
        lastGroup rest start (index + 1) ((n, b) :: values) none

/-- The bytes of the last group. -/
def lastBytes (start : Nat) (values : List (Nat × UInt8)) : Except Fault (List UInt8) :=
  match values with
  | [(a, _), (b, last)] =>
    let n := a * 64 + b
    if n % 16 = 0 then .ok [UInt8.ofNat (n / 16)]
    else .error (.badLastSymbol last (start + 1))
  | [(a, _), (b, _), (c, last)] =>
    let n := (a * 64 + b) * 64 + c
    if n % 4 = 0 then .ok [UInt8.ofNat (n / 1024), UInt8.ofNat (n / 4)]
    else .error (.badLastSymbol last (start + 2))
  | [(a, _), (b, _), (c, _), (d, _)] =>
    let n := ((a * 64 + b) * 64 + c) * 64 + d
    .ok [UInt8.ofNat (n / 65536), UInt8.ofNat (n / 256), UInt8.ofNat n]
  | _ => .error (.badLength (start + values.length))

/-- Reads the quads of a text and then its last group. -/
def decodeFrom : List UInt8 → Nat → Except Fault (List UInt8)
  | a :: b :: c :: d :: next :: rest, start => do
    let n ← symbolAt a start
    let n := n * 64 + (← symbolAt b (start + 1))
    let n := n * 64 + (← symbolAt c (start + 2))
    let n := n * 64 + (← symbolAt d (start + 3))
    let others ← decodeFrom (next :: rest) (start + 4)
    return UInt8.ofNat (n / 65536) :: UInt8.ofNat (n / 256) :: UInt8.ofNat n :: others
  | group, start => do
    if group.isEmpty then return []
    let (values, padded) ← lastGroup group start 0 [] none
    if values.length < 2 then throw (.badLength (start + values.length))
    if padded then throw .padded
    lastBytes start values

/-- The bytes of a text. A single foreign byte after whole quads is noticed before all else. -/
def decode (text : List UInt8) : Except Fault (List UInt8) :=
  match text.getLast? with
  | some last =>
    if text.length % 4 = 1 ∧ last ≠ pad ∧ value? last = none then
      .error (.badSymbol last (text.length - 1))
    else decodeFrom text 0
  | none => .ok []

end RelationGate.Base64Url
