import RelationGate.Calendar

/-!
# Elements of a binary document

Keys and certificates are written in DER: elements with a tag, a length and a body, some of which
hold other elements. A document is read as a whole and refused if any part of it is malformed,
although only sequences, object identifiers and strings of bits or bytes are of interest later.
-/

namespace RelationGate.Der

/-- An element. -/
inductive Element where
  | sequence (elements : List Element)
  | objectId (arcs : List Nat)
  /-- A string of bits or of bytes. -/
  | octets (bytes : List UInt8)
  | other
  deriving Inhabited

/-- A number in digits of seven bits, of which all but the last are marked. -/
def base128 : Nat → List UInt8 → Option (Nat × List UInt8)
  | _, [] => none
  | acc, b :: rest =>
    let n := acc * 128 + b.toNat % 128
    if b.toNat < 128 then some (n, rest) else base128 n rest

/-- The numbers that some bytes write one after the other. -/
def base128s : Nat → List UInt8 → Option (List Nat)
  | 0, _ => none
  | _, [] => some []
  | rounds + 1, bytes => do
    let (n, rest) ← base128 0 bytes
    return n :: (← base128s rounds rest)

/-- A tag, whether it is one of the standard's own, and what follows. -/
def readTag : List UInt8 → Option (Nat × Bool × List UInt8)
  | [] => none
  | b :: rest =>
    let universal := decide (b.toNat < 64)
    if b.toNat % 32 < 31 then some (b.toNat % 32, universal, rest)
    else (base128 0 rest).map fun (tag, rest) => (tag, universal, rest)

/-- The number that some bytes write, the first one the most significant. -/
def bigEndian (bytes : List UInt8) : Nat := bytes.foldl (fun n b => n * 256 + b.toNat) 0

/-- The length of a body, and what follows. -/
def readLength : List UInt8 → Option (Nat × List UInt8)
  | [] => none
  | b :: rest =>
    let n := b.toNat
    if n < 128 then some (n, rest)
    else if 8 < n - 128 ∨ rest.length < n - 128 then none
    else some (bigEndian (rest.take (n - 128)), rest.drop (n - 128))

/-- The content of a string of bits. Its first byte tells how many of the last bits do not count. -/
def bitString : List UInt8 → Option Element
  | [] => some (.octets [])
  | unused :: bytes => if bytes.length * 8 < unused.toNat then none else some (.octets bytes)

/-- The arcs of an object identifier. The first number stands for two of them. -/
def objectId (body : List UInt8) : Option Element :=
  match body with
  | [] => none
  | b :: rest => do
    let arcs ← base128s (rest.length + 1) rest
    let n := b.toNat
    return .objectId
      (if n < 40 then 0 :: n :: arcs else if n < 80 then 1 :: (n - 40) :: arcs
        else 2 :: (n - 80) :: arcs)

/-- The bytes are text in UTF-8. -/
def isText (bytes : List UInt8) : Bool := (String.fromUTF8? ⟨bytes.toArray⟩).isSome

/-- The characters of a printable string. -/
def printable : List Char :=
  "ABCDEFGHIJKLMNOPQRSTUVWXYZabcdefghijklmnopqrstuvwxyz0123456789 '()+,-./:=?".toList

/-- The number that two decimal digits write. -/
def twoDigits? (a b : UInt8) : Option Nat :=
  let (a, b) := (a.toNat, b.toNat)
  if 48 ≤ a ∧ a ≤ 57 ∧ 48 ≤ b ∧ b ≤ 57 then some ((a - 48) * 10 + (b - 48)) else none

/-- The numbers that pairs of decimal digits write. -/
def digitPairs? : List UInt8 → Option (List Nat)
  | [] => some []
  | [_] => none
  | a :: b :: rest => do return (← twoDigits? a b) :: (← digitPairs? rest)

/-- A date and a time of day that exist. -/
def isMoment : List Nat → Bool
  | [century, year, month, day, hour, minute, second] =>
    Calendar.isDate (century * 100 + year) month day && Calendar.isTime 60 hour minute second
  | _ => false

/-- A moment whose year has two digits. -/
def isShortTime (body : List UInt8) : Bool :=
  body.length == 13 && body.getLast? == some 90 &&
    match digitPairs? body.dropLast with
    | some (year :: rest) => isMoment ((if year < 50 then 20 else 19) :: year :: rest)
    | _ => false

/-- A moment whose year has four digits. A point and up to nine digits may follow its seconds. -/
def isLongTime (body : List UInt8) : Bool :=
  let fraction := (body.drop 14).dropLast
  body.getLast? == some 90 &&
    ((digitPairs? (body.take 14)).map isMoment).getD false &&
    match fraction with
    | [] => true
    | point :: digits => point == 46 && digits.length ≤ 9 && digits.all fun b => 48 ≤ b && b ≤ 57

/-- The UTF-16 units of some bytes are text. -/
def isWideText : List UInt8 → Bool
  | [] => true
  | [_] => false
  | a :: _ :: rest =>
    if 0xD8 ≤ a.toNat ∧ a.toNat < 0xDC then
      match rest with
      | c :: _ :: rest => 0xDC ≤ c.toNat && c.toNat < 0xE0 && isWideText rest
      | _ => false
    else if 0xDC ≤ a.toNat ∧ a.toNat < 0xE0 then false
    else isWideText rest

/-- A content that is not of interest, if it is well formed. -/
def passed (wellFormed : Bool) : Option Element := if wellFormed then some .other else none

/-- An element of a standard tag. -/
def content (inner : List UInt8 → Option (List Element)) (tag : Nat) (body : List UInt8) :
    Option Element :=
  match tag with
  | 0x01 => passed (body.length == 1)
  | 0x03 => bitString body
  | 0x04 => some (.octets body)
  | 0x06 => objectId body
  | 0x0C | 0x14 | 0x1C => passed (isText body)
  | 0x10 => .sequence <$> inner body
  | 0x11 => (inner body).map fun _ => .other
  | 0x13 => passed (body.all fun b => printable.contains (Char.ofNat b.toNat))
  | 0x17 => passed (isShortTime body)
  | 0x18 => passed (isLongTime body)
  | 0x1E => passed (isWideText body)
  | _ => some .other

/-- The elements that some bytes write one after the other. -/
def elementsFrom : Nat → List UInt8 → Option (List Element)
  | 0, _ => none
  | _, [] => some []
  | rounds + 1, bytes => do
    let (tag, universal, rest) ← readTag bytes
    let (length, rest) ← readLength rest
    if rest.length < length then failure
    let inner (body : List UInt8) : Option (List Element) :=
      if body.isEmpty then none else elementsFrom rounds body
    let element ← if universal then content inner tag (rest.take length) else some .other
    return element :: (← elementsFrom rounds (rest.drop length))

/-- The elements of a document, at least one. -/
def elements (bytes : List UInt8) : Option (List Element) :=
  if bytes.isEmpty then none else elementsFrom (bytes.length + 1) bytes

/-! ## What stands first in a document -/

mutual

/-- The first value that a part of a document has, looking into sequences only. -/
def Element.first? {α : Type} (f : Element → Option α) : Element → Option α
  | .sequence elements => firstIn? f elements
  | e => f e

/-- The first value that some parts of a document have. -/
def firstIn? {α : Type} (f : Element → Option α) : List Element → Option α
  | [] => none
  | e :: rest =>
    match e.first? f with
    | some a => some a
    | none => firstIn? f rest

end

end RelationGate.Der
