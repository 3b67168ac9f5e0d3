import RelationGate.Json.Cursor
import RelationGate.Number.Decimal

/-!
# Reading a document from its text

Numbers, texts and whole documents, and the skipping of a document that nobody wants. Skipping is
laxer than reading: it knows no depth, no range of numbers and no pairs of surrogates.

A number without point and exponent is exact if it fits 64 bits. Any other number is taken from
its leading digits, as many as fit an unsigned 64-bit word, and a power of ten.
-/

namespace RelationGate.Json.Reader

open Number

/-! ## Numbers -/

/-- Reads digits as long as the number stays below a bound; gives it and the digits read. -/
def digitsBelow (bound : Nat) : Nat → Nat → Nat → Reader (Nat × Nat)
  | 0, n, count => return (n, count)
  | rounds + 1, n, count => do
    match ← digitAhead with
    | some d =>
      if 10 * n + d < bound then
        skip
        digitsBelow bound rounds (10 * n + d) (count + 1)
      else return (n, count)
    | none => return (n, count)

/-- The value of significant digits and a power of ten. -/
def scaled (negative : Bool) (significand : Nat) (exponent : Int) : Reader Json := do
  match Binary64.ofDecimal? negative significand exponent with
  | some x => return .float x
  | none => refuse .numberOutOfRange

/-- The letter of an exponent is ahead. -/
def exponentAhead : Reader Bool := return (← ahead 'e') || (← ahead 'E')

/-- One more than the largest written exponent. -/
def exponentBound : Nat := 0x80000000

/-- The exponent and what follows from it. -/
def exponentPart (negative : Bool) (significand : Nat) (start : Int) : Reader Json := do
  skip
  let minus ← ahead '-'
  if minus || (← ahead '+') then skip
  match ← next with
  | none => refuse .endInValue
  | some b =>
    if !isDigitByte b then refuse .badNumber
    let (e, _) ← digitsBelow exponentBound (← unread) (digitValue b) 0
    match ← digitAhead with
    | some _ =>
      skip
      if significand ≠ 0 && !minus then refuse .numberOutOfRange
      skipWhile isDigitByte
      return .float (Binary64.withSign negative 0)
    | none => scaled negative significand (if minus then start - e else start + e)

/-- The number once its digits are read: an exponent may follow. -/
def afterDigits (negative : Bool) (significand : Nat) (exponent : Int) : Reader Json := do
  if ← exponentAhead then exponentPart negative significand exponent
  else scaled negative significand exponent

/-- The digits after the point. Those that no longer fit the significand do not count. -/
def fractionPart (negative : Bool) (significand : Nat) (exponent : Int) : Reader Json := do
  skip
  let (s, taken) ← digitsBelow wordBound (← unread) significand 0
  match ← digitAhead with
  | some _ => skipWhile isDigitByte
  | none =>
    if taken = 0 then
      match ← peek with
      | some _ => refuseNext .badNumber
      | none => refuseNext .endInValue
  afterDigits negative s (exponent - taken)

/-- A whole number that fits a word. Zero with a sign, and a negative number below the signed
range, are no whole numbers. -/
def whole (negative : Bool) (n : Nat) : Reader Json := do
  if !negative then return .int n
  else if n = 0 || signWeight < n then scaled true n 0
  else return .int (-n)

/-- The rest of a number after its whole digits. -/
def afterWhole (negative : Bool) (n : Nat) : Reader Json := do
  if ← ahead '.' then fractionPart negative n 0
  else if ← exponentAhead then exponentPart negative n 0
  else whole negative n

/-- A number, its sign already read. -/
def number (negative : Bool) : Reader Json := do
  match ← next with
  | none => refuse .endInValue
  | some 48 =>
    match ← digitAhead with
    | some _ => refuseNext .badNumber
    | none => afterWhole negative 0
  | some b =>
    if !isDigitByte b then refuse .badNumber
    let (n, _) ← digitsBelow wordBound (← unread) (digitValue b) 0
    match ← digitAhead with
    | none => afterWhole negative n
    | some _ =>
      let before ← unread
      skipWhile isDigitByte
      let dropped := before - (← unread)
      if ← ahead '.' then fractionPart negative n dropped
      else afterDigits negative n dropped

/-! ## Texts -/

/-- The value of a hexadecimal digit. -/
def hexValue? (b : UInt8) : Option Nat :=
  if isDigitByte b then some (digitValue b)
  else if 97 ≤ b && b ≤ 102 then some (b.toNat - 87)
  else if 65 ≤ b && b ≤ 70 then some (b.toNat - 55)
  else none

/-- Four hexadecimal digits. -/
def hexEscape : Reader Nat := do
  match (← get).bytes with
  | a :: b :: c :: d :: _ =>
    skip; skip; skip; skip
    match hexValue? a, hexValue? b, hexValue? c, hexValue? d with
    | some a, some b, some c, some d => return ((a * 16 + b) * 16 + c) * 16 + d
    | _, _, _, _ => refuse .badEscape
  | _ =>
    skipWhile fun _ => true
    refuse .endInText

/-- A byte between the two halves of a surrogate pair. -/
def pairByte (wanted : Char) : Reader Unit := do
  match ← peek with
  | none => refuse .endInText
  | some b =>
    skip
    if b ≠ wanted.toUInt8 then refuse .endOfSurrogatePair

/-- The code point of four hexadecimal digits, or of a surrogate pair that they open. -/
def codePoint : Reader Nat := do
  let n ← hexEscape
  if 0xDC00 ≤ n && n ≤ 0xDFFF then refuse .loneSurrogate
  else if 0xD800 ≤ n && n ≤ 0xDBFF then
    pairByte '\\'
    pairByte 'u'
    let m ← hexEscape
    if 0xDC00 ≤ m && m ≤ 0xDFFF then return (n - 0xD800) * 0x400 + (m - 0xDC00) + 0x10000
    else refuse .loneSurrogate
  else return n

/-- What a letter after the backslash stands for. -/
def simpleEscape? (b : UInt8) : Option UInt8 :=
  if b = '"'.toUInt8 || b = '\\'.toUInt8 || b = '/'.toUInt8 then some b
  else if b = 'b'.toUInt8 then some 8
  else if b = 'f'.toUInt8 then some 12
  else if b = 'n'.toUInt8 then some 10
  else if b = 'r'.toUInt8 then some 13
  else if b = 't'.toUInt8 then some 9
  else none

/-- The bytes that an escape stands for, the backslash already read. -/
def escape : Reader (List UInt8) := do
  match ← next with
  | none => refuse .endInText
  | some b =>
    match simpleEscape? b with
    | some byte => return [byte]
    | none =>
      if b = 'u'.toUInt8 then return String.utf8EncodeChar (Char.ofNat (← codePoint))
      else refuse .badEscape

/-- The bytes of a text, up to and without the closing quote. -/
def textBytes : Nat → Reader (List UInt8)
  | 0 => refuse .endInText
  | rounds + 1 => do
    match ← peek with
    | none => refuse .endInText
    | some 34 => return []
    | some 92 =>
      skip
      let piece ← escape
      return piece ++ (← textBytes rounds)
    | some b =>
      skip
      if b < 32 then refuse .controlCharacter
      return b :: (← textBytes rounds)

/-- A text, its opening quote already read. -/
def text : Reader String := do
  let bytes ← textBytes ((← unread) + 1)
  match String.fromUTF8? ⟨bytes.toArray⟩ with
  | some s =>
    skip
    return s
  | none => refuse .badCodePoint

/-! ## Whole documents -/

/-- The elements of a list. -/
def elements {α : Type} (item : Reader α) : Reader (List α) := do
  elementsFrom item ((← unread) + 1) true

/-- The members of an object, folded. -/
def members {σ : Type} (step : String → σ → Reader σ) (s : σ) : Reader σ := do
  membersFrom text step ((← unread) + 1) true s

/-- A list: its bracket is ahead. -/
def inList {α : Type} (content : Reader α) : Reader α :=
  placed (andFinally (nested (do skip; content)) closeList)

/-- An object: its brace is ahead. -/
def inObject {α : Type} (content : Reader α) : Reader α :=
  placed (andFinally (nested (do skip; content)) closeObject)

/-- A document of at most so many levels. -/
def valueWithin : Nat → Reader Json
  | 0 => refuseNext .tooDeep
  | levels + 1 => do
    match ← token with
    | none => refuseNext .endInValue
    | some b =>
      if b = 'n'.toUInt8 then
        skip
        ident ['u', 'l', 'l']
        return .null
      else if b = 't'.toUInt8 then
        skip
        ident ['r', 'u', 'e']
        return .bool true
      else if b = 'f'.toUInt8 then
        skip
        ident ['a', 'l', 's', 'e']
        return .bool false
      else if b = '-'.toUInt8 then
        skip
        number true
      else if isDigitByte b then number false
      else if b = '"'.toUInt8 then
        skip
        return .str (← text)
      else if b = '['.toUInt8 then .arr <$> inList (elements (valueWithin levels))
      else if b = '{'.toUInt8 then
        let found ← inObject (members (fun name found => do
          colon
          return (name, ← valueWithin levels) :: found) [])
        return Json.ofMembers found.reverse
      else refuseNext .noValue

/-- A document. -/
def value : Reader Json := valueWithin depthLimit

/-! ## Skipping -/

/-- Skips an exponent, its letter ahead. -/
def skipExponent : Reader Unit := do
  skip
  if (← ahead '+') || (← ahead '-') then skip
  match ← next with
  | some b => if isDigitByte b then skipWhile isDigitByte else refuse .badNumber
  | none => refuse .badNumber

/-- Skips a fraction, its point ahead. -/
def skipFraction : Reader Unit := do
  skip
  match ← digitAhead with
  | none => refuseNext .badNumber
  | some _ => skipWhile isDigitByte
  if ← exponentAhead then skipExponent

/-- Skips a number, its sign already read. -/
def skipNumber : Reader Unit := do
  match ← next with
  | some 48 =>
    if (← digitAhead).isSome then refuseNext .badNumber
  | some b =>
    if isDigitByte b then skipWhile isDigitByte else refuse .badNumber
  | none => refuse .badNumber
  if ← ahead '.' then skipFraction
  else if ← exponentAhead then skipExponent

/-- Skips a text up to its closing quote. -/
def skipTextFrom : Nat → Reader Unit
  | 0 => refuse .endInText
  | rounds + 1 => do
    match ← peek with
    | none => refuse .endInText
    | some 34 => skip
    | some 92 =>
      skip
      match ← next with
      | none => refuse .endInText
      | some b =>
        if (simpleEscape? b).isSome then skipTextFrom rounds
        else if b = 'u'.toUInt8 then
          let _ ← hexEscape
          skipTextFrom rounds
        else refuse .badEscape
    | some b =>
      if b < 32 then refuse .controlCharacter
      skip
      skipTextFrom rounds

/-- Skips a text, its opening quote already read. -/
def skipText : Reader Unit := do skipTextFrom ((← unread) + 1)

/-- Skips the elements of a list after the first one. -/
def skipMoreElements (item : Reader Unit) : Nat → Reader Unit
  | 0 => refuseNext .endInList
  | rounds + 1 => do
    match ← token with
    | some 44 =>
      skip
      item
      skipMoreElements item rounds
    | some 93 => skip
    | some _ => refuseNext .noListEnd
    | none => refuseNext .endInList

/-- Skips the elements of a list, its bracket already read. -/
def skipElements (item : Reader Unit) : Reader Unit := do
  match ← token with
  | some 93 => skip
  | none => refuseNext .endInList
  | some _ =>
    item
    skipMoreElements item ((← unread) + 1)

/-- Skips a member of an object. -/
def skipMember (item : Reader Unit) : Reader Unit := do
  match ← token with
  | some 34 =>
    skip
    skipText
    colon
    item
  | some _ => refuseNext .keyNotText
  | none => refuseNext .endInObject

/-- Skips the members of an object after the first one. -/
def skipMoreMembers (item : Reader Unit) : Nat → Reader Unit
  | 0 => refuseNext .endInObject
  | rounds + 1 => do
    match ← token with
    | some 44 =>
      skip
      skipMember item
      skipMoreMembers item rounds
    | some 125 => skip
    | some _ => refuseNext .noObjectEnd
    | none => refuseNext .endInObject

/-- Skips the members of an object, its brace already read. -/
def skipMembers (item : Reader Unit) : Reader Unit := do
  match ← token with
  | some 125 => skip
  | none => refuseNext .endInObject
  | some _ =>
    skipMember item
    skipMoreMembers item ((← unread) + 1)

/-- Skips a document of at most so many levels. -/
def skipWithin : Nat → Reader Unit
  | 0 => refuseNext .endInValue
  | levels + 1 => do
    match ← token with
    | none => refuseNext .endInValue
    | some b =>
      if b = 'n'.toUInt8 then
        skip
        ident ['u', 'l', 'l']
      else if b = 't'.toUInt8 then
        skip
        ident ['r', 'u', 'e']
      else if b = 'f'.toUInt8 then
        skip
        ident ['a', 'l', 's', 'e']
      else if b = '-'.toUInt8 then
        skip
        skipNumber
      else if isDigitByte b then skipNumber
      else if b = '"'.toUInt8 then
        skip
        skipText
      else if b = '['.toUInt8 then
        skip
        skipElements (skipWithin levels)
      else if b = '{'.toUInt8 then
        skip
        skipMembers (skipWithin levels)
      else refuseNext .noValue

/-- Skips a document; it cannot nest deeper than it has bytes. -/
def skipValue : Reader Unit := do skipWithin ((← unread) + 1)

/-! ## Entry points -/

/-- The refusal of something else than what is expected; a scalar is read first. -/
def mismatch {α : Type} (expected : String) : Reader α :=
  placed do
    match ← peek with
    | some 91 => reject (.invalidType .sequence expected)
    | some 123 => reject (.invalidType .map expected)
    | none => refuseNext .noValue
    | some _ =>
      let j ← value
      reject (.invalidType (found j) expected)

/-- Reads a whole text: nothing but blanks may follow. -/
def run {α : Type} (r : Reader α) (bytes : List UInt8) : Except Fault α :=
  let whole : Reader α := do
    let a ← r
    if (← token).isSome then refuseNext .trailingCharacters
    return a
  (ExceptT.run whole (Cursor.start bytes)).1

end RelationGate.Json.Reader

namespace RelationGate.Json

/-- The document of a text. -/
def ofText (s : String) : Except Fault Json := Reader.run Reader.value s.toUTF8.toList

end RelationGate.Json
