import RelationGate.Auth.Base64Url
import RelationGate.Text.Blank

/-!
# Armoured documents

A binary document may be kept as text: a line that begins it and a line that ends it, both with the
same label, and between them its bytes in base64. Header lines, each with a colon, may stand in
front of the bytes, set off by an empty line. What surrounds the two lines does not count.
-/

namespace RelationGate

/-- A document and its label. -/
structure Armoured where
  label : String
  bytes : List UInt8
  deriving DecidableEq, Repr

namespace Armoured

open Text

/-- The bytes of a text. -/
def ascii (s : String) : List UInt8 := s.toUTF8.toList

/-- Looks for a marker. A byte that breaks off a partial match is not looked at again, so a marker
right after a part of itself is overlooked. -/
def search (marker : List UInt8) :
    List UInt8 → List UInt8 → List UInt8 → Option (List UInt8 × List UInt8)
  | bytes, [], taken => some ((taken.drop marker.length).reverse, bytes)
  | [], _ :: _, _ => none
  | b :: bytes, m :: missing, taken =>
    if b = m then search marker bytes missing (b :: taken)
    else search marker bytes marker (b :: taken)

/-- What stands before a marker, and what after it. -/
def cutAt (marker : String) (bytes : List UInt8) : Option (List UInt8 × List UInt8) :=
  search (ascii marker) bytes (ascii marker) []

/-- A blank between the parts of an armoured document. -/
def isGap (b : UInt8) : Bool := b == 32 || b == 9 || b == 10 || b == 13

/-- The header lines and the data of what stands between the two lines. -/
def splitHeaders (body : List UInt8) : List UInt8 × List UInt8 :=
  match cutAt "\n\n" body with
  | some parts => parts
  | none => (cutAt "\r\n\r\n" body).getD ([], body)

/-- The lines of a text; an empty one at its end does not count. -/
def linesOf (s : String) : List (List Char) :=
  let lines := s.toList.splitOn '\n'
  if lines.getLast? = some [] then lines.dropLast else lines

/-- A byte of base64 in the alphabet for URLs; the two bytes that only that alphabet has are none. -/
def toUrlByte (b : UInt8) : UInt8 :=
  if b = 43 then 45 else if b = 47 then 95 else if b = 45 ∨ b = 95 then 0 else b

/-- The bytes of a text in base64, padded to whole quads. -/
def decodePadded (text : List UInt8) : Option (List UInt8) :=
  let padding := ((text.reverse.takeWhile (· == Base64Url.pad)).take 2).length
  if text.length % 4 ≠ 0 then none
  else (Base64Url.decode ((text.take (text.length - padding)).map toUrlByte)).toOption

/-- The document in a text. -/
def ofBytes? (text : List UInt8) : Option Armoured := do
  let (_, rest) ← cutAt "-----BEGIN " text
  let (label, rest) ← cutAt "-----" rest
  let (body, rest) ← cutAt "-----END " (rest.dropWhile isGap)
  let (closing, _) ← cutAt "-----" rest
  if label.isEmpty ∨ label ≠ closing then failure
  let (headers, data) := splitHeaders body
  let headers ← String.fromUTF8? ⟨headers.toArray⟩
  if !(linesOf headers).all (·.contains ':') then failure
  let data ← String.fromUTF8? ⟨data.toArray⟩
  let written := (linesOf data).flatMap fun line => (line.reverse.dropWhile isBlank).reverse
  return { label := ← String.fromUTF8? ⟨label.toArray⟩
           bytes := ← decodePadded (String.ofList written).toUTF8.toList }

end Armoured

end RelationGate
