import RelationGate.Json.Fault

/-!
# Reading a text byte by byte

A cursor stands in front of the unread bytes and knows its place. Readers move it and may refuse;
the cursor stays where it is when they do, because the place of some faults is only fixed after
the surrounding brackets have been closed.
-/

namespace RelationGate.Json

/-- The unread bytes and the place in front of them. -/
structure Cursor where
  bytes : List UInt8
  place : Place
  /-- How many more lists and objects may be opened inside one another. -/
  room : Nat

/-- A document may nest 127 lists and objects. -/
def depthLimit : Nat := 128

/-- The cursor in front of a text. -/
def Cursor.start (bytes : List UInt8) : Cursor := ⟨bytes, ⟨1, 0⟩, depthLimit⟩

/-- The place after one more byte. -/
def Place.after (p : Place) (byte : UInt8) : Place :=
  if byte = 10 then ⟨p.line + 1, 0⟩ else ⟨p.line, p.column + 1⟩

/-- A computation that moves the cursor and may refuse the text. -/
abbrev Reader := ExceptT Fault (StateM Cursor)

namespace Reader

/-- The next byte, unread. -/
def peek : Reader (Option UInt8) := return (← get).bytes.head?

/-- Reads one byte. -/
def next : Reader (Option UInt8) := do
  let c ← get
  match c.bytes with
  | [] => return none
  | b :: rest =>
    set { c with bytes := rest, place := c.place.after b }
    return some b

/-- Skips one byte. -/
def skip : Reader Unit := discard next

/-- Refuses at the place reached. -/
def refuse {α : Type} (what : Malformed) : Reader α := do
  throw ⟨.malformed what, some (← get).place⟩

/-- Refuses at the place after the next byte. -/
def refuseNext {α : Type} (what : Malformed) : Reader α := do
  let c ← get
  throw ⟨.malformed what, some (match c.bytes with | [] => c.place | b :: _ => c.place.after b)⟩

/-- Refuses with a cause whose place is still to be fixed. -/
def reject {α : Type} (cause : Cause) : Reader α := throw ⟨cause, none⟩

/-- A fault without a place gets the place reached. -/
def placed {α : Type} (r : Reader α) : Reader α := do
  try r
  catch fault =>
    match fault.place with
    | some _ => throw fault
    | none => throw { fault with place := some (← get).place }

/-- Blank bytes between the tokens of a document. -/
def isBlankByte (b : UInt8) : Bool := b == 32 || b == 10 || b == 9 || b == 13

/-- A decimal digit. -/
def isDigitByte (b : UInt8) : Bool := 48 ≤ b && b ≤ 57

/-- The value of a decimal digit. -/
def digitValue (b : UInt8) : Nat := b.toNat - 48

/-- The cursor after a run of bytes of a class. -/
def dropRun (p : UInt8 → Bool) : List UInt8 → Place → List UInt8 × Place
  | [], place => ([], place)
  | b :: rest, place => if p b then dropRun p rest (place.after b) else (b :: rest, place)

/-- Skips a run of bytes of a class. -/
def skipWhile (p : UInt8 → Bool) : Reader Unit :=
  modify fun c =>
    let (bytes, place) := dropRun p c.bytes c.place
    { c with bytes, place }

/-- Skips blanks and looks at the next byte. -/
def token : Reader (Option UInt8) := do
  skipWhile isBlankByte
  peek

/-- Looks at the next byte and whether it is a digit. -/
def digitAhead : Reader (Option Nat) := do
  match ← peek with
  | some b => return if isDigitByte b then some (digitValue b) else none
  | none => return none

/-- The next byte has this character's code. -/
def ahead (c : Char) : Reader Bool := return (← peek) == some c.toUInt8

/-- The rest of a word such as `null`, after its first letter. -/
def ident (letters : List Char) : Reader Unit :=
  letters.forM fun c => do
    match ← next with
    | none => refuse .endInValue
    | some b => if b = c.toUInt8 then pure () else refuse .noIdent

/-- Runs a reader and then another one, even if the first refuses; the first refusal counts. -/
def andFinally {α : Type} (r : Reader α) (finish : Reader Unit) : Reader α :=
  ExceptT.mk do
    let outcome ← r.run
    let closing ← finish.run
    return do
      let a ← outcome
      closing
      return a

/-- Runs a reader one level deeper. The level is given back even if the reader refuses. -/
def nested {α : Type} (r : Reader α) : Reader α := do
  let c ← get
  if c.room ≤ 1 then refuseNext .tooDeep
  else
    set { c with room := c.room - 1 }
    andFinally r (modify fun c => { c with room := c.room + 1 })

/-- The end of a list. -/
def closeList : Reader Unit := do
  match ← token with
  | some 93 => skip
  | some 44 =>
    skip
    match ← token with
    | some 93 => refuseNext .trailingComma
    | _ => refuseNext .trailingCharacters
  | some _ => refuseNext .trailingCharacters
  | none => refuseNext .endInList

/-- The end of an object. -/
def closeObject : Reader Unit := do
  match ← token with
  | some 125 => skip
  | some 44 => refuseNext .trailingComma
  | some _ => refuseNext .trailingCharacters
  | none => refuseNext .endInObject

/-- Whether a list goes on; reads the comma in front of a later element. -/
def hasElement (first : Bool) : Reader Bool := do
  match ← token with
  | none => refuseNext .endInList
  | some 93 => return false
  | some b =>
    if first then return true
    else if b = 44 then
      skip
      match ← token with
      | some 93 => refuseNext .trailingComma
      | some _ => return true
      | none => refuseNext .endInValue
    else refuseNext .noListEnd

/-- Whether an object goes on; reads the comma in front of a later member. -/
def hasMember (first : Bool) : Reader Bool := do
  match ← token with
  | none => refuseNext .endInObject
  | some 125 => return false
  | some b =>
    if first then
      if b = 34 then return true else refuseNext .keyNotText
    else if b = 44 then
      skip
      match ← token with
      | some 34 => return true
      | some 125 => refuseNext .trailingComma
      | some _ => refuseNext .keyNotText
      | none => refuseNext .endInValue
    else refuseNext .noObjectEnd

/-- The colon between a name and its value. -/
def colon : Reader Unit := do
  match ← token with
  | some 58 => skip
  | some _ => refuseNext .noColon
  | none => refuseNext .endInObject

/-- The elements of a list, each read by one reader; every element has at least one byte. -/
def elementsFrom {α : Type} (item : Reader α) : Nat → Bool → Reader (List α)
  | 0, _ => return []
  | rounds + 1, first => do
    if ← hasElement first then
      let a ← item
      return a :: (← elementsFrom item rounds false)
    else return []

/-- The members of an object, folded from left to right after each name has been read. -/
def membersFrom {σ : Type} (name : Reader String) (step : String → σ → Reader σ) :
    Nat → Bool → σ → Reader σ
  | 0, _, s => return s
  | rounds + 1, first, s => do
    if ← hasMember first then
      skip
      let s ← step (← name) s
      membersFrom name step rounds false s
    else return s

/-- A bound for the number of pieces left: the unread bytes. -/
def unread : Reader Nat := return (← get).bytes.length

end Reader

end RelationGate.Json
