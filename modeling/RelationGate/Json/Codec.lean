import RelationGate.Json.Reader

/-!
# How a type stands in documents

A codec writes the values of a type as documents and takes them back, either from a document or
straight from a text. The two ways of taking agree on what they accept but not on the fault they
report: a text is refused at the first offending byte, while the members of a document are visited
in the order of their names.

A record is written as an object. It is taken from an object, whose unknown members are ignored,
or from a list of its fields in order.
-/

namespace RelationGate.Json

open Reader

/-- How a type is written and taken. -/
structure Codec (α : Type) where
  encode : α → Json
  decode : Json → Except Fault α
  read : Reader α

/-- A refusal without a place. -/
def refuse {α : Type} (cause : Cause) : Except Fault α := .error ⟨cause, none⟩

/-- A fault for a document of another kind. -/
def wrongType {α : Type} (j : Json) (expected : String) : Except Fault α :=
  refuse (.invalidType (found j) expected)

namespace Reader

/-- Raises a fault found in a document inside a text. -/
def ofDecoded {α : Type} : Except Fault α → Reader α
  | .ok a => return a
  | .error fault => throw fault

/-- Looks at the byte that opens a value. -/
def opening : Reader UInt8 := do
  match ← token with
  | some b => return b
  | none => refuseNext .endInValue

end Reader

namespace Codec

variable {α β : Type}

/-- The same documents for another type. -/
def map (c : Codec α) (build : α → β) (view : β → α) : Codec β where
  encode b := c.encode (view b)
  decode j := build <$> c.decode j
  read := build <$> c.read

/-- Any document. -/
def any : Codec Json where
  encode := id
  decode := .ok
  read := value

/-- A text. -/
def text : Codec String where
  encode := .str
  decode
    | .str s => .ok s
    | j => wrongType j "a string"
  read := placed do
    if (← opening) = '"'.toUInt8 then
      skip
      Reader.text
    else mismatch "a string"

/-- A truth value. -/
def flag : Codec Bool where
  encode := .bool
  decode
    | .bool b => .ok b
    | j => wrongType j "a boolean"
  read := placed do
    let b ← opening
    if b = 't'.toUInt8 then
      skip
      ident ['r', 'u', 'e']
      return true
    else if b = 'f'.toUInt8 then
      skip
      ident ['a', 'l', 's', 'e']
      return false
    else mismatch "a boolean"

/-- A document as a natural number below a bound. -/
def natBelow (kind : String) (bound : Nat) : Json → Except Fault Nat
  | .int n =>
    if 0 ≤ n ∧ n < bound then .ok n.toNat else refuse (.invalidValue (.integer n) kind)
  | j => wrongType j kind

/-- A natural number below a bound. -/
def unsigned (kind : String) (bound : Nat) : Codec Nat where
  encode n := .nat n
  decode := natBelow kind bound
  read := placed do
    let b ← opening
    if b = '-'.toUInt8 then
      skip
      ofDecoded (natBelow kind bound (← number true))
    else if isDigitByte b then ofDecoded (natBelow kind bound (← number false))
    else mismatch kind

/-- A 16-bit word. -/
def word16 : Codec UInt16 := (unsigned "u16" UInt16.size).map UInt16.ofNat UInt16.toNat

/-- A 32-bit word. -/
def word32 : Codec UInt32 := (unsigned "u32" UInt32.size).map UInt32.ofNat UInt32.toNat

/-- A 64-bit word. -/
def word64 : Codec UInt64 := (unsigned "u64" UInt64.size).map UInt64.ofNat UInt64.toNat

/-- A value that may be null. -/
def optional (c : Codec α) : Codec (Option α) where
  encode
    | none => .null
    | some a => c.encode a
  decode
    | .null => .ok none
    | j => some <$> c.decode j
  read := do
    if (← token) = some 'n'.toUInt8 then
      skip
      ident ['u', 'l', 'l']
      return none
    else some <$> c.read

/-- A list. -/
def list (c : Codec α) : Codec (List α) where
  encode xs := .arr (xs.map c.encode)
  decode
    | .arr xs => xs.mapM c.decode
    | j => wrongType j "a sequence"
  read := do
    if (← opening) = '['.toUInt8 then inList (elements c.read) else mismatch "a sequence"

/-! ## Choices between names -/

/-- The value of a name among the known ones. -/
def pick (names : List (String × α)) (name : String) : Except Fault α :=
  match names.lookup name with
  | some a => .ok a
  | none => refuse (.unknownVariant name (names.map Prod.fst))

/-- Takes one of some names: a text, or an object of that one name whose value is null. -/
def decodeName (names : List (String × α)) : Json → Except Fault α
  | .str s => pick names s
  | .obj [(name, payload)] => do
    let a ← pick names name
    match payload with
    | .null => return a
    | j => wrongType j "unit"
  | .obj _ => refuse (.invalidValue .map "map with a single key")
  | j => wrongType j "string or map"

/-- Reads one of some names between quotes. -/
def readQuotedName (names : List (String × α)) : Reader α := placed do
  if (← opening) = '"'.toUInt8 then
    skip
    ofDecoded (pick names (← Reader.text))
  else mismatch "variant identifier"

/-- Reads a null. -/
def readUnit : Reader Unit := placed do
  if (← opening) = 'n'.toUInt8 then
    skip
    ident ['u', 'l', 'l']
  else mismatch "unit"

/-- Reads one of some names, alone or as the single member of an object. -/
def readName (names : List (String × α)) : Reader α := do
  let b ← opening
  if b = '{'.toUInt8 then
    let a ← nested do
      skip
      let a ← readQuotedName names
      colon
      readUnit
      return a
    match ← token with
    | some 125 => skip
    | some _ => Reader.refuse .noValue
    | none => Reader.refuse .endInObject
    return a
  else if b = '"'.toUInt8 then readQuotedName names
  else refuseNext .noValue

/-- One of some names. -/
def choice (names : List (String × α)) (nameOf : α → String) : Codec α where
  encode a := .str (nameOf a)
  decode := decodeName names
  read := readName names

end Codec

/-! ## Records -/

/-- One field of a record. -/
structure RecordField (α : Type) where
  name : String
  codec : Codec α
  /-- The value of a field that an object does not have. -/
  absent : Option α := none
  /-- The value of a field that a list is too short for. -/
  absentInList : Option α := absent
  /-- Whether the field is written at all. -/
  written : α → Bool := fun _ => true

namespace RecordField

/-- A field that has to be given. -/
def required {α : Type} (name : String) (codec : Codec α) : RecordField α :=
  ⟨name, codec, none, none, fun _ => true⟩

/-- A field that has a value of its own when it is not given. -/
def defaulted {α : Type} (name : String) (codec : Codec α) (default : α) : RecordField α :=
  ⟨name, codec, some default, some default, fun _ => true⟩

/-- A field that may be missing or null, and is left out then. -/
def optional {α : Type} (name : String) (codec : Codec α) : RecordField (Option α) :=
  ⟨name, codec.optional, some none, some none, Option.isSome⟩

end RecordField

/-- One entry for every type of a list of types. -/
abbrev Tuple (f : Type → Type) : List Type → Type
  | [] => Unit
  | α :: αs => f α × Tuple f αs

/-- The fields of a record. -/
abbrev Fields := Tuple RecordField

/-- The fields that have been taken so far. -/
abbrev Slots := Tuple Option

/-- The values of all fields. -/
abbrev Values := Tuple id

namespace Fields

/-- No field has been taken. -/
def noSlots : (αs : List Type) → Slots αs
  | [] => ()
  | _ :: αs => (none, noSlots αs)

/-- Takes the field of a name, or `none` if there is no such field. -/
def update {m : Type → Type} [Monad m] (take : {α : Type} → RecordField α → Option α → m α)
    (name : String) : (αs : List Type) → Fields αs → Slots αs → Option (m (Slots αs))
  | [], _, _ => none
  | _ :: αs, (field, fields), (slot, slots) =>
    if field.name = name then
      some do return (some (← take field slot), slots)
    else (update take name αs fields slots).map fun rest => do return (slot, ← rest)

/-- The values once all members have been seen: the first field without one is missed. -/
def complete : (αs : List Type) → Fields αs → Slots αs → Except Fault (Values αs)
  | [], _, _ => .ok ()
  | _ :: αs, (field, fields), (slot, slots) =>
    match slot <|> field.absent with
    | some a => do return (a, ← complete αs fields slots)
    | none => refuse (.missingField field.name)

/-- Takes the members of an object one after the other. -/
def takeMembers (αs : List Type) (fields : Fields αs) :
    List (String × Json) → Slots αs → Except Fault (Slots αs)
  | [], slots => .ok slots
  | (name, j) :: rest, slots =>
    match update (fun field _ => field.codec.decode j) name αs fields slots with
    | some step => do takeMembers αs fields rest (← step)
    | none => takeMembers αs fields rest slots

/-- Takes the elements of a list in the order of the fields; `seen` elements are behind. -/
def takeElements (expected : String) :
    (αs : List Type) → Fields αs → Nat → List Json → Except Fault (Values αs)
  | [], _, _, _ => .ok ()
  | _ :: αs, (field, fields), seen, [] =>
    match field.absentInList with
    | some a => do return (a, ← takeElements expected αs fields seen [])
    | none => refuse (.invalidLength seen expected)
  | _ :: αs, (field, fields), seen, j :: rest => do
    let a ← field.codec.decode j
    return (a, ← takeElements expected αs fields (seen + 1) rest)

/-- Reads the value of a field, which may be given once. -/
def readField {α : Type} (field : RecordField α) (slot : Option α) : Reader α := do
  if slot.isSome then reject (.duplicateField field.name)
  colon
  field.codec.read

/-- Reads one member of an object; an unknown one is skipped. -/
def readMember (αs : List Type) (fields : Fields αs) (name : String) (slots : Slots αs) :
    Reader (Slots αs) :=
  match update readField name αs fields slots with
  | some step => step
  | none => do
    colon
    skipValue
    return slots

/-- Reads the elements of a list in the order of the fields; once it is `done`, no more come. -/
def readElements (expected : String) :
    (αs : List Type) → Fields αs → Nat → Bool → Reader (Values αs)
  | [], _, _, _ => return ()
  | _ :: αs, (field, fields), seen, done => do
    let more ← if done then pure false else hasElement (seen == 0)
    if more then
      let a ← field.codec.read
      return (a, ← readElements expected αs fields (seen + 1) false)
    else
      match field.absentInList with
      | some a => return (a, ← readElements expected αs fields seen true)
      | none => reject (.invalidLength seen expected)

/-- The written members of a record. -/
def encodeMembers : (αs : List Type) → Fields αs → Values αs → List (String × Json)
  | [], _, _ => []
  | α :: αs, (field, fields), (a, rest) =>
    let a : α := a
    let others := encodeMembers αs fields rest
    if field.written a then (field.name, field.codec.encode a) :: others else others

end Fields

namespace Codec

variable {α β : Type}

/-- What a list is called that a record is taken from. -/
def recordLength (name : String) (count : Nat) : String :=
  name ++ " with " ++ toString count ++ (if count = 1 then " element" else " elements")

/-- Takes a record from a document. -/
def decodeRecord (name : String) {αs : List Type} (fields : Fields αs) :
    Json → Except Fault (Values αs)
  | .obj ms => do
    Fields.complete αs fields (← Fields.takeMembers αs fields ms (Fields.noSlots αs))
  | .arr xs => do
    let values ← Fields.takeElements (recordLength name αs.length) αs fields 0 xs
    if αs.length < xs.length then
      refuse (.invalidLength xs.length "fewer elements in array")
    return values
  | j => wrongType j name

/-- Reads a record from a text. -/
def readRecord (name : String) {αs : List Type} (fields : Fields αs) : Reader (Values αs) := do
  let b ← opening
  if b = '{'.toUInt8 then
    inObject do
      let slots ← members (Fields.readMember αs fields) (Fields.noSlots αs)
      ofDecoded (Fields.complete αs fields slots)
  else if b = '['.toUInt8 then
    inList (Fields.readElements (recordLength name αs.length) αs fields 0 false)
  else mismatch name

/-- A record: what a fault calls it, its fields, and how it is put together and taken apart. -/
def record (name : String) {T : List Type} (fields : Fields T) (build : Values T → β)
    (view : β → Values T) : Codec β where
  encode b := Json.ofMembers (Fields.encodeMembers T fields (view b))
  decode j := build <$> decodeRecord name fields j
  read := build <$> readRecord name fields

/-! ## Open records -/

/-- Splits the members of an object into fields and others. -/
def takeOpen (αs : List Type) (fields : Fields αs) :
    List (String × Json) → Slots αs → Except Fault (Slots αs × List (String × Json))
  | [], slots => .ok (slots, [])
  | (name, j) :: rest, slots =>
    match Fields.update (fun field _ => field.codec.decode j) name αs fields slots with
    | some step => do takeOpen αs fields rest (← step)
    | none => do
      let (slots, others) ← takeOpen αs fields rest slots
      return (slots, (name, j) :: others)

/-- Reads one member of an open record; an unknown one is kept. -/
def readOpenMember (αs : List Type) (fields : Fields αs) (name : String)
    (s : Slots αs × List (String × Json)) : Reader (Slots αs × List (String × Json)) :=
  match Fields.update Fields.readField name αs fields s.1 with
  | some step => do return (← step, s.2)
  | none => do
    colon
    return (s.1, insertMember name (← value) s.2)

/-- A record that keeps the members it does not know. It is no list. -/
def openRecord (name : String) {T : List Type} (fields : Fields T)
    (build : Values T → List (String × Json) → β)
    (view : β → Values T × List (String × Json)) : Codec β where
  encode b := Json.ofMembers (Fields.encodeMembers T fields (view b).1 ++ (view b).2)
  decode
    | .obj ms => do
      let (slots, others) ← takeOpen T fields ms (Fields.noSlots T)
      return build (← Fields.complete T fields slots) others
    | j => wrongType j name
  read := do
    if (← opening) = '{'.toUInt8 then
      inObject do
        let (slots, others) ← members (readOpenMember T fields) (Fields.noSlots T, [])
        return build (← ofDecoded (Fields.complete T fields slots)) others
    else mismatch name

/-! ## Tagged choices -/

/-- A branch of a tagged choice: a value without content, or the codec of its content. -/
inductive Branch (α : Type) where
  | bare (label : String) (value : α)
  | carrying (codec : Codec α)

/-- Takes the content of a branch. -/
def Branch.decode : Branch α → Json → Except Fault α
  | .bare label a, j =>
    match j with
    | .null => .ok a
    | j => wrongType j ("unit variant " ++ label)
  | .carrying codec, j => codec.decode j

/-- Reads the content of a branch. -/
def Branch.read : Branch α → Reader α
  | .carrying codec => codec.read
  | .bare label a => do
    let expected := "unit variant " ++ label
    let b ← opening
    if b = 'n'.toUInt8 then
      skip
      ident ['u', 'l', 'l']
      return a
    else if b = '['.toUInt8 then inList (reject (.invalidType .sequence expected))
    else if b = '{'.toUInt8 then inObject (reject (.invalidType .map expected))
    else mismatch expected

/-- The value of a branch whose content is not given. -/
def Branch.withoutContent (content : String) : Branch α → Except Fault α
  | .bare _ a => .ok a
  | .carrying _ => refuse (.missingField content)

/-- A choice whose branch stands under one name and its content under another. -/
structure Tagged (α : Type) where
  /-- What a fault calls the choice. -/
  name : String
  tag : String
  content : String
  branches : List (String × Branch α)
  /-- The branch of a value, and the content if it has one. -/
  view : α → String × Option Json

namespace Tagged

/-- What has been read of a tagged choice. -/
inductive Progress (α : Type) where
  | nothing
  | branch (b : Branch α)
  | contentFirst (j : Json)
  | done (a : α)

/-- Reads one member of a tagged choice. -/
def readMember (t : Tagged α) (name : String) : Progress α → Reader (Progress α)
  | .nothing => do
    if name = t.tag then
      colon
      return .branch (← readName t.branches)
    else if name = t.content then
      colon
      return .contentFirst (← value)
    else
      colon
      skipValue
      return .nothing
  | .branch b => do
    if name = t.tag then reject (.duplicateField t.tag)
    else if name = t.content then
      colon
      return .done (← b.read)
    else
      colon
      skipValue
      return .branch b
  | .contentFirst j => do
    if name = t.tag then
      colon
      let b ← readName t.branches
      return .done (← ofDecoded (b.decode j))
    else if name = t.content then reject (.duplicateField t.content)
    else
      colon
      skipValue
      return .contentFirst j
  | .done a => do
    if name = t.tag then reject (.duplicateField t.tag)
    else if name = t.content then reject (.duplicateField t.content)
    else
      colon
      skipValue
      return .done a

/-- The value once all members have been read. -/
def finish (t : Tagged α) : Progress α → Except Fault α
  | .nothing | .contentFirst _ => refuse (.missingField t.tag)
  | .branch b => b.withoutContent t.content
  | .done a => .ok a

/-- Reads a tagged choice from a list of the tag and the content. -/
def readElements (t : Tagged α) : Reader α := do
  if ← hasElement true then
    let b ← readName t.branches
    if ← hasElement false then b.read
    else reject (.invalidLength 1 t.name)
  else reject (.invalidLength 0 t.name)

/-- Takes a tagged choice from a document. -/
def decode (t : Tagged α) : Json → Except Fault α
  | .obj ms =>
    match ms.lookup t.tag with
    | none => refuse (.missingField t.tag)
    | some tag => do
      let b ← decodeName t.branches tag
      match ms.lookup t.content with
      | some content => b.decode content
      | none => b.withoutContent t.content
  | .arr [] => refuse (.invalidLength 0 t.name)
  | .arr [tag] => do
    let _ ← decodeName t.branches tag
    refuse (.invalidLength 1 t.name)
  | .arr (tag :: content :: rest) => do
    let b ← decodeName t.branches tag
    let a ← b.decode content
    if rest.isEmpty then return a
    else refuse (.invalidLength (rest.length + 2) "fewer elements in array")
  | j => wrongType j t.name

/-- The codec of a tagged choice. -/
def codec (t : Tagged α) : Codec α where
  encode a :=
    match t.view a with
    | (name, none) => Json.ofMembers [(t.tag, .str name)]
    | (name, some j) => Json.ofMembers [(t.tag, .str name), (t.content, j)]
  decode := t.decode
  read := do
    let b ← opening
    if b = '{'.toUInt8 then
      inObject do
        let progress ← members t.readMember .nothing
        ofDecoded (t.finish progress)
    else if b = '['.toUInt8 then inList t.readElements
    else mismatch t.name

end Tagged

end Codec

end RelationGate.Json
