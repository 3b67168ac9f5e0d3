import RelationGate.Proofs.Json.Reading
import RelationGate.Proofs.Json.RoundTrip

/-!
# Written documents are read back

Lists and objects are written as their pieces with commas between them, and are read piece by piece
(`elements_reads`, `members_reads`). So a document is read back as it was (`Numberless.reads`), if
it holds no numbers, has its members in order and is not too deep; a record is read from an object
in which its fields are written in turn (`Codec.record_reads`). What has been written holds no line
break (`Numberless.newline_notMem`).
-/

namespace RelationGate.Json

open Json.Reader Text

namespace Reader

variable {α σ : Type} {k : Nat} {E : Option UInt8 → Prop}

/-! ## Pieces between commas -/

/-- The pieces behind the first one, each behind a comma. -/
def behindCommas (pieces : List (List Char)) : List Char := pieces.flatMap (',' :: ·)

theorem behindCommas_cons (piece : List Char) (pieces : List (List Char)) :
    behindCommas (piece :: pieces) = ',' :: (piece ++ behindCommas pieces) := rfl

theorem separated_cons (piece : List Char) (pieces : List (List Char)) :
    separated (piece :: pieces) = piece ++ behindCommas pieces := by
  induction pieces generalizing piece with
  | nil => exact (List.append_nil piece).symm
  | cons piece' pieces ih =>
    show piece ++ ',' :: separated (piece' :: pieces) = _
    rw [ih, behindCommas_cons]

theorem length_le_behindCommas (pieces : List (List Char)) :
    pieces.length ≤ (bytesOf (behindCommas pieces)).length := by
  refine Nat.le_trans ?_ (length_le_bytesOf _)
  induction pieces with
  | nil => exact Nat.le_refl _
  | cons piece pieces ih =>
    rw [behindCommas_cons, List.length_cons, List.length_cons, List.length_append]
    omega

/-! ## Lists -/

/-- A value may begin here: there is neither a blank nor the end of a list. -/
abbrev Begins : Option UInt8 → Prop := fun next =>
  ∃ x, next = some x ∧ isBlankByte x = false ∧ x ≠ 93

theorem Begins.append {bs rest : List UInt8} (h : Begins bs.head?) : Begins (bs ++ rest).head? := by
  obtain ⟨x, hx, hbegins⟩ := h
  exact ⟨x, by rw [List.head?_append, hx]; rfl, hbegins⟩

theorem hasElement_of_end (first : Bool) : Reads k (Upto 93) (hasElement first) [] false :=
  .token_ahead_bind fun _ hnext => ⟨93, hnext, by decide, .pure false⟩

theorem hasElement_first : Reads k Begins (hasElement true) [] true := by
  refine .token_ahead_bind fun _ ⟨x, hnext, hblank, hx⟩ => ⟨x, hnext, hblank, ?_⟩
  split
  · next hnone => cases hnone
  · next hend => exact absurd (Option.some.inj hend) hx
  · exact .pure true

theorem hasElement_later : Reads k Begins (hasElement false) [44] true := by
  refine .token_bind (by decide) (.skip_bind (.token_ahead_bind ?_))
  rintro _ ⟨x, rfl, hblank, hx⟩
  refine ⟨x, rfl, hblank, ?_⟩
  split
  · next hend => exact absurd (Option.some.inj hend) hx
  · exact .pure true
  · next hnone => cases hnone

variable {item : Reader α} {pieces : List (List Char × α)}

theorem elementsFrom_reads {rounds : Nat}
    (h : ∀ p ∈ pieces, Begins (bytesOf p.1).head? ∧ Reads k Anything item (bytesOf p.1) p.2)
    (hrounds : pieces.length < rounds) :
    Reads k (Upto 93) (elementsFrom item rounds false)
      (bytesOf (behindCommas (pieces.map Prod.fst))) (pieces.map Prod.snd) := by
  induction pieces generalizing rounds with
  | nil =>
    obtain ⟨rounds, rfl⟩ := Nat.exists_eq_succ_of_ne_zero (Nat.ne_of_gt hrounds)
    exact (hasElement_of_end false).bind_nil (.pure [])
  | cons p pieces ih =>
    obtain ⟨⟨hbegins, hp⟩, hpieces⟩ := List.forall_mem_cons.1 h
    rw [List.length_cons] at hrounds
    obtain ⟨rounds, rfl⟩ :=
      Nat.exists_eq_succ_of_ne_zero (Nat.ne_of_gt (Nat.zero_lt_of_lt hrounds))
    have hlater := ih hpieces (Nat.lt_of_succ_lt_succ hrounds)
    rw [List.map_cons, behindCommas_cons, bytesOf_cons, bytesOf_append]
    exact hasElement_later.bind (hp.andThen (hlater.bind_nil (.pure _))) fun _ _ =>
      hbegins.append.append

/-- **The elements of a list** are read one by one. -/
theorem elements_reads
    (h : ∀ p ∈ pieces, Begins (bytesOf p.1).head? ∧ Reads k Anything item (bytesOf p.1) p.2) :
    Reads k (Upto 93) (elements item) (bytesOf (separated (pieces.map Prod.fst)))
      (pieces.map Prod.snd) := by
  refine .unread_bind fun n hn => ?_
  cases pieces with
  | nil => exact (hasElement_of_end true).bind_nil (.pure [])
  | cons p pieces =>
    obtain ⟨⟨hbegins, hp⟩, hpieces⟩ := List.forall_mem_cons.1 h
    rw [List.map_cons, separated_cons, bytesOf_append] at hn ⊢
    have hlength := length_le_behindCommas (pieces.map Prod.fst)
    rw [List.length_map] at hlength
    rw [List.length_append] at hn
    have hfirst : 0 < (bytesOf p.1).length := by
      obtain ⟨x, hx, -⟩ := hbegins
      exact List.length_pos_of_mem (List.mem_of_mem_head? hx)
    -- There are rounds enough: every piece has a byte of its own, its comma or its first one.
    obtain ⟨n, rfl⟩ : ∃ m, n = m + 1 := ⟨n - 1, by omega⟩
    have hrest := elementsFrom_reads hpieces (show pieces.length < n + 1 by omega)
    exact hasElement_first.look_bind (hp.andThen (hrest.bind_nil (.pure _))) fun _ _ =>
      hbegins.append.append

/-! ## Objects -/

/-- A member as it is written. -/
def memberText (m : String × List Char) : List Char := quotedChars m.1 ++ ':' :: m.2

/-- The text of an object with some written members. -/
def objectChars (ms : List (String × List Char)) : List Char :=
  '{' :: separated (ms.map memberText) ++ ['}']

/-- Step by step, the written members lead from one state to another. -/
inductive Chain (k : Nat) (step : String → σ → Reader σ) : σ → List (String × List Char) → σ → Prop
  | nil (s : σ) : Chain k step s [] s
  | cons {s s₁ s' : σ} {name : String} {cs : List Char} {ms : List (String × List Char)}
    (hstep : Reads k Anything (step name s) (58 :: bytesOf cs) s₁) (h : Chain k step s₁ ms s') :
    Chain k step s ((name, cs) :: ms) s'

theorem hasMember_of_end (first : Bool) : Reads k (Upto 125) (hasMember first) [] false :=
  .token_ahead_bind fun _ hnext => ⟨125, hnext, by decide, .pure false⟩

theorem hasMember_first : Reads k (Upto 34) (hasMember true) [] true :=
  .token_ahead_bind fun _ hnext => ⟨34, hnext, by decide, .pure true⟩

theorem hasMember_later : Reads k (Upto 34) (hasMember false) [44] true :=
  .token_bind (by decide) <| .skip_bind <| .token_ahead_bind fun _ hnext =>
    ⟨34, hnext, by decide, .pure true⟩

/-- A written member begins with a quote, and behind its name there is a colon. -/
theorem bytesOf_memberText (name : String) (cs : List Char) :
    bytesOf (memberText (name, cs)) =
      34 :: ((bytesOf (name.toList.flatMap escapedChar) ++ [34]) ++ 58 :: bytesOf cs) := by
  rw [memberText, bytesOf_append, bytesOf_quotedChars, List.cons_append]
  rfl

variable {step : String → σ → Reader σ} {s s' : σ} {ms : List (String × List Char)}

theorem membersFrom_reads {rounds : Nat} (h : Chain k step s ms s') (hrounds : ms.length < rounds) :
    Reads k (Upto 125) (membersFrom text step rounds false s)
      (bytesOf (behindCommas (ms.map memberText))) s' := by
  induction h generalizing rounds with
  | nil s =>
    obtain ⟨rounds, rfl⟩ := Nat.exists_eq_succ_of_ne_zero (Nat.ne_of_gt hrounds)
    exact (hasMember_of_end false).bind_nil (.pure s)
  | @cons s s₁ s' name cs ms hstep h ih =>
    rw [List.length_cons] at hrounds
    obtain ⟨rounds, rfl⟩ :=
      Nat.exists_eq_succ_of_ne_zero (Nat.ne_of_gt (Nat.zero_lt_of_lt hrounds))
    have hlater := ih (Nat.lt_of_succ_lt_succ hrounds)
    rw [List.map_cons, behindCommas_cons, bytesOf_cons, bytesOf_append, bytesOf_memberText,
      List.cons_append, List.append_assoc]
    exact hasMember_later.bind (.skip_bind ((text_reads name).andThen (hstep.andThen hlater)))
      fun _ _ => rfl

/-- **The members of an object** are read one by one. -/
theorem members_reads (h : Chain k step s ms s') :
    Reads k (Upto 125) (members step s) (bytesOf (separated (ms.map memberText))) s' := by
  refine .unread_bind fun n hn => ?_
  cases h with
  | nil => exact (hasMember_of_end true).bind_nil (.pure s)
  | @cons _ s₁ _ name cs ms hstep h =>
    rw [List.map_cons, separated_cons, bytesOf_append, bytesOf_memberText, List.cons_append,
      List.append_assoc] at hn ⊢
    have hlength := length_le_behindCommas (ms.map memberText)
    rw [List.length_map] at hlength
    simp only [List.length_cons, List.length_append] at hn
    obtain ⟨n, rfl⟩ : ∃ m, n = m + 1 := ⟨n - 1, by omega⟩
    have hrest := membersFrom_reads h (show ms.length < n + 1 by omega)
    exact hasMember_first.look_bind
      (.skip_bind ((text_reads name).andThen (hstep.andThen hrest))) fun _ _ => rfl

theorem colon_reads : Reads k E colon [58] () := .token_bind (by decide) .skip

/-- What an object is read for, from its written members. -/
theorem inObject_reads {content : Reader α} {a : α}
    (h : Reads k (Upto 125) content (bytesOf (separated (ms.map memberText))) a) :
    Reads (k + 1) Anything (inObject content) (bytesOf (objectChars ms)) a := by
  have hbytes : bytesOf (objectChars ms) =
      123 :: (bytesOf (separated (ms.map memberText)) ++ [125]) := by
    rw [objectChars, List.cons_append, bytesOf_cons, bytesOf_append]
    rfl
  rw [hbytes]
  exact .bracketed (by decide) takes_closeObject h

end Reader

/-! ## Documents -/

/-- A document without numbers, of at most so many levels, with the members of its objects in order.
-/
inductive Numberless : Nat → Json → Prop
  | null {k : Nat} : Numberless k .null
  | bool {k : Nat} (b : Bool) : Numberless k (.bool b)
  | str {k : Nat} (s : String) : Numberless k (.str s)
  | arr {k : Nat} {xs : List Json} (h : ∀ x ∈ xs, Numberless k x) : Numberless (k + 1) (.arr xs)
  | obj {k : Nat} {ms : List (String × Json)} (horder : InOrder ms)
    (h : ∀ m ∈ ms, Numberless k m.2) : Numberless (k + 1) (.obj ms)

theorem elementChars_eq_map (xs : List Json) : elementChars xs = xs.map chars := by
  induction xs with
  | nil => rfl
  | cons x xs ih => rw [elementChars, ih, List.map_cons]

theorem memberChars_eq_map (ms : List (String × Json)) :
    memberChars ms = (ms.map fun m => (m.1, chars m.2)).map memberText := by
  induction ms with
  | nil => rfl
  | cons m ms ih =>
    obtain ⟨name, j⟩ := m
    rw [memberChars, ih, List.map_cons, List.map_cons, memberText]

theorem chars_obj (ms : List (String × Json)) :
    chars (.obj ms) = objectChars (ms.map fun m => (m.1, chars m.2)) := by
  rw [chars, memberChars_eq_map, objectChars]

theorem InOrder.ofMembers {ms : List (String × Json)} (h : InOrder ms) :
    Json.ofMembers ms = .obj ms := by
  obtain ⟨sorted, hsorted, horder, hperm⟩ := ofMembers_eq_obj h.nodup
  rw [hsorted, horder.eq_of_perm h hperm]

namespace Numberless

variable {k : Nat} {j : Json}

/-- **The first byte** of a written document: no blank, not the end of a list, and only that of a
null if it is one. -/
theorem first_byte (h : Numberless k j) :
    ∃ x bs, bytesOf (chars j) = x :: bs ∧ Reader.isBlankByte x = false ∧ x ≠ 93 ∧
      (x = 'n'.toUInt8 → j = .null) := by
  cases h with
  | null => exact ⟨110, _, rfl, by decide, by decide, fun _ => rfl⟩
  | bool b => cases b <;> exact ⟨_, _, rfl, by decide, by decide, fun hx => absurd hx (by decide)⟩
  | str s =>
    rw [chars, bytesOf_quotedChars]
    exact ⟨34, _, rfl, by decide, by decide, fun hx => absurd hx (by decide)⟩
  | arr h => exact ⟨91, _, rfl, by decide, by decide, fun hx => absurd hx (by decide)⟩
  | obj horder h => exact ⟨123, _, rfl, by decide, by decide, fun hx => absurd hx (by decide)⟩

theorem begins (h : Numberless k j) : Reader.Begins (bytesOf (chars j)).head? := by
  obtain ⟨x, bs, hbytes, hblank, hend, -⟩ := h.first_byte
  exact ⟨x, by rw [hbytes]; rfl, hblank, hend⟩

end Numberless

namespace Reader

variable {α : Type} {k levels : Nat} {r : Reader α} {a : α} {j : Json} {x : UInt8}
  {bs : List UInt8}

/-- A document is read as its first byte has it. -/
theorem valueWithin_reads (hx : isBlankByte x = false) (h : Reads k Anything r (x :: bs) a)
    (hopens : ∀ {c c'}, Takes r c a c' → Opens levels c x j c') :
    Reads k Anything (valueWithin (levels + 1)) (x :: bs) j := by
  intro c rest hbytes hnext hroom
  have hhead := Cursor.head?_of_bytes hbytes
  have hblanks := Cursor.pastBlanks_of_head? hhead hx
  obtain ⟨c', ha, hafter⟩ := h hbytes hnext hroom
  refine ⟨c', takes_valueWithin_iff.2 ⟨x, ?_, ?_⟩, hafter⟩
  · rwa [hblanks]
  · rw [hblanks]
    exact hopens ha

/-- The members of an object are collected, the last one first. -/
theorem chain_collect {ms : List (String × Json)}
    (h : ∀ m ∈ ms, Reads k Anything (valueWithin levels) (bytesOf (chars m.2)) m.2)
    (found : List (String × Json)) :
    Chain k (fun name found => do
      colon
      return (name, ← valueWithin levels) :: found) found (ms.map fun m => (m.1, chars m.2))
      (ms.reverse ++ found) := by
  induction ms generalizing found with
  | nil => exact .nil found
  | cons m ms ih =>
    obtain ⟨hm, hms⟩ := List.forall_mem_cons.1 h
    have hrest := ih hms (m :: found)
    rw [List.reverse_cons, List.append_assoc]
    exact .cons (colon_reads.andThen (hm.bind_nil (.pure _))) hrest

end Reader

/-- **A document is read back** from what it is written as. -/
theorem Numberless.reads {k levels : Nat} {j : Json} (h : Numberless k j) (hlevels : k ≤ levels) :
    Reads k Anything (valueWithin (levels + 1)) (bytesOf (chars j)) j := by
  induction h generalizing levels with
  | null => exact valueWithin_reads (by decide) (.skip_bind (ident_reads (by simp))) .null
  | bool b =>
    cases b with
    | false => exact valueWithin_reads (by decide) (.skip_bind (ident_reads (by simp))) .no
    | true => exact valueWithin_reads (by decide) (.skip_bind (ident_reads (by simp))) .yes
  | str s =>
    rw [chars, bytesOf_quotedChars]
    exact valueWithin_reads (r := do skip; Reader.text) (by decide) (.skip_bind (text_reads s))
      fun h => .text (takes_skip_bind.1 h)
  | @arr k xs h ih =>
    obtain ⟨levels, rfl⟩ := Nat.exists_eq_add_of_le' (Nat.le_of_add_left_le hlevels)
    have hitems : ∀ p ∈ xs.map fun x => (chars x, x), Begins (bytesOf p.1).head? ∧
        Reads k Anything (valueWithin (levels + 1)) (bytesOf p.1) p.2 := by
      intro p hp
      obtain ⟨x, hx, rfl⟩ := List.mem_map.1 hp
      exact ⟨(h x hx).begins, ih x hx (Nat.le_of_succ_le_succ hlevels)⟩
    have hpieces : (xs.map fun x => (chars x, x)).map Prod.fst = elementChars xs := by
      rw [elementChars_eq_map, List.map_map]
      rfl
    have hvalues : (xs.map fun x => (chars x, x)).map Prod.snd = xs := by
      rw [List.map_map]
      exact List.map_id xs
    have helements := elements_reads hitems
    rw [hpieces, hvalues] at helements
    have hlist : Reads (k + 1) Anything (inList (elements (valueWithin (levels + 1))))
        (91 :: (bytesOf (separated (elementChars xs)) ++ [93])) xs :=
      .bracketed (by decide) takes_closeList helements
    rw [chars, List.cons_append, bytesOf_cons, bytesOf_append]
    exact valueWithin_reads (by decide) hlist .list
  | @obj k ms horder h ih =>
    obtain ⟨levels, rfl⟩ := Nat.exists_eq_add_of_le' (Nat.le_of_add_left_le hlevels)
    have hchain := chain_collect (fun m hm => ih m hm (Nat.le_of_succ_le_succ hlevels)) []
    rw [List.append_nil] at hchain
    have hobject := inObject_reads (members_reads hchain)
    rw [← chars_obj, chars, List.cons_append, bytesOf_cons] at hobject
    -- The members are collected with the last one first, and are in order already.
    have hsorted : Json.ofMembers ms.reverse.reverse = .obj ms := by
      rw [List.reverse_reverse, horder.ofMembers]
    rw [chars, List.cons_append, bytesOf_cons]
    exact valueWithin_reads (by decide) hobject fun htakes => hsorted ▸ .object htakes

/-! ## Line breaks -/

theorem notMem_separated {x : Char} {pieces : List (List Char)} (hx : x ≠ ',')
    (h : ∀ piece ∈ pieces, x ∉ piece) : x ∉ separated pieces := by
  cases pieces with
  | nil => exact List.not_mem_nil
  | cons piece pieces =>
    obtain ⟨hpiece, hpieces⟩ := List.forall_mem_cons.1 h
    rw [separated_cons, List.mem_append, behindCommas, List.mem_flatMap]
    rintro (hmem | ⟨piece', hpiece', hmem⟩)
    · exact hpiece hmem
    · exact (List.mem_cons.1 hmem).elim hx (hpieces piece' hpiece')

theorem newline_notMem_hexPair (n : Nat) : '\n' ∉ hexPair n := by
  have hdigit : ∀ d < 16, Nat.digitChar d ≠ '\n' := by decide
  have hhigh := hdigit (n / 16 % 16) (Nat.mod_lt _ (by decide))
  have hlow := hdigit (n % 16) (Nat.mod_lt _ (by decide))
  simp [hexPair, hhigh.symm, hlow.symm]

theorem newline_notMem_escapedChar (c : Char) : '\n' ∉ escapedChar c := by
  obtain ⟨letter, hescaped, -, hletter, -⟩ | ⟨-, hescaped⟩ | ⟨hc, -, -, hescaped⟩ :=
    escapedChar_cases c
  · simp [hescaped, hletter.symm]
  · simp [hescaped, newline_notMem_hexPair]
  · have hne : c ≠ '\n' := by
      rintro rfl
      exact absurd hc (by decide)
    simp [hescaped, hne.symm]

theorem newline_notMem_quotedChars (s : String) : '\n' ∉ quotedChars s := by
  simp [quotedChars, newline_notMem_escapedChar]

theorem newline_notMem_objectChars {ms : List (String × List Char)}
    (h : ∀ m ∈ ms, '\n' ∉ m.2) : '\n' ∉ objectChars ms := by
  have hpieces : ∀ piece ∈ ms.map memberText, '\n' ∉ piece := by
    intro piece hpiece
    obtain ⟨m, hm, rfl⟩ := List.mem_map.1 hpiece
    simp [memberText, newline_notMem_quotedChars, h m hm]
  simp [objectChars, notMem_separated (by decide) hpieces]

/-- **A written document holds no line break.** -/
theorem Numberless.newline_notMem {k : Nat} {j : Json} (h : Numberless k j) : '\n' ∉ chars j := by
  induction h with
  | null => decide
  | bool b => cases b <;> decide
  | str s => exact newline_notMem_quotedChars s
  | arr _ ih =>
    rw [chars, elementChars_eq_map]
    simpa using notMem_separated (by decide) (List.forall_mem_map.2 ih)
  | obj _ _ ih =>
    rw [chars_obj]
    exact newline_notMem_objectChars (List.forall_mem_map.2 ih)

/-! ## Records -/

namespace Fields

variable {α : Type} {k : Nat} {name : String} {αs : List Type} {field : RecordField α}
  {fields : Fields αs} {slot : Option α} {slots slots' : Slots αs} {values : Values αs}
  {ms : List (String × List Char)}

/-- The fields are written one after the other; one may be left out whose value is known without it.
-/
inductive InTurn (k : Nat) :
    (αs : List Type) → Fields αs → Values αs → List (String × List Char) → Prop
  | nil : InTurn k [] () () []
  | written {α : Type} {αs : List Type} {field : RecordField α} {fields : Fields αs} {a : α}
    {values : Values αs} {cs : List Char} {ms : List (String × List Char)}
    (h : Reads k Anything field.codec.read (bytesOf cs) a) (hrest : InTurn k αs fields values ms) :
    InTurn k (α :: αs) (field, fields) (a, values) ((field.name, cs) :: ms)
  | leftOut {α : Type} {αs : List Type} {field : RecordField α} {fields : Fields αs} {a : α}
    {values : Values αs} {ms : List (String × List Char)}
    (h : field.absent = some a) (hrest : InTurn k αs fields values ms) :
    InTurn k (α :: αs) (field, fields) (a, values) ms

theorem InTurn.sublist (h : InTurn k αs fields values ms) :
    (ms.map Prod.fst).Sublist (names αs fields) := by
  induction h with
  | nil => exact .slnil
  | written _ _ ih => exact ih.cons_cons _
  | leftOut _ _ ih => exact ih.cons _

/-- A member of another name is left to the other fields. -/
theorem readMember_of_ne (hname : field.name ≠ name) :
    readMember (α :: αs) (field, fields) name (slot, slots) =
      (slot, ·) <$> readMember αs fields name slots := by
  rw [readMember, readMember, update, if_neg hname]
  cases update readField name αs fields slots with
  | none => simp
  | some step => simp

theorem chain_of_notMem (h : Chain k (readMember αs fields) slots ms slots')
    (hnames : field.name ∉ ms.map Prod.fst) :
    Chain k (readMember (α :: αs) (field, fields)) (slot, slots) ms (slot, slots') := by
  induction h with
  | nil slots => exact .nil (slot, slots)
  | cons hstep _ ih =>
    rw [List.map_cons, List.mem_cons, not_or] at hnames
    obtain ⟨hname, hnames⟩ := hnames
    refine .cons ?_ (ih hnames)
    rw [readMember_of_ne hname]
    exact hstep.map _

/-- **The members of a record** are read one by one, and lead to the values of all fields. -/
theorem InTurn.chain (h : InTurn k αs fields values ms) (hnames : (names αs fields).Nodup) :
    ∃ slots, Chain k (readMember αs fields) (noSlots αs) ms slots ∧
      complete αs fields slots = .ok values := by
  -- What comes behind the member of a field has other names, and so passes the field by.
  induction h with
  | nil => exact ⟨(), .nil (), rfl⟩
  | @written _ αs field fields a values cs ms h hrest ih =>
    obtain ⟨hname, hnames⟩ := List.nodup_cons.1 hnames
    obtain ⟨slots, hchain, hcomplete⟩ := ih hnames
    have hfield : Reads k Anything (readField field none) (58 :: bytesOf cs) a :=
      colon_reads.andThen h
    have hstep : Reads k Anything
        (readMember (_ :: αs) (field, fields) field.name (none, noSlots αs)) (58 :: bytesOf cs)
        (some a, noSlots αs) := by
      rw [readMember, update, if_pos rfl]
      exact hfield.bind_nil (.pure _)
    refine ⟨(some a, slots), .cons hstep (chain_of_notMem hchain ?_), ?_⟩
    · exact fun hmem => hname (hrest.sublist.subset hmem)
    · simp [complete, hcomplete]
  | @leftOut _ αs field fields a values ms h hrest ih =>
    obtain ⟨hname, hnames⟩ := List.nodup_cons.1 hnames
    obtain ⟨slots, hchain, hcomplete⟩ := ih hnames
    refine ⟨(none, slots), chain_of_notMem hchain ?_, ?_⟩
    · exact fun hmem => hname (hrest.sublist.subset hmem)
    · simp [complete, hcomplete, h]

end Fields

namespace Codec

variable {α β : Type} {k : Nat} {E : Option UInt8 → Prop} {name : String} {αs : List Type}
  {fields : Fields αs} {values : Values αs} {ms : List (String × List Char)}

/-- **A record is read from an object** in which its fields are written in turn. -/
theorem record_reads {build : Values αs → β} {view : β → Values αs}
    (h : Fields.InTurn k αs fields values ms) (hnames : (Fields.names αs fields).Nodup) :
    Reads (k + 1) Anything (record name fields build view).read (bytesOf (objectChars ms))
      (build values) := by
  obtain ⟨slots, hchain, hcomplete⟩ := h.chain hnames
  have hvalues : Reads k (Upto 125) (ofDecoded (Fields.complete αs fields slots)) [] values := by
    rw [hcomplete]
    exact .pure values
  have hrecord : Reads (k + 1) Anything (readRecord name fields) (bytesOf (objectChars ms))
      values :=
    .opening_bind (by decide) (inObject_reads ((members_reads hchain).bind_nil hvalues))
  exact hrecord.map build

/-- A text is read from what it is written as. -/
theorem text_reads (s : String) : Reads k E text.read (bytesOf (quotedChars s)) s := by
  rw [bytesOf_quotedChars]
  exact .placed (.opening_bind (by decide) (.skip_bind (Reader.text_reads s)))

/-- A truth value is read from what it is written as. -/
theorem flag_reads (b : Bool) : Reads k E flag.read (bytesOf (chars (.bool b))) b := by
  have hword {letters : List Char} (h : ∀ c ∈ letters, c.toNat < 128) (b : Bool) :
      Reads k E (do ident letters; return b) (bytesOf letters) b :=
    (ident_reads h).bind_nil (.pure b)
  cases b with
  | false => exact .placed (.opening_bind (by decide) (.skip_bind (hword (by simp) false)))
  | true => exact .placed (.opening_bind (by decide) (.skip_bind (hword (by simp) true)))

/-- What is not null is read as something. -/
theorem optional_reads {c : Codec α} {x : UInt8} {bs : List UInt8} {a : α}
    (hx : isBlankByte x = false) (hnull : x ≠ 'n'.toUInt8) (h : Reads k E c.read (x :: bs) a) :
    Reads k E c.optional.read (x :: bs) (some a) := by
  refine .token_bind hx ?_
  rw [if_neg fun hsome => hnull (Option.some.inj hsome)]
  exact h.map some

/-- A document is read from what it is written as, also where it may be missing. -/
theorem optional_any_reads {j : Json} (h : Numberless k j) (hlevels : k ≤ 127) (hnull : j ≠ .null) :
    Reads k Anything any.optional.read (bytesOf (chars j)) (some j) := by
  have hj : Reads k Anything any.read (bytesOf (chars j)) j := h.reads hlevels
  obtain ⟨x, bs, hbytes, hblank, -, hfirst⟩ := h.first_byte
  rw [hbytes] at hj ⊢
  exact optional_reads hblank (fun hx => hnull (hfirst hx)) hj

/-! ## Codecs of documents without numbers -/

/-- Every value is written without numbers, in at most so many levels. -/
def IsNumberless (k : Nat) (c : Codec α) : Prop := ∀ a, Numberless k (c.encode a)

theorem text_isNumberless : text.IsNumberless k := fun s => .str s

theorem IsNumberless.map {c : Codec α} (h : c.IsNumberless k) {build : α → β} {view : β → α} :
    (c.map build view).IsNumberless k := fun b => h (view b)

theorem IsNumberless.optional {c : Codec α} (h : c.IsNumberless k) : c.optional.IsNumberless k
  | none => .null
  | some a => h a

end Codec

namespace Fields

variable {k : Nat} {αs : List Type} {fields : Fields αs} {values : Values αs}

/-- The codecs of all fields write without numbers. -/
def AreNumberless (k : Nat) : (αs : List Type) → Fields αs → Prop
  | [], _ => True
  | _ :: αs, (field, fields) => field.codec.IsNumberless k ∧ AreNumberless k αs fields

theorem encodeMembers_sublist :
    ((encodeMembers αs fields values).map Prod.fst).Sublist (names αs fields) := by
  induction αs with
  | nil => exact .slnil
  | cons α αs ih =>
    simp only [encodeMembers, names]
    split
    · exact .cons_cons _ ih
    · exact .cons _ ih

theorem AreNumberless.of_mem (h : AreNumberless k αs fields) {m : String × Json}
    (hm : m ∈ encodeMembers αs fields values) : Numberless k m.2 := by
  induction αs with
  | nil => cases hm
  | cons α αs ih =>
    simp only [encodeMembers] at hm
    split at hm
    · rcases List.mem_cons.1 hm with rfl | hm
      · exact h.1 _
      · exact ih h.2 hm
    · exact ih h.2 hm

end Fields

/-- Members of different names make an object without numbers if they are written so. -/
theorem ofMembers_numberless {k : Nat} {ms : List (String × Json)}
    (hnodup : (ms.map Prod.fst).Nodup) (h : ∀ m ∈ ms, Numberless k m.2) :
    Numberless (k + 1) (Json.ofMembers ms) := by
  obtain ⟨sorted, hobject, horder, hperm⟩ := ofMembers_eq_obj hnodup
  rw [hobject]
  exact .obj horder fun m hm => h m (hperm.mem_iff.1 hm)

/-- **A record is written without numbers** if its fields are. -/
theorem Codec.record_isNumberless {β : Type} {k : Nat} {name : String} {αs : List Type}
    {fields : Fields αs} {build : Values αs → β} {view : β → Values αs}
    (hnames : (Fields.names αs fields).Nodup) (h : Fields.AreNumberless k αs fields) :
    (record name fields build view).IsNumberless (k + 1) := fun _ =>
  ofMembers_numberless (hnames.sublist Fields.encodeMembers_sublist) fun _ hm => h.of_mem hm

end RelationGate.Json
