import Mathlib.Tactic.SplitIfs
import RelationGate.Json.Printer
import RelationGate.Proofs.Json.Documents
import RelationGate.Proofs.Text.Bytes

/-!
# What readers make of given bytes

`Reads k E r bs a` says that a reader which comes to some bytes takes a value from them and stops
right behind them, whatever the cursor has seen before: if what comes next is as `E` has it, and if
there is room for more than `k` levels. Each way of putting readers together has its law, as it has
for `Takes`, but here the bytes are given and the value follows from them.

A text between quotes is read back as it was (`text_reads`): every character that is escaped is read
as itself, and the bytes of every other one are read as they are (`Spells.char`).
-/

namespace RelationGate.Json

open Text

/-! ## Cursors in front of given bytes -/

namespace Cursor

variable {c : Cursor} {b : UInt8} {rest : List UInt8}

theorem head?_of_bytes (h : c.bytes = b :: rest) : c.head? = some b := by rw [head?, h]; rfl

theorem bytes_moved (h : c.bytes = b :: rest) : c.moved.bytes = rest := by rw [moved, h]

theorem pastBlanks_of_head? (h : c.head? = some b) (hb : Reader.isBlankByte b = false) :
    c.pastBlanks = c := by
  refine past_of_not_head? fun x hx => ?_
  rwa [← Option.some.inj (h.symm.trans hx)]

end Cursor

namespace Reader

variable {α β σ : Type} {k : Nat} {E E₁ : Option UInt8 → Prop} {r : Reader α} {f : α → Reader β}
  {bs bs₁ bs₂ out : List UInt8} {a : α} {b : β} {x : UInt8}

/-! ## Reading given bytes -/

/-- Anything may come next. -/
abbrev Anything : Option UInt8 → Prop := fun _ => True

/-- A byte comes next. -/
abbrev Upto (x : UInt8) : Option UInt8 → Prop := fun next => next = some x

/-- Where some bytes come, and behind them what is expected, a reader with room for more than so
many levels takes a value and stops right behind the bytes. -/
def Reads (k : Nat) (E : Option UInt8 → Prop) (r : Reader α) (bs : List UInt8) (a : α) : Prop :=
  ∀ ⦃c : Cursor⦄ ⦃rest : List UInt8⦄, c.bytes = bs ++ rest → E rest.head? → k < c.room →
    ∃ c', Takes r c a c' ∧ c'.bytes = rest ∧ c'.room = c.room

namespace Reads

theorem mono {k' : Nat} (h : Reads k E r bs a) (hk : k ≤ k') : Reads k' E r bs a :=
  fun _ _ hbytes hnext hroom => h hbytes hnext (Nat.lt_of_le_of_lt hk hroom)

protected theorem pure (a : α) : Reads k E (pure a) [] a :=
  fun c _ hbytes _ _ => ⟨c, takes_pure.2 ⟨rfl, rfl⟩, hbytes, rfl⟩

/-- **One after the other**: what the second one reads is what comes next for the first one. -/
protected theorem bind (h : Reads k E₁ r bs₁ a) (hf : Reads k E (f a) bs₂ b)
    (hE : ∀ rest : List UInt8, E rest.head? → E₁ (bs₂ ++ rest).head?) :
    Reads k E (r >>= f) (bs₁ ++ bs₂) b := by
  intro c rest hbytes hnext hroom
  rw [List.append_assoc] at hbytes
  obtain ⟨c₁, ha, hbytes₁, hroom₁⟩ := h hbytes (hE rest hnext) hroom
  obtain ⟨c₂, hb, hbytes₂, hroom₂⟩ := hf hbytes₁ hnext (hroom₁ ▸ hroom)
  exact ⟨c₂, takes_bind.2 ⟨a, c₁, ha, hb⟩, hbytes₂, hroom₂.trans hroom₁⟩

/-- What comes behind a reader may be left to itself. -/
theorem bind_nil (h : Reads k E r bs a) (hf : Reads k E (f a) [] b) : Reads k E (r >>= f) bs b := by
  rw [← List.append_nil bs]
  exact h.bind hf fun _ hnext => hnext

/-- Before a reader another one may look at what comes next. -/
theorem look_bind (h : Reads k E₁ r [] a) (hf : Reads k E (f a) bs b)
    (hE : ∀ rest : List UInt8, E rest.head? → E₁ (bs ++ rest).head?) :
    Reads k E (r >>= f) bs b :=
  h.bind hf hE

theorem andThen (h : Reads k Anything r bs₁ a) (hf : Reads k E (f a) bs₂ b) :
    Reads k E (r >>= f) (bs₁ ++ bs₂) b :=
  h.bind hf fun _ _ => trivial

protected theorem map (h : Reads k E r bs a) (g : α → β) : Reads k E (g <$> r) bs (g a) := by
  intro c rest hbytes hnext hroom
  obtain ⟨c', ha, hafter⟩ := h hbytes hnext hroom
  exact ⟨c', takes_map.2 ⟨a, ha, rfl⟩, hafter⟩

protected theorem placed (h : Reads k E r bs a) : Reads k E (placed r) bs a := by
  intro c rest hbytes hnext hroom
  obtain ⟨c', ha, hafter⟩ := h hbytes hnext hroom
  exact ⟨c', takes_placed.2 ha, hafter⟩

section

variable {g : Option UInt8 → Reader β}

theorem next_bind (h : Reads k E (g (some x)) bs b) : Reads k E (next >>= g) (x :: bs) b := by
  intro c rest hbytes hnext hroom
  obtain ⟨c', hb, hrest, hroom'⟩ := h (Cursor.bytes_moved hbytes) hnext (by rwa [Cursor.room_moved])
  refine ⟨c', takes_next_bind.2 ?_, hrest, by rw [hroom', Cursor.room_moved]⟩
  rwa [Cursor.head?_of_bytes hbytes]

theorem skip_bind {g : Unit → Reader β} (h : Reads k E (g ()) bs b) :
    Reads k E (skip >>= g) (x :: bs) b := by
  intro c rest hbytes hnext hroom
  obtain ⟨c', hb, hrest, hroom'⟩ := h (Cursor.bytes_moved hbytes) hnext (by rwa [Cursor.room_moved])
  exact ⟨c', takes_skip_bind.2 hb, hrest, by rw [hroom', Cursor.room_moved]⟩

protected theorem skip : Reads k E skip [x] () :=
  fun c _ hbytes _ _ =>
    ⟨c.moved, takes_skip.2 rfl, Cursor.bytes_moved hbytes, Cursor.room_moved⟩

/-- A look at the next byte of the text. -/
theorem peek_bind (h : Reads k E (g (some x)) (x :: bs) b) :
    Reads k E (peek >>= g) (x :: bs) b := by
  intro c rest hbytes hnext hroom
  obtain ⟨c', hb, hafter⟩ := h hbytes hnext hroom
  refine ⟨c', takes_peek_bind.2 ?_, hafter⟩
  rwa [Cursor.head?_of_bytes hbytes]

/-- A look at what comes behind the text. -/
theorem peek_upto_bind (h : Reads k (Upto x) (g (some x)) [] b) :
    Reads k (Upto x) (peek >>= g) [] b := by
  intro c rest hbytes hnext hroom
  obtain ⟨c', hb, hafter⟩ := h hbytes hnext hroom
  refine ⟨c', takes_peek_bind.2 ?_, hafter⟩
  rwa [Cursor.head?, hbytes, List.nil_append, hnext]

theorem token_bind (hx : isBlankByte x = false) (h : Reads k E (g (some x)) (x :: bs) b) :
    Reads k E (token >>= g) (x :: bs) b := by
  intro c rest hbytes hnext hroom
  have hhead := Cursor.head?_of_bytes hbytes
  obtain ⟨c', hb, hafter⟩ := h hbytes hnext hroom
  refine ⟨c', takes_token_bind.2 ?_, hafter⟩
  rwa [Cursor.pastBlanks_of_head? hhead hx, hhead]

/-- A look at the token behind the text. -/
theorem token_ahead_bind (h : ∀ next, E next → ∃ x, next = some x ∧ isBlankByte x = false ∧
    Reads k E (g (some x)) [] b) : Reads k E (token >>= g) [] b := by
  intro c rest hbytes hnext hroom
  obtain ⟨x, hsome, hx, hb⟩ := h _ hnext
  have hhead : c.head? = some x := by rwa [Cursor.head?, hbytes]
  obtain ⟨c', hb, hafter⟩ := hb hbytes hnext hroom
  refine ⟨c', takes_token_bind.2 ?_, hafter⟩
  rwa [Cursor.pastBlanks_of_head? hhead hx, hhead]

theorem opening_bind {g : UInt8 → Reader β} (hx : isBlankByte x = false)
    (h : Reads k E (g x) (x :: bs) b) : Reads k E (opening >>= g) (x :: bs) b := by
  intro c rest hbytes hnext hroom
  have hhead := Cursor.head?_of_bytes hbytes
  obtain ⟨c', hb, hafter⟩ := h hbytes hnext hroom
  refine ⟨c', Codec.takes_opening_bind.2 ⟨x, ?_, ?_⟩, hafter⟩
  · rwa [Cursor.pastBlanks_of_head? hhead hx]
  · rwa [Cursor.pastBlanks_of_head? hhead hx]

/-- A look at the cursor in front of the text. -/
theorem get_bind {g : Cursor → Reader β} (h : ∀ c : Cursor, bs <+: c.bytes → Reads k E (g c) bs b) :
    Reads k E ((get : Reader Cursor) >>= g) bs b := by
  intro c rest hbytes hnext hroom
  obtain ⟨c', hb, hafter⟩ := h c ⟨rest, hbytes.symm⟩ hbytes hnext hroom
  have hget : outcome (get : Reader Cursor) c = (.ok c, c) := rfl
  exact ⟨c', (takes_bind_of_outcome hget).2 hb, hafter⟩

/-- There are at least as many unread bytes as are to be read. -/
theorem unread_bind {g : Nat → Reader β} (h : ∀ n, bs.length ≤ n → Reads k E (g n) bs b) :
    Reads k E (unread >>= g) bs b := by
  intro c rest hbytes hnext hroom
  obtain ⟨c', hb, hafter⟩ :=
    h c.bytes.length (by rw [hbytes, List.length_append]; exact Nat.le_add_right _ _) hbytes hnext
      hroom
  exact ⟨c', takes_unread_bind.2 hb, hafter⟩

end

/-- **Between brackets** there is one level more. -/
theorem bracketed {finish : Reader Unit} {first last : UInt8} (hlast : isBlankByte last = false)
    (hfinish : ∀ {c u c'}, Takes finish c u c' ↔
      c.pastBlanks.head? = some last ∧ c' = c.pastBlanks.moved)
    (h : Reads k (Upto last) r bs a) :
    Reads (k + 1) Anything (placed (andFinally (nested (do skip; r)) finish))
      (first :: (bs ++ [last])) a := by
  intro c rest hbytes _ hroom
  have hinside : c.moved.inside.bytes = bs ++ last :: rest := by
    rw [List.cons_append, List.append_assoc] at hbytes
    exact Cursor.bytes_moved hbytes
  have hroom' : k < c.moved.inside.room := by
    show k < c.moved.room - 1
    rw [Cursor.room_moved]
    omega
  obtain ⟨c₁, ha, hbytes₁, hroom₁⟩ := h hinside rfl hroom'
  have hhead : c₁.head? = some last := Cursor.head?_of_bytes hbytes₁
  have hblanks : c₁.pastBlanks = c₁ := Cursor.pastBlanks_of_head? hhead hlast
  refine ⟨c₁.moved.outside, (takes_bracketed hfinish).2 ⟨by omega, c₁, ha, ?_, ?_⟩, ?_, ?_⟩
  · rw [hblanks, hhead]
  · rw [hblanks]
  · exact Cursor.bytes_moved hbytes₁
  · show c₁.moved.room + 1 = c.room
    rw [Cursor.room_moved, hroom₁]
    show c.moved.room - 1 + 1 = c.room
    rw [Cursor.room_moved]
    omega

end Reads

/-- **A whole text** is read by whoever reads its bytes. -/
theorem Reads.run (h : Reads k Anything r bs a) (hk : k < depthLimit) : run r bs = .ok a := by
  obtain ⟨c', ha, hrest, -⟩ := h (c := .start bs) (List.append_nil bs).symm trivial hk
  have hend : c'.head? = none := by rw [Cursor.head?, hrest]; rfl
  refine run_eq_ok_iff.2 ⟨c', ha, ?_⟩
  rwa [Cursor.pastBlanks, Cursor.past_of_not_head? (by simp [hend])]

/-! ## Texts -/

theorem ident_reads {letters : List Char} (h : ∀ c ∈ letters, c.toNat < 128) :
    Reads k E (ident letters) (bytesOf letters) () := by
  induction letters with
  | nil => exact .pure ()
  | cons c letters ih =>
    obtain ⟨hc, hletters⟩ := List.forall_mem_cons.1 h
    rw [bytesOf_cons, utf8EncodeChar_of_lt hc]
    refine Reads.andThen (a := ()) (.next_bind ?_) (ih hletters)
    simp only [if_true]
    exact .pure ()

/-- As long as there are rounds enough, the text between quotes is read as some bytes. -/
def Spells (k : Nat) (bs out : List UInt8) : Prop :=
  ∀ rounds, bs.length < rounds → Reads k (Upto 34) (textBytes rounds) bs out

theorem spells_nil : Spells k [] [] := by
  intro rounds hrounds
  obtain ⟨rounds, rfl⟩ := Nat.exists_eq_succ_of_ne_zero (Nat.ne_of_gt hrounds)
  exact .peek_upto_bind (.pure [])

/-- A byte between quotes that stands for itself. -/
def IsPlain (x : UInt8) : Prop := 32 ≤ x.toNat ∧ x ≠ 34 ∧ x ≠ 92

namespace Spells

theorem plain (h : Spells k bs out) (hx : IsPlain x) : Spells k (x :: bs) (x :: out) := by
  intro rounds hrounds
  obtain ⟨hlarge, hquote, hbackslash⟩ := hx
  rw [List.length_cons] at hrounds
  obtain ⟨rounds, rfl⟩ := Nat.exists_eq_succ_of_ne_zero (Nat.ne_of_gt (Nat.zero_lt_of_lt hrounds))
  have hcontrol : ¬x < 32 := by
    rw [UInt8.lt_iff_toNat_lt]
    exact Nat.not_lt.2 hlarge
  refine .peek_bind ?_
  split
  · next hnone => cases hnone
  · next hsome => exact absurd (Option.some.inj hsome) hquote
  · next hsome => exact absurd (Option.some.inj hsome) hbackslash
  · next hsome =>
    cases hsome
    refine .skip_bind ?_
    rw [if_neg hcontrol]
    exact (h rounds (by omega)).bind_nil (.pure _)

theorem plain_append (h : Spells k bs out) (hbs₁ : ∀ x ∈ bs₁, IsPlain x) :
    Spells k (bs₁ ++ bs) (bs₁ ++ out) := by
  induction bs₁ with
  | nil => exact h
  | cons x bs₁ ih =>
    obtain ⟨hx, hbs₁⟩ := List.forall_mem_cons.1 hbs₁
    exact (ih hbs₁).plain hx

/-- A backslash and what it opens. -/
theorem escape {piece : List UInt8} (h : Spells k bs out)
    (hpiece : Reads k Anything escape bs₁ piece) :
    Spells k (92 :: (bs₁ ++ bs)) (piece ++ out) := by
  intro rounds hrounds
  rw [List.length_cons, List.length_append] at hrounds
  obtain ⟨rounds, rfl⟩ := Nat.exists_eq_succ_of_ne_zero (Nat.ne_of_gt (Nat.zero_lt_of_lt hrounds))
  refine .peek_bind (.skip_bind (hpiece.andThen ?_))
  exact (h rounds (by omega)).bind_nil (.pure _)

end Spells

theorem escape_of_letter {byte : UInt8} (h : simpleEscape? x = some byte) :
    Reads k E escape [x] [byte] := by
  refine .next_bind ?_
  simp only [h]
  exact .pure _

/-- Four hexadecimal digits. -/
theorem hexEscape_reads {x₁ x₂ x₃ x₄ : UInt8} {n₁ n₂ n₃ n₄ : Nat} (h₁ : hexValue? x₁ = some n₁)
    (h₂ : hexValue? x₂ = some n₂) (h₃ : hexValue? x₃ = some n₃) (h₄ : hexValue? x₄ = some n₄) :
    Reads k E hexEscape [x₁, x₂, x₃, x₄] (((n₁ * 16 + n₂) * 16 + n₃) * 16 + n₄) := by
  refine .get_bind fun c hbytes => ?_
  obtain ⟨rest, hbytes⟩ := hbytes
  simp only [← hbytes, List.cons_append, h₁, h₂, h₃, h₄]
  exact .skip_bind (.skip_bind (.skip_bind (.skip_bind (.pure _))))

/-- A code point that opens no surrogate pair. -/
theorem codePoint_reads {n : Nat} (h : Reads k E hexEscape bs n) (hn : n < 0xD800) :
    Reads k E codePoint bs n := by
  refine h.bind_nil ?_
  rw [if_neg (by simp; omega), if_neg (by simp; omega)]
  exact .pure n

theorem escape_of_codePoint {n : Nat} (h : Reads k E codePoint bs n) :
    Reads k E escape ('u'.toUInt8 :: bs) (String.utf8EncodeChar (Char.ofNat n)) := by
  refine .next_bind ?_
  simp only [show simpleEscape? 'u'.toUInt8 = none by decide, if_true]
  exact h.bind_nil (.pure _)

theorem hexValue?_digitChar :
    ∀ n < 16, bytesOf [Nat.digitChar n] = [(Nat.digitChar n).toUInt8] ∧
      hexValue? (Nat.digitChar n).toUInt8 = some n := by
  decide

/-- A control is read back from its code point. -/
theorem escape_of_hexPair {n : Nat} (hn : n < 256) :
    Reads k E escape (bytesOf (['u', '0', '0'] ++ hexPair n))
      (String.utf8EncodeChar (Char.ofNat n)) := by
  obtain ⟨hhigh, hhigh'⟩ := hexValue?_digitChar (n / 16 % 16) (Nat.mod_lt _ (by decide))
  obtain ⟨hlow, hlow'⟩ := hexValue?_digitChar (n % 16) (Nat.mod_lt _ (by decide))
  have hbytes : bytesOf (['u', '0', '0'] ++ hexPair n) =
      ['u'.toUInt8, 48, 48, (Nat.digitChar (n / 16 % 16)).toUInt8, (Nat.digitChar (n % 16)).toUInt8]
      := by
    rw [hexPair, ← List.singleton_append (l := [Nat.digitChar (n % 16)]), bytesOf_append,
      bytesOf_append, hhigh, hlow]
    rfl
  have hvalue : ((0 * 16 + 0) * 16 + n / 16 % 16) * 16 + n % 16 = n := by omega
  have hdigits := hexEscape_reads (k := k) (E := E) (show hexValue? 48 = some 0 by decide)
    (show hexValue? 48 = some 0 by decide) hhigh' hlow'
  rw [hvalue] at hdigits
  rw [hbytes]
  exact escape_of_codePoint (codePoint_reads hdigits (by omega))

/-- **How a character is written** between quotes: as a backslash and a letter that stands for it,
by its code point if it is another control, or as itself. -/
theorem escapedChar_cases (c : Char) :
    (∃ letter, escapedChar c = ['\\', letter] ∧ letter.toNat < 128 ∧ letter ≠ '\n' ∧
      c.toNat < 128 ∧ simpleEscape? letter.toUInt8 = some c.toUInt8) ∨
    c.toNat < 32 ∧ escapedChar c = '\\' :: (['u', '0', '0'] ++ hexPair c.toNat) ∨
    32 ≤ c.toNat ∧ c ≠ '"' ∧ c ≠ '\\' ∧ escapedChar c = [c] := by
  rw [escapedChar]
  split_ifs with h h h h h h h hcontrol
  iterate 7 exact .inl ⟨_, rfl, by subst h; decide⟩
  · exact .inr (.inl ⟨hcontrol, rfl⟩)
  · exact .inr (.inr ⟨Nat.not_lt.1 hcontrol, by assumption, by assumption, rfl⟩)

/-- The bytes of a character that is not escaped stand for themselves. -/
theorem isPlain_of_mem {c : Char} (hc : 32 ≤ c.toNat) (hquote : c ≠ '"') (hbackslash : c ≠ '\\')
    (hx : x ∈ String.utf8EncodeChar c) : IsPlain x := by
  by_cases hsmall : c.toNat < 128
  · rw [utf8EncodeChar_of_lt hsmall, List.mem_singleton] at hx
    subst hx
    have hne {d : Char} (hd : d.toNat < 128) (hcd : c ≠ d) : c.toUInt8 ≠ d.toUInt8 := fun hsame =>
      hcd (Char.toNat_inj.1 (by
        rw [← toUInt8_toNat_of_lt hsmall, hsame, toUInt8_toNat_of_lt hd]))
    exact ⟨by rwa [toUInt8_toNat_of_lt hsmall], hne (by decide) hquote, hne (by decide) hbackslash⟩
  · have hlarge := le_of_mem_utf8EncodeChar (Nat.not_lt.1 hsmall) hx
    refine ⟨by omega, ?_, ?_⟩
    · rintro rfl
      exact absurd hlarge (by decide)
    · rintro rfl
      exact absurd hlarge (by decide)

/-- **Every character is read back** from what stands for it between quotes. -/
theorem Spells.char (h : Spells k bs out) (c : Char) :
    Spells k (bytesOf (escapedChar c) ++ bs) (String.utf8EncodeChar c ++ out) := by
  obtain ⟨letter, hescaped, hletter, -, hc, hbyte⟩ | ⟨hcontrol, hescaped⟩ |
    ⟨hc, hquote, hbackslash, hescaped⟩ := escapedChar_cases c
  · rw [hescaped, bytesOf_cons, bytesOf_cons, utf8EncodeChar_of_lt hletter, utf8EncodeChar_of_lt hc]
    exact h.escape (escape_of_letter hbyte)
  · rw [hescaped, bytesOf_cons]
    have hpiece := h.escape (escape_of_hexPair (show c.toNat < 256 by omega))
    rwa [Char.ofNat_toNat] at hpiece
  · rw [hescaped, bytesOf_cons, bytesOf_nil, List.append_nil]
    exact h.plain_append fun x hx => isPlain_of_mem hc hquote hbackslash hx

theorem spells_chars (cs : List Char) :
    Spells k (bytesOf (cs.flatMap escapedChar)) (bytesOf cs) := by
  induction cs with
  | nil => exact spells_nil
  | cons c cs ih =>
    rw [List.flatMap_cons, bytesOf_append]
    exact ih.char c

/-- **A text between quotes** is read back. -/
theorem text_reads (s : String) :
    Reads k E text (bytesOf (s.toList.flatMap escapedChar) ++ [34]) s := by
  refine .unread_bind fun n hn => ?_
  rw [List.length_append] at hn
  -- Every round reads a byte at least, and there is one round more than there are bytes.
  have hspelled := spells_chars (k := k) s.toList (n + 1)
    (Nat.lt_succ_of_le (Nat.le_of_add_right_le hn))
  refine hspelled.bind ?_ fun _ _ => rfl
  rw [fromUTF8?_bytesOf, String.ofList_toList]
  exact .skip_bind (.pure s)

end Reader

/-- The bytes of a text between quotes. -/
theorem bytesOf_quotedChars (s : String) :
    bytesOf (quotedChars s) = 34 :: (bytesOf (s.toList.flatMap escapedChar) ++ [34]) := by
  rw [quotedChars, List.cons_append, bytesOf_cons, bytesOf_append]
  rfl

end RelationGate.Json
