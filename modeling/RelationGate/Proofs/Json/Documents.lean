import RelationGate.Proofs.Json.Skipping

/-!
# Readers that follow the document

The codec of a type reads a text directly. Here it is compared with reading the document first and
decoding it then. A reader `Follows` the document if it takes what is made of the document, to the
same place, and where nothing is made of it refuses or stops where no object goes on; it `Copies`
the document if it moreover takes nothing else. Texts, words and optional documents copy it
(`text_copies`, `word64_copies`, `optional_any_copies`), and skipping follows it
(`skipValue_follows`). The first byte of a document says how it is read (`takes_value_iff`).
-/

namespace RelationGate.Json

open Json.Reader Number

namespace Reader

variable {α β : Type} {c c' : Cursor}

/-! ## What a number is -/

/-- A whole or another number. -/
inductive IsNumber : Json → Prop
  | int (n : Int) : IsNumber (.int n)
  | float (x : Binary64) : IsNumber (.float x)

/-- Everything that a reader gives is of some kind. -/
def Gives (P : α → Prop) (r : Reader α) : Prop := ∀ ⦃c a c'⦄, Takes r c a c' → P a

namespace Gives

variable {P : α → Prop}

protected theorem pure {a : α} (h : P a) : Gives P (pure a) := fun _ _ _ htakes => by
  rw [(takes_pure.1 htakes).1]
  exact h

protected theorem refuse (e : Malformed) : Gives P (refuse e) :=
  fun _ _ _ h => (takes_refuse h).elim

protected theorem refuseNext (e : Malformed) : Gives P (refuseNext e) :=
  fun _ _ _ h => (takes_refuseNext h).elim

protected theorem bind {r : Reader β} {f : β → Reader α} (hf : ∀ b, Gives P (f b)) :
    Gives P (r >>= f) := fun _ _ _ h =>
  let ⟨b, _, _, h⟩ := takes_bind.1 h
  hf b h

protected theorem ite {p : Prop} [Decidable p] {r s : Reader α} (hr : Gives P r) (hs : Gives P s) :
    Gives P (if p then r else s) := by
  split
  · exact hr
  · exact hs

end Gives

theorem scaled_isNumber {negative : Bool} {significand : Nat} {exponent : Int} :
    Gives IsNumber (scaled negative significand exponent) := by
  unfold scaled
  split
  · exact .pure (.float _)
  · exact .refuse _

theorem exponentPart_isNumber {negative : Bool} {significand : Nat} {start : Int} :
    Gives IsNumber (exponentPart negative significand start) := by
  refine .bind fun _ => .bind fun _ => .bind fun _ => .ite (.bind fun _ => ?_) ?_
  all_goals
    refine .bind fun o => ?_
    cases o with
    | none => exact .refuse _
    | some b =>
      refine .ite (.bind fun _ => ?_) ?_
      all_goals
        refine .bind fun _ => .bind fun _ => .bind fun d => ?_
        cases d with
        | none => exact scaled_isNumber
        | some d =>
          exact .bind fun _ => .ite (.bind fun _ => .bind fun _ => .pure (.float _))
            (.bind fun _ => .pure (.float _))

theorem afterDigits_isNumber {negative : Bool} {significand : Nat} {exponent : Int} :
    Gives IsNumber (afterDigits negative significand exponent) :=
  .bind fun _ => .ite exponentPart_isNumber scaled_isNumber

theorem fractionPart_isNumber {negative : Bool} {significand : Nat} {exponent : Int} :
    Gives IsNumber (fractionPart negative significand exponent) := by
  refine .bind fun _ => .bind fun _ => .bind fun _ => .bind fun d => ?_
  cases d with
  | none =>
    refine .ite (.bind fun o => ?_) afterDigits_isNumber
    cases o <;> exact .bind fun _ => afterDigits_isNumber
  | some d => exact .bind fun _ => afterDigits_isNumber

theorem afterWhole_isNumber {negative : Bool} {n : Nat} : Gives IsNumber (afterWhole negative n) :=
  .bind fun _ => .ite fractionPart_isNumber <| .bind fun _ => .ite exponentPart_isNumber <|
    .ite (.pure (.int _)) (.ite scaled_isNumber (.pure (.int _)))

/-- **Where a number is read, a number is given.** -/
theorem number_isNumber {negative : Bool} : Gives IsNumber (number negative) := by
  refine .bind fun o => ?_
  split
  · exact .refuse _
  · refine .bind fun d => ?_
    cases d with
    | none => exact afterWhole_isNumber
    | some d => exact .refuseNext _
  · refine .ite (.bind fun _ => ?_) ?_
    all_goals
      refine .bind fun _ => .bind fun _ => .bind fun d => ?_
      cases d with
      | none => exact afterWhole_isNumber
      | some d =>
        exact .bind fun _ => .bind fun _ => .bind fun _ => .bind fun _ =>
          .ite fractionPart_isNumber afterDigits_isNumber

/-! ## What a document is read from -/

/-- What a document of some more levels is read from, by its first byte. -/
inductive Opens (levels : Nat) (c : Cursor) : UInt8 → Json → Cursor → Prop
  | null {d : Cursor} (h : Takes (do skip; ident ['u', 'l', 'l']) c () d) :
    Opens levels c 'n'.toUInt8 .null d
  | yes {d : Cursor} (h : Takes (do skip; ident ['r', 'u', 'e']) c () d) :
    Opens levels c 't'.toUInt8 (.bool true) d
  | no {d : Cursor} (h : Takes (do skip; ident ['a', 'l', 's', 'e']) c () d) :
    Opens levels c 'f'.toUInt8 (.bool false) d
  | negative {j : Json} {d : Cursor} (h : Takes (number true) c.moved j d) :
    Opens levels c '-'.toUInt8 j d
  | number {b : UInt8} {j : Json} {d : Cursor} (hb : isDigitByte b = true)
    (h : Takes (number false) c j d) : Opens levels c b j d
  | text {s : String} {d : Cursor} (h : Takes text c.moved s d) :
    Opens levels c '"'.toUInt8 (.str s) d
  | list {xs : List Json} {d : Cursor} (h : Takes (inList (elements (valueWithin levels))) c xs d) :
    Opens levels c '['.toUInt8 (.arr xs) d
  | object {found : List (String × Json)} {d : Cursor}
    (h : Takes (inObject (members (fun name found => do
      colon
      return (name, ← valueWithin levels) :: found) [])) c found d) :
    Opens levels c '{'.toUInt8 (Json.ofMembers found.reverse) d

theorem takes_word {letters : List Char} {a b : α} :
    Takes (do skip; ident letters; return a) c b c' ↔
      Takes (do skip; ident letters) c () c' ∧ b = a := by
  rw [takes_skip_bind, takes_skip_bind, takes_bind]
  simp only [takes_pure]
  constructor
  · rintro ⟨_, _, h, rfl, rfl⟩
    exact ⟨h, rfl⟩
  · rintro ⟨h, rfl⟩
    exact ⟨(), _, h, rfl, rfl⟩

theorem ne_of_isDigitByte {b x : UInt8} (hb : isDigitByte b = true) (hx : isDigitByte x = false) :
    b ≠ x := by
  rintro rfl
  exact Bool.noConfusion (hb.symm.trans hx)

/-- **The first byte decides** how a document is read. -/
theorem takes_valueWithin_iff {levels : Nat} {j : Json} :
    Takes (valueWithin (levels + 1)) c j c' ↔
      ∃ b, c.pastBlanks.head? = some b ∧ Opens levels c.pastBlanks b j c' := by
  rw [valueWithin, takes_token_bind]
  cases hhead : c.pastBlanks.head? with
  | none => exact iff_of_false takes_refuseNext (by simp)
  | some b =>
    simp only [Option.some.injEq, exists_eq_left']
    constructor
    · intro h
      split at h
      · next hb =>
        obtain ⟨hword, rfl⟩ := takes_word.1 h
        exact hb ▸ .null hword
      split at h
      · next hb =>
        obtain ⟨hword, rfl⟩ := takes_word.1 h
        exact hb ▸ .yes hword
      split at h
      · next hb =>
        obtain ⟨hword, rfl⟩ := takes_word.1 h
        exact hb ▸ .no hword
      split at h
      · next hb =>
        rw [takes_skip_bind] at h
        exact hb ▸ .negative h
      split at h
      · next hb => exact .number hb h
      split at h
      · next hb =>
        rw [takes_skip_bind] at h
        obtain ⟨s, c₁, hs, h⟩ := takes_bind.1 h
        obtain ⟨rfl, rfl⟩ := takes_pure.1 h
        exact hb ▸ .text hs
      split at h
      · next hb =>
        obtain ⟨xs, hxs, rfl⟩ := takes_map.1 h
        exact hb ▸ .list hxs
      split at h
      · next hb =>
        obtain ⟨found, c₁, hfound, h⟩ := takes_bind.1 h
        obtain ⟨rfl, rfl⟩ := takes_pure.1 h
        exact hb ▸ .object hfound
      · cases takes_refuseNext h
    · intro h
      cases h with
      | null h => exact takes_word.2 ⟨h, rfl⟩
      | yes h => exact takes_word.2 ⟨h, rfl⟩
      | no h => exact takes_word.2 ⟨h, rfl⟩
      | negative h => exact takes_skip_bind.2 h
      | number hb h =>
        have hne (x : UInt8) (hx : isDigitByte x = false) : b ≠ x := ne_of_isDigitByte hb hx
        rw [if_neg (hne _ (by decide)), if_neg (hne _ (by decide)), if_neg (hne _ (by decide)),
          if_neg (hne _ (by decide)), if_pos hb]
        exact h
      | text h => exact takes_skip_bind.2 (takes_bind.2 ⟨_, _, h, takes_pure.2 ⟨rfl, rfl⟩⟩)
      | list h => exact takes_map.2 ⟨_, h, rfl⟩
      | object h => exact takes_bind.2 ⟨_, _, h, takes_pure.2 ⟨rfl, rfl⟩⟩

theorem takes_value_iff {j : Json} :
    Takes value c j c' ↔ ∃ b, c.pastBlanks.head? = some b ∧ Opens 127 c.pastBlanks b j c' :=
  takes_valueWithin_iff

/-- Blanks in front of a document make no difference. -/
theorem takes_value_pastBlanks {j : Json} : Takes value c.pastBlanks j c' ↔ Takes value c j c' := by
  rw [takes_value_iff, takes_value_iff, Cursor.pastBlanks_pastBlanks]

/-! ## Readers that follow another one -/

/-- No member of an object and no end of one can stand here. -/
def Jammed (c : Cursor) : Prop := c.pastBlanks.head? ≠ some 44 ∧ c.pastBlanks.head? ≠ some 125

/-- Where one reader takes a document, another one takes what is made of the document, to the same
place. If nothing is made of it, the other reader refuses, or stops where no object goes on. -/
structure Follows (v : Reader Json) (r : Reader α) (f : Json → Option α) : Prop where
  takes {c c' : Cursor} {j : Json} {a : α} (h : Takes v c j c') (hj : f j = some a) : Takes r c a c'
  jams {c c₁ c' : Cursor} {j : Json} {a : α} (h : Takes v c j c₁) (hj : f j = none)
    (ha : Takes r c a c') : Jammed c'

/-- A reader that takes nothing but what is made of a document. -/
structure Copies (v : Reader Json) (r : Reader α) (f : Json → Option α) : Prop
    extends Follows v r f where
  document {c c' : Cursor} {a : α} (h : Takes r c a c') : ∃ j d, Takes v c j d

section

variable {v : Reader Json} {r : Reader α} {f : Json → Option α}

theorem copies_of_iff
    (h : ∀ {c a c'}, Takes r c a c' ↔ ∃ j, Takes v c j c' ∧ f j = some a) : Copies v r f where
  takes hj hf := h.2 ⟨_, hj, hf⟩
  jams hj hf ha := by
    obtain ⟨j', hj', ha⟩ := h.1 ha
    rw [(hj.unique hj').1, ha] at hf
    cases hf
  document ha := by
    obtain ⟨j, hj, -⟩ := h.1 ha
    exact ⟨j, _, hj⟩

/-- What follows a reader and is mapped follows it still. -/
theorem Follows.map (h : Follows v r f) (g : α → β) :
    Follows v (do return g (← r)) fun j => (f j).map g where
  takes hj hf := by
    obtain ⟨a, ha, rfl⟩ := Option.map_eq_some_iff.1 hf
    exact takes_bind.2 ⟨a, _, h.takes hj ha, takes_pure.2 ⟨rfl, rfl⟩⟩
  jams hj hf hb := by
    obtain ⟨a, c₁, ha, hb⟩ := takes_bind.1 hb
    rw [(takes_pure.1 hb).2]
    exact h.jams hj (Option.map_eq_none_iff.1 hf) ha

theorem Copies.map (h : Copies v r f) (g : α → β) :
    Copies v (do return g (← r)) fun j => (f j).map g where
  toFollows := h.toFollows.map g
  document hb := by
    obtain ⟨a, c₁, ha, -⟩ := takes_bind.1 hb
    exact h.document ha

/-- What follows a document follows it behind a colon too. -/
theorem Follows.colon (h : Follows value r f) : Follows (do colon; value) (do colon; r) f where
  takes hj hf := by
    obtain ⟨_, c₁, hcolon, hj⟩ := takes_bind.1 hj
    exact takes_bind.2 ⟨(), c₁, hcolon, h.takes hj hf⟩
  jams hj hf ha := by
    obtain ⟨_, c₁, hcolon, hj⟩ := takes_bind.1 hj
    obtain ⟨_, c₂, hcolon', ha⟩ := takes_bind.1 ha
    obtain ⟨-, rfl⟩ := hcolon.unique hcolon'
    exact h.jams hj hf ha

theorem Copies.colon (h : Copies value r f) : Copies (do colon; value) (do colon; r) f where
  toFollows := h.toFollows.colon
  document ha := by
    obtain ⟨_, c₁, hcolon, ha⟩ := takes_bind.1 ha
    obtain ⟨j, d, hj⟩ := h.document ha
    exact ⟨j, d, takes_bind.2 ⟨(), c₁, hcolon, hj⟩⟩

end

/-- Skipping takes nothing from a document. -/
theorem skipValue_follows : Follows value skipValue fun _ => some () where
  takes h _ := skipValue_of_value h
  jams _ hj := nomatch hj

end Reader

/-! ## Codecs -/

namespace Codec

variable {α : Type} {c c' : Cursor}

/-- What a codec makes of a document. -/
def takes? (codec : Codec α) (j : Json) : Option α := (codec.decode j).toOption

theorem takes_opening {b : UInt8} (hb : c.pastBlanks.head? = some b) :
    Takes opening c b c.pastBlanks := by
  rw [opening, takes_token_bind, hb]
  exact takes_pure.2 ⟨rfl, rfl⟩

theorem takes_opening_bind {f : UInt8 → Reader α} {a : α} :
    Takes (opening >>= f) c a c' ↔
      ∃ b, c.pastBlanks.head? = some b ∧ Takes (f b) c.pastBlanks a c' := by
  rw [takes_bind]
  simp only [opening, takes_token_bind]
  cases c.pastBlanks.head? with
  | none => simp
  | some b => simp [and_assoc]

/-- What is not expected is never taken. -/
theorem takes_mismatch {expected : String} {a : α} :
    ¬Takes (mismatch expected : Reader α) c a c' := by
  rw [mismatch, takes_placed, takes_peek_bind]
  split
  · exact takes_reject
  · exact takes_reject
  · exact takes_refuseNext
  · intro h
    obtain ⟨j, c₁, -, h⟩ := takes_bind.1 h
    exact takes_reject h

/-- Any document is what it is. -/
theorem any_copies : Copies value any.read any.takes? :=
  copies_of_iff (by simp [any, takes?, Except.toOption])

/-- **Texts** are read where they are decoded. -/
theorem text_copies : Copies value text.read text.takes? := by
  refine copies_of_iff fun {c s c'} => ?_
  rw [text, takes_placed, takes_opening_bind]
  constructor
  · rintro ⟨b, hb, h⟩
    split at h
    · next hquote =>
      rw [takes_skip_bind] at h
      exact ⟨.str s, takes_value_iff.2 ⟨b, hb, hquote ▸ .text h⟩, rfl⟩
    · cases takes_mismatch h
  · rintro ⟨j, hj, hs⟩
    obtain ⟨b, hb, hopens⟩ := takes_value_iff.1 hj
    refine ⟨b, hb, ?_⟩
    cases hopens with
    | text h =>
      cases hs
      exact takes_skip_bind.2 h
    | negative h => cases number_isNumber h <;> cases hs
    | number _ h => cases number_isNumber h <;> cases hs
    | _ => cases hs

theorem takes?_word64 {j : Json} {n : UInt64} :
    word64.takes? j = some n ↔
      ∃ k, natBelow "u64" UInt64.size j = .ok k ∧ n = UInt64.ofNat k := by
  show (UInt64.ofNat <$> natBelow "u64" UInt64.size j).toOption = some n ↔ _
  cases natBelow "u64" UInt64.size j with
  | error e => exact iff_of_false nofun nofun
  | ok k => simp [Except.toOption, Functor.map, Except.map, eq_comm]

/-- **Words** are read where they are decoded. -/
theorem word64_copies : Copies value word64.read word64.takes? := by
  refine copies_of_iff fun {c n c'} => ?_
  have hnumber {r : Reader Json} {c : Cursor} {k : Nat} :
      Takes (do ofDecoded (natBelow "u64" UInt64.size (← r))) c k c' ↔
        ∃ j, Takes r c j c' ∧ natBelow "u64" UInt64.size j = .ok k := by
    simp only [takes_bind, takes_ofDecoded]
    constructor
    · rintro ⟨j, c₁, hj, hk, rfl⟩
      exact ⟨j, hj, hk⟩
    · rintro ⟨j, hj, hk⟩
      exact ⟨j, c', hj, hk, rfl⟩
  rw [word64, Codec.map, takes_map]
  simp only [unsigned, takes_placed, takes_opening_bind]
  constructor
  · rintro ⟨k, ⟨b, hb, h⟩, rfl⟩
    split at h
    · next hminus =>
      rw [takes_skip_bind, hnumber] at h
      obtain ⟨j, hj, hk⟩ := h
      exact ⟨j, takes_value_iff.2 ⟨b, hb, hminus ▸ .negative hj⟩, takes?_word64.2 ⟨k, hk, rfl⟩⟩
    split at h
    · next hdigit =>
      obtain ⟨j, hj, hk⟩ := hnumber.1 h
      exact ⟨j, takes_value_iff.2 ⟨b, hb, .number hdigit hj⟩, takes?_word64.2 ⟨k, hk, rfl⟩⟩
    · cases takes_mismatch h
  · rintro ⟨j, hj, hn⟩
    obtain ⟨k, hk, rfl⟩ := takes?_word64.1 hn
    obtain ⟨b, hb, hopens⟩ := takes_value_iff.1 hj
    refine ⟨k, ⟨b, hb, ?_⟩, rfl⟩
    cases hopens with
    | negative h => exact takes_skip_bind.2 (hnumber.2 ⟨j, h, hk⟩)
    | number hdigit h =>
      rw [if_neg (ne_of_isDigitByte hdigit (by decide)), if_pos hdigit]
      exact hnumber.2 ⟨j, h, hk⟩
    | _ => cases hk

/-- A document that is not null. -/
def given : Json → Option Json
  | .null => none
  | j => some j

theorem given_of_ne {j : Json} (h : j ≠ .null) : given j = some j := by
  cases j with
  | null => exact (h rfl).elim
  | _ => rfl

theorem takes?_optional_any (j : Json) : any.optional.takes? j = some (given j) := by
  cases j <;> rfl

theorem value_null_iff {j : Json} (h : Takes value c j c') :
    j = .null ↔ c.pastBlanks.head? = some 'n'.toUInt8 := by
  obtain ⟨b, hb, hopens⟩ := takes_value_iff.1 h
  rw [hb, Option.some.injEq]
  cases hopens with
  | null h => exact iff_of_true rfl rfl
  | negative h => exact iff_of_false (by rintro rfl; cases number_isNumber h) (by decide)
  | number hdigit h =>
    exact iff_of_false (by rintro rfl; cases number_isNumber h)
      (ne_of_isDigitByte hdigit (by decide))
  | _ => exact iff_of_false nofun (by decide)

/-- **A document that may be null** is read where it is decoded. -/
theorem optional_any_copies : Copies value any.optional.read any.optional.takes? := by
  refine copies_of_iff fun {c o c'} => ?_
  simp only [takes?_optional_any, Option.some.injEq]
  rw [optional, takes_token_bind]
  by_cases hn : c.pastBlanks.head? = some 'n'.toUInt8
  · rw [if_pos hn, takes_word]
    constructor
    · rintro ⟨h, rfl⟩
      exact ⟨.null, takes_value_iff.2 ⟨_, hn, .null h⟩, rfl⟩
    · rintro ⟨j, hj, rfl⟩
      obtain rfl := (value_null_iff hj).2 hn
      obtain ⟨b, hb, hopens⟩ := takes_value_iff.1 hj
      cases hopens with
      | null h => exact ⟨h, rfl⟩
      | negative h => cases number_isNumber h
      | number _ h => cases number_isNumber h
  · rw [if_neg hn, takes_map]
    refine exists_congr fun j => Iff.trans (and_congr_left fun _ => takes_value_pastBlanks) ?_
    refine and_congr_right fun hj => ?_
    rw [given_of_ne (mt (value_null_iff hj).1 hn), eq_comm]

end Codec

end RelationGate.Json
