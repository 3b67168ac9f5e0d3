import RelationGate.Proofs.Json.Taking

/-!
# What is read can be skipped

Members that no field takes are skipped, and skipping goes its own way through numbers, texts, lists
and objects. It ends where reading the same document ends (`skipValue_of_value`). Skipping does not
count levels, so it is compared with reading at another depth: a `Flat` reader does the same
whatever room there is, and never goes back, which bounds the rounds of the loops.
-/

namespace RelationGate.Json.Reader

variable {α β : Type} {c c' : Cursor} {k : Nat}

/-! ## Flat readers -/

/-- A reader that knows no depth and never goes back. -/
structure Flat (r : Reader α) : Prop where
  length_le : ∀ c, (outcome r c).2.bytes.length ≤ c.bytes.length
  outcome_withRoom : ∀ k c,
    outcome r (c.withRoom k) = ((outcome r c).1, (outcome r c).2.withRoom k)

namespace Flat

/-- What a flat reader accepts it accepts at any depth. -/
theorem takes_withRoom {r : Reader α} (hr : Flat r) {a : α} (h : Takes r c a c') (k : Nat) :
    Takes r (c.withRoom k) a (c'.withRoom k) := by
  rw [Takes, hr.outcome_withRoom, h]

theorem room_eq {r : Reader α} (hr : Flat r) {a : α} (h : Takes r c a c') : c'.room = c.room := by
  have hsame : Takes r c a (c'.withRoom c.room) := hr.takes_withRoom h c.room
  rw [(h.unique hsame).2, Cursor.room_withRoom]

theorem length_le_of_takes {r : Reader α} (hr : Flat r) {a : α} (h : Takes r c a c') :
    c'.bytes.length ≤ c.bytes.length := by
  have hle := hr.length_le c
  rwa [h] at hle

protected theorem pure (a : α) : Flat (pure a) := ⟨fun _ => Nat.le_refl _, fun _ _ => rfl⟩

protected theorem refuse (e : Malformed) : Flat (refuse e : Reader α) :=
  ⟨fun _ => Nat.le_refl _, fun _ _ => rfl⟩

protected theorem refuseNext (e : Malformed) : Flat (refuseNext e : Reader α) :=
  ⟨fun _ => Nat.le_refl _, fun _ _ => rfl⟩

protected theorem peek : Flat peek := ⟨fun _ => Nat.le_refl _, fun _ _ => rfl⟩

protected theorem unread : Flat unread := ⟨fun _ => Nat.le_refl _, fun _ _ => rfl⟩

protected theorem skipWhile (p : UInt8 → Bool) : Flat (skipWhile p) :=
  ⟨fun _ => Cursor.length_past_le, fun _ _ => rfl⟩

protected theorem next : Flat next where
  length_le c := by
    rw [outcome_next, Cursor.length_moved]
    exact Nat.sub_le _ _
  outcome_withRoom k c := by
    rw [outcome_next, outcome_next, Cursor.moved_withRoom]
    rfl

protected theorem skip : Flat skip where
  length_le c := by
    rw [outcome_skip, Cursor.length_moved]
    exact Nat.sub_le _ _
  outcome_withRoom k c := by
    rw [outcome_skip, outcome_skip, Cursor.moved_withRoom]

protected theorem bind {r : Reader α} {f : α → Reader β} (hr : Flat r) (hf : ∀ a, Flat (f a)) :
    Flat (r >>= f) where
  length_le c := by
    have hle := hr.length_le c
    rw [outcome_bind]
    split
    · next a c₁ h =>
      rw [h] at hle
      exact Nat.le_trans ((hf a).length_le c₁) hle
    · next e c₁ h =>
      rwa [h] at hle
  outcome_withRoom k c := by
    rw [outcome_bind, outcome_bind, hr.outcome_withRoom]
    rcases outcome r c with ⟨e | a, c₁⟩
    · rfl
    · exact (hf a).outcome_withRoom k c₁

protected theorem ite {p : Prop} [Decidable p] {r s : Reader α} (hr : Flat r) (hs : Flat s) :
    Flat (if p then r else s) := by
  split
  · exact hr
  · exact hs

protected theorem token : Flat token := .bind (.skipWhile _) fun _ => .peek

protected theorem ahead (x : Char) : Flat (ahead x) := .bind .peek fun _ => .pure _

protected theorem exponentAhead : Flat exponentAhead :=
  .bind (.ahead _) fun _ => .bind (.ahead _) fun _ => .pure _

protected theorem digitAhead : Flat digitAhead :=
  .bind .peek fun o => by cases o <;> exact .pure _

protected theorem colon : Flat colon :=
  .bind .token fun o => by
    split
    · exact .skip
    · exact .refuseNext _
    · exact .refuseNext _

/-- Looking at the text ahead, but not at the room. -/
protected theorem get {f : Cursor → Reader α} (hf : ∀ c, Flat (f c))
    (hroom : ∀ c k, f (c.withRoom k) = f c) : Flat (get >>= f) where
  length_le c := (hf c).length_le c
  outcome_withRoom k c := by
    show outcome (f (c.withRoom k)) (c.withRoom k) = _
    rw [hroom]
    exact (hf c).outcome_withRoom k c

protected theorem hexEscape : Flat hexEscape := by
  refine .get (fun c => ?_) fun _ _ => rfl
  split
  · refine .bind .skip fun _ => .bind .skip fun _ => .bind .skip fun _ => .bind .skip fun _ => ?_
    split
    · exact .pure _
    · exact .refuse _
  · exact .bind (.skipWhile _) fun _ => .refuse _

protected theorem ident (letters : List Char) : Flat (ident letters) := by
  induction letters with
  | nil => exact .pure _
  | cons x letters ih =>
    refine .bind (.bind .next fun o => ?_) fun _ => ih
    cases o with
    | none => exact .refuse _
    | some b => exact .ite (.pure _) (.refuse _)

protected theorem skipExponent : Flat skipExponent := by
  refine .bind .skip fun _ => .bind (.ahead _) fun _ => .bind (.ahead _) fun _ =>
    .ite (.bind .skip fun _ => ?_) ?_
  all_goals
    refine .bind .next fun o => ?_
    cases o with
    | none => exact .refuse _
    | some b => exact .ite (.skipWhile _) (.refuse _)

protected theorem skipFraction : Flat skipFraction := by
  have hexponent : Flat (do if ← exponentAhead then skipExponent) :=
    .bind .exponentAhead fun _ => .ite .skipExponent (.pure _)
  refine .bind .skip fun _ => .bind .digitAhead fun o => ?_
  cases o with
  | none => exact .bind (.refuseNext _) fun _ => hexponent
  | some d => exact .bind (.skipWhile _) fun _ => hexponent

protected theorem skipNumber : Flat skipNumber := by
  have hrest : Flat (do
      if ← ahead '.' then skipFraction
      else if ← exponentAhead then skipExponent) :=
    .bind (.ahead _) fun _ => .ite .skipFraction <|
      .bind .exponentAhead fun _ => .ite .skipExponent (.pure _)
  refine .bind .next fun o => ?_
  split
  · exact .bind .digitAhead fun _ => .ite (.bind (.refuseNext _) fun _ => hrest) hrest
  · exact .ite (.bind (.skipWhile _) fun _ => hrest) (.bind (.refuse _) fun _ => hrest)
  · exact .bind (.refuse _) fun _ => hrest

protected theorem skipTextFrom (rounds : Nat) : Flat (skipTextFrom rounds) := by
  induction rounds with
  | zero => exact .refuse _
  | succ rounds ih =>
    refine .bind .peek fun o => ?_
    split
    · exact .refuse _
    · exact .skip
    · refine .bind .skip fun _ => .bind .next fun o => ?_
      cases o with
      | none => exact .refuse _
      | some b => exact .ite ih (.ite (.bind .hexEscape fun _ => ih) (.refuse _))
    · exact .ite (.bind (.refuse _) fun _ => .bind .skip fun _ => ih) (.bind .skip fun _ => ih)

protected theorem skipText : Flat skipText := .bind .unread fun _ => .skipTextFrom _

section

variable {item : Reader Unit} (hitem : Flat item)

include hitem

protected theorem skipMoreElements (rounds : Nat) : Flat (skipMoreElements item rounds) := by
  induction rounds with
  | zero => exact .refuseNext _
  | succ rounds ih =>
    refine .bind .token fun o => ?_
    split
    · exact .bind .skip fun _ => .bind hitem fun _ => ih
    · exact .skip
    · exact .refuseNext _
    · exact .refuseNext _

protected theorem skipElements : Flat (skipElements item) := by
  refine .bind .token fun o => ?_
  split
  · exact .skip
  · exact .refuseNext _
  · exact .bind hitem fun _ => .bind .unread fun _ => .skipMoreElements hitem _

protected theorem skipMember : Flat (skipMember item) := by
  refine .bind .token fun o => ?_
  split
  · exact .bind .skip fun _ => .bind .skipText fun _ => .bind .colon fun _ => hitem
  · exact .refuseNext _
  · exact .refuseNext _

protected theorem skipMoreMembers (rounds : Nat) : Flat (skipMoreMembers item rounds) := by
  induction rounds with
  | zero => exact .refuseNext _
  | succ rounds ih =>
    refine .bind .token fun o => ?_
    split
    · exact .bind .skip fun _ => .bind (.skipMember hitem) fun _ => ih
    · exact .skip
    · exact .refuseNext _
    · exact .refuseNext _

protected theorem skipMembers : Flat (skipMembers item) := by
  refine .bind .token fun o => ?_
  split
  · exact .skip
  · exact .refuseNext _
  · exact .bind (.skipMember hitem) fun _ => .bind .unread fun _ => .skipMoreMembers hitem _

end

/-- **Skipping knows no depth.** -/
protected theorem skipWithin (levels : Nat) : Flat (skipWithin levels) := by
  induction levels with
  | zero => exact .refuseNext _
  | succ levels ih =>
    refine .bind .token fun o => ?_
    cases o with
    | none => exact .refuseNext _
    | some b =>
      exact .ite (.bind .skip fun _ => .ident _) <| .ite (.bind .skip fun _ => .ident _) <|
        .ite (.bind .skip fun _ => .ident _) <| .ite (.bind .skip fun _ => .skipNumber) <|
        .ite .skipNumber <| .ite (.bind .skip fun _ => .skipText) <|
        .ite (.bind .skip fun _ => .skipElements ih) <|
        .ite (.bind .skip fun _ => .skipMembers ih) (.refuseNext _)

end Flat

/-! ## Numbers -/

/-- The digit that is ahead, if there is one. -/
def digit? (c : Cursor) : Option Nat :=
  c.head?.bind fun b => if isDigitByte b then some (digitValue b) else none

theorem takes_digitAhead_bind {f : Option Nat → Reader β} {b : β} :
    Takes (digitAhead >>= f) c b c' ↔ Takes (f (digit? c)) c b c' := by
  have hpeek : outcome peek c = (.ok c.head?, c) := rfl
  refine takes_bind_of_outcome ?_
  rw [digitAhead, outcome_bind, hpeek, digit?]
  cases c.head? <;> rfl

theorem takes_exponentAhead_bind {f : Bool → Reader β} {b : β} :
    Takes (exponentAhead >>= f) c b c' ↔
      Takes (f (c.head? == some 'e'.toUInt8 || c.head? == some 'E'.toUInt8)) c b c' :=
  takes_bind_of_outcome rfl

/-- Behind a guard the condition is known to fail. -/
theorem takes_guard {p : Prop} [Decidable p] {e : Malformed} {f : α → Reader β} {s : Reader β}
    {b : β} :
    Takes (if p then refuse e >>= f else s) c b c' ↔ ¬p ∧ Takes s c b c' := by
  by_cases hp : p
  · rw [if_pos hp, takes_bind]
    exact iff_of_false (fun ⟨_, _, h, _⟩ => takes_refuse h) fun h => h.1 hp
  · rw [if_neg hp]
    exact (and_iff_right hp).symm

/-- Two readers that choose in the same way are compared choice by choice. -/
theorem Takes.ite {p : Prop} [Decidable p] {r s : Reader α} {r' s' : Reader β} {a : α} {b : β}
    {d d' : Cursor} (h : Takes (if p then r else s) c a c')
    (hpos : p → Takes r c a c' → Takes r' d b d') (hneg : ¬p → Takes s c a c' → Takes s' d b d') :
    Takes (if p then r' else s') d b d' := by
  split at h
  · next hp =>
    rw [if_pos hp]
    exact hpos hp h
  · next hp =>
    rw [if_neg hp]
    exact hneg hp h

theorem digit?_eq_none_iff :
    digit? c = none ↔ ∀ b, c.head? = some b → isDigitByte b = false := by
  simp [digit?]

theorem past_of_digit?_eq_none (h : digit? c = none) : c.past isDigitByte = c :=
  Cursor.past_of_not_head? (digit?_eq_none_iff.1 h)

theorem isSome_digit?_iff :
    (digit? c).isSome = true ↔ ∃ b, c.head? = some b ∧ isDigitByte b = true := by
  rw [digit?]
  cases c.head? with
  | none => simp
  | some b => by_cases hb : isDigitByte b = true <;> simp [hb]

theorem past_of_isSome_digit? (h : (digit? c).isSome = true) :
    c.past isDigitByte = c.moved.past isDigitByte := by
  obtain ⟨b, hhead, hb⟩ := isSome_digit?_iff.1 h
  exact Cursor.past_of_head? hhead hb

/-- Reading digits never leaves their run, and gets ahead only if one is there. -/
theorem past_of_digitsBelow {bound rounds n count : Nat} {found : Nat × Nat}
    (h : Takes (digitsBelow bound rounds n count) c found c') :
    c'.past isDigitByte = c.past isDigitByte ∧
      (c' = c ∧ found.2 = count ∨ (digit? c).isSome = true) := by
  induction rounds generalizing c n count with
  | zero =>
    obtain ⟨rfl, rfl⟩ := takes_pure.1 h
    exact ⟨rfl, .inl ⟨rfl, rfl⟩⟩
  | succ rounds ih =>
    rw [digitsBelow, takes_digitAhead_bind] at h
    cases hd : digit? c with
    | none =>
      rw [hd] at h
      obtain ⟨rfl, rfl⟩ := takes_pure.1 h
      exact ⟨rfl, .inl ⟨rfl, rfl⟩⟩
    | some d =>
      refine ⟨?_, .inr rfl⟩
      rw [hd] at h
      dsimp only at h
      split at h
      · rw [takes_skip_bind] at h
        rw [(ih h).1, past_of_isSome_digit? (c := c) (by rw [hd]; rfl)]
      · rw [(takes_pure.1 h).2]

theorem eq_of_scaled {negative : Bool} {significand : Nat} {exponent : Int} {j : Json}
    (h : Takes (scaled negative significand exponent) c j c') : c' = c := by
  unfold scaled at h
  split at h
  · exact (takes_pure.1 h).2
  · cases takes_refuse h

theorem eq_of_whole {negative : Bool} {n : Nat} {j : Json}
    (h : Takes (whole negative n) c j c') : c' = c := by
  unfold whole at h
  split at h
  · exact (takes_pure.1 h).2
  split at h
  · exact eq_of_scaled h
  · exact (takes_pure.1 h).2

/-- The place behind a sign, if one is ahead. -/
def pastSign (c : Cursor) : Cursor :=
  if c.head? = some '+'.toUInt8 ∨ c.head? = some '-'.toUInt8 then c.moved else c

theorem takes_sign_bind {p : Bool} {f : Unit → Reader β} {b : β}
    (hp : p = true ↔ c.head? = some '+'.toUInt8 ∨ c.head? = some '-'.toUInt8) :
    Takes (if p = true then skip >>= f else f ()) c b c' ↔ Takes (f ()) (pastSign c) b c' := by
  rw [pastSign]
  by_cases h : c.head? = some '+'.toUInt8 ∨ c.head? = some '-'.toUInt8
  · rw [if_pos (hp.2 h), if_pos h, takes_skip_bind]
  · rw [if_neg (mt hp.1 h), if_neg h]

theorem skipExponent_of_digit (h : (digit? (pastSign c.moved)).isSome = true) :
    Takes skipExponent c () ((pastSign c.moved).past isDigitByte) := by
  simp only [skipExponent, takes_skip_bind, takes_ahead_bind]
  rw [takes_sign_bind (by simp), takes_next_bind, past_of_isSome_digit? h]
  obtain ⟨b, hhead, hb⟩ := isSome_digit?_iff.1 h
  rw [hhead]
  dsimp only
  rw [if_pos hb, takes_skipWhile]

theorem exponentPart_ends {negative : Bool} {significand : Nat} {start : Int} {j : Json}
    (h : Takes (exponentPart negative significand start) c j c') :
    (digit? (pastSign c.moved)).isSome = true ∧ c' = (pastSign c.moved).past isDigitByte := by
  simp only [exponentPart, takes_skip_bind, takes_ahead_bind] at h
  rw [takes_sign_bind (by simp [or_comm]), takes_next_bind] at h
  cases hhead : (pastSign c.moved).head? with
  | none =>
    rw [hhead] at h
    cases takes_refuse h
  | some b =>
    rw [hhead] at h
    obtain ⟨hb, h⟩ := takes_guard.1 h
    rw [Bool.not_eq_true', Bool.not_eq_false] at hb
    have hdigit := isSome_digit?_iff.2 ⟨b, hhead, hb⟩
    refine ⟨hdigit, ?_⟩
    simp only [takes_unread_bind] at h
    obtain ⟨found, c₁, hdigits, h⟩ := takes_bind.1 h
    rw [past_of_isSome_digit? hdigit, ← (past_of_digitsBelow hdigits).1]
    rw [takes_digitAhead_bind] at h
    cases hd : digit? c₁ with
    | none =>
      rw [hd] at h
      rw [eq_of_scaled h, past_of_digit?_eq_none hd]
    | some d =>
      rw [hd] at h
      dsimp only at h
      rw [takes_skip_bind] at h
      obtain ⟨-, h⟩ := takes_guard.1 h
      rw [takes_skipWhile_bind, takes_pure] at h
      rw [h.2, past_of_isSome_digit? (c := c₁) (by rw [hd]; rfl)]

theorem skipExponent_of_exponentPart {negative : Bool} {significand : Nat} {start : Int} {j : Json}
    (h : Takes (exponentPart negative significand start) c j c') : Takes skipExponent c () c' := by
  obtain ⟨hdigit, rfl⟩ := exponentPart_ends h
  exact skipExponent_of_digit hdigit

/-- An exponent may follow the digits. -/
theorem skip_of_afterDigits {negative : Bool} {significand : Nat} {exponent : Int} {j : Json}
    (h : Takes (afterDigits negative significand exponent) c j c') :
    Takes (do if ← exponentAhead then skipExponent) c () c' := by
  rw [afterDigits, takes_exponentAhead_bind] at h
  rw [takes_exponentAhead_bind]
  refine h.ite (fun _ h => skipExponent_of_exponentPart h) fun _ h => ?_
  exact takes_pure.2 ⟨rfl, eq_of_scaled h⟩

theorem skipFraction_of_fractionPart {negative : Bool} {significand : Nat} {exponent : Int}
    {j : Json} (h : Takes (fractionPart negative significand exponent) c j c') :
    Takes skipFraction c () c' := by
  rw [fractionPart, takes_skip_bind, takes_unread_bind] at h
  obtain ⟨⟨s, taken⟩, c₁, hdigits, h⟩ := takes_bind.1 h
  obtain ⟨hpast, hstill⟩ := past_of_digitsBelow hdigits
  rw [takes_digitAhead_bind] at h
  have hgoes : (digit? c.moved).isSome = true ∧
      Takes (afterDigits negative s (exponent - taken)) (c.moved.past isDigitByte) j c' := by
    cases hd : digit? c₁ with
    | none =>
      rw [hd] at h
      dsimp only at h
      split at h
      · rw [takes_peek_bind] at h
        split at h
        all_goals
          obtain ⟨_, _, hrefused, -⟩ := takes_bind.1 h
          cases takes_refuseNext hrefused
      · next htaken =>
        rw [← hpast, past_of_digit?_eq_none hd]
        exact ⟨hstill.resolve_left fun hstill => htaken hstill.2, h⟩
    | some d =>
      rw [hd] at h
      dsimp only at h
      rw [takes_skipWhile_bind, hpast] at h
      refine ⟨?_, h⟩
      obtain ⟨rfl, -⟩ | hdigit := hstill
      · rw [hd]
        rfl
      · exact hdigit
  obtain ⟨d, hd⟩ := Option.isSome_iff_exists.1 hgoes.1
  rw [skipFraction, takes_skip_bind, takes_digitAhead_bind, hd]
  dsimp only
  rw [takes_skipWhile_bind]
  exact skip_of_afterDigits hgoes.2

/-- A fraction or an exponent may follow the whole digits. -/
theorem skip_of_afterWhole {negative : Bool} {n : Nat} {j : Json}
    (h : Takes (afterWhole negative n) c j c') :
    Takes (do if ← ahead '.' then skipFraction else if ← exponentAhead then skipExponent)
      c () c' := by
  rw [afterWhole, takes_ahead_bind] at h
  rw [takes_ahead_bind]
  refine h.ite (fun _ h => skipFraction_of_fractionPart h) fun _ h => ?_
  rw [takes_exponentAhead_bind] at h ⊢
  refine h.ite (fun _ h => skipExponent_of_exponentPart h) fun _ h => ?_
  exact takes_pure.2 ⟨rfl, eq_of_whole h⟩

/-- **A number that is read can be skipped.** -/
theorem skipNumber_of_number {negative : Bool} {j : Json} (h : Takes (number negative) c j c') :
    Takes skipNumber c () c' := by
  rw [number, takes_next_bind] at h
  rw [skipNumber, takes_next_bind]
  split at h
  · cases takes_refuse h
  · next hhead =>
    simp only [hhead]
    rw [takes_digitAhead_bind] at h ⊢
    cases hd : digit? c.moved with
    | none =>
      rw [hd] at h
      exact skip_of_afterWhole h
    | some d =>
      rw [hd] at h
      cases takes_refuseNext h
  · next b hb hhead =>
    obtain ⟨hdigit, h⟩ := takes_guard.1 h
    rw [Bool.not_eq_true', Bool.not_eq_false] at hdigit
    split
    · next h48 =>
      rw [hhead] at h48
      exact (hb (Option.some.inj h48)).elim
    · next b' _ hhead' =>
      cases hhead.symm.trans hhead'
      rw [if_pos hdigit, takes_skipWhile_bind]
      simp only [takes_unread_bind] at h
      obtain ⟨⟨n, _⟩, c₁, hdigits, h⟩ := takes_bind.1 h
      rw [← (past_of_digitsBelow hdigits).1]
      rw [takes_digitAhead_bind] at h
      cases hd : digit? c₁ with
      | none =>
        rw [hd] at h
        rw [past_of_digit?_eq_none hd]
        exact skip_of_afterWhole h
      | some d =>
        rw [hd] at h
        dsimp only at h
        rw [takes_unread_bind, takes_skipWhile_bind, takes_unread_bind, takes_ahead_bind] at h
        rw [takes_ahead_bind]
        exact h.ite (fun _ h => skipFraction_of_fractionPart h) fun _ h => skip_of_afterDigits h
    · next hnone => cases hhead.symm.trans hnone

/-! ## Texts -/

theorem takes_pairByte {wanted : Char} {u : Unit} :
    Takes (pairByte wanted) c u c' ↔ c.head? = some wanted.toUInt8 ∧ c' = c.moved := by
  rw [pairByte, takes_peek_bind]
  cases c.head? with
  | none => exact iff_of_false takes_refuse nofun
  | some b =>
    dsimp only
    rw [takes_skip_bind]
    split
    · next hb => exact iff_of_false takes_refuse fun h => hb (Option.some.inj h.1)
    · next hb =>
      rw [takes_pure, not_not.1 hb]
      simp

/-- What an escape is read from: a letter of its own, or the letter `u` and a code point. -/
theorem escape_cases {piece : List UInt8} (h : Takes escape c piece c') :
    (∃ b, c.head? = some b ∧ (simpleEscape? b).isSome = true ∧ c' = c.moved) ∨
      c.head? = some 'u'.toUInt8 ∧ ∃ n, Takes codePoint c.moved n c' := by
  rw [escape, takes_next_bind] at h
  split at h
  · cases takes_refuse h
  · next b hhead =>
    split at h
    · next byte hbyte =>
      exact .inl ⟨b, hhead, by rw [hbyte]; rfl, (takes_pure.1 h).2⟩
    · split at h
      · next hu =>
        obtain ⟨n, c₁, hn, h⟩ := takes_bind.1 h
        obtain ⟨-, rfl⟩ := takes_pure.1 h
        exact .inr ⟨hu ▸ hhead, n, hn⟩
      · cases takes_refuse h

/-- What a code point is read from: four digits, or twice four digits. -/
theorem codePoint_cases {n : Nat} (h : Takes codePoint c n c') :
    ∃ m c₁, Takes hexEscape c m c₁ ∧
      (c' = c₁ ∨ c₁.head? = some 92 ∧ c₁.moved.head? = some 'u'.toUInt8 ∧
        ∃ m', Takes hexEscape c₁.moved.moved m' c') := by
  obtain ⟨m, c₁, hm, h⟩ := takes_bind.1 h
  refine ⟨m, c₁, hm, ?_⟩
  split at h
  · cases takes_refuse h
  split at h
  · obtain ⟨_, c₂, hfirst, h⟩ := takes_bind.1 h
    obtain ⟨_, c₃, hsecond, h⟩ := takes_bind.1 h
    obtain ⟨hbackslash, rfl⟩ := takes_pairByte.1 hfirst
    obtain ⟨hletter, rfl⟩ := takes_pairByte.1 hsecond
    obtain ⟨m', c₄, hm', h⟩ := takes_bind.1 h
    split at h
    · obtain ⟨-, rfl⟩ := takes_pure.1 h
      exact .inr ⟨hbackslash, hletter, m', hm'⟩
    · cases takes_refuse h
  · exact .inl (takes_pure.1 h).2

theorem skipTextFrom_of_plain {rounds : Nat} {b : UInt8} (hhead : c.head? = some b)
    (hquote : b ≠ 34) (hbackslash : b ≠ 92) (hprint : ¬b < 32)
    (hrest : Takes (skipTextFrom rounds) c.moved () c') :
    Takes (skipTextFrom (rounds + 1)) c () c' := by
  rw [skipTextFrom, takes_peek_bind]
  simp only [hhead]
  rw [if_neg hprint, takes_skip_bind]
  exact hrest

theorem skipTextFrom_of_letter {rounds : Nat} {b : UInt8} (hbackslash : c.head? = some 92)
    (hhead : c.moved.head? = some b) (hletter : (simpleEscape? b).isSome = true)
    (hrest : Takes (skipTextFrom rounds) c.moved.moved () c') :
    Takes (skipTextFrom (rounds + 1)) c () c' := by
  rw [skipTextFrom, takes_peek_bind]
  simp only [hbackslash, takes_skip_bind, takes_next_bind, hhead]
  rw [if_pos hletter]
  exact hrest

theorem skipTextFrom_of_hexEscape {rounds n : Nat} {c₁ : Cursor}
    (hbackslash : c.head? = some 92) (hletter : c.moved.head? = some 'u'.toUInt8)
    (h : Takes hexEscape c.moved.moved n c₁) (hrest : Takes (skipTextFrom rounds) c₁ () c') :
    Takes (skipTextFrom (rounds + 1)) c () c' := by
  rw [skipTextFrom, takes_peek_bind]
  simp only [hbackslash, takes_skip_bind, takes_next_bind, hletter]
  rw [if_neg (by decide), if_pos trivial]
  exact takes_bind.2 ⟨n, c₁, h, hrest⟩

/-- **A text that is read can be skipped.** Skipping takes the halves of a surrogate pair one after
the other. -/
theorem skipTextFrom_of_textBytes {rounds : Nat} {bytes : List UInt8}
    (h : Takes (textBytes rounds) c bytes c') {enough : Nat} (henough : c.bytes.length < enough) :
    Takes (skipTextFrom enough) c () c'.moved := by
  induction rounds generalizing c bytes enough with
  | zero => cases takes_refuse h
  | succ rounds ih =>
    obtain ⟨enough, rfl⟩ : ∃ m, enough = m + 1 := ⟨enough - 1, by omega⟩
    have hmoved {c : Cursor} : c.moved.bytes.length = c.bytes.length - 1 := Cursor.length_moved
    rw [textBytes, takes_peek_bind] at h
    split at h
    · cases takes_refuse h
    · next hquote =>
      obtain ⟨-, rfl⟩ := takes_pure.1 h
      rw [skipTextFrom, takes_peek_bind]
      simp only [hquote, takes_skip]
    · next hbackslash =>
      have hpos := Cursor.length_pos_of_head? hbackslash
      rw [takes_skip_bind] at h
      obtain ⟨piece, c₁, hescape, h⟩ := takes_bind.1 h
      obtain ⟨more, c₂, hmore, h⟩ := takes_bind.1 h
      obtain ⟨-, rfl⟩ := takes_pure.1 h
      obtain ⟨b, hhead, hletter, rfl⟩ | ⟨hletter, n, hcode⟩ := escape_cases hescape
      · refine skipTextFrom_of_letter hbackslash hhead hletter (ih hmore ?_)
        rw [hmoved, hmoved]
        omega
      · obtain ⟨m, c₃, hm, hcode⟩ := codePoint_cases hcode
        have hle := Flat.hexEscape.length_le_of_takes hm
        rw [hmoved, hmoved] at hle
        refine skipTextFrom_of_hexEscape hbackslash hletter hm ?_
        obtain rfl | ⟨hbackslash', hletter', m', hm'⟩ := hcode
        · exact ih hmore (by omega)
        · have hpos' := Cursor.length_pos_of_head? hbackslash'
          have hle' := Flat.hexEscape.length_le_of_takes hm'
          rw [hmoved, hmoved] at hle'
          obtain ⟨enough, rfl⟩ : ∃ m, enough = m + 1 := ⟨enough - 1, by omega⟩
          exact skipTextFrom_of_hexEscape hbackslash' hletter' hm' (ih hmore (by omega))
    · next b hquote hbackslash hhead =>
      have hpos := Cursor.length_pos_of_head? hhead
      rw [takes_skip_bind] at h
      obtain ⟨hprint, h⟩ := takes_guard.1 h
      obtain ⟨more, c₂, hmore, h⟩ := takes_bind.1 h
      obtain ⟨-, rfl⟩ := takes_pure.1 h
      refine skipTextFrom_of_plain hhead hquote hbackslash hprint (ih hmore ?_)
      rw [hmoved]
      omega

theorem skipText_of_text {s : String} (h : Takes text c s c') : Takes skipText c () c' := by
  rw [text, takes_unread_bind] at h
  obtain ⟨bytes, c₁, hbytes, h⟩ := takes_bind.1 h
  split at h
  · rw [takes_skip_bind] at h
    obtain ⟨-, rfl⟩ := takes_pure.1 h
    rw [skipText, takes_unread_bind]
    exact skipTextFrom_of_textBytes hbytes (Nat.lt_succ_self _)
  · cases takes_refuse h

/-! ## Lists and objects -/

theorem hasElement_first_cases {more : Bool} (h : Takes (hasElement true) c more c') :
    c' = c.pastBlanks ∧
      (more = false ∧ c'.head? = some 93 ∨ more = true ∧ ∃ b, c'.head? = some b ∧ b ≠ 93) := by
  rw [hasElement, takes_token_bind] at h
  split at h
  · cases takes_refuseNext h
  · next hend =>
    obtain ⟨rfl, rfl⟩ := takes_pure.1 h
    exact ⟨rfl, .inl ⟨rfl, hend⟩⟩
  · next b hb hhead =>
    rw [if_pos rfl] at h
    obtain ⟨rfl, rfl⟩ := takes_pure.1 h
    exact ⟨rfl, .inr ⟨rfl, b, hhead, hb⟩⟩

theorem hasElement_later_cases {more : Bool} (h : Takes (hasElement false) c more c') :
    (more = false ∧ c' = c.pastBlanks ∧ c'.head? = some 93) ∨
      more = true ∧ c.pastBlanks.head? = some 44 ∧ c' = c.pastBlanks.moved.pastBlanks := by
  rw [hasElement, takes_token_bind] at h
  split at h
  · cases takes_refuseNext h
  · next hend =>
    obtain ⟨rfl, rfl⟩ := takes_pure.1 h
    exact .inl ⟨rfl, rfl, hend⟩
  · next b hb hhead =>
    rw [if_neg (by decide)] at h
    split at h
    · next hcomma =>
      rw [takes_skip_bind, takes_token_bind] at h
      split at h
      · cases takes_refuseNext h
      · obtain ⟨rfl, rfl⟩ := takes_pure.1 h
        exact .inr ⟨rfl, hcomma ▸ hhead, rfl⟩
      · cases takes_refuseNext h
    · cases takes_refuseNext h

theorem hasMember_first_cases {more : Bool} (h : Takes (hasMember true) c more c') :
    c' = c.pastBlanks ∧
      (more = false ∧ c'.head? = some 125 ∨ more = true ∧ c'.head? = some 34) := by
  rw [hasMember, takes_token_bind] at h
  split at h
  · cases takes_refuseNext h
  · next hend =>
    obtain ⟨rfl, rfl⟩ := takes_pure.1 h
    exact ⟨rfl, .inl ⟨rfl, hend⟩⟩
  · next b hb hhead =>
    rw [if_pos rfl] at h
    split at h
    · next hquote =>
      obtain ⟨rfl, rfl⟩ := takes_pure.1 h
      exact ⟨rfl, .inr ⟨rfl, hquote ▸ hhead⟩⟩
    · cases takes_refuseNext h

theorem hasMember_later_cases {more : Bool} (h : Takes (hasMember false) c more c') :
    (more = false ∧ c' = c.pastBlanks ∧ c'.head? = some 125) ∨
      more = true ∧ c.pastBlanks.head? = some 44 ∧ c' = c.pastBlanks.moved.pastBlanks ∧
        c'.head? = some 34 := by
  rw [hasMember, takes_token_bind] at h
  split at h
  · cases takes_refuseNext h
  · next hend =>
    obtain ⟨rfl, rfl⟩ := takes_pure.1 h
    exact .inl ⟨rfl, rfl, hend⟩
  · next b hb hhead =>
    rw [if_neg (by decide)] at h
    split at h
    · next hcomma =>
      rw [takes_skip_bind, takes_token_bind] at h
      split at h
      · next hquote =>
        obtain ⟨rfl, rfl⟩ := takes_pure.1 h
        exact .inr ⟨rfl, hcomma ▸ hhead, rfl, hquote⟩
      · cases takes_refuseNext h
      · cases takes_refuseNext h
      · cases takes_refuseNext h
    · cases takes_refuseNext h

section

variable {item : Reader α} {skipItem : Reader Unit} {enough : Nat}

/-- The elements after the first one, and the bracket behind them. -/
theorem skipMoreElements_of_elementsFrom (hflat : Flat skipItem)
    (hblank : ∀ {c c'}, Takes skipItem c.pastBlanks () c' → Takes skipItem c () c')
    (hitem : ∀ {c a c'}, c.bytes.length < enough → Takes item c a c' → Takes skipItem c () c')
    {rounds : Nat} {as : List α} (h : Takes (elementsFrom item rounds false) c as c')
    (hend : c'.pastBlanks.head? = some 93) (hlength : c.bytes.length ≤ enough) {fuel : Nat}
    (hfuel : c.bytes.length < fuel) :
    Takes (skipMoreElements skipItem fuel) c () c'.pastBlanks.moved := by
  induction rounds generalizing c as fuel with
  | zero =>
    obtain ⟨-, rfl⟩ := takes_pure.1 h
    obtain ⟨fuel, rfl⟩ : ∃ m, fuel = m + 1 := ⟨fuel - 1, by omega⟩
    rw [skipMoreElements, takes_token_bind]
    simp only [hend, takes_skip]
  | succ rounds ih =>
    obtain ⟨fuel, rfl⟩ : ∃ m, fuel = m + 1 := ⟨fuel - 1, by omega⟩
    obtain ⟨more, c₁, hmore, h⟩ := takes_bind.1 h
    obtain ⟨rfl, rfl, hbracket⟩ | ⟨rfl, hcomma, rfl⟩ := hasElement_later_cases hmore
    · rw [if_neg (by decide)] at h
      obtain ⟨-, rfl⟩ := takes_pure.1 h
      rw [skipMoreElements, takes_token_bind]
      simp only [hbracket, takes_skip, Cursor.past_past]
    · rw [if_pos rfl] at h
      obtain ⟨a, c₂, ha, h⟩ := takes_bind.1 h
      obtain ⟨as', c₃, has, h⟩ := takes_bind.1 h
      obtain ⟨-, rfl⟩ := takes_pure.1 h
      have hpos := Cursor.length_pos_of_head? hcomma
      have hle : c.pastBlanks.bytes.length ≤ c.bytes.length := Cursor.length_past_le
      have hle' : c.pastBlanks.moved.pastBlanks.bytes.length ≤ c.pastBlanks.bytes.length - 1 :=
        Nat.le_trans Cursor.length_past_le (Nat.le_of_eq Cursor.length_moved)
      have hskip := hitem (by omega) ha
      have hle'' := hflat.length_le_of_takes hskip
      rw [skipMoreElements, takes_token_bind]
      simp only [hcomma, takes_skip_bind]
      exact takes_bind.2 ⟨(), c₂, hblank hskip, ih has (by omega) (by omega)⟩

/-- **Lists are skipped** as far as their elements are. -/
theorem skipElements_of_elements (hflat : Flat skipItem)
    (hblank : ∀ {c c'}, Takes skipItem c.pastBlanks () c' → Takes skipItem c () c')
    (hitem : ∀ {c a c'}, c.bytes.length < enough → Takes item c a c' → Takes skipItem c () c')
    {as : List α} (h : Takes (elements item) c as c') (hend : c'.pastBlanks.head? = some 93)
    (hlength : c.bytes.length < enough) :
    Takes (skipElements skipItem) c () c'.pastBlanks.moved := by
  rw [elements, takes_unread_bind] at h
  obtain ⟨more, c₁, hmore, h⟩ := takes_bind.1 h
  obtain ⟨rfl, ⟨rfl, hbracket⟩ | ⟨rfl, b, hb, hne⟩⟩ := hasElement_first_cases hmore
  · rw [if_neg (by decide)] at h
    obtain ⟨-, rfl⟩ := takes_pure.1 h
    rw [skipElements, takes_token_bind]
    simp only [hbracket, takes_skip, Cursor.past_past]
  · rw [if_pos rfl] at h
    obtain ⟨a, c₂, ha, h⟩ := takes_bind.1 h
    obtain ⟨as', c₃, has, h⟩ := takes_bind.1 h
    obtain ⟨-, rfl⟩ := takes_pure.1 h
    have hle : c.pastBlanks.bytes.length ≤ c.bytes.length := Cursor.length_past_le
    have hskip := hitem (by omega) ha
    have hle' := hflat.length_le_of_takes hskip
    rw [skipElements, takes_token_bind]
    simp only [hb]
    refine takes_bind.2 ⟨(), c₂, hskip, ?_⟩
    rw [takes_unread_bind]
    exact skipMoreElements_of_elementsFrom hflat hblank hitem has hend (by omega)
      (Nat.lt_succ_self _)

variable {σ : Type} {step : String → σ → Reader σ}

/-- A member: its name between quotes, and what is skipped behind it. -/
theorem skipMember_of_text {name : String} {c₁ : Cursor} (hquote : c.pastBlanks.head? = some 34)
    (hname : Takes text c.pastBlanks.moved name c₁)
    (hitem : Takes (do colon; skipItem) c₁ () c') : Takes (skipMember skipItem) c () c' := by
  rw [skipMember, takes_token_bind]
  simp only [hquote, takes_skip_bind]
  exact takes_bind.2 ⟨(), c₁, skipText_of_text hname, hitem⟩

theorem length_le_of_text {name : String} (h : Takes text c name c') :
    c'.bytes.length ≤ c.bytes.length :=
  Flat.skipText.length_le_of_takes (skipText_of_text h)

/-- The members after the first one, and the brace behind them. -/
theorem skipMoreMembers_of_membersFrom (hflat : Flat skipItem)
    (hstep : ∀ {name s c s' c'}, c.bytes.length < enough → Takes (step name s) c s' c' →
      Takes (do colon; skipItem) c () c')
    {rounds : Nat} {s s' : σ} (h : Takes (membersFrom text step rounds false s) c s' c')
    (hend : c'.pastBlanks.head? = some 125) (hlength : c.bytes.length ≤ enough) {fuel : Nat}
    (hfuel : c.bytes.length < fuel) :
    Takes (skipMoreMembers skipItem fuel) c () c'.pastBlanks.moved := by
  induction rounds generalizing c s fuel with
  | zero =>
    obtain ⟨-, rfl⟩ := takes_pure.1 h
    obtain ⟨fuel, rfl⟩ : ∃ m, fuel = m + 1 := ⟨fuel - 1, by omega⟩
    rw [skipMoreMembers, takes_token_bind]
    simp only [hend, takes_skip]
  | succ rounds ih =>
    obtain ⟨fuel, rfl⟩ : ∃ m, fuel = m + 1 := ⟨fuel - 1, by omega⟩
    obtain ⟨more, c₁, hmore, h⟩ := takes_bind.1 h
    obtain ⟨rfl, rfl, hbrace⟩ | ⟨rfl, hcomma, rfl, hquote⟩ := hasMember_later_cases hmore
    · rw [if_neg (by decide)] at h
      obtain ⟨-, rfl⟩ := takes_pure.1 h
      rw [skipMoreMembers, takes_token_bind]
      simp only [hbrace, takes_skip, Cursor.past_past]
    · rw [if_pos rfl, takes_skip_bind] at h
      obtain ⟨name, c₂, hname, h⟩ := takes_bind.1 h
      obtain ⟨s₁, c₃, hs, h⟩ := takes_bind.1 h
      have hpos := Cursor.length_pos_of_head? hcomma
      have hle : c.pastBlanks.bytes.length ≤ c.bytes.length := Cursor.length_past_le
      have hmoved : c.pastBlanks.moved.bytes.length = c.pastBlanks.bytes.length - 1 :=
        Cursor.length_moved
      have hblanks : c.pastBlanks.moved.pastBlanks.bytes.length ≤ c.pastBlanks.moved.bytes.length :=
        Cursor.length_past_le
      have hquoted : c.pastBlanks.moved.pastBlanks.moved.bytes.length =
          c.pastBlanks.moved.pastBlanks.bytes.length - 1 := Cursor.length_moved
      have hle' := length_le_of_text hname
      have hskip := hstep (by omega) hs
      have hle'' := (Flat.colon.bind fun _ => hflat).length_le_of_takes hskip
      rw [skipMoreMembers, takes_token_bind]
      simp only [hcomma, takes_skip_bind]
      exact takes_bind.2 ⟨(), c₃, skipMember_of_text hquote hname hskip,
        ih h (by omega) (by omega)⟩

/-- **Objects are skipped** as far as what stands behind their names is. -/
theorem skipMembers_of_members (hflat : Flat skipItem)
    (hstep : ∀ {name s c s' c'}, c.bytes.length < enough → Takes (step name s) c s' c' →
      Takes (do colon; skipItem) c () c')
    {s s' : σ} (h : Takes (members step s) c s' c') (hend : c'.pastBlanks.head? = some 125)
    (hlength : c.bytes.length < enough) :
    Takes (skipMembers skipItem) c () c'.pastBlanks.moved := by
  rw [members, takes_unread_bind] at h
  obtain ⟨more, c₁, hmore, h⟩ := takes_bind.1 h
  obtain ⟨rfl, ⟨rfl, hbrace⟩ | ⟨rfl, hquote⟩⟩ := hasMember_first_cases hmore
  · rw [if_neg (by decide)] at h
    obtain ⟨-, rfl⟩ := takes_pure.1 h
    rw [skipMembers, takes_token_bind]
    simp only [hbrace, takes_skip, Cursor.past_past]
  · rw [if_pos rfl, takes_skip_bind] at h
    obtain ⟨name, c₂, hname, h⟩ := takes_bind.1 h
    obtain ⟨s₁, c₃, hs, h⟩ := takes_bind.1 h
    have hle : c.pastBlanks.bytes.length ≤ c.bytes.length := Cursor.length_past_le
    have hmoved : c.pastBlanks.moved.bytes.length = c.pastBlanks.bytes.length - 1 :=
      Cursor.length_moved
    have hle' := length_le_of_text hname
    have hskip := hstep (by omega) hs
    have hle'' := (Flat.colon.bind fun _ => hflat).length_le_of_takes hskip
    rw [skipMembers, takes_token_bind]
    simp only [hquote]
    rw [← Cursor.pastBlanks_pastBlanks] at hquote hname
    refine takes_bind.2 ⟨(), c₃, skipMember_of_text hquote hname hskip, ?_⟩
    rw [takes_unread_bind]
    exact skipMoreMembers_of_membersFrom hflat hstep h hend (by omega) (Nat.lt_succ_self _)

end

/-! ## Whole documents -/

theorem skipWithin_pastBlanks {levels : Nat} (h : Takes (skipWithin levels) c.pastBlanks () c') :
    Takes (skipWithin levels) c () c' := by
  cases levels with
  | zero => cases takes_refuseNext h
  | succ levels =>
    rw [skipWithin, takes_token_bind, Cursor.pastBlanks_pastBlanks] at h
    rw [skipWithin, takes_token_bind]
    exact h

theorem skip_of_word {letters : List Char} {a b : α}
    (h : Takes (do skip; ident letters; return a) c b c') :
    Takes (do skip; ident letters) c () c' := by
  rw [takes_skip_bind] at h ⊢
  obtain ⟨_, c₁, hident, h⟩ := takes_bind.1 h
  rw [(takes_pure.1 h).2]
  exact hident

/-- What is skipped one level deeper is skipped at the level itself. -/
theorem Flat.takes_outside {r : Reader Unit} (hr : Flat r) (hroom : 1 < c.room)
    (h : Takes r c.inside () c') : Takes r c () c'.outside := by
  have hinside : c'.room = c.room - 1 := hr.room_eq h
  rw [Cursor.outside, hinside, Nat.sub_add_cancel (by omega)]
  exact hr.takes_withRoom h c.room

/-- **Every document that is read can be skipped.** -/
theorem skipWithin_of_valueWithin {levels : Nat} {j : Json} (h : Takes (valueWithin levels) c j c')
    {enough : Nat} (henough : c.bytes.length < enough) : Takes (skipWithin enough) c () c' := by
  induction levels generalizing c j c' enough with
  | zero => cases takes_refuseNext h
  | succ levels ih =>
    obtain ⟨enough, rfl⟩ : ∃ m, enough = m + 1 := ⟨enough - 1, by omega⟩
    have hle : c.pastBlanks.bytes.length ≤ c.bytes.length := Cursor.length_past_le
    rw [valueWithin, takes_token_bind] at h
    rw [skipWithin, takes_token_bind]
    cases hhead : c.pastBlanks.head? with
    | none =>
      rw [hhead] at h
      cases takes_refuseNext h
    | some b =>
      rw [hhead] at h
      have hpos := Cursor.length_pos_of_head? hhead
      have hmoved : c.pastBlanks.moved.bytes.length = c.pastBlanks.bytes.length - 1 :=
        Cursor.length_moved
      refine h.ite (fun _ h => ?_) fun _ h => h.ite (fun _ h => ?_) fun _ h =>
        h.ite (fun _ h => ?_) fun _ h => h.ite (fun _ h => ?_) fun _ h =>
        h.ite (fun _ h => ?_) fun _ h => h.ite (fun _ h => ?_) fun _ h =>
        h.ite (fun _ h => ?_) fun _ h => h.ite (fun _ h => ?_) fun _ h => ?_
      · exact skip_of_word h
      · exact skip_of_word h
      · exact skip_of_word h
      · rw [takes_skip_bind] at h ⊢
        exact skipNumber_of_number h
      · exact skipNumber_of_number h
      · rw [takes_skip_bind] at h ⊢
        obtain ⟨s, c₁, hs, h⟩ := takes_bind.1 h
        rw [(takes_pure.1 h).2]
        exact skipText_of_text hs
      · obtain ⟨xs, h, -⟩ := takes_map.1 h
        obtain ⟨hroom, c₁, hxs, hend, rfl⟩ := takes_inList.1 h
        rw [takes_skip_bind]
        refine (Flat.skipElements (.skipWithin enough)).takes_outside
          (by rwa [Cursor.room_moved]) ?_
        refine skipElements_of_elements (.skipWithin enough) skipWithin_pastBlanks
          (fun hlength h => ih h hlength) hxs hend ?_
        rw [Cursor.inside, Cursor.bytes_withRoom]
        omega
      · obtain ⟨found, c₁, h, hfound⟩ := takes_bind.1 h
        rw [(takes_pure.1 hfound).2]
        obtain ⟨hroom, c₂, hmembers, hend, rfl⟩ := takes_inObject.1 h
        rw [takes_skip_bind]
        have hstep {name : String} {found found' : List (String × Json)} {c c' : Cursor}
            (hlength : c.bytes.length < enough)
            (h : Takes (do colon; return (name, ← valueWithin levels) :: found) c found' c') :
            Takes (do colon; skipWithin enough) c () c' := by
          obtain ⟨_, c₁, hcolon, h⟩ := takes_bind.1 h
          obtain ⟨j', c₂, hj', h⟩ := takes_bind.1 h
          obtain ⟨-, rfl⟩ := takes_pure.1 h
          have hle' := Flat.colon.length_le_of_takes hcolon
          exact takes_bind.2 ⟨(), c₁, hcolon, ih hj' (by omega)⟩
        refine (Flat.skipMembers (.skipWithin enough)).takes_outside (by rwa [Cursor.room_moved]) ?_
        refine skipMembers_of_members (.skipWithin enough) hstep hmembers hend ?_
        rw [Cursor.inside, Cursor.bytes_withRoom]
        omega
      · cases takes_refuseNext h

/-- A document of any depth is skipped to where reading it ends. -/
theorem skipValue_of_value {j : Json} (h : Takes value c j c') : Takes skipValue c () c' := by
  rw [skipValue, takes_unread_bind]
  exact skipWithin_of_valueWithin h (Nat.lt_succ_self _)

end RelationGate.Json.Reader
