import Mathlib.Logic.Basic
import RelationGate.Json.Codec

/-!
# What readers accept

A reader goes over a text with a cursor. `Takes r c a c'` says that it accepts at one place, with a
value, and leaves the cursor at another place. Each way of putting readers together has its law:
`takes_bind` for one after the other, `takes_bracketed` for what stands between brackets, one level
deeper, `run_eq_ok_iff` for a whole text. `outcome` is the same for readers that may refuse, which
matters only where a refusal is caught or something is done after it.
-/

namespace RelationGate.Json

/-! ## Places in a text -/

namespace Cursor

/-- The cursor after one more byte, if there is one. -/
def moved (c : Cursor) : Cursor :=
  match c.bytes with
  | [] => c
  | b :: rest => { c with bytes := rest, place := c.place.after b }

/-- The cursor behind a run of bytes of a class. -/
def past (p : UInt8 → Bool) (c : Cursor) : Cursor :=
  { c with
    bytes := (Reader.dropRun p c.bytes c.place).1
    place := (Reader.dropRun p c.bytes c.place).2 }

/-- The cursor behind the blanks. -/
abbrev pastBlanks (c : Cursor) : Cursor := c.past Reader.isBlankByte

/-- The same place with room for so many levels. -/
def withRoom (k : Nat) (c : Cursor) : Cursor := { c with room := k }

/-- The same place, one level deeper. -/
def inside (c : Cursor) : Cursor := c.withRoom (c.room - 1)

/-- The same place, one level less deep. -/
def outside (c : Cursor) : Cursor := c.withRoom (c.room + 1)

/-- The next byte. -/
def head? (c : Cursor) : Option UInt8 := c.bytes.head?

variable {p : UInt8 → Bool} {c : Cursor} {b : UInt8} {k : Nat}

@[simp] theorem moved_withRoom : (c.withRoom k).moved = c.moved.withRoom k := by
  obtain ⟨_ | ⟨b, rest⟩, place, room⟩ := c <;> rfl

@[simp] theorem bytes_withRoom : (c.withRoom k).bytes = c.bytes := rfl

@[simp] theorem room_withRoom : (c.withRoom k).room = k := rfl

@[simp] theorem room_moved : c.moved.room = c.room := by
  obtain ⟨_ | ⟨b, rest⟩, place, room⟩ := c <;> rfl

theorem moved_inside : c.inside.moved = c.moved.inside := by
  rw [inside, moved_withRoom, inside, room_moved]

theorem moved_outside : c.outside.moved = c.moved.outside := by
  rw [outside, moved_withRoom, outside, room_moved]

theorem inside_outside (h : 0 < c.room) : c.inside.outside = c := by
  obtain ⟨bytes, place, room⟩ := c
  simp only [inside, outside, withRoom, Cursor.mk.injEq, true_and]
  exact Nat.sub_add_cancel h

theorem pastBlanks_inside : c.inside.pastBlanks = c.pastBlanks.inside := rfl

theorem pastBlanks_outside : c.outside.pastBlanks = c.pastBlanks.outside := rfl

theorem length_moved : c.moved.bytes.length = c.bytes.length - 1 := by
  obtain ⟨_ | ⟨b, rest⟩, place, room⟩ := c <;> simp [moved]

theorem length_pos_of_head? (h : c.head? = some b) : 0 < c.bytes.length :=
  List.length_pos_of_mem (List.mem_of_mem_head? h)

/-- In front of a byte of the class the run begins with it. -/
theorem past_of_head? (h : c.head? = some b) (hb : p b = true) : c.past p = c.moved.past p := by
  obtain ⟨_ | ⟨x, rest⟩, place, room⟩ := c
  · cases h
  · cases h
    simp only [past, moved, Reader.dropRun, hb, if_true]

/-- In front of any other byte, or at the end, there is no run. -/
theorem past_of_not_head? (h : ∀ b, c.head? = some b → p b = false) : c.past p = c := by
  obtain ⟨_ | ⟨x, rest⟩, place, room⟩ := c
  · rfl
  · simp only [past, Reader.dropRun, h x rfl, Bool.false_eq_true, if_false]

/-- A run ends at the end or in front of a byte that is not of the class. -/
theorem head?_past (h : (c.past p).head? = some b) : p b = false := by
  obtain ⟨bytes, place, room⟩ := c
  induction bytes generalizing place with
  | nil => cases h
  | cons x rest ih =>
    cases hx : p x with
    | true =>
      rw [past_of_head? rfl hx] at h
      exact ih _ h
    | false =>
      rw [past_of_not_head? (by rintro _ ⟨⟩; exact hx)] at h
      cases h
      exact hx

theorem length_past_le : (c.past p).bytes.length ≤ c.bytes.length := by
  obtain ⟨bytes, place, room⟩ := c
  induction bytes generalizing place with
  | nil => exact Nat.le_refl _
  | cons x rest ih =>
    cases hx : p x with
    | true =>
      rw [past_of_head? rfl hx]
      exact Nat.le_trans (ih _) (Nat.le_succ _)
    | false =>
      exact Nat.le_of_eq (by rw [past_of_not_head? (by rintro _ ⟨⟩; exact hx)])

@[simp] theorem past_past : (c.past p).past p = c.past p :=
  past_of_not_head? fun _ => head?_past

theorem pastBlanks_pastBlanks : c.pastBlanks.pastBlanks = c.pastBlanks := past_past

end Cursor

namespace Reader

variable {α β σ : Type} {c c' : Cursor} {k : Nat}

/-! ## What a reader does at a place -/

/-- What a reader gives at a place, and where it leaves the cursor. -/
def outcome (r : Reader α) (c : Cursor) : Except Fault α × Cursor := ExceptT.run r c

theorem outcome_bind (r : Reader α) (f : α → Reader β) (c : Cursor) :
    outcome (r >>= f) c =
      match outcome r c with
      | (.ok a, c') => outcome (f a) c'
      | (.error e, c') => (.error e, c') := by
  simp only [outcome, ExceptT.run, bind, ExceptT.bind, ExceptT.mk, StateT.bind, ExceptT.bindCont]
  rcases r c with ⟨_ | _, _⟩ <;> rfl

/-- A reader accepts: it gives a value and leaves the cursor at a place. -/
def Takes (r : Reader α) (c : Cursor) (a : α) (c' : Cursor) : Prop := outcome r c = (.ok a, c')

theorem Takes.unique {r : Reader α} {a b : α} {c₁ c₂ : Cursor} (h : Takes r c a c₁)
    (h' : Takes r c b c₂) : a = b ∧ c₁ = c₂ := by
  cases h.symm.trans h'
  exact ⟨rfl, rfl⟩

theorem takes_iff_of_outcome {r : Reader α} {a b : α} {c₁ : Cursor}
    (h : outcome r c = (.ok b, c₁)) : Takes r c a c' ↔ a = b ∧ c' = c₁ := by
  rw [Takes, h, Prod.mk.injEq, Except.ok.injEq, eq_comm, @eq_comm _ c₁]

@[simp] theorem takes_pure {a b : α} : Takes (pure a : Reader α) c b c' ↔ b = a ∧ c' = c :=
  takes_iff_of_outcome rfl

theorem takes_bind {r : Reader α} {f : α → Reader β} {b : β} :
    Takes (r >>= f) c b c' ↔ ∃ a c₁, Takes r c a c₁ ∧ Takes (f a) c₁ b c' := by
  rw [Takes, outcome_bind]
  constructor
  · intro h
    split at h
    · next a c₁ hr => exact ⟨a, c₁, hr, h⟩
    · cases h
  · rintro ⟨a, c₁, hr, hf⟩
    rw [hr]
    exact hf

/-- After a reader that never refuses the next one goes on. -/
theorem takes_bind_of_outcome {r : Reader α} {f : α → Reader β} {a : α} {b : β} {c₁ : Cursor}
    (h : outcome r c = (.ok a, c₁)) : Takes (r >>= f) c b c' ↔ Takes (f a) c₁ b c' := by
  rw [Takes, outcome_bind, h, Takes]

@[simp] theorem takes_map {r : Reader α} {f : α → β} {b : β} :
    Takes (f <$> r) c b c' ↔ ∃ a, Takes r c a c' ∧ b = f a := by
  rw [map_eq_pure_bind, takes_bind]
  simp only [takes_pure]
  constructor
  · rintro ⟨a, c₁, hr, rfl, rfl⟩
    exact ⟨a, hr, rfl⟩
  · rintro ⟨a, hr, rfl⟩
    exact ⟨a, c', hr, rfl, rfl⟩

@[simp] theorem takes_throw {e : Fault} {a : α} : ¬Takes (throw e : Reader α) c a c' := nofun

@[simp] theorem takes_reject {e : Cause} {a : α} : ¬Takes (reject e : Reader α) c a c' := nofun

@[simp] theorem takes_refuse {e : Malformed} {a : α} : ¬Takes (refuse e : Reader α) c a c' := nofun

@[simp] theorem takes_refuseNext {e : Malformed} {a : α} :
    ¬Takes (refuseNext e : Reader α) c a c' := nofun

/-! ## Readers that never refuse -/

section

variable {f : α → Reader β} {b : β}

@[simp] theorem takes_peek_bind {f : Option UInt8 → Reader β} :
    Takes (peek >>= f) c b c' ↔ Takes (f c.head?) c b c' :=
  takes_bind_of_outcome rfl

theorem outcome_next (c : Cursor) : outcome next c = (.ok c.head?, c.moved) := by
  obtain ⟨_ | ⟨b, rest⟩, place, room⟩ := c <;> rfl

@[simp] theorem takes_next_bind {f : Option UInt8 → Reader β} :
    Takes (next >>= f) c b c' ↔ Takes (f c.head?) c.moved b c' :=
  takes_bind_of_outcome (outcome_next c)

theorem outcome_skip (c : Cursor) : outcome skip c = (.ok (), c.moved) := by
  obtain ⟨_ | ⟨b, rest⟩, place, room⟩ := c <;> rfl

@[simp] theorem takes_skip {u : Unit} : Takes skip c u c' ↔ c' = c.moved := by
  simp [takes_iff_of_outcome (outcome_skip c)]

@[simp] theorem takes_skip_bind {f : Unit → Reader β} :
    Takes (skip >>= f) c b c' ↔ Takes (f ()) c.moved b c' :=
  takes_bind_of_outcome (outcome_skip c)

@[simp] theorem takes_skipWhile {p : UInt8 → Bool} {u : Unit} :
    Takes (skipWhile p) c u c' ↔ c' = c.past p := by
  simp [takes_iff_of_outcome (show outcome (skipWhile p) c = (.ok (), c.past p) from rfl)]

@[simp] theorem takes_skipWhile_bind {p : UInt8 → Bool} {f : Unit → Reader β} :
    Takes (skipWhile p >>= f) c b c' ↔ Takes (f ()) (c.past p) b c' :=
  takes_bind_of_outcome rfl

@[simp] theorem takes_unread_bind {f : Nat → Reader β} :
    Takes (unread >>= f) c b c' ↔ Takes (f c.bytes.length) c b c' :=
  takes_bind_of_outcome rfl

@[simp] theorem takes_token_bind {f : Option UInt8 → Reader β} :
    Takes (token >>= f) c b c' ↔
      Takes (f c.pastBlanks.head?) c.pastBlanks b c' :=
  takes_bind_of_outcome rfl

@[simp] theorem takes_ahead_bind {x : Char} {f : Bool → Reader β} :
    Takes (ahead x >>= f) c b c' ↔ Takes (f (c.head? == some x.toUInt8)) c b c' :=
  takes_bind_of_outcome rfl

end

@[simp] theorem takes_ofDecoded {x : Except Fault α} {a : α} :
    Takes (ofDecoded x) c a c' ↔ x = .ok a ∧ c' = c := by
  cases x <;> simp [ofDecoded, eq_comm]

theorem outcome_tryCatch (r : Reader α) (handle : Fault → Reader α) (c : Cursor) :
    outcome (tryCatch r handle) c =
      match outcome r c with
      | (.ok a, c') => (.ok a, c')
      | (.error e, c') => outcome (handle e) c' := by
  simp only [outcome, tryCatch, tryCatchThe, MonadExceptOf.tryCatch, ExceptT.tryCatch, ExceptT.run,
    ExceptT.mk, bind, StateT.bind]
  rcases r c with ⟨_ | _, _⟩ <;> rfl

theorem outcome_placed (r : Reader α) (c : Cursor) :
    outcome (placed r) c =
      match outcome r c with
      | (.ok a, c') => (.ok a, c')
      | (.error e, c') => (.error { e with place := e.place.or (some c'.place) }, c') := by
  rw [placed, outcome_tryCatch]
  rcases outcome r c with ⟨⟨cause, _ | place⟩ | _, _⟩ <;> rfl

/-- Where a fault is placed makes no difference to what is accepted. -/
@[simp] theorem takes_placed {r : Reader α} {a : α} : Takes (placed r) c a c' ↔ Takes r c a c' := by
  rw [Takes, outcome_placed, Takes]
  split <;> simp_all

theorem outcome_andFinally (r : Reader α) (finish : Reader Unit) (c : Cursor) :
    outcome (andFinally r finish) c =
      ((do let a ← (outcome r c).1; (outcome finish (outcome r c).2).1; return a),
        (outcome finish (outcome r c).2).2) := rfl

@[simp] theorem takes_andFinally {r : Reader α} {finish : Reader Unit} {a : α} :
    Takes (andFinally r finish) c a c' ↔ ∃ c₁, Takes r c a c₁ ∧ Takes finish c₁ () c' := by
  simp only [Takes, outcome_andFinally]
  rcases outcome r c with ⟨_ | x, c₁⟩
  · simp [bind, Except.bind]
  · rcases hfinish : outcome finish c₁ with ⟨_ | u, c₂⟩
    · simp [bind, Except.bind, hfinish]
    · simp [bind, Except.bind, pure, Except.pure, and_assoc, hfinish]

/-- With room a level is taken, and given back behind what is nested. -/
theorem outcome_nested {r : Reader α} (hroom : 1 < c.room) :
    outcome (nested r) c = ((outcome r c.inside).1, (outcome r c.inside).2.outside) := by
  have hrun : outcome (nested r) c =
      outcome (andFinally r (modify fun c => { c with room := c.room + 1 })) c.inside := by
    rw [nested, outcome_bind]
    show outcome (if c.room ≤ 1 then _ else _) c = _
    rw [if_neg (by omega)]
    rfl
  rw [hrun, outcome_andFinally]
  rcases outcome r c.inside with ⟨_ | _, _⟩ <;> rfl

@[simp] theorem takes_nested {r : Reader α} {a : α} :
    Takes (nested r) c a c' ↔
      1 < c.room ∧ ∃ c₁, Takes r c.inside a c₁ ∧ c' = c₁.outside := by
  by_cases hroom : 1 < c.room
  · rw [Takes, outcome_nested hroom, Prod.mk.injEq]
    simp only [Takes, Prod.ext_iff]
    constructor
    · rintro ⟨ha, rfl⟩
      exact ⟨hroom, _, ⟨ha, rfl⟩, rfl⟩
    · rintro ⟨-, c₁, ⟨ha, rfl⟩, rfl⟩
      exact ⟨ha, rfl⟩
  · refine iff_of_false ?_ fun h => hroom h.1
    rw [Takes, nested, outcome_bind]
    show ¬outcome (if c.room ≤ 1 then _ else _) c = _
    rw [if_pos (by omega)]
    exact takes_refuseNext

/-! ## Punctuation -/

@[simp] theorem takes_closeList {u : Unit} :
    Takes closeList c u c' ↔
      c.pastBlanks.head? = some 93 ∧ c' = c.pastBlanks.moved := by
  rw [closeList, takes_token_bind]
  split
  · next h => simp [h]
  · next h =>
    rw [takes_skip_bind, takes_token_bind]
    refine iff_of_false (fun htakes => ?_) (by simp [h])
    split at htakes <;> exact takes_refuseNext htakes
  · next h => simp_all
  · next h => simp [h]

@[simp] theorem takes_closeObject {u : Unit} :
    Takes closeObject c u c' ↔
      c.pastBlanks.head? = some 125 ∧ c' = c.pastBlanks.moved := by
  rw [closeObject, takes_token_bind]
  split <;> simp_all

/-- The contents of brackets stand between them, one level deeper. -/
theorem takes_bracketed {content : Reader α} {finish : Reader Unit} {b : UInt8} {a : α}
    (hfinish : ∀ {c u c'}, Takes finish c u c' ↔
      c.pastBlanks.head? = some b ∧ c' = c.pastBlanks.moved) :
    Takes (placed (andFinally (nested (do skip; content)) finish)) c a c' ↔
      1 < c.room ∧ ∃ c₁, Takes content c.moved.inside a c₁ ∧
        c₁.pastBlanks.head? = some b ∧ c' = c₁.pastBlanks.moved.outside := by
  simp only [takes_placed, takes_andFinally, takes_nested, takes_skip_bind, hfinish,
    Cursor.moved_inside]
  constructor
  · rintro ⟨_, ⟨hroom, c₁, h, rfl⟩, hend, rfl⟩
    exact ⟨hroom, c₁, h, hend, by rw [Cursor.pastBlanks_outside, Cursor.moved_outside]⟩
  · rintro ⟨hroom, c₁, h, hend, rfl⟩
    exact ⟨_, ⟨hroom, c₁, h, rfl⟩, hend, by rw [Cursor.pastBlanks_outside, Cursor.moved_outside]⟩

theorem takes_inList {content : Reader α} {a : α} :
    Takes (inList content) c a c' ↔ 1 < c.room ∧ ∃ c₁, Takes content c.moved.inside a c₁ ∧
      c₁.pastBlanks.head? = some 93 ∧ c' = c₁.pastBlanks.moved.outside :=
  takes_bracketed takes_closeList

theorem takes_inObject {content : Reader α} {a : α} :
    Takes (inObject content) c a c' ↔ 1 < c.room ∧ ∃ c₁, Takes content c.moved.inside a c₁ ∧
      c₁.pastBlanks.head? = some 125 ∧ c' = c₁.pastBlanks.moved.outside :=
  takes_bracketed takes_closeObject

/-- What is rejected inside brackets is left where their end is looked for. -/
theorem outcome_bracketed_reject (cause : Cause) (finish : Reader Unit) (hroom : 1 < c.room) :
    ∃ fault, outcome (placed (andFinally (nested (do skip; (reject cause : Reader α))) finish)) c =
      (.error fault, (outcome finish c.moved).2) := by
  have hinside : outcome (do skip; (reject cause : Reader α)) c.inside =
      (.error ⟨cause, none⟩, c.moved.inside) := by
    rw [outcome_bind, outcome_skip, Cursor.moved_inside]
    rfl
  have hnested : outcome (nested (do skip; (reject cause : Reader α))) c =
      (.error ⟨cause, none⟩, c.moved) := by
    rw [outcome_nested hroom, hinside]
    dsimp only
    rw [Cursor.inside_outside (by rw [Cursor.room_moved]; omega)]
  rw [outcome_placed, outcome_andFinally, hnested]
  exact ⟨_, rfl⟩

/-! ## Whole texts -/

/-- **A whole text is read** if the reader accepts it up to blanks. -/
theorem run_eq_ok_iff {r : Reader α} {bytes : List UInt8} {a : α} :
    run r bytes = .ok a ↔ ∃ c, Takes r (.start bytes) a c ∧ c.pastBlanks.head? = none := by
  have hwhole : run r bytes = .ok a ↔ ∃ c,
      Takes (do
        let a ← r
        if (← token).isSome then refuseNext .trailingCharacters
        return a) (.start bytes) a c :=
    ⟨fun h => ⟨_, Prod.ext h rfl⟩, fun ⟨_, h⟩ => congrArg Prod.fst h⟩
  rw [hwhole]
  constructor
  · rintro ⟨c₁, h⟩
    obtain ⟨b, c, hb, h⟩ := takes_bind.1 h
    rw [takes_token_bind] at h
    cases hhead : c.pastBlanks.head? with
    | none =>
      rw [hhead] at h
      obtain ⟨rfl, -⟩ := takes_pure.1 h
      exact ⟨c, hb, hhead⟩
    | some x =>
      rw [hhead] at h
      obtain ⟨_, _, hrefused, -⟩ := takes_bind.1 h
      cases takes_refuseNext hrefused
  · rintro ⟨c, ha, hend⟩
    refine ⟨c.pastBlanks, takes_bind.2 ⟨a, c, ha, ?_⟩⟩
    rw [takes_token_bind, hend]
    exact takes_pure.2 ⟨rfl, rfl⟩

end Reader

end RelationGate.Json
