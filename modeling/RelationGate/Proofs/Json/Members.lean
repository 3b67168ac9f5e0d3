import RelationGate.Proofs.Json.Documents

/-!
# Records and the members they are read from

An object is read member by member. Read as it is written, it is a list of names and documents, in
their order and with what is repeated (`Codec.written`). A record is read from the same text as far
as these members, put one after the other, fill its fields (`Codec.takes_record_iff`), and an open
record also keeps the members of other names (`Codec.takes_openRecord_iff`). The step is one member
(`Fields.readMember_follows`, `Fields.readOpenMember_copies`), the run is the loop over all of them
(`takes_membersFrom_iff`). Every field is filled by the members of its own name
(`Fields.fill_cons_iff`).
-/

namespace RelationGate.Json

open Json.Reader

/-! ## Members as they are written -/

namespace Reader

/-- The document of a member, behind its name. -/
def memberValue : Reader Json := do
  colon
  value

/-- The members of an object as they are written. -/
def pairsFrom : Nat → Bool → Reader (List (String × Json))
  | 0, _ => return []
  | rounds + 1, first => do
    if ← hasMember first then
      skip
      let name ← text
      let j ← memberValue
      return (name, j) :: (← pairsFrom rounds false)
    else return []

/-- The members of an object as they are written. -/
def pairs : Reader (List (String × Json)) := do pairsFrom ((← unread) + 1) true

end Reader

/-- The members of an object as they are written, repeated ones included. -/
def Codec.written : Codec (List (String × Json)) where
  encode := .obj
  decode
    | .obj ms => .ok ms
    | j => wrongType j "an object"
  read := do
    if (← opening) = '{'.toUInt8 then inObject pairs else mismatch "an object"

namespace Reader

variable {α σ : Type} {c c' c₁ : Cursor} {rounds : Nat} {first : Bool} {ms : List (String × Json)}
  {step : String → σ → Reader σ} {add : String → Json → σ → Option σ} {s s' : σ}

/-- What every step keeps holds behind the last member. -/
theorem membersFrom_invariant {P : σ → Prop}
    (hstep : ∀ {name s c s' c'}, P s → Takes (step name s) c s' c' → P s')
    (h : Takes (membersFrom text step rounds first s) c s' c') (hs : P s) : P s' := by
  induction rounds generalizing c first s with
  | zero =>
    rw [(takes_pure.1 h).1]
    exact hs
  | succ rounds ih =>
    obtain ⟨more, c₁, -, h⟩ := takes_bind.1 h
    split at h
    · rw [takes_skip_bind] at h
      obtain ⟨name, c₂, -, h⟩ := takes_bind.1 h
      obtain ⟨s₁, c₃, hs₁, h⟩ := takes_bind.1 h
      exact ih h (hstep hs hs₁)
    · rw [(takes_pure.1 h).1]
      exact hs

/-- Where no object goes on, none ends. -/
theorem Jammed.not_ended (hjam : Jammed c)
    (h : Takes (membersFrom text step rounds false s) c s' c') :
    c'.pastBlanks.head? ≠ some 125 := by
  cases rounds with
  | zero =>
    rw [(takes_pure.1 h).2]
    exact hjam.2
  | succ rounds =>
    obtain ⟨more, c₁, hmore, h⟩ := takes_bind.1 h
    obtain ⟨-, rfl, hend⟩ | ⟨-, hcomma, -⟩ := hasMember_later_cases hmore
    · exact (hjam.2 hend).elim
    · exact (hjam.1 hcomma).elim

theorem takes_end_iff (hend : c.pastBlanks.head? = some 125) :
    Takes (pure s : Reader σ) c s' c₁ ∧ c₁.pastBlanks.head? = some 125 ↔
      [].foldlM (fun s (m : String × Json) => add m.1 m.2 s) s = some s' ∧ c₁ = c := by
  rw [takes_pure, List.foldlM_nil]
  constructor
  · rintro ⟨⟨rfl, rfl⟩, -⟩
    exact ⟨rfl, rfl⟩
  · rintro ⟨hs, rfl⟩
    exact ⟨⟨(Option.some.inj hs).symm, rfl⟩, hend⟩

/-- **Steps that follow the documents** of the members take what the members add up to. -/
theorem takes_membersFrom_iff
    (hstep : ∀ name s, Follows memberValue (step name s) fun j => add name j s)
    (h : Takes (pairsFrom rounds first) c ms c') (hend : c'.pastBlanks.head? = some 125) :
    Takes (membersFrom text step rounds first s) c s' c₁ ∧ c₁.pastBlanks.head? = some 125 ↔
      ms.foldlM (fun s m => add m.1 m.2 s) s = some s' ∧ c₁ = c' := by
  induction rounds generalizing c ms first s with
  | zero =>
    obtain ⟨rfl, rfl⟩ := takes_pure.1 h
    exact takes_end_iff hend
  | succ rounds ih =>
    obtain ⟨more, c₂, hmore, h⟩ := takes_bind.1 h
    rw [membersFrom, takes_bind_of_outcome hmore]
    cases more with
    | false =>
      obtain ⟨rfl, rfl⟩ := takes_pure.1 h
      exact takes_end_iff hend
    | true =>
      rw [if_pos rfl, takes_skip_bind] at h ⊢
      obtain ⟨name, c₃, hname, h⟩ := takes_bind.1 h
      obtain ⟨j, c₄, hj, h⟩ := takes_bind.1 h
      obtain ⟨ms, c₅, hms, h⟩ := takes_bind.1 h
      obtain ⟨rfl, rfl⟩ := takes_pure.1 h
      rw [takes_bind_of_outcome hname, List.foldlM_cons]
      cases hadd : add name j s with
      | some s₁ =>
        rw [takes_bind_of_outcome ((hstep name s).takes hj hadd)]
        exact ih hms
      | none =>
        refine iff_of_false (fun ⟨h, hended⟩ => ?_) nofun
        obtain ⟨s₁, c₆, hs₁, h⟩ := takes_bind.1 h
        exact ((hstep name s).jams hj hadd hs₁).not_ended h hended

/-- Steps that only take documents are taken where there are members. -/
theorem pairsFrom_of_membersFrom
    (hstep : ∀ name s, Copies memberValue (step name s) fun j => add name j s)
    (h : Takes (membersFrom text step rounds first s) c s' c')
    (hend : c'.pastBlanks.head? = some 125) : ∃ ms, Takes (pairsFrom rounds first) c ms c' := by
  induction rounds generalizing c first s with
  | zero => exact ⟨[], takes_pure.2 ⟨rfl, (takes_pure.1 h).2⟩⟩
  | succ rounds ih =>
    obtain ⟨more, c₂, hmore, h⟩ := takes_bind.1 h
    simp only [pairsFrom, takes_bind_of_outcome hmore]
    cases more with
    | false => exact ⟨[], takes_pure.2 ⟨rfl, (takes_pure.1 h).2⟩⟩
    | true =>
      rw [if_pos rfl, takes_skip_bind] at h
      simp only [if_true, takes_skip_bind]
      obtain ⟨name, c₃, hname, h⟩ := takes_bind.1 h
      obtain ⟨s₁, c₄, hs₁, h⟩ := takes_bind.1 h
      obtain ⟨j, c₅, hj⟩ := (hstep name s).document hs₁
      simp only [takes_bind_of_outcome hname, takes_bind_of_outcome hj]
      cases hadd : add name j s with
      | some s₂ =>
        obtain ⟨rfl, rfl⟩ := hs₁.unique ((hstep name s).takes hj hadd)
        obtain ⟨ms, hms⟩ := ih h
        exact ⟨(name, j) :: ms, takes_bind.2 ⟨ms, c', hms, takes_pure.2 ⟨rfl, rfl⟩⟩⟩
      | none => exact (((hstep name s).jams hj hadd hs₁).not_ended h hend).elim

theorem takes_members_iff :
    Takes (members step s) c s' c' ↔
      Takes (membersFrom text step (c.bytes.length + 1) true s) c s' c' :=
  takes_unread_bind

theorem takes_pairs_iff :
    Takes pairs c ms c' ↔ Takes (pairsFrom (c.bytes.length + 1) true) c ms c' :=
  takes_unread_bind

section

variable {finish : σ → Reader α} {gives : σ → α → Prop} {a : α}

/-- **An object whose members are followed** gives what its members add up to. -/
theorem takes_inObject_iff
    (hstep : ∀ name s, Follows memberValue (step name s) fun j => add name j s)
    (hfinish : ∀ {s c a c'}, Takes (finish s) c a c' ↔ gives s a ∧ c' = c)
    (h : Takes (inObject pairs) c ms c') :
    Takes (inObject do finish (← members step s)) c a c₁ ↔
      (∃ s', ms.foldlM (fun s m => add m.1 m.2 s) s = some s' ∧ gives s' a) ∧ c₁ = c' := by
  obtain ⟨hroom, c₂, hpairs, hend, rfl⟩ := takes_inObject.1 h
  rw [takes_pairs_iff] at hpairs
  simp only [takes_inObject, takes_bind, takes_members_iff, hfinish]
  constructor
  · rintro ⟨-, c₃, ⟨s', c₄, hs', ha, rfl⟩, hended, rfl⟩
    obtain ⟨hfold, rfl⟩ := (takes_membersFrom_iff hstep hpairs hend).1 ⟨hs', hended⟩
    exact ⟨⟨s', hfold, ha⟩, rfl⟩
  · rintro ⟨⟨s', hfold, ha⟩, rfl⟩
    obtain ⟨hs', -⟩ := (takes_membersFrom_iff hstep hpairs hend).2 ⟨hfold, rfl⟩
    exact ⟨hroom, c₂, ⟨s', c₂, hs', ha, rfl⟩, hend, rfl⟩

theorem pairs_of_inObject
    (hstep : ∀ name s, Copies memberValue (step name s) fun j => add name j s)
    (hfinish : ∀ {s c a c'}, Takes (finish s) c a c' ↔ gives s a ∧ c' = c)
    (h : Takes (inObject do finish (← members step s)) c a c') :
    ∃ ms, Takes (inObject pairs) c ms c' := by
  obtain ⟨hroom, c₁, hcontent, hend, rfl⟩ := takes_inObject.1 h
  obtain ⟨s', c₂, hs', hgives⟩ := takes_bind.1 hcontent
  obtain ⟨-, rfl⟩ := hfinish.1 hgives
  obtain ⟨ms, hms⟩ := pairsFrom_of_membersFrom hstep (takes_members_iff.1 hs') hend
  exact ⟨ms, takes_inObject.2 ⟨hroom, _, takes_pairs_iff.2 hms, hend, rfl⟩⟩

end

end Reader

/-! ## Fields and what they take -/

/-- What each field of a record makes of a document. -/
abbrev Takers := Tuple fun α => Json → Option α

namespace Fields

/-- The names of the fields. -/
def names : (αs : List Type) → Fields αs → List String
  | [], _ => []
  | _ :: αs, (field, fields) => field.name :: names αs fields

/-- Something holds of the codec of every field. -/
def Every (P : {α : Type} → Reader α → (Json → Option α) → Prop) :
    (αs : List Type) → Fields αs → Takers αs → Prop
  | [], _, _ => True
  | _ :: αs, (field, fields), (f, fs) => P field.codec.read f ∧ Every P αs fields fs

/-- One more member: a field is filled once, and a member of another name is passed over. -/
def fill (name : String) (j : Json) :
    (αs : List Type) → Fields αs → Takers αs → Slots αs → Option (Slots αs)
  | [], _, _, slots => some slots
  | _ :: αs, (field, fields), (f, fs), (slot, slots) =>
    if field.name = name then
      (if slot.isSome then none else f j).map fun a => (some a, slots)
    else (fill name j αs fields fs slots).map fun slots => (slot, slots)

section

variable {α : Type} {field : RecordField α} {f : Json → Option α}

theorem readField_follows (h : Follows value field.codec.read f) (slot : Option α) :
    Follows memberValue (readField field slot) fun j => if slot.isSome then none else f j := by
  cases slot with
  | none => exact h.colon
  | some a =>
    refine ⟨nofun, fun _ _ hb => ?_⟩
    obtain ⟨_, _, hrefused, -⟩ := takes_bind.1 hb
    cases takes_reject hrefused

theorem readField_copies (h : Copies value field.codec.read f) (slot : Option α) :
    Copies memberValue (readField field slot) fun j => if slot.isSome then none else f j where
  toFollows := readField_follows h.toFollows slot
  document hb := by
    cases slot with
    | none => exact h.colon.document hb
    | some a =>
      obtain ⟨_, _, hrefused, -⟩ := takes_bind.1 hb
      cases takes_reject hrefused

end

theorem update_eq_none_iff {m : Type → Type} [Monad m]
    {take : {α : Type} → RecordField α → Option α → m α} {name : String} {αs : List Type}
    {fields : Fields αs} {slots : Slots αs} :
    update take name αs fields slots = none ↔ name ∉ names αs fields := by
  induction αs with
  | nil => exact iff_of_true rfl List.not_mem_nil
  | cons α αs ih =>
    obtain ⟨field, fields⟩ := fields
    obtain ⟨slot, slots⟩ := slots
    rw [update, names, List.mem_cons, not_or, @eq_comm _ name]
    split
    · next h => exact iff_of_false nofun fun hne => hne.1 h
    · next h =>
      exact Option.map_eq_none_iff.trans (ih.trans (and_iff_right h).symm)

section

variable {α : Type} {name : String} {j : Json} {field : RecordField α} {f : Json → Option α}
  {slot : Option α} {αs : List Type} {fields : Fields αs} {fs : Takers αs} {slots : Slots αs}

theorem fill_of_eq (h : field.name = name) :
    fill name j (α :: αs) (field, fields) (f, fs) (slot, slots) =
      (if slot.isSome then none else f j).map fun a => (some a, slots) :=
  if_pos h

theorem fill_of_ne (h : field.name ≠ name) :
    fill name j (α :: αs) (field, fields) (f, fs) (slot, slots) =
      (fill name j αs fields fs slots).map fun slots => (slot, slots) :=
  if_neg h

theorem fill_of_notMem (h : name ∉ names αs fields) :
    fill name j αs fields fs slots = some slots := by
  induction αs with
  | nil => rfl
  | cons α αs ih =>
    obtain ⟨field, fields⟩ := fields
    obtain ⟨f, fs⟩ := fs
    obtain ⟨slot, slots⟩ := slots
    rw [names, List.mem_cons, not_or] at h
    exact (fill_of_ne (Ne.symm h.1)).trans (congrArg _ (ih h.2))

end

/-- Taking a field fills its slot, whichever way the codecs of the fields are tied to what they
take, if the tie is kept by one field and by what is put around it. -/
theorem update_fill {P Q : {α : Type} → Reader α → (Json → Option α) → Prop}
    (hfield : ∀ {α : Type} {field : RecordField α} {f : Json → Option α}, P field.codec.read f →
      ∀ slot, Q (readField field slot) fun j => if slot.isSome then none else f j)
    (hmap : ∀ {α β : Type} {r : Reader α} {f : Json → Option α}, Q r f →
      ∀ g : α → β, Q (do return g (← r)) fun j => (f j).map g)
    {name : String} {αs : List Type} {fields : Fields αs} {fs : Takers αs} {slots : Slots αs}
    {step : Reader (Slots αs)} (hevery : Every P αs fields fs)
    (h : update readField name αs fields slots = some step) :
    Q step fun j => fill name j αs fields fs slots := by
  induction αs with
  | nil => cases h
  | cons α αs ih =>
    obtain ⟨field, fields⟩ := fields
    obtain ⟨f, fs⟩ := fs
    obtain ⟨slot, slots⟩ := slots
    rw [update] at h
    split at h
    · next hname =>
      cases h
      rw [show (fun j => fill name j (α :: αs) (field, fields) (f, fs) (slot, slots)) = _ from
        funext fun j => fill_of_eq hname]
      exact hmap (hfield hevery.1 slot) _
    · next hname =>
      obtain ⟨rest, hrest, rfl⟩ := Option.map_eq_some_iff.1 h
      rw [show (fun j => fill name j (α :: αs) (field, fields) (f, fs) (slot, slots)) = _ from
        funext fun j => fill_of_ne hname]
      exact hmap (ih hevery.2 hrest) _

section

variable {name : String} {αs : List Type} {fields : Fields αs} {fs : Takers αs}

/-- **One member of a record**: its field is filled, or it is skipped. -/
theorem readMember_follows (h : Every (Follows value) αs fields fs) (slots : Slots αs) :
    Follows memberValue (readMember αs fields name slots) fun j =>
      fill name j αs fields fs slots := by
  rw [readMember]
  split
  · next step hstep => exact update_fill readField_follows Follows.map h hstep
  · next hnone =>
    simp only [fill_of_notMem (update_eq_none_iff.1 hnone)]
    exact (skipValue_follows.map fun _ => slots).colon

/-- **One member of an open record**: its field is filled, or it is kept. -/
theorem readOpenMember_copies (h : Every (Copies value) αs fields fs) (name : String)
    (s : Slots αs × List (String × Json)) :
    Copies memberValue (Codec.readOpenMember αs fields name s) fun j =>
      if name ∈ names αs fields then (fill name j αs fields fs s.1).map fun slots => (slots, s.2)
      else some (s.1, insertMember name j s.2) := by
  rw [Codec.readOpenMember]
  split
  · next step hstep =>
    have hmem : name ∈ names αs fields := Decidable.byContradiction fun hnot => by
      rw [update_eq_none_iff.2 hnot] at hstep
      cases hstep
    simp only [if_pos hmem]
    exact (update_fill readField_copies Copies.map h hstep).map fun slots => (slots, s.2)
  · next hnone =>
    simp only [if_neg (update_eq_none_iff.1 hnone)]
    exact (Codec.any_copies.map fun j => (s.1, insertMember name j s.2)).colon

end

end Fields

/-! ## What members add up to -/

/-- The documents of one name among some members. -/
def valuesOf (name : String) (ms : List (String × Json)) : List Json :=
  (ms.filter (·.1 = name)).map Prod.snd

/-- A slot is filled by at most one document. -/
def FillsSlot {α : Type} (f : Json → Option α) (slot : Option α) (js : List Json)
    (slot' : Option α) : Prop :=
  js.foldlM (fun slot j => (if slot.isSome then none else f j).map some) slot = some slot'

theorem valuesOf_cons_of_eq {name : String} {m : String × Json} {ms : List (String × Json)}
    (h : m.1 = name) : valuesOf name (m :: ms) = m.2 :: valuesOf name ms := by
  rw [valuesOf, List.filter_cons_of_pos (by simpa using h)]
  rfl

theorem valuesOf_cons_of_ne {name : String} {m : String × Json} {ms : List (String × Json)}
    (h : m.1 ≠ name) : valuesOf name (m :: ms) = valuesOf name ms := by
  rw [valuesOf, List.filter_cons_of_neg (by simpa using h)]
  rfl

/-- A member that is put in is found under its name, and the others are left alone. -/
theorem lookup_insertMember {name other : String} {j : Json} {ms : List (String × Json)} :
    (insertMember name j ms).lookup other = if other = name then some j else ms.lookup other := by
  induction ms with
  | nil => grind [insertMember]
  | cons m ms ih =>
    rw [insertMember]
    split <;> grind

/-- Of the members of one name the last one counts. -/
theorem lookup_foldl_insertMember {name : String} {ms found : List (String × Json)} :
    (ms.foldl (fun sorted m => insertMember m.1 m.2 sorted) found).lookup name =
      (valuesOf name ms).getLast?.or (found.lookup name) := by
  induction ms generalizing found with
  | nil => rfl
  | cons m ms ih =>
    rw [List.foldl_cons, ih, lookup_insertMember]
    by_cases h : m.1 = name
    · rw [valuesOf_cons_of_eq h, if_pos h.symm, List.getLast?_cons]
      cases (valuesOf name ms).getLast? <;> rfl
    · rw [valuesOf_cons_of_ne h, if_neg (Ne.symm h)]

section

variable {α : Type} {f : Json → Option α} {slot slot' : Option α} {j : Json} {js : List Json}

theorem fillsSlot_nil : FillsSlot f slot [] slot' ↔ slot' = slot := by
  rw [FillsSlot, List.foldlM_nil]
  exact ⟨fun h => (Option.some.inj h).symm, fun h => h ▸ rfl⟩

theorem fillsSlot_cons :
    FillsSlot f slot (j :: js) slot' ↔
      ∃ a, slot = none ∧ f j = some a ∧ FillsSlot f (some a) js slot' := by
  rw [FillsSlot, List.foldlM_cons]
  cases slot with
  | some a => exact iff_of_false nofun fun ⟨_, h, _⟩ => nomatch h
  | none =>
    cases hj : f j with
    | none => simp
    | some a => simp [FillsSlot]

/-- **A slot is empty** without a document, and holds what its only document gives. -/
theorem fillsSlot_none_iff :
    FillsSlot f none js slot' ↔
      js = [] ∧ slot' = none ∨ ∃ j a, js = [j] ∧ f j = some a ∧ slot' = some a := by
  cases js with
  | nil => simp [fillsSlot_nil]
  | cons j js =>
    rw [fillsSlot_cons]
    cases js with
    | nil => simp [fillsSlot_nil]
    | cons j' js => simp [fillsSlot_cons]

theorem fillsSlot_some_iff {a : α} :
    FillsSlot f none js (some a) ↔ ∃ j, js = [j] ∧ f j = some a := by
  simp [fillsSlot_none_iff]

end

namespace Fields

variable {α : Type} {αs : List Type} {ms : List (String × Json)}

/-- **Each field is filled on its own** by the members of its name. -/
theorem fill_cons_iff {field : RecordField α} {f : Json → Option α} {slot slot' : Option α}
    {fields : Fields αs} {fs : Takers αs} {slots slots' : Slots αs}
    (hname : field.name ∉ names αs fields) :
    ms.foldlM (fun s m => fill m.1 m.2 (α :: αs) (field, fields) (f, fs) s) (slot, slots) =
        some (slot', slots') ↔
      FillsSlot f slot (valuesOf field.name ms) slot' ∧
        ms.foldlM (fun s m => fill m.1 m.2 αs fields fs s) slots = some slots' := by
  induction ms generalizing slot slots with
  | nil =>
    rw [show valuesOf field.name [] = [] from rfl, fillsSlot_nil]
    simp [eq_comm]
  | cons m ms ih =>
    rw [List.foldlM_cons, List.foldlM_cons]
    by_cases h : field.name = m.1
    · rw [fill_of_eq h, fill_of_notMem (h ▸ hname), valuesOf_cons_of_eq h.symm, fillsSlot_cons]
      cases slot with
      | some a => exact iff_of_false nofun fun ⟨⟨_, hnone, _⟩, _⟩ => nomatch hnone
      | none =>
        cases hj : f m.2 with
        | none => exact iff_of_false nofun fun ⟨⟨_, _, hsome, _⟩, _⟩ => nomatch hsome
        | some a =>
          refine ih.trans (and_congr_left fun _ => ?_)
          simp
    · rw [fill_of_ne h, valuesOf_cons_of_ne (Ne.symm h)]
      cases hfill : fill m.1 m.2 αs fields fs slots with
      | none => exact iff_of_false nofun fun h => nomatch h.2
      | some slots => exact ih

theorem fill_nil {fields : Fields []} {fs : Takers []} {slots : Slots []} :
    ms.foldlM (fun s m => fill m.1 m.2 [] fields fs s) slots = some slots := by
  induction ms with
  | nil => rfl
  | cons m ms ih => exact ih

/-- An open record fills its fields, and keeps every member of another name. -/
theorem fill_open_iff {fields : Fields αs} {fs : Takers αs}
    {s s' : Slots αs × List (String × Json)} :
    ms.foldlM (fun s m =>
        if m.1 ∈ names αs fields then
          (fill m.1 m.2 αs fields fs s.1).map fun slots => (slots, s.2)
        else some (s.1, insertMember m.1 m.2 s.2)) s = some s' ↔
      ms.foldlM (fun s m => fill m.1 m.2 αs fields fs s) s.1 = some s'.1 ∧
        (ms.filter (·.1 ∉ names αs fields)).foldl
          (fun sorted m => insertMember m.1 m.2 sorted) s.2 = s'.2 := by
  induction ms generalizing s with
  | nil => simp [Prod.ext_iff]
  | cons m ms ih =>
    rw [List.foldlM_cons, List.foldlM_cons]
    by_cases h : m.1 ∈ names αs fields
    · rw [if_pos h, List.filter_cons_of_neg (by simpa using h)]
      cases fill m.1 m.2 αs fields fs s.1 with
      | none => exact iff_of_false nofun fun h => nomatch h.1
      | some slots => exact ih
    · rw [if_neg h, List.filter_cons_of_pos (by simpa using h), fill_of_notMem h]
      exact ih

end Fields

/-! ## Records -/

namespace Codec

variable {β : Type} {αs : List Type} {fields : Fields αs} {fs : Takers αs} {c c' c₁ : Cursor}
  {ms : List (String × Json)} {b : β}

theorem takes_written_iff :
    Takes written.read c ms c' ↔
      c.pastBlanks.head? = some '{'.toUInt8 ∧ Takes (inObject pairs) c.pastBlanks ms c' := by
  rw [written, takes_opening_bind]
  constructor
  · rintro ⟨b, hb, h⟩
    split at h
    · next hbrace => exact ⟨hbrace ▸ hb, h⟩
    · cases takes_mismatch h
  · rintro ⟨hb, h⟩
    exact ⟨_, hb, h⟩

/-- **A record is read from the members of an object**, as far as its fields can be filled. -/
theorem takes_record_iff {name : String} {build : Values αs → β} {view : β → Values αs}
    (hfields : Fields.Every (Follows value) αs fields fs) (h : Takes written.read c ms c') :
    Takes (record name fields build view).read c b c₁ ↔
      (∃ slots values,
        ms.foldlM (fun s m => Fields.fill m.1 m.2 αs fields fs s) (Fields.noSlots αs) = some slots ∧
          Fields.complete αs fields slots = .ok values ∧ b = build values) ∧ c₁ = c' := by
  obtain ⟨hbrace, h⟩ := takes_written_iff.1 h
  rw [record, takes_map]
  simp only [readRecord, takes_opening_bind, hbrace, Option.some.injEq, exists_eq_left', if_true]
  simp only [takes_inObject_iff (fun name s => Fields.readMember_follows hfields s)
    takes_ofDecoded h]
  constructor
  · rintro ⟨values, ⟨⟨slots, hslots, hvalues⟩, rfl⟩, rfl⟩
    exact ⟨⟨slots, values, hslots, hvalues, rfl⟩, rfl⟩
  · rintro ⟨⟨slots, values, hslots, hvalues, rfl⟩, rfl⟩
    exact ⟨values, ⟨⟨slots, hslots, hvalues⟩, rfl⟩, rfl⟩

/-- **An open record is read from the members of an object**: some fill its fields, the others are
kept. -/
theorem takes_openRecord_iff {name : String} {build : Values αs → List (String × Json) → β}
    {view : β → Values αs × List (String × Json)}
    (hfields : Fields.Every (Copies value) αs fields fs) :
    Takes (openRecord name fields build view).read c b c' ↔
      ∃ ms slots values, Takes written.read c ms c' ∧
        ms.foldlM (fun s m => Fields.fill m.1 m.2 αs fields fs s) (Fields.noSlots αs) = some slots ∧
          Fields.complete αs fields slots = .ok values ∧
            b = build values ((ms.filter (·.1 ∉ Fields.names αs fields)).foldl
              (fun sorted m => insertMember m.1 m.2 sorted) []) := by
  have hstep := Fields.readOpenMember_copies hfields
  have hfinish {s : Slots αs × List (String × Json)} {c c' : Cursor} {b : β} :
      Takes (do return build (← ofDecoded (Fields.complete αs fields s.1)) s.2) c b c' ↔
        (∃ values, Fields.complete αs fields s.1 = .ok values ∧ b = build values s.2) ∧ c' = c := by
    rw [takes_bind]
    simp only [takes_ofDecoded, takes_pure]
    constructor
    · rintro ⟨values, _, ⟨hvalues, rfl⟩, rfl, rfl⟩
      exact ⟨⟨values, hvalues, rfl⟩, rfl⟩
    · rintro ⟨⟨values, hvalues, rfl⟩, rfl⟩
      exact ⟨values, _, ⟨hvalues, rfl⟩, rfl, rfl⟩
  simp only [openRecord, takes_opening_bind, takes_written_iff]
  constructor
  · rintro ⟨x, hx, h⟩
    split at h
    · next hbrace =>
      obtain ⟨ms, hms⟩ := pairs_of_inObject hstep hfinish h
      obtain ⟨⟨s, hs, values, hvalues, rfl⟩, -⟩ :=
        (takes_inObject_iff (fun name s => (hstep name s).toFollows) hfinish hms).1 h
      obtain ⟨hslots, hothers⟩ := Fields.fill_open_iff.1 hs
      exact ⟨ms, s.1, values, ⟨hbrace ▸ hx, hms⟩, hslots, hvalues, by rw [hothers]⟩
    · cases takes_mismatch h
  · rintro ⟨ms, slots, values, ⟨hbrace, hms⟩, hslots, hvalues, rfl⟩
    refine ⟨_, hbrace, ?_⟩
    rw [if_pos rfl]
    refine (takes_inObject_iff (fun name s => (hstep name s).toFollows) hfinish hms).2
      ⟨⟨(slots, _), ?_, values, hvalues, rfl⟩, rfl⟩
    exact Fields.fill_open_iff.2 ⟨hslots, rfl⟩

end Codec

end RelationGate.Json
