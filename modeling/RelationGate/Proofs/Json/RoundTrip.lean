import Mathlib.Data.List.Sort
import Mathlib.Data.String.Basic
import RelationGate.Proofs.Json.Members
import RelationGate.Proofs.Outcome

/-!
# What is written is taken back

A codec round-trips if every value is taken back from the document that it is written as
(`Codec.RoundTrips`). Codecs are put together from codecs, so it is enough to know that every way
of putting them together keeps this.

* A record is written as the members of some of its fields and taken back member by member.
  No two fields share a name, so the order of the members does not matter
  (`Fields.takeOpen_given`). A field that is left out has to be known without its member
  (`RecordField.Recovers`, `Codec.record_roundTrips`).
* An optional field recovers what it holds if that is never written as null
  (`RecordField.optional_recovers`): a missing value is left out, and an empty one is not.
* An open record recovers its other members if they stand in the order of their names and under
  the name of no field (`Codec.openRecord_recovers`), as they do once it has been taken
  (`Codec.openRecord_decode`).
-/

namespace RelationGate.Json

/-! ## Members in order -/

/-- Members stand in the order of their names, each name once. -/
def InOrder (ms : List (String × Json)) : Prop := ms.Pairwise (·.1 < ·.1)

/-- A document that is an object has its members in order. -/
def Ordered : Json → Prop
  | .obj ms => InOrder ms
  | _ => True

section

variable {name : String} {j : Json} {ms found : List (String × Json)}

theorem insertMember_perm (h : name ∉ ms.map Prod.fst) :
    (insertMember name j ms).Perm ((name, j) :: ms) := by
  induction ms with
  | nil => exact .refl _
  | cons m ms ih =>
    rw [List.map_cons, List.mem_cons, not_or] at h
    rw [insertMember, if_neg h.1]
    split
    · exact .refl _
    · exact ((ih h.2).cons m).trans (.swap _ _ _)

/-- Members of different names are put in order and stay what they are. -/
theorem foldl_insertMember_perm (h : ((ms ++ found).map Prod.fst).Nodup) :
    (ms.foldl (fun sorted m => insertMember m.1 m.2 sorted) found).Perm (ms ++ found) := by
  induction ms generalizing found with
  | nil => exact .refl _
  | cons m ms ih =>
    rw [List.cons_append, List.map_cons, List.nodup_cons] at h
    have hfound : m.1 ∉ found.map Prod.fst := by
      intro hmem
      exact h.1 (by simp only [List.map_append, List.mem_append, hmem, or_true])
    have hperm : (ms ++ insertMember m.1 m.2 found).Perm (m :: (ms ++ found)) :=
      ((insertMember_perm hfound).append_left ms).trans List.perm_middle
    have hnodup : ((ms ++ insertMember m.1 m.2 found).map Prod.fst).Nodup :=
      (hperm.map Prod.fst).nodup_iff.2 (List.nodup_cons.2 h)
    exact (ih hnodup).trans hperm

theorem mem_of_mem_insertMember {m : String × Json} (h : m ∈ insertMember name j ms) :
    m = (name, j) ∨ m ∈ ms := by
  induction ms with
  | nil => simpa [insertMember] using h
  | cons m' ms ih =>
    rw [insertMember] at h
    split_ifs at h
    · rcases List.mem_cons.1 h with rfl | h
      · exact .inl rfl
      · exact .inr (List.mem_cons_of_mem _ h)
    · simpa using h
    · rcases List.mem_cons.1 h with rfl | h
      · exact .inr List.mem_cons_self
      · exact (ih h).imp_right (List.mem_cons_of_mem _)

theorem insertMember_inOrder (h : InOrder ms) : InOrder (insertMember name j ms) := by
  induction ms with
  | nil => simp [insertMember, InOrder]
  | cons m ms ih =>
    obtain ⟨hm, hms⟩ := List.pairwise_cons.1 h
    rw [insertMember]
    split_ifs with hsame hbefore
    · exact List.pairwise_cons.2 ⟨fun n hn => hsame ▸ hm n hn, hms⟩
    · refine List.pairwise_cons.2 ⟨?_, h⟩
      intro n hn
      rcases List.mem_cons.1 hn with rfl | hn
      · exact hbefore
      · exact hbefore.trans (hm n hn)
    · have hafter : m.1 < name := lt_of_le_of_ne (not_lt.1 hbefore) (Ne.symm hsame)
      refine List.pairwise_cons.2 ⟨?_, ih hms⟩
      intro n hn
      rcases mem_of_mem_insertMember hn with rfl | hn
      · exact hafter
      · exact hm n hn

theorem foldl_insertMember_inOrder (h : InOrder found) :
    InOrder (ms.foldl (fun sorted m => insertMember m.1 m.2 sorted) found) := by
  induction ms generalizing found with
  | nil => exact h
  | cons m ms ih => exact ih (insertMember_inOrder h)

theorem mem_of_mem_foldl_insertMember {m : String × Json}
    (h : m ∈ ms.foldl (fun sorted m => insertMember m.1 m.2 sorted) found) :
    m ∈ ms ∨ m ∈ found := by
  induction ms generalizing found with
  | nil => exact .inr h
  | cons m' ms ih =>
    rcases ih h with hm | hm
    · exact .inl (List.mem_cons_of_mem _ hm)
    · rcases mem_of_mem_insertMember hm with rfl | hm
      · exact .inl List.mem_cons_self
      · exact .inr hm

theorem InOrder.nodup (h : InOrder ms) : (ms.map Prod.fst).Nodup :=
  List.pairwise_map.2 (h.imp ne_of_lt)

theorem InOrder.filter {p : String × Json → Bool} (h : InOrder ms) : InOrder (ms.filter p) :=
  List.Pairwise.filter p h

/-- **Members of different names make an object** that holds them in order. -/
theorem ofMembers_eq_obj (h : (ms.map Prod.fst).Nodup) :
    ∃ sorted, ofMembers ms = .obj sorted ∧ InOrder sorted ∧ sorted.Perm ms := by
  have hnodup : ((ms ++ []).map Prod.fst).Nodup := by rwa [List.append_nil]
  refine ⟨_, rfl, foldl_insertMember_inOrder .nil, ?_⟩
  simpa using foldl_insertMember_perm hnodup

/-- Members are put in order in one way. -/
theorem InOrder.eq_of_perm {ms' : List (String × Json)} (h : InOrder ms) (h' : InOrder ms')
    (hperm : ms.Perm ms') : ms = ms' :=
  hperm.eq_of_pairwise (fun _ _ _ _ hlt hgt => absurd hgt (lt_asymm hlt)) h h'

end

/-! ## Values, names and choices -/

namespace Codec

variable {α β : Type}

/-- Every value is taken back from the document that it is written as. -/
def RoundTrips (c : Codec α) : Prop := ∀ a, c.decode (c.encode a) = .ok a

/-- No value is written as null. -/
def NeverNull (c : Codec α) : Prop := ∀ a, c.encode a ≠ .null

variable {c : Codec α}

/-- **Different values are written as different documents.** -/
theorem RoundTrips.injective (h : c.RoundTrips) : Function.Injective c.encode := by
  intro a b hab
  have hdecode := h a
  rw [hab, h b] at hdecode
  exact (Except.ok.inj hdecode).symm

theorem RoundTrips.map (h : c.RoundTrips) {build : α → β} {view : β → α}
    (hbuild : ∀ b, build (view b) = b) : (c.map build view).RoundTrips := by
  intro b
  show build <$> c.decode (c.encode (view b)) = .ok b
  rw [h (view b)]
  exact congrArg Except.ok (hbuild b)

theorem text_roundTrips : text.RoundTrips := fun _ => rfl

theorem natBelow_nat {kind : String} {bound n : Nat} (h : n < bound) :
    natBelow kind bound (.nat n) = .ok n := by
  rw [Json.nat, natBelow, if_pos ⟨Int.natCast_nonneg n, Int.ofNat_lt.2 h⟩, Int.toNat_natCast]

/-- Words are natural numbers below a bound. -/
theorem unsigned_map_roundTrips {kind : String} {bound : Nat} {build : Nat → α} {view : α → Nat}
    (hbound : ∀ a, view a < bound) (hbuild : ∀ a, build (view a) = a) :
    ((unsigned kind bound).map build view).RoundTrips :=
  fun a => by
    show build <$> natBelow kind bound (.nat (view a)) = .ok a
    rw [natBelow_nat (hbound a)]
    exact congrArg Except.ok (hbuild a)

theorem word32_roundTrips : word32.RoundTrips :=
  unsigned_map_roundTrips UInt32.toNat_lt_size fun _ => UInt32.ofNat_toNat

theorem word64_roundTrips : word64.RoundTrips :=
  unsigned_map_roundTrips UInt64.toNat_lt_size fun _ => UInt64.ofNat_toNat

theorem RoundTrips.list (h : c.RoundTrips) : c.list.RoundTrips := by
  intro xs
  show (xs.map c.encode).mapM c.decode = .ok xs
  induction xs with
  | nil => rfl
  | cons x xs ih =>
    rw [List.map_cons, List.mapM_cons, h x, ok_bind, ih]
    rfl

theorem optional_decode_of_ne {j : Json} (h : j ≠ .null) :
    c.optional.decode j = some <$> c.decode j := by
  cases j with
  | null => exact absurd rfl h
  | _ => rfl

theorem choice_roundTrips {names : List (String × α)} {nameOf : α → String}
    (h : ∀ a, names.lookup (nameOf a) = some a) : (choice names nameOf).RoundTrips := by
  intro a
  show pick names (nameOf a) = .ok a
  rw [pick, h a]

/-- A tagged choice is written as an object of its tag and its content. -/
theorem Tagged.encode_eq {t : Tagged α} (hnames : t.tag ≠ t.content) (a : α) :
    ∃ ms, t.codec.encode a = .obj ms ∧ ms.lookup t.tag = some (.str (t.view a).1) ∧
      ms.lookup t.content = (t.view a).2 := by
  cases hview : t.view a with
  | mk name content =>
    cases content with
    | none =>
      refine ⟨insertMember t.tag (.str name) [], ?_, ?_, ?_⟩
      · simp [codec, hview, ofMembers]
      · simp [lookup_insertMember]
      · simp [lookup_insertMember, hnames.symm]
    | some j =>
      refine ⟨insertMember t.content j (insertMember t.tag (.str name) []), ?_, ?_, ?_⟩
      · simp [codec, hview, ofMembers]
      · simp [lookup_insertMember, hnames]
      · simp [lookup_insertMember]

/-- **A tagged choice** round-trips if the content of every value is taken back by the branch that
its tag names. -/
theorem Tagged.codec_roundTrips {t : Tagged α} (hnames : t.tag ≠ t.content)
    (h : ∀ a, ∃ b, t.branches.lookup (t.view a).1 = some b ∧
      (t.view a).2.elim (b.withoutContent t.content) b.decode = .ok a) :
    t.codec.RoundTrips := by
  intro a
  obtain ⟨b, hbranch, hcontent⟩ := h a
  obtain ⟨ms, hencode, htag, hlookup⟩ := encode_eq hnames a
  have hpick : decodeName t.branches (.str (t.view a).1) = .ok b := by
    rw [decodeName, pick, hbranch]
  show t.decode (t.codec.encode a) = .ok a
  simp only [hencode, Tagged.decode, htag, hpick, ok_bind, hlookup]
  cases hview : (t.view a).2 with
  | none => simpa [hview] using hcontent
  | some j => simpa [hview] using hcontent

end Codec

/-! ## Fields -/

/-- A field is taken back: a value that is written from its document, and a value that is left out
without one. -/
structure RecordField.Recovers {α : Type} (field : RecordField α) : Prop where
  taken : ∀ a, field.written a = true → field.codec.decode (field.codec.encode a) = .ok a
  omitted : ∀ a, field.written a = false → field.absent = some a

namespace RecordField

variable {α : Type} {name : String} {c : Codec α}

theorem required_recovers (h : c.RoundTrips) : (required name c).Recovers :=
  ⟨fun a _ => h a, nofun⟩

theorem defaulted_recovers {default : α} (h : c.RoundTrips) :
    (defaulted name c default).Recovers :=
  ⟨fun a _ => h a, nofun⟩

/-- **An optional field** tells a missing value from every value that is never written as null. -/
theorem optional_recovers (h : c.RoundTrips) (hnull : c.NeverNull) :
    (optional name c).Recovers where
  taken o ho := by
    obtain ⟨a, rfl⟩ := Option.isSome_iff_exists.1 ho
    show c.optional.decode (c.encode a) = .ok (some a)
    rw [Codec.optional_decode_of_ne (hnull a), h a]
    rfl
  omitted o ho := by
    cases o with
    | none => rfl
    | some a => cases ho

end RecordField

namespace Fields

/-- Every field is taken back, and each has a name of its own. -/
def Recovers : (αs : List Type) → Fields αs → Prop
  | [], _ => True
  | _ :: αs, (field, fields) => field.Recovers ∧ field.name ∉ names αs fields ∧ Recovers αs fields

/-- A document under a name is what the field of this name takes its value from. -/
def Yields (name : String) (j : Json) : (αs : List Type) → Fields αs → Values αs → Prop
  | [], _, _ => True
  | _ :: αs, (field, fields), (a, values) =>
    (field.name = name → field.codec.decode j = .ok a) ∧ Yields name j αs fields values

/-- The slots once the members of some names have been taken. -/
def given (seen : List String) : (αs : List Type) → Fields αs → Values αs → Slots αs
  | [], _, _ => ()
  | _ :: αs, (field, fields), (a, values) =>
    (if field.name ∈ seen then some a else none, given seen αs fields values)

variable {αs : List Type} {fields : Fields αs} {values : Values αs} {name : String} {j : Json}
  {seen : List String}

theorem given_nil : given [] αs fields values = noSlots αs := by
  induction αs with
  | nil => rfl
  | cons α αs ih => simp [given, noSlots, ih]

/-- A name of no field fills no slot. -/
theorem given_append_of_notMem (h : name ∉ names αs fields) :
    given (seen ++ [name]) αs fields values = given seen αs fields values := by
  induction αs with
  | nil => rfl
  | cons α αs ih =>
    obtain ⟨field, fields⟩ := fields
    obtain ⟨a, values⟩ := values
    rw [names, List.mem_cons, not_or] at h
    simp [given, ih h.2, Ne.symm h.1]

theorem yields_of_notMem (h : name ∉ names αs fields) : Yields name j αs fields values := by
  induction αs with
  | nil => trivial
  | cons α αs ih =>
    obtain ⟨field, fields⟩ := fields
    obtain ⟨a, values⟩ := values
    rw [names, List.mem_cons, not_or] at h
    exact ⟨fun hname => absurd hname.symm h.1, ih h.2⟩

/-- **One member is taken**: the field of its name is filled. -/
theorem update_given {step : Except Fault (Slots αs)} (hfields : Recovers αs fields)
    (hyields : Yields name j αs fields values)
    (hstep : update (fun field _ => field.codec.decode j) name αs fields
      (given seen αs fields values) = some step) :
    step = .ok (given (seen ++ [name]) αs fields values) := by
  induction αs with
  | nil => cases hstep
  | cons α αs ih =>
    obtain ⟨field, fields⟩ := fields
    obtain ⟨a, values⟩ := values
    obtain ⟨-, hname, hfields⟩ := hfields
    obtain ⟨ha, hyields⟩ := hyields
    rw [given, update] at hstep
    split at hstep
    · next hsame =>
      rw [← Option.some.inj hstep, ha hsame, ok_bind, given, if_pos (by simp [hsame]),
        given_append_of_notMem (hsame ▸ hname)]
      rfl
    · next hother =>
      obtain ⟨rest, hrest, rfl⟩ := Option.map_eq_some_iff.1 hstep
      rw [ih hfields hyields hrest, given]
      simp only [List.mem_append, List.mem_singleton, hother, or_false]
      rfl

/-- **All members are taken**: the fields of their names are filled, and the others are kept. -/
theorem takeOpen_given {ms : List (String × Json)} (hfields : Recovers αs fields)
    (hyields : ∀ m ∈ ms, Yields m.1 m.2 αs fields values) :
    Codec.takeOpen αs fields ms (given seen αs fields values) =
      .ok (given (seen ++ ms.map Prod.fst) αs fields values,
        ms.filter (·.1 ∉ names αs fields)) := by
  induction ms generalizing seen with
  | nil => simp [Codec.takeOpen]
  | cons m ms ih =>
    obtain ⟨hm, hms⟩ := List.forall_mem_cons.1 hyields
    rw [Codec.takeOpen]
    split
    · next step hstep =>
      have hmem : m.1 ∈ names αs fields := by
        by_contra hnot
        rw [update_eq_none_iff.2 hnot] at hstep
        cases hstep
      rw [update_given hfields hm hstep, ok_bind, ih hms, List.filter_cons_of_neg (by simpa)]
      simp
    · next hnone =>
      have hnot := update_eq_none_iff.1 hnone
      rw [← given_append_of_notMem hnot, ih hms, ok_bind, List.filter_cons_of_pos (by simpa)]
      simp [pure, Except.pure]

/-- The members of a record are taken from those of an open one. -/
theorem takeMembers_eq_map {ms : List (String × Json)} {slots : Slots αs} :
    takeMembers αs fields ms slots = Prod.fst <$> Codec.takeOpen αs fields ms slots := by
  induction ms generalizing slots with
  | nil => rfl
  | cons m ms ih =>
    rw [takeMembers, Codec.takeOpen]
    split
    · next step _ =>
      cases step with
      | error e => rfl
      | ok slots => exact ih
    · rw [ih]
      cases Codec.takeOpen αs fields ms slots <;> rfl

/-- What is kept are the members of other names. -/
theorem takeOpen_others {ms others : List (String × Json)} {slots slots' : Slots αs}
    (h : Codec.takeOpen αs fields ms slots = .ok (slots', others)) :
    others = ms.filter (·.1 ∉ names αs fields) := by
  induction ms generalizing slots others with
  | nil =>
    cases h
    rfl
  | cons m ms ih =>
    rw [Codec.takeOpen] at h
    split at h
    · next step hstep =>
      have hmem : m.1 ∈ names αs fields := by
        by_contra hnot
        rw [update_eq_none_iff.2 hnot] at hstep
        cases hstep
      obtain ⟨slots₁, -, h⟩ := bind_eq_ok_iff.1 h
      rw [ih h, List.filter_cons_of_neg (by simpa)]
    · next hnone =>
      obtain ⟨⟨slots₁, others₁⟩, htake, h⟩ := bind_eq_ok_iff.1 h
      cases h
      rw [ih htake, List.filter_cons_of_pos (by simpa using update_eq_none_iff.1 hnone)]

/-! ## What is written of the fields -/

theorem name_mem_of_mem_encodeMembers {m : String × Json}
    (h : m ∈ encodeMembers αs fields values) : m.1 ∈ names αs fields := by
  induction αs with
  | nil => cases h
  | cons α αs ih =>
    obtain ⟨field, fields⟩ := fields
    obtain ⟨a, values⟩ := values
    simp only [encodeMembers] at h
    split at h
    · rcases List.mem_cons.1 h with rfl | h
      · exact List.mem_cons_self
      · exact List.mem_cons_of_mem _ (ih h)
    · exact List.mem_cons_of_mem _ (ih h)

theorem nodup_encodeMembers (h : Recovers αs fields) :
    ((encodeMembers αs fields values).map Prod.fst).Nodup := by
  induction αs with
  | nil => exact List.nodup_nil
  | cons α αs ih =>
    obtain ⟨field, fields⟩ := fields
    obtain ⟨a, values⟩ := values
    obtain ⟨-, hname, hfields⟩ := h
    simp only [encodeMembers]
    split
    · refine List.nodup_cons.2 ⟨?_, ih hfields⟩
      intro hmem
      obtain ⟨m, hm, hsame⟩ := List.mem_map.1 hmem
      have hm' := name_mem_of_mem_encodeMembers hm
      rw [hsame] at hm'
      exact hname hm'
    · exact ih hfields

/-- **Every written member** is what its field takes its value from. -/
theorem yields_encodeMembers (h : Recovers αs fields) :
    ∀ m ∈ encodeMembers αs fields values, Yields m.1 m.2 αs fields values := by
  induction αs with
  | nil => exact fun _ _ => trivial
  | cons α αs ih =>
    obtain ⟨field, fields⟩ := fields
    obtain ⟨a, values⟩ := values
    obtain ⟨hfield, hname, hfields⟩ := h
    have hothers : ∀ m ∈ encodeMembers αs fields values,
        Yields m.1 m.2 (α :: αs) (field, fields) (a, values) := by
      intro m hm
      refine ⟨fun hsame => ?_, ih hfields m hm⟩
      exact absurd (hsame ▸ name_mem_of_mem_encodeMembers hm) hname
    simp only [encodeMembers]
    split
    · next hwritten =>
      exact List.forall_mem_cons.2
        ⟨⟨fun _ => hfield.taken a hwritten, yields_of_notMem hname⟩, hothers⟩
    · exact hothers

/-- **Every value is there** once the written members have been taken: what is left out is known. -/
theorem complete_given (h : Recovers αs fields)
    (hseen : ∀ m ∈ encodeMembers αs fields values, m.1 ∈ seen) :
    complete αs fields (given seen αs fields values) = .ok values := by
  induction αs with
  | nil => rfl
  | cons α αs ih =>
    obtain ⟨field, fields⟩ := fields
    obtain ⟨a, values⟩ := values
    obtain ⟨hfield, -, hfields⟩ := h
    have hothers : ∀ m ∈ encodeMembers αs fields values, m.1 ∈ seen := by
      intro m hm
      refine hseen m ?_
      simp only [encodeMembers]
      split
      · exact List.mem_cons_of_mem _ hm
      · exact hm
    have hhead : ((if field.name ∈ seen then some a else none : Option α) <|> field.absent) =
        some a := by
      split
      · rfl
      · next hunseen =>
        refine hfield.omitted a (Bool.eq_false_iff.2 fun hwritten => hunseen ?_)
        exact hseen (field.name, field.codec.encode a) (by simp [encodeMembers, hwritten])
    simp only [complete, given, hhead, ih hfields hothers, ok_bind]
    rfl

/-- **What is written is taken back**, in whatever order and among members of other names. -/
theorem takeOpen_written {ms others : List (String × Json)} (h : Recovers αs fields)
    (hothers : ∀ m ∈ others, m.1 ∉ names αs fields)
    (hperm : ms.Perm (encodeMembers αs fields values ++ others)) :
    ∃ slots, Codec.takeOpen αs fields ms (noSlots αs) =
        .ok (slots, ms.filter (·.1 ∉ names αs fields)) ∧
      complete αs fields slots = .ok values := by
  have hyields : ∀ m ∈ ms, Yields m.1 m.2 αs fields values := by
    intro m hm
    rcases List.mem_append.1 (hperm.mem_iff.1 hm) with hm | hm
    · exact yields_encodeMembers h m hm
    · exact yields_of_notMem (hothers m hm)
  have htake : Codec.takeOpen αs fields ms (given [] αs fields values) = _ :=
    takeOpen_given h hyields
  rw [given_nil, List.nil_append] at htake
  refine ⟨_, htake, complete_given h ?_⟩
  intro m hm
  exact List.mem_map_of_mem (hperm.mem_iff.2 (List.mem_append_left _ hm))

end Fields

/-! ## Records -/

namespace Codec

variable {β : Type} {name : String} {αs : List Type} {fields : Fields αs}

/-- **A record round-trips** if its fields are taken back. -/
theorem record_roundTrips {build : Values αs → β} {view : β → Values αs}
    (hfields : Fields.Recovers αs fields) (hbuild : ∀ b, build (view b) = b) :
    (record name fields build view).RoundTrips := by
  intro b
  have hnodup : ((Fields.encodeMembers αs fields (view b)).map Prod.fst).Nodup :=
    Fields.nodup_encodeMembers hfields
  obtain ⟨sorted, hobject, -, hperm⟩ := ofMembers_eq_obj hnodup
  have hwritten : sorted.Perm (Fields.encodeMembers αs fields (view b) ++ []) := by
    rwa [List.append_nil]
  obtain ⟨slots, htake, hcomplete⟩ :=
    Fields.takeOpen_written hfields (List.forall_mem_nil _) hwritten
  show build <$> decodeRecord name fields (ofMembers (Fields.encodeMembers αs fields (view b))) = _
  rw [hobject, decodeRecord, Fields.takeMembers_eq_map, htake]
  show build <$> Fields.complete αs fields slots = _
  rw [hcomplete]
  exact congrArg Except.ok (hbuild b)

section

variable {build : Values αs → List (String × Json) → β}
  {view : β → Values αs × List (String × Json)} {b : β}

/-- **An open record is taken back** if its other members stand in order and under other names. -/
theorem openRecord_recovers (hfields : Fields.Recovers αs fields)
    (hbuild : build (view b).1 (view b).2 = b) (horder : InOrder (view b).2)
    (hothers : ∀ m ∈ (view b).2, m.1 ∉ Fields.names αs fields) :
    (openRecord name fields build view).decode ((openRecord name fields build view).encode b) =
      .ok b := by
  have hnodup : ((Fields.encodeMembers αs fields (view b).1 ++ (view b).2).map Prod.fst).Nodup := by
    rw [List.map_append]
    refine List.Nodup.append (Fields.nodup_encodeMembers hfields) horder.nodup ?_
    intro n hn hn'
    obtain ⟨m, hm, rfl⟩ := List.mem_map.1 hn
    obtain ⟨m', hm', hsame⟩ := List.mem_map.1 hn'
    exact hothers m' hm' (hsame ▸ Fields.name_mem_of_mem_encodeMembers hm)
  obtain ⟨sorted, hobject, hsorted, hperm⟩ := ofMembers_eq_obj hnodup
  obtain ⟨slots, htake, hcomplete⟩ := Fields.takeOpen_written hfields hothers hperm
  -- The members of the fields are filtered out again, and the others stand in order as before.
  have hkept : sorted.filter (·.1 ∉ Fields.names αs fields) = (view b).2 := by
    refine hsorted.filter.eq_of_perm horder ((hperm.filter _).trans ?_)
    rw [List.filter_append, List.filter_eq_nil_iff.2, List.nil_append, List.filter_eq_self.2]
    · simpa using hothers
    · intro m hm
      simpa using Fields.name_mem_of_mem_encodeMembers hm
  show (openRecord name fields build view).decode
    (ofMembers (Fields.encodeMembers αs fields (view b).1 ++ (view b).2)) = .ok b
  rw [hobject]
  show takeOpen αs fields sorted (Fields.noSlots αs) >>= _ = .ok b
  rw [htake, ok_bind, hkept]
  simp only [hcomplete, ok_bind]
  exact congrArg Except.ok hbuild

/-- **An open record that has been taken** keeps the members of other names. -/
theorem openRecord_decode {j : Json}
    (h : (openRecord name fields build view).decode j = .ok b) :
    ∃ ms values, j = .obj ms ∧
      b = build values (ms.filter (·.1 ∉ Fields.names αs fields)) := by
  cases j with
  | obj ms =>
    obtain ⟨⟨slots, others⟩, htake, h⟩ := bind_eq_ok_iff.1 h
    obtain ⟨values, -, h⟩ := bind_eq_ok_iff.1 h
    cases h
    exact ⟨ms, values, rfl, by rw [Fields.takeOpen_others htake]⟩
  | _ => cases h

end

end Codec

end RelationGate.Json
