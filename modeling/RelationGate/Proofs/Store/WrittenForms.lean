import Mathlib.Data.Set.Function
import RelationGate.Proofs.Store.Agreement
import RelationGate.Proofs.Store.Batches

/-!
# Written forms

The written form `type:id#relation@type:id#relation` of a relationship, whose last part may be
missing, is put together with separators that the naming rules keep out of the parts in front of
them: a type has no colon, an object no hash, a relation no at sign. So a text is cut in one way
(`eq_of_append_cons_eq`), and what is valid is known by its text.

* `ObjectRef.hash_notMem_text`: an id may hold almost any character, but no separator.
* `conflict_names_one`: a batch is refused for a conflict under the text of one relationship, and no
  other one that is valid or stored has this text. A repeat within the batch need not be stored
  (`conflict_within_batch`).
-/

namespace RelationGate

/-! ## Separators -/

/-- A list is cut in one way in front of the first separator. -/
theorem eq_of_append_cons_eq {α : Type} {a : α} {x y z w : List α} (hx : a ∉ x) (hy : a ∉ y)
    (h : x ++ a :: z = y ++ a :: w) : x = y ∧ z = w := by
  induction x generalizing y with
  | nil =>
    cases y with
    | nil => simpa using h
    | cons b y =>
      simp only [List.nil_append, List.cons_append, List.cons.injEq] at h
      exact absurd (h.1 ▸ List.mem_cons_self) hy
  | cons b x ih =>
    cases y with
    | nil =>
      simp only [List.nil_append, List.cons_append, List.cons.injEq] at h
      exact absurd (h.1 ▸ List.mem_cons_self) hx
    | cons c y =>
      simp only [List.cons_append, List.cons.injEq] at h
      rw [List.mem_cons, not_or] at hx hy
      obtain ⟨rfl, hrest⟩ := h
      obtain ⟨rfl, rfl⟩ := ih hx.2 hy.2 hrest
      exact ⟨rfl, rfl⟩

/-! ## What a name does not hold -/

/-- A name holds no character that is neither a letter nor in the class of its later ones. -/
theorem notMem_of_isNameOf {later : Char → Bool} {c : Char} {cs : List Char}
    (h : isNameOf later cs = true) (hletter : isLowerLetter c = false) (hlater : later c = false) :
    c ∉ cs := by
  cases cs with
  | nil => simp
  | cons d cs =>
    rw [isNameOf, Bool.and_eq_true, List.all_eq_true] at h
    intro hc
    rcases List.mem_cons.1 hc with rfl | hc
    · simp [hletter] at h
    · simpa [hlater] using h.2 c hc

theorem wellFormed_of_checkName {field : String} {limit : Nat} {wellFormed : List Char → Bool}
    {s : String} (h : checkName field (nameFault? limit wellFormed s) = .ok ()) :
    wellFormed s.toList = true := by
  have hnone := checkName_eq_ok_iff.1 h
  unfold nameFault? at hnone
  split_ifs at hnone with hempty hlong hwell
  exact hwell

theorem colon_notMem_of_checkTypeName {field name : String}
    (h : checkTypeName field name = .ok ()) : ':' ∉ name.toList :=
  notMem_of_isNameOf (wellFormed_of_checkName h) (by decide) (by decide)

theorem hash_notMem_of_checkTypeName {field name : String} (h : checkTypeName field name = .ok ()) :
    '#' ∉ name.toList :=
  notMem_of_isNameOf (wellFormed_of_checkName h) (by decide) (by decide)

theorem at_notMem_of_checkRelationName {field name : String}
    (h : checkRelationName field name = .ok ()) : '@' ∉ name.toList :=
  notMem_of_isNameOf (wellFormed_of_checkName h) (by decide) (by decide)

/-- An id holds no reserved character. -/
theorem notMem_of_checkObjectId {id : String} {c : Char} (h : checkObjectId id = .ok ())
    (hc : isReserved c = true) : c ∉ id.toList := by
  have hall := wellFormed_of_checkName h
  rw [List.all_eq_true] at hall
  intro hmem
  simpa [hc] using hall c hmem

/-! ## What is known by its text -/

namespace ObjectRef

variable {o : ObjectRef}

theorem text_toList (o : ObjectRef) : o.text.toList = o.type.toList ++ ':' :: o.id.toList := by
  simp [text]

theorem checks_of_validate (h : o.validate = .ok ()) :
    checkTypeName "object_type" o.type = .ok () ∧ checkObjectId o.id = .ok () := by
  obtain ⟨_, htype, hid⟩ := bind_eq_ok_iff.1 h
  exact ⟨htype, hid⟩

/-- An object has no hash in its written form. -/
theorem hash_notMem_text (h : o.validate = .ok ()) : '#' ∉ o.text.toList := by
  obtain ⟨htype, hid⟩ := checks_of_validate h
  have hname := hash_notMem_of_checkTypeName htype
  have hreserved := notMem_of_checkObjectId hid (c := '#') (by decide)
  simp [text_toList, hname, hreserved]

/-- **A valid object is known by its text**: the type ends at the first colon. -/
theorem injOn_text : Set.InjOn text {o | o.validate = .ok ()} := by
  intro o ho p hp h
  have hlist := congrArg String.toList h
  rw [text_toList, text_toList] at hlist
  obtain ⟨htype, hid⟩ := eq_of_append_cons_eq
    (colon_notMem_of_checkTypeName (checks_of_validate ho).1)
    (colon_notMem_of_checkTypeName (checks_of_validate hp).1) hlist
  cases o
  cases p
  simp_all [String.toList_inj]

end ObjectRef

namespace SubjectRef

variable {s : SubjectRef}

theorem object_of_validate (h : s.validate = .ok ()) : s.object.validate = .ok () := by
  obtain ⟨_, hobject, -⟩ := bind_eq_ok_iff.1 h
  exact hobject

/-- **A valid subject is known by its text**: its object ends at the hash, if there is one. -/
theorem injOn_text : Set.InjOn text {s | s.validate = .ok ()} := by
  intro s hs t ht h
  have hlist := congrArg String.toList h
  have hs' := ObjectRef.hash_notMem_text (object_of_validate hs)
  have ht' := ObjectRef.hash_notMem_text (object_of_validate ht)
  obtain ⟨hobject, hrelation⟩ : s.object.text = t.object.text ∧ s.relation = t.relation := by
    cases hr : s.relation with
    | none =>
      cases hq : t.relation with
      | none => simpa [text, hr, hq] using h
      | some q =>
        -- The text of an object alone would hold the hash in front of a relation.
        simp only [text, hr, hq, String.toList_append] at hlist
        exact absurd (by rw [hlist]; simp) hs'
    | some r =>
      cases hq : t.relation with
      | none =>
        simp only [text, hr, hq, String.toList_append] at hlist
        exact absurd (by rw [← hlist]; simp) ht'
      | some q =>
        simp only [text, hr, hq, String.toList_append, List.append_assoc] at hlist
        obtain ⟨hobject, hname⟩ := eq_of_append_cons_eq hs' ht' hlist
        exact ⟨String.toList_inj.1 hobject, congrArg some (String.toList_inj.1 hname)⟩
  have hsame := ObjectRef.injOn_text (object_of_validate hs) (object_of_validate ht) hobject
  cases s
  cases t
  simp_all

end SubjectRef

namespace Relationship

variable {r : Relationship}

theorem text_toList (r : Relationship) : r.text.toList =
    r.resource.text.toList ++ '#' :: (r.relation.toList ++ '@' :: r.subject.text.toList) := by
  simp [text]

theorem checks_of_validate (h : r.validate = .ok ()) : r.resource.validate = .ok () ∧
    checkRelationName "relation" r.relation = .ok () ∧ r.subject.validate = .ok () := by
  obtain ⟨_, hresource, h⟩ := bind_eq_ok_iff.1 h
  obtain ⟨_, hrelation, hsubject⟩ := bind_eq_ok_iff.1 h
  exact ⟨hresource, hrelation, hsubject⟩

/-- **A valid relationship is known by its text**: the resource ends at the first hash, and the
relation at the first at sign behind it. -/
theorem injOn_text : Set.InjOn text {r | r.validate = .ok ()} := by
  intro r hr q hq h
  obtain ⟨hresource, hrelation, hsubject⟩ := checks_of_validate hr
  obtain ⟨hresource', hrelation', hsubject'⟩ := checks_of_validate hq
  have hlist := congrArg String.toList h
  rw [text_toList, text_toList] at hlist
  obtain ⟨hobject, hrest⟩ := eq_of_append_cons_eq (ObjectRef.hash_notMem_text hresource)
    (ObjectRef.hash_notMem_text hresource') hlist
  obtain ⟨hname, htext⟩ := eq_of_append_cons_eq (at_notMem_of_checkRelationName hrelation)
    (at_notMem_of_checkRelationName hrelation') hrest
  have h₁ := ObjectRef.injOn_text hresource hresource' (String.toList_inj.1 hobject)
  have h₂ := String.toList_inj.1 hname
  have h₃ := SubjectRef.injOn_text hsubject hsubject' (String.toList_inj.1 htext)
  cases r
  cases q
  simp_all

end Relationship

/-! ## What a conflict names -/

namespace Backend

variable {b : Backend}

/-- **A conflict names a relationship of the batch**, and all of the batch is valid. -/
theorem conflict_of_perform {batch : List Relationship} {mode : WriteMode} {e : BackendError}
    (he : (b.perform (.create batch mode)).1 = .error e) (hkind : e.kind = .alreadyExists) :
    (∀ x ∈ batch, x.validate = .ok ()) ∧
      ∃ r, FirstConflict b.store batch r ∧ e.message = r.text := by
  have hup : b.isAvailable = true := by
    by_contra hdown
    simp [perform, written, checkAvailable, hdown, error_bind] at he
    simp [← he] at hkind
  obtain ⟨t, store, -, hperform⟩ | ⟨f, hcreate, hperform⟩ := b.perform_create_cases hup batch mode
  · rw [hperform] at he
    cases he
  · rw [hperform] at he
    obtain rfl := Except.error.inj he
    obtain ⟨-, x, -, -, -, hx⟩ | ⟨hvalid, -, r, hconflict, rfl⟩ :=
      Store.create_eq_error_iff.1 hcreate
    · simp [Relationship.validate_eq_error hx] at hkind
    · exact ⟨hvalid, r, hconflict, rfl⟩

/-- A valid batch with a conflict is refused under its text, and nothing is stored. -/
theorem perform_create_of_conflict (hup : b.isAvailable = true) {batch : List Relationship}
    {r : Relationship} (hvalid : ∀ x ∈ batch, x.validate = .ok ())
    (hconflict : FirstConflict b.store batch r) :
    b.perform (.create batch .create) = (.error ⟨.alreadyExists, r.text⟩, b) := by
  have hrefused : b.store.create batch .create = .error ⟨.alreadyExists, r.text⟩ :=
    Store.create_eq_error_iff.2 (.inr ⟨hvalid, rfl, r, hconflict, rfl⟩)
  obtain ⟨t, store, hcreate, -⟩ | ⟨e, hcreate, hperform⟩ := b.perform_create_cases hup batch .create
  · cases hrefused.symm.trans hcreate
  · rw [hperform, Except.error.inj (hcreate.symm.trans hrefused)]

/-- **What is valid is known by its text**: an object, a subject, a relationship. So a batch that is
refused for a conflict, after any run from the empty store, is refused under the text of one
relationship: it is one of the batch, which is stored or repeats an earlier one of the batch, and no
other relationship that is valid or stored has this text. -/
theorem conflict_names_one :
    Set.InjOn ObjectRef.text {o | o.validate = .ok ()} ∧
      Set.InjOn SubjectRef.text {s | s.validate = .ok ()} ∧
      Set.InjOn Relationship.text {r | r.validate = .ok ()} ∧
      ∀ b : Backend, b.store = {} → ∀ (acts : List Act) (batch : List Relationship)
        (mode : WriteMode) (e : BackendError),
        ((b.after acts).perform (.create batch mode)).1 = .error e → e.kind = .alreadyExists →
          ∃ r, FirstConflict (b.after acts).store batch r ∧ e.message = r.text ∧
            ∀ x, x.validate = .ok () ∨ x ∈ (b.after acts).store.relationships →
              x.text = e.message → x = r := by
  refine ⟨ObjectRef.injOn_text, SubjectRef.injOn_text, Relationship.injOn_text, ?_⟩
  intro b hempty acts batch mode e he hkind
  obtain ⟨hvalid, r, hconflict, hmessage⟩ := conflict_of_perform he hkind
  refine ⟨r, hconflict, hmessage, ?_⟩
  intro x hx htext
  have hstored : (b.after acts).store.WellFormed :=
    after_wellFormed (by rw [hempty]; exact .empty) acts
  have hx' : x.validate = .ok () := by
    rcases hx with hx | hx
    · exact hx
    · obtain ⟨n, hrow⟩ := Store.mem_relationships.1 hx
      exact hstored.valid _ hrow
  have hr : r.validate = .ok () := by
    obtain ⟨earlier, later, rfl, -, -⟩ := hconflict
    exact hvalid r (by simp)
  exact Relationship.injOn_text hx' hr (htext.trans hmessage)

/-- A relationship that is stored is named when it is to be stored anew. -/
theorem conflict_names_one_readme :
    let b : Backend := { mint := fun n => ⟨Number.decimal n⟩ }
    let member : Relationship :=
      ⟨⟨"document", "readme"⟩, "viewer", ⟨⟨"group", "eng"⟩, some "member"⟩⟩
    let plain : Relationship := ⟨⟨"document", "readme"⟩, "viewer", ⟨⟨"group", "eng"⟩, none⟩⟩
    let stored := b.after [.perform (.create [member] .create)]
    (stored.perform (.create [plain, member] .create)).1 =
        .error ⟨.alreadyExists, "document:readme#viewer@group:eng#member"⟩ ∧
      ∀ x ∈ stored.store.relationships, x.text = "document:readme#viewer@group:eng#member" →
        x = member := by
  intro b member plain stored
  have hvalid : ∀ x ∈ [plain, member], x.validate = .ok () := by decide +kernel
  have hconflict : FirstConflict stored.store [plain, member] member :=
    Store.conflict?_eq_some_iff.1 (by decide +kernel)
  have htext : member.text = "document:readme#viewer@group:eng#member" := by decide +kernel
  have he : (stored.perform (.create [plain, member] .create)).1 =
      .error ⟨.alreadyExists, "document:readme#viewer@group:eng#member"⟩ := by
    rw [perform_create_of_conflict (by decide +kernel) hvalid hconflict, htext]
  refine ⟨he, ?_⟩
  intro x hx hsame
  obtain ⟨-, -, -, hconflicts⟩ := conflict_names_one
  obtain ⟨r, -, -, hone⟩ := hconflicts b rfl _ _ _ _ he rfl
  rw [hone x (.inr hx) hsame, hone member (.inl (hvalid member (by simp))) htext]

/-- A relationship that a batch repeats is named as well, and none that is stored has its text. -/
theorem conflict_within_batch :
    let b : Backend := { mint := fun n => ⟨Number.decimal n⟩ }
    let r : Relationship := ⟨⟨"document", "readme"⟩, "viewer", ⟨⟨"user", "alice"⟩, none⟩⟩
    b.perform (.create [r, r] .create) = (.error ⟨.alreadyExists, r.text⟩, b) ∧
      ¬ ∃ x ∈ b.store.relationships, x.text = r.text := by
  intro b r
  have hconflict : FirstConflict b.store [r, r] r :=
    Store.conflict?_eq_some_iff.1 (by decide +kernel)
  refine ⟨perform_create_of_conflict rfl (by decide +kernel) hconflict, ?_⟩
  rintro ⟨x, hx, -⟩
  cases hx

end Backend

end RelationGate
