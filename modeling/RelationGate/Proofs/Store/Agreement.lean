import RelationGate.Proofs.Store.Answer
import RelationGate.Proofs.Store.History

/-!
# The four ways to read agree

A relationship can be asked for in four ways: by a check, by each of the two lookups, and by a read
whose filter matches it. Each of them looks at the rows with a predicate of its own.

* `isNamedBy_itemOf`: on a stream that is asked about a relationship (`Relationship.Asks`), the
  entry of a row names it exactly when the row holds it.
* `WellFormed.filter_holding`: exactly one row of a well-formed store holds a stored relationship,
  so that its entry is alone in each of these streams (`entries_of_stored`,
  `entries_of_not_stored`).
* `read_paths_agree`: in every state that a run from the empty store reaches, the four ways say the
  same, and where they say yes, the entry is there once and its token is the same everywhere.
-/

namespace RelationGate

open Store Number

/-! ## Asking about a relationship -/

namespace Relationship

/-- The check that asks about a relationship. -/
def checkQuery (r : Relationship) (c : Consistency) : CheckQuery :=
  ⟨r.resource, r.relation, r.subject, c⟩

/-- The streaming queries that ask about a relationship: for the subjects of its kind, for the
resources of its kind, and through a valid filter that matches it. -/
inductive Asks (r : Relationship) (c : Consistency) : StreamQuery → Prop where
  | subjects (p : Option Pagination) : Asks r c
      (.subjects ⟨r.resource, r.relation, r.subject.object.type, r.subject.relation, c, p⟩)
  | resources (p : Option Pagination) : Asks r c
      (.resources ⟨r.resource.type, r.relation, r.subject, c, p⟩)
  | read (f : RelationshipFilter) (p : Option Pagination) (hvalid : f.validate = .ok ())
      (hselects : f.selects r = true) : Asks r c (.read ⟨f, c, p⟩)

/-- An entry of a stream names what the stream was asked for: the subject, the resource, or the
whole relationship. -/
def isNamedBy (r : Relationship) : Item → Bool
  | .subject hit => hit.value = r.subject
  | .resource hit => hit.value = r.resource
  | .relationship hit => hit.value = r

end Relationship

namespace Backend

/-- A stream that is opened without a limit and without a place has these items. -/
def Streams (b : Backend) (q : StreamQuery) (now : Nat) (items : List Item) : Prop :=
  b.openFeed q 0 none now = .ok (.ofItems b.buffer items)

/-- A check is answered, and grants the relationship. -/
def Grants (b : Backend) (c : Consistency) (r : Relationship) : Prop :=
  ∃ answer, (b.perform (.check (r.checkQuery c))).1 = .ok answer ∧
    answer.permissionship = .hasPermission

end Backend

variable {r : Relationship} {c : Consistency} {q : StreamQuery} {s : Store} {b : Backend}
  {token : ConsistencyToken} {row : Row} {item : Item} {items : List Item} {now : Nat}

/-! ## The filter for a type -/

theorem checkName_eq_ok_iff {field : String} {fault : Option NameFault} :
    checkName field fault = .ok () ↔ fault = none := by
  cases fault with
  | none => exact iff_of_true rfl rfl
  | some fault => simp [checkName]

theorem ObjectRef.type_of_validate {o : ObjectRef} (h : o.validate = .ok ()) (field : String) :
    checkTypeName field o.type = .ok () := by
  rw [ObjectRef.validate] at h
  cases htype : checkTypeName "object_type" o.type with
  | error e =>
    rw [htype] at h
    cases h
  | ok u => exact checkName_eq_ok_iff.2 (checkName_eq_ok_iff.1 htype)

theorem Relationship.resource_of_validate (h : r.validate = .ok ()) :
    r.resource.validate = .ok () := by
  rw [Relationship.validate] at h
  cases hresource : r.resource.validate with
  | error e =>
    rw [hresource] at h
    cases h
  | ok u => rfl

/-- A valid relationship is matched by a valid filter: the one for the type of its resource. -/
theorem Relationship.asks_forType (h : r.validate = .ok ()) (p : Option Pagination) :
    r.Asks c (.read ⟨.forType r.resource.type, c, p⟩) := by
  refine .read _ p ?_ ?_
  · have htype := ObjectRef.type_of_validate (Relationship.resource_of_validate h)
      "filter.resource_type"
    rw [RelationshipFilter.validate, RelationshipFilter.forType, htype]
    rfl
  · simp [RelationshipFilter.selects, RelationshipFilter.forType, RelationshipFilter.admits]

/-! ## Entries and rows -/

namespace Relationship.Asks

theorem vet (h : r.Asks c q) (hfresh : s.checkFreshness c = .ok ()) : s.vet q = .ok () := by
  cases h with
  | subjects p => exact hfresh
  | resources p => exact hfresh
  | read f p hvalid hselects =>
    rw [Store.vet, hvalid]
    exact hfresh

/-- A stream that is asked about a relationship wants it. -/
theorem wants (h : r.Asks c q) : q.wants r = true := by
  cases h with
  | subjects p => simp [StreamQuery.wants, subjectOf]
  | resources p => simp [StreamQuery.wants, resourceOf]
  | read f p hvalid hselects => exact hselects

/-- **The entry of a row names a relationship exactly when the row holds it**, on every stream that
is asked about the relationship. -/
theorem isNamedBy_itemOf (h : r.Asks c q) (hitem : itemOf token row q = some item) :
    r.isNamedBy item = true ↔ row.relationship = r := by
  obtain ⟨number, resource, relation, subject⟩ := row
  obtain ⟨resource', relation', subject'⟩ := r
  cases h with
  | subjects p =>
    obtain ⟨a, ha, rfl⟩ := Option.map_eq_some_iff.1 hitem
    simp only [subjectOf, Option.ite_none_right_eq_some, Option.some.injEq] at ha
    obtain ⟨⟨rfl, rfl, -⟩, rfl⟩ := ha
    simp [isNamedBy]
  | resources p =>
    obtain ⟨a, ha, rfl⟩ := Option.map_eq_some_iff.1 hitem
    simp only [resourceOf, Option.ite_none_right_eq_some, Option.some.injEq] at ha
    obtain ⟨⟨-, rfl, rfl⟩, rfl⟩ := ha
    simp [isNamedBy]
  | read f p hvalid hselects =>
    obtain ⟨a, ha, rfl⟩ := Option.map_eq_some_iff.1 hitem
    simp only [relationshipOf, Option.ite_none_right_eq_some, Option.some.injEq] at ha
    obtain ⟨-, rfl⟩ := ha
    simp [isNamedBy]

/-- The entries that name a relationship are those of the rows that hold it. -/
theorem entries_eq (h : r.Asks c q) (s : Store) :
    (s.itemsAfter q none).filter r.isNamedBy =
      (s.rows.filter (·.relationship = r)).filterMap (itemOf s.token · q) := by
  have hall : s.rows.filter (isAfter none) = s.rows := List.filter_eq_self.2 fun _ _ => rfl
  rw [itemsAfter, hall, List.filter_filterMap, List.filterMap_filter]
  refine List.filterMap_congr fun row _ => ?_
  cases hitem : itemOf s.token row q with
  | none => simp
  | some item =>
    have hnamed := h.isNamedBy_itemOf hitem
    by_cases hrow : row.relationship = r
    · simp [hrow, hnamed.2 hrow]
    · simp [hrow, mt hnamed.1 hrow]

end Relationship.Asks

/-- Exactly one row of a well-formed store holds a stored relationship. -/
theorem Store.WellFormed.filter_holding (hs : s.WellFormed) (hrow : row ∈ s.rows) :
    s.rows.filter (·.relationship = row.relationship) = [row] := by
  have hsame : ∀ other ∈ s.rows,
      decide (other.relationship = row.relationship) = (other == row) := fun other hother => by
    refine decide_eq_decide.2 ⟨fun h => ?_, fun h => by rw [h]⟩
    exact List.inj_on_of_nodup_map hs.distinct hother hrow h
  rw [List.filter_congr hsame, List.filter_beq, List.count_eq_one_of_mem _ hrow]
  · rfl
  · exact List.Nodup.of_map _ hs.distinct

/-- A stored relationship has one entry in each of the streams that are asked about it, and its
place is the number of the row. -/
theorem Relationship.Asks.entries_of_stored (h : r.Asks c q) (hs : s.WellFormed)
    (hrow : row ∈ s.rows) (hr : row.relationship = r) :
    ((s.itemsAfter q none).filter r.isNamedBy).map Item.continuation =
      [⟨decimal row.number⟩] := by
  have hwanted : (itemOf s.token row q).isSome = true := by
    rw [isSome_itemOf, hr, h.wants]
  obtain ⟨item, hitem⟩ := Option.isSome_iff_exists.1 hwanted
  rw [h.entries_eq, ← hr, hs.filter_holding hrow,
    List.filterMap_cons_some (f := (itemOf s.token · q)) hitem, List.filterMap_nil,
    List.map_singleton, (itemOf_eq_some hitem).1]

/-- A relationship that is not stored has no entry in them. -/
theorem Relationship.Asks.entries_of_not_stored (h : r.Asks c q) (hr : r ∉ s.relationships) :
    (s.itemsAfter q none).filter r.isNamedBy = [] := by
  have hnone : s.rows.filter (·.relationship = r) = [] := by
    refine List.filter_eq_nil_iff.2 fun row hrow => ?_
    rw [decide_eq_true_iff]
    exact fun hholds => hr (List.mem_map.2 ⟨row, hrow, hholds⟩)
  rw [h.entries_eq, hnone, List.filterMap_nil]

/-! ## What the backend says -/

namespace Backend

/-- A check of an available backend that is fresh enough is answered by what is stored. -/
theorem perform_check_fresh (havailable : b.isAvailable = true)
    (hfresh : b.store.checkFreshness c = .ok ()) (r : Relationship) :
    (b.perform (.check (r.checkQuery c))).1 = .ok
      ⟨if b.store.contains r then .hasPermission else .noPermission, b.store.token⟩ := by
  show (do b.checkAvailable; b.store.check (r.checkQuery c)) = _
  rw [checkAvailable, if_pos havailable, Store.check, Relationship.checkQuery, hfresh]
  rfl

theorem grants_iff (havailable : b.isAvailable = true)
    (hfresh : b.store.checkFreshness c = .ok ()) : b.Grants c r ↔ r ∈ b.store.relationships := by
  rw [Grants, perform_check_fresh havailable hfresh, ← contains_iff]
  cases b.store.contains r with
  | true => exact iff_of_true ⟨_, rfl, rfl⟩ rfl
  | false =>
    refine iff_of_false ?_ Bool.false_ne_true
    rintro ⟨answer, hanswer, hgranted⟩
    cases hanswer
    cases hgranted

/-- What a stream without a limit and without a place has. -/
theorem streams_iff (hscript : b.script = none) (havailable : b.isAvailable = true) :
    b.Streams q now items ↔ b.store.vet q = .ok () ∧ items = b.store.itemsAfter q none := by
  have hopened : b.openFeed q 0 none now = Feed.ofItems b.buffer <$> b.store.answer 0 none q := by
    rw [openFeed, hscript, checkAvailable, if_pos havailable]
    rfl
  rw [Streams, hopened, answer_eq]
  cases b.store.vet q with
  | error e => simp [bind, Except.bind, Functor.map, Except.map]
  | ok u =>
    show Except.ok (Feed.ofItems b.buffer (b.store.itemsAfter q none)) = _ ↔ _
    constructor
    · intro h
      have hitems := congrArg Feed.items (Except.ok.inj h)
      exact ⟨rfl, List.ext_getElem? fun n => (congrFun hitems n).symm⟩
    · rintro ⟨-, rfl⟩
      rfl

/-- What an entry of a stream tells is stored. -/
theorem told_stored (hitem : item ∈ s.itemsAfter q none) :
    ∃ r ∈ s.relationships, q.told item = some r := by
  obtain ⟨row, hrow, hitem⟩ := List.mem_filterMap.1 hitem
  exact ⟨row.relationship, List.mem_map_of_mem (List.mem_of_mem_filter hrow),
    (itemOf_eq_some hitem).2.2⟩

/-- **The four ways to read agree.** Take any state that a run from the empty store reaches, with
the backend up, and any freshness that the state meets. A check of a valid relationship is answered,
and so is every stream that is asked about the relationship; there is a valid filter that matches
it. The check grants the relationship exactly if the stream has an entry that names it, whichever
stream it is. If so, the entry is alone in each of them, and its token is the same in all. And a
check grants whatever an entry of any stream tells. -/
theorem read_paths_agree (hempty : b.store = {}) (hscript : b.script = none) (acts : List Act)
    (havailable : (b.after acts).isAvailable = true)
    (hfresh : (b.after acts).store.checkFreshness c = .ok ()) (now : Nat) :
    (∀ r : Relationship, r.validate = .ok () →
      (∃ answer, ((b.after acts).perform (.check (r.checkQuery c))).1 = .ok answer) ∧
        (∃ f : RelationshipFilter, f.validate = .ok () ∧ f.selects r = true) ∧
        (∀ q, r.Asks c q → ∃ items, (b.after acts).Streams q now items ∧
          ((b.after acts).Grants c r ↔ ∃ item ∈ items, r.isNamedBy item = true)) ∧
        ((b.after acts).Grants c r → ∃ place, ∀ q, r.Asks c q →
          ∃ items, (b.after acts).Streams q now items ∧
            (items.filter r.isNamedBy).map Item.continuation = [place])) ∧
      ∀ q items, (b.after acts).Streams q now items → ∀ item ∈ items,
        ∃ r, q.told item = some r ∧ (b.after acts).Grants c r := by
  have hstore : (b.after acts).store.WellFormed :=
    after_wellFormed (hempty ▸ WellFormed.empty) acts
  have hkept : (b.after acts).script = none := (after_make b acts).1.trans hscript
  have hstreams : ∀ {r : Relationship} {q}, r.Asks c q →
      (b.after acts).Streams q now ((b.after acts).store.itemsAfter q none) := fun h =>
    (streams_iff hkept havailable).2 ⟨h.vet hfresh, rfl⟩
  refine ⟨fun r hr => ⟨?_, ?_, fun q hq => ⟨_, hstreams hq, ?_⟩, fun hgrants => ?_⟩,
    fun q items hitems item hitem => ?_⟩
  · exact ⟨_, perform_check_fresh havailable hfresh r⟩
  · cases Relationship.asks_forType (c := c) hr none with
    | read f p hvalid hselects => exact ⟨_, hvalid, hselects⟩
  · rw [grants_iff havailable hfresh]
    constructor
    · intro hmem
      obtain ⟨row, hrow, hholds⟩ := List.mem_map.1 hmem
      obtain ⟨item, hentries, -⟩ :=
        List.map_eq_singleton_iff.1 (hq.entries_of_stored hstore hrow hholds)
      exact ⟨item, List.mem_filter.1 (hentries ▸ List.mem_singleton_self item)⟩
    · rintro ⟨item, hitem, hnamed⟩
      by_contra hmem
      have hentry := List.mem_filter.2 ⟨hitem, hnamed⟩
      rw [hq.entries_of_not_stored hmem] at hentry
      cases hentry
  · obtain ⟨row, hrow, hholds⟩ := List.mem_map.1 ((grants_iff havailable hfresh).1 hgrants)
    exact ⟨⟨decimal row.number⟩, fun q hq => ⟨_, hstreams hq,
      hq.entries_of_stored hstore hrow hholds⟩⟩
  · obtain ⟨-, rfl⟩ := (streams_iff hkept havailable).1 hitems
    obtain ⟨r, hstored, htold⟩ := told_stored hitem
    exact ⟨r, htold, (grants_iff havailable hfresh).2 hstored⟩

/-- Of two groups with the same object, one is stored again after a deletion. The members of the
group are found under the new number by each of the four ways; the group itself is not found. -/
theorem read_paths_agree_readme :
    let readme : ObjectRef := ⟨"document", "readme"⟩
    let eng : ObjectRef := ⟨"group", "eng"⟩
    let members : Relationship := ⟨readme, "viewer", ⟨eng, some "member"⟩⟩
    let group : Relationship := ⟨readme, "viewer", ⟨eng, none⟩⟩
    let filter : RelationshipFilter := { resourceType := "document", subjectType := some "group" }
    let b : Backend := { mint := fun n => ⟨toString n⟩ }
    let acts : List Act := [.perform (.create [members, group] .create), .perform (.delete filter),
      .perform (.create [members] .create)]
    b.store = {} ∧ b.script = none ∧ (b.after acts).isAvailable = true ∧
      (b.after acts).store.checkFreshness (.atLeastAsFresh ⟨"3"⟩) = .ok () ∧
      members.validate = .ok () ∧ group.validate = .ok () ∧
      (∀ q, members.Asks (.atLeastAsFresh ⟨"3"⟩) q → ∃ items, (b.after acts).Streams q 0 items ∧
        (items.filter members.isNamedBy).map Item.continuation = [⟨"2"⟩]) ∧
      ∀ q, group.Asks (.atLeastAsFresh ⟨"3"⟩) q → ∃ items, (b.after acts).Streams q 0 items ∧
        ∀ item ∈ items, group.isNamedBy item = false := by
  intro readme eng members group filter b acts
  have hempty : b.store = {} := rfl
  have hscript : (b.after acts).script = none := (after_make b acts).1
  have havailable : (b.after acts).isAvailable = true := by decide +kernel
  have hfresh : (b.after acts).store.checkFreshness (.atLeastAsFresh ⟨"3"⟩) = .ok () := by
    decide +kernel
  have hmembers : members.validate = .ok () := by decide +kernel
  have hgroup : group.validate = .ok () := by decide +kernel
  obtain ⟨hagree, -⟩ := read_paths_agree hempty rfl acts havailable hfresh 0
  refine ⟨hempty, rfl, havailable, hfresh, hmembers, hgroup, fun q hq => ?_, fun q hq => ?_⟩
  · obtain ⟨-, -, -, hplace⟩ := hagree members hmembers
    have hgrants := (grants_iff (r := members) havailable hfresh).2 (by decide +kernel)
    obtain ⟨place, hall⟩ := hplace hgrants
    -- The place is read off one of the streams, and it is that of all of them.
    obtain ⟨found, hfound, hhere⟩ := hall _ (.subjects none)
    rw [((streams_iff hscript havailable).1 hfound).2] at hhere
    have hnumber : ((((b.after acts).store.itemsAfter (.subjects ⟨readme, "viewer", "group",
        some "member", .atLeastAsFresh ⟨"3"⟩, none⟩) none).filter members.isNamedBy).map
          Item.continuation) = [⟨"2"⟩] := by
      decide +kernel
    rw [List.singleton_inj.1 (hhere.symm.trans hnumber)] at hall
    exact hall q hq
  · obtain ⟨-, -, hiff, -⟩ := hagree group hgroup
    obtain ⟨items, hitems, hnamed⟩ := hiff q hq
    refine ⟨items, hitems, fun item hitem => ?_⟩
    have hdenied : ¬ (b.after acts).Grants (.atLeastAsFresh ⟨"3"⟩) group := fun hgrants =>
      absurd ((grants_iff havailable hfresh).1 hgrants) (by decide +kernel)
    exact Bool.eq_false_iff.2 fun hnames => hdenied (hnamed.2 ⟨item, hitem, hnames⟩)

end Backend

end RelationGate
