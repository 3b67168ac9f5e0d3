import RelationGate.Lookup
import RelationGate.Proofs.Store.Operations

/-!
# The answer to a streaming query

The answer to a query is read off the rows: those after the place that the query names, projected
to what it wants, in their order, and no more than its cap (`Store.fullAnswer`). The cap is a rule
of its own for each of the three queries (`LimitPolicy.capOf`); it is what the limit of a lookup
admits (`cap?_resolve`). `answer_eq_ok_iff` says when the store answers, `itemOf_eq_some` what an
item tells, and `reactStream_cases` what can come of opening a stream on the store.
-/

namespace RelationGate

open Number

/-! ## Caps -/

namespace LimitPolicy

/-- The cap of a requested limit; no limit and limit zero stand for no request. -/
def requestedCap (p : LimitPolicy) (pagination : Option Pagination) : Option Nat :=
  match pagination.bind (·.limit) with
  | none => none
  | some n => if n = 0 then none else some (min n.toNat p.ceiling.toNat)

/-- The most items that a query may be answered with, if there is a bound. -/
def capOf (p : LimitPolicy) : StreamQuery → Option Nat
  | .subjects q => p.requestedCap q.pagination
  | .resources q =>
    if q.pagination.isNone then some p.ceiling.toNat else p.requestedCap q.pagination
  | .read q => some ((p.requestedCap q.pagination).getD p.ceiling.toNat)

end LimitPolicy

namespace Limit

/-- The cap as a number of items. -/
def cap? : Limit → Option Nat
  | unbounded => none
  | capped most _ => some most.toNat

end Limit

namespace LimitPolicy

theorem toNat_min (m n : UInt32) : (min m n).toNat = min m.toNat n.toNat := by
  show (if m ≤ n then m else n).toNat = min m.toNat n.toNat
  split
  next h =>
    rw [UInt32.le_iff_toNat_le] at h
    omega
  next h =>
    rw [UInt32.le_iff_toNat_le] at h
    omega

theorem cap?_cap (p : LimitPolicy) {n : UInt32} (hn : n ≠ 0) :
    (p.cap n).cap? = some (min n.toNat p.ceiling.toNat) := by
  have hmin : min n p.ceiling ≠ 0 := fun h => by
    have hn' : n.toNat ≠ 0 := fun h => hn (UInt32.toNat_inj.1 h)
    have hp' : p.ceiling.toNat ≠ 0 := fun h => p.positive (UInt32.toNat_inj.1 h)
    have hzero := congrArg UInt32.toNat h
    rw [toNat_min, UInt32.toNat_zero] at hzero
    omega
  rw [cap, dif_neg hmin, Limit.cap?, toNat_min]

theorem cap?_orElse (p : LimitPolicy) (pagination : Option Pagination) (other : Limit) :
    (p.orElse (pagination.bind (·.limit)) other).cap? =
      ((p.requestedCap pagination).map some).getD other.cap? := by
  unfold orElse requestedCap
  cases pagination.bind (·.limit) with
  | none => rfl
  | some n =>
    by_cases hn : n = 0
    · simp only [if_pos hn]
      rfl
    · simp only [if_neg hn]
      exact p.cap?_cap hn

/-- **The limit of a lookup is the cap of its query.** -/
theorem cap?_resolve (p : LimitPolicy) (q : StreamQuery) : (p.resolve q).cap? = p.capOf q := by
  cases q with
  | subjects q =>
    rw [resolve, forSubjects, cap?_orElse, capOf]
    cases p.requestedCap q.pagination <;> rfl
  | resources q =>
    rw [resolve, capOf]
    cases hq : q.pagination with
    | none => rfl
    | some block =>
      rw [forResources, ← Option.bind_some (a := block) (f := (·.limit)), cap?_orElse]
      cases p.requestedCap (some block) <;> rfl
  | read q =>
    rw [resolve, forRead, cap?_orElse, capOf]
    cases p.requestedCap q.pagination <;> rfl

end LimitPolicy

/-- The first items, as many as a cap allows. -/
def cutAt {α : Type} (cap : Option Nat) (items : List α) : List α :=
  match cap with
  | none => items
  | some n => items.take n

theorem atMost_word {α : Type} (limit : Limit) (items : List α) :
    Store.atMost limit.word items = cutAt limit.cap? items := by
  cases limit with
  | unbounded => rfl
  | capped most hmost =>
    rw [Store.atMost, Limit.word, if_neg hmost]
    rfl

/-! ## Answers -/

namespace Store

/-- The item that a query takes from a row, if it wants the row. -/
def itemOf (token : ConsistencyToken) (row : Row) : StreamQuery → Option Item
  | .subjects q => (subjectOf q row.relationship).map fun a =>
      .subject ⟨a, ⟨decimal row.number⟩, token⟩
  | .resources q => (resourceOf q row.relationship).map fun a =>
      .resource ⟨a, ⟨decimal row.number⟩, token⟩
  | .read q => (relationshipOf q row.relationship).map fun a =>
      .relationship ⟨a, ⟨decimal row.number⟩, token⟩

/-- The number that a query continues after; the empty token stands for none. -/
def continuesAfter (q : StreamQuery) : Option Nat := q.place.bind fun t => word? t.text

/-- **The answer to a query**: the items of the rows after its place, cut at its cap. -/
def fullAnswer (s : Store) (p : LimitPolicy) (q : StreamQuery) : List Item :=
  cutAt (p.capOf q) ((s.rows.filter (isAfter (continuesAfter q))).filterMap (itemOf s.token · q))

/-! ## When the store answers -/

/-- What is looked at before the place of a query: its filter, and how fresh it wants the data. -/
def vet (s : Store) : StreamQuery → Except BackendError Unit
  | .subjects q => s.checkFreshness q.consistency
  | .resources q => s.checkFreshness q.consistency
  | .read q => do q.filter.validate; s.checkFreshness q.consistency

/-- The items that a query takes from the rows after a number. -/
def itemsAfter (s : Store) (q : StreamQuery) (after : Option Nat) : List Item :=
  (s.rows.filter (isAfter after)).filterMap (itemOf s.token · q)

variable {s : Store} {q : StreamQuery} {limit : UInt32} {place : Option ContinuationToken}
  {items : List Item}

/-- A later state is as fresh. -/
theorem checkFreshness_mono {s s' : Store} {c : Consistency} (hle : s.revision ≤ s'.revision)
    (h : s.checkFreshness c = .ok ()) : s'.checkFreshness c = .ok () := by
  cases c with
  | atLeastAsFresh t =>
    simp only [checkFreshness] at h ⊢
    cases hw : word? t.text with
    | none =>
      rw [hw] at h
      cases h
    | some wanted =>
      simp only [hw] at h ⊢
      rw [if_neg]
      intro hlt
      rw [if_pos (Nat.lt_of_le_of_lt hle hlt)] at h
      cases h
  | _ => rfl

/-- A query that passes in a state passes in a later one. -/
theorem vet_mono {s s' : Store} (hle : s.revision ≤ s'.revision) (h : s.vet q = .ok ()) :
    s'.vet q = .ok () := by
  cases q with
  | subjects q => exact checkFreshness_mono hle h
  | resources q => exact checkFreshness_mono hle h
  | read q =>
    rw [vet] at h ⊢
    cases hvalid : q.filter.validate with
    | error e =>
      rw [hvalid] at h
      cases h
    | ok u =>
      rw [hvalid] at h
      exact checkFreshness_mono hle h

theorem map_atMost {α β : Type} (f : α → β) (limit : UInt32) (as : List α) :
    (atMost limit as).map f = atMost limit (as.map f) := by
  rw [atMost, atMost]
  split
  · rfl
  · rw [List.map_take]

theorem map_select {α : Type} (s : Store) (limit : UInt32) (place : Option ContinuationToken)
    (project : Relationship → Option α) (f : Hit α → Item) :
    List.map f <$> s.select limit place project = (do
      let after ← startAfter place
      return atMost limit ((s.rows.filter (isAfter after)).filterMap fun row =>
        (project row.relationship).map fun a => f ⟨a, ⟨decimal row.number⟩, s.token⟩)) := by
  rw [select]
  cases startAfter place with
  | error e => rfl
  | ok after =>
    simp only [bind, Except.bind, pure, Except.pure, Functor.map, Except.map, map_atMost,
      List.map_filterMap, Option.map_map]
    rfl

/-- **What the store answers**: it looks at the query, then at the place, and then takes the items
after the place, at most so many. -/
theorem answer_eq (s : Store) (limit : UInt32) (place : Option ContinuationToken)
    (q : StreamQuery) :
    s.answer limit place q = (do
      s.vet q
      let after ← startAfter place
      return atMost limit (s.itemsAfter q after)) := by
  cases q with
  | subjects q =>
    rw [answer, lookupSubjects, vet]
    cases s.checkFreshness q.consistency with
    | error e => rfl
    | ok u => exact map_select s limit place (subjectOf q) .subject
  | resources q =>
    rw [answer, lookupResources, vet]
    cases s.checkFreshness q.consistency with
    | error e => rfl
    | ok u => exact map_select s limit place (resourceOf q) .resource
  | read q =>
    rw [answer, readRelationships, vet]
    cases q.filter.validate with
    | error e => rfl
    | ok u =>
      cases s.checkFreshness q.consistency with
      | error e => rfl
      | ok u => exact map_select s limit place (relationshipOf q) .relationship

/-- The table of the locks is not looked at. -/
theorem answer_with_locks (s : Store) (locks : List (String × LockToken)) (limit : UInt32)
    (place : Option ContinuationToken) (q : StreamQuery) :
    answer { s with locks } limit place q = s.answer limit place q := by
  rw [answer_eq, answer_eq]
  cases q with
  | subjects q => rfl
  | resources q => rfl
  | read q => rfl

/-- When the store answers, and what. -/
theorem answer_eq_ok_iff : s.answer limit place q = .ok items ↔ s.vet q = .ok () ∧
    ∃ after, startAfter place = .ok after ∧ items = atMost limit (s.itemsAfter q after) := by
  rw [answer_eq]
  cases s.vet q with
  | error e => simp [bind, Except.bind]
  | ok u =>
    cases startAfter place with
    | error e => simp [bind, Except.bind]
    | ok after => simp [bind, Except.bind, pure, Except.pure, eq_comm]

theorem startAfter_eq_ok {after : Option Nat} (h : startAfter place = .ok after) :
    after = place.bind fun t => word? t.text := by
  unfold startAfter at h
  cases place with
  | none =>
    cases h
    rfl
  | some t =>
    cases hw : word? t.text with
    | none =>
      simp only [hw] at h
      cases h
    | some n =>
      simp only [hw] at h
      cases h
      exact hw.symm

/-- What the store answers to a query at its own place. -/
theorem answer_eq_ok (h : s.answer limit q.place q = .ok items) :
    items = atMost limit (s.itemsAfter q (continuesAfter q)) := by
  obtain ⟨-, after, hafter, hitems⟩ := answer_eq_ok_iff.1 h
  rw [hitems, startAfter_eq_ok hafter, continuesAfter]

end Store

/-! ## What an item tells -/

namespace Item

/-- The place after an item. -/
def continuation : Item → ContinuationToken
  | subject hit => hit.continuation
  | resource hit => hit.continuation
  | relationship hit => hit.continuation

/-- The point in history that an item was taken at. -/
def readAt : Item → ConsistencyToken
  | subject hit => hit.readAt
  | resource hit => hit.readAt
  | relationship hit => hit.readAt

end Item

namespace StreamQuery

/-- A query wants a relationship. -/
def wants : StreamQuery → Relationship → Bool
  | subjects q, r => (Store.subjectOf q r).isSome
  | resources q, r => (Store.resourceOf q r).isSome
  | read q, r => q.filter.selects r

/-- The relationship that an item of the answer to a query tells of. -/
def told : StreamQuery → Item → Option Relationship
  | subjects q, .subject hit => some ⟨q.resource, q.permission, hit.value⟩
  | resources q, .resource hit => some ⟨hit.value, q.permission, q.subject⟩
  | read _, .relationship hit => some hit.value
  | _, _ => none

end StreamQuery

namespace Store

variable {token : ConsistencyToken} {row : Row} {q : StreamQuery} {item : Item}

theorem isSome_itemOf : (itemOf token row q).isSome = q.wants row.relationship := by
  cases q with
  | subjects q => simp only [itemOf, Option.isSome_map, StreamQuery.wants]
  | resources q => simp only [itemOf, Option.isSome_map, StreamQuery.wants]
  | read q =>
    simp only [itemOf, Option.isSome_map, StreamQuery.wants, relationshipOf]
    split <;> simp [*]

/-- **What an item tells**: the number of its row, the point in history, and the relationship. -/
theorem itemOf_eq_some (h : itemOf token row q = some item) :
    item.continuation = ⟨decimal row.number⟩ ∧ item.readAt = token ∧
      q.told item = some row.relationship := by
  obtain ⟨number, resource, relation, subject⟩ := row
  cases q with
  | subjects q =>
    obtain ⟨a, ha, rfl⟩ := Option.map_eq_some_iff.1 h
    simp only [subjectOf, Option.ite_none_right_eq_some, Option.some.injEq] at ha
    obtain ⟨⟨rfl, rfl, -⟩, rfl⟩ := ha
    exact ⟨rfl, rfl, rfl⟩
  | resources q =>
    obtain ⟨a, ha, rfl⟩ := Option.map_eq_some_iff.1 h
    simp only [resourceOf, Option.ite_none_right_eq_some, Option.some.injEq] at ha
    obtain ⟨⟨-, rfl, rfl⟩, rfl⟩ := ha
    exact ⟨rfl, rfl, rfl⟩
  | read q =>
    obtain ⟨a, ha, rfl⟩ := Option.map_eq_some_iff.1 h
    simp only [relationshipOf, Option.ite_none_right_eq_some, Option.some.injEq] at ha
    obtain ⟨-, rfl⟩ := ha
    exact ⟨rfl, rfl, rfl⟩

end Store

/-! ## Opening a stream -/

namespace Backend

variable {b : Backend} {p : LimitPolicy} {q : StreamQuery}

/-- **What comes of opening a stream on the store**: a breakdown, a failure, a stream that fails at
once, or one with what the store answers. -/
theorem reactStream_cases (hscript : b.script = none) (q : StreamQuery) (limit : UInt32)
    (place : Option ContinuationToken) (now : Nat) :
    (∃ words, b.reactStream q limit place now = .panicked words) ∨
      (∃ e, b.reactStream q limit place now = .answered (.error e)) ∨
      (∃ e, b.reactStream q limit place now = .answered (.ok (.failed e))) ∨
      ∃ items, b.store.answer limit place q = .ok items ∧
        b.reactStream q limit place now = .answered (.ok (.ofItems b.buffer items)) := by
  rw [reactStream]
  cases (b.disturbance q.operation).panic with
  | some words => exact .inl ⟨words, rfl⟩
  | none =>
    cases (b.disturbance q.operation).error with
    | some e => exact .inr (.inl ⟨e, rfl⟩)
    | none =>
      cases (b.disturbance q.operation).streamError with
      | some e => exact .inr (.inr (.inl ⟨e, rfl⟩))
      | none =>
        simp only [openFeed, hscript]
        split
        next e heq => exact .inr (.inl ⟨e, rfl⟩)
        next feed heq =>
          split
          · exact .inl ⟨_, rfl⟩
          refine .inr (.inr (.inr ?_))
          have hanswer := checkAvailable_bind_eq_ok heq
          cases hitems : b.store.answer limit place q with
          | error e =>
            rw [hitems] at hanswer
            cases hanswer
          | ok items =>
            rw [hitems] at hanswer
            cases hanswer
            exact ⟨items, rfl, rfl⟩

/-- A stream that is opened as a policy resolves its query has the full answer. -/
theorem reactStream_resolved_cases (hscript : b.script = none) (now : Nat) :
    (∃ words, b.reactStream q (p.resolve q).word q.place now = .panicked words) ∨
      (∃ e, b.reactStream q (p.resolve q).word q.place now = .answered (.error e)) ∨
      (∃ e, b.reactStream q (p.resolve q).word q.place now = .answered (.ok (.failed e))) ∨
      b.reactStream q (p.resolve q).word q.place now =
        .answered (.ok (.ofItems b.buffer (b.store.fullAnswer p q))) := by
  obtain h | h | h | ⟨items, hitems, h⟩ :=
    b.reactStream_cases hscript q (p.resolve q).word q.place now
  · exact .inl h
  · exact .inr (.inl h)
  · exact .inr (.inr (.inl h))
  · refine .inr (.inr (.inr ?_))
    rw [h, Store.answer_eq_ok hitems, atMost_word, LimitPolicy.cap?_resolve]
    rfl

end Backend

end RelationGate
