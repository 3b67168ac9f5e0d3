import RelationGate.Proofs.Number.Decimal
import RelationGate.Proofs.Store.Answer
import RelationGate.Proofs.Store.History

/-!
# Backends that are nothing but their store

A backend is genuine if nothing stands between its operations and its store: no script, no fault and
no refusal that does not come from the store. Operations may still be held up. What a check or a
stream comes to is then a matter of the store alone (`react_check`, `reactStream_eq`), and of the
point in history that it asks for (`checkFreshness_cases`).
-/

namespace RelationGate

open Number Store

/-! ## Points in history -/

/-- The point in history that a streaming query asks for. -/
def StreamQuery.consistency : StreamQuery → Consistency
  | subjects q => q.consistency
  | resources q => q.consistency
  | read q => q.consistency

/-- The filter of a streaming query, if it has one, is well-formed. -/
def StreamQuery.HasValidFilter : StreamQuery → Prop
  | read q => q.filter.validate = .ok ()
  | _ => True

namespace Store

variable {s : Store} {t : ConsistencyToken} {q : StreamQuery}
  {place : Option ContinuationToken}

/-- **Which points in history the store has reached.** A token that is no word is malformed, one
beyond the revision is ahead, and every other one has been reached. -/
theorem checkFreshness_cases (s : Store) (t : ConsistencyToken) :
    ((¬ ∃ n, Denotes t.text n) ∧
        ∃ m, s.checkFreshness (.atLeastAsFresh t) = .error ⟨.invalidArgument, m⟩) ∨
      ∃ n, Denotes t.text n ∧
        ((s.revision < n ∧
            ∃ m, s.checkFreshness (.atLeastAsFresh t) = .error ⟨.failedPrecondition, m⟩) ∨
          n ≤ s.revision ∧ s.checkFreshness (.atLeastAsFresh t) = .ok ()) := by
  rw [checkFreshness]
  cases hw : word? t.text with
  | none => exact .inl ⟨word?_eq_none_iff.1 hw, _, rfl⟩
  | some n =>
    refine .inr ⟨n, word?_eq_some_iff.1 hw, ?_⟩
    by_cases hahead : s.revision < n
    · exact .inl ⟨hahead, _, if_pos hahead⟩
    · exact .inr ⟨Nat.not_lt.1 hahead, if_neg hahead⟩

/-- A store that answers has reached the point in history that it is asked for. -/
theorem exists_le_of_checkFreshness (h : s.checkFreshness (.atLeastAsFresh t) = .ok ()) :
    ∃ n, Denotes t.text n ∧ n ≤ s.revision := by
  obtain ⟨-, m, hm⟩ | ⟨n, hn, ⟨-, m, hm⟩ | ⟨hle, -⟩⟩ := s.checkFreshness_cases t
  · cases h.symm.trans hm
  · cases h.symm.trans hm
  · exact ⟨n, hn, hle⟩

/-- What an answered check says. -/
theorem of_check {q : CheckQuery} {r : CheckResult} (h : s.check q = .ok r) :
    s.checkFreshness q.consistency = .ok () ∧ r.checkedAt = s.token ∧
      (r.permissionship = .hasPermission ↔
        ⟨q.resource, q.permission, q.subject⟩ ∈ s.relationships) := by
  have hr := Backend.check_eq_ok h
  rw [Store.check] at h
  cases hfresh : s.checkFreshness q.consistency with
  | error e =>
    rw [hfresh] at h
    cases h
  | ok u =>
    refine ⟨rfl, by rw [hr], ?_⟩
    rw [hr, ← contains_iff]
    show (if s.contains _ then Permissionship.hasPermission else .noPermission) = _ ↔ _
    split
    · simp [*]
    · simp [*]

theorem vet_of_hasValidFilter (hfilter : q.HasValidFilter) :
    s.vet q = s.checkFreshness q.consistency := by
  cases q with
  | subjects q => rfl
  | resources q => rfl
  | read q =>
    rw [vet, show q.filter.validate = .ok () from hfilter]
    rfl

theorem checkFreshness_of_vet (h : s.vet q = .ok ()) : s.checkFreshness q.consistency = .ok () := by
  cases q with
  | subjects q => exact h
  | resources q => exact h
  | read q =>
    rw [vet] at h
    cases hfilter : q.filter.validate with
    | error e =>
      rw [hfilter] at h
      cases h
    | ok u =>
      rw [hfilter] at h
      exact h

/-- A place is one to continue after if its text is a word. -/
theorem startAfter_eq_ok_iff :
    (∃ after, startAfter place = .ok after) ↔ ∀ t, place = some t → ∃ n, Denotes t.text n := by
  cases place with
  | none => simp [startAfter]
  | some t =>
    rw [startAfter]
    cases hw : word? t.text with
    | none => simpa using not_exists.1 (word?_eq_none_iff.1 hw)
    | some n => simpa using ⟨n, word?_eq_some_iff.1 hw⟩

end Store

/-! ## Genuine backends -/

/-- Nothing stands between the operations and the store. -/
structure Backend.IsGenuine (b : Backend) : Prop where
  unscripted : b.script = none
  honest : b.echoesLocks = false
  calm : ∀ kind, (b.disturbance kind).panic = none ∧ (b.disturbance kind).error = none ∧
    (b.disturbance kind).streamError = none
  /-- The pipes of its streams can be made. -/
  modest : b.buffer ≤ Channel.maxCapacity

namespace Backend

variable {b : Backend}

/-- An operation changes nothing but the store and the supply of lock tokens. -/
theorem react_frame (b : Backend) (op : Operation) :
    ∃ store minted, (b.react op).2 = { b with store, minted } := by
  obtain hr | ⟨hb, -⟩ := b.react_cases op
  · rw [hr]
    cases op with
    | check q => exact ⟨_, _, rfl⟩
    | available => exact ⟨_, _, rfl⟩
    | create batch mode =>
      obtain ⟨a, store, -, hw⟩ | ⟨e, hw⟩ :=
        b.written_cases (do b.checkAvailable; b.store.create batch mode)
      · exact ⟨store, _, congrArg (·.2) hw⟩
      · exact ⟨_, _, congrArg (·.2) hw⟩
    | delete f =>
      obtain ⟨a, store, -, hw⟩ | ⟨e, hw⟩ := b.written_cases (do b.checkAvailable; b.store.delete f)
      · exact ⟨store, _, congrArg (·.2) hw⟩
      · exact ⟨_, _, congrArg (·.2) hw⟩
    | acquire identifier existing =>
      obtain ⟨-, h⟩ | ⟨-, h⟩ | ⟨e, h⟩ := b.acquire_cases identifier existing
      · exact ⟨_, _, congrArg (·.2) h⟩
      · exact ⟨_, _, congrArg (·.2) h⟩
      · exact ⟨_, _, congrArg (·.2) h⟩
  · exact ⟨_, _, hb⟩

namespace IsGenuine

theorem react (h : b.IsGenuine) (op : Operation) : (b.react op).2.IsGenuine := by
  obtain ⟨store, minted, hb⟩ := b.react_frame op
  rw [hb]
  exact ⟨h.unscripted, h.honest, h.calm, h.modest⟩

theorem act (h : b.IsGenuine) (a : Act) : (b.act a).IsGenuine := by
  cases a with
  | note issued => exact ⟨h.unscripted, h.honest, h.calm, h.modest⟩
  | perform op => exact h.react op
  | switch isAvailable => exact ⟨h.unscripted, h.honest, h.calm, h.modest⟩

/-- A check comes to what the store says. -/
theorem react_check (h : b.IsGenuine) (havailable : b.isAvailable = true) (q : CheckQuery) :
    (b.react (.check q)).1 = .answered (b.store.check q) := by
  obtain ⟨hpanic, herror, -⟩ := h.calm .check
  rw [react_eq_perform hpanic herror]
  show Reaction.answered (do b.checkAvailable; b.store.check q) = _
  rw [checkAvailable, if_pos havailable]
  rfl

/-- A stream comes to what the store says. -/
theorem reactStream_eq (h : b.IsGenuine) (havailable : b.isAvailable = true) (q : StreamQuery)
    (limit : UInt32) (place : Option ContinuationToken) (now : Nat) :
    b.reactStream q limit place now =
      .answered ((b.store.answer limit place q).map (.ofItems b.buffer)) := by
  obtain ⟨hpanic, herror, hstream⟩ := h.calm q.operation
  have hbuffer : ¬ (b.script.isNone ∧ Channel.maxCapacity < b.buffer) := by
    rintro ⟨-, hlarge⟩
    exact absurd h.modest (Nat.not_le.2 hlarge)
  simp only [reactStream, hpanic, herror, hstream, openFeed, h.unscripted, checkAvailable,
    if_pos havailable]
  rw [h.unscripted] at hbuffer
  cases b.store.answer limit place q with
  | error e => rfl
  | ok items => exact if_neg hbuffer

/-- A stream that is opened has what the store answers. -/
theorem answer_of_reactStream (h : b.IsGenuine) {q : StreamQuery} {limit : UInt32}
    {place : Option ContinuationToken} {now : Nat} {feed : Feed}
    (hr : b.reactStream q limit place now = .answered (.ok feed)) :
    ∃ items, b.store.answer limit place q = .ok items ∧ feed = .ofItems b.buffer items := by
  cases havailable : b.isAvailable with
  | false =>
    obtain ⟨hpanic, herror, hstream⟩ := h.calm q.operation
    simp only [reactStream, hpanic, herror, hstream, openFeed, h.unscripted, checkAvailable,
      havailable] at hr
    cases hr
  | true =>
    rw [h.reactStream_eq havailable] at hr
    cases hanswer : b.store.answer limit place q with
    | error e =>
      rw [hanswer] at hr
      cases hr
    | ok items =>
      rw [hanswer] at hr
      cases hr
      exact ⟨items, rfl, rfl⟩

end IsGenuine

end Backend

end RelationGate
