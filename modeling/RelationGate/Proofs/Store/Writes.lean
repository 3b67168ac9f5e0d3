import Mathlib.Data.List.Basic
import Mathlib.Data.List.Nodup
import RelationGate.Backend

/-!
# What the writes of the store do

A write is described by what it does to the rows: an insertion appends one row with the next number
unless the relationship is stored (`insert_of_mem`, `insert_of_notMem`), a batch appends rows with
consecutive numbers (`insertAll_appends`), a deletion filters the rows (`without`).
`create_eq_ok_iff` and `delete_eq_ok_iff` say exactly when a write goes through and what it leaves.

`Store.WellFormed` is what every write keeps: the relationships are distinct and valid, and the
numbers increase and lie below the next one.
-/

namespace RelationGate.Store

variable {s : Store} {r x : Relationship} {batch : List Relationship}

/-! ## Membership -/

theorem contains_iff : s.contains r = true ↔ r ∈ s.relationships := by
  simp only [contains, relationships, List.any_eq_true, List.mem_map, beq_iff_eq]

theorem mem_relationships : r ∈ s.relationships ↔ ∃ n, ⟨n, r⟩ ∈ s.rows := by
  simp only [relationships, List.mem_map]
  constructor
  · rintro ⟨row, hrow, rfl⟩
    exact ⟨row.number, hrow⟩
  · rintro ⟨n, hn⟩
    exact ⟨_, hn, rfl⟩

@[simp] theorem commit_rows (s : Store) : s.commit.rows = s.rows := rfl

@[simp] theorem commit_relationships (s : Store) : s.commit.relationships = s.relationships := rfl

@[simp] theorem commit_revision (s : Store) : s.commit.revision = s.revision + 1 := rfl

/-! ## One insertion -/

theorem insert_of_mem (h : r ∈ s.relationships) : s.insert r = s := by
  rw [insert, if_pos (contains_iff.2 h)]

theorem insert_of_notMem (h : r ∉ s.relationships) :
    s.insert r =
      { s with rows := s.rows ++ [⟨s.nextNumber, r⟩], nextNumber := s.nextNumber + 1 } := by
  rw [insert, if_neg (fun hc => h (contains_iff.1 hc))]

theorem mem_relationships_insert :
    x ∈ (s.insert r).relationships ↔ x ∈ s.relationships ∨ x = r := by
  by_cases h : r ∈ s.relationships
  · rw [insert_of_mem h]
    constructor
    · exact Or.inl
    · rintro (hx | rfl)
      · exact hx
      · exact h
  · rw [insert_of_notMem h]
    simp [relationships]

/-! ## A batch of insertions -/

/-- The store with a batch inserted, one relationship after the other. -/
def insertAll (s : Store) (batch : List Relationship) : Store := batch.foldl insert s

@[simp] theorem insertAll_nil (s : Store) : s.insertAll [] = s := rfl

@[simp] theorem insertAll_cons (s : Store) (r : Relationship) (batch : List Relationship) :
    s.insertAll (r :: batch) = (s.insert r).insertAll batch := rfl

theorem mem_relationships_insertAll :
    x ∈ (s.insertAll batch).relationships ↔ x ∈ s.relationships ∨ x ∈ batch := by
  induction batch generalizing s with
  | nil => simp
  | cons r batch ih =>
    rw [insertAll_cons, ih, mem_relationships_insert, List.mem_cons, or_assoc]

/-- **A batch appends rows with consecutive numbers**, beginning with the next one, and nothing
else changes. -/
theorem insertAll_appends (s : Store) (batch : List Relationship) :
    ∃ added : List Row, added.map (·.number) = List.range' s.nextNumber added.length ∧
      (∀ row ∈ added, row.relationship ∈ batch ∧ row.relationship ∉ s.relationships) ∧
      s.insertAll batch =
        { s with rows := s.rows ++ added, nextNumber := s.nextNumber + added.length } := by
  induction batch generalizing s with
  | nil => exact ⟨[], rfl, by simp, by simp⟩
  | cons r batch ih =>
    obtain ⟨added, hnumbers, hnew, heq⟩ := ih (s.insert r)
    by_cases h : r ∈ s.relationships
    · rw [insert_of_mem h] at hnumbers hnew heq
      refine ⟨added, hnumbers, fun row hrow => ?_, by rw [insertAll_cons, insert_of_mem h, heq]⟩
      obtain ⟨hin, hout⟩ := hnew row hrow
      exact ⟨List.mem_cons_of_mem _ hin, hout⟩
    · have hins := insert_of_notMem h
      refine ⟨⟨s.nextNumber, r⟩ :: added, ?_, ?_, ?_⟩
      · rw [hins] at hnumbers
        rw [List.map_cons, hnumbers, List.length_cons, List.range'_succ]
      · intro row hrow
        rcases List.mem_cons.1 hrow with rfl | hrow
        · exact ⟨List.mem_cons_self, h⟩
        · obtain ⟨hin, hout⟩ := hnew row hrow
          rw [mem_relationships_insert, not_or] at hout
          exact ⟨List.mem_cons_of_mem _ hin, hout.1⟩
      · rw [insertAll_cons, heq, hins]
        simp only [List.append_assoc, List.cons_append, List.nil_append, List.length_cons,
          Store.mk.injEq,
          true_and, and_true]
        omega

@[simp] theorem insertAll_revision (s : Store) (batch : List Relationship) :
    (s.insertAll batch).revision = s.revision := by
  obtain ⟨added, -, -, heq⟩ := s.insertAll_appends batch
  rw [heq]

/-! ## A deletion -/

/-- The store without the rows that a filter selects. -/
def without (s : Store) (f : RelationshipFilter) : Store :=
  { s with rows := s.rows.filter fun row => !f.selects row.relationship }

@[simp] theorem without_rows (s : Store) (f : RelationshipFilter) :
    (s.without f).rows = s.rows.filter fun row => !f.selects row.relationship := rfl

@[simp] theorem without_revision (s : Store) (f : RelationshipFilter) :
    (s.without f).revision = s.revision := rfl

theorem mem_relationships_without {f : RelationshipFilter} :
    r ∈ (s.without f).relationships ↔ r ∈ s.relationships ∧ f.selects r = false := by
  simp only [mem_relationships, without_rows, List.mem_filter, Bool.not_eq_true', exists_and_right]

/-! ## The outcomes of writes -/

theorem forM_validate_eq_ok_iff :
    batch.forM Relationship.validate = .ok () ↔ ∀ r ∈ batch, r.validate = .ok () := by
  induction batch with
  | nil => simp [pure, Except.pure]
  | cons r batch ih =>
    rw [List.forM, List.forall_mem_cons]
    cases hr : r.validate with
    | error e => simp [bind, Except.bind]
    | ok u => simpa [bind, Except.bind] using ih

theorem conflict?_eq_none_iff (s : Store) (seen batch : List Relationship) :
    s.conflict? seen batch = none ↔
      batch.Nodup ∧ ∀ r ∈ batch, r ∉ s.relationships ∧ r ∉ seen := by
  induction batch generalizing seen with
  | nil => simp [conflict?]
  | cons r batch ih =>
    by_cases h : s.contains r = true ∨ r ∈ seen
    · rw [conflict?, if_pos h, contains_iff] at *
      rw [List.forall_mem_cons]
      simp only [reduceCtorEq, false_iff, not_and]
      rintro - ⟨hs, hseen⟩
      exact absurd h (by simp [hs, hseen])
    · rw [conflict?, if_neg h, ih]
      rw [contains_iff, not_or] at h
      rw [List.nodup_cons, List.forall_mem_cons]
      simp only [List.mem_cons, not_or]
      constructor
      · rintro ⟨hnodup, hall⟩
        exact ⟨⟨fun hr => (hall r hr).2.1 rfl, hnodup⟩, h,
          fun x hx => ⟨(hall x hx).1, (hall x hx).2.2⟩⟩
      · rintro ⟨⟨hr, hnodup⟩, -, hall⟩
        exact ⟨hnodup, fun x hx => ⟨(hall x hx).1, fun he => hr (he ▸ hx), (hall x hx).2⟩⟩

/-- **When a batch goes through**: all of it is valid and, if it must be new, none of it is stored
or repeated. What it leaves is the batch inserted, and one more revision. -/
theorem create_eq_ok_iff {mode : WriteMode} {t : ConsistencyToken} {s' : Store} :
    s.create batch mode = .ok (t, s') ↔ (∀ r ∈ batch, r.validate = .ok ()) ∧
      (mode = .create → batch.Nodup ∧ ∀ r ∈ batch, r ∉ s.relationships) ∧
      s' = (s.insertAll batch).commit ∧ t = s'.token := by
  rw [← forM_validate_eq_ok_iff, create]
  have hconflict := s.conflict?_eq_none_iff [] batch
  simp only [List.not_mem_nil, not_false_eq_true, and_true] at hconflict
  cases hvalid : batch.forM Relationship.validate with
  | error e => simp [bind, Except.bind]
  | ok u =>
    cases mode with
    | touch =>
      simp only [bind, Except.bind, pure, Except.pure, insertAll, reduceCtorEq, if_false,
        false_implies,
        Except.ok.injEq, Prod.mk.injEq, true_and]
      constructor
      · rintro ⟨rfl, rfl⟩
        exact ⟨rfl, rfl⟩
      · rintro ⟨rfl, rfl⟩
        exact ⟨rfl, rfl⟩
    | create =>
      rw [← hconflict]
      cases s.conflict? [] batch with
      | some r => simp [bind, Except.bind, throw, throwThe, MonadExceptOf.throw]
      | none =>
        simp only [bind, Except.bind, pure, Except.pure, insertAll, if_true, forall_const,
          Except.ok.injEq, Prod.mk.injEq, true_and]
        constructor
        · rintro ⟨rfl, rfl⟩
          exact ⟨rfl, rfl⟩
        · rintro ⟨rfl, rfl⟩
          exact ⟨rfl, rfl⟩

/-- When a deletion goes through, and what it leaves. -/
theorem delete_eq_ok_iff {f : RelationshipFilter} {t : ConsistencyToken} {s' : Store} :
    s.delete f = .ok (t, s') ↔ f.validate = .ok () ∧ s' = (s.without f).commit ∧ t = s'.token := by
  rw [delete]
  cases f.validate with
  | error e => simp [bind, Except.bind]
  | ok u =>
    simp only [bind, Except.bind, pure, Except.pure, without, Except.ok.injEq, Prod.mk.injEq,
      true_and]
    constructor
    · rintro ⟨rfl, rfl⟩
      exact ⟨rfl, rfl⟩
    · rintro ⟨rfl, rfl⟩
      exact ⟨rfl, rfl⟩

/-- **When a lock is handed out**: it has a name, and a caller who presents a token presents the one
handed out last, if there is one. Only the table of the locks changes. -/
theorem acquire_eq_ok_iff {identifier : String} {existing : Option LockToken} {fresh t : LockToken}
    {s' : Store} :
    s.acquire identifier existing fresh = .ok (t, s') ↔ identifier.isEmpty = false ∧
      (∀ presented ∈ existing, ∀ current ∈ s.holder? identifier, presented = current) ∧
        t = fresh ∧ s' = { s with locks := setLock identifier fresh s.locks } := by
  have hhanded : (Except.ok (fresh, { s with locks := setLock identifier fresh s.locks }) :
      Except BackendError (LockToken × Store)) = .ok (t, s') ↔
        t = fresh ∧ s' = { s with locks := setLock identifier fresh s.locks } := by
    rw [Except.ok.injEq, Prod.mk.injEq]
    constructor
    · rintro ⟨rfl, rfl⟩
      exact ⟨rfl, rfl⟩
    · rintro ⟨rfl, rfl⟩
      exact ⟨rfl, rfl⟩
  unfold acquire
  cases identifier.isEmpty with
  | true => simp
  | false =>
    rw [if_neg Bool.false_ne_true]
    cases existing with
    | none =>
      dsimp only
      rw [hhanded]
      simp
    | some presented =>
      cases s.holder? identifier with
      | none =>
        dsimp only
        rw [hhanded]
        simp
      | some current =>
        dsimp only
        by_cases h : presented = current
        · rw [if_pos h, hhanded]
          simp [h]
        · rw [if_neg h]
          simp [h]

theorem lookup_cons_eq (name other : String) (held : LockToken) (rest : List (String × LockToken)) :
    ((name, held) :: rest).lookup other =
      if other = name then some held else rest.lookup other := by
  by_cases h : other = name
  · simp [h]
  · rw [List.lookup_cons, beq_eq_false_iff_ne.2 h, if_neg h]

/-- A lock that is handed out is held under its new token, and the others are left alone. -/
theorem lookup_setLock (identifier other : String) (token : LockToken)
    (locks : List (String × LockToken)) : (setLock identifier token locks).lookup other =
      if other = identifier then some token else locks.lookup other := by
  induction locks with
  | nil =>
    rw [setLock, lookup_cons_eq]
  | cons lock rest ih =>
    obtain ⟨name, held⟩ := lock
    rw [setLock]
    by_cases hname : identifier = name
    · rw [if_pos hname, lookup_cons_eq, lookup_cons_eq, ← hname]
      by_cases h : other = identifier
      · rw [if_pos h, if_pos h]
      · rw [if_neg h, if_neg h, if_neg h]
    · rw [if_neg hname, lookup_cons_eq, lookup_cons_eq, ih]
      by_cases h : other = name
      · rw [if_pos h, if_pos h, if_neg fun heq => hname (heq.symm.trans h)]
      · rw [if_neg h, if_neg h]

/-! ## What every write keeps -/

/-- The rows of a store: distinct valid relationships under increasing numbers, all of them given
out before. -/
structure WellFormed (s : Store) : Prop where
  distinct : s.relationships.Nodup
  valid : ∀ row ∈ s.rows, row.relationship.validate = .ok ()
  below : ∀ row ∈ s.rows, row.number < s.nextNumber
  increasing : s.rows.Pairwise (·.number < ·.number)

namespace WellFormed

theorem empty : WellFormed {} :=
  ⟨List.nodup_nil, by simp, by simp, List.Pairwise.nil⟩

theorem insert (h : s.WellFormed) (hr : r.validate = .ok ()) : (s.insert r).WellFormed := by
  by_cases hmem : r ∈ s.relationships
  · rwa [insert_of_mem hmem]
  rw [insert_of_notMem hmem]
  refine ⟨?_, ?_, ?_, ?_⟩
  · have : (s.relationships ++ [r]).Nodup := by
      rw [List.nodup_append]
      exact ⟨h.distinct, List.nodup_singleton r, fun a ha b hb he => by
        rw [List.mem_singleton] at hb
        exact hmem (hb ▸ he ▸ ha)⟩
    simpa [relationships] using this
  · simp only [List.forall_mem_append, List.forall_mem_singleton]
    exact ⟨h.valid, hr⟩
  · simp only [List.forall_mem_append, List.forall_mem_singleton]
    exact ⟨fun row hrow => Nat.lt_succ_of_lt (h.below row hrow), Nat.lt_succ_self _⟩
  · simp only [List.pairwise_append, List.pairwise_singleton, List.mem_singleton, forall_eq,
      true_and]
    exact ⟨h.increasing, h.below⟩

theorem insertAll (h : s.WellFormed) (hbatch : ∀ r ∈ batch, r.validate = .ok ()) :
    (s.insertAll batch).WellFormed := by
  induction batch generalizing s with
  | nil => exact h
  | cons r batch ih =>
    rw [List.forall_mem_cons] at hbatch
    exact ih (h.insert hbatch.1) hbatch.2

/-- Only the rows and the next number matter. -/
theorem of_rows {s' : Store} (h : s.WellFormed) (hrows : s'.rows = s.rows)
    (hnext : s'.nextNumber = s.nextNumber) : s'.WellFormed := by
  refine ⟨?_, ?_, ?_, ?_⟩
  · rw [relationships, hrows]
    exact h.distinct
  · rw [hrows]
    exact h.valid
  · rw [hrows, hnext]
    exact h.below
  · rw [hrows]
    exact h.increasing

theorem commit (h : s.WellFormed) : s.commit.WellFormed :=
  ⟨h.distinct, h.valid, h.below, h.increasing⟩

theorem without (h : s.WellFormed) (f : RelationshipFilter) : (s.without f).WellFormed where
  distinct := h.distinct.sublist (List.filter_sublist.map _)
  valid row hrow := h.valid row (List.mem_of_mem_filter hrow)
  below row hrow := h.below row (List.mem_of_mem_filter hrow)
  increasing := h.increasing.filter _

end WellFormed

end RelationGate.Store
