import RelationGate.Proofs.Outcome
import RelationGate.Proofs.Store.Operations

/-!
# Batches of relationships

A batch that must be new goes through as a whole or not at all; a batch that only touches goes
through as far as it is new.

* `conflict?_eq_some_iff`: which relationship of a batch a conflict names.
* `insertAll_eq`: what a batch adds to a store, each relationship once, in the order of its first
  occurrence (`newcomers`), under consecutive numbers (`numbered`).
* `create_all_or_nothing`: when a batch that must be new goes through, what is said otherwise, and
  that touching the same batch is the same then; what touching leaves, and that touching again adds
  nothing and that the order of two batches does not matter.
-/

namespace RelationGate

open Store

/-! ## Which batches are refused -/

/-- The first relationship of a batch that breaks a rule, and which one. -/
def FirstInvalid (batch : List Relationship) (e : BackendError) : Prop :=
  ∃ earlier r later, batch = earlier ++ r :: later ∧ (∀ x ∈ earlier, x.validate = .ok ()) ∧
    r.validate = .error e

/-- The first relationship of a batch that is stored or repeats an earlier one of the batch. -/
def FirstConflict (s : Store) (batch : List Relationship) (r : Relationship) : Prop :=
  ∃ earlier later, batch = earlier ++ r :: later ∧
    (earlier.Nodup ∧ ∀ x ∈ earlier, x ∉ s.relationships) ∧ (r ∈ s.relationships ∨ r ∈ earlier)

theorem checkName_eq_error {field : String} {fault : Option NameFault} {e : BackendError}
    (h : checkName field fault = .error e) : e.kind = .invalidArgument := by
  cases fault with
  | none => cases h
  | some f =>
    cases h
    rfl

theorem ObjectRef.validate_eq_error {o : ObjectRef} {e : BackendError}
    (h : o.validate = .error e) : e.kind = .invalidArgument := by
  obtain h | ⟨-, -, h⟩ := bind_eq_error_iff.1 h
  · exact checkName_eq_error h
  · exact checkName_eq_error h

theorem SubjectRef.validate_eq_error {s : SubjectRef} {e : BackendError}
    (h : s.validate = .error e) : e.kind = .invalidArgument := by
  obtain h | ⟨-, -, h⟩ := bind_eq_error_iff.1 h
  · exact ObjectRef.validate_eq_error h
  · cases hrelation : s.relation with
    | none =>
      rw [hrelation] at h
      cases h
    | some name =>
      rw [hrelation] at h
      exact checkName_eq_error h

/-- A relationship that breaks a rule is an invalid argument. -/
theorem Relationship.validate_eq_error {r : Relationship} {e : BackendError}
    (h : r.validate = .error e) : e.kind = .invalidArgument := by
  obtain h | ⟨-, -, h⟩ := bind_eq_error_iff.1 h
  · exact ObjectRef.validate_eq_error h
  obtain h | ⟨-, -, h⟩ := bind_eq_error_iff.1 h
  · exact checkName_eq_error h
  · exact SubjectRef.validate_eq_error h

theorem forM_validate_eq_error_iff {batch : List Relationship} {e : BackendError} :
    batch.forM Relationship.validate = .error e ↔ FirstInvalid batch e := by
  induction batch with
  | nil => simp [FirstInvalid, pure, Except.pure]
  | cons r batch ih =>
    rw [List.forM]
    cases hr : r.validate with
    | error f =>
      constructor
      · intro h
        cases h
        exact ⟨[], r, batch, rfl, by simp, hr⟩
      · rintro ⟨earlier, x, later, hbatch, hvalid, hx⟩
        cases earlier with
        | nil =>
          obtain ⟨rfl, -⟩ := List.cons.inj hbatch
          exact hr.symm.trans hx
        | cons y earlier =>
          obtain ⟨rfl, -⟩ := List.cons.inj hbatch
          cases hr.symm.trans (hvalid r List.mem_cons_self)
    | ok u =>
      refine Iff.trans ih ?_
      constructor
      · rintro ⟨earlier, x, later, rfl, hvalid, hx⟩
        exact ⟨r :: earlier, x, later, rfl, List.forall_mem_cons.2 ⟨hr, hvalid⟩, hx⟩
      · rintro ⟨earlier, x, later, hbatch, hvalid, hx⟩
        cases earlier with
        | nil =>
          obtain ⟨rfl, -⟩ := List.cons.inj hbatch
          cases hr.symm.trans hx
        | cons y earlier =>
          obtain ⟨rfl, rfl⟩ := List.cons.inj hbatch
          exact ⟨earlier, x, later, rfl, (List.forall_mem_cons.1 hvalid).2, hx⟩

namespace Store

variable {s : Store} {batch : List Relationship} {r : Relationship}

/-- Behind some relationships of a batch that have been seen, the conflict is the first one that is
stored, has been seen or repeats one since. -/
theorem conflict?_eq_some_of_seen {seen : List Relationship} :
    s.conflict? seen batch = some r ↔ ∃ earlier later, batch = earlier ++ r :: later ∧
      (earlier.Nodup ∧ ∀ x ∈ earlier, x ∉ s.relationships ∧ x ∉ seen) ∧
      (r ∈ s.relationships ∨ r ∈ seen ∨ r ∈ earlier) := by
  induction batch generalizing seen with
  | nil => simp [conflict?]
  | cons y batch ih =>
    simp only [conflict?, contains_iff]
    by_cases h : y ∈ s.relationships ∨ y ∈ seen
    · rw [if_pos h]
      constructor
      · intro hy
        obtain rfl := Option.some.inj hy
        exact ⟨[], batch, rfl, ⟨List.nodup_nil, by simp⟩, h.imp_right .inl⟩
      · rintro ⟨earlier, later, hbatch, ⟨-, hnew⟩, -⟩
        cases earlier with
        | nil => rw [(List.cons.inj hbatch).1]
        | cons z earlier =>
          obtain ⟨rfl, -⟩ := List.cons.inj hbatch
          obtain ⟨hstored, hseen⟩ := hnew y List.mem_cons_self
          exact absurd h (not_or.2 ⟨hstored, hseen⟩)
    · rw [if_neg h, ih]
      rw [not_or] at h
      constructor
      · rintro ⟨earlier, later, rfl, ⟨hnodup, hnew⟩, hr⟩
        refine ⟨y :: earlier, later, rfl, ⟨?_, List.forall_mem_cons.2 ⟨h, fun x hx => ?_⟩⟩, ?_⟩
        · exact List.nodup_cons.2 ⟨fun hy => (hnew y hy).2 List.mem_cons_self, hnodup⟩
        · exact ⟨(hnew x hx).1, fun hseen => (hnew x hx).2 (List.mem_cons_of_mem _ hseen)⟩
        · rw [List.mem_cons] at hr ⊢
          tauto
      · rintro ⟨earlier, later, hbatch, ⟨hnodup, hnew⟩, hr⟩
        cases earlier with
        | nil =>
          obtain ⟨rfl, -⟩ := List.cons.inj hbatch
          simp [h] at hr
        | cons z earlier =>
          obtain ⟨rfl, rfl⟩ := List.cons.inj hbatch
          rw [List.nodup_cons] at hnodup
          refine ⟨earlier, later, rfl, ⟨hnodup.2, fun x hx => ?_⟩, ?_⟩
          · obtain ⟨hstored, hseen⟩ := hnew x (List.mem_cons_of_mem _ hx)
            refine ⟨hstored, fun hmem => ?_⟩
            obtain rfl | hmem := List.mem_cons.1 hmem
            · exact hnodup.1 hx
            · exact hseen hmem
          · rw [List.mem_cons] at hr ⊢
            tauto

/-- **Which relationship a conflict names.** -/
theorem conflict?_eq_some_iff : s.conflict? [] batch = some r ↔ FirstConflict s batch r := by
  rw [conflict?_eq_some_of_seen, FirstConflict]
  simp only [List.not_mem_nil, not_false_eq_true, and_true, false_or]

/-- **Why a batch is refused**: something in it breaks a rule, or it must be new and is not. -/
theorem create_eq_error_iff {mode : WriteMode} {e : BackendError} :
    s.create batch mode = .error e ↔ FirstInvalid batch e ∨
      (∀ r ∈ batch, r.validate = .ok ()) ∧ mode = .create ∧
        ∃ r, FirstConflict s batch r ∧ e = ⟨.alreadyExists, r.text⟩ := by
  rw [← forM_validate_eq_ok_iff, ← forM_validate_eq_error_iff, create]
  cases hvalid : batch.forM Relationship.validate with
  | error f => simp [bind, Except.bind]
  | ok u =>
    cases mode with
    | touch => simp [bind, Except.bind, pure, Except.pure]
    | create =>
      simp only [← conflict?_eq_some_iff]
      cases s.conflict? [] batch with
      | none => simp [bind, Except.bind, pure, Except.pure]
      | some r =>
        simp only [bind, Except.bind, throw, throwThe, MonadExceptOf.throw, if_true, reduceCtorEq,
          false_or, true_and, Except.error.injEq, Option.some.injEq, exists_eq_left', eq_comm]

/-! ## What a batch adds -/

/-- The relationships of a batch that are not stored, each once, in the order of their first
occurrence. -/
def newcomers (s : Store) (batch : List Relationship) : List Relationship :=
  (batch.filter (!s.contains ·)).eraseDups

/-- Relationships as rows under consecutive numbers. -/
def numbered (first : Nat) (rs : List Relationship) : List Row :=
  (rs.zipIdx first).map fun p => ⟨p.2, p.1⟩

theorem mem_newcomers : r ∈ s.newcomers batch ↔ r ∈ batch ∧ r ∉ s.relationships := by
  rw [newcomers, List.mem_eraseDups, List.mem_filter, ← contains_iff, Bool.not_eq_true',
    Bool.not_eq_true]

theorem newcomers_cons_of_mem (h : r ∈ s.relationships) :
    s.newcomers (r :: batch) = s.newcomers batch := by
  rw [newcomers, List.filter_cons_of_neg (by simpa [contains_iff] using h)]
  rfl

/-- One that is new stands first, and after it has been stored it is not new any more. -/
theorem newcomers_cons_of_notMem (h : r ∉ s.relationships) :
    s.newcomers (r :: batch) = r :: (s.insert r).newcomers batch := by
  have hnew : s.contains r = false := by
    rw [← Bool.not_eq_true, contains_iff]
    exact h
  rw [newcomers, List.filter_cons_of_pos (by simp [hnew]), List.eraseDups_cons,
    List.filter_filter, newcomers]
  congr 2
  refine List.filter_congr fun x _ => ?_
  rw [Bool.eq_iff_iff]
  simp only [Bool.and_eq_true, Bool.not_eq_true', ← Bool.not_eq_true, beq_iff_eq, contains_iff,
    mem_relationships_insert, not_or, and_comm]

theorem nodup_newcomers (s : Store) (batch : List Relationship) : (s.newcomers batch).Nodup := by
  induction batch generalizing s with
  | nil => exact List.nodup_nil
  | cons r batch ih =>
    by_cases h : r ∈ s.relationships
    · rw [newcomers_cons_of_mem h]
      exact ih s
    · rw [newcomers_cons_of_notMem h, List.nodup_cons, mem_newcomers, mem_relationships_insert]
      exact ⟨by simp, ih _⟩

/-- **What a batch adds to a store**: rows for the newcomers, under the next numbers. -/
theorem insertAll_eq (s : Store) (batch : List Relationship) :
    s.insertAll batch =
      { s with
        rows := s.rows ++ numbered s.nextNumber (s.newcomers batch)
        nextNumber := s.nextNumber + (s.newcomers batch).length } := by
  induction batch generalizing s with
  | nil => simp [newcomers, numbered]
  | cons r batch ih =>
    rw [insertAll_cons, ih]
    by_cases h : r ∈ s.relationships
    · rw [insert_of_mem h, newcomers_cons_of_mem h]
    · rw [newcomers_cons_of_notMem h, insert_of_notMem h]
      simp only [numbered, List.zipIdx_cons, List.map_cons, List.length_cons, List.append_assoc,
        List.singleton_append, Store.mk.injEq, and_true, true_and]
      omega

/-- A batch that is stored adds nothing. -/
theorem insertAll_of_subset (h : ∀ r ∈ batch, r ∈ s.relationships) : s.insertAll batch = s := by
  have hnone : s.newcomers batch = [] := List.eq_nil_iff_forall_not_mem.2 fun r hr =>
    (mem_newcomers.1 hr).2 (h r (mem_newcomers.1 hr).1)
  rw [insertAll_eq, hnone]
  simp [numbered]

/-- The numbers given to newcomers are higher than all that were given before. -/
theorem WellFormed.numbered_fresh (h : s.WellFormed) (rs : List Relationship) :
    ∀ row ∈ numbered s.nextNumber rs, ∀ old ∈ s.rows, old.number < row.number := by
  intro row hrow old hold
  obtain ⟨⟨r, n⟩, hp, rfl⟩ := List.mem_map.1 hrow
  have hn := (List.mem_zipIdx hp).1
  have := h.below old hold
  simp only
  omega

end Store

namespace Backend

variable {b : Backend}

/-! ## Batches given to the backend -/

/-- The backend after a batch has been touched. -/
def touch (b : Backend) (batch : List Relationship) : Backend :=
  (b.perform (.create batch .touch)).2

/-- What comes of a batch given to an available backend. -/
theorem perform_create_cases (hup : b.isAvailable = true) (batch : List Relationship)
    (mode : WriteMode) :
    (∃ t store, b.store.create batch mode = .ok (t, store) ∧
        b.perform (.create batch mode) = (.ok t, { b with store })) ∨
      ∃ e, b.store.create batch mode = .error e ∧
        b.perform (.create batch mode) = (.error e, b) := by
  have hperform : b.perform (.create batch mode) = b.written (b.store.create batch mode) := by
    show b.written (do b.checkAvailable; b.store.create batch mode) = _
    rw [checkAvailable, if_pos hup]
    rfl
  rw [hperform]
  cases b.store.create batch mode with
  | error e => exact .inr ⟨e, rfl, rfl⟩
  | ok r => exact .inl ⟨r.1, r.2, rfl, rfl⟩

/-- **Touching a valid batch goes through.** -/
theorem perform_touch (hup : b.isAvailable = true) {batch : List Relationship}
    (hvalid : ∀ r ∈ batch, r.validate = .ok ()) :
    b.perform (.create batch .touch) =
      (.ok (b.store.insertAll batch).commit.token,
        { b with store := (b.store.insertAll batch).commit }) := by
  have hcreate := create_eq_ok_iff (s := b.store) (t := (b.store.insertAll batch).commit.token)
    |>.2 ⟨hvalid, (nofun : WriteMode.touch = .create → _), rfl, rfl⟩
  obtain ⟨t, store, h, hperform⟩ | ⟨e, h, -⟩ := b.perform_create_cases hup batch .touch
  · cases hcreate.symm.trans h
    exact hperform
  · cases hcreate.symm.trans h

theorem touch_store (hup : b.isAvailable = true) {batch : List Relationship}
    (hvalid : ∀ r ∈ batch, r.validate = .ok ()) :
    (b.touch batch).store = (b.store.insertAll batch).commit := by
  rw [touch, perform_touch hup hvalid]

theorem touch_isAvailable (hup : b.isAvailable = true) {batch : List Relationship}
    (hvalid : ∀ r ∈ batch, r.validate = .ok ()) : (b.touch batch).isAvailable = true := by
  rw [touch, perform_touch hup hvalid]
  exact hup

theorem mem_relationships_touch (hup : b.isAvailable = true) {batch : List Relationship}
    (hvalid : ∀ r ∈ batch, r.validate = .ok ()) {r : Relationship} :
    r ∈ (b.touch batch).store.relationships ↔ r ∈ b.store.relationships ∨ r ∈ batch := by
  rw [touch_store hup hvalid, commit_relationships, mem_relationships_insertAll]

/-- **A batch goes through as a whole or not at all, and touching extends that.** On an available
backend a batch that must be new goes through if and only if all of it is valid and none of it is
stored or repeated. Otherwise nothing changes, and the caller is told of the first relationship that
breaks a rule or, if none does, of the first that is stored or repeats an earlier one. Whenever the
batch goes through, touching it has the same outcome.

Touching a valid batch always goes through: the rows stay as they are, and behind them come those of
the batch that were missing, each once, in the order of their first occurrence, under the next
numbers, which no row has had in a well-formed store. Touching the batch again only counts one more
write, and of two batches it does not matter which one is touched first. -/
theorem create_all_or_nothing (hup : b.isAvailable = true) (batch : List Relationship) :
    ((∃ t, (b.perform (.create batch .create)).1 = .ok t) ↔
        (∀ r ∈ batch, r.validate = .ok ()) ∧ batch.Nodup ∧ ∀ r ∈ batch, r ∉ b.store.relationships) ∧
      (∀ e, (b.perform (.create batch .create)).1 = .error e →
        (b.perform (.create batch .create)).2 = b ∧
          (FirstInvalid batch e ∧ e.kind = .invalidArgument ∨
            (∀ r ∈ batch, r.validate = .ok ()) ∧
              ∃ r, FirstConflict b.store batch r ∧ e = ⟨.alreadyExists, r.text⟩)) ∧
      ((∃ t, (b.perform (.create batch .create)).1 = .ok t) →
        b.perform (.create batch .touch) = b.perform (.create batch .create)) ∧
      ((∀ r ∈ batch, r.validate = .ok ()) →
        (b.perform (.create batch .touch)).1 = .ok (b.touch batch).store.token ∧
          b.touch batch =
            { b with
              store :=
                { b.store with
                  rows := b.store.rows ++ numbered b.store.nextNumber (b.store.newcomers batch)
                  nextNumber := b.store.nextNumber + (b.store.newcomers batch).length
                  revision := b.store.revision + 1 } } ∧
          (b.store.newcomers batch).Nodup ∧
          (∀ r, r ∈ b.store.newcomers batch ↔ r ∈ batch ∧ r ∉ b.store.relationships) ∧
          (b.store.WellFormed → ∀ row ∈ numbered b.store.nextNumber (b.store.newcomers batch),
            ∀ old ∈ b.store.rows, old.number < row.number) ∧
          (b.touch batch).touch batch =
            { b.touch batch with
              store := { (b.touch batch).store with revision := b.store.revision + 2 } } ∧
          ∀ other, (∀ r ∈ other, r.validate = .ok ()) → ∀ r,
            r ∈ ((b.touch batch).touch other).store.relationships ↔
              r ∈ ((b.touch other).touch batch).store.relationships) := by
  refine ⟨?_, fun e he => ?_, fun ⟨t, ht⟩ => ?_, fun hvalid => ?_⟩
  · obtain ⟨t, store, hcreate, hperform⟩ | ⟨e, hcreate, hperform⟩ :=
      b.perform_create_cases hup batch .create
    · obtain ⟨hvalid, hnew, -⟩ := create_eq_ok_iff.1 hcreate
      exact iff_of_true ⟨t, by rw [hperform]⟩ ⟨hvalid, hnew rfl⟩
    · refine iff_of_false (fun ⟨t, ht⟩ => ?_) fun ⟨hvalid, hnew⟩ => ?_
      · rw [hperform] at ht
        cases ht
      · cases hcreate.symm.trans (create_eq_ok_iff.2 ⟨hvalid, fun _ => hnew, rfl, rfl⟩)
  · obtain ⟨t, store, hcreate, hperform⟩ | ⟨f, hcreate, hperform⟩ :=
      b.perform_create_cases hup batch .create
    · rw [hperform] at he
      cases he
    · rw [hperform] at he ⊢
      obtain rfl := Except.error.inj he
      refine ⟨rfl, (create_eq_error_iff.1 hcreate).imp (fun h => ⟨h, ?_⟩) fun h => ⟨h.1, h.2.2⟩⟩
      obtain ⟨-, r, -, -, -, hr⟩ := h
      exact Relationship.validate_eq_error hr
  · obtain ⟨t', store, hcreate, hperform⟩ | ⟨e, hcreate, hperform⟩ :=
      b.perform_create_cases hup batch .create
    · obtain ⟨hvalid, -, rfl, rfl⟩ := create_eq_ok_iff.1 hcreate
      rw [perform_touch hup hvalid]
      exact hperform.symm
    · rw [hperform] at ht
      cases ht
  · have hup' := touch_isAvailable hup hvalid
    have hstored : ∀ r ∈ batch, r ∈ (b.touch batch).store.relationships := fun r hr =>
      (mem_relationships_touch hup hvalid).2 (.inr hr)
    refine ⟨?_, ?_, b.store.nodup_newcomers batch, fun r => mem_newcomers,
      fun h => h.numbered_fresh _, ?_, fun other hother r => ?_⟩
    · rw [touch_store hup hvalid, perform_touch hup hvalid]
    · rw [touch, perform_touch hup hvalid, insertAll_eq]
      rfl
    · rw [touch, perform_touch hup' hvalid, insertAll_of_subset hstored, commit,
        touch_store hup hvalid, commit_revision, insertAll_revision]
    · rw [mem_relationships_touch hup' hother, mem_relationships_touch hup hvalid,
        mem_relationships_touch (touch_isAvailable hup hother) hvalid,
        mem_relationships_touch hup hother, or_right_comm]

/-- A batch with a repeat is not new, and touching it stores the relationship once. -/
theorem create_all_or_nothing_repeat :
    let b : Backend := { mint := fun n => ⟨Number.decimal n⟩ }
    let r : Relationship := ⟨⟨"document", "readme"⟩, "viewer", ⟨⟨"user", "alice"⟩, none⟩⟩
    b.isAvailable = true ∧ (∀ x ∈ [r, r], x.validate = .ok ()) ∧
      (∃ e, b.perform (.create [r, r] .create) = (.error e, b)) ∧
      (b.touch [r, r]).store.rows = [⟨0, r⟩] := by
  intro b r
  have hvalid : ∀ x ∈ [r, r], x.validate = .ok () := by decide +kernel
  obtain ⟨hnew, hrefused, -, htouched⟩ := create_all_or_nothing (b := b) rfl [r, r]
  obtain ⟨-, hstore, -⟩ := htouched hvalid
  refine ⟨rfl, hvalid, ?_, ?_⟩
  · cases h : (b.perform (.create [r, r] .create)).1 with
    | ok t => simpa using (hnew.1 ⟨t, h⟩).2.1
    | error e => exact ⟨e, Prod.ext h (hrefused e h).1⟩
  · rw [hstore]
    decide +kernel

end Backend

end RelationGate
