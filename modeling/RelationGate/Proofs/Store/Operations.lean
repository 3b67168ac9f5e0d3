import RelationGate.Proofs.Store.Writes

/-!
# What the operations do to the backend

An operation is struck by a disturbance, or performed on the store (`react_cases`). A performed one
that writes leaves what the write leaves, or nothing (`perform_create`, `perform_delete`), a check
only reads (`perform_check`), and no operation changes the make of the backend (`react_make`).
-/

namespace RelationGate.Backend

open Store

variable {b : Backend}

/-! ## Disturbances -/

theorem react_eq_perform {op : Operation} (hpanic : (b.disturbance op.kind).panic = none)
    (herror : (b.disturbance op.kind).error = none) :
    b.react op = (.answered (b.perform op).1, (b.perform op).2) := by
  simp only [react, hpanic, herror]

/-- A reaction is what the operation performed gives, unless a disturbance is in the way. -/
theorem react_cases (b : Backend) (op : Operation) :
    b.react op = (.answered (b.perform op).1, (b.perform op).2) ∨
      (b.react op).2 = b ∧ ∀ a, (b.react op).1 ≠ .answered (.ok a) := by
  cases hpanic : (b.disturbance op.kind).panic with
  | some words => exact .inr (by simp [react, hpanic])
  | none =>
    cases herror : (b.disturbance op.kind).error with
    | some e => exact .inr (by simp [react, hpanic, herror])
    | none => exact .inl (react_eq_perform hpanic herror)

/-! ## Writes -/

theorem checkAvailable_bind_eq_ok {α : Type} {f : Unit → Except BackendError α} {a : α}
    (h : b.checkAvailable >>= f = .ok a) : f () = .ok a := by
  cases hb : b.checkAvailable with
  | error e =>
    rw [hb] at h
    cases h
  | ok u =>
    rw [hb] at h
    exact h

/-- What an attempted write on the store leaves. -/
theorem written_cases {α : Type} (b : Backend) (attempt : Except BackendError (α × Store)) :
    (∃ a store, attempt = .ok (a, store) ∧ b.written attempt = (.ok a, { b with store })) ∨
      ∃ e, b.written attempt = (.error e, b) := by
  rcases attempt with e | ⟨a, store⟩
  · exact .inr ⟨e, rfl⟩
  · exact .inl ⟨a, store, rfl, rfl⟩

/-- What comes of a creating operation. -/
theorem perform_create (b : Backend) (batch : List Relationship) (mode : WriteMode) :
    (∃ t, (b.perform (.create batch mode)).1 = .ok t ∧ (∀ r ∈ batch, r.validate = .ok ()) ∧
        (b.perform (.create batch mode)).2.store = (b.store.insertAll batch).commit ∧
        t = (b.perform (.create batch mode)).2.store.token) ∨
      ∃ e, b.perform (.create batch mode) = (.error e, b) := by
  obtain ⟨t, store, h, hw⟩ | ⟨e, hw⟩ :=
    b.written_cases (do b.checkAvailable; b.store.create batch mode)
  · obtain ⟨hvalid, -, hstore, ht⟩ := create_eq_ok_iff.1 (checkAvailable_bind_eq_ok h)
    have hwritten : (b.perform (.create batch mode)).2.store = store := congrArg (·.2.store) hw
    exact .inl ⟨t, congrArg (·.1) hw, hvalid, hwritten.trans hstore, hwritten ▸ ht⟩
  · exact .inr ⟨e, hw⟩

/-- What comes of a deleting operation. -/
theorem perform_delete (b : Backend) (f : RelationshipFilter) :
    (∃ t, (b.perform (.delete f)).1 = .ok t ∧
        (b.perform (.delete f)).2.store = (b.store.without f).commit ∧
        t = (b.perform (.delete f)).2.store.token) ∨
      ∃ e, b.perform (.delete f) = (.error e, b) := by
  obtain ⟨t, store, h, hw⟩ | ⟨e, hw⟩ := b.written_cases (do b.checkAvailable; b.store.delete f)
  · obtain ⟨-, hstore, ht⟩ := delete_eq_ok_iff.1 (checkAvailable_bind_eq_ok h)
    have hwritten : (b.perform (.delete f)).2.store = store := congrArg (·.2.store) hw
    exact .inl ⟨t, congrArg (·.1) hw, hwritten.trans hstore, hwritten ▸ ht⟩
  · exact .inr ⟨e, hw⟩

/-- What comes of an acquisition: the token that was presented, from a backend that only gives those
back; a fresh token, and a changed table of the locks; or a failure. -/
theorem acquire_cases (b : Backend) (identifier : String) (existing : Option LockToken) :
    (b.echoesLocks = true ∧
        b.acquire identifier existing = (.ok (existing.getD ⟨"first"⟩), b)) ∨
      (b.echoesLocks = false ∧ b.acquire identifier existing = (.ok (b.mint b.minted),
        { b with
          store := { b.store with locks := setLock identifier (b.mint b.minted) b.store.locks }
          minted := b.minted + 1 })) ∨
      ∃ e, b.acquire identifier existing = (.error e, b) := by
  rw [acquire]
  cases b.echoesLocks with
  | true => exact .inl ⟨rfl, rfl⟩
  | false =>
    refine .inr ?_
    cases b.checkAvailable with
    | error e => exact .inr ⟨e, rfl⟩
    | ok u =>
      cases h : b.store.acquire identifier existing (b.mint b.minted) with
      | error e => exact .inr ⟨e, rfl⟩
      | ok r =>
        obtain ⟨t, store⟩ := r
        obtain ⟨-, -, rfl, rfl⟩ := acquire_eq_ok_iff.1 h
        exact .inl ⟨rfl, rfl⟩

/-! ## Reads -/

/-- What a check says: whether the relationship is stored, and the point in history. -/
theorem check_eq_ok {s : Store} {q : CheckQuery} {r : CheckResult} (h : s.check q = .ok r) :
    r = ⟨if s.contains ⟨q.resource, q.permission, q.subject⟩ then .hasPermission
      else .noPermission, s.token⟩ := by
  rw [Store.check] at h
  cases hfresh : s.checkFreshness q.consistency with
  | error e =>
    rw [hfresh] at h
    cases h
  | ok u =>
    rw [hfresh] at h
    cases h
    rfl

/-- The answer to a check of an available backend that asks for no freshness. -/
theorem perform_check (havailable : b.isAvailable = true) {q : CheckQuery}
    (hq : q.consistency = .minimizeLatency) :
    (b.perform (.check q)).1 = .ok ⟨if b.store.contains ⟨q.resource, q.permission, q.subject⟩ then
      .hasPermission else .noPermission, b.store.token⟩ := by
  show (do b.checkAvailable; b.store.check q) = _
  rw [checkAvailable, if_pos havailable, Store.check, hq]
  rfl

/-! ## The make of the backend -/

theorem written_make {α : Type} (b : Backend) (attempt : Except BackendError (α × Store)) :
    (b.written attempt).2.script = b.script ∧ (b.written attempt).2.buffer = b.buffer := by
  rcases attempt with e | ⟨a, store⟩
  · exact ⟨rfl, rfl⟩
  · exact ⟨rfl, rfl⟩

theorem acquire_make (b : Backend) (identifier : String) (existing : Option LockToken) :
    (b.acquire identifier existing).2.script = b.script ∧
      (b.acquire identifier existing).2.buffer = b.buffer := by
  obtain ⟨-, h⟩ | ⟨-, h⟩ | ⟨e, h⟩ := b.acquire_cases identifier existing
  all_goals rw [h]; exact ⟨rfl, rfl⟩

/-- No operation changes the make of the backend. -/
theorem react_make (b : Backend) (op : Operation) :
    (b.react op).2.script = b.script ∧ (b.react op).2.buffer = b.buffer := by
  obtain hr | ⟨hb, -⟩ := b.react_cases op
  · rw [hr]
    cases op with
    | check q => exact ⟨rfl, rfl⟩
    | available => exact ⟨rfl, rfl⟩
    | create batch mode => exact b.written_make _
    | delete f => exact b.written_make _
    | acquire identifier existing => exact b.acquire_make identifier existing
  · rw [hb]
    exact ⟨rfl, rfl⟩

/-! ## The supply of lock tokens -/

theorem written_supply {α : Type} (b : Backend) (attempt : Except BackendError (α × Store)) :
    (b.written attempt).2.mint = b.mint ∧ b.minted ≤ (b.written attempt).2.minted := by
  rcases attempt with e | ⟨a, store⟩
  · exact ⟨rfl, Nat.le_refl _⟩
  · exact ⟨rfl, Nat.le_refl _⟩

theorem acquire_supply (b : Backend) (identifier : String) (existing : Option LockToken) :
    (b.acquire identifier existing).2.mint = b.mint ∧
      b.minted ≤ (b.acquire identifier existing).2.minted := by
  obtain ⟨-, h⟩ | ⟨-, h⟩ | ⟨e, h⟩ := b.acquire_cases identifier existing
  · rw [h]
    exact ⟨rfl, Nat.le_refl _⟩
  · rw [h]
    exact ⟨rfl, Nat.le_succ _⟩
  · rw [h]
    exact ⟨rfl, Nat.le_refl _⟩

/-- Lock tokens are only taken from their supply. -/
theorem react_supply (b : Backend) (op : Operation) :
    (b.react op).2.mint = b.mint ∧ b.minted ≤ (b.react op).2.minted := by
  obtain hr | ⟨hb, -⟩ := b.react_cases op
  · rw [hr]
    cases op with
    | check q => exact ⟨rfl, Nat.le_refl _⟩
    | available => exact ⟨rfl, Nat.le_refl _⟩
    | create batch mode => exact b.written_supply _
    | delete f => exact b.written_supply _
    | acquire identifier existing => exact b.acquire_supply identifier existing
  · rw [hb]
    exact ⟨rfl, Nat.le_refl _⟩

end RelationGate.Backend
