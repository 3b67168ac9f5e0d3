import RelationGate.Proofs.Store.Operations

/-!
# The store as the outcome of its history

A run of the backend is a list of acts. Most of them leave the rows alone: operations that are only
noted, reads, lock acquisitions, switches, and whatever fails (`act_cases`). The others are the
writes, and the log of the writes of a run decides what the store holds afterwards:

* `mem_after_iff_held`: a relationship is stored exactly when the log says that it is held, which
  looks at the last write that brought it and at the deletions since.
* `insertions_numbers`: the rows that the acts of a run insert are numbered consecutively, so no
  number is given twice, deletions or not.
* `run_refines_history`: what holds of every state that a run from the empty store reaches.
-/

namespace RelationGate

open Store

/-- What happens to a backend. Streams read a snapshot, so that nothing but their note is left. -/
inductive Act where
  | note (issued : Issued)
  | perform (op : Operation)
  | switch (isAvailable : Bool)

/-- A write that has gone through. -/
inductive Write where
  | stored (batch : List Relationship)
  | deleted (filter : RelationshipFilter)
  deriving DecidableEq

namespace Backend

/-- The backend after an act. -/
def act (b : Backend) : Act → Backend
  | .note issued => b.note issued
  | .perform op => (b.react op).2
  | .switch isAvailable => { b with isAvailable }

/-- The backend after a run. -/
def after (b : Backend) (acts : List Act) : Backend := acts.foldl act b

/-- The write that an act makes, if it is one and goes through. -/
def write? (b : Backend) : Act → Option Write
  | .perform (.create batch mode) =>
    match (b.react (.create batch mode)).1 with
    | .answered (.ok _) => some (.stored batch)
    | _ => none
  | .perform (.delete f) =>
    match (b.react (.delete f)).1 with
    | .answered (.ok _) => some (.deleted f)
    | _ => none
  | _ => none

/-- The writes of a run in their order. -/
def writes (b : Backend) : List Act → List Write
  | [] => []
  | a :: acts => (b.write? a).toList ++ (b.act a).writes acts

/-- The rows that the acts of a run insert, in their order. -/
def insertions (b : Backend) : List Act → List Row
  | [] => []
  | a :: acts =>
    (b.act a).store.rows.filter (· ∉ b.store.rows) ++ (b.act a).insertions acts

end Backend

/-- By the log of writes a relationship is held: after the last write that brought it, no deletion
selected it. -/
def Held (log : List Write) (r : Relationship) : Prop :=
  ∃ before batch after, log = before ++ .stored batch :: after ∧ r ∈ batch ∧
    (∀ later, Write.stored later ∈ after → r ∉ later) ∧
    ∀ f, Write.deleted f ∈ after → f.selects r = false

variable {b : Backend} {log : List Write} {r : Relationship}

/-! ## The log -/

theorem not_held_nil (r : Relationship) : ¬ Held [] r := by
  rintro ⟨before, batch, after, h, -⟩
  simp at h

/-- A list with one more entry, split at an entry: at the last one, or before it. -/
theorem append_singleton_eq_append_cons {α : Type} {l before after : List α} {w x : α}
    (h : l ++ [w] = before ++ x :: after) :
    (l = before ∧ w = x ∧ after = []) ∨ ∃ rest, after = rest ++ [w] ∧ l = before ++ x :: rest := by
  rcases List.eq_nil_or_concat' after with rfl | ⟨rest, w', rfl⟩
  · obtain ⟨hl, hw⟩ := List.append_inj' h rfl
    exact .inl ⟨hl, List.singleton_inj.1 hw, rfl⟩
  · rw [← List.cons_append, ← List.append_assoc] at h
    obtain ⟨hl, hw⟩ := List.append_inj' h rfl
    exact .inr ⟨rest, by rw [List.singleton_inj.1 hw], hl⟩

theorem held_append_stored {batch : List Relationship} :
    Held (log ++ [.stored batch]) r ↔ Held log r ∨ r ∈ batch := by
  constructor
  · rintro ⟨before, last, after, h, hlast, hlater, hdeleted⟩
    obtain ⟨-, hw, -⟩ | ⟨rest, rfl, hlog⟩ := append_singleton_eq_append_cons h
    · exact .inr (Write.stored.inj hw ▸ hlast)
    · exact .inl ⟨before, last, rest, hlog, hlast, fun l hl => hlater l (List.mem_append_left _ hl),
        fun f hf => hdeleted f (List.mem_append_left _ hf)⟩
  · intro h
    by_cases hr : r ∈ batch
    · exact ⟨log, batch, [], rfl, hr, by simp, by simp⟩
    · obtain ⟨before, last, after, rfl, hlast, hlater, hdeleted⟩ := h.resolve_right hr
      refine ⟨before, last, after ++ [.stored batch], by simp, hlast, fun l hl => ?_,
        fun f hf => ?_⟩
      · rcases List.mem_append.1 hl with hl | hl
        · exact hlater l hl
        · exact Write.stored.inj (List.mem_singleton.1 hl) ▸ hr
      · simp only [List.mem_append, List.mem_singleton, reduceCtorEq, or_false] at hf
        exact hdeleted f hf

theorem held_append_deleted {f : RelationshipFilter} :
    Held (log ++ [.deleted f]) r ↔ Held log r ∧ f.selects r = false := by
  constructor
  · rintro ⟨before, last, after, h, hlast, hlater, hdeleted⟩
    obtain ⟨-, hw, -⟩ | ⟨rest, rfl, hlog⟩ := append_singleton_eq_append_cons h
    · cases hw
    · exact ⟨⟨before, last, rest, hlog, hlast, fun l hl => hlater l (List.mem_append_left _ hl),
        fun g hg => hdeleted g (List.mem_append_left _ hg)⟩, hdeleted f (by simp)⟩
  · rintro ⟨⟨before, last, after, rfl, hlast, hlater, hdeleted⟩, hf⟩
    refine ⟨before, last, after ++ [.deleted f], by simp, hlast, fun l hl => ?_, fun g hg => ?_⟩
    · simp only [List.mem_append, List.mem_singleton, reduceCtorEq, or_false] at hl
      exact hlater l hl
    · rcases List.mem_append.1 hg with hg | hg
      · exact hdeleted g hg
      · exact Write.deleted.inj (List.mem_singleton.1 hg) ▸ hf

namespace Backend

/-! ## One act -/

/-- An operation without an answer writes nothing. -/
theorem write?_of_unanswered {op : Operation} (h : ∀ a, (b.react op).1 ≠ .answered (.ok a)) :
    b.write? (.perform op) = none := by
  cases op with
  | create batch mode =>
    rw [write?]
    split
    · exact absurd ‹_› (h _)
    · rfl
  | delete f =>
    rw [write?]
    split
    · exact absurd ‹_› (h _)
    · rfl
  | _ => rfl

/-- **What an act can do**: write nothing, but for the table of the locks; insert a batch; or
delete. -/
theorem act_cases (b : Backend) (a : Act) :
    (b.write? a = none ∧ ∃ locks, (b.act a).store = { b.store with locks }) ∨
      (∃ batch, b.write? a = some (.stored batch) ∧ (∀ r ∈ batch, r.validate = .ok ()) ∧
        (b.act a).store = (b.store.insertAll batch).commit) ∨
      ∃ f, b.write? a = some (.deleted f) ∧ (b.act a).store = (b.store.without f).commit := by
  cases a with
  | note issued => exact .inl ⟨rfl, _, rfl⟩
  | switch isAvailable => exact .inl ⟨rfl, _, rfl⟩
  | perform op =>
    simp only [act]
    obtain hr | ⟨hb, hr⟩ := b.react_cases op
    · cases op with
      | check q => exact .inl ⟨rfl, _, by rw [hr]; rfl⟩
      | available => exact .inl ⟨rfl, _, by rw [hr]; rfl⟩
      | acquire identifier existing =>
        refine .inl ⟨rfl, ?_⟩
        rw [hr]
        show ∃ locks, (b.acquire identifier existing).2.store = { b.store with locks }
        obtain ⟨-, h⟩ | ⟨-, h⟩ | ⟨e, h⟩ := b.acquire_cases identifier existing
        · exact ⟨_, by rw [h]⟩
        · exact ⟨_, by rw [h]⟩
        · exact ⟨_, by rw [h]⟩
      | create batch mode =>
        rw [write?, hr]
        obtain ⟨t, ht, hvalid, hstore, -⟩ | ⟨e, he⟩ := b.perform_create batch mode
        · exact .inr (.inl ⟨batch, by simp only [ht], hvalid, hstore⟩)
        · exact .inl ⟨by simp only [he], _, by rw [he]⟩
      | delete f =>
        rw [write?, hr]
        obtain ⟨t, ht, hstore, -⟩ | ⟨e, he⟩ := b.perform_delete f
        · exact .inr (.inr ⟨f, by simp only [ht], hstore⟩)
        · exact .inl ⟨by simp only [he], _, by rw [he]⟩
    · exact .inl ⟨write?_of_unanswered hr, _, by rw [hb]⟩

/-- No act changes the make of the backend. -/
theorem act_make (b : Backend) (a : Act) :
    (b.act a).script = b.script ∧ (b.act a).buffer = b.buffer := by
  cases a with
  | note issued => exact ⟨rfl, rfl⟩
  | switch isAvailable => exact ⟨rfl, rfl⟩
  | perform op => exact b.react_make op

/-- No act changes the supply of lock tokens but by taking from it. -/
theorem act_supply (b : Backend) (a : Act) :
    (b.act a).mint = b.mint ∧ b.minted ≤ (b.act a).minted := by
  cases a with
  | note issued => exact ⟨rfl, Nat.le_refl _⟩
  | switch isAvailable => exact ⟨rfl, Nat.le_refl _⟩
  | perform op => exact b.react_supply op

/-- Every act keeps the rows well-formed. -/
theorem act_wellFormed (h : b.store.WellFormed) (a : Act) : (b.act a).store.WellFormed := by
  obtain ⟨-, locks, hstore⟩ | ⟨batch, -, hvalid, hstore⟩ | ⟨f, -, hstore⟩ := b.act_cases a
  · rw [hstore]
    exact h.of_rows rfl rfl
  · rw [hstore]
    exact (h.insertAll hvalid).commit
  · rw [hstore]
    exact (h.without f).commit

/-- The log follows the rows through an act. -/
theorem mem_act_iff_held (a : Act) (h : ∀ r, r ∈ b.store.relationships ↔ Held log r)
    (r : Relationship) :
    r ∈ (b.act a).store.relationships ↔ Held (log ++ (b.write? a).toList) r := by
  obtain ⟨hw, locks, hstore⟩ | ⟨batch, hw, -, hstore⟩ | ⟨f, hw, hstore⟩ := b.act_cases a
  · rw [hw, Option.toList_none, List.append_nil, ← h, hstore]
    rfl
  · rw [hw, Option.toList_some, held_append_stored, ← h, hstore, commit_relationships,
      mem_relationships_insertAll]
  · rw [hw, Option.toList_some, held_append_deleted, ← h, hstore, commit_relationships,
      mem_relationships_without]

/-- A write raises the revision by one, and nothing else touches it. -/
theorem act_revision (b : Backend) (a : Act) :
    (b.act a).store.revision = b.store.revision + (b.write? a).toList.length := by
  obtain ⟨hw, locks, hstore⟩ | ⟨batch, hw, -, hstore⟩ | ⟨f, hw, hstore⟩ := b.act_cases a
  · rw [hw, hstore]
    rfl
  · rw [hw, hstore, commit_revision, insertAll_revision]
    rfl
  · rw [hw, hstore, commit_revision, without_revision]
    rfl

/-- **An act numbers the rows that it inserts consecutively**, from the next number on. -/
theorem act_inserted_numbers (h : b.store.WellFormed) (a : Act) :
    ∃ n, ((b.act a).store.rows.filter (· ∉ b.store.rows)).map (·.number) =
        List.range' b.store.nextNumber n ∧
      (b.act a).store.nextNumber = b.store.nextNumber + n := by
  obtain ⟨-, locks, hstore⟩ | ⟨batch, -, -, hstore⟩ | ⟨f, -, hstore⟩ := b.act_cases a
  · exact ⟨0, by simp [hstore], by rw [hstore]; rfl⟩
  · obtain ⟨added, hnumbers, -, hadded⟩ := b.store.insertAll_appends batch
    -- The added rows are new, for their numbers are beyond those given out so far.
    have hnew : ∀ row ∈ added, row ∉ b.store.rows := fun row hrow hold => by
      have hin := List.mem_map_of_mem (f := (·.number)) hrow
      rw [hnumbers, List.mem_range'_1] at hin
      have := h.below row hold
      omega
    refine ⟨added.length, ?_, by rw [hstore, hadded]; rfl⟩
    rw [hstore, hadded, ← hnumbers]
    simp only [commit_rows, List.filter_append]
    rw [List.filter_eq_nil_iff.2 (by simp), List.nil_append,
      List.filter_eq_self.2 (by simpa using hnew)]
  · refine ⟨0, ?_, by rw [hstore]; rfl⟩
    rw [hstore, commit_rows, without_rows, List.filter_eq_nil_iff.2, List.map_nil, List.range'_zero]
    exact fun row hrow => by simpa using List.mem_of_mem_filter hrow

/-! ## A run -/

@[simp] theorem after_nil (b : Backend) : b.after [] = b := rfl

@[simp] theorem after_cons (b : Backend) (a : Act) (acts : List Act) :
    b.after (a :: acts) = (b.act a).after acts := rfl

theorem after_supply (b : Backend) (acts : List Act) :
    (b.after acts).mint = b.mint ∧ b.minted ≤ (b.after acts).minted := by
  induction acts generalizing b with
  | nil => exact ⟨rfl, Nat.le_refl _⟩
  | cons a acts ih =>
    obtain ⟨hmint, hminted⟩ := b.act_supply a
    obtain ⟨hmint', hminted'⟩ := ih (b.act a)
    exact ⟨hmint'.trans hmint, Nat.le_trans hminted hminted'⟩

theorem after_make (b : Backend) (acts : List Act) :
    (b.after acts).script = b.script ∧ (b.after acts).buffer = b.buffer := by
  induction acts generalizing b with
  | nil => exact ⟨rfl, rfl⟩
  | cons a acts ih =>
    obtain ⟨hscript, hbuffer⟩ := b.act_make a
    obtain ⟨hscript', hbuffer'⟩ := ih (b.act a)
    exact ⟨hscript'.trans hscript, hbuffer'.trans hbuffer⟩

theorem after_append (b : Backend) (acts later : List Act) :
    b.after (acts ++ later) = (b.after acts).after later := List.foldl_append

theorem writes_append (b : Backend) (acts later : List Act) :
    b.writes (acts ++ later) = b.writes acts ++ (b.after acts).writes later := by
  induction acts generalizing b with
  | nil => rfl
  | cons a acts ih => rw [List.cons_append, writes, writes, ih, after_cons, List.append_assoc]

/-- The revision counts the writes. -/
theorem after_revision (b : Backend) (acts : List Act) :
    (b.after acts).store.revision = b.store.revision + (b.writes acts).length := by
  induction acts generalizing b with
  | nil => rfl
  | cons a acts ih => rw [after_cons, ih, act_revision, writes, List.length_append, Nat.add_assoc]

/-- A run without a write leaves the store alone, but for the table of the locks. -/
theorem after_store_of_writes_eq_nil {acts : List Act} (h : b.writes acts = []) :
    ∃ locks, (b.after acts).store = { b.store with locks } := by
  induction acts generalizing b with
  | nil => exact ⟨_, rfl⟩
  | cons a acts ih =>
    rw [writes, List.append_eq_nil_iff] at h
    obtain ⟨locks, hlater⟩ := ih h.2
    obtain ⟨-, locks', hstore⟩ | ⟨batch, hw, -⟩ | ⟨f, hw, -⟩ := b.act_cases a
    · rw [after_cons, hlater, hstore]
      exact ⟨_, rfl⟩
    · simp [hw] at h
    · simp [hw] at h

theorem after_wellFormed (h : b.store.WellFormed) (acts : List Act) :
    (b.after acts).store.WellFormed := by
  induction acts generalizing b with
  | nil => exact h
  | cons a acts ih => exact ih (b.act_wellFormed h a)

/-- **The log decides what is stored.** -/
theorem mem_after_iff_held (acts : List Act) (h : ∀ r, r ∈ b.store.relationships ↔ Held log r)
    (r : Relationship) :
    r ∈ (b.after acts).store.relationships ↔ Held (log ++ b.writes acts) r := by
  induction acts generalizing b log with
  | nil => rw [after_nil, writes, List.append_nil, h]
  | cons a acts ih =>
    rw [after_cons, writes, ← List.append_assoc]
    exact ih (mem_act_iff_held a h)

/-- **The insertions of a run are numbered consecutively.** -/
theorem insertions_numbers (h : b.store.WellFormed) (acts : List Act) :
    ∃ n, (b.insertions acts).map (·.number) = List.range' b.store.nextNumber n := by
  induction acts generalizing b with
  | nil => exact ⟨0, rfl⟩
  | cons a acts ih =>
    obtain ⟨m, hm, hnext⟩ := b.act_inserted_numbers h a
    obtain ⟨n, hn⟩ := ih (b.act_wellFormed h a)
    refine ⟨m + n, ?_⟩
    rw [insertions, List.map_append, hm, hn, hnext, List.range'_append_1]

/-- **The store refines an ordered set over whole runs.** After any acts on the empty store, the
stored relationships are distinct and valid and their numbers lie below the next one; no two
insertions of the run got the same number; a deletion that goes through takes exactly the selected
rows away, and the others keep their numbers; and a check of the available backend grants a
permission exactly if the log of writes says that the relationship is held. -/
theorem run_refines_history (hempty : b.store = {}) (acts : List Act) :
    (b.after acts).store.relationships.Nodup ∧
      (∀ r ∈ (b.after acts).store.relationships, r.validate = .ok ()) ∧
      (∀ row ∈ (b.after acts).store.rows, row.number < (b.after acts).store.nextNumber) ∧
      ((b.insertions acts).map (·.number)).Nodup ∧
      (∀ f, (b.after acts).write? (.perform (.delete f)) = some (.deleted f) →
        ((b.after acts).act (.perform (.delete f))).store.rows =
          (b.after acts).store.rows.filter fun row => !f.selects row.relationship) ∧
      ((b.after acts).isAvailable = true →
        ∀ q : CheckQuery, q.consistency = .minimizeLatency →
          ∃ answer, ((b.after acts).perform (.check q)).1 = .ok answer ∧
            (answer.permissionship = .hasPermission ↔
              Held (b.writes acts) ⟨q.resource, q.permission, q.subject⟩)) := by
  have hstart : b.store.WellFormed := hempty ▸ WellFormed.empty
  have hend := after_wellFormed hstart acts
  refine ⟨hend.distinct, fun r hr => ?_, hend.below, ?_, fun f hf => ?_, fun havailable q hq => ?_⟩
  · obtain ⟨n, hn⟩ := mem_relationships.1 hr
    exact hend.valid _ hn
  · obtain ⟨n, hn⟩ := insertions_numbers hstart acts
    rw [hn]
    exact List.nodup_range'
  · obtain ⟨hw, -⟩ | ⟨batch, hw, -⟩ | ⟨g, hw, hstore⟩ :=
      (b.after acts).act_cases (.perform (.delete f))
    · rw [hw] at hf
      cases hf
    · rw [hw] at hf
      cases hf
    · rw [hw] at hf
      cases hf
      rw [hstore, commit_rows, without_rows]
  · refine ⟨_, perform_check havailable hq, ?_⟩
    have hstart : ∀ r, r ∈ b.store.relationships ↔ Held [] r := fun r => by
      simp [hempty, relationships, not_held_nil]
    have hheld := mem_after_iff_held acts hstart ⟨q.resource, q.permission, q.subject⟩
    rw [List.nil_append] at hheld
    rw [← hheld, ← contains_iff]
    split
    · simp [*]
    · simp [*]

/-- A deletion takes one of two relationships away, and a write that is refused while the backend is
down does not bring it back. -/
theorem run_refines_history_readme :
    let owner : Relationship := ⟨⟨"document", "readme"⟩, "owner", ⟨⟨"user", "ada"⟩, none⟩⟩
    let viewer : Relationship := ⟨⟨"document", "readme"⟩, "viewer", ⟨⟨"user", "ada"⟩, none⟩⟩
    let owners : RelationshipFilter := { resourceType := "document", relation := some "owner" }
    let b : Backend := { mint := fun n => ⟨toString n⟩ }
    let acts : List Act := [.perform (.create [owner, viewer] .create), .perform (.delete owners),
      .switch false, .perform (.create [owner] .touch), .switch true]
    b.store = {} ∧ (b.after acts).isAvailable = true ∧
      ¬ Held (b.writes acts) owner ∧ Held (b.writes acts) viewer := by
  intro owner viewer owners b acts
  have hempty : b.store = {} := rfl
  have havailable : (b.after acts).isAvailable = true := by decide +kernel
  obtain ⟨-, -, -, -, -, hcheck⟩ := run_refines_history hempty acts
  refine ⟨hempty, havailable, fun hheld => ?_, ?_⟩
  · obtain ⟨answer, hanswer, hiff⟩ :=
      hcheck havailable ⟨owner.resource, "owner", owner.subject, _⟩ rfl
    rw [perform_check havailable rfl] at hanswer
    cases hanswer
    exact absurd (hiff.2 hheld) (by decide +kernel)
  · obtain ⟨answer, hanswer, hiff⟩ :=
      hcheck havailable ⟨viewer.resource, "viewer", viewer.subject, _⟩ rfl
    rw [perform_check havailable rfl] at hanswer
    cases hanswer
    exact hiff.1 (by decide +kernel)

end Backend

end RelationGate
