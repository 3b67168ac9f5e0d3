import RelationGate.Proofs.Store.History

/-!
# Whom a lock is handed out to

The handouts of a run of the backend are its acquisitions that have gone through, each with its lock
and the token that it gave.

* `holder?_after`: after a run the table of the locks holds, for every lock, the token of its last
  handout.
* `presented_token_accepted_iff`: so a presented token is accepted if and only if the lock was
  handed out under it last, or was not handed out at all. A token that was never given for a lock is
  refused for every lock that was handed out before, and for no other.
-/

namespace RelationGate

open Store

/-- The token of the last handout of a lock. -/
def lastToken (identifier : String) (log : List (String × LockToken)) : Option LockToken :=
  ((log.filter (·.1 = identifier)).getLast?).map (·.2)

/-- What a caller is told whose token is not the last one. -/
def staleToken (identifier : String) : BackendError :=
  ⟨.failedPrecondition, "stale fencing token for lock " ++ identifier⟩

variable {identifier : String} {log : List (String × LockToken)}

theorem lastToken_append (identifier : String) (log later : List (String × LockToken)) :
    lastToken identifier (log ++ later) =
      (lastToken identifier later).or (lastToken identifier log) := by
  simp only [lastToken, List.filter_append, List.getLast?_append]
  cases (later.filter (·.1 = identifier)).getLast? with
  | none => rfl
  | some entry => rfl

theorem lastToken_eq_none_iff : lastToken identifier log = none ↔ ∀ t, (identifier, t) ∉ log := by
  rw [lastToken, Option.map_eq_none_iff, List.getLast?_eq_none_iff, List.filter_eq_nil_iff]
  constructor
  · intro h t ht
    exact h _ ht (by simp)
  · rintro h ⟨name, t⟩ hentry hname
    obtain rfl : name = identifier := by simpa using hname
    exact h t hentry

/-- The last token of a lock was given for it. -/
theorem mem_of_lastToken {t : LockToken} (h : lastToken identifier log = some t) :
    (identifier, t) ∈ log := by
  rw [lastToken, Option.map_eq_some_iff] at h
  obtain ⟨⟨name, token⟩, hlast, rfl⟩ := h
  obtain ⟨hmem, hname⟩ := List.mem_filter.1 (List.mem_of_getLast? hlast)
  obtain rfl : name = identifier := by simpa using hname
  exact hmem

namespace Backend

/-- The lock that an act hands out, and the token that it gives for it. -/
def handout? (b : Backend) : Act → Option (String × LockToken)
  | .perform (.acquire identifier existing) =>
    match (b.react (.acquire identifier existing)).1 with
    | .answered (.ok t) => some (identifier, t)
    | _ => none
  | _ => none

/-- The handouts of a run in their order. -/
def handouts (b : Backend) : List Act → List (String × LockToken)
  | [] => []
  | a :: acts => (b.handout? a).toList ++ (b.act a).handouts acts

variable {b : Backend}

/-! ## One act -/

theorem written_locks {α : Type} {attempt : Except BackendError (α × Store)}
    (h : ∀ a store, attempt = .ok (a, store) → store.locks = b.store.locks) :
    (b.written attempt).2.store.locks = b.store.locks := by
  rcases attempt with e | ⟨a, store⟩
  · rfl
  · exact h a store rfl

/-- Writes leave the table of the locks alone. -/
theorem perform_create_locks (batch : List Relationship) (mode : WriteMode) :
    (b.perform (.create batch mode)).2.store.locks = b.store.locks := by
  refine written_locks fun t store h => ?_
  obtain ⟨-, -, rfl, -⟩ := create_eq_ok_iff.1 (checkAvailable_bind_eq_ok h)
  obtain ⟨added, -, -, hadded⟩ := b.store.insertAll_appends batch
  rw [hadded]
  rfl

theorem perform_delete_locks (f : RelationshipFilter) :
    (b.perform (.delete f)).2.store.locks = b.store.locks := by
  refine written_locks fun t store h => ?_
  obtain ⟨-, rfl, -⟩ := delete_eq_ok_iff.1 (checkAvailable_bind_eq_ok h)
  rfl

/-- **What an act does to the table of the locks**: nothing, or it hands one lock out. -/
theorem act_locks (hhonest : b.echoesLocks = false) (a : Act) :
    (b.handout? a = none ∧ (b.act a).store.locks = b.store.locks) ∨
      ∃ identifier t, b.handout? a = some (identifier, t) ∧
        (b.act a).store.locks = setLock identifier t b.store.locks := by
  cases a with
  | note issued => exact .inl ⟨rfl, rfl⟩
  | switch isAvailable => exact .inl ⟨rfl, rfl⟩
  | perform op =>
    simp only [act]
    obtain hr | ⟨hb, hr⟩ := b.react_cases op
    · cases op with
      | check q => exact .inl ⟨rfl, by rw [hr]; rfl⟩
      | available => exact .inl ⟨rfl, by rw [hr]; rfl⟩
      | create batch mode => exact .inl ⟨rfl, by rw [hr, perform_create_locks]⟩
      | delete f => exact .inl ⟨rfl, by rw [hr, perform_delete_locks]⟩
      | acquire identifier existing =>
        rw [handout?, hr]
        show (_ ∧ (b.acquire identifier existing).2.store.locks = _) ∨ _
        obtain ⟨hechoes, -⟩ | ⟨-, h⟩ | ⟨e, h⟩ := b.acquire_cases identifier existing
        · cases hhonest.symm.trans hechoes
        · refine .inr ⟨identifier, b.mint b.minted, by simp only [perform, h], ?_⟩
          show (b.acquire identifier existing).2.store.locks = _
          rw [h]
        · exact .inl ⟨by simp only [perform, h], by rw [h]⟩
    · refine .inl ⟨?_, by rw [hb]⟩
      cases op with
      | acquire identifier existing =>
        rw [handout?]
        split
        · exact absurd ‹_› (hr _)
        · rfl
      | _ => rfl

theorem written_echoesLocks {α : Type} (attempt : Except BackendError (α × Store)) :
    (b.written attempt).2.echoesLocks = b.echoesLocks := by
  rcases b.written_cases attempt with ⟨t, store, -, h⟩ | ⟨e, h⟩
  · rw [h]
  · rw [h]

/-- No act makes the backend give back what was presented. -/
theorem act_echoesLocks (a : Act) : (b.act a).echoesLocks = b.echoesLocks := by
  cases a with
  | note issued => rfl
  | switch isAvailable => rfl
  | perform op =>
    simp only [act]
    obtain hr | ⟨hb, -⟩ := b.react_cases op
    · rw [hr]
      cases op with
      | check q => rfl
      | available => rfl
      | create batch mode => exact written_echoesLocks _
      | delete f => exact written_echoesLocks _
      | acquire identifier existing =>
        show (b.acquire identifier existing).2.echoesLocks = _
        obtain ⟨-, h⟩ | ⟨-, h⟩ | ⟨e, h⟩ := b.acquire_cases identifier existing
        all_goals rw [h]
    · rw [hb]

theorem holder?_act (hhonest : b.echoesLocks = false) (a : Act) (identifier : String) :
    (b.act a).store.holder? identifier =
      (lastToken identifier (b.handout? a).toList).or (b.store.holder? identifier) := by
  rw [holder?, holder?]
  obtain ⟨hnone, hlocks⟩ | ⟨name, t, hsome, hlocks⟩ := b.act_locks hhonest a
  · rw [hnone, hlocks]
    rfl
  · rw [hsome, hlocks, lookup_setLock, lastToken, Option.toList_some]
    by_cases h : identifier = name
    · rw [if_pos h, List.filter_cons_of_pos (by simpa using h.symm)]
      rfl
    · rw [if_neg h, List.filter_cons_of_neg (by simpa using Ne.symm h)]
      rfl

/-! ## A run -/

theorem after_echoesLocks (acts : List Act) : (b.after acts).echoesLocks = b.echoesLocks := by
  induction acts generalizing b with
  | nil => rfl
  | cons a acts ih => rw [after_cons, ih, act_echoesLocks]

/-- **The table of the locks holds the last handout of every lock.** -/
theorem holder?_after (hhonest : b.echoesLocks = false) (acts : List Act) (identifier : String) :
    (b.after acts).store.holder? identifier =
      (lastToken identifier (b.handouts acts)).or (b.store.holder? identifier) := by
  induction acts generalizing b with
  | nil => rfl
  | cons a acts ih =>
    rw [after_cons, ih (b.act_echoesLocks a ▸ hhonest), holder?_act hhonest, handouts,
      lastToken_append, Option.or_assoc]

/-- A presented token that the table does not speak against. -/
theorem acquire_accepted (hhonest : b.echoesLocks = false) (hup : b.isAvailable = true)
    (hname : identifier.isEmpty = false) (presented : LockToken)
    (h : ∀ t ∈ b.store.holder? identifier, presented = t) :
    (b.acquire identifier (some presented)).1 = .ok (b.mint b.minted) := by
  have hstore : b.store.acquire identifier (some presented) (b.mint b.minted) = .ok _ :=
    acquire_eq_ok_iff.2 ⟨hname, by simpa using h, rfl, rfl⟩
  rw [acquire, hhonest, if_neg Bool.false_ne_true, checkAvailable, if_pos hup]
  simp only [hstore]

/-- A presented token that is not the one in the table. -/
theorem acquire_stale (hhonest : b.echoesLocks = false) (hup : b.isAvailable = true)
    (hname : identifier.isEmpty = false) {presented t : LockToken}
    (hheld : b.store.holder? identifier = some t) (h : presented ≠ t) :
    b.acquire identifier (some presented) = (.error (staleToken identifier), b) := by
  rw [acquire, hhonest, if_neg Bool.false_ne_true, checkAvailable, if_pos hup]
  unfold Store.acquire
  rw [hname, if_neg Bool.false_ne_true, hheld]
  simp only [if_neg h]
  rfl

/-- **Which presented tokens are accepted.** After any run from an empty table of locks, the
available backend hands a lock out for a presented token if and only if the last handout of the lock
gave this token, or there was none. Otherwise the caller is told that the token is stale, and
nothing changes. So a token that was never given for the lock is refused if and only if the lock was
handed out before. -/
theorem presented_token_accepted_iff (hnone : b.store.locks = []) (hhonest : b.echoesLocks = false)
    (acts : List Act) (hup : (b.after acts).isAvailable = true) (hname : identifier.isEmpty = false)
    (presented : LockToken) :
    let now := b.after acts
    let attempt := now.acquire identifier (some presented)
    ((∃ t, attempt.1 = .ok t) ↔ lastToken identifier (b.handouts acts) = some presented ∨
        ∀ t, (identifier, t) ∉ b.handouts acts) ∧
      ((∃ t, attempt.1 = .ok t) ∨ attempt = (.error (staleToken identifier), now)) ∧
      ((identifier, presented) ∉ b.handouts acts →
        (attempt = (.error (staleToken identifier), now) ↔
          ∃ t, (identifier, t) ∈ b.handouts acts)) := by
  intro now attempt
  have hholder : now.store.holder? identifier = lastToken identifier (b.handouts acts) := by
    rw [holder?_after hhonest, holder?, hnone]
    exact Option.or_none
  have hhonest' : now.echoesLocks = false := (after_echoesLocks acts).trans hhonest
  -- A token that is accepted is not refused, and the other way round.
  have hexclusive : ∀ {t}, attempt.1 = .ok t → attempt ≠ (.error (staleToken identifier), now) :=
    fun hok hrefused => by cases hok.symm.trans (congrArg Prod.fst hrefused)
  rw [← lastToken_eq_none_iff]
  cases hlast : lastToken identifier (b.handouts acts) with
  | none =>
    have hok := acquire_accepted hhonest' hup hname presented (by rw [hholder, hlast]; nofun)
    refine ⟨iff_of_true ⟨_, hok⟩ (.inr rfl), .inl ⟨_, hok⟩, fun _ => ?_⟩
    exact iff_of_false (hexclusive hok) fun ⟨t, ht⟩ => lastToken_eq_none_iff.1 hlast t ht
  | some t =>
    have hgiven := mem_of_lastToken hlast
    by_cases h : presented = t
    · have hok := acquire_accepted hhonest' hup hname presented
        (by rw [hholder, hlast]; simpa using h)
      refine ⟨iff_of_true ⟨_, hok⟩ (.inl (h ▸ rfl)), .inl ⟨_, hok⟩, fun hnever => ?_⟩
      exact absurd (h ▸ hgiven) hnever
    · have hrefused := acquire_stale hhonest' hup hname (hholder.trans hlast) h
      refine ⟨iff_of_false (fun ⟨_, hok⟩ => hexclusive hok hrefused) ?_, .inr hrefused,
        fun _ => iff_of_true hrefused ⟨t, hgiven⟩⟩
      rintro (hsame | hfree)
      · exact h (Option.some.inj hsame).symm
      · cases hfree

/-- A token given for one lock is accepted for another that was not handed out yet, and refused for
the one that it was given for once that is handed out again. -/
theorem presented_token_accepted_iff_other_lock :
    let b : Backend := { mint := fun n => ⟨Number.decimal n⟩ }
    let acts : List Act := [.perform (.acquire "leader" none), .perform (.acquire "leader" none)]
    b.store.locks = [] ∧ b.echoesLocks = false ∧ (b.after acts).isAvailable = true ∧
      b.handouts acts = [("leader", ⟨"0"⟩), ("leader", ⟨"1"⟩)] ∧
      (∃ t, ((b.after acts).acquire "other" (some ⟨"0"⟩)).1 = .ok t) ∧
      (b.after acts).acquire "leader" (some ⟨"0"⟩) =
        (.error (staleToken "leader"), b.after acts) := by
  intro b acts
  have hhandouts : b.handouts acts = [("leader", ⟨"0"⟩), ("leader", ⟨"1"⟩)] := by decide +kernel
  have hup : (b.after acts).isAvailable = true := by decide +kernel
  have hother : "other".isEmpty = false := by decide
  have hleader : "leader".isEmpty = false := by decide
  obtain ⟨hother, -⟩ := presented_token_accepted_iff (b := b) rfl rfl acts hup hother ⟨"0"⟩
  obtain ⟨hleader, hrefused, -⟩ :=
    presented_token_accepted_iff (b := b) rfl rfl acts hup hleader ⟨"0"⟩
  rw [hhandouts] at hother hleader
  refine ⟨rfl, rfl, hup, hhandouts, hother.2 (.inr (by simp)), hrefused.resolve_left ?_⟩
  rw [hleader]
  rintro (hlast | hfree)
  · exact absurd hlast (by decide)
  · exact hfree ⟨"0"⟩ (by simp)

end Backend

end RelationGate
