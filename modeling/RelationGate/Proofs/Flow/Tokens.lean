import RelationGate.Proofs.Flow.Feed
import RelationGate.Proofs.Number.Decimal
import RelationGate.Proofs.Store.Answer
import RelationGate.Proofs.Store.History

/-!
# Tokens explain results

A backend is at work for many at once: writes, checks and streams come in any order, and every
stream is filled and drained at its own pace (`Ledger.step`). The ledger of such a run keeps the
stores that the writes left, the answers that were given, and what was taken of each stream.

A store is left by the write whose number its token names, and streams are fixed when they are
opened. So an answer is explained by the store of its token (`Ledger.Consistent`), which every move
keeps (`Consistent.step`). Main result: `tokens_explain_results`.
-/

namespace RelationGate

open Number Store

/-! ## Streams and their readers -/

/-- What has become of a stream for its reader. -/
inductive ReadState where
  | open
  | left
  | ended
  | failed (e : BackendError)
  deriving DecidableEq

/-- A stream that was opened, and what its reader has taken of it. -/
structure StreamRead where
  query : StreamQuery
  limit : UInt32
  place : Option ContinuationToken
  feed : Feed
  isCanceled : Bool := false
  taken : List Item := []
  state : ReadState := .open

namespace StreamRead

/-- The feed moves, if it can. It may take its time to notice a cancellation. -/
def advance (r : StreamRead) (now : Nat) (noticed : Bool) : StreamRead :=
  match r.feed.move now (noticed && r.isCanceled) with
  | some feed => { r with feed }
  | none => r

/-- The reader looks for the next item. -/
def look (r : StreamRead) : StreamRead :=
  match r.state with
  | .open =>
    match r.feed.pipe.next with
    | .item a pipe => { r with feed := { r.feed with pipe }, taken := r.taken ++ [a] }
    | .failure e pipe => { r with feed := { r.feed with pipe }, state := .failed e }
    | .ended pipe => { r with feed := { r.feed with pipe }, state := .ended }
    | .pending => r
  | _ => r

/-- The reader cancels; after the end it is too late. -/
def cancel (r : StreamRead) : StreamRead :=
  match r.state with
  | .open => { r with isCanceled := true }
  | _ => r

/-- The reader leaves. -/
def leave (r : StreamRead) : StreamRead :=
  match r.state with
  | .open => { r with feed := r.feed.abandon, state := .left }
  | _ => r

end StreamRead

/-! ## Answers of single acts -/

namespace Backend

/-- The token that an act is answered with, if it is a write and goes through. -/
def token? (b : Backend) : Act → Option ConsistencyToken
  | .perform (.create batch mode) =>
    match (b.react (.create batch mode)).1 with
    | .answered (.ok t) => some t
    | _ => none
  | .perform (.delete f) =>
    match (b.react (.delete f)).1 with
    | .answered (.ok t) => some t
    | _ => none
  | _ => none

/-- The check that an act makes, and its answer. -/
def checked? (b : Backend) : Act → Option (CheckQuery × CheckResult)
  | .perform (.check q) =>
    match (b.react (.check q)).1 with
    | .answered (.ok r) => some (q, r)
    | _ => none
  | _ => none

/-- The stream that is opened for a query, and its reader. -/
def opened? (b : Backend) (query : StreamQuery) (limit : UInt32) (place : Option ContinuationToken)
    (now : Nat) : Option StreamRead :=
  match b.reactStream query limit place now with
  | .answered (.ok feed) => some { query, limit, place, feed }
  | _ => none

/-- The store that a write leaves. -/
def left? (b : Backend) (a : Act) : Option Store := (b.write? a).map fun _ => (b.act a).store

/-- The stores that the writes of a run leave, in their order. -/
def lefts (b : Backend) : List Act → List Store
  | [] => []
  | a :: acts => (b.left? a).toList ++ (b.act a).lefts acts

end Backend

/-! ## The ledger -/

/-- A backend at work, and what has come of it so far. -/
structure Ledger where
  backend : Backend
  /-- The store at the beginning, and after each write. -/
  past : List Store
  /-- The answers of the writes. -/
  tokens : List ConsistencyToken := []
  /-- The checks and their answers. -/
  checks : List (CheckQuery × CheckResult) := []
  /-- The streams that were opened. -/
  reads : List StreamRead := []

/-- What happens next. The moves of a stream name it by its position. -/
inductive Move where
  | act (a : Act)
  | read (query : StreamQuery) (limit : UInt32) (place : Option ContinuationToken) (now : Nat)
  | advance (i now : Nat) (noticed : Bool)
  | look (i : Nat)
  | cancel (i : Nat)
  | leave (i : Nat)

/-- The act of the backend that a move is, if it is one. -/
def Move.act? : Move → Option Act
  | .act a => some a
  | _ => none

namespace Ledger

/-- The ledger of a backend that begins its work. -/
def start (b : Backend) : Ledger := { backend := b, past := [b.store] }

/-- The ledger after a move. -/
def step (l : Ledger) : Move → Ledger
  | .act a => { l with
      backend := l.backend.act a
      past := l.past ++ (l.backend.left? a).toList
      tokens := l.tokens ++ (l.backend.token? a).toList
      checks := l.checks ++ (l.backend.checked? a).toList }
  | .read query limit place now => { l with
      reads := l.reads ++ (l.backend.opened? query limit place now).toList }
  | .advance i now noticed => { l with reads := l.reads.modify i (·.advance now noticed) }
  | .look i => { l with reads := l.reads.modify i StreamRead.look }
  | .cancel i => { l with reads := l.reads.modify i StreamRead.cancel }
  | .leave i => { l with reads := l.reads.modify i StreamRead.leave }

/-- The ledger after a run. -/
def run (l : Ledger) (moves : List Move) : Ledger := moves.foldl step l

end Ledger

/-! ## What single acts answer -/

namespace Backend

variable {b : Backend}

/-- A write answers the token of the store that it leaves. -/
theorem token?_eq (b : Backend) (a : Act) : b.token? a = (b.left? a).map Store.token := by
  cases a with
  | note issued => rfl
  | switch isAvailable => rfl
  | perform op =>
    obtain hr | ⟨-, hr⟩ := b.react_cases op
    · cases op with
      | create batch mode =>
        rw [token?, left?, write?, act, hr]
        obtain ⟨t, ht, -, -, htoken⟩ | ⟨e, he⟩ := b.perform_create batch mode
        · simp only [ht, Option.map_some, htoken]
        · simp only [he, Option.map_none]
      | delete f =>
        rw [token?, left?, write?, act, hr]
        obtain ⟨t, ht, -, htoken⟩ | ⟨e, he⟩ := b.perform_delete f
        · simp only [ht, Option.map_some, htoken]
        · simp only [he, Option.map_none]
      | _ => rfl
    · rw [left?, write?_of_unanswered hr]
      cases op with
      | create batch mode =>
        rw [token?]
        split
        · exact absurd ‹_› (hr _)
        · rfl
      | delete f =>
        rw [token?]
        split
        · exact absurd ‹_› (hr _)
        · rfl
      | _ => rfl

/-- An act leaves a new store with the next revision, or the old one but for the table of the
locks. -/
theorem left?_cases (b : Backend) (a : Act) :
    (b.left? a = none ∧ ∃ locks, (b.act a).store = { b.store with locks }) ∨
      b.left? a = some (b.act a).store ∧ (b.act a).store.revision = b.store.revision + 1 := by
  have hrevision := b.act_revision a
  obtain ⟨hw, locks, hstore⟩ | ⟨batch, hw, -⟩ | ⟨f, hw, -⟩ := b.act_cases a
  · exact .inl ⟨by rw [left?, hw]; rfl, locks, hstore⟩
  · rw [hw] at hrevision
    exact .inr ⟨by rw [left?, hw]; rfl, hrevision⟩
  · rw [hw] at hrevision
    exact .inr ⟨by rw [left?, hw]; rfl, hrevision⟩

/-- The store that the k-th write leaves is the store after the acts up to it. -/
theorem exists_of_lefts {acts : List Act} {k : Nat} {s : Store} (h : (b.lefts acts)[k]? = some s) :
    ∃ front, front <+: acts ∧ (b.after front).store = s ∧ (b.writes front).length = k + 1 := by
  induction acts generalizing b k with
  | nil => simp [lefts] at h
  | cons a acts ih =>
    rw [lefts] at h
    cases hw : b.write? a with
    | none =>
      rw [left?, hw, Option.map_none, Option.toList_none, List.nil_append] at h
      obtain ⟨front, hfront, hs, hcount⟩ := ih h
      refine ⟨a :: front, List.cons_prefix_cons.2 ⟨rfl, hfront⟩, hs, ?_⟩
      rw [writes, hw, Option.toList_none, List.nil_append, hcount]
    | some w =>
      rw [left?, hw, Option.map_some, Option.toList_some, List.singleton_append] at h
      cases k with
      | zero =>
        refine ⟨[a], List.prefix_append [a] acts, Option.some.inj h, ?_⟩
        rw [writes, hw, writes, Option.toList_some, List.append_nil, List.length_singleton]
      | succ k =>
        obtain ⟨front, hfront, hs, hcount⟩ := ih h
        refine ⟨a :: front, List.cons_prefix_cons.2 ⟨rfl, hfront⟩, hs, ?_⟩
        rw [writes, hw, Option.toList_some, List.singleton_append, List.length_cons, hcount]

/-- A check is answered from the store as it is. -/
theorem checked?_eq_some {a : Act} {c : CheckQuery × CheckResult} (h : b.checked? a = some c) :
    c.2 = ⟨if b.store.contains ⟨c.1.resource, c.1.permission, c.1.subject⟩ then .hasPermission
      else .noPermission, b.store.token⟩ := by
  cases a with
  | note issued => cases h
  | switch isAvailable => cases h
  | perform op =>
    cases op with
    | check q =>
      rw [checked?] at h
      split at h
      next r hr =>
        cases h
        obtain hreact | ⟨-, hnone⟩ := b.react_cases (.check q)
        · rw [hreact, Reaction.answered.injEq] at hr
          exact check_eq_ok (checkAvailable_bind_eq_ok hr)
        · exact absurd hr (hnone r)
      next => cases h
    | _ => cases h

end Backend

/-! ## Streams of a fixed store -/

/-- The items of an answer were read at the point in history that the store is at. -/
theorem Store.readAt_of_answer {s : Store} {limit : UInt32} {place : Option ContinuationToken}
    {q : StreamQuery} {items : List Item} (h : s.answer limit place q = .ok items) {item : Item}
    (hitem : item ∈ items) : item.readAt = s.token := by
  obtain ⟨-, after, -, rfl⟩ := answer_eq_ok_iff.1 h
  have hmem : item ∈ s.itemsAfter q after := by
    unfold atMost at hitem
    split at hitem
    · exact hitem
    · exact List.mem_of_mem_take hitem
  rw [itemsAfter, List.mem_filterMap] at hmem
  obtain ⟨row, -, hrow⟩ := hmem
  exact (itemOf_eq_some hrow).2.1

namespace StreamRead

variable {r : StreamRead} {s : Store} {items : List Item} {ending : FeedEnding}

/-- A stream of given items, which are the answer of a store or none at all, and what its reader has
taken of it. -/
structure Follows (s : Store) (items : List Item) (ending : FeedEnding) (r : StreamRead) :
    Prop where
  source : (ending = .close ∧ s.answer r.limit r.place r.query = .ok items) ∨
    (∃ e, ending = .fail e) ∧ items = []
  first : r.taken <+: items
  /-- Who reads to the end has taken everything. -/
  whole : r.state = .ended → r.isCanceled = false → ending = .close ∧ r.taken = items
  sound : r.state = .open → r.feed.Sound (items[·]?) ending r.isCanceled r.taken.length

namespace Follows

theorem of_locks {locks : List (String × LockToken)} (h : r.Follows { s with locks } items ending) :
    r.Follows s items ending := by
  have hsource := h.source
  rw [answer_with_locks] at hsource
  exact { h with source := hsource }

/-- The items were read at the point in history that the store is at. -/
theorem readAt (h : r.Follows s items ending) {item : Item} (hitem : item ∈ r.taken) :
    item.readAt = s.token := by
  have hmem := h.first.subset hitem
  obtain ⟨-, hanswer⟩ | ⟨-, rfl⟩ := h.source
  · exact readAt_of_answer hanswer hmem
  · cases hmem

/-- What is taken is nothing, or the first items of the answer. -/
theorem first_of_answer (h : r.Follows s items ending) :
    r.taken = [] ∨ ∃ all, s.answer r.limit r.place r.query = .ok all ∧ r.taken <+: all := by
  obtain ⟨-, hanswer⟩ | ⟨-, rfl⟩ := h.source
  · exact .inr ⟨items, hanswer, h.first⟩
  · exact .inl (List.prefix_nil.1 h.first)

/-- Who reads to the end has the answer. -/
theorem answer_of_ended (h : r.Follows s items ending) (hended : r.state = .ended)
    (hcalm : r.isCanceled = false) : s.answer r.limit r.place r.query = .ok r.taken := by
  obtain ⟨hending, htaken⟩ := h.whole hended hcalm
  obtain ⟨-, hanswer⟩ | ⟨⟨e, he⟩, -⟩ := h.source
  · rw [hanswer, htaken]
  · rw [hending] at he
    cases he

theorem advance (h : r.Follows s items ending) (now : Nat) (noticed : Bool) :
    (r.advance now noticed).Follows s items ending := by
  rw [StreamRead.advance]
  split
  next feed hm =>
    refine { h with sound := fun hopen => (h.sound hopen).move ?_ hm }
    intro hnoticed
    rw [Bool.and_eq_true] at hnoticed
    exact hnoticed.2
  · exact h

theorem look (h : r.Follows s items ending) : r.look.Follows s items ending := by
  rw [StreamRead.look]
  split
  next hopen =>
    have hsound := h.sound hopen
    split
    next a pipe hn =>
      -- The next item of the stream is the next one of the items.
      obtain ⟨hitem, hsound⟩ := hsound.next_eq_item hn
      refine ⟨h.source, ?_, fun hended => ?_, fun _ => ?_⟩
      · have hfits := fits_append.2 ⟨fits_getElem?_iff.2 h.first,
          (fits_singleton (a := a)).2 (by rwa [Nat.zero_add])⟩
        exact fits_getElem?_iff.1 hfits
      · rw [hopen] at hended
        cases hended
      · simpa using hsound
    next e pipe hn => exact ⟨h.source, h.first, nofun, nofun⟩
    next pipe hn =>
      refine ⟨h.source, h.first, fun _ hcalm => ?_, nofun⟩
      rw [show r.isCanceled = false from hcalm] at hsound
      obtain ⟨hending, hnone⟩ := hsound.next_eq_ended hn
      exact ⟨hending, h.first.eq_of_length_le (List.getElem?_eq_none_iff.1 hnone)⟩
    · exact h
  · exact h

theorem cancel (h : r.Follows s items ending) : r.cancel.Follows s items ending := by
  rw [StreamRead.cancel]
  split
  next hopen =>
    refine ⟨h.source, h.first, fun hended => ?_, fun _ => (h.sound hopen).mono fun _ => rfl⟩
    rw [hopen] at hended
    cases hended
  · exact h

theorem leave (h : r.Follows s items ending) : r.leave.Follows s items ending := by
  rw [StreamRead.leave]
  split
  · exact ⟨h.source, h.first, nofun, nofun⟩
  · exact h

end Follows

/-- A stream that is opened follows the store as it is. -/
theorem follows_of_opened {b : Backend} (hscript : b.script = none) {q : StreamQuery}
    {limit : UInt32} {place : Option ContinuationToken} {now : Nat}
    (h : b.opened? q limit place now = some r) :
    ∃ items ending, r.Follows b.store items ending := by
  rw [Backend.opened?] at h
  obtain ⟨words, hr⟩ | ⟨e, hr⟩ | ⟨e, hr⟩ | ⟨items, hitems, hr⟩ :=
    b.reactStream_cases hscript q limit place now
  all_goals rw [hr] at h; cases h
  · exact ⟨[], .fail e, .inr ⟨⟨e, rfl⟩, rfl⟩, List.prefix_refl _, nofun, fun _ =>
      Feed.Sound.failed_at_once false e⟩
  · exact ⟨items, .close, .inl ⟨rfl, hitems⟩, List.nil_prefix, nofun, fun _ =>
      Feed.Sound.fresh false b.buffer 0 0⟩

end StreamRead

/-! ## What a run keeps -/

/-- An entry of a list stays when something is appended. -/
theorem getElem?_append_of_eq_some {α : Type} {as : List α} {k : Nat} {a : α} (h : as[k]? = some a)
    (bs : List α) : (as ++ bs)[k]? = some a := by
  rw [List.getElem?_append_left (List.getElem?_eq_some_iff.1 h).1, h]

theorem forall_mem_modify {α : Type} {P : α → Prop} {f : α → α} {as : List α}
    (h : ∀ a ∈ as, P a) (hf : ∀ a, P a → P (f a)) (i : Nat) : ∀ a ∈ as.modify i f, P a := by
  induction as generalizing i with
  | nil => simp
  | cons a as ih =>
    rw [List.forall_mem_cons] at h
    cases i with
    | zero => exact List.forall_mem_cons.2 ⟨hf a h.1, h.2⟩
    | succ i => exact List.forall_mem_cons.2 ⟨h.1, ih h.2 i⟩

/-- The store of a check says what the check was answered. -/
def ExplainsCheck (past : List Store) (c : CheckQuery × CheckResult) : Prop :=
  ∃ k s, past[k]? = some s ∧ c.2.checkedAt = ⟨decimal k⟩ ∧
    (c.2.permissionship = .hasPermission ↔
      ⟨c.1.resource, c.1.permission, c.1.subject⟩ ∈ s.relationships)

theorem ExplainsCheck.append {past : List Store} {c : CheckQuery × CheckResult}
    (h : ExplainsCheck past c) (later : List Store) : ExplainsCheck (past ++ later) c := by
  obtain ⟨k, s, hs, hrest⟩ := h
  exact ⟨k, s, getElem?_append_of_eq_some hs later, hrest⟩

/-- A stream follows the store that it was opened on. -/
def ExplainsRead (past : List Store) (r : StreamRead) : Prop :=
  ∃ k s items ending, past[k]? = some s ∧ s.token = ⟨decimal k⟩ ∧ r.Follows s items ending

theorem ExplainsRead.append {past : List Store} {r : StreamRead} (h : ExplainsRead past r)
    (later : List Store) : ExplainsRead (past ++ later) r := by
  obtain ⟨k, s, items, ending, hs, hrest⟩ := h
  exact ⟨k, s, items, ending, getElem?_append_of_eq_some hs later, hrest⟩

namespace Ledger

variable {l : Ledger} {b : Backend}

/-- The writes are counted, and what was answered is explained by the stores that they left. -/
structure Consistent (l : Ledger) : Prop where
  unscripted : l.backend.script = none
  recorded : l.past.length = l.tokens.length + 1
  counted : l.tokens = (List.range' 1 l.tokens.length).map fun n => ⟨decimal n⟩
  current : ∃ s locks, l.past[l.tokens.length]? = some s ∧ l.backend.store = { s with locks } ∧
    s.revision = l.tokens.length
  checked : ∀ c ∈ l.checks, ExplainsCheck l.past c
  read : ∀ r ∈ l.reads, ExplainsRead l.past r

namespace Consistent

theorem start (hempty : b.store = {}) (hscript : b.script = none) : (start b).Consistent where
  unscripted := hscript
  recorded := rfl
  counted := rfl
  current := ⟨b.store, b.store.locks, rfl, rfl, congrArg Store.revision hempty⟩
  checked := by simp [Ledger.start]
  read := by simp [Ledger.start]

/-- A check is explained by the last store. -/
theorem explainsCheck (h : l.Consistent) {a : Act} {c : CheckQuery × CheckResult}
    (hc : l.backend.checked? a = some c) : ExplainsCheck l.past c := by
  obtain ⟨s, locks, hs, hstore, hrevision⟩ := h.current
  have hanswer := Backend.checked?_eq_some hc
  rw [hstore] at hanswer
  refine ⟨_, s, hs, ?_, ?_⟩
  · rw [hanswer]
    show s.token = _
    rw [Store.token, hrevision]
  · rw [hanswer, ← contains_iff]
    show (if s.contains _ then Permissionship.hasPermission else .noPermission) = _ ↔ _
    split
    · simp [*]
    · simp [*]

/-- **An act keeps the ledger consistent.** Only a write adds a store, and it answers the token of
this store. -/
theorem act (h : l.Consistent) (a : Act) : (l.step (.act a)).Consistent := by
  obtain ⟨s, locks, hs, hstore, hrevision⟩ := h.current
  have hscript : (l.backend.act a).script = none := by
    rw [(l.backend.act_make a).1]
    exact h.unscripted
  have hchecked : ∀ c ∈ l.checks ++ (l.backend.checked? a).toList,
      ExplainsCheck (l.past ++ (l.backend.left? a).toList) c := by
    intro c hc
    rcases List.mem_append.1 hc with hc | hc
    · exact (h.checked c hc).append _
    · exact (h.explainsCheck (Option.mem_toList.1 hc)).append _
  have hread : ∀ r ∈ l.reads, ExplainsRead (l.past ++ (l.backend.left? a).toList) r :=
    fun r hr => (h.read r hr).append _
  have hrecorded := h.recorded
  obtain ⟨hleft, locks', hstore'⟩ | ⟨hleft, hnext⟩ := l.backend.left?_cases a
  · have htoken : l.backend.token? a = none := by
      rw [Backend.token?_eq, hleft, Option.map_none]
    refine ⟨hscript, ?_, ?_, ⟨s, locks', ?_, ?_, ?_⟩, hchecked, hread⟩
    · simpa [step, hleft, htoken] using hrecorded
    · simpa [step, htoken] using h.counted
    · simpa [step, hleft, htoken] using hs
    · rw [hstore] at hstore'
      exact hstore'
    · simpa [step, htoken] using hrevision
  · have hrevision' : (l.backend.act a).store.revision = l.tokens.length + 1 := by
      rw [hnext, hstore]
      exact congrArg (· + 1) hrevision
    have htoken : l.backend.token? a = some ⟨decimal (l.tokens.length + 1)⟩ := by
      rw [Backend.token?_eq, hleft, Option.map_some, Store.token, hrevision']
    refine ⟨hscript, ?_, ?_, ⟨(l.backend.act a).store, _, ?_, rfl, ?_⟩, hchecked, hread⟩
    · simp [step, hleft, htoken, hrecorded]
    · show l.tokens ++ _ = _
      rw [step, htoken, Option.toList_some, List.length_append, List.length_singleton,
        List.range'_1_concat, List.map_append, ← h.counted, Nat.add_comm 1]
      rfl
    · simp [step, hleft, htoken, ← hrecorded]
    · simpa [step, htoken] using hrevision'

/-- A stream is opened on the last store. -/
theorem explainsRead (h : l.Consistent) {q : StreamQuery} {limit : UInt32}
    {place : Option ContinuationToken} {now : Nat} {r : StreamRead}
    (hr : l.backend.opened? q limit place now = some r) : ExplainsRead l.past r := by
  obtain ⟨s, locks, hs, hstore, hrevision⟩ := h.current
  obtain ⟨items, ending, hfollows⟩ := StreamRead.follows_of_opened h.unscripted hr
  rw [hstore] at hfollows
  refine ⟨_, s, items, ending, hs, ?_, hfollows.of_locks⟩
  rw [Store.token, hrevision]

/-- A move of a stream that keeps to its store keeps the ledger consistent. -/
theorem modify (h : l.Consistent) {f : StreamRead → StreamRead}
    (hf : ∀ r s items ending, r.Follows s items ending → (f r).Follows s items ending) (i : Nat) :
    { l with reads := l.reads.modify i f }.Consistent where
  unscripted := h.unscripted
  recorded := h.recorded
  counted := h.counted
  current := h.current
  checked := h.checked
  read := by
    refine forall_mem_modify h.read (fun r hr => ?_) i
    obtain ⟨k, s, items, ending, hs, htoken, hfollows⟩ := hr
    exact ⟨k, s, items, ending, hs, htoken, hf r s items ending hfollows⟩

/-- **Every move keeps the ledger consistent.** -/
theorem step (h : l.Consistent) (m : Move) : (l.step m).Consistent := by
  cases m with
  | act a => exact h.act a
  | read q limit place now =>
    refine ⟨h.unscripted, h.recorded, h.counted, h.current, h.checked, fun r hr => ?_⟩
    rcases List.mem_append.1 hr with hr | hr
    · exact h.read r hr
    · exact h.explainsRead (Option.mem_toList.1 hr)
  | advance i now noticed => exact h.modify (fun r s items ending hr => hr.advance now noticed) i
  | look i => exact h.modify (fun r s items ending hr => hr.look) i
  | cancel i => exact h.modify (fun r s items ending hr => hr.cancel) i
  | leave i => exact h.modify (fun r s items ending hr => hr.leave) i

theorem run (h : l.Consistent) (moves : List Move) : (l.run moves).Consistent := by
  induction moves generalizing l with
  | nil => exact h
  | cons m moves ih => exact ih (h.step m)

end Consistent

/-- The stores of a run are those that its writes leave. -/
theorem run_past (l : Ledger) (moves : List Move) :
    (l.run moves).past = l.past ++ l.backend.lefts (moves.filterMap Move.act?) := by
  induction moves generalizing l with
  | nil => exact (List.append_nil _).symm
  | cons m moves ih =>
    refine (ih (l.step m)).trans ?_
    cases m with
    | act a => exact List.append_assoc _ _ _
    | _ => rfl

/-- The store of a token is the store after the acts up to its write. -/
theorem exists_of_past {moves : List Move} {k : Nat} {s : Store}
    (h : ((start b).run moves).past[k]? = some s) :
    ∃ acts, acts <+: moves.filterMap Move.act? ∧ (b.after acts).store = s ∧
      (b.writes acts).length = k := by
  rw [run_past] at h
  cases k with
  | zero => exact ⟨[], List.nil_prefix, Option.some.inj h, rfl⟩
  | succ k => exact Backend.exists_of_lefts (by simpa [start] using h)

/-- The tokens of the writes are all different. -/
theorem Consistent.nodup_tokens (h : l.Consistent) : l.tokens.Nodup := by
  rw [h.counted]
  refine List.Nodup.map (fun m n heq => ?_) List.nodup_range'
  exact decimal_injective (congrArg ConsistencyToken.text heq)

/-- Streams of one query that were read at one point in history do not differ. -/
theorem Consistent.agree (h : l.Consistent) {r r' : StreamRead} (hr : r ∈ l.reads)
    (hr' : r' ∈ l.reads) (hquery : r.query = r'.query) (hlimit : r.limit = r'.limit)
    (hplace : r.place = r'.place) {item item' : Item} (hitem : item ∈ r.taken)
    (hitem' : item' ∈ r'.taken) (hsame : item.readAt = item'.readAt) :
    (r.taken <+: r'.taken ∨ r'.taken <+: r.taken) ∧
      (r.state = .ended → r.isCanceled = false → r'.state = .ended → r'.isCanceled = false →
        r.taken = r'.taken) := by
  obtain ⟨k, s, items, ending, hs, htoken, hfollows⟩ := h.read r hr
  obtain ⟨k', s', items', ending', hs', htoken', hfollows'⟩ := h.read r' hr'
  -- One token names one store.
  have hk : k = k' := by
    rw [hfollows.readAt hitem, hfollows'.readAt hitem', htoken, htoken'] at hsame
    exact decimal_injective (congrArg ConsistencyToken.text hsame)
  subst hk
  obtain rfl : s = s' := Option.some.inj (hs.symm.trans hs')
  have hne : ∀ {r : StreamRead} {item : Item}, item ∈ r.taken → r.taken ≠ [] := fun hmem hnil => by
    rw [hnil] at hmem
    cases hmem
  obtain ⟨all, hall, hfirst⟩ := hfollows.first_of_answer.resolve_left (hne hitem)
  obtain ⟨all', hall', hfirst'⟩ := hfollows'.first_of_answer.resolve_left (hne hitem')
  rw [hquery, hlimit, hplace] at hall
  obtain rfl : all = all' := Except.ok.inj (hall.symm.trans hall')
  refine ⟨List.prefix_or_prefix_of_prefix hfirst hfirst', fun hended hcalm hended' hcalm' => ?_⟩
  have hanswer := hfollows.answer_of_ended hended hcalm
  have hanswer' := hfollows'.answer_of_ended hended' hcalm'
  rw [hquery, hlimit, hplace] at hanswer
  exact Except.ok.inj (hanswer.symm.trans hanswer')

/-- **Tokens explain results.** In every run of a backend that was empty, the writes are answered
the tokens 1, 2, 3 and so on, each once, in the order in which they take effect. The store of a
token is the store after so many writes. A check is answered what the store of its token says. All
items of a stream carry one token, and they are the first ones of what the store of this token
answers to the query, or all of them if the reader came to the end and did not cancel. So two
streams of one query that carry one token have the same items, as far as both were read. -/
theorem tokens_explain_results (hempty : b.store = {}) (hscript : b.script = none)
    (moves : List Move) {l : Ledger} (hl : l = (start b).run moves) :
    l.tokens = ((List.range' 1 l.tokens.length).map fun n => ⟨decimal n⟩) ∧ l.tokens.Nodup ∧
      l.past.length = l.tokens.length + 1 ∧
      (∀ k s, l.past[k]? = some s → ∃ acts, acts <+: moves.filterMap Move.act? ∧
        (b.after acts).store = s ∧ (b.writes acts).length = k) ∧
      (∀ c ∈ l.checks, ExplainsCheck l.past c) ∧
      (∀ r ∈ l.reads, ∃ k s, l.past[k]? = some s ∧
        (∀ item ∈ r.taken, item.readAt = ⟨decimal k⟩) ∧
        (r.taken = [] ∨ ∃ all, s.answer r.limit r.place r.query = .ok all ∧ r.taken <+: all) ∧
        (r.state = .ended → r.isCanceled = false →
          s.answer r.limit r.place r.query = .ok r.taken)) ∧
      ∀ r ∈ l.reads, ∀ r' ∈ l.reads,
        r.query = r'.query → r.limit = r'.limit → r.place = r'.place →
        ∀ item ∈ r.taken, ∀ item' ∈ r'.taken, item.readAt = item'.readAt →
          (r.taken <+: r'.taken ∨ r'.taken <+: r.taken) ∧
            (r.state = .ended → r.isCanceled = false → r'.state = .ended → r'.isCanceled = false →
              r.taken = r'.taken) := by
  subst hl
  have h := (Consistent.start hempty hscript).run moves
  refine ⟨h.counted, h.nodup_tokens, h.recorded, fun k s => exists_of_past, h.checked,
    fun r hr => ?_, fun r hr r' hr' hquery hlimit hplace item hitem item' hitem' hsame =>
      h.agree hr hr' hquery hlimit hplace hitem hitem' hsame⟩
  obtain ⟨k, s, items, ending, hs, htoken, hfollows⟩ := h.read r hr
  exact ⟨k, s, hs, fun item hitem => (hfollows.readAt hitem).trans htoken,
    hfollows.first_of_answer, hfollows.answer_of_ended⟩

/-- A stream is opened between two writes and read after both. It shows what the first one left. -/
theorem tokens_explain_results_readme :
    let viewer (id : String) : Relationship :=
      ⟨⟨"document", "readme"⟩, "viewer", ⟨⟨"user", id⟩, none⟩⟩
    let q : StreamQuery :=
      .subjects
        { resource := ⟨"document", "readme"⟩, permission := "viewer", subjectType := "user" }
    let b : Backend := { mint := fun n => ⟨toString n⟩ }
    let l := (start b).run [.act (.perform (.create [viewer "ada", viewer "bob"] .create)),
      .read q 0 none 0, .act (.perform (.delete { resourceType := "document" })),
      .advance 0 1 false, .advance 0 1 false, .advance 0 1 false, .look 0, .look 0, .look 0]
    b.store = {} ∧ b.script = none ∧ l.tokens = [⟨"1"⟩, ⟨"2"⟩] ∧
      ∃ r s, l.reads = [r] ∧ l.past[1]? = some s ∧
        r.taken.map q.told = [some (viewer "ada"), some (viewer "bob")] ∧
        s.answer r.limit r.place r.query = .ok r.taken := by
  intro viewer q b l
  have hempty : b.store = {} := rfl
  obtain ⟨-, -, -, -, -, hreads, -⟩ := tokens_explain_results hempty rfl _ (rfl : l = _)
  obtain ⟨r, hr⟩ : ∃ r, l.reads = [r] := List.length_eq_one_iff.1 (by decide +kernel)
  have hshown : l.reads.map (fun r => (r.taken.map q.told, r.taken.map Item.readAt, r.state,
      r.isCanceled)) =
        [([some (viewer "ada"), some (viewer "bob")], [⟨"1"⟩, ⟨"1"⟩], .ended, false)] := by
    decide +kernel
  rw [hr, List.map_singleton, List.singleton_inj, Prod.mk.injEq, Prod.mk.injEq,
    Prod.mk.injEq] at hshown
  obtain ⟨htold, hreadAt, hended, hcalm⟩ := hshown
  obtain ⟨k, s, hs, htoken, -, hwhole⟩ := hreads r (by rw [hr]; exact List.mem_singleton_self r)
  have hone : k = 1 := by
    have hmem : (⟨"1"⟩ : ConsistencyToken) ∈ r.taken.map Item.readAt := by
      rw [hreadAt]
      exact List.mem_cons_self
    obtain ⟨item, hitem, hat⟩ := List.mem_map.1 hmem
    rw [htoken item hitem] at hat
    exact decimal_injective (congrArg ConsistencyToken.text hat)
  subst hone
  exact ⟨hempty, rfl, by decide +kernel, r, s, hr, hs, htold, hwhole hended hcalm⟩

end Ledger

end RelationGate
