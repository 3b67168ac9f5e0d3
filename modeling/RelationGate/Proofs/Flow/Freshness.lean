import RelationGate.Proofs.Flow.Tokens
import RelationGate.Proofs.Store.Genuine

/-!
# Reads are as fresh as they are asked to be

A request to read may name a point in history that the store must have reached. Whether it has is
decided before anything is read (`inquiry_cases`): a text that is no word is malformed, a word
beyond the number of writes so far is ahead, and any other word is as good as none. The tokens of
the writes of a run are the words 1, 2, 3 and so on, so that who reads with the token of a write is
never refused, and reads a store which that write has gone into. Main result: `read_your_writes`.
-/

namespace RelationGate

open Number Store

/-! ## Requests to read -/

/-- A request to read. -/
inductive Inquiry where
  | check (query : CheckQuery)
  | stream (query : StreamQuery) (limit : UInt32) (place : Option ContinuationToken)

namespace Inquiry

/-- The point in history that is asked for. -/
def consistency : Inquiry → Consistency
  | check q => q.consistency
  | stream q _ _ => q.consistency

/-- There is nothing wrong with the request, its point in history apart. -/
def IsValid : Inquiry → Prop
  | check _ => True
  | stream q _ place => q.HasValidFilter ∧ ∀ t, place = some t → ∃ n, Denotes t.text n

end Inquiry

namespace Backend

variable {b : Backend} {i : Inquiry}

/-- The failure with which a request to read is refused. Nothing has been streamed then. -/
def refusal? (b : Backend) (now : Nat) : Inquiry → Option BackendError
  | .check q =>
    match (b.react (.check q)).1 with
    | .answered (.error e) => some e
    | _ => none
  | .stream q limit place =>
    match b.reactStream q limit place now with
    | .answered (.error e) => some e
    | _ => none

/-- A request to read is answered what a store holds: a check with the token of that store, and a
stream with a feed of items that carry it. -/
def Answers (b : Backend) (now : Nat) (s : Store) : Inquiry → Prop
  | .check q => ∃ r : CheckResult, (b.react (.check q)).1 = .answered (.ok r) ∧
      r.checkedAt = s.token ∧ (r.permissionship = .hasPermission ↔
        ⟨q.resource, q.permission, q.subject⟩ ∈ s.relationships)
  | .stream q limit place => ∃ items, s.answer limit place q = .ok items ∧
      (∀ item ∈ items, item.readAt = s.token) ∧
      b.reactStream q limit place now = .answered (.ok (.ofItems b.buffer items))

/-- **What a request to read comes to.** Its point in history decides alone, if there is nothing
else wrong with it. -/
theorem inquiry_cases (h : b.IsGenuine) (havailable : b.isAvailable = true) (hvalid : i.IsValid)
    (now : Nat) :
    (∃ e, b.store.checkFreshness i.consistency = .error e ∧ b.refusal? now i = some e) ∨
      b.store.checkFreshness i.consistency = .ok () ∧ b.refusal? now i = none ∧
        b.Answers now b.store i := by
  cases i with
  | check q =>
    have hreact := h.react_check havailable q
    rw [Inquiry.consistency, refusal?, Answers, hreact]
    cases hcheck : b.store.check q with
    | error e =>
      rw [Store.check] at hcheck
      cases hfresh : b.store.checkFreshness q.consistency with
      | error e' =>
        rw [hfresh] at hcheck
        cases hcheck
        exact .inl ⟨e, rfl, rfl⟩
      | ok u =>
        rw [hfresh] at hcheck
        cases hcheck
    | ok r =>
      obtain ⟨hfresh, hat, hsays⟩ := of_check hcheck
      exact .inr ⟨hfresh, rfl, r, rfl, hat, hsays⟩
  | stream q limit place =>
    obtain ⟨hfilter, hplace⟩ := hvalid
    obtain ⟨after, hafter⟩ := startAfter_eq_ok_iff.2 hplace
    have hreact := h.reactStream_eq havailable q limit place now
    have hanswer := b.store.answer_eq limit place q
    rw [vet_of_hasValidFilter hfilter, hafter] at hanswer
    rw [Inquiry.consistency, refusal?, Answers]
    cases hfresh : b.store.checkFreshness q.consistency with
    | error e =>
      rw [hfresh] at hanswer
      rw [hanswer] at hreact
      rw [hreact]
      exact .inl ⟨e, rfl, rfl⟩
    | ok u =>
      rw [hfresh] at hanswer
      rw [hanswer] at hreact
      rw [hreact]
      exact .inr ⟨rfl, rfl, _, hanswer, fun item => readAt_of_answer hanswer, rfl⟩

/-- The table of the locks is not read. -/
theorem Answers.of_locks {s : Store} {locks : List (String × LockToken)} {now : Nat}
    (h : b.Answers now { s with locks } i) : b.Answers now s i := by
  cases i with
  | check q => exact h
  | stream q limit place =>
    obtain ⟨items, hitems, htokens, hreact⟩ := h
    rw [answer_with_locks] at hitems
    exact ⟨items, hitems, htokens, hreact⟩

/-- A check that is answered is answered by the store. -/
theorem check_of_checked? {a : Act} {c : CheckQuery × CheckResult} (h : b.checked? a = some c) :
    b.store.check c.1 = .ok c.2 := by
  cases a with
  | note issued => cases h
  | switch isAvailable => cases h
  | perform op =>
    cases op with
    | check q =>
      rw [checked?] at h
      split at h
      next r hr =>
        cases h
        obtain hreact | ⟨-, hnone⟩ := b.react_cases (.check q)
        · rw [hreact, Reaction.answered.injEq] at hr
          exact checkAvailable_bind_eq_ok hr
        · exact absurd hr (hnone r)
      next => cases h
    | _ => cases h

end Backend

/-- The move of a ledger that a request to read is. -/
def Inquiry.move (now : Nat) : Inquiry → Move
  | check q => .act (.perform (.check q))
  | stream q limit place => .read q limit place now

/-! ## What a run reads -/

namespace Ledger

variable {l : Ledger} {b : Backend} {t : ConsistencyToken}

/-- A request that is refused reads nothing: no check is answered, and no stream is opened. -/
theorem step_of_refusal {i : Inquiry} {now : Nat} {e : BackendError}
    (h : l.backend.refusal? now i = some e) :
    (l.step (i.move now)).checks = l.checks ∧ (l.step (i.move now)).reads = l.reads := by
  cases i with
  | check q =>
    have hnone : l.backend.checked? (.perform (.check q)) = none := by
      rw [Backend.refusal?] at h
      rw [Backend.checked?]
      split
      next r hr =>
        rw [hr] at h
        cases h
      next => rfl
    rw [Inquiry.move, step, hnone]
    exact ⟨List.append_nil _, rfl⟩
  | stream q limit place =>
    have hnone : l.backend.opened? q limit place now = none := by
      rw [Backend.refusal?] at h
      rw [Backend.opened?]
      split
      next feed hfeed =>
        rw [hfeed] at h
        cases h
      next => rfl
    rw [Inquiry.move, step, hnone]
    exact ⟨rfl, List.append_nil _⟩

/-- Every check was answered by one of the stores of the past, and every stream is one of them. -/
structure UpToDate (l : Ledger) : Prop where
  consistent : l.Consistent
  genuine : l.backend.IsGenuine
  checked : ∀ c ∈ l.checks, ∃ (k : Nat) (s : Store), l.past[k]? = some s ∧ s.token = ⟨decimal k⟩ ∧
    s.check c.1 = .ok c.2
  read : ∀ r ∈ l.reads, ∃ (k : Nat) (s : Store) (items : List Item), l.past[k]? = some s ∧
    s.token = ⟨decimal k⟩ ∧ r.Follows s items .close

namespace UpToDate

theorem start (hempty : b.store = {}) (hgenuine : b.IsGenuine) : (start b).UpToDate where
  consistent := .start hempty hgenuine.unscripted
  genuine := hgenuine
  checked := by simp [Ledger.start]
  read := by simp [Ledger.start]

/-- The store as it is, but for the table of the locks, is the last one of the past. -/
theorem current (h : l.UpToDate) : ∃ s locks, l.past[l.tokens.length]? = some s ∧
    l.backend.store = { s with locks } ∧ s.token = ⟨decimal l.tokens.length⟩ := by
  obtain ⟨s, locks, hs, hstore, hrevision⟩ := h.consistent.current
  exact ⟨s, locks, hs, hstore, by rw [Store.token, hrevision]⟩

theorem act (h : l.UpToDate) (a : Act) : (l.step (.act a)).UpToDate := by
  obtain ⟨s, locks, hs, hstore, htoken⟩ := h.current
  refine ⟨h.consistent.step _, h.genuine.act a, fun c hc => ?_, fun r hr => ?_⟩
  · rcases List.mem_append.1 hc with hc | hc
    · obtain ⟨k, s, hs, hrest⟩ := h.checked c hc
      exact ⟨k, s, getElem?_append_of_eq_some hs _, hrest⟩
    · have hcheck := Backend.check_of_checked? (Option.mem_toList.1 hc)
      rw [hstore] at hcheck
      exact ⟨_, s, getElem?_append_of_eq_some hs _, htoken, hcheck⟩
  · obtain ⟨k, s, items, hs, hrest⟩ := h.read r hr
    exact ⟨k, s, items, getElem?_append_of_eq_some hs _, hrest⟩

theorem opened (h : l.UpToDate) {q : StreamQuery} {limit : UInt32}
    {place : Option ContinuationToken} {now : Nat} {r : StreamRead}
    (hr : l.backend.opened? q limit place now = some r) :
    ∃ (k : Nat) (s : Store) (items : List Item), l.past[k]? = some s ∧ s.token = ⟨decimal k⟩ ∧
      r.Follows s items .close := by
  obtain ⟨s, locks, hs, hstore, htoken⟩ := h.current
  rw [Backend.opened?] at hr
  split at hr
  next feed hfeed =>
    cases hr
    obtain ⟨items, hitems, rfl⟩ := h.genuine.answer_of_reactStream hfeed
    rw [hstore, answer_with_locks] at hitems
    refine ⟨_, s, items, hs, htoken, .inl ⟨rfl, hitems⟩, List.nil_prefix,
      (fun hended => by cases hended), fun _ => ?_⟩
    exact Feed.Sound.fresh false l.backend.buffer 0 0
  next => cases hr

theorem step (h : l.UpToDate) (m : Move) : (l.step m).UpToDate := by
  have hconsistent := h.consistent.step m
  have hmodify : ∀ {f : StreamRead → StreamRead} (i : Nat),
      (∀ r s items ending, r.Follows s items ending → (f r).Follows s items ending) →
      ∀ r ∈ l.reads.modify i f, ∃ (k : Nat) (s : Store) (items : List Item),
        l.past[k]? = some s ∧ s.token = ⟨decimal k⟩ ∧ r.Follows s items .close := by
    intro f i hf
    refine forall_mem_modify h.read (fun r hr => ?_) i
    obtain ⟨k, s, items, hs, htoken, hfollows⟩ := hr
    exact ⟨k, s, items, hs, htoken, hf r s items _ hfollows⟩
  cases m with
  | act a => exact h.act a
  | read q limit place now =>
    refine ⟨hconsistent, h.genuine, h.checked, fun r hr => ?_⟩
    rcases List.mem_append.1 hr with hr | hr
    · exact h.read r hr
    · exact h.opened (Option.mem_toList.1 hr)
  | advance i now noticed =>
    exact ⟨hconsistent, h.genuine, h.checked,
      hmodify i fun r s items ending hr => hr.advance now noticed⟩
  | look i =>
    exact ⟨hconsistent, h.genuine, h.checked, hmodify i fun r s items ending hr => hr.look⟩
  | cancel i =>
    exact ⟨hconsistent, h.genuine, h.checked, hmodify i fun r s items ending hr => hr.cancel⟩
  | leave i =>
    exact ⟨hconsistent, h.genuine, h.checked, hmodify i fun r s items ending hr => hr.leave⟩

theorem run (h : l.UpToDate) (moves : List Move) : (l.run moves).UpToDate := by
  induction moves generalizing l with
  | nil => exact h
  | cons m moves ih => exact ih (h.step m)

/-- The tokens of the writes are words of their own: the numbers of the writes. -/
theorem exists_of_mem_tokens (h : l.UpToDate) (ht : t ∈ l.tokens) :
    ∃ n, 0 < n ∧ n ≤ l.tokens.length ∧ t = ⟨decimal n⟩ := by
  have hcounted := h.consistent.counted
  rw [hcounted] at ht
  obtain ⟨n, hn, rfl⟩ := List.mem_map.1 ht
  rw [List.mem_range'_1] at hn
  exact ⟨n, hn.1, by omega, rfl⟩

/-- What a request comes to that names a point in history: it is malformed, ahead of the writes, or
answered from the last store. -/
theorem inquire (h : l.UpToDate) (havailable : l.backend.isAvailable = true) {i : Inquiry}
    (hvalid : i.IsValid) (hasked : i.consistency = .atLeastAsFresh t) (now : Nat) :
    ((¬ ∃ n, Denotes t.text n) ∧
        ∃ m, l.backend.refusal? now i = some ⟨.invalidArgument, m⟩) ∨
      ∃ n, Denotes t.text n ∧
        ((l.tokens.length < n ∧ ∃ m, l.backend.refusal? now i = some ⟨.failedPrecondition, m⟩) ∨
          n ≤ l.tokens.length ∧ l.backend.refusal? now i = none ∧
            ∃ s : Store, l.past[l.tokens.length]? = some s ∧
              s.token = ⟨decimal l.tokens.length⟩ ∧ l.backend.Answers now s i) := by
  obtain ⟨s, locks, hs, hstore, htoken⟩ := h.current
  have hrevision : l.backend.store.revision = l.tokens.length := by
    rw [hstore]
    exact decimal_injective (congrArg ConsistencyToken.text htoken)
  have hreaches := l.backend.store.checkFreshness_cases t
  rw [hrevision] at hreaches
  have hcomes := Backend.inquiry_cases h.genuine havailable hvalid now
  rw [hasked] at hcomes
  obtain ⟨hword, m, hm⟩ | ⟨n, hn, ⟨hahead, m, hm⟩ | ⟨hle, hok⟩⟩ := hreaches
  · obtain ⟨e, he, hrefused⟩ | ⟨hok, -⟩ := hcomes
    · obtain rfl := Except.error.inj (he.symm.trans hm)
      exact .inl ⟨hword, m, hrefused⟩
    · cases hok.symm.trans hm
  · obtain ⟨e, he, hrefused⟩ | ⟨hok, -⟩ := hcomes
    · obtain rfl := Except.error.inj (he.symm.trans hm)
      exact .inr ⟨n, hn, .inl ⟨hahead, m, hrefused⟩⟩
    · cases hok.symm.trans hm
  · obtain ⟨e, he, -⟩ | ⟨-, hnone, hanswers⟩ := hcomes
    · cases he.symm.trans hok
    · rw [hstore] at hanswers
      exact .inr ⟨n, hn, .inr ⟨hle, hnone, s, hs, htoken, hanswers.of_locks⟩⟩

/-- **Which requests are refused, and why.** -/
theorem refusal_iff (h : l.UpToDate) (havailable : l.backend.isAvailable = true) {i : Inquiry}
    (hvalid : i.IsValid) (hasked : i.consistency = .atLeastAsFresh t) (now : Nat) :
    ((l.backend.refusal? now i).map (·.kind) = some .invalidArgument ↔ ¬ ∃ n, Denotes t.text n) ∧
      ((l.backend.refusal? now i).map (·.kind) = some .failedPrecondition ↔
        ∃ n, Denotes t.text n ∧ l.tokens.length < n) ∧
      (l.backend.refusal? now i = none ↔ ∃ n, Denotes t.text n ∧ n ≤ l.tokens.length) := by
  obtain ⟨hword, m, hm⟩ | ⟨n, hn, hcomes⟩ := h.inquire havailable hvalid hasked now
  · have hnone : ∀ n, ¬ Denotes t.text n := not_exists.1 hword
    simp [hm, hnone]
  · -- the text has this value and no other
    have hvalue : ∀ m, Denotes t.text m ↔ m = n := fun m =>
      ⟨fun hm => hm.unique hn, fun hm => hm ▸ hn⟩
    obtain ⟨hahead, m, hm⟩ | ⟨hle, hnone, -⟩ := hcomes
    · simp [hm, hvalue, hahead]
    · simp [hnone, hvalue, hle]

/-- Who asked for a point in history has read a store that had reached it. -/
theorem exists_le_of_answer {s : Store} {k : Nat} (htoken : s.token = ⟨decimal k⟩)
    (hfresh : s.checkFreshness (.atLeastAsFresh t) = .ok ()) : ∃ n, Denotes t.text n ∧ n ≤ k := by
  obtain ⟨n, hn, hle⟩ := exists_le_of_checkFreshness hfresh
  have hrevision : s.revision = k := decimal_injective (congrArg ConsistencyToken.text htoken)
  exact ⟨n, hn, hrevision ▸ hle⟩

end UpToDate

/-- **Read your writes.** In every run of a genuine backend that was empty, with fewer than 2^64
writes, a request to read that names the token of an earlier write is answered, from a store that
this write has gone into and whose token is no smaller. A request that names any text is refused as
malformed if the text is no word, as premature if the word is beyond the writes so far, and is
answered otherwise; a request that is refused reads nothing at all. Checks and streams that were
answered carry tokens no smaller than the one they named, whatever has happened since. -/
theorem read_your_writes (hempty : b.store = {}) (hgenuine : b.IsGenuine) (moves : List Move)
    {l : Ledger} (hl : l = (start b).run moves) (hfew : l.tokens.length < wordBound) :
    (l.backend.isAvailable = true → ∀ (i : Inquiry) (now : Nat) (t : ConsistencyToken),
      i.IsValid → i.consistency = .atLeastAsFresh t →
        (t ∈ l.tokens → l.backend.refusal? now i = none ∧
          ∃ n, t = ⟨decimal n⟩ ∧ n ≤ l.tokens.length) ∧
        ((l.backend.refusal? now i).map (·.kind) = some .invalidArgument ↔
          ¬ ∃ n, Denotes t.text n) ∧
        ((l.backend.refusal? now i).map (·.kind) = some .failedPrecondition ↔
          ∃ n, Denotes t.text n ∧ l.tokens.length < n) ∧
        (l.backend.refusal? now i = none ↔ ∃ n, Denotes t.text n ∧ n ≤ l.tokens.length) ∧
        (l.backend.refusal? now i = none → ∃ s, l.past[l.tokens.length]? = some s ∧
          s.token = ⟨decimal l.tokens.length⟩ ∧ l.backend.Answers now s i)) ∧
      (∀ i now e, l.backend.refusal? now i = some e →
        (l.step (i.move now)).checks = l.checks ∧ (l.step (i.move now)).reads = l.reads) ∧
      (∀ c ∈ l.checks, ∀ t, c.1.consistency = .atLeastAsFresh t →
        ∃ n k s, Denotes t.text n ∧ n ≤ k ∧ c.2.checkedAt = ⟨decimal k⟩ ∧ l.past[k]? = some s ∧
          (c.2.permissionship = .hasPermission ↔
            ⟨c.1.resource, c.1.permission, c.1.subject⟩ ∈ s.relationships)) ∧
      (∀ r ∈ l.reads, ∀ t, r.query.consistency = .atLeastAsFresh t →
        ∃ n k s items, Denotes t.text n ∧ n ≤ k ∧ l.past[k]? = some s ∧
          s.answer r.limit r.place r.query = .ok items ∧
          (∀ item ∈ items, item.readAt = ⟨decimal k⟩) ∧ r.taken <+: items ∧
          (r.state = .ended → r.isCanceled = false → r.taken = items)) ∧
      ∀ k s, l.past[k]? = some s → ∃ acts, acts <+: moves.filterMap Move.act? ∧
        (b.after acts).store = s ∧ (b.writes acts).length = k := by
  subst hl
  have h := (UpToDate.start hempty hgenuine).run moves
  refine ⟨fun havailable i now t hvalid hasked => ?_, fun i now e => step_of_refusal,
    fun c hc t hasked => ?_, fun r hr t hasked => ?_, fun k s => exists_of_past⟩
  · have hcomes := h.inquire havailable hvalid hasked now
    obtain ⟨hmalformed, hpremature, haccepted⟩ := h.refusal_iff havailable hvalid hasked now
    refine ⟨fun ht => ?_, hmalformed, hpremature, haccepted, fun hnone => ?_⟩
    · obtain ⟨n, -, hle, rfl⟩ := h.exists_of_mem_tokens ht
      have hn : Denotes (decimal n) n := denotes_decimal (by omega)
      exact ⟨haccepted.2 ⟨n, hn, hle⟩, n, rfl, hle⟩
    · obtain ⟨-, m, hm⟩ | ⟨n, -, ⟨-, m, hm⟩ | ⟨-, -, hanswers⟩⟩ := hcomes
      · cases hnone.symm.trans hm
      · cases hnone.symm.trans hm
      · exact hanswers
  · obtain ⟨k, s, hs, htoken, hcheck⟩ := h.checked c hc
    obtain ⟨hfresh, hat, hsays⟩ := of_check hcheck
    rw [hasked] at hfresh
    obtain ⟨n, hn, hle⟩ := UpToDate.exists_le_of_answer htoken hfresh
    exact ⟨n, k, s, hn, hle, hat.trans htoken, hs, hsays⟩
  · obtain ⟨k, s, items, hs, htoken, hfollows⟩ := h.read r hr
    obtain ⟨-, hanswer⟩ | ⟨⟨e, he⟩, -⟩ := hfollows.source
    · have hfresh := checkFreshness_of_vet (answer_eq_ok_iff.1 hanswer).1
      rw [hasked] at hfresh
      obtain ⟨n, hn, hle⟩ := UpToDate.exists_le_of_answer htoken hfresh
      refine ⟨n, k, s, items, hn, hle, hs, hanswer, fun item hitem => ?_, hfollows.first,
        fun hended hcalm => (hfollows.whole hended hcalm).2⟩
      rw [readAt_of_answer hanswer hitem, htoken]
    · cases he

/-- Who has just written reads with the token of the write. A later token is premature, and a mere
sign is malformed. -/
theorem read_your_writes_readme :
    let readme : ObjectRef := ⟨"document", "readme"⟩
    let ada : SubjectRef := ⟨⟨"user", "ada"⟩, none⟩
    let asks (t : String) : Inquiry := .check
      { resource := readme, permission := "viewer", subject := ada,
        consistency := .atLeastAsFresh ⟨t⟩ }
    let b : Backend := { mint := fun n => ⟨toString n⟩ }
    let l := (start b).run [.act (.perform (.create [⟨readme, "viewer", ada⟩] .create)),
      (asks "1").move 0]
    b.store = {} ∧ b.IsGenuine ∧ l.tokens = [⟨"1"⟩] ∧ l.tokens.length < wordBound ∧
      l.backend.refusal? 0 (asks "1") = none ∧
      (l.backend.refusal? 0 (asks "2")).map (·.kind) = some .failedPrecondition ∧
      (l.backend.refusal? 0 (asks "+")).map (·.kind) = some .invalidArgument ∧
      l.checks.map (·.2.checkedAt) = [⟨"1"⟩] := by
  intro readme ada asks b l
  have hgenuine : b.IsGenuine := ⟨rfl, rfl, fun _ => ⟨rfl, rfl, rfl⟩, by decide⟩
  have htokens : l.tokens = [⟨"1"⟩] := by decide +kernel
  have hfew : l.tokens.length < wordBound := by
    rw [htokens]
    decide
  have havailable : l.backend.isAvailable = true := by decide +kernel
  obtain ⟨hasks, -⟩ := read_your_writes rfl hgenuine _ (rfl : l = _) hfew
  have hasks := fun t => hasks havailable (asks t) 0 ⟨t⟩ trivial rfl
  refine ⟨rfl, hgenuine, htokens, hfew, ((hasks "1").1 (by rw [htokens]; decide)).1,
    (hasks "2").2.2.1.2 ⟨2, denotes_decimal (n := 2) (by decide), ?_⟩, (hasks "+").2.1.2 ?_, ?_⟩
  · rw [htokens]
    decide
  · exact word?_eq_none_iff.1 (by decide)
  · decide +kernel

end Ledger

end RelationGate
