import Mathlib.Data.List.Sort
import RelationGate.Proofs.Number.Decimal
import RelationGate.Proofs.Store.Answer
import RelationGate.Proofs.Store.History

/-!
# Paging

A client that pages through a query asks for at most so many items after the last one it has got,
until a page is empty (`Backend.browse`). Between its pages anything may happen to the backend.

The cursor is the number of a row, and rows keep their numbers. So the rows that a client is shown
are told by their numbers alone: they increase from page to page, and a row that stays in the store
is passed by no cursor before it has been shown (`browse_delivers`). Main result:
`paging_loses_and_repeats_nothing`.
-/

namespace RelationGate

open Number Store

/-! ## Pages -/

/-- The query for a page: at most so many items after a place. -/
def StreamQuery.page (q : StreamQuery) (limit : UInt32) (place : Option ContinuationToken) :
    StreamQuery :=
  match q with
  | .subjects q => .subjects { q with pagination := some ⟨some limit, place⟩ }
  | .resources q => .resources { q with pagination := some ⟨some limit, place⟩ }
  | .read q => .read { q with pagination := some ⟨some limit, place⟩ }

/-- One turn of a client that pages: what happens to the backend before the page is opened, and how
many items are asked for. -/
structure Turn where
  acts : List Act
  limit : UInt32

/-- A page, and the store that it was opened on. -/
structure Page where
  store : Store
  items : List Item
  deriving DecidableEq

namespace Backend

/-- The items that a query is answered with, under the limit that a policy resolves. -/
def ask (b : Backend) (p : LimitPolicy) (q : StreamQuery) : Except BackendError (List Item) := do
  b.checkAvailable
  b.store.answer (p.resolve q).word q.place q

/-- The pages that a client gets. It goes on after the last item of a page, until a page is empty or
its turns are over. -/
def browse (p : LimitPolicy) (q : StreamQuery) :
    List Turn → Backend → Option ContinuationToken → Except BackendError (List Page)
  | [], _, _ => .ok []
  | turn :: rest, b, place => do
    let items ← (b.after turn.acts).ask p (q.page turn.limit place)
    match items.getLast? with
    | none => return [⟨(b.after turn.acts).store, []⟩]
    | some last =>
      let later ← browse p q rest (b.after turn.acts) (some last.continuation)
      return ⟨(b.after turn.acts).store, items⟩ :: later

/-- The backend at the moments at which the pages are opened. -/
def openings : List Turn → Backend → List Backend
  | [], _ => []
  | turn :: rest, b => b.after turn.acts :: openings rest (b.after turn.acts)

end Backend

/-- The last page is empty. -/
def EndsEmpty (pages : List Page) : Prop := ∃ page, pages.getLast? = some page ∧ page.items = []

/-- The items of all pages. -/
def delivered (pages : List Page) : List Item := pages.flatMap (·.items)

variable {b : Backend} {p : LimitPolicy} {q : StreamQuery} {limit : UInt32} {after : Option Nat}
  {items : List Item} {turn : Turn} {turns rest : List Turn} {page : Page} {pages : List Page}

/-- The items of a query are those of the stream that is opened for it on the store. -/
theorem openFeed_eq_ask (hscript : b.script = none) (now : Nat) :
    b.openFeed q (p.resolve q).word q.place now = Feed.ofItems b.buffer <$> b.ask p q := by
  rw [Backend.openFeed, hscript, Backend.ask]
  cases b.checkAvailable with
  | error e => rfl
  | ok u => rfl

/-! ## The query for a page -/

namespace StreamQuery

theorem vet_page (s : Store) (q : StreamQuery) (limit : UInt32)
    (place : Option ContinuationToken) : s.vet (q.page limit place) = s.vet q := by
  cases q <;> rfl

theorem itemsAfter_page (s : Store) (q : StreamQuery) (limit : UInt32)
    (place : Option ContinuationToken) :
    s.itemsAfter (q.page limit place) after = s.itemsAfter q after := by
  cases q <;> rfl

theorem place_page (q : StreamQuery) (limit : UInt32) (place : Option ContinuationToken) :
    (q.page limit place).place = place.filter (!·.text.isEmpty) := by
  cases q <;> rfl

/-- The cap of a page is its limit, or the ceiling. -/
theorem capOf_page (hlimit : limit ≠ 0) (place : Option ContinuationToken) :
    p.capOf (q.page limit place) = some (min limit.toNat p.ceiling.toNat) := by
  cases q <;> simp [LimitPolicy.capOf, LimitPolicy.requestedCap, page, hlimit]

end StreamQuery

/-- The place after a number, if there is one. -/
def placeAfter (after : Option Nat) : Option ContinuationToken := after.map fun n => ⟨decimal n⟩

theorem filter_placeAfter (after : Option Nat) :
    (placeAfter after).filter (!·.text.isEmpty) = placeAfter after := by
  cases after with
  | none => rfl
  | some n => simp [placeAfter, decimal_ne_empty]

/-- A place is read back as the number it was made of, if that fits a word. -/
theorem startAfter_placeAfter_eq_ok_iff {found : Option Nat} :
    startAfter (placeAfter after) = .ok found ↔ (∀ n ∈ after, n < wordBound) ∧ found = after := by
  cases after with
  | none => simp [placeAfter, startAfter, eq_comm]
  | some n =>
    simp only [placeAfter, Option.map_some, startAfter, word?_decimal, Option.mem_def,
      Option.some.injEq, forall_eq']
    by_cases hn : n < wordBound
    · simp [hn, eq_comm]
    · simp [hn]

namespace Backend

/-- **When a page is answered, and with what.** -/
theorem ask_page_eq_ok_iff (hlimit : limit ≠ 0) :
    b.ask p (q.page limit (placeAfter after)) = .ok items ↔
      b.isAvailable = true ∧ b.store.vet q = .ok () ∧ (∀ n ∈ after, n < wordBound) ∧
        items = (b.store.itemsAfter q after).take (min limit.toNat p.ceiling.toNat) := by
  have hanswer : b.store.answer (p.resolve (q.page limit (placeAfter after))).word
      (q.page limit (placeAfter after)).place (q.page limit (placeAfter after)) = .ok items ↔
        b.store.vet q = .ok () ∧ (∀ n ∈ after, n < wordBound) ∧
          items = (b.store.itemsAfter q after).take (min limit.toNat p.ceiling.toNat) := by
    rw [answer_eq_ok_iff, StreamQuery.vet_page, StreamQuery.place_page, filter_placeAfter]
    simp only [startAfter_placeAfter_eq_ok_iff, StreamQuery.itemsAfter_page, atMost_word,
      LimitPolicy.cap?_resolve, StreamQuery.capOf_page hlimit, cutAt]
    constructor
    · rintro ⟨hvet, found, ⟨hfits, rfl⟩, hitems⟩
      exact ⟨hvet, hfits, hitems⟩
    · rintro ⟨hvet, hfits, hitems⟩
      exact ⟨hvet, after, ⟨hfits, rfl⟩, hitems⟩
  rw [ask, checkAvailable]
  cases b.isAvailable with
  | false => simp [bind, Except.bind]
  | true => simpa [bind, Except.bind] using hanswer

end Backend

/-! ## One page -/

/-- A page shows rows of its store. -/
structure Page.Shows (q : StreamQuery) (page : Page) (rows : List Row) : Prop where
  items : page.items.map some = rows.map (itemOf page.store.token · q)
  stored : rows.Sublist page.store.rows

theorem map_some_filterMap {α β : Type} (f : α → Option β) (as : List α) :
    (as.filterMap f).map some = (as.filter fun a => (f a).isSome).map f := by
  induction as with
  | nil => rfl
  | cons a as ih =>
    rw [List.filterMap_cons, List.filter_cons]
    cases ha : f a with
    | none => simpa using ih
    | some b => simp [ih, ha]

namespace Store

variable {s : Store}

/-- The rows after a number that a query wants. -/
def wantedAfter (s : Store) (q : StreamQuery) (after : Option Nat) : List Row :=
  (s.rows.filter (isAfter after)).filter fun row => q.wants row.relationship

theorem mem_wantedAfter {row : Row} : row ∈ s.wantedAfter q after ↔
    row ∈ s.rows ∧ isAfter after row = true ∧ q.wants row.relationship = true := by
  rw [wantedAfter, List.mem_filter, List.mem_filter, and_assoc]

theorem wantedAfter_sublist (s : Store) (q : StreamQuery) (after : Option Nat) :
    (s.wantedAfter q after).Sublist s.rows :=
  List.filter_sublist.trans List.filter_sublist

theorem map_some_itemsAfter (s : Store) (q : StreamQuery) (after : Option Nat) :
    (s.itemsAfter q after).map some = (s.wantedAfter q after).map (itemOf s.token · q) := by
  rw [itemsAfter, map_some_filterMap, wantedAfter]
  simp only [isSome_itemOf]

/-- **What a page shows**: wanted rows after its place. A wanted row that it does not show comes
behind all that it shows, and then it shows some. -/
theorem page_shows (hs : s.WellFormed) {k : Nat} (hk : 0 < k)
    (hitems : items = (s.itemsAfter q after).take k) :
    ∃ rows, Page.Shows q ⟨s, items⟩ rows ∧ (∀ row ∈ rows, isAfter after row = true) ∧
      ∀ row ∈ s.rows, q.wants row.relationship = true → isAfter after row = true →
        row ∈ rows ∨ rows ≠ [] ∧ ∀ shown ∈ rows, shown.number < row.number := by
  have hsub := s.wantedAfter_sublist q after
  have hincreasing := hs.increasing.sublist hsub
  refine ⟨(s.wantedAfter q after).take k, ⟨?_, (List.take_sublist _ _).trans hsub⟩, ?_, ?_⟩
  · show items.map some = _
    rw [hitems, List.map_take, map_some_itemsAfter, List.map_take]
  · intro row hrow
    exact (mem_wantedAfter.1 (List.mem_of_mem_take hrow)).2.1
  · intro row hrow hwants hafter
    have hmem : row ∈ s.wantedAfter q after := mem_wantedAfter.2 ⟨hrow, hafter, hwants⟩
    rw [← List.take_append_drop k (s.wantedAfter q after)] at hmem hincreasing
    rcases List.mem_append.1 hmem with htaken | hleft
    · exact .inl htaken
    · refine .inr ⟨?_, fun shown hshown => ?_⟩
      · intro hnone
        rw [List.take_eq_nil_iff] at hnone
        rcases hnone with hzero | hnil
        · omega
        · rw [hnil] at hleft
          simp at hleft
      · exact (List.pairwise_append.1 hincreasing).2.2 shown hshown row hleft

end Store

/-- The last item that a page shows names the number of the last row. -/
theorem Page.Shows.last {rows : List Row} {last : Item} (h : page.Shows q rows)
    (hlast : page.items.getLast? = some last) :
    ∃ row, rows.getLast? = some row ∧ last.continuation = ⟨decimal row.number⟩ := by
  have hmapped := congrArg List.getLast? h.items
  rw [List.getLast?_map, List.getLast?_map, hlast] at hmapped
  cases hrow : rows.getLast? with
  | none =>
    rw [hrow] at hmapped
    cases hmapped
  | some row =>
    rw [hrow] at hmapped
    have hitem : itemOf page.store.token row q = some last := by simpa using hmapped.symm
    exact ⟨row, rfl, (itemOf_eq_some hitem).1⟩

/-- In a list of increasing numbers the last one is the largest. -/
theorem number_le_last {rows : List Row} {row last : Row}
    (hincreasing : rows.Pairwise (·.number < ·.number)) (hlast : rows.getLast? = some last)
    (hrow : row ∈ rows) : row.number ≤ last.number := by
  obtain ⟨front, rfl⟩ := List.getLast?_eq_some_iff.1 hlast
  rcases List.mem_append.1 hrow with hfront | hend
  · exact Nat.le_of_lt ((List.pairwise_append.1 hincreasing).2.2 row hfront last (by simp))
  · rw [List.mem_singleton.1 hend]

/-! ## All pages -/

/-- Pages deliver rows: each page shows some of its store, in the order of the pages. -/
inductive Delivers (q : StreamQuery) : List Page → List Row → Prop where
  | nil : Delivers q [] []
  | cons {page : Page} {pages : List Page} {rows later : List Row} (h : page.Shows q rows)
      (hlater : Delivers q pages later) : Delivers q (page :: pages) (rows ++ later)

/-- Items that come from rows one by one agree with them in whatever an item tells of its row. -/
theorem map_eq_map_of_itemOf {γ : Type} {token : ConsistencyToken} {items : List Item}
    {rows : List Row} (h : items.map some = rows.map (itemOf token · q)) {f : Item → γ}
    {g : Row → γ}
    (hfg : ∀ row item, itemOf token row q = some item → f item = g row) :
    items.map f = rows.map g := by
  induction items generalizing rows with
  | nil =>
    rw [List.map_nil, eq_comm, List.map_eq_nil_iff] at h
    rw [h]
    rfl
  | cons item items ih =>
    cases rows with
    | nil => cases h
    | cons row rows =>
      rw [List.map_cons, List.map_cons, List.cons.injEq] at h
      rw [List.map_cons, List.map_cons, hfg row item h.1.symm, ih h.2]

namespace Delivers

variable {rows : List Row}

theorem delivered_cons (page : Page) (pages : List Page) :
    delivered (page :: pages) = page.items ++ delivered pages := rfl

/-- The tokens of the items are the numbers of the rows. -/
theorem continuations (h : Delivers q pages rows) :
    (delivered pages).map Item.continuation = rows.map fun row => ⟨decimal row.number⟩ := by
  induction h with
  | nil => rfl
  | cons h hlater ih =>
    rw [delivered_cons, List.map_append, List.map_append, ih]
    rw [map_eq_map_of_itemOf h.items fun row item hitem => (itemOf_eq_some hitem).1]

/-- The items tell of the relationships of the rows. -/
theorem told (h : Delivers q pages rows) :
    (delivered pages).map q.told = rows.map fun row => some row.relationship := by
  induction h with
  | nil => rfl
  | cons h hlater ih =>
    rw [delivered_cons, List.map_append, List.map_append, ih]
    rw [map_eq_map_of_itemOf h.items fun row item hitem => (itemOf_eq_some hitem).2.2]

/-- On stores of one token, the items are those of the rows. -/
theorem items_eq {token : ConsistencyToken} (h : Delivers q pages rows)
    (htoken : ∀ page ∈ pages, page.store.token = token) :
    (delivered pages).map some = rows.map (itemOf token · q) := by
  induction h with
  | nil => rfl
  | cons h hlater ih =>
    rw [List.forall_mem_cons] at htoken
    rw [delivered_cons, List.map_append, List.map_append, ih htoken.2, h.items, htoken.1]

/-- Every row was stored when its page was opened. -/
theorem exists_page (h : Delivers q pages rows) {row : Row} (hrow : row ∈ rows) :
    ∃ page ∈ pages, row ∈ page.store.rows := by
  induction h with
  | nil => cases hrow
  | cons h hlater ih =>
    rcases List.mem_append.1 hrow with hhere | hlater
    · exact ⟨_, List.mem_cons_self, h.stored.subset hhere⟩
    · obtain ⟨page, hpage, hstored⟩ := ih hlater
      exact ⟨page, List.mem_cons_of_mem _ hpage, hstored⟩

/-- Every item comes from a row of the store that its page was opened on. -/
theorem exists_row (h : Delivers q pages rows) (hpage : page ∈ pages) {item : Item}
    (hitem : item ∈ page.items) :
    ∃ row ∈ page.store.rows, itemOf page.store.token row q = some item := by
  induction h with
  | nil => cases hpage
  | cons h hlater ih =>
    rcases List.mem_cons.1 hpage with rfl | hpage
    · have hmem := List.mem_map_of_mem (f := some) hitem
      rw [h.items] at hmem
      obtain ⟨row, hrow, heq⟩ := List.mem_map.1 hmem
      exact ⟨row, h.stored.subset hrow, heq⟩
    · exact ih hpage

end Delivers

/-! ## The run of a client -/

theorem Store.mem_itemsAfter {s : Store} {item : Item} (h : item ∈ s.itemsAfter q after) :
    ∃ row ∈ s.rows, itemOf s.token row q = some item := by
  rw [itemsAfter, List.mem_filterMap] at h
  obtain ⟨row, hrow, hitem⟩ := h
  exact ⟨row, List.mem_of_mem_filter hrow, hitem⟩

namespace Backend

/-- A query that passes goes on to pass. -/
theorem vet_after (h : b.store.vet q = .ok ()) (acts : List Act) :
    (b.after acts).store.vet q = .ok () := by
  have hle : b.store.revision ≤ (b.after acts).store.revision := by
    rw [after_revision]
    omega
  exact vet_mono hle h

/-- **What a turn can do**: it gets an empty page, which is the last one, or a page after whose last
item the client goes on. -/
theorem browse_cons {place : Option ContinuationToken}
    (h : b.browse p q (turn :: rest) place = .ok pages) :
    ∃ items, (b.after turn.acts).ask p (q.page turn.limit place) = .ok items ∧
      ((items = [] ∧ pages = [⟨(b.after turn.acts).store, []⟩]) ∨
        ∃ last later, items.getLast? = some last ∧
          (b.after turn.acts).browse p q rest (some last.continuation) = .ok later ∧
            pages = ⟨(b.after turn.acts).store, items⟩ :: later) := by
  rw [browse] at h
  cases hask : (b.after turn.acts).ask p (q.page turn.limit place) with
  | error e =>
    rw [hask] at h
    cases h
  | ok items =>
    rw [hask] at h
    refine ⟨items, rfl, ?_⟩
    cases hlast : items.getLast? with
    | none =>
      simp only [bind, Except.bind, hlast] at h
      cases h
      exact .inl ⟨List.getLast?_eq_none_iff.1 hlast, rfl⟩
    | some last =>
      simp only [bind, Except.bind, hlast] at h
      cases hlater : (b.after turn.acts).browse p q rest (some last.continuation) with
      | error e =>
        rw [hlater] at h
        cases h
      | ok later =>
        rw [hlater] at h
        cases h
        exact .inr ⟨last, later, rfl, hlater, rfl⟩

theorem endsEmpty_cons (h : page.items ≠ []) : EndsEmpty (page :: pages) ↔ EndsEmpty pages := by
  cases pages with
  | nil => simp [EndsEmpty, h]
  | cons page' pages => simp [EndsEmpty]

/-- **The rows that a client is shown** increase from page to page. A row that is stored when each
page is opened, and wanted, has been shown once a page is empty. -/
theorem browse_delivers (after : Option Nat) (hlimits : ∀ turn ∈ turns, turn.limit ≠ 0)
    (hb : b.store.WellFormed)
    (h : b.browse p q turns (placeAfter after) = .ok pages) :
    (∀ page ∈ pages, page.store.WellFormed) ∧
      ∃ rows, Delivers q pages rows ∧ rows.Pairwise (·.number < ·.number) ∧
        (∀ row ∈ rows, isAfter after row = true) ∧
          (EndsEmpty pages → ∀ row, (∀ page ∈ pages, row ∈ page.store.rows) →
            q.wants row.relationship = true → isAfter after row = true → row ∈ rows) := by
  induction turns generalizing b after pages with
  | nil =>
    cases h
    refine ⟨by simp, [], .nil, .nil, by simp, fun hend => ?_⟩
    obtain ⟨page, hpage, -⟩ := hend
    cases hpage
  | cons turn rest ih =>
    rw [List.forall_mem_cons] at hlimits
    have hs := after_wellFormed hb turn.acts
    obtain ⟨items, hask, hcases⟩ := browse_cons h
    obtain ⟨-, -, -, hitems⟩ := (ask_page_eq_ok_iff hlimits.1).1 hask
    have hk : 0 < min turn.limit.toNat p.ceiling.toNat := by
      have hlimit : turn.limit.toNat ≠ 0 := fun h => hlimits.1 (UInt32.toNat_inj.1 h)
      have hceiling : p.ceiling.toNat ≠ 0 := fun h => p.positive (UInt32.toNat_inj.1 h)
      omega
    obtain ⟨shown, hshows, hafter, hwhole⟩ := page_shows hs hk hitems
    have hshown : shown.Pairwise (·.number < ·.number) := hs.increasing.sublist hshows.stored
    obtain ⟨rfl, rfl⟩ | ⟨last, later, hlast, hbrowse, rfl⟩ := hcases
    · -- Nothing is shown, so nothing that is wanted comes after the place.
      have hnone : shown = [] := by simpa using hshows.items.symm
      subst hnone
      refine ⟨by simpa using hs, [] ++ [], .cons hshows .nil, .nil, by simp, ?_⟩
      intro _ row hstays hwants hrow
      rcases hwhole row (hstays _ List.mem_cons_self) hwants hrow with hmem | ⟨hne, -⟩
      · exact hmem
      · exact absurd rfl hne
    · have hne : items ≠ [] := by
        rintro rfl
        cases hlast
      obtain ⟨final, hfinal, htoken⟩ := hshows.last hlast
      have hplace : (some last.continuation) = placeAfter (some final.number) := by
        rw [htoken]
        rfl
      rw [hplace] at hbrowse
      obtain ⟨hstores, rows, hdelivers, hrows, hbeyond, hrest⟩ := ih _ hlimits.2 hs hbrowse
      have hbound : ∀ row ∈ shown, row.number ≤ final.number := fun row hrow =>
        number_le_last hshown hfinal hrow
      have hbehind : ∀ row ∈ rows, final.number < row.number := by
        intro row hrow
        simpa [isAfter] using hbeyond row hrow
      refine ⟨List.forall_mem_cons.2 ⟨hs, hstores⟩, shown ++ rows, .cons hshows hdelivers,
        ?_, ?_, ?_⟩
      · rw [List.pairwise_append]
        refine ⟨hshown, hrows, fun row hrow row' hrow' => ?_⟩
        exact Nat.lt_of_le_of_lt (hbound row hrow) (hbehind row' hrow')
      · intro row hrow
        rcases List.mem_append.1 hrow with hhere | hlater
        · exact hafter row hhere
        · have hfinalAfter := hafter final (List.mem_of_getLast? hfinal)
          have hlt := hbehind row hlater
          cases after with
          | none => rfl
          | some n =>
            simp only [isAfter, decide_eq_true_eq] at hfinalAfter ⊢
            omega
      · intro hend row hstays hwants hrow
        rw [endsEmpty_cons hne] at hend
        rw [List.forall_mem_cons] at hstays
        rcases hwhole row hstays.1 hwants hrow with hhere | ⟨-, hbeyond⟩
        · exact List.mem_append_left _ hhere
        · have hrow' : isAfter (some final.number) row = true := by
            simpa [isAfter] using hbeyond final (List.mem_of_getLast? hfinal)
          exact List.mem_append_right _ (hrest hend row hstays.2 hwants hrow')

/-- **How many pages there are**: one for each turn unless the last one is empty, and all but an
empty one show something. -/
theorem browse_length {place : Option ContinuationToken}
    (h : b.browse p q turns place = .ok pages) :
    pages.length ≤ (delivered pages).length + 1 ∧
      (EndsEmpty pages ∨
        pages.length = turns.length ∧ pages.length ≤ (delivered pages).length) := by
  induction turns generalizing b place pages with
  | nil =>
    cases h
    exact ⟨Nat.zero_le _, .inr ⟨rfl, Nat.zero_le _⟩⟩
  | cons turn rest ih =>
    obtain ⟨items, -, ⟨rfl, rfl⟩ | ⟨last, later, hlast, hbrowse, rfl⟩⟩ := browse_cons h
    · exact ⟨Nat.le_refl _, .inl ⟨_, rfl, rfl⟩⟩
    · have hne : items ≠ [] := by
        rintro rfl
        cases hlast
      have hsome : 0 < items.length := List.length_pos_iff.2 hne
      obtain ⟨hbound, hcases⟩ := ih hbrowse
      rw [Delivers.delivered_cons, List.length_append, endsEmpty_cons hne]
      simp only [List.length_cons]
      refine ⟨by omega, ?_⟩
      rcases hcases with hend | ⟨hturns, hfull⟩
      · exact .inl hend
      · exact .inr ⟨by omega, by omega⟩

/-- If nobody writes, every page is opened on the same rows. -/
theorem browse_quiet {place : Option ContinuationToken}
    (hquiet : b.writes (turns.flatMap (·.acts)) = [])
    (h : b.browse p q turns place = .ok pages) :
    ∀ page ∈ pages, ∃ locks, page.store = { b.store with locks } := by
  induction turns generalizing b place pages with
  | nil =>
    cases h
    simp
  | cons turn rest ih =>
    rw [List.flatMap_cons, writes_append, List.append_eq_nil_iff] at hquiet
    obtain ⟨locks, hstore⟩ := after_store_of_writes_eq_nil hquiet.1
    obtain ⟨items, -, ⟨rfl, rfl⟩ | ⟨last, later, hlast, hbrowse, rfl⟩⟩ := browse_cons h
    · exact List.forall_mem_singleton.2 ⟨locks, hstore⟩
    · refine List.forall_mem_cons.2 ⟨⟨locks, hstore⟩, fun page hpage => ?_⟩
      obtain ⟨locks', hpage⟩ := ih hquiet.2 hbrowse page hpage
      exact ⟨locks', by rw [hpage, hstore]⟩

/-- **When a client gets its pages**: the query passes, the backend is up whenever a page is
opened, and the numbers of the rows fit a word. -/
theorem browse_succeeds (after : Option Nat) (hlimits : ∀ turn ∈ turns, turn.limit ≠ 0)
    (hb : b.store.WellFormed) (hplace : ∀ n ∈ after, n < wordBound)
    (hvet : b.store.vet q = .ok ())
    (hopen : ∀ c ∈ openings turns b, c.isAvailable = true ∧ c.store.nextNumber ≤ wordBound) :
    ∃ pages, b.browse p q turns (placeAfter after) = .ok pages := by
  induction turns generalizing b after with
  | nil => exact ⟨[], rfl⟩
  | cons turn rest ih =>
    rw [List.forall_mem_cons] at hlimits
    rw [openings, List.forall_mem_cons] at hopen
    obtain ⟨⟨havailable, hfits⟩, hlater⟩ := hopen
    have hs := after_wellFormed hb turn.acts
    have hvet' := vet_after hvet turn.acts
    have hask := (ask_page_eq_ok_iff (p := p) hlimits.1).2 ⟨havailable, hvet', hplace, rfl⟩
    simp only [browse, hask, bind, Except.bind]
    cases hlast : (((b.after turn.acts).store.itemsAfter q after).take
        (min turn.limit.toNat p.ceiling.toNat)).getLast? with
    | none => exact ⟨_, rfl⟩
    | some last =>
      -- The cursor is the number of a row, so it is read back.
      obtain ⟨row, hrow, hitem⟩ :=
        mem_itemsAfter (List.mem_of_mem_take (List.mem_of_getLast? hlast))
      have hplace' : some last.continuation = placeAfter (some row.number) := by
        rw [(itemOf_eq_some hitem).1]
        rfl
      have hnumber : row.number < wordBound := Nat.lt_of_lt_of_le (hs.below row hrow) hfits
      obtain ⟨pages, hbrowse⟩ := ih (some row.number) hlimits.2 hs
        (by simpa using hnumber) hvet' hlater
      dsimp only
      rw [hplace', hbrowse]
      exact ⟨_, rfl⟩

end Backend

/-! ## What paging promises -/

/-- **Pages lose and repeat nothing**: the numbers in the tokens of the items increase; every item
comes from a row of the store that its page was opened on; and if the last page is empty, then what
stayed in the store from the first page to the last one, and is wanted, has been told of once. -/
structure Faithful (q : StreamQuery) (pages : List Page) : Prop where
  increasing : ∃ numbers : List Nat, numbers.Pairwise (· < ·) ∧
    (delivered pages).map Item.continuation = numbers.map fun n => ⟨decimal n⟩
  stored : ∀ page ∈ pages, ∀ item ∈ page.items,
    ∃ row ∈ page.store.rows, itemOf page.store.token row q = some item
  complete : EndsEmpty pages → ∀ row, (∀ page ∈ pages, row ∈ page.store.rows) →
    q.wants row.relationship = true →
      ((delivered pages).map q.told).count (some row.relationship) = 1

/-- Increasing numbers belong to different rows. -/
theorem nodup_of_increasing {rows : List Row} (h : rows.Pairwise (·.number < ·.number)) :
    rows.Nodup :=
  h.imp fun hlt heq => absurd (congrArg Row.number heq) (Nat.ne_of_lt hlt)

/-- What increases and comes from well-formed stores tells of a relationship that stays once. -/
theorem Delivers.count_told {rows : List Row} (h : Delivers q pages rows)
    (hstores : ∀ page ∈ pages, page.store.WellFormed)
    (hrows : rows.Pairwise (·.number < ·.number)) {row : Row} (hrow : row ∈ rows)
    (hstays : ∀ page ∈ pages, row ∈ page.store.rows) :
    ((delivered pages).map q.told).count (some row.relationship) = 1 := by
  rw [h.told, List.count, List.countP_map,
    ← List.count_eq_one_of_mem (nodup_of_increasing hrows) hrow, List.count]
  refine List.countP_congr fun other hother => ?_
  simp only [Function.comp_apply, beq_iff_eq, Option.some.injEq]
  constructor
  · intro hsame
    obtain ⟨page, hpage, hstored⟩ := h.exists_page hother
    exact List.inj_on_of_nodup_map (hstores page hpage).distinct hstored (hstays page hpage) hsame
  · rintro rfl
    rfl

/-- On stores of the same rows, only wanted rows of theirs are shown. -/
theorem Delivers.subset_wanted {s : Store} {rows : List Row} (h : Delivers q pages rows)
    (hsame : ∀ page ∈ pages, page.store.rows = s.rows ∧ page.store.token = s.token) :
    rows ⊆ s.wantedAfter q none := by
  intro row hrow
  obtain ⟨page, hpage, hstored⟩ := h.exists_page hrow
  have hitem := List.mem_map_of_mem (f := (itemOf s.token · q)) hrow
  rw [← h.items_eq fun page hpage => (hsame page hpage).2] at hitem
  obtain ⟨item, -, hitem⟩ := List.mem_map.1 hitem
  refine mem_wantedAfter.2 ⟨(hsame page hpage).1 ▸ hstored, rfl, ?_⟩
  have hwants : (itemOf s.token row q).isSome = q.wants row.relationship := isSome_itemOf
  rw [← hwants, ← hitem, Option.isSome_some]

/-- On stores of the same rows, the items are the whole answer if every wanted row is shown. -/
theorem Delivers.eq_itemsAfter {s : Store} {rows : List Row} (h : Delivers q pages rows)
    (hs : s.WellFormed)
    (hsame : ∀ page ∈ pages, page.store.rows = s.rows ∧ page.store.token = s.token)
    (hrows : rows.Pairwise (·.number < ·.number))
    (hwhole : ∀ row ∈ s.rows, q.wants row.relationship = true → row ∈ rows) :
    delivered pages = s.itemsAfter q none := by
  have hwanted := hs.increasing.sublist (s.wantedAfter_sublist q none)
  have hmem : ∀ row, row ∈ rows ↔ row ∈ s.wantedAfter q none := fun row =>
    ⟨fun hrow => h.subset_wanted hsame hrow, fun hrow =>
      hwhole row (mem_wantedAfter.1 hrow).1 (mem_wantedAfter.1 hrow).2.2⟩
  -- Two lists in the order of the numbers that have the same members are the same.
  have hperm := (List.perm_ext_iff_of_nodup (nodup_of_increasing hrows)
    (nodup_of_increasing hwanted)).2 hmem
  have heq : rows = s.wantedAfter q none :=
    hperm.eq_of_pairwise (fun _ _ _ _ hab hba => absurd hab (Nat.lt_asymm hba)) hrows hwanted
  have hitems := h.items_eq fun page hpage => (hsame page hpage).2
  rw [heq, ← map_some_itemsAfter] at hitems
  exact List.map_injective_iff.2 (Option.some_injective _) hitems

namespace Backend

theorem browse_faithful (hlimits : ∀ turn ∈ turns, turn.limit ≠ 0) (hb : b.store.WellFormed)
    (h : b.browse p q turns none = .ok pages) : Faithful q pages := by
  obtain ⟨hstores, rows, hdelivers, hrows, -, hwhole⟩ :=
    browse_delivers none hlimits hb h
  refine ⟨⟨rows.map (·.number), List.pairwise_map.2 hrows, ?_⟩, ?_, ?_⟩
  · rw [hdelivers.continuations, List.map_map]
    rfl
  · intro page hpage item hitem
    exact hdelivers.exists_row hpage hitem
  · intro hend row hstays hwants
    exact hdelivers.count_told hstores hrows (hwhole hend row hstays hwants rfl) hstays

/-- If nobody writes, a page is only there if the query passes. -/
theorem vet_of_browse (after : Option Nat) (hlimits : ∀ turn ∈ turns, turn.limit ≠ 0)
    (hquiet : b.writes (turns.flatMap (·.acts)) = [])
    (h : b.browse p q turns (placeAfter after) = .ok pages) (hpages : pages ≠ []) :
    b.store.vet q = .ok () := by
  cases turns with
  | nil =>
    cases h
    exact absurd rfl hpages
  | cons turn rest =>
    rw [List.forall_mem_cons] at hlimits
    rw [List.flatMap_cons, writes_append, List.append_eq_nil_iff] at hquiet
    obtain ⟨items, hask, -⟩ := browse_cons h
    have hvet := ((ask_page_eq_ok_iff hlimits.1).1 hask).2.1
    refine vet_mono ?_ hvet
    rw [after_revision, hquiet.1]
    exact Nat.le_refl _

/-- **If nobody writes, the pages make up the answer** to the query without a limit once one is
empty; and one is empty as soon as there are more turns than items. -/
theorem browse_eq_answer (hlimits : ∀ turn ∈ turns, turn.limit ≠ 0) (hb : b.store.WellFormed)
    (hquiet : b.writes (turns.flatMap (·.acts)) = [])
    (h : b.browse p q turns none = .ok pages) :
    (EndsEmpty pages → delivered pages = b.store.itemsAfter q none) ∧
      ((b.store.itemsAfter q none).length < turns.length → EndsEmpty pages) := by
  obtain ⟨-, rows, hdelivers, hrows, -, hwhole⟩ := browse_delivers none hlimits hb h
  have hsame : ∀ page ∈ pages,
      page.store.rows = b.store.rows ∧ page.store.token = b.store.token := by
    intro page hpage
    obtain ⟨locks, hstore⟩ := browse_quiet hquiet h page hpage
    rw [hstore]
    exact ⟨rfl, rfl⟩
  have hcount : (delivered pages).length ≤ (b.store.itemsAfter q none).length := by
    have hsub := List.subperm_of_subset (nodup_of_increasing hrows)
      (hdelivers.subset_wanted hsame)
    have hrowsCount :=
      congrArg List.length (hdelivers.items_eq fun page hpage => (hsame page hpage).2)
    have hwantedCount := congrArg List.length (b.store.map_some_itemsAfter q none)
    simp only [List.length_map] at hrowsCount hwantedCount
    rw [hrowsCount, hwantedCount]
    exact hsub.length_le
  obtain ⟨-, hcases⟩ := browse_length h
  refine ⟨fun hend => ?_, fun hturns => ?_⟩
  · refine hdelivers.eq_itemsAfter hb hsame hrows fun row hrow hwants => ?_
    exact hwhole hend row (fun page hpage => (hsame page hpage).1 ▸ hrow) hwants rfl
  · rcases hcases with hend | ⟨hlength, hfull⟩
    · exact hend
    · omega

/-- **Paging loses and repeats nothing, whatever others do between the pages.** After any history of
a backend that was empty, a client that goes on after the last item of each page, each with a limit
of its own, gets pages that are faithful. It does get them if its query passes, the backend is
up when its pages are opened and the numbers of the rows fit a word. If nobody writes meanwhile, the
pages up to an empty one make up the answer to the query without a limit, there is at most one page
more than items, and more turns than items are enough for an empty one. -/
theorem paging_loses_and_repeats_nothing (hempty : b.store = {}) (history : List Act)
    (p : LimitPolicy) (q : StreamQuery) (hlimits : ∀ turn ∈ turns, turn.limit ≠ 0) :
    (∀ pages, (b.after history).browse p q turns none = .ok pages → Faithful q pages) ∧
      ((b.after history).store.vet q = .ok () →
        (∀ c ∈ openings turns (b.after history),
          c.isAvailable = true ∧ c.store.nextNumber ≤ wordBound) →
        ∃ pages, (b.after history).browse p q turns none = .ok pages) ∧
      ((b.after history).writes (turns.flatMap (·.acts)) = [] →
        ∀ pages, (b.after history).browse p q turns none = .ok pages →
          (EndsEmpty pages →
            (b.after history).store.answer 0 none q = .ok (delivered pages) ∧
              pages.length ≤ (delivered pages).length + 1) ∧
          ∀ all, (b.after history).store.answer 0 none q = .ok all →
            all.length < turns.length → EndsEmpty pages) := by
  have hb : (b.after history).store.WellFormed :=
    after_wellFormed (hempty ▸ WellFormed.empty) history
  refine ⟨fun pages h => browse_faithful hlimits hb h, fun hvet hopen => ?_,
    fun hquiet pages h => ⟨fun hend => ⟨?_, (browse_length h).1⟩, fun all hall hturns => ?_⟩⟩
  · exact browse_succeeds none hlimits hb (by simp) hvet hopen
  · have hpages : pages ≠ [] := by
      rintro rfl
      obtain ⟨page, hpage, -⟩ := hend
      cases hpage
    have hvet := vet_of_browse none hlimits hquiet h hpages
    exact answer_eq_ok_iff.2 ⟨hvet, none, rfl, (browse_eq_answer hlimits hb hquiet h).1 hend⟩
  · obtain ⟨-, after, hafter, rfl⟩ := answer_eq_ok_iff.1 hall
    cases hafter
    exact (browse_eq_answer hlimits hb hquiet h).2 hturns

/-- Between the first page and the second one, the row of the cursor is deleted and stored again
under a new number. The client is shown it twice, and what stayed once. -/
theorem paging_loses_and_repeats_nothing_readme :
    let viewer (id : String) : Relationship :=
      ⟨⟨"document", "readme"⟩, "viewer", ⟨⟨"user", id⟩, none⟩⟩
    let q : StreamQuery :=
      .subjects
        { resource := ⟨"document", "readme"⟩, permission := "viewer", subjectType := "user" }
    let ada : RelationshipFilter :=
      { resourceType := "document", subjectType := some "user", subjectId := some "ada" }
    let b : Backend := { mint := fun n => ⟨toString n⟩ }
    let history : List Act :=
      [.perform (.create [viewer "ada", viewer "bob", viewer "cyd"] .create)]
    let turns : List Turn := [⟨[], 1⟩,
      ⟨[.perform (.delete ada), .perform (.create [viewer "ada"] .touch)], 7⟩, ⟨[], 1⟩, ⟨[], 1⟩]
    b.store = {} ∧ (∀ turn ∈ turns, turn.limit ≠ 0) ∧
      ∃ pages, (b.after history).browse (.ofCeiling 2) q turns none = .ok pages ∧
        pages.map (·.items.map Item.continuation) =
          [[⟨"0"⟩], [⟨"1"⟩, ⟨"2"⟩], [⟨"3"⟩], []] ∧
        ((delivered pages).map q.told).count (some (viewer "bob")) = 1 := by
  intro viewer q ada b history turns
  have hempty : b.store = {} := rfl
  have hlimits : ∀ turn ∈ turns, turn.limit ≠ 0 := by decide
  obtain ⟨hfaithful, hprogress, -⟩ :=
    paging_loses_and_repeats_nothing hempty history (.ofCeiling 2) q hlimits
  have hopen : ∀ c ∈ openings turns (b.after history),
      c.isAvailable = true ∧ c.store.nextNumber ≤ wordBound := by
    decide +kernel
  obtain ⟨pages, hpages⟩ := hprogress (by decide +kernel) hopen
  have hshown : ((b.after history).browse (.ofCeiling 2) q turns none).map (fun pages =>
      (pages.map (·.items.map Item.continuation),
        pages.all fun page => decide (⟨1, viewer "bob"⟩ ∈ page.store.rows))) =
      .ok ([[⟨"0"⟩], [⟨"1"⟩, ⟨"2"⟩], [⟨"3"⟩], []], true) := by
    decide +kernel
  rw [hpages, Except.map, Except.ok.injEq, Prod.mk.injEq, List.all_eq_true] at hshown
  obtain ⟨hcontinuations, hstays⟩ := hshown
  have hend : EndsEmpty pages := by
    have hlast := congrArg List.getLast? hcontinuations
    rw [List.getLast?_map, List.getLast?_cons_cons, List.getLast?_cons_cons,
      List.getLast?_cons_cons, List.getLast?_singleton, Option.map_eq_some_iff] at hlast
    obtain ⟨page, hpage, hitems⟩ := hlast
    exact ⟨page, hpage, List.map_eq_nil_iff.1 hitems⟩
  refine ⟨hempty, hlimits, pages, hpages, hcontinuations, ?_⟩
  exact (hfaithful pages hpages).complete hend ⟨1, viewer "bob"⟩
    (fun page hpage => of_decide_eq_true (hstays page hpage)) rfl

end Backend

end RelationGate
