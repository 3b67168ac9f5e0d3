import RelationGate.Proofs.Call.Standstill

/-!
# A lookup whose backend fails

The backend can fail a lookup when its stream is opened, or behind some items of the stream. From
then on it has nothing more to say (`Lookup.isSpent`), and the lookup owes its consumer the items
that came before, and then the failure under the name of the operation (`Lookup.Owes`).

* `Lookup.Heeds.opening_raises`, `Lookup.Heeds.stream_raises`: how a lookup that nobody has left or
  canceled comes to owe a failure.
* `Lookup.Owes.produce`, `Lookup.Owes.item`, `Lookup.Owes.paid`: what is owed is relayed, in order,
  and nothing else is.
* `Lookup.Owes.moves`, `Lookup.MovesTo.of_isSpent`: it can always be relayed further, and each move
  leaves less of it (`Lookup.backlog`).
-/

namespace RelationGate

theorem Fits.isPrefix {α : Type} {items : Nat → Option α} {as bs : List α} (has : Fits items 0 as)
    (hbs : Fits items 0 bs) (hend : items bs.length = none) : as <+: bs := by
  have hle : as.length ≤ bs.length := by
    by_contra hlt
    have hitem := has bs.length (by omega)
    rw [Nat.zero_add, hend] at hitem
    cases hitem
  rw [List.prefix_iff_getElem?]
  intro i hi
  rw [List.getElem?_eq_getElem (by omega), ← hbs i (by omega), has i hi]

theorem Limit.not_reached_of_allows {limit : Limit} {m n : Nat} (h : limit.allows n = true)
    (hle : m ≤ n) : ¬ limit.Reached m := by
  cases limit with
  | unbounded => exact id
  | capped most hmost =>
    rintro rfl
    exact absurd (of_decide_eq_true h) (by omega)

/-! ## Failing upstreams -/

/-- The stream could not be opened, or it has failed at once. -/
def Reaction.raised? : Reaction Feed → Option BackendError
  | .panicked _ => none
  | .answered (.error e) => some e
  | .answered (.ok feed) => feed.pipe.failure

namespace Upstream

variable {u : Upstream} {e e' : BackendError} {n : Nat} {hits accepted : List Item}

/-- The upstream fails right behind given items. -/
structure FailsBehind (u : Upstream) (hits : List Item) (e : BackendError) : Prop where
  fits : Fits u.items 0 hits
  fails : u.FailsAt e hits.length

theorem FailsAt.items_eq_none (h : u.FailsAt e n) : u.items n = none := by
  cases u with
  | silent => rfl
  | refusing e' => rfl
  | streaming items ending =>
    cases ending with
    | fail e' => exact h.2
    | close => exact h.elim
    | hang => exact h.elim

theorem FailsAt.not_endsAt {m : Nat} (h : u.FailsAt e n) : ¬ u.EndsAt m := by
  cases u with
  | silent => exact id
  | refusing e' => exact id
  | streaming items ending =>
    cases ending with
    | fail e' => exact id
    | close => exact h.elim
    | hang => exact h.elim

/-- An upstream fails with one failure, behind the same items. -/
theorem FailsBehind.unique (h : u.FailsBehind hits e) (hfits : Fits u.items 0 accepted)
    (hfails : u.FailsAt e' accepted.length) : accepted = hits ∧ e' = e := by
  have hfirst := hfits.isPrefix h.fits h.fails.items_eq_none
  have hlast := h.fits.isPrefix hfits hfails.items_eq_none
  refine ⟨hfirst.eq_of_length (Nat.le_antisymm hfirst.length_le hlast.length_le), ?_⟩
  have hfails' := h.fails
  cases u with
  | silent => exact hfails.elim
  | refusing e'' => exact hfails.1.symm.trans hfails'.1
  | streaming items ending =>
    cases ending with
    | fail e'' => exact hfails.1.symm.trans hfails'.1
    | close => exact hfails.elim
    | hang => exact hfails.elim

end Upstream

/-- A move of a feed that fails is its last. -/
theorem Feed.Sound.raises {items : Nat → Option Item} {ending : FeedEnding} {n now : Nat}
    {canceled noticed : Bool} {feed feed' : Feed} {e : BackendError}
    (h : feed.Sound items ending canceled n) (hm : feed.move now noticed = some feed')
    (hraised : feed'.pipe.failure = some e) :
    feed'.running = false ∧ ending = .fail e ∧ items feed.sent = none := by
  rw [Feed.move] at hm
  split at hm
  · cases hm
  have hopen := h.opened (by simpa using ‹¬ (!feed.running) = true›)
  split at hm
  · cases hm
    cases hopen.2.symm.trans hraised
  split at hm
  next item hitem =>
    split at hm
    · cases hm
    obtain ⟨-, hpush⟩ | ⟨-, hpush | hpush⟩ := feed.pipe.push_cases item
    all_goals rw [hpush] at hm; cases hm
    · cases hopen.2.symm.trans hraised
    · cases hopen.2.symm.trans hraised
  next hitem =>
    rw [h.items_eq] at hitem
    split at hm
    · cases hm
      cases hopen.2.symm.trans hraised
    next e' hending =>
      cases hm
      cases hraised
      exact ⟨rfl, h.ending_eq.symm.trans hending, hitem⟩
    · cases hm

/-- **What comes of opening a stream**: a breakdown, or what some upstream does; if it is a failure
right away, the upstream fails before its first item. -/
theorem Backend.reactStream_opens (b : Backend) (q : StreamQuery) (limit : UInt32)
    (place : Option ContinuationToken) (now : Nat) (canceled : Bool) :
    (∃ words, b.reactStream q limit place now = .panicked words) ∨
      ∃ u : Upstream, u.Opens canceled (b.reactStream q limit place now) ∧
        ∀ e, (b.reactStream q limit place now).raised? = some e → u.FailsBehind [] e := by
  have hrefused : ∀ (r : Reaction Feed) (e : BackendError), r = .answered (.error e) →
      ∃ u : Upstream, u.Opens canceled r ∧ ∀ e', r.raised? = some e' → u.FailsBehind [] e' := by
    rintro r e rfl
    refine ⟨.refusing e, rfl, fun e' he' => ⟨fits_nil, ?_⟩⟩
    cases he'
    exact ⟨rfl, rfl⟩
  have hopened : ∀ (r : Reaction Feed) (items : Nat → Option Item) (ending : FeedEnding)
      (capacity pace ready : Nat),
      r = .answered (.ok { items, ending, pace, ready, pipe := .ofCapacity capacity }) →
      ∃ u : Upstream, u.Opens canceled r ∧ ∀ e', r.raised? = some e' → u.FailsBehind [] e' := by
    rintro r items ending capacity pace ready rfl
    refine ⟨.streaming items ending, ⟨_, _, rfl, .fresh canceled capacity pace ready⟩,
      fun e' he' => ?_⟩
    cases he'
  rw [reactStream]
  cases (b.disturbance q.operation).panic with
  | some words => exact .inl ⟨words, rfl⟩
  | none =>
    cases (b.disturbance q.operation).error with
    | some e => exact .inr (hrefused _ e rfl)
    | none =>
      cases (b.disturbance q.operation).streamError with
      | some e =>
        refine .inr ⟨.streaming (fun _ => none) (.fail e),
          ⟨_, _, rfl, .failed_at_once canceled e⟩, fun e' he' => ⟨fits_nil, ?_⟩⟩
        cases he'
        exact ⟨rfl, rfl⟩
      | none =>
        simp only
        split
        next e hopen => exact .inr (hrefused _ e rfl)
        next feed hopen =>
          split
          · exact .inl ⟨_, rfl⟩
          · rw [openFeed] at hopen
            split at hopen
            next script hscript =>
              split at hopen
              · cases hopen
              · cases hopen
                exact .inr (hopened _ _ _ _ _ _ rfl)
            next hscript =>
              have hanswer := checkAvailable_bind_eq_ok hopen
              cases hitems : b.store.answer limit place q with
              | error e =>
                rw [hitems] at hanswer
                cases hanswer
              | ok items =>
                rw [hitems] at hanswer
                cases hanswer
                exact .inr (hopened _ _ _ _ _ _ rfl)

namespace Lookup

variable {l l' : Lookup} {canceled noticed : Bool} {came : Option (Reaction Feed)} {now : Nat}
  {b b' : Backend} {results : Pipe Item}

/-! ## Lookups whose backend is done -/

/-- The backend has nothing more to say: there is no stream to open any more, and if there is one
open, it has stopped. -/
def isSpent (l : Lookup) : Bool :=
  match l.producing with
  | .created | .opening _ => false
  | .pulling feed | .offering feed _ => !feed.running
  | .settled _ | .panicked => true

/-- How far a producer whose backend is done, and the consumer behind it, have still to go. An item
has the longer way the farther back it is. -/
def backlog (l : Lookup) : Nat :=
  3 * l.results.channel.queue.length +
    match l.producing with
    | .pulling feed => 5 * feed.pipe.channel.queue.length + 1
    | .offering feed _ => 5 * feed.pipe.channel.queue.length + 5
    | _ => 0

/-- The consumer takes an item: there is less left to do. -/
theorem backlog_item {item : Item} (hx : l.results.sight? = some (.item item, results)) :
    { l with results }.backlog + 3 = l.backlog := by
  obtain ⟨rest, hqueue, rfl⟩ := Pipe.queue_of_sight? hx
  simp only [backlog, hqueue, Pipe.holding, List.length_cons]
  omega

/-- The consumer leaves. -/
theorem backlog_abandon_le (l : Lookup) (results : Pipe Item) :
    ({ l with results }.abandon).backlog ≤ l.backlog := by
  simp only [backlog, abandon, Pipe.abandon, Channel.closeReceiver, List.length_nil]
  omega

theorem not_isWaiting_of_isSpent (h : l.isSpent = true) : ¬ l.IsWaiting := by
  rintro (hp | ⟨due, hp⟩)
  · simp [isSpent, hp] at h
  · simp [isSpent, hp] at h

/-- A stream that has stopped does not move again. -/
theorem onStream_of_isSpent {act : Feed → Option Feed} (h : l.isSpent = true)
    (hact : ∀ f : Feed, f.running = false → act f = none) : l.onStream act = none := by
  unfold isSpent at h
  unfold onStream
  split
  next feed hp =>
    simp only [hp, Bool.not_eq_true'] at h
    rw [hact feed h, Option.map_none]
  next feed item hp =>
    simp only [hp, Bool.not_eq_true'] at h
    rw [hact feed h, Option.map_none]
  next => rfl

theorem feedMove_of_isSpent (h : l.isSpent = true) : l.feedMove now noticed = none :=
  onStream_of_isSpent h fun f hf => by rw [Feed.move, hf]; rfl

theorem breakStream_of_isSpent (h : l.isSpent = true) : l.breakStream = none :=
  onStream_of_isSpent h fun f hf => by rw [Feed.breakDown, hf]; rfl

/-- **A move of the producer** once the backend is done: there is less left to do. -/
theorem advance_of_isSpent (h : l.isSpent = true) (hm : l.advance canceled came = some l') :
    l'.isSpent = true ∧ l'.backlog < l.backlog := by
  cases hp : l.producing with
  | created => exact absurd (.inl hp) (not_isWaiting_of_isSpent h)
  | opening due => exact absurd (.inr ⟨due, hp⟩) (not_isWaiting_of_isSpent h)
  | settled state =>
    rw [advance, hp] at hm
    cases hm
  | panicked =>
    rw [advance, hp] at hm
    cases hm
  | pulling feed =>
    simp only [isSpent, hp] at h
    have hsettle : ∀ state, (l.settle state).isSpent = true ∧
        (l.settle state).backlog < l.backlog := fun state =>
      ⟨rfl, by simp only [backlog, settle, Pipe.close, Channel.closeSender, hp]; omega⟩
    simp only [advance, hp] at hm
    split at hm
    · cases hm
      exact hsettle _
    split at hm
    · cases hm
      exact hsettle _
    obtain ⟨-, hn⟩ | ⟨-, ⟨a, rest, hqueue, hn⟩ | ⟨-, ⟨-, hn⟩ | ⟨-, ⟨e, -, hn⟩ | ⟨-, hn⟩⟩⟩⟩ :=
      feed.pipe.next_cases
    all_goals rw [hn] at hm; cases hm
    · exact hsettle _
    · refine ⟨h, ?_⟩
      simp only [backlog, hp, hqueue, Pipe.holding, List.length_cons]
      omega
    · refine ⟨rfl, ?_⟩
      simp only [backlog, fail, Pipe.fail, Pipe.close, Channel.closeSender, hp]
      omega
    · exact hsettle _
  | offering feed item =>
    simp only [isSpent, hp] at h
    have hsettle : (l.settle .canceled).isSpent = true ∧
        (l.settle .canceled).backlog < l.backlog :=
      ⟨rfl, by simp only [backlog, settle, Pipe.close, Channel.closeSender, hp]; omega⟩
    simp only [advance, hp] at hm
    split at hm
    · cases hm
      exact hsettle
    obtain ⟨-, hpush⟩ | ⟨-, hpush | hpush⟩ := l.results.push_cases item
    all_goals rw [hpush] at hm; cases hm
    · exact hsettle
    · refine ⟨h, ?_⟩
      simp only [backlog, hp, Pipe.holding, List.length_append, List.length_singleton]
      omega

/-- A move of the producer is one that does not open a stream. -/
theorem produce_of_isSpent (h : l.isSpent = true) (hm : l.produce now canceled b = some (l', b')) :
    l.advance canceled none = some l' := by
  have hover := not_isWaiting_of_isSpent h
  obtain ⟨-, ⟨hp, -⟩ | ⟨came, -, hadvance⟩⟩ := produce_cases hm
  · exact absurd (.inl hp) hover
  · exact (advance_of_not_isWaiting hover hadvance).2.2

/-! ## What a lookup owes -/

/-- **The backend has failed** behind given items, short of the cap, and the consumer has taken the
first of them. -/
structure Owes (hits : List Item) (e : BackendError) (taken : List Item) (l : Lookup) : Prop where
  spent : l.isSpent = true
  present : ¬ l.results.IsLeft
  allowed : l.limit.allows hits.length = true
  sound : ∃ u accepted, u.FailsBehind hits e ∧ l.Sound u false accepted (taken.map Sight.item)

namespace Owes

variable {hits taken : List Item} {e : BackendError}

/-- **The producer relays what is owed.** -/
theorem produce (h : l.Owes hits e taken) (hm : l.produce now false b = some (l', b')) :
    l'.Owes hits e taken := by
  have hadvance := produce_of_isSpent h.spent hm
  have hkept := advance_kept hadvance
  obtain ⟨u, accepted, hu, hsound⟩ := h.sound
  exact ⟨(advance_of_isSpent h.spent hadvance).1, mt hkept.left.1 h.present,
    hkept.limit ▸ h.allowed, u, _, hu, hsound.advance (fun _ hr => by cases hr) hadvance⟩

/-- The consumer takes an item. -/
theorem item {item : Item} (h : l.Owes hits e taken)
    (hx : l.results.sight? = some (.item item, results)) :
    { l with results }.Owes hits e (taken ++ [item]) := by
  obtain ⟨u, accepted, hu, hsound⟩ := h.sound
  obtain ⟨-, -, hleft, -⟩ := Pipe.sight?_same hx
  refine ⟨h.spent, mt hleft.1 h.present, h.allowed, u, accepted, hu, ?_⟩
  rw [List.map_append]
  exact hsound.look h.present hx

/-- **Behind the items there is the failure**, and nothing else. -/
theorem paid {x : Sight Item} (h : l.Owes hits e taken) (hx : l.results.sight? = some (x, results))
    (hend : ∀ item, x ≠ .item item) :
    taken = hits ∧ x = .failure (e.within l.query.activity) := by
  obtain ⟨u, accepted, hu, hsound⟩ := h.sound
  obtain ⟨hunfinished, haccepted⟩ := Follows.append_queue hsound.observed h.present
  obtain ⟨hf, -⟩ | ⟨-, ⟨a, rest, -, rfl, -⟩ | ⟨hqueue, hgone, -, hshown⟩⟩ := Pipe.sight?_eq_some hx
  · rw [hunfinished] at hf
    cases hf
  · exact absurd rfl (hend a)
  rw [hqueue, List.append_nil] at haccepted
  subst haccepted
  have hle : taken.length ≤ hits.length :=
    (hsound.fits.isPrefix hu.fits hu.fails.items_eq_none).length_le
  have hspent := h.spent
  have hknows := hsound.knows
  -- The results are closed, so the producer has stopped; of its reasons only the failure is left.
  cases hp : l.producing with
  | created => exact absurd (.inl hp) (not_isWaiting_of_isSpent hspent)
  | opening due => exact absurd (.inr ⟨due, hp⟩) (not_isWaiting_of_isSpent hspent)
  | pulling feed =>
    rw [hp] at hknows
    exact absurd hgone hknows.1.not_senderGone
  | offering feed item =>
    rw [hp] at hknows
    exact absurd hgone hknows.1.not_senderGone
  | panicked =>
    rw [hp] at hknows
    exact hknows.elim
  | settled state =>
    rw [hp] at hknows
    cases state with
    | created => exact hknows.elim
    | producing => exact hknows.elim
    | completed =>
      obtain ⟨-, hreached | hends⟩ := hknows
      · exact (Limit.not_reached_of_allows h.allowed hle hreached).elim
      · exact (hu.fails.not_endsAt hends).elim
    | canceled => exact absurd (hknows.2.resolve_left Bool.false_ne_true) h.present
    | failed =>
      obtain ⟨e', hclosed, hfails, -⟩ := hknows
      obtain ⟨htaken, rfl⟩ := hu.unique hsound.fits hfails
      refine ⟨htaken, ?_⟩
      obtain ⟨e'', he'', rfl⟩ | ⟨hnone, -⟩ := hshown
      · rw [hclosed.2, Option.some.injEq] at he''
        rw [he'']
      · cases hclosed.2.symm.trans hnone

/-- **There is always something to do**: what is owed is there for the consumer, or the producer
can move. -/
theorem moves (h : l.Owes hits e taken) (hnone : l.results.next = .pending) (now : Nat)
    (b : Backend) : ∃ l' b', l.produce now false b = some (l', b') := by
  obtain ⟨u, accepted, hu, hsound⟩ := h.sound
  have hspent := h.spent
  have hknows := hsound.knows
  -- The consumer waits: the results are empty, and open.
  have hwait : l.results.channel.queue = [] ∧ l.results.channel.senderGone = false := by
    obtain ⟨-, hn⟩ | ⟨-, ⟨a, rest, -, hn⟩ | ⟨hqueue, ⟨hopen, -⟩ | ⟨-, ⟨e, -, hn⟩ | ⟨-, hn⟩⟩⟩⟩ :=
      l.results.next_cases
    · cases hn.symm.trans hnone
    · cases hn.symm.trans hnone
    · exact ⟨hqueue, hopen⟩
    · cases hn.symm.trans hnone
    · cases hn.symm.trans hnone
  cases hm : l.produce now false b with
  | some r => exact ⟨r.1, r.2, rfl⟩
  | none =>
    obtain hexited | ⟨-, hawaits | ⟨item, hfull⟩⟩ := produce_eq_none hm
    · -- A producer that has exited has closed the results.
      unfold hasExited at hexited
      split at hexited
      next state hp =>
        rw [hp] at hknows
        have hclosed : l.results.channel.senderGone = true := by
          cases state with
          | created => exact hknows.elim
          | producing => exact hknows.elim
          | completed => exact hknows.1.1
          | canceled => exact hknows.1.1
          | failed => exact hknows.choose_spec.1.1
        rw [hwait.2] at hclosed
        cases hclosed
      next hp =>
        rw [hp] at hknows
        exact hknows.elim
      next => cases hexited
    · cases hawaits with
      | opening due hp => exact absurd (.inr ⟨due, hp⟩) (not_isWaiting_of_isSpent hspent)
      | item feed hp hnext =>
        -- A stream that has stopped shows its end.
        simp only [isSpent, hp, Bool.not_eq_true'] at hspent
        rw [hp] at hknows
        obtain ⟨-, items, ending, -, hfeed⟩ := hknows
        obtain ⟨x, pipe, hx⟩ := Pipe.sight?_isSome (hfeed.closed hspent)
        rw [Pipe.sight?, hnext] at hx
        cases hx
    · -- There is room in empty results.
      rw [Pipe.push, Channel.send, hwait.1, List.length_nil,
        if_pos l.results.channel.positive] at hfull
      split at hfull
      next hsend =>
        cases hfull
      next hsend =>
        split at hsend
        · cases hsend
        · cases hsend
      next => cases hfull

end Owes

/-! ## How a lookup comes to owe a failure -/

/-- A lookup that nobody has left or canceled relays what its backend does, unless the backend is
done with it. -/
def Heeds (taken : List Item) (l : Lookup) : Prop :=
  l.isSpent = true ∨ ¬ l.results.IsLeft ∧
    ∃ u accepted, l.Sound u false accepted (taken.map Sight.item)

namespace Heeds

variable {hits taken : List Item} {e : BackendError} {feed feed' : Feed}

theorem fresh (query : StreamQuery) (limit : Limit) (buffer : Nat) :
    (Lookup.fresh query limit buffer).Heeds [] :=
  .inr ⟨Bool.false_ne_true, .silent, [], .fresh .silent false query limit buffer⟩

/-- The consumer takes an item. -/
theorem item {item : Item} (h : l.Heeds taken)
    (hx : l.results.sight? = some (.item item, results)) :
    { l with results }.Heeds (taken ++ [item]) := by
  obtain hspent | ⟨hpresent, u, accepted, hsound⟩ := h
  · exact .inl hspent
  obtain ⟨-, -, hleft, -⟩ := Pipe.sight?_same hx
  refine .inr ⟨mt hleft.1 hpresent, u, accepted, ?_⟩
  rw [List.map_append]
  exact hsound.look hpresent hx

/-- **Behind the items the backend is done.** -/
theorem paid {x : Sight Item} (h : l.Heeds taken) (hx : l.results.sight? = some (x, results))
    (hend : ∀ item, x ≠ .item item) : l.isSpent = true := by
  obtain hspent | ⟨hpresent, u, accepted, hsound⟩ := h
  · exact hspent
  obtain ⟨hunfinished, -⟩ := Follows.append_queue hsound.observed hpresent
  obtain ⟨hf, -⟩ | ⟨-, ⟨a, rest, -, rfl, -⟩ | ⟨-, hgone, -⟩⟩ := Pipe.sight?_eq_some hx
  · rw [hunfinished] at hf
    cases hf
  · exact absurd rfl (hend a)
  have hknows := hsound.knows
  unfold isSpent
  split
  next hp =>
    rw [hp] at hknows
    exact absurd hgone hknows.2.not_senderGone
  next due hp =>
    rw [hp] at hknows
    exact absurd hgone hknows.2.not_senderGone
  next feed hp =>
    rw [hp] at hknows
    exact absurd hgone hknows.1.not_senderGone
  next feed item hp =>
    rw [hp] at hknows
    exact absurd hgone hknows.1.not_senderGone
  next => rfl
  next => rfl

/-- Before there is a stream, nothing has been taken, and the upstream may be any. -/
theorem of_isWaiting (h : l.Heeds taken) (hwaiting : l.IsWaiting) :
    taken = [] ∧ ¬ l.results.IsLeft ∧ l.results.IsOpen ∧ ∀ u, l.Sound u false [] [] := by
  obtain hspent | ⟨hpresent, u, accepted, hsound⟩ := h
  · exact absurd hwaiting (not_isWaiting_of_isSpent hspent)
  have hknows : accepted.length = 0 ∧ l.results.IsOpen := by
    have hknows := hsound.knows
    obtain hp | ⟨due, hp⟩ := hwaiting
    all_goals rw [hp] at hknows; exact hknows
  obtain ⟨-, haccepted⟩ := Follows.append_queue hsound.observed hpresent
  rw [List.length_eq_zero_iff.1 hknows.1] at haccepted hsound
  obtain ⟨rfl, -⟩ := List.append_eq_nil_iff.1 haccepted
  exact ⟨rfl, hpresent, hknows.2, fun u' => hsound.of_waiting hwaiting⟩

/-- **The stream is opened**, or not. -/
theorem opening (h : l.Heeds taken) (hwaiting : l.IsWaiting) (now : Nat) (b : Backend) :
    (l.opened (l.opening now b)).Heeds taken := by
  obtain ⟨rfl, hpresent, hopen, hsound⟩ := h.of_isWaiting hwaiting
  obtain ⟨words, hr⟩ | ⟨u, hopens, -⟩ :=
    b.reactStream_opens l.query l.limit.word l.query.place now false
  · rw [Lookup.opening, hr]
    exact .inl rfl
  · exact .inr ⟨mt (l.opened_kept _).left.1 hpresent, u, [], (hsound u).opened hopen rfl hopens⟩

/-- **A move of the producer.** -/
theorem produce (h : l.Heeds taken) (hm : l.produce now false b = some (l', b')) :
    l'.Heeds taken := by
  have hkept := produce_kept hm
  obtain ⟨-, ⟨hp, due, rfl⟩ | ⟨came, hcame, hadvance⟩⟩ := produce_cases hm
  · obtain ⟨rfl, hpresent, -, hsound⟩ := h.of_isWaiting (.inl hp)
    exact .inr ⟨hpresent, .silent, [], (hsound .silent).hold hp due⟩
  by_cases hw : l.IsWaiting
  · rw [advance_of_isWaiting hw, if_neg Bool.false_ne_true] at hadvance
    obtain rfl | rfl := hcame
    · cases hadvance
    · cases hadvance
      exact h.opening hw now b
  · obtain ⟨-, -, hnone⟩ := advance_of_not_isWaiting hw hadvance
    obtain hspent | ⟨hpresent, u, accepted, hsound⟩ := h
    · exact .inl (advance_of_isSpent hspent hnone).1
    · exact .inr ⟨mt hkept.left.1 hpresent, u, _, hsound.advance (fun _ hr => by cases hr) hnone⟩

/-- **A move of the stream.** -/
theorem feedMove (h : l.Heeds taken) (hm : l.feedMove now false = some l') : l'.Heeds taken := by
  obtain hspent | ⟨hpresent, u, accepted, hsound⟩ := h
  · rw [feedMove_of_isSpent hspent] at hm
    cases hm
  · exact .inr ⟨mt (onStream_kept hm).left.1 hpresent, u, accepted,
      hsound.feedMove (fun hn => by cases hn) hm⟩

/-- A fault brings the stream down, and nothing more comes from the backend. -/
theorem breakStream (hm : l.breakStream = some l') : l'.isSpent = true := by
  rw [Lookup.breakStream, onStream] at hm
  split at hm
  · obtain ⟨f, hf, rfl⟩ := Option.map_eq_some_iff.1 hm
    rw [Feed.breakDown] at hf
    split at hf
    · cases hf
      rfl
    · cases hf
  · obtain ⟨f, hf, rfl⟩ := Option.map_eq_some_iff.1 hm
    rw [Feed.breakDown] at hf
    split at hf
    · cases hf
      rfl
    · cases hf
  · cases hm

/-- **The backend fails as the stream is opened.** -/
theorem opening_raises (h : l.Heeds taken) (hwaiting : l.IsWaiting)
    (hraised : (l.opening now b).raised? = some e) :
    (l.opened (l.opening now b)).Owes [] e taken := by
  obtain ⟨rfl, hpresent, hopen, hsound⟩ := h.of_isWaiting hwaiting
  have hkept := l.opened_kept (l.opening now b)
  obtain ⟨words, hr⟩ | ⟨u, hopens, hfails⟩ :=
    b.reactStream_opens l.query l.limit.word l.query.place now false
  · rw [Lookup.opening, hr] at hraised
    cases hraised
  refine ⟨?_, mt hkept.left.1 hpresent, hkept.limit ▸ l.limit.allows_zero, u, [], hfails e hraised,
    (hsound u).opened hopen rfl hopens⟩
  -- What has failed at once does not run.
  cases hr : l.opening now b with
  | panicked words => rfl
  | answered outcome =>
    cases outcome with
    | error e' => rfl
    | ok feed =>
      rw [hr] at hraised
      rw [show b.reactStream l.query l.limit.word l.query.place now = _ from hr] at hopens
      obtain ⟨items, ending, -, hfeed⟩ := hopens
      show (!feed.running) = true
      cases hrunning : feed.running with
      | false => rfl
      | true => cases (hfeed.opened hrunning).2.symm.trans hraised

/-- **The backend fails behind some items**, short of the cap. -/
theorem stream_raises (h : l.Heeds taken) (hm : l.feedMove now false = some l')
    (hfeed : l.stream? = some feed) (hfeed' : l'.stream? = some feed')
    (hraised : feed'.pipe.failure = some e) (hfits : Fits feed.items 0 hits)
    (hsent : hits.length = feed.sent) (hallows : l.limit.allows hits.length = true) :
    l'.Owes hits e taken := by
  obtain hspent | ⟨hpresent, u, accepted, hsound⟩ := h
  · rw [feedMove_of_isSpent hspent] at hm
    cases hm
  have hkept := onStream_kept hm
  have hsound' := hsound.feedMove (fun hn => by cases hn) hm
  -- The producer has the stream open, whether it has an item to offer or not.
  obtain ⟨items, ending, n, rfl, hf, hmove, hproducing⟩ : ∃ items ending n,
      u = .streaming items ending ∧ feed.Sound items ending false n ∧
        feed.move now false = some feed' ∧ (feed'.running = false → l'.isSpent = true) := by
    have hknows := hsound.knows
    rw [Lookup.feedMove, onStream] at hm
    rw [stream?] at hfeed hfeed'
    split at hm
    next f hp =>
      rw [hp] at hknows hfeed
      obtain ⟨f', hf', rfl⟩ := Option.map_eq_some_iff.1 hm
      obtain ⟨-, items, ending, hu, hf⟩ := hknows
      cases hfeed
      cases hfeed'
      exact ⟨items, ending, _, hu, hf, hf', fun hstopped => by simp [isSpent, hstopped]⟩
    next f item hp =>
      rw [hp] at hknows hfeed
      obtain ⟨f', hf', rfl⟩ := Option.map_eq_some_iff.1 hm
      obtain ⟨-, -, items, ending, hu, -, hf⟩ := hknows
      cases hfeed
      cases hfeed'
      exact ⟨items, ending, _, hu, hf, hf', fun hstopped => by simp [isSpent, hstopped]⟩
    next => cases hm
  obtain ⟨hstopped, rfl, hnone⟩ := hf.raises hmove hraised
  have hbehind : Upstream.FailsBehind (.streaming items (.fail e)) hits e :=
    ⟨hf.items_eq ▸ hfits, rfl, hsent ▸ hnone⟩
  exact ⟨hproducing hstopped, mt hkept.left.1 hpresent, hkept.limit ▸ hallows, _, accepted, hbehind,
    hsound'⟩

end Heeds

/-! ## Moves of a lookup -/

/-- A move of the producer or of its stream. -/
inductive MovesTo (l : Lookup) (now : Nat) (canceled : Bool) (b : Backend) : Lookup → Prop where
  | produce {l' : Lookup} {b' : Backend} (hm : l.produce now canceled b = some (l', b')) :
      MovesTo l now canceled b l'
  | stream {l' : Lookup} (noticed : Bool) (hnoticed : noticed = true → canceled = true)
      (hm : l.feedMove now noticed = some l') : MovesTo l now canceled b l'
  | breakdown {l' : Lookup} (hm : l.breakStream = some l') : MovesTo l now canceled b l'

theorem MovesTo.kept (hm : l.MovesTo now canceled b l') : l.Kept l' := by
  cases hm with
  | produce hm => exact produce_kept hm
  | stream noticed hnoticed hm => exact onStream_kept hm
  | breakdown hm => exact onStream_kept hm

/-- **Once the backend is done**, there is less left to do after each move. -/
theorem MovesTo.of_isSpent (h : l.isSpent = true) (hm : l.MovesTo now canceled b l') :
    l'.isSpent = true ∧ l'.backlog < l.backlog := by
  cases hm with
  | produce hm => exact advance_of_isSpent h (produce_of_isSpent h hm)
  | stream noticed hnoticed hm =>
    rw [feedMove_of_isSpent h] at hm
    cases hm
  | breakdown hm =>
    rw [breakStream_of_isSpent h] at hm
    cases hm

theorem Heeds.movesTo {taken : List Item} (h : l.Heeds taken) (hm : l.MovesTo now false b l') :
    l'.Heeds taken := by
  cases hm with
  | produce hm => exact h.produce hm
  | stream noticed hnoticed hm =>
    obtain rfl : noticed = false := by simpa using mt hnoticed Bool.false_ne_true
    exact h.feedMove hm
  | breakdown hm => exact .inl (Heeds.breakStream hm)

theorem Owes.movesTo {hits taken : List Item} {e : BackendError} (h : l.Owes hits e taken)
    (hm : l.MovesTo now false b l') : l'.Owes hits e taken := by
  cases hm with
  | produce hm => exact h.produce hm
  | stream noticed hnoticed hm =>
    rw [feedMove_of_isSpent h.spent] at hm
    cases hm
  | breakdown hm =>
    rw [breakStream_of_isSpent h.spent] at hm
    cases hm

end Lookup

end RelationGate
