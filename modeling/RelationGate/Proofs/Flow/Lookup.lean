import RelationGate.Proofs.Flow.Feed
import RelationGate.Lookup

/-!
# What a lookup has relayed

The producer of a lookup stands between what the backend does, an `Upstream`, and the consumer of
the results. `Lookup.Sound` says of every stage of the producer what it knows of the upstream: the
items that the results have taken are its first items, and the producer has stopped only for the
reason that its state gives. Each party of the relay keeps it: the producer (`Sound.advance`), the
stream (`Sound.feedMove`), the caller (`Sound.mono`) and the consumer (`Sound.look`,
`Sound.abandon`).
-/

namespace RelationGate

/-- What the backend does when the stream is opened. -/
inductive Upstream where
  /-- The opening never comes back. -/
  | silent
  /-- The opening fails. -/
  | refusing (e : BackendError)
  /-- The stream yields items, finitely many or not, and ends in its way. -/
  | streaming (items : Nat → Option Item) (ending : FeedEnding)

namespace Upstream

/-- The items by position. -/
def items : Upstream → Nat → Option Item
  | streaming items _, n => items n
  | _, _ => none

/-- The stream ends after so many items. -/
def EndsAt (u : Upstream) (n : Nat) : Prop :=
  match u with
  | streaming items .close => items n = none
  | _ => False

/-- The opening or the stream fails after so many items. -/
def FailsAt (u : Upstream) (e : BackendError) (n : Nat) : Prop :=
  match u with
  | refusing e' => e' = e ∧ n = 0
  | streaming items (.fail e') => e' = e ∧ items n = none
  | _ => False

/-- What comes of opening the stream is what the upstream does. -/
def Opens (u : Upstream) (canceled : Bool) : Reaction Feed → Prop
  | .panicked _ => False
  | .answered (.error e) => u = refusing e
  | .answered (.ok feed) => ∃ items ending, u = streaming items ending ∧
      feed.Sound items ending canceled 0

end Upstream

namespace Limit

theorem allows_zero (limit : Limit) : limit.allows 0 = true := by
  cases limit with
  | unbounded => rfl
  | capped n hn =>
    rw [allows, decide_eq_true_eq, Nat.pos_iff_ne_zero]
    exact fun h => hn (UInt32.toNat_inj.1 h)

/-- No more than the cap. -/
def Admits (limit : Limit) (n : Nat) : Prop :=
  match limit with
  | unbounded => True
  | capped most _ => n ≤ most.toNat

/-- The cap is reached. -/
def Reached (limit : Limit) (n : Nat) : Prop :=
  match limit with
  | unbounded => False
  | capped most _ => n = most.toNat

variable {limit : Limit} {n : Nat}

theorem admits_zero (limit : Limit) : limit.Admits 0 := by
  cases limit with
  | unbounded => trivial
  | capped most _ => exact Nat.zero_le _

theorem not_reached_zero (limit : Limit) : ¬ limit.Reached 0 := by
  cases limit with
  | unbounded => exact id
  | capped most hmost => exact fun h => hmost (UInt32.toNat_inj.1 h.symm)

theorem admits_succ (h : limit.allows n = true) : limit.Admits (n + 1) := by
  cases limit with
  | unbounded => trivial
  | capped most _ => exact Nat.succ_le_of_lt (of_decide_eq_true h)

theorem reached_of_not_allows (hn : limit.Admits n) (h : limit.allows n = false) :
    limit.Reached n := by
  cases limit with
  | unbounded => cases h
  | capped most _ => exact Nat.le_antisymm hn (Nat.not_lt.1 (of_decide_eq_false h))

end Limit

namespace Lookup

variable {u : Upstream} {canceled noticed : Bool} {accepted : List Item} {seen : List (Sight Item)}
  {x : Sight Item} {l l' : Lookup} {came : Option (Reaction Feed)} {results : Pipe Item}

/-- What the producer at a stage knows of the upstream, the results having taken so many items. -/
def Knows (u : Upstream) (canceled : Bool) (accepted : Nat) (l : Lookup) : Producing → Prop
  | .created | .opening _ => accepted = 0 ∧ l.results.IsOpen
  | .pulling feed => l.results.IsOpen ∧ ∃ items ending, u = .streaming items ending ∧
      feed.Sound items ending canceled accepted
  | .offering feed item => l.results.IsOpen ∧ l.limit.allows accepted = true ∧
      ∃ items ending, u = .streaming items ending ∧ items accepted = some item ∧
        feed.Sound items ending canceled (accepted + 1)
  | .settled .completed => l.results.IsClosed none ∧ (l.limit.Reached accepted ∨ u.EndsAt accepted)
  | .settled .failed => ∃ e, l.results.IsClosed (some (e.within l.query.activity)) ∧
      u.FailsAt e accepted ∧ l.limit.allows accepted = true
  | .settled .canceled => l.results.IsClosed none ∧ (canceled = true ∨ l.results.IsLeft)
  | .settled _ | .panicked => False

/-- A lookup over an upstream whose results have taken given items, of which, and of whose end, the
consumer has seen something. -/
structure Sound (u : Upstream) (canceled : Bool) (accepted : List Item) (seen : List (Sight Item))
    (l : Lookup) : Prop where
  fits : Fits u.items 0 accepted
  count : l.delivered = accepted.length
  admitted : l.limit.Admits accepted.length
  observed : l.results.Observed accepted seen
  knows : l.Knows u canceled accepted.length l.producing

/-- The items that a move has put into the results. -/
def added (l l' : Lookup) : List Item :=
  l'.results.channel.queue.drop l.results.channel.queue.length

/-- The opening of the stream is held up. -/
def hold (l : Lookup) (due : Nat) : Lookup := { l with producing := .opening due }

/-- **A move over a backend** is a move over what comes of opening the stream, or the opening is
held up; of the backend it takes at most a note. -/
theorem produce_cases {now : Nat} {b b' : Backend} (hm : l.produce now canceled b = some (l', b')) :
    (b' = b ∨ ∃ issued, b' = b.note issued) ∧
      ((l.producing = .created ∧ ∃ due, l' = l.hold due) ∨
        ∃ came, (came = none ∨ came = some (l.opening now b)) ∧
          l.advance canceled came = some l') := by
  rw [produce] at hm
  split at hm
  next hp =>
    split at hm
    next hcanceled =>
      cases hm
      refine ⟨.inl rfl, .inr ⟨none, .inl rfl, ?_⟩⟩
      simp only [advance, hp, hcanceled, if_true]
    next hcanceled =>
      simp only at hm
      split at hm
      · cases hm
        refine ⟨.inr ⟨_, rfl⟩, .inr ⟨some (l.opening now b), .inr rfl, ?_⟩⟩
        simp only [advance, hp, hcanceled, Option.map_some]
        rfl
      · cases hm
        exact ⟨.inr ⟨_, rfl⟩, .inl ⟨hp, _, rfl⟩⟩
  next due hp =>
    obtain ⟨l'', hadvance, heq⟩ := Option.map_eq_some_iff.1 hm
    cases heq
    refine ⟨.inl rfl, .inr ⟨_, ?_, hadvance⟩⟩
    split
    · exact .inr rfl
    · exact .inl rfl
  next =>
    obtain ⟨l'', hadvance, heq⟩ := Option.map_eq_some_iff.1 hm
    cases heq
    exact ⟨.inl rfl, .inr ⟨none, .inl rfl, hadvance⟩⟩

/-! ## What no move changes -/

/-- No move of the producer or the stream changes these. -/
structure Kept (l l' : Lookup) : Prop where
  query : l'.query = l.query
  limit : l'.limit = l.limit
  left : l'.results.IsLeft ↔ l.results.IsLeft

theorem opened_kept (l : Lookup) (r : Reaction Feed) : l.Kept (l.opened r) := by
  match r with
  | .panicked _ | .answered (.error _) | .answered (.ok _) => exact ⟨rfl, rfl, Iff.rfl⟩

theorem advance_kept (hm : l.advance canceled came = some l') : l.Kept l' := by
  have hmap : ∀ c : Option (Reaction Feed), c.map l.opened = some l' → l.Kept l' := fun c hc => by
    obtain ⟨r, -, rfl⟩ := Option.map_eq_some_iff.1 hc
    exact l.opened_kept r
  rw [advance] at hm
  split at hm
  · cases hm
  · cases hm
  · split at hm
    · cases hm
      exact ⟨rfl, rfl, Iff.rfl⟩
    · exact hmap came hm
  · split at hm
    · cases hm
      exact ⟨rfl, rfl, Iff.rfl⟩
    · exact hmap came hm
  · repeat' split at hm
    all_goals cases hm <;> exact ⟨rfl, rfl, Iff.rfl⟩
  next item _ =>
    split at hm
    · cases hm
      exact ⟨rfl, rfl, Iff.rfl⟩
    obtain ⟨-, hpush⟩ | ⟨-, hpush | hpush⟩ := l.results.push_cases item
    all_goals rw [hpush] at hm; cases hm
    · exact ⟨rfl, rfl, Iff.rfl⟩
    · exact ⟨rfl, rfl, Iff.rfl⟩

theorem onStream_kept {act : Feed → Option Feed} (hm : l.onStream act = some l') : l.Kept l' := by
  rw [onStream] at hm
  split at hm
  · obtain ⟨f, -, rfl⟩ := Option.map_eq_some_iff.1 hm
    exact ⟨rfl, rfl, Iff.rfl⟩
  · obtain ⟨f, -, rfl⟩ := Option.map_eq_some_iff.1 hm
    exact ⟨rfl, rfl, Iff.rfl⟩
  · cases hm

theorem produce_kept {now : Nat} {b b' : Backend} (hm : l.produce now canceled b = some (l', b')) :
    l.Kept l' := by
  obtain ⟨-, ⟨-, due, rfl⟩ | ⟨came, -, hadvance⟩⟩ := produce_cases hm
  · exact ⟨rfl, rfl, Iff.rfl⟩
  · exact advance_kept hadvance

namespace Sound

theorem fresh (u : Upstream) (canceled : Bool) (query : StreamQuery) (limit : Limit)
    (buffer : Nat) :
    (Lookup.fresh query limit buffer).Sound u canceled [] [] where
  fits := fits_nil
  count := rfl
  admitted := limit.admits_zero
  observed := Pipe.Observed.ofCapacity buffer
  knows := ⟨rfl, rfl, rfl⟩

/-- As long as there is no stream, nothing is known of the upstream. -/
theorem of_waiting {u' : Upstream} (h : l.Sound u canceled accepted seen)
    (hp : l.producing = .created ∨ ∃ due, l.producing = .opening due) :
    l.Sound u' canceled accepted seen := by
  have hknows := h.knows
  have hnil : accepted = [] := by
    obtain hp | ⟨due, hp⟩ := hp
    · rw [hp] at hknows
      exact List.length_eq_zero_iff.1 hknows.1
    · rw [hp] at hknows
      exact List.length_eq_zero_iff.1 hknows.1
  refine { h with fits := hnil ▸ fits_nil, knows := ?_ }
  obtain hp | ⟨due, hp⟩ := hp
  · rw [hp] at hknows ⊢
    exact hknows
  · rw [hp] at hknows ⊢
    exact hknows

/-- The caller cancels. -/
theorem mono {canceled' : Bool} (h : l.Sound u canceled accepted seen)
    (hc : canceled = true → canceled' = true) : l.Sound u canceled' accepted seen := by
  refine { h with knows := ?_ }
  have hknows := h.knows
  cases hp : l.producing with
  | pulling feed =>
    rw [hp] at hknows
    obtain ⟨hopen, items, ending, hu, hf⟩ := hknows
    exact ⟨hopen, items, ending, hu, hf.mono hc⟩
  | offering feed item =>
    rw [hp] at hknows
    obtain ⟨hopen, hallows, items, ending, hu, hi, hf⟩ := hknows
    exact ⟨hopen, hallows, items, ending, hu, hi, hf.mono hc⟩
  | settled state =>
    rw [hp] at hknows
    cases state with
    | canceled => exact ⟨hknows.1, hknows.2.imp_left hc⟩
    | _ => exact hknows
  | _ =>
    rw [hp] at hknows
    exact hknows

/-! ## The producer -/

/-- The producer stops without a failure, for a reason. -/
theorem settle (h : l.Sound u canceled accepted seen) (hopen : l.results.IsOpen)
    (state : LookupState)
    (hwhy : (l.settle state).Knows u canceled accepted.length (.settled state)) :
    (l.settle state).Sound u canceled accepted seen where
  fits := h.fits
  count := h.count
  admitted := h.admitted
  observed := h.observed.leave hopen rfl rfl Iff.rfl
  knows := hwhy

/-- The producer stops because of a cancellation. -/
theorem settle_canceled (h : l.Sound u canceled accepted seen) (hopen : l.results.IsOpen)
    (hwhy : canceled = true ∨ l.results.IsLeft) :
    (l.settle .canceled).Sound u canceled accepted seen :=
  h.settle hopen .canceled ⟨⟨rfl, hopen.2⟩, hwhy⟩

/-- The producer reports a failure and stops. -/
theorem fail {e : BackendError} (h : l.Sound u canceled accepted seen) (hopen : l.results.IsOpen)
    (hfails : u.FailsAt e accepted.length) (hallows : l.limit.allows accepted.length = true) :
    (l.fail e).Sound u canceled accepted seen where
  fits := h.fits
  count := h.count
  admitted := h.admitted
  observed := h.observed.leave hopen rfl rfl Iff.rfl
  knows := ⟨e, ⟨rfl, rfl⟩, hfails, hallows⟩

/-- The stream has been opened, or could not be. -/
theorem opened {r : Reaction Feed} (h : l.Sound u canceled accepted seen) (hopen : l.results.IsOpen)
    (hnil : accepted.length = 0) (hr : u.Opens canceled r) :
    (l.opened r).Sound u canceled accepted seen := by
  match r with
  | .panicked _ => exact hr.elim
  | .answered (.error e) =>
    refine h.fail hopen ?_ (hnil ▸ l.limit.allows_zero)
    rw [show u = .refusing e from hr]
    exact ⟨rfl, hnil⟩
  | .answered (.ok feed) =>
    obtain ⟨items, ending, hu, hf⟩ := hr
    exact { h with knows := ⟨hopen, items, ending, hu, hnil ▸ hf⟩ }

theorem added_eq_nil (h : l'.results.channel.queue = l.results.channel.queue) :
    l.added l' = [] := by
  rw [added, h, List.drop_length]

theorem added_settle (l : Lookup) (state : LookupState) : l.added (l.settle state) = [] :=
  added_eq_nil rfl

/-- The producer has an item: the results take it, or it waits, or the consumer has left. -/
theorem offer {feed : Feed} {item : Item} (h : l.Sound u canceled accepted seen)
    (hp : l.producing = .offering feed item) (hm : l.advance canceled came = some l') :
    l'.Sound u canceled (accepted ++ l.added l') seen := by
  have hknows := h.knows
  rw [hp] at hknows
  obtain ⟨hopen, hallows, items, ending, hu, hitem, hfeed⟩ := hknows
  simp only [Lookup.advance, hp] at hm
  split at hm
  · cases hm
    rw [added_settle, List.append_nil]
    exact h.settle_canceled hopen (.inl ‹_›)
  obtain ⟨hleft, hpush⟩ | ⟨hleft, hpush | hpush⟩ := l.results.push_cases item
  · rw [hpush] at hm
    cases hm
    rw [added_settle, List.append_nil]
    exact h.settle_canceled hopen (.inr hleft)
  · rw [hpush] at hm
    cases hm
    simp only [added, Pipe.holding, List.drop_left]
    have hlength : (accepted ++ [item]).length = accepted.length + 1 := by simp
    refine ⟨fits_append.2 ⟨h.fits, fits_singleton.2 ?_⟩, ?_, ?_, h.observed.push hopen hleft item,
      ⟨hopen, items, ending, hu, ?_⟩⟩
    · rw [Nat.zero_add, hu]
      exact hitem
    · rw [hlength, h.count]
    · rw [hlength]
      exact Limit.admits_succ hallows
    · rw [hlength]
      exact hfeed
  · rw [hpush] at hm
    cases hm

/-- The producer looks at its stream: it takes an item, or stops. -/
theorem pull {feed : Feed} (h : l.Sound u canceled accepted seen) (hp : l.producing = .pulling feed)
    (hm : l.advance canceled came = some l') :
    l'.results.channel.queue = l.results.channel.queue ∧ l'.Sound u canceled accepted seen := by
  have hknows := h.knows
  rw [hp] at hknows
  obtain ⟨hopen, items, ending, hu, hfeed⟩ := hknows
  simp only [Lookup.advance, hp] at hm
  split at hm
  next hallows =>
    cases hm
    rw [h.count, Bool.not_eq_true'] at hallows
    exact ⟨rfl, h.settle hopen .completed
      ⟨⟨rfl, hopen.2⟩, .inl (Limit.reached_of_not_allows h.admitted hallows)⟩⟩
  next hallows =>
  rw [h.count, Bool.not_eq_true', Bool.not_eq_false] at hallows
  split at hm
  · cases hm
    exact ⟨rfl, h.settle_canceled hopen (.inl ‹_›)⟩
  have hcanceled : canceled = false := by simpa using ‹¬ canceled = true›
  split at hm
  next item pipe hnext =>
    cases hm
    obtain ⟨hitem, htaken⟩ := hfeed.next_eq_item hnext
    exact ⟨rfl, { h with knows := ⟨hopen, hallows, items, ending, hu, hitem, htaken⟩ }⟩
  next e pipe hnext =>
    cases hm
    obtain ⟨hending, hnone⟩ := hfeed.next_eq_failure hnext
    refine ⟨rfl, h.fail hopen ?_ hallows⟩
    rw [hu, hending]
    exact ⟨rfl, hnone⟩
  next pipe hnext =>
    cases hm
    obtain ⟨hending, hnone⟩ := (hcanceled ▸ hfeed).next_eq_ended hnext
    refine ⟨rfl, h.settle hopen .completed ⟨⟨rfl, hopen.2⟩, .inr ?_⟩⟩
    rw [hu, hending]
    exact hnone
  next => cases hm

/-- The producer waits for its stream: it is opened, or cannot be, or the caller cancels. -/
theorem wait (h : l.Sound u canceled accepted seen)
    (hp : l.producing = .created ∨ ∃ due, l.producing = .opening due)
    (hcame : ∀ r, came = some r → u.Opens canceled r) (hm : l.advance canceled came = some l') :
    l'.results.channel.queue = l.results.channel.queue ∧ l'.Sound u canceled accepted seen := by
  have hknows : accepted.length = 0 ∧ l.results.IsOpen := by
    have hknows := h.knows
    obtain hp | ⟨due, hp⟩ := hp
    all_goals rw [hp] at hknows; exact hknows
  have hadvance : l.advance canceled came =
      if canceled then some (l.settle .canceled) else came.map l.opened := by
    obtain hp | ⟨due, hp⟩ := hp
    all_goals simp only [Lookup.advance, hp]
  rw [hadvance] at hm
  split at hm
  · cases hm
    exact ⟨rfl, h.settle_canceled hknows.2 (.inl ‹_›)⟩
  · obtain ⟨r, hr, rfl⟩ := Option.map_eq_some_iff.1 hm
    refine ⟨?_, h.opened hknows.2 hknows.1 (hcame r hr)⟩
    match r with
    | .panicked _ | .answered (.error _) | .answered (.ok _) => rfl

/-- The opening of the stream is held up. -/
theorem hold (h : l.Sound u canceled accepted seen) (hp : l.producing = .created) (due : Nat) :
    (l.hold due).Sound u canceled accepted seen := by
  have hknows := h.knows
  rw [hp] at hknows
  exact { h with knows := hknows }

/-- **A move of the producer keeps the lookup sound**, with the item that it put into the results,
if it put one there. -/
theorem advance (h : l.Sound u canceled accepted seen)
    (hcame : ∀ r, came = some r → u.Opens canceled r)
    (hm : l.advance canceled came = some l') :
    l'.Sound u canceled (accepted ++ l.added l') seen := by
  cases hp : l.producing with
  | created =>
    obtain ⟨hqueue, hl'⟩ := h.wait (.inl hp) hcame hm
    rwa [added_eq_nil hqueue, List.append_nil]
  | opening due =>
    obtain ⟨hqueue, hl'⟩ := h.wait (.inr ⟨due, hp⟩) hcame hm
    rwa [added_eq_nil hqueue, List.append_nil]
  | pulling feed =>
    obtain ⟨hqueue, hl'⟩ := h.pull hp hm
    rwa [added_eq_nil hqueue, List.append_nil]
  | offering feed item => exact h.offer hp hm
  | settled state =>
    rw [Lookup.advance, hp] at hm
    cases hm
  | panicked =>
    rw [Lookup.advance, hp] at hm
    cases hm

/-! ## The other parties -/

/-- **A move of the stream keeps the lookup sound.** -/
theorem feedMove {now : Nat} (h : l.Sound u canceled accepted seen)
    (hnoticed : noticed = true → canceled = true) (hm : l.feedMove now noticed = some l') :
    l'.Sound u canceled accepted seen := by
  have hknows := h.knows
  rw [Lookup.feedMove, onStream] at hm
  split at hm
  next feed hp =>
    rw [hp] at hknows
    obtain ⟨hopen, items, ending, hu, hfeed⟩ := hknows
    obtain ⟨f, hf, rfl⟩ := Option.map_eq_some_iff.1 hm
    exact { h with knows := ⟨hopen, items, ending, hu, hfeed.move hnoticed hf⟩ }
  next feed item hp =>
    rw [hp] at hknows
    obtain ⟨hopen, hallows, items, ending, hu, hitem, hfeed⟩ := hknows
    obtain ⟨f, hf, rfl⟩ := Option.map_eq_some_iff.1 hm
    exact { h with knows := ⟨hopen, hallows, items, ending, hu, hitem, hfeed.move hnoticed hf⟩ }
  next => cases hm

/-- What the producer knows does not depend on what the consumer does, unless it leaves. -/
theorem knows_of_results {n : Nat} {producing : Producing} (h : l.Knows u canceled n producing)
    (hgone : results.channel.senderGone = l.results.channel.senderGone)
    (hfailure : results.failure = l.results.failure) (hleft : l.results.IsLeft → results.IsLeft) :
    { l with results }.Knows u canceled n producing := by
  have hopen : l.results.IsOpen → results.IsOpen :=
    fun ho => ⟨hgone.trans ho.1, hfailure.trans ho.2⟩
  have hclosed : ∀ f, l.results.IsClosed f → results.IsClosed f :=
    fun f hc => ⟨hgone.trans hc.1, hfailure.trans hc.2⟩
  cases producing with
  | created => exact h.imp_right hopen
  | opening due => exact h.imp_right hopen
  | pulling feed => exact h.imp_left hopen
  | offering feed item => exact h.imp_left hopen
  | panicked => exact h
  | settled state =>
    cases state with
    | created => exact h
    | producing => exact h
    | completed => exact h.imp_left (hclosed _)
    | failed =>
      obtain ⟨e, hc, hrest⟩ := h
      exact ⟨e, hclosed _ hc, hrest⟩
    | canceled => exact ⟨hclosed _ h.1, h.2.imp_right hleft⟩

/-- The consumer looks at the results. -/
theorem look (h : l.Sound u canceled accepted seen) (hleft : ¬ l.results.IsLeft)
    (hx : l.results.sight? = some (x, results)) :
    { l with results }.Sound u canceled accepted (seen ++ [x]) where
  fits := h.fits
  count := h.count
  admitted := h.admitted
  observed := h.observed.look hleft hx
  knows := by
    obtain ⟨-, -, rfl⟩ | ⟨-, ⟨a, rest, -, -, rfl⟩ | ⟨-, -, rfl, -⟩⟩ := Pipe.sight?_eq_some hx
    all_goals exact knows_of_results h.knows rfl rfl id

/-- The consumer leaves. -/
theorem abandon (h : l.Sound u canceled accepted seen) :
    l.abandon.Sound u canceled accepted seen where
  fits := h.fits
  count := h.count
  admitted := h.admitted
  observed := h.observed.abandon
  knows := knows_of_results h.knows rfl rfl fun _ => rfl

end Sound

end Lookup

end RelationGate
