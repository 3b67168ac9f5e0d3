import RelationGate.Proofs.Flow.Relay

/-!
# How far a lookup runs ahead

The producer of a lookup takes an item from its stream whenever the stream shows one, whether or
not anybody is reading. Each item that it has taken has been got by the consumer, is held by the
results, or is in its hands, and so it never gets further ahead than the results can hold, and one
more.

* A run is charged one for every step in which the producer takes an item (`Lookup.taken`,
  `Relay.Runs`).
* `Lookup.Tallies`: the producer has taken what it has delivered, and one more while it has an item
  in its hands, or if it has dropped one when it stopped.
* `Channel.load`: what a channel holds, and once its receiver has left, as much as it may have held.
  With it the accounts also balance when a consumer leaves in the middle.
* `Relay.Runs.taken_le`: the bound, over every upstream and in every interleaving.
-/

namespace RelationGate

/-! ## What a channel may hold back -/

namespace Channel

variable {α : Type} {c c' : Channel α} {a : α}

/-- What a channel may hold back from its receiver: what it holds, and once the receiver has left,
as much as it may have held. -/
def load (c : Channel α) : Nat := if c.receiverGone then c.capacity else c.queue.length

theorem Fits.load_le (h : c.Fits) : c.load ≤ c.capacity := by
  unfold load
  split
  · exact Nat.le_refl _
  · exact h

theorem load_send (h : c.send a = .taken c') : c'.load = c.load + 1 := by
  obtain ⟨hpresent, -, rfl⟩ := send_eq_taken h
  simp [load, hpresent]

/-- What is taken off a channel is all that it then holds back less. -/
theorem load_le_of_cons {rest : List α} (h : c.queue = a :: rest) :
    c.load ≤ { c with queue := rest }.load + 1 := by
  simp only [load, h, List.length_cons]
  split
  · omega
  · omega

theorem load_receive (hpresent : c.receiverGone = false) (h : c.receive = .got a c') :
    c.load = c'.load + 1 := by
  obtain ⟨rest, hqueue, rfl⟩ := receive_eq_got h
  simp [load, hpresent, hqueue]

end Channel

theorem Pipe.send_of_push {α : Type} {p q : Pipe α} {a : α} (h : p.push a = .taken q) :
    p.channel.send a = .taken q.channel := by
  unfold push at h
  split at h
  next channel hsend =>
    cases h
    exact hsend
  · cases h
  · cases h

/-! ## What the producer can do -/

namespace Lookup

variable {l l' : Lookup} {canceled : Bool} {came : Option (Reaction Feed)} {n : Nat}

/-- What a move of the producer comes to. -/
inductive Advances (canceled : Bool) (l : Lookup) : Lookup → Prop where
  /-- It stops, and closes its end of the results. -/
  | stops {l' : Lookup} (hlive : ∀ state, l.producing ≠ .settled state)
      (hstopped : (∃ state, l'.producing = .settled state) ∨ l'.producing = .panicked)
      (hdelivered : l'.delivered = l.delivered)
      (hresults : l'.results.channel = l.results.channel.closeSender) : Advances canceled l l'
  /-- The stream is there. -/
  | opens (feed : Feed) (hwaits : l.producing = .created ∨ ∃ due, l.producing = .opening due) :
      Advances canceled l { l with producing := .pulling feed }
  /-- It takes an item from the stream. -/
  | takes (feed : Feed) (item : Item) (pipe : Pipe Item) (hp : l.producing = .pulling feed)
      (hallows : l.limit.allows l.delivered = true) (hwanted : canceled = false)
      (hshown : feed.pipe.next = .item item pipe) :
      Advances canceled l { l with producing := .offering { feed with pipe } item }
  /-- The results take the item in its hands. -/
  | delivers (feed : Feed) (item : Item) (results : Pipe Item)
      (hp : l.producing = .offering feed item) (htaken : l.results.push item = .taken results) :
      Advances canceled l
        { l with results, producing := .pulling feed, delivered := l.delivered + 1 }

theorem settle_advances (hlive : ∀ state, l.producing ≠ .settled state) (state : LookupState) :
    l.Advances canceled (l.settle state) :=
  .stops hlive (.inl ⟨state, rfl⟩) rfl rfl

theorem fail_advances (hlive : ∀ state, l.producing ≠ .settled state) (e : BackendError) :
    l.Advances canceled (l.fail e) :=
  .stops hlive (.inl ⟨.failed, rfl⟩) rfl rfl

theorem opened_advances (hwaits : l.producing = .created ∨ ∃ due, l.producing = .opening due)
    (r : Reaction Feed) : l.Advances canceled (l.opened r) := by
  have hlive : ∀ state, l.producing ≠ .settled state := by
    rcases hwaits with hp | ⟨due, hp⟩
    all_goals simp [hp]
  match r with
  | .panicked _ => exact .stops hlive (.inr rfl) rfl rfl
  | .answered (.error e) => exact fail_advances hlive e
  | .answered (.ok feed) => exact .opens feed hwaits

/-- **A move of the producer.** -/
theorem advances_of_advance (hm : l.advance canceled came = some l') : l.Advances canceled l' := by
  cases hp : l.producing with
  | created | opening due =>
    simp only [advance, hp] at hm
    split_ifs at hm
    · cases hm
      exact settle_advances (by simp [hp]) _
    · obtain ⟨r, -, rfl⟩ := Option.map_eq_some_iff.1 hm
      exact opened_advances (by simp [hp]) r
  | pulling feed =>
    have hlive : ∀ state, l.producing ≠ .settled state := by simp [hp]
    simp only [advance, hp] at hm
    split_ifs at hm with hallows hcanceled
    · cases hm
      exact settle_advances hlive _
    · cases hm
      exact settle_advances hlive _
    · split at hm
      next item pipe hshown =>
        cases hm
        exact .takes feed item pipe hp (by simpa using hallows) (by simpa using hcanceled) hshown
      · cases hm
        exact fail_advances hlive _
      · cases hm
        exact settle_advances hlive _
      · cases hm
  | offering feed item =>
    have hlive : ∀ state, l.producing ≠ .settled state := by simp [hp]
    simp only [advance, hp] at hm
    split_ifs at hm
    · cases hm
      exact settle_advances hlive _
    · split at hm
      next results htaken =>
        cases hm
        exact .delivers feed item results hp htaken
      · cases hm
      · cases hm
        exact settle_advances hlive _
  | settled state => simp [advance, hp] at hm
  | panicked => simp [advance, hp] at hm

/-! ## The accounts of a producer -/

/-- How many items a move of the producer takes from its stream. -/
def taken (l l' : Lookup) : Nat :=
  match l.producing, l'.producing with
  | .pulling _, .offering _ _ => 1
  | _, _ => 0

/-- The producer has taken so many items: those that it has delivered, and one more while it has an
item in its hands, or if it has dropped one when it stopped. -/
def Tallies (l : Lookup) (n : Nat) : Prop :=
  match l.producing with
  | .created | .opening _ | .pulling _ => n = l.delivered
  | .offering _ _ => n = l.delivered + 1
  | .settled _ | .panicked => l.delivered ≤ n ∧ n ≤ l.delivered + 1

theorem Tallies.bounds (h : l.Tallies n) : l.delivered ≤ n ∧ n ≤ l.delivered + 1 := by
  unfold Tallies at h
  split at h
  all_goals omega

/-- A producer that stays where it is takes nothing. -/
theorem taken_of_producing (h : l'.producing = l.producing) : l.taken l' = 0 := by
  unfold taken
  rw [h]
  split
  next hpulling hoffering =>
    rw [hpulling] at hoffering
    cases hoffering
  · rfl

theorem taken_of_not_offering (h : ∀ feed item, l'.producing ≠ .offering feed item) :
    l.taken l' = 0 := by
  unfold taken
  split
  next hoffering => exact absurd hoffering (h _ _)
  · rfl

/-- What a move of a lookup does to the accounts: the producer still tallies, and whatever it has
delivered since is in the results. -/
structure Accounts (l l' : Lookup) : Prop where
  tallies : ∀ n, l.Tallies n → l'.Tallies (n + l.taken l')
  delivered : l'.delivered + l.results.channel.load ≤ l.delivered + l'.results.channel.load
  held : l'.delivered + l.results.channel.queue.length =
    l.delivered + l'.results.channel.queue.length
  fits : l.results.channel.Fits → l'.results.channel.Fits
  capacity : l'.results.channel.capacity = l.results.channel.capacity

theorem Advances.accounts (h : l.Advances canceled l') : l.Accounts l' := by
  cases h with
  | stops hlive hstopped hdelivered hresults =>
    refine ⟨?_, ?_, ?_, ?_, ?_⟩
    · intro n hn
      have hbounds := hn.bounds
      have hzero : l.taken l' = 0 := taken_of_not_offering fun feed item hp => by
        rcases hstopped with ⟨state, hs⟩ | hs
        all_goals simp [hs] at hp
      rw [hzero, Nat.add_zero]
      unfold Tallies
      rcases hstopped with ⟨state, hs⟩ | hs
      all_goals
        rw [hs, hdelivered]
        exact hbounds
    · rw [hdelivered, hresults]
      exact Nat.le_refl _
    · rw [hdelivered, hresults]
      rfl
    · rw [hresults]
      exact id
    · rw [hresults]
      rfl
  | opens feed hwaits =>
    refine ⟨?_, Nat.le_refl _, rfl, id, rfl⟩
    intro n hn
    have hzero : l.taken { l with producing := .pulling feed } = 0 :=
      taken_of_not_offering fun _ _ => nofun
    rw [hzero, Nat.add_zero]
    unfold Tallies at hn ⊢
    rcases hwaits with hp | ⟨due, hp⟩
    all_goals simpa [hp] using hn
  | takes feed item pipe hp hallows hwanted hshown =>
    refine ⟨?_, Nat.le_refl _, rfl, id, rfl⟩
    intro n hn
    simp only [Tallies, hp] at hn
    simp [Tallies, taken, hp, hn]
  | delivers feed item results hp htaken =>
    obtain ⟨-, -, hchannel⟩ := Channel.send_eq_taken (Pipe.send_of_push htaken)
    refine ⟨?_, ?_, ?_, ?_, ?_⟩
    · intro n hn
      simp only [Tallies, hp] at hn
      simp [Tallies, taken, hp, hn]
    · show l.delivered + 1 + l.results.channel.load ≤ l.delivered + results.channel.load
      rw [Channel.load_send (Pipe.send_of_push htaken)]
      omega
    · show l.delivered + 1 + l.results.channel.queue.length =
        l.delivered + results.channel.queue.length
      rw [hchannel, List.length_append, List.length_singleton]
      omega
    · intro _
      exact Channel.Fits.send (Pipe.send_of_push htaken)
    · show results.channel.capacity = _
      rw [hchannel]

/-- The open stream does not concern the accounts. -/
theorem onStream_accounts {act : Feed → Option Feed} (hm : l.onStream act = some l') :
    l.Accounts l' := by
  unfold onStream at hm
  split at hm
  next feed hp =>
    obtain ⟨f, -, rfl⟩ := Option.map_eq_some_iff.1 hm
    refine ⟨?_, Nat.le_refl _, rfl, id, rfl⟩
    intro n hn
    simpa [Tallies, taken, hp] using hn
  next feed item hp =>
    obtain ⟨f, -, rfl⟩ := Option.map_eq_some_iff.1 hm
    refine ⟨?_, Nat.le_refl _, rfl, id, rfl⟩
    intro n hn
    simpa [Tallies, taken, hp] using hn
  · cases hm

theorem hold_accounts (hp : l.producing = .created) (due : Nat) : l.Accounts (l.hold due) := by
  refine ⟨?_, Nat.le_refl _, rfl, id, rfl⟩
  intro n hn
  simpa [Tallies, taken, hold, hp] using hn

end Lookup

/-! ## The bound -/

/-- The consumer has seen an item. -/
def Sight.isItem {α : Type} : Sight α → Bool
  | .item _ => true
  | _ => false

namespace Relay

/-- How many items the consumer has got. -/
def received (r : Relay) : Nat := r.seen.countP Sight.isItem

/-- What the acts of the parties can lead to, while the producer takes so many items. -/
inductive Runs (u : Upstream) (start : Relay) : Nat → Relay → Prop where
  | refl : Runs u start 0 start
  | tail {n : Nat} {r r' : Relay} (h : Runs u start n r) (hs : Step u r r') :
      Runs u start (n + r.lookup.taken r'.lookup) r'

variable {u : Upstream} {query : StreamQuery} {limit : Limit} {buffer n m : Nat}
  {start r r' : Relay}

theorem Runs.reachable (h : Runs u start n r) : Reachable u start r := by
  induction h with
  | refl => exact .refl
  | tail _ hs ih => exact ih.tail hs

theorem Runs.trans (h : Runs u start n r) (h' : Runs u r m r') : Runs u start (n + m) r' := by
  induction h' with
  | refl => exact h
  | tail _ hs ih =>
    rw [← Nat.add_assoc]
    exact ih.tail hs

/-- The accounts of a relay whose producer has taken so many items. -/
structure Balanced (buffer n : Nat) (r : Relay) : Prop where
  tallies : r.lookup.Tallies n
  delivered : r.lookup.delivered ≤ r.received + r.lookup.results.channel.load
  got : r.received + r.lookup.results.channel.queue.length ≤ r.lookup.delivered
  fits : r.lookup.results.channel.Fits
  capacity : r.lookup.results.channel.capacity = max buffer 1

theorem fresh_balanced (query : StreamQuery) (limit : Limit) (buffer : Nat) :
    (fresh query limit buffer).Balanced buffer 0 :=
  ⟨rfl, Nat.zero_le _, Nat.le_refl _, Nat.zero_le _, rfl⟩

/-- The producer or its stream moves. -/
theorem Balanced.account {l : Lookup} {accepted : List Item} (h : r.Balanced buffer n)
    (ha : r.lookup.Accounts l) :
    { r with lookup := l, accepted }.Balanced buffer (n + r.lookup.taken l) where
  tallies := ha.tallies n h.tallies
  delivered := by
    have hbefore := h.delivered
    have hmove := ha.delivered
    show l.delivered ≤ r.received + l.results.channel.load
    omega
  got := by
    have hbefore := h.got
    have hmove := ha.held
    show r.received + l.results.channel.queue.length ≤ l.delivered
    omega
  fits := ha.fits h.fits
  capacity := ha.capacity.trans h.capacity

/-- What a look takes from the results is what the consumer gets. -/
theorem sight_load {p q : Pipe Item} {x : Sight Item} (hleft : ¬ p.IsLeft)
    (hx : p.sight? = some (x, q)) : q.channel.capacity = p.channel.capacity ∧
      p.channel.load = x.isItem.toNat + q.channel.load ∧
        p.channel.queue.length = x.isItem.toNat + q.channel.queue.length := by
  have hpresent : p.channel.receiverGone = false := by simpa [Pipe.IsLeft] using hleft
  obtain ⟨-, rfl, rfl⟩ | ⟨-, ⟨a, rest, hqueue, rfl, rfl⟩ | ⟨-, -, rfl, hend⟩⟩ :=
    Pipe.sight?_eq_some hx
  · simp [Sight.isItem]
  · simp [Sight.isItem, Pipe.holding, Channel.load, hpresent, hqueue, Nat.add_comm]
  · rcases hend with ⟨e, -, rfl⟩ | ⟨-, rfl⟩
    · simp [Sight.isItem, Pipe.finish]
    · simp [Sight.isItem, Pipe.finish]

/-- The consumer looks at the results. -/
theorem Balanced.look {x : Sight Item} {results : Pipe Item} (h : r.Balanced buffer n)
    (hleft : ¬ r.lookup.results.IsLeft) (hx : r.lookup.results.sight? = some (x, results)) :
    { r with lookup := { r.lookup with results }, seen := r.seen ++ [x] }.Balanced buffer n := by
  obtain ⟨hcapacity, hload, hqueue⟩ := sight_load hleft hx
  have hreceived : (r.seen ++ [x]).countP Sight.isItem = r.received + x.isItem.toNat := by
    rw [received, List.countP_append, List.countP_singleton]
    cases x.isItem <;> rfl
  obtain ⟨htallies, hdelivered, hgot, hfits, hbuffer⟩ := h
  refine ⟨htallies, ?_, ?_, ?_, hcapacity.trans hbuffer⟩
  · show r.lookup.delivered ≤ (r.seen ++ [x]).countP Sight.isItem + results.channel.load
    omega
  · show (r.seen ++ [x]).countP Sight.isItem + results.channel.queue.length ≤ r.lookup.delivered
    omega
  · unfold Channel.Fits at hfits ⊢
    show results.channel.queue.length ≤ results.channel.capacity
    omega

/-- The consumer leaves: what the results held is lost, and counts as held back from now on. -/
theorem Balanced.leave (h : r.Balanced buffer n) :
    { r with lookup := r.lookup.abandon }.Balanced buffer n := by
  obtain ⟨htallies, hdelivered, hgot, hfits, hbuffer⟩ := h
  have hload := hfits.load_le
  refine ⟨htallies, ?_, ?_, Nat.zero_le _, hbuffer⟩
  · show r.lookup.delivered ≤ r.received + r.lookup.results.channel.capacity
    omega
  · show r.received + 0 ≤ r.lookup.delivered
    omega

/-- Nothing is taken while the producer stays where it is. -/
theorem Balanced.stay (h : r'.Balanced buffer n)
    (hp : r'.lookup.producing = r.lookup.producing) :
    r'.Balanced buffer (n + r.lookup.taken r'.lookup) := by
  rw [Lookup.taken_of_producing hp]
  exact h

/-- **Every step keeps the accounts.** -/
theorem Balanced.step (h : r.Balanced buffer n) (hs : Step u r r') :
    r'.Balanced buffer (n + r.lookup.taken r'.lookup) := by
  cases hs with
  | hold hp => exact h.account (Lookup.hold_accounts hp _)
  | produce came hcame hm => exact h.account (Lookup.advances_of_advance hm).accounts
  | stream now noticed hnoticed hm => exact h.account (Lookup.onStream_accounts hm)
  | cancel => exact Balanced.stay ⟨h.tallies, h.delivered, h.got, h.fits, h.capacity⟩ rfl
  | look hleft hx => exact (h.look hleft hx).stay rfl
  | leave => exact h.leave.stay rfl

theorem Runs.balanced (h : Runs u (fresh query limit buffer) n r) : r.Balanced buffer n := by
  induction h with
  | refl => exact fresh_balanced query limit buffer
  | tail _ hs ih => exact ih.step hs

/-- **A lookup is bounded by its results.** The producer has taken what it has delivered and at most
one item more, and this is at most as many more than the consumer has got as the results hold, and
one. While the consumer gets nothing, the producer takes no more than that. -/
theorem Runs.taken_le (h : Runs u (fresh query limit buffer) n r) :
    r.accepted.length ≤ n ∧ n ≤ r.accepted.length + 1 ∧ n ≤ r.received + max buffer 1 + 1 ∧
      ∀ m r', Runs u r m r' → r'.received = r.received → m ≤ max buffer 1 + 1 := by
  have hcount := (reachable_sound h.reachable).lookup.count
  have hbalanced := h.balanced
  have hbounds := hbalanced.tallies.bounds
  have hdelivered := hbalanced.delivered
  have hload := hbalanced.fits.load_le
  rw [hbalanced.capacity] at hload
  refine ⟨by omega, by omega, by omega, ?_⟩
  intro m r' hlater hstalled
  have hbalanced' := (h.trans hlater).balanced
  have hbounds' := hbalanced'.tallies.bounds
  have hdelivered' := hbalanced'.delivered
  have hload' := hbalanced'.fits.load_le
  have hgot := hbalanced.got
  rw [hbalanced'.capacity] at hload'
  omega

end Relay

end RelationGate
