import RelationGate.Proofs.Flow.Lookup

/-!
# The law of the relay

A lookup runs beside three parties that act when they please: the stream of the backend, the caller,
who may cancel, and the consumer, who looks at the results or leaves. `Relay.Step` is one act of one
of them or of the producer, in no particular order. The law of the relay, `relay_law`, says how the
state in which the producer stops, the items that the results have taken, and what the consumer sees
belong together, in every interleaving and for every upstream: silent, refusing, or streaming any
sequence of items that closes, fails or stays open.
-/

namespace RelationGate

/-- What comes of opening the stream, if anything does. A stream has a capacity and a pace. -/
def Upstream.opening (capacity pace ready : Nat) : Upstream → Option (Reaction Feed)
  | silent => none
  | refusing e => some (.answered (.error e))
  | streaming items ending =>
    some (.answered (.ok { items, ending, pace, ready, pipe := .ofCapacity capacity }))

theorem Upstream.opens_opening {capacity pace ready : Nat} {u : Upstream} {canceled : Bool}
    {r : Reaction Feed} (h : u.opening capacity pace ready = some r) : u.Opens canceled r := by
  cases u with
  | silent => cases h
  | refusing e =>
    cases h
    rfl
  | streaming items ending =>
    cases h
    exact ⟨items, ending, rfl, .fresh canceled capacity pace ready⟩

/-- A lookup under way, and what has become of it so far. -/
structure Relay where
  lookup : Lookup
  /-- The caller has canceled. -/
  canceled : Bool := false
  /-- Every item that the results have taken. -/
  accepted : List Item := []
  /-- Everything that the consumer has seen. -/
  seen : List (Sight Item) := []

namespace Relay

/-- A lookup whose producer has not begun. -/
def fresh (query : StreamQuery) (limit : Limit) (buffer : Nat) : Relay :=
  { lookup := .fresh query limit buffer }

/-- One act of one party. -/
inductive Step (u : Upstream) : Relay → Relay → Prop where
  /-- The producer begins, and the opening is held up. -/
  | hold {r : Relay} {due : Nat} (hp : r.lookup.producing = .created) :
      Step u r { r with lookup := r.lookup.hold due }
  /-- The producer moves; the opening has come back, or not yet. -/
  | produce {r : Relay} {l : Lookup} (came : Option (Reaction Feed))
      (hcame : came = none ∨ ∃ capacity pace ready, came = u.opening capacity pace ready)
      (hm : r.lookup.advance r.canceled came = some l) :
      Step u r { r with lookup := l, accepted := r.accepted ++ r.lookup.added l }
  /-- The stream moves; it has noticed the cancellation, or not yet. -/
  | stream {r : Relay} {l : Lookup} (now : Nat) (noticed : Bool)
      (hnoticed : noticed = true → r.canceled = true)
      (hm : r.lookup.feedMove now noticed = some l) :
      Step u r { r with lookup := l }
  | cancel {r : Relay} : Step u r { r with canceled := true }
  | look {r : Relay} {x : Sight Item} {results : Pipe Item} (hleft : ¬ r.lookup.results.IsLeft)
      (hx : r.lookup.results.sight? = some (x, results)) :
      Step u r { r with lookup := { r.lookup with results }, seen := r.seen ++ [x] }
  | leave {r : Relay} : Step u r { r with lookup := r.lookup.abandon }

/-- What the acts of the parties can lead to. -/
inductive Reachable (u : Upstream) (start : Relay) : Relay → Prop where
  | refl : Reachable u start start
  | tail {r r' : Relay} (h : Reachable u start r) (hs : Step u r r') : Reachable u start r'

variable {u : Upstream} {query : StreamQuery} {limit : Limit} {buffer : Nat} {r r' : Relay}

/-- The invariant of the relay. -/
structure Sound (u : Upstream) (query : StreamQuery) (limit : Limit) (r : Relay) : Prop where
  query_eq : r.lookup.query = query
  limit_eq : r.lookup.limit = limit
  lookup : r.lookup.Sound u r.canceled r.accepted r.seen

theorem fresh_sound (u : Upstream) (query : StreamQuery) (limit : Limit) (buffer : Nat) :
    (fresh query limit buffer).Sound u query limit :=
  ⟨rfl, rfl, .fresh u false query limit buffer⟩

theorem step_sound (h : r.Sound u query limit) (hs : Step u r r') : r'.Sound u query limit := by
  cases hs with
  | hold hp => exact ⟨h.query_eq, h.limit_eq, h.lookup.hold hp _⟩
  | produce came hcame hm =>
    have hkept := Lookup.advance_kept hm
    refine ⟨hkept.query.trans h.query_eq, hkept.limit.trans h.limit_eq,
      h.lookup.advance (fun c hc => ?_) hm⟩
    obtain rfl | ⟨capacity, pace, ready, rfl⟩ := hcame
    · cases hc
    · exact u.opens_opening hc
  | stream now noticed hnoticed hm =>
    have hkept := Lookup.onStream_kept hm
    exact ⟨hkept.query.trans h.query_eq, hkept.limit.trans h.limit_eq,
      h.lookup.feedMove hnoticed hm⟩
  | cancel => exact ⟨h.query_eq, h.limit_eq, h.lookup.mono fun _ => rfl⟩
  | look hleft hx => exact ⟨h.query_eq, h.limit_eq, h.lookup.look hleft hx⟩
  | leave => exact ⟨h.query_eq, h.limit_eq, h.lookup.abandon⟩

theorem reachable_sound (h : Reachable u (fresh query limit buffer) r) : r.Sound u query limit := by
  induction h with
  | refl => exact fresh_sound u query limit buffer
  | tail _ hs ih => exact step_sound ih hs

/-- The consumer sees the accepted items, then the failure if there is one, and then the end, as far
as it looks: it has begun to see this, and sees it if it reads on. -/
def Shows (r : Relay) (failure : Option BackendError) : Prop :=
  ¬ r.lookup.results.IsLeft → ∀ n, r.seen ++ r.lookup.results.readOn n =
    (r.accepted.map Sight.item ++ failure.toList.map Sight.failure ++
      List.replicate (r.seen.length + n) Sight.ended).take (r.seen.length + n)

/-- No failure has been delivered. -/
def Unfailed (r : Relay) : Prop := ∀ e, .failure e ∉ r.seen

theorem Sound.shows {failure : Option BackendError} (h : r.Sound u query limit)
    (hclosed : r.lookup.results.IsClosed failure) : r.Shows failure := by
  intro hleft n
  have := h.lookup.observed.readOn hleft hclosed.1 n
  rwa [Pipe.whole, hclosed.2] at this

theorem Sound.unfailed (h : r.Sound u query limit)
    (hfailure : r.lookup.results.failure = none) : r.Unfailed := by
  intro e he
  have := (h.lookup.observed.failures e he).2
  rw [hfailure] at this
  cases this

/-- **The law of the relay.** Whatever the parties do, the results take the first items of the
stream, no more than the cap.

* If the producer has completed, the cap is reached or the stream has closed after these items, and
  the consumer sees them and the end.
* If it has failed, the opening or the stream has failed after these items, short of the cap, and
  the consumer sees them, then this failure under the name of the operation, then the end.
* If it was canceled, the caller has canceled or the consumer has left, and no failure is seen.
* Otherwise it is still at work, and no failure has been seen; it never comes down. -/
theorem relay_law (h : Reachable u (fresh query limit buffer) r) :
    Fits u.items 0 r.accepted ∧ limit.Admits r.accepted.length ∧
      match r.lookup.state? with
      | some .completed => (limit.Reached r.accepted.length ∨ u.EndsAt r.accepted.length) ∧
          r.Unfailed ∧ r.Shows none
      | some .failed => ∃ e, u.FailsAt e r.accepted.length ∧ limit.allows r.accepted.length = true ∧
          r.Shows (some ⟨e.kind, query.activity ++ ": " ++ e.message⟩)
      | some .canceled => (r.canceled = true ∨ r.lookup.results.IsLeft) ∧ r.Unfailed ∧ r.Shows none
      | some .created | some .producing => r.Unfailed
      | none => False := by
  have hr := reachable_sound h
  refine ⟨hr.lookup.fits, hr.limit_eq ▸ hr.lookup.admitted, ?_⟩
  have hknows := hr.lookup.knows
  rw [Lookup.state?]
  cases hp : r.lookup.producing with
  | created =>
    rw [hp] at hknows
    exact hr.unfailed hknows.2.2
  | opening due =>
    rw [hp] at hknows
    exact hr.unfailed hknows.2.2
  | pulling feed =>
    rw [hp] at hknows
    exact hr.unfailed hknows.1.2
  | offering feed item =>
    rw [hp] at hknows
    exact hr.unfailed hknows.1.2
  | panicked =>
    rw [hp] at hknows
    exact hknows
  | settled state =>
    rw [hp] at hknows
    cases state with
    | created => exact hknows.elim
    | producing => exact hknows.elim
    | completed =>
      obtain ⟨hclosed, hwhy⟩ := hknows
      exact ⟨hr.limit_eq ▸ hwhy, hr.unfailed hclosed.2, hr.shows hclosed⟩
    | failed =>
      obtain ⟨e, hclosed, hfails, hallows⟩ := hknows
      rw [hr.query_eq] at hclosed
      exact ⟨e, hfails, hr.limit_eq ▸ hallows, hr.shows hclosed⟩
    | canceled =>
      obtain ⟨hclosed, hwhy⟩ := hknows
      exact ⟨hwhy, hr.unfailed hclosed.2, hr.shows hclosed⟩

/-- A stream that fails after one item: the consumer sees the item, the failure and the end. -/
theorem relay_law_failing_after_one :
    let ada : Item := .subject ⟨⟨⟨"user", "ada"⟩, none⟩, ⟨"0"⟩, ⟨"1"⟩⟩
    let u : Upstream := .streaming (fun n => if n = 0 then some ada else none)
      (.fail ⟨.unavailable, "gone"⟩)
    let query : StreamQuery := .subjects
      { resource := ⟨"document", "readme"⟩, permission := "viewer", subjectType := "user" }
    ∃ r, Reachable u (fresh query .unbounded 1) r ∧ r.lookup.state? = some .failed ∧
      r.lookup.results.readOn 3 =
        [.item ada, .failure ⟨.unavailable, "LookupSubjects: gone"⟩, .ended] := by
  intro ada u query
  have h₀ : Reachable u (fresh query .unbounded 1) (fresh query .unbounded 1) := .refl
  have h₁ := h₀.tail (.produce _ (.inr ⟨1, 0, 0, rfl⟩) rfl)
  have h₂ := h₁.tail (.stream 0 false (fun h => h) rfl)
  have h₃ := h₂.tail (.produce none (.inl rfl) rfl)
  have h₄ := h₃.tail (.produce none (.inl rfl) rfl)
  have h₅ := h₄.tail (.stream 0 false (fun h => h) rfl)
  have h₆ := h₅.tail (.produce none (.inl rfl) rfl)
  obtain ⟨-, -, e, hfails, -, hshows⟩ := relay_law h₆
  obtain ⟨rfl, -⟩ := hfails
  exact ⟨_, h₆, rfl, hshows Bool.false_ne_true 3⟩

end Relay

end RelationGate
