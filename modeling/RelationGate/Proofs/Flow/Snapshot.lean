import RelationGate.Proofs.Flow.Lookup
import RelationGate.Proofs.Store.Answer

/-!
# A lookup over a snapshot of the store

A lookup that is opened on the store relays the answer that the store has at that moment, whatever
becomes of the store afterwards. `Lookup.Follows` ties a lookup, what its consumer has seen and the
store that the stream was opened on together. From it one reads off that the items seen so far are
the first items of the answer (`Follows.heads`), and that they are all of it once the end is seen
and nobody has canceled (`Follows.complete`).
-/

namespace RelationGate

variable {p : LimitPolicy} {q : StreamQuery} {opened : Option Store} {canceled : Bool}
  {hits : List Item} {u : Upstream}

/-- The items are the first of the answer; before the stream is open there are none. -/
def Heads (p : LimitPolicy) (q : StreamQuery) (opened : Option Store) (hits : List Item) : Prop :=
  match opened with
  | none => hits = []
  | some store => hits <+: store.fullAnswer p q

/-- The items are the answer. -/
def Complete (p : LimitPolicy) (q : StreamQuery) (opened : Option Store) (hits : List Item) :
    Prop :=
  ∃ store, opened = some store ∧ hits = store.fullAnswer p q

theorem heads_nil (p : LimitPolicy) (q : StreamQuery) (opened : Option Store) :
    Heads p q opened [] := by
  cases opened with
  | none => rfl
  | some store => exact List.nil_prefix

theorem Heads.of_initial {hits' : List Item} (h : Heads p q opened hits) (hp : hits' <+: hits) :
    Heads p q opened hits' := by
  cases opened with
  | none => exact List.prefix_nil.1 (h ▸ hp)
  | some store => exact hp.trans h

/-- What is known of the upstream of a lookup: it streams the answer of the store that the stream
was opened on, or fails before its first item. -/
def Upstream.Shows (p : LimitPolicy) (q : StreamQuery) (opened : Option Store) : Upstream → Prop
  | silent | refusing _ => opened = none
  | streaming items ending =>
    (∃ store, opened = some store ∧ ending = .close ∧ items = ((store.fullAnswer p q)[·]?)) ∨
      (∃ store, opened = some store) ∧ (∃ e, ending = .fail e) ∧ items = fun _ => none

theorem fits_none {n : Nat} (h : Fits (fun _ => none) n hits) : hits = [] := by
  cases hits with
  | nil => rfl
  | cons a rest => cases (fits_cons.1 h).1

theorem Upstream.Shows.heads (h : u.Shows p q opened) (hfits : Fits u.items 0 hits) :
    Heads p q opened hits := by
  cases u with
  | silent => exact fits_none hfits ▸ heads_nil p q opened
  | refusing e => exact fits_none hfits ▸ heads_nil p q opened
  | streaming items ending =>
    obtain ⟨store, rfl, -, rfl⟩ | ⟨-, -, rfl⟩ := h
    · exact fits_getElem?_iff.1 hfits
    · exact fits_none hfits ▸ heads_nil p q opened

theorem cutAt_length {α : Type} {n : Nat} (items : List α) : (cutAt (some n) items).length ≤ n :=
  List.length_take_le _ _

/-- Items that the upstream has no more of, or that are as many as the cap, are the answer. -/
theorem Upstream.Shows.complete (h : u.Shows p q opened) (hfits : Fits u.items 0 hits)
    (hend : (p.resolve q).Reached hits.length ∨ u.EndsAt hits.length) :
    Complete p q opened hits := by
  -- An upstream without items has nothing to end after, and no cap is zero.
  have hempty : u.items = (fun _ => none) → ¬ u.EndsAt hits.length → False := fun hitems hends => by
    rw [hitems] at hfits
    rw [fits_none hfits] at hend hends
    exact hend.elim (Limit.not_reached_zero _) hends
  cases u with
  | silent => exact (hempty rfl id).elim
  | refusing e => exact (hempty rfl id).elim
  | streaming items ending =>
    obtain ⟨store, rfl, rfl, rfl⟩ | ⟨-, ⟨e, rfl⟩, rfl⟩ := h
    · have hfirst := fits_getElem?_iff.1 hfits
      refine ⟨store, rfl, hfirst.eq_of_length (Nat.le_antisymm hfirst.length_le ?_)⟩
      obtain hreached | hends := hend
      · have hcap := p.cap?_resolve q
        cases hlimit : p.resolve q with
        | unbounded =>
          rw [hlimit] at hreached
          exact hreached.elim
        | capped most hmost =>
          rw [hlimit] at hreached hcap
          rw [Store.fullAnswer, ← hcap, show hits.length = most.toNat from hreached]
          exact cutAt_length _
      · exact List.getElem?_eq_none_iff.1 hends
    · exact (hempty rfl id).elim

namespace Lookup

variable {l l' : Lookup} {seen : List (Sight Item)} {results : Pipe Item}

/-- The producer has a stream. -/
def hasStream (l : Lookup) : Bool :=
  match l.producing with
  | .pulling _ | .offering _ _ => true
  | _ => false

/-- The producer is still to open its stream. -/
def IsWaiting (l : Lookup) : Prop := l.producing = .created ∨ ∃ due, l.producing = .opening due

/-- The store that the stream was opened on, after a move of the producer over a store. -/
def openedOn (l l' : Lookup) (opened : Option Store) (store : Store) : Option Store :=
  opened.or (if !l.hasStream && l'.hasStream then some store else none)

/-- The fault that has struck a producer which opens its stream. -/
def struck (l l' : Lookup) (now : Nat) (b : Backend) : Option String :=
  match l'.producing, l.opening now b with
  | .panicked, .panicked words => some words
  | _, _ => none

theorem advance_of_isWaiting {came : Option (Reaction Feed)} (hw : l.IsWaiting) :
    l.advance canceled came =
      if canceled then some (l.settle .canceled) else came.map l.opened := by
  obtain hp | ⟨due, hp⟩ := hw
  all_goals rw [advance, hp]

/-- Once the producer has a stream it does not look for one. -/
theorem advance_of_not_isWaiting {came : Option (Reaction Feed)} (hw : ¬ l.IsWaiting)
    (hm : l.advance canceled came = some l') :
    l.hasStream = true ∧ ¬ l'.IsWaiting ∧ l.advance canceled none = some l' := by
  have hsettle : ∀ state, ¬ (l.settle state).IsWaiting := fun state => by simp [IsWaiting, settle]
  cases hp : l.producing with
  | created => exact absurd (.inl hp) hw
  | opening due => exact absurd (.inr ⟨due, hp⟩) hw
  | settled state =>
    rw [advance, hp] at hm
    cases hm
  | panicked =>
    rw [advance, hp] at hm
    cases hm
  | pulling feed =>
    have hsame : l.advance canceled none = some l' := by
      rw [← hm, advance, advance, hp]
    refine ⟨by rw [hasStream, hp], ?_, hsame⟩
    rw [advance, hp] at hm
    simp only at hm
    repeat' split at hm
    all_goals cases hm
    all_goals simp [IsWaiting, settle, fail]
  | offering feed item =>
    have hsame : l.advance canceled none = some l' := by
      rw [← hm, advance, advance, hp]
    refine ⟨by rw [hasStream, hp], ?_, hsame⟩
    rw [advance, hp] at hm
    simp only at hm
    repeat' split at hm
    all_goals cases hm
    all_goals simp [IsWaiting, settle]

/-- A lookup whose consumer has seen something, and the store that its stream was opened on. -/
structure Follows (p : LimitPolicy) (q : StreamQuery) (opened : Option Store) (canceled : Bool)
    (seen : List (Sight Item)) (l : Lookup) : Prop where
  query : l.query = q
  limit : l.limit = p.resolve q
  present : ¬ l.results.IsLeft
  waiting : l.IsWaiting → opened = none
  sound : ∃ u accepted, u.Shows p q opened ∧ l.Sound u canceled accepted seen

namespace Follows

theorem fresh (p : LimitPolicy) (q : StreamQuery) (canceled : Bool) (buffer : Nat) :
    (Lookup.fresh q (p.resolve q) buffer).Follows p q none canceled [] where
  query := rfl
  limit := rfl
  present := Bool.false_ne_true
  waiting _ := rfl
  sound := ⟨.silent, [], rfl, .fresh .silent canceled q (p.resolve q) buffer⟩

theorem mono {canceled' : Bool} (h : l.Follows p q opened canceled seen)
    (hc : canceled = true → canceled' = true) : l.Follows p q opened canceled' seen := by
  obtain ⟨u, accepted, hshows, hsound⟩ := h.sound
  exact { h with sound := ⟨u, accepted, hshows, hsound.mono hc⟩ }

theorem feedMove {now : Nat} {noticed : Bool} (h : l.Follows p q opened canceled seen)
    (hnoticed : noticed = true → canceled = true) (hm : l.feedMove now noticed = some l') :
    l'.Follows p q opened canceled seen := by
  obtain ⟨u, accepted, hshows, hsound⟩ := h.sound
  have hkept := onStream_kept hm
  refine ⟨hkept.query.trans h.query, hkept.limit.trans h.limit, mt hkept.left.1 h.present, ?_,
    u, accepted, hshows, hsound.feedMove hnoticed hm⟩
  rw [Lookup.feedMove, onStream] at hm
  split at hm
  · obtain ⟨f, -, rfl⟩ := Option.map_eq_some_iff.1 hm
    simp [IsWaiting]
  · obtain ⟨f, -, rfl⟩ := Option.map_eq_some_iff.1 hm
    simp [IsWaiting]
  · cases hm

/-- The consumer takes an item. -/
theorem look {item : Item} (h : l.Follows p q opened canceled seen)
    (hx : l.results.sight? = some (.item item, results)) :
    { l with results }.Follows p q opened canceled (seen ++ [Sight.item item]) := by
  obtain ⟨u, accepted, hshows, hsound⟩ := h.sound
  obtain ⟨-, -, hleft, -⟩ := Pipe.sight?_same hx
  exact ⟨h.query, h.limit, mt hleft.1 h.present, h.waiting, u, accepted, hshows,
    hsound.look h.present hx⟩

/-- The producer moves without opening a stream. -/
theorem of_sound {opened' : Option Store} (h : l.Follows p q opened canceled seen)
    (hkept : l.Kept l')
    (hwaiting : l'.IsWaiting → opened' = none)
    (hsound : ∃ u accepted, u.Shows p q opened' ∧ l'.Sound u canceled accepted seen) :
    l'.Follows p q opened' canceled seen :=
  ⟨hkept.query.trans h.query, hkept.limit.trans h.limit, mt hkept.left.1 h.present, hwaiting,
    hsound⟩

theorem openedOn_of_hasStream_eq_false {store : Store} (h : l'.hasStream = false) :
    l.openedOn l' opened store = opened := by
  rw [openedOn, h, Bool.and_false]
  cases opened <;> rfl

theorem openedOn_of_hasStream {store : Store} (h : l.hasStream = true) :
    l.openedOn l' opened store = opened := by
  rw [openedOn, h]
  cases opened <;> rfl

/-- **The stream is opened** on the store as it is at this moment, or never. -/
theorem of_opening {now : Nat} {b : Backend} (h : l.Follows p q opened canceled seen)
    (hwaiting : l.IsWaiting) (hscript : b.script = none)
    (hcalm : l.struck (l.opened (l.opening now b)) now b = none) :
    (l.opened (l.opening now b)).Follows p q
      (l.openedOn (l.opened (l.opening now b)) opened b.store) canceled seen := by
  obtain ⟨u, accepted, -, hsound⟩ := h.sound
  have hnone := h.waiting hwaiting
  have hnil : accepted.length = 0 ∧ l.results.IsOpen := by
    have hknows := hsound.knows
    obtain hp | ⟨due, hp⟩ := hwaiting
    all_goals rw [hp] at hknows; exact hknows
  have hstream : l.hasStream = false := by
    obtain hp | ⟨due, hp⟩ := hwaiting
    all_goals rw [hasStream, hp]
  -- Nothing is known of the upstream yet, so it may be taken for the one that shows up now.
  have hopened : ∀ (u' : Upstream) (r : Reaction Feed), l.opening now b = r →
      u'.Opens canceled r → ¬ (l.opened r).IsWaiting →
      u'.Shows p q (l.openedOn (l.opened r) opened b.store) →
      (l.opened r).Follows p q (l.openedOn (l.opened r) opened b.store) canceled seen :=
    fun u' r _ hopens hover hshows => h.of_sound (l.opened_kept r) (fun hw => (hover hw).elim)
      ⟨u', accepted, hshows, (hsound.of_waiting hwaiting).opened hnil.2 hnil.1 hopens⟩
  have hreact := b.reactStream_resolved_cases (p := p) (q := q) hscript now
  rw [show b.reactStream q (p.resolve q).word q.place now = l.opening now b by
    rw [opening, h.query, h.limit]] at hreact
  obtain ⟨words, hr⟩ | ⟨e, hr⟩ | ⟨e, hr⟩ | hr := hreact
  all_goals rw [hr] at hcalm ⊢
  · simp [struck, Lookup.opened, collapse, hr] at hcalm
  · refine hopened (.refusing e) _ hr rfl (by simp [IsWaiting, Lookup.opened, Lookup.fail]) ?_
    rw [openedOn_of_hasStream_eq_false rfl]
    exact hnone
  · refine hopened (.streaming (fun _ => none) (.fail e)) _ hr
      ⟨_, _, rfl, Feed.Sound.failed_at_once canceled e⟩ (by simp [IsWaiting, Lookup.opened]) ?_
    exact .inr ⟨⟨b.store, by rw [openedOn, hnone, hstream]; rfl⟩, ⟨e, rfl⟩, rfl⟩
  · refine hopened (.streaming ((b.store.fullAnswer p q)[·]?) .close) _ hr
      ⟨_, _, rfl, Feed.Sound.fresh canceled b.buffer 0 0⟩ (by simp [IsWaiting, Lookup.opened]) ?_
    exact .inl ⟨b.store, by rw [openedOn, hnone, hstream]; rfl, rfl, rfl⟩

/-- **A move of the producer over the store.** -/
theorem produce {now : Nat} {b b' : Backend} (h : l.Follows p q opened canceled seen)
    (hscript : b.script = none) (hm : l.produce now canceled b = some (l', b'))
    (hcalm : l.struck l' now b = none) :
    l'.Follows p q (l.openedOn l' opened b.store) canceled seen := by
  obtain ⟨u, accepted, hshows, hsound⟩ := h.sound
  have hkept := produce_kept hm
  obtain ⟨-, ⟨hp, due, rfl⟩ | ⟨came, hcame, hadvance⟩⟩ := produce_cases hm
  · rw [openedOn_of_hasStream_eq_false rfl]
    exact h.of_sound hkept (fun _ => h.waiting (.inl hp)) ⟨u, accepted, hshows, hsound.hold hp due⟩
  by_cases hw : l.IsWaiting
  · rw [advance_of_isWaiting hw] at hadvance
    cases hcanceled : canceled with
    | true =>
      rw [hcanceled, if_pos rfl] at hadvance
      have hnone : l.advance true none = some l' := by
        rw [advance_of_isWaiting hw, if_pos rfl, hadvance]
      rw [hcanceled] at hsound h
      cases hadvance
      rw [openedOn_of_hasStream_eq_false rfl]
      exact h.of_sound hkept (fun _ => h.waiting hw)
        ⟨u, accepted, hshows, (hsound.wait hw (by simp) hnone).2⟩
    | false =>
      rw [hcanceled] at hadvance h
      obtain rfl | rfl := hcame
      · cases hadvance
      · cases hadvance
        exact h.of_opening hw hscript hcalm
  · obtain ⟨hstream, hover, hnone⟩ := advance_of_not_isWaiting hw hadvance
    rw [openedOn_of_hasStream hstream]
    exact h.of_sound hkept (fun hw' => (hover hw').elim)
      ⟨u, _, hshows, hsound.advance (by simp) hnone⟩

/-! ## What the consumer has seen -/

/-- A consumer that has only seen items has seen the first of those that the results have taken, and
the results hold the others. -/
theorem append_queue {accepted : List Item} (h : l.results.Observed accepted (hits.map Sight.item))
    (hleft : ¬ l.results.IsLeft) :
    l.results.finished = false ∧ hits ++ l.results.channel.queue = accepted := by
  have hinj : Function.Injective (Sight.item : Item → Sight Item) := fun a b => Sight.item.inj
  cases hf : l.results.finished with
  | false =>
    refine ⟨rfl, List.map_injective_iff.2 hinj ?_⟩
    rw [List.map_append]
    exact h.unfinished hleft hf
  | true =>
    -- An end that has been seen is no item.
    obtain ⟨-, k, hk, hseen⟩ := h.finished hleft hf
    have hitem : ∀ x ∈ hits.map Sight.item, ∃ a, x = Sight.item a := by simp
    rw [hseen, Pipe.whole] at hitem
    cases hfailure : l.results.failure with
    | some e =>
      obtain ⟨a, ha⟩ := hitem (.failure e) (by simp [hfailure])
      cases ha
    | none =>
      obtain ⟨a, ha⟩ := hitem .ended
        (List.mem_append_right _ (List.mem_replicate.2 ⟨Nat.ne_of_gt (hk hfailure), rfl⟩))
      cases ha

/-- **The items seen so far are the first of the answer.** -/
theorem heads (h : l.Follows p q opened canceled (hits.map Sight.item)) :
    Heads p q opened hits := by
  obtain ⟨u, accepted, hshows, hsound⟩ := h.sound
  obtain ⟨-, haccepted⟩ := append_queue hsound.observed h.present
  exact (hshows.heads hsound.fits).of_initial (haccepted ▸ List.prefix_append _ _)

/-- **At the end they are all of it**, if nobody has canceled. -/
theorem complete (h : l.Follows p q opened false (hits.map Sight.item))
    (hx : l.results.sight? = some (.ended, results)) : Complete p q opened hits := by
  obtain ⟨u, accepted, hshows, hsound⟩ := h.sound
  obtain ⟨hunfinished, haccepted⟩ := append_queue hsound.observed h.present
  obtain ⟨hf, -⟩ | ⟨-, ⟨a, rest, -, hx', -⟩ | ⟨hqueue, hgone, -, ⟨e, -, hx'⟩ | ⟨hfailure, -⟩⟩⟩ :=
    Pipe.sight?_eq_some hx
  · rw [hunfinished] at hf
    cases hf
  · cases hx'
  · cases hx'
  rw [hqueue, List.append_nil] at haccepted
  subst haccepted
  have hknows := hsound.knows
  -- The results are closed without a failure: the producer has completed, for it was not canceled.
  cases hp : l.producing with
  | created =>
    rw [hp] at hknows
    exact absurd hgone hknows.2.not_senderGone
  | opening due =>
    rw [hp] at hknows
    exact absurd hgone hknows.2.not_senderGone
  | pulling feed =>
    rw [hp] at hknows
    exact absurd hgone hknows.1.not_senderGone
  | offering feed item =>
    rw [hp] at hknows
    exact absurd hgone hknows.1.not_senderGone
  | panicked =>
    rw [hp] at hknows
    exact hknows.elim
  | settled state =>
    rw [hp] at hknows
    cases state with
    | created => exact hknows.elim
    | producing => exact hknows.elim
    | completed => exact hshows.complete hsound.fits (h.limit ▸ hknows.2)
    | failed =>
      obtain ⟨e, hclosed, -⟩ := hknows
      cases hclosed.2.symm.trans hfailure
    | canceled => exact absurd (hknows.2.resolve_left Bool.false_ne_true) h.present

end Follows

end Lookup

end RelationGate
