import RelationGate.Proofs.Call.Handling
import RelationGate.Proofs.Call.Orphans

/-!
# Where the tasks of a call come to a standstill

The tasks of a call are at a standstill when none of them can move before time goes on, the client
does something, or the backend has something new (`Aftermath.AtStandstill`). A task of the gateway
that cannot move waits for one of five things (`Call.Waits`), and a producer that cannot move waits
for the backend or for room in the results (`Lookup.produce_eq_none`). What is left of these at a
standstill depends on the clock and on the client.

* `Call.taskMove_eq_none`: what the task of the gateway waits for, whatever the handler is.
* `Aftermath.Serves.of_reachable`: what every streaming call of a gateway keeps.
* `AtStandstill.cleared`, `AtStandstill.in_time`, `AtStandstill.awaitsBackend`: what a standstill
  says of a canceled call, of a handler at work, and of a relay that waits.
* `Reachable.turns`: a schedule that is written out is one of the runs.
-/

namespace RelationGate

/-! ## What a producer waits for -/

namespace Lookup

variable {l l' : Lookup} {canceled : Bool} {now : Nat} {b : Backend}

/-- The producer waits for the backend: the opening is held up, or the open stream shows nothing. -/
inductive AwaitsBackend (l : Lookup) (now : Nat) : Prop where
  | opening (due : Nat) (hp : l.producing = .opening due) (hdue : now < due)
  | item (feed : Feed) (hp : l.producing = .pulling feed) (hnext : feed.pipe.next = .pending)

/-- A producer that waits for the backend has not exited. -/
theorem AwaitsBackend.hasExited (h : l.AwaitsBackend now) : l.hasExited = false := by
  cases h with
  | opening due hp hdue => rw [Lookup.hasExited, hp]
  | item feed hp hnext => rw [Lookup.hasExited, hp]

/-- **A producer that cannot move** has exited, or it is not canceled and waits for the backend or
for room in the results. -/
theorem produce_eq_none (h : l.produce now canceled b = none) :
    l.hasExited = true ∨ canceled = false ∧ (l.AwaitsBackend now ∨
      ∃ item, l.results.push item = .full) := by
  cases hp : l.producing with
  | created =>
    simp only [produce, hp] at h
    split at h
    · cases h
    · split at h
      · cases h
      · cases h
  | opening due =>
    simp only [produce, hp, advance, Option.map_eq_none_iff] at h
    split at h
    · cases h
    next hcanceled =>
      refine .inr ⟨by simpa using hcanceled, .inl (.opening due hp ?_)⟩
      by_contra hdue
      rw [if_pos (by omega)] at h
      cases h
  | pulling feed =>
    simp only [produce, hp, advance, Option.map_eq_none_iff] at h
    split at h
    · cases h
    split at h
    · cases h
    next hcanceled =>
      split at h
      · cases h
      · cases h
      · cases h
      next hnext => exact .inr ⟨by simpa using hcanceled, .inl (.item feed hp hnext)⟩
  | offering feed item =>
    simp only [produce, hp, advance, Option.map_eq_none_iff] at h
    split at h
    · cases h
    next hcanceled =>
      split at h
      · cases h
      next hfull => exact .inr ⟨by simpa using hcanceled, .inr ⟨item, hfull⟩⟩
      · cases h
  | settled state => exact .inl (by rw [hasExited, hp])
  | panicked => exact .inl (by rw [hasExited, hp])

/-- A move that the producer can make without anything new, it can make over any backend. -/
theorem produce_isSome (hm : l.advance canceled none = some l') :
    (l.produce now canceled b).isSome = true := by
  cases hp : l.producing with
  | created =>
    simp only [produce, hp]
    split
    · rfl
    split
    · rfl
    · rfl
  | opening due =>
    simp only [advance, hp] at hm
    split at hm
    next hcanceled => simp [produce, hp, advance, hcanceled]
    next => cases hm
  | pulling feed => simp [produce, hp, hm]
  | offering feed item => simp [produce, hp, hm]
  | settled state => simp [produce, hp, hm]
  | panicked => simp [produce, hp, hm]

end Lookup

/-! ## What the task of a call waits for -/

namespace Call

variable {c c' : Call} {s s' : Surroundings} {e : CallError} {frames : Channel Frame}

/-- **What a task that cannot move waits for**: nothing any more, a moment, the answer of the
backend, the next thing that the results show, or room for a frame. -/
inductive Waits (c : Call) (now : Nat) : Prop where
  | ended (hover : c.isOver = true)
  | asleep (ms : Nat) (next : Program) (due : Nat)
      (hp : c.progress = .handling (.sleep ms next) (some due)) (hdue : now < due)
  | answer (op : Operation) (next : Except BackendError op.Answer → Program) (due : Nat)
      (hp : c.progress = .handling (.perform op next) (some due)) (hdue : now < due)
  | results (l : Lookup) (hp : c.progress = .relaying none) (hl : c.lookup = some l)
      (hnext : l.results.next = .pending)
  | room (frames : Channel Frame) (hframes : c.conversation.outbound = .channel frames)
      (hpresent : frames.receiverGone = false) (hfull : frames.capacity ≤ frames.queue.length)
      (hat : c.isHandling = true ∨ ∃ e, c.progress = .reporting e)

/-- **The handler is held up**, and not by its client: it is asleep, or waits for the answer of the
backend, or relays a lookup whose producer waits for the backend. -/
inductive HeldUp (c : Call) (now : Nat) : Prop where
  | asleep (ms : Nat) (next : Program) (due : Nat)
      (hp : c.progress = .handling (.sleep ms next) (some due)) (hdue : now < due)
  | answer (op : Operation) (next : Except BackendError op.Answer → Program) (due : Nat)
      (hp : c.progress = .handling (.perform op next) (some due)) (hdue : now < due)
  | item (l : Lookup) (hp : c.progress = .relaying none) (hl : c.lookup = some l)
      (hwait : l.AwaitsBackend now)

theorem HeldUp.isHandling {now : Nat} (h : c.HeldUp now) : c.isHandling = true := by
  cases h with
  | asleep ms next due hp hdue => rw [Call.isHandling, hp]
  | answer op next due hp hdue => rw [Call.isHandling, hp]
  | item l hp hl hwait => rw [Call.isHandling, hp]

theorem isOver_of_isHandling (h : c.isHandling = true) : c.isOver = false := by
  unfold isHandling at h
  split at h
  next hp => rw [isOver, hp]
  next hp => rw [isOver, hp]
  next => cases h

theorem hasReturned_of_isOver (h : c.isOver = true) : c.hasReturned = true := by
  unfold isOver at h
  split at h
  next hp => rw [hasReturned, hp]
  next => cases h

theorem handle_eq_none {p : Program} {due : Option Nat} (hp : c.progress = .handling p due)
    (h : c.handle s p due = none) : c.Waits s.now := by
  cases handle_eq_none_iff.1 h with
  | room hfull =>
    obtain ⟨frames, hframes, hpresent, hroom⟩ := Conversation.send_eq_full hfull
    exact .room frames hframes hpresent hroom (.inl (by rw [isHandling, hp]))
  | answer hdue => exact .answer _ _ _ hp hdue
  | asleep hdue => exact .asleep _ _ _ hp hdue

theorem relay_eq_none {inHand : Option Json} (hp : c.progress = .relaying inHand)
    (h : c.relay s inHand = none) : c.Waits s.now := by
  cases relay_eq_none_iff.1 h with
  | room hfull =>
    obtain ⟨frames, hframes, hpresent, hroom⟩ := Conversation.send_eq_full hfull
    exact .room frames hframes hpresent hroom (.inl (by rw [isHandling, hp]))
  | results hlookup hnext => exact .results _ hp hlookup hnext

/-- **A task that cannot move** waits. -/
theorem taskMove_eq_none (h : c.taskMove s = none) : c.Waits s.now := by
  unfold taskMove at h
  split at h
  · cases h
  next p due hp => exact handle_eq_none hp h
  next inHand hp => exact relay_eq_none hp h
  next e hp =>
    rw [Option.map_eq_none_iff] at h
    obtain ⟨frames, hframes, hpresent, hfull⟩ := report_eq_none_iff.1 h
    exact .room frames hframes hpresent hfull (.inr ⟨e, hp⟩)
  next hp => exact .ended (by rw [isOver, hp])

/-! ## What a call of the gateway keeps -/

/-- A call of the gateway with a streamed reply: its handler has so many milliseconds, its reply may
be so many frames ahead and no more, and what it has yet to report is its result. -/
structure Serves (c : Call) (ms capacity : Nat) : Prop where
  timeout : c.timeout = some ms
  room : c.conversation.outbound.room? = some capacity
  fits : c.conversation.outbound.Fits
  reporting : ∀ e, c.progress = .reporting e → c.result = some (.finished (.error e))

namespace Serves

variable {ms capacity : Nat}

/-- The handler goes on, or nothing happens to the task at all. -/
theorem on (h : c.Serves ms capacity) (htimeout : c'.timeout = c.timeout)
    (hgoes : c.conversation.GoesOn c'.conversation) (hat : c'.isHandling = true) :
    c'.Serves ms capacity where
  timeout := htimeout.trans h.timeout
  room := hgoes.speaks.room.trans h.room
  fits := hgoes.speaks.fits h.fits
  reporting e hp := by
    rw [isHandling, hp] at hat
    cases hat

/-- The call goes back through its stages. -/
theorem finish (h : c.Serves ms capacity) (hguarded : c.guarded = true) (outcome : Outcome)
    (s : Surroundings) : (c.finish outcome s).1.Serves ms capacity := by
  have hstays := Stage.leaveAll_stays c.began c.entered outcome s c.conversation
  rw [finish_eq]
  generalize Stage.leaveAll c.began c.entered outcome s c.conversation = r at hstays
  obtain ⟨result, s₁, conversation⟩ := r
  have hroom : conversation.cancel.outbound.room? = some capacity :=
    (congrArg Outbound.room? hstays.outbound).trans h.room
  have hfits : conversation.cancel.outbound.Fits := by
    show conversation.outbound.Fits
    rw [hstays.outbound]
    exact h.fits
  obtain ⟨e, frames, hresult, -, hc⟩ | ⟨-, hc⟩ :=
    conclude_cases (c := { c with conversation }) hguarded result
  all_goals rw [hc]
  · refine ⟨h.timeout, hroom, hfits, fun e' hp => ?_⟩
    cases hp
    exact congrArg some hresult
  · exact ⟨h.timeout, (closeFrames_room _).trans hroom, closeFrames_fits hfits, nofun⟩

/-- Something changes about the call that has nothing to do with its task. -/
theorem aside (h : c.Serves ms capacity) (htimeout : c'.timeout = c.timeout)
    (hroom : c'.conversation.outbound.room? = c.conversation.outbound.room?)
    (hfits : c'.conversation.outbound.Fits)
    (hprogress : c'.progress = c.progress) (hresult : c'.result = c.result) :
    c'.Serves ms capacity where
  timeout := htimeout.trans h.timeout
  room := hroom.trans h.room
  fits := hfits
  reporting e hp := hresult.trans (h.reporting e (hprogress.symm.trans hp))

/-- **A move of the task.** -/
theorem taskMove (h : c.Serves ms capacity) (hguarded : c.guarded = true)
    (hm : c.taskMove s = some (c', s')) : c'.Serves ms capacity := by
  cases hhandling : c.isHandling with
  | true =>
    generalize hr : (c', s') = r at hm
    cases taskMove_fares hhandling hm with
    | out conversation lookup b outcome hconversation hway =>
      have hmid : Serves { c with conversation, lookup } ms capacity :=
        h.on rfl hconversation hhandling
      have hback := hmid.finish hguarded outcome { s with backend := b }
      rwa [← hr] at hback
    | on conversation lookup progress s₁ hconversation hat hmetrics =>
      cases hr
      exact h.on rfl hconversation hat
  | false =>
    unfold Call.taskMove at hm
    split at hm
    next hp =>
      obtain ⟨conversation, entered, s₁, hstays, hon | ⟨e, hback⟩⟩ := begin_stays c s
      · rw [hon] at hm
        cases hm
        exact h.on rfl hstays.goesOn rfl
      · have hspeaks := hstays.goesOn.speaks
        have hmid : Serves { c with entered, conversation, began := s₁.now } ms capacity :=
          ⟨h.timeout, hspeaks.room.trans h.room, hspeaks.fits h.fits, h.reporting⟩
        have hserves := hmid.finish hguarded (.finished (.error e)) s₁
        rw [hback, finishWith] at hm
        rwa [Option.some.inj hm] at hserves
    next p due hp => simp [isHandling, hp] at hhandling
    next inHand hp => simp [isHandling, hp] at hhandling
    next e hp =>
      obtain ⟨c'', hreport, heq⟩ := Option.map_eq_some_iff.1 hm
      cases heq
      cases report_move hreport with
      | kept | left => exact ⟨h.timeout, h.room, h.fits, fun _ he => by cases he⟩
      | told hframes hpresent hspace =>
        have hroom := h.room
        rw [hframes] at hroom
        refine ⟨h.timeout, hroom, ?_, fun _ he => by cases he⟩
        simp only [Outbound.Fits, Channel.Fits, List.length_append, List.length_singleton]
        omega
    next => cases hm

/-- **A handler that is given up.** -/
theorem giveUp (h : c.Serves ms capacity) (hguarded : c.guarded = true)
    (hhandling : c.isHandling = true) (ms' : Nat) (s : Surroundings) :
    (c.giveUp ms' s).1.Serves ms capacity := by
  have hmid : Serves { c with
      conversation := c.conversation.cancel, lookup := c.lookup.map Lookup.abandon } ms capacity :=
    h.on rfl c.conversation.stays_cancel.goesOn hhandling
  exact hmid.finish hguarded _ s

end Serves

end Call

namespace Aftermath

variable {a a' : Aftermath} {ms capacity : Nat} {e : CallError}

/-- **Every step keeps what a call of the gateway keeps.** -/
theorem Step.serves (hs : Step a a') (htidy : a.Tidy) (h : a.scene.call.Serves ms capacity) :
    a'.scene.call.Serves ms capacity := by
  cases hs with
  | scene hs =>
    cases hs with
    | task hm => exact h.taskMove htidy.guarded hm
    | deadline htimeout hhandling hlate => exact h.giveUp htidy.guarded hhandling _ _
    | produce hl hm | stream noticed hl hnoticed hm | breakdown words hl hm =>
      exact h.aside rfl rfl h.fits rfl rfl
    | others hs => exact h
    | cancel => exact h.aside rfl rfl h.fits rfl rfl
    | @read frames frames' frame hframes hpresent hr =>
      obtain ⟨rest, hqueue, rfl⟩ := Channel.receive_eq_got hr
      refine h.aside rfl (by rw [hframes]; rfl) ?_ rfl rfl
      have hfits := h.fits
      rw [hframes] at hfits
      show rest.length ≤ frames.capacity
      have hlength : frames.queue.length ≤ frames.capacity := hfits
      rw [hqueue, List.length_cons] at hlength
      omega
    | readEnd hframes hpresent hr => exact h
    | leave hframes => exact h.aside rfl (by rw [hframes]; rfl) (Nat.zero_le _) rfl rfl
  | producer came hl hm | upstream act hl hm => exact h.aside rfl rfl h.fits rfl rfl
  | orphan noticed ho hnoticed hm => exact h

theorem Serves.of_reachable (g : Gateway) (route : Route) (hkind : route.kind = .serverStreaming)
    (params : Json) (headers : Headers) (capacity : Nat) (shared : Surroundings)
    (h : Reachable (.start g route params headers capacity shared) a) :
    a.scene.call.Serves g.timeout (max capacity 1) := by
  have htidy := Tidy.start g route params headers capacity shared
  induction h with
  | refl =>
    rw [Aftermath.start, Scene.start, hkind]
    exact ⟨rfl, rfl, Nat.zero_le _, fun _ he => by cases he⟩
  | tail hreach hs ih => exact hs.serves (htidy.of_reachable hreach) ih

/-! ## The standstill -/

/-- **A standstill**: none of the tasks of the call can move. The handler, the deadline, the
producer, its stream, and the stream that was left behind, which may or may not have noticed that
their context is canceled. -/
structure AtStandstill (a : Aftermath) : Prop where
  task : a.scene.call.taskMove a.scene.shared = none
  deadline : a.scene.call.expire a.scene.shared = none
  producer : ∀ l, a.scene.call.lookup = some l →
    l.produce a.scene.shared.now a.scene.canceled a.scene.shared.backend = none
  stream : ∀ l, a.scene.call.lookup = some l → ∀ noticed,
    (noticed = true → a.scene.canceled = true) → l.feedMove a.scene.shared.now noticed = none
  orphan : ∀ f, a.orphan = some f → ∀ noticed, (noticed = true → a.isStopped = true) →
    f.move a.scene.shared.now noticed = none

/-- Nothing is left of the lookup of the call: its producer has exited and closed the results, and
the stream that it has left behind does not run. -/
structure Cleared (a : Aftermath) : Prop where
  producer : ∀ l, a.scene.call.lookup = some l →
    l.hasExited = true ∧ l.results.channel.senderGone = true
  stream : ∀ f, a.orphan = some f → f.running = false

/-- The client has left. -/
def clientGone (a : Aftermath) : Bool :=
  match a.scene.call.conversation.outbound with
  | .buffer _ => false
  | .channel frames => frames.receiverGone

namespace AtStandstill

theorem atRest (h : a.AtStandstill) : a.AtRest := by
  intro a' hs
  cases hs with
  | producer hl hm =>
    have hmoves : (Lookup.produce _ a.scene.shared.now _ a.scene.shared.backend).isSome = true :=
      Lookup.produce_isSome hm
    rw [h.producer _ hl] at hmoves
    cases hmoves
  | orphan noticed ho hnoticed hm =>
    rw [h.orphan _ ho noticed hnoticed] at hm
    cases hm

/-- At a standstill nothing is left of the lookup of a canceled call. -/
theorem cleared (h : a.AtStandstill) (htidy : a.Tidy) (hcanceled : a.scene.canceled = true) :
    a.Cleared := by
  obtain ⟨hproducer, hstream⟩ := h.atRest.cleared htidy hcanceled
  exact ⟨hproducer, hstream⟩

/-- At a standstill the time of no handler is up. -/
theorem in_time (h : a.AtStandstill) (htimeout : a.scene.call.timeout = some ms)
    (hhandling : a.scene.call.isHandling = true) :
    a.scene.shared.now < a.scene.call.began + ms := by
  by_contra hlate
  have hexpire := h.deadline
  simp [Call.expire, htimeout, hhandling, h.task] at hexpire
  omega

/-- A relay that waits for its results at a standstill waits for the backend: the call is not
canceled, and the producer is there. -/
theorem awaitsBackend (h : a.AtStandstill) (htidy : a.Tidy) {l : Lookup}
    (hl : a.scene.call.lookup = some l) (hnext : l.results.next = .pending) :
    a.scene.canceled = false ∧ l.AwaitsBackend a.scene.shared.now := by
  have hempty : l.results.channel.queue = [] ∧ l.results.channel.senderGone = false := by
    obtain ⟨-, hp⟩ | ⟨-, ⟨b, rest, -, hp⟩ | ⟨hqueue, ⟨hopen, -⟩ | ⟨-, ⟨e, -, hp⟩ | ⟨-, hp⟩⟩⟩⟩ :=
      l.results.next_cases
    all_goals first | exact ⟨hqueue, hopen⟩ | (rw [hp] at hnext; cases hnext)
  obtain hexited | ⟨hcanceled, hwait | ⟨item, hfull⟩⟩ := Lookup.produce_eq_none (h.producer l hl)
  · -- A producer that has exited has closed the results.
    have hclosed := htidy.closed l hl hexited
    rw [hempty.2] at hclosed
    cases hclosed
  · exact ⟨hcanceled, hwait⟩
  · have hroom := l.results.channel.positive
    unfold Pipe.push at hfull
    split at hfull
    · cases hfull
    next hsend =>
      have hlength := (Channel.send_eq_full hsend).2
      rw [hempty.1, List.length_nil] at hlength
      omega
    · cases hfull

end AtStandstill

/-! ## Schedules -/

/-- Whose turn it is in a schedule. -/
inductive Turn where
  | task
  | deadline
  | producer
  | stream
  /-- The clock goes on. -/
  | clock (ms : Nat)
  /-- The client leaves. -/
  | leave

/-- A turn is taken; who has to wait does nothing. -/
def take (a : Aftermath) : Turn → Aftermath
  | .task =>
    match a.scene.call.taskMove a.scene.shared with
    | none => a
    | some (c, s) => a.goOn { a.scene with
        call := c, shared := s, fault := a.scene.strike (a.scene.call.struck a.scene.shared) }
  | .deadline =>
    match a.scene.call.expire a.scene.shared with
    | none => a
    | some (c, s) => a.goOn { a.scene with call := c, shared := s, undisturbed := false }
  | .producer =>
    match a.scene.call.lookup with
    | none => a
    | some l =>
      match l.produce a.scene.shared.now a.scene.canceled a.scene.shared.backend with
      | none => a
      | some (l', b) => a.goOn { a.scene.withLookup l' with
          shared := { a.scene.shared with backend := b }
          opened := l.openedOn l' a.scene.opened a.scene.shared.backend.store
          fault := a.scene.strike (l.struck l' a.scene.shared.now a.scene.shared.backend) }
  | .stream =>
    match a.scene.call.lookup with
    | none => a
    | some l =>
      match l.feedMove a.scene.shared.now false with
      | none => a
      | some l' => a.goOn (a.scene.withLookup l')
  | .clock ms =>
    a.goOn { a.scene with shared := { a.scene.shared with now := a.scene.shared.now + ms } }
  | .leave =>
    match a.scene.call.conversation.outbound with
    | .buffer _ => a
    | .channel frames =>
      a.goOn { a.scene with
        call := a.scene.call.withFrames frames.closeReceiver, undisturbed := false }

/-- A turn is a step, or nothing. -/
theorem take_step (a : Aftermath) (turn : Turn) : a.take turn = a ∨ Step a (a.take turn) := by
  cases turn with
  | task =>
    simp only [take]
    split
    · exact .inl rfl
    next c s hm => exact .inr (.scene (.task hm))
  | deadline =>
    simp only [take]
    split
    · exact .inl rfl
    next c s hm => exact .inr (.scene (Scene.OwnStep.step (.expire hm)))
  | producer =>
    simp only [take]
    split
    · exact .inl rfl
    next l hl =>
      split
      · exact .inl rfl
      next l' b hm => exact .inr (.scene (.produce hl hm))
  | stream =>
    simp only [take]
    split
    · exact .inl rfl
    next l hl =>
      split
      · exact .inl rfl
      next l' hm => exact .inr (.scene (.stream false hl (fun h => by cases h) hm))
  | clock ms =>
    exact .inr (.scene (.others ⟨Nat.le_add_right _ _, List.prefix_rfl, rfl, rfl, rfl⟩))
  | leave =>
    simp only [take]
    split
    · exact .inl rfl
    next frames hframes => exact .inr (.scene (.leave hframes))

theorem Reachable.take {start : Aftermath} (h : Reachable start a) (turn : Turn) :
    Reachable start (a.take turn) := by
  rcases a.take_step turn with hstays | hs
  · rwa [hstays]
  · exact h.tail hs

/-- Turns that are taken one after the other. -/
theorem Reachable.turns {start : Aftermath} (h : Reachable start a) (schedule : List Turn) :
    Reachable start (schedule.foldl Aftermath.take a) := by
  induction schedule generalizing a with
  | nil => exact h
  | cons turn schedule ih => exact ih (h.take turn)

/-- Tells whether the tasks are at a standstill. -/
def isStill (a : Aftermath) : Bool :=
  (a.scene.call.taskMove a.scene.shared).isNone && (a.scene.call.expire a.scene.shared).isNone &&
    a.scene.call.lookup.all (fun l =>
      (l.produce a.scene.shared.now a.scene.canceled a.scene.shared.backend).isNone &&
        (l.feedMove a.scene.shared.now false).isNone &&
        (!a.scene.canceled || (l.feedMove a.scene.shared.now true).isNone)) &&
    a.orphan.all fun f => (f.move a.scene.shared.now false).isNone &&
      (!a.isStopped || (f.move a.scene.shared.now true).isNone)

theorem atStandstill_of_isStill (h : a.isStill = true) : a.AtStandstill := by
  simp only [isStill, Bool.and_eq_true, Option.isNone_iff_eq_none, Bool.or_eq_true,
    Bool.not_eq_true', Option.all_eq_true] at h
  obtain ⟨⟨⟨htask, hdeadline⟩, hlookup⟩, horphan⟩ := h
  refine ⟨htask, hdeadline, fun l hl => (hlookup l hl).1.1, fun l hl noticed hnoticed => ?_,
    fun f hf noticed hnoticed => ?_⟩
  · obtain ⟨⟨-, hquiet⟩, hcanceled⟩ := hlookup l hl
    cases noticed with
    | false => exact hquiet
    | true => simpa [hnoticed rfl] using hcanceled
  · obtain ⟨hquiet, hstopped⟩ := horphan f hf
    cases noticed with
    | false => exact hquiet
    | true => simpa [hnoticed rfl] using hstopped

end Aftermath

end RelationGate
