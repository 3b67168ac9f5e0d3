import Mathlib.Data.Option.Basic
import RelationGate.Proofs.Call.Scene

/-!
# What a call leaves running

A streaming call has two tasks in the background: the producer of its lookup, and the stream that
the producer has open at the backend. When the producer exits, it drops the stream and stops the
context that it was opened under; the task of the stream is left behind and has to notice.

An `Aftermath` is a scene beside the stream that has been left behind. In its steps the backend may
do whatever it likes: an opening comes back with anything or never, an open stream changes in any
way or never yields.

* `Call.taskMove_turns`: what a move of the task of a call does to its lookup.
* `Tidy`: a returned call is canceled, an exited producer has closed its end of the results, and
  only an exited producer has left a stream behind. Every step keeps it (`Tidy.step`).
* `TaskStep.decreases`: after the return, every step of the two tasks brings them nearer to rest.
* `no_orphan_producers`: whoever waits when the call has returned, waits for nothing that is left.
-/

namespace RelationGate

/-! ## The producer and its stream -/

namespace Lookup

variable {l l' : Lookup} {canceled : Bool} {came : Option (Reaction Feed)}

/-- The producer has exited. -/
def hasExited (l : Lookup) : Bool :=
  match l.producing with
  | .settled _ | .panicked => true
  | _ => false

/-- The stream that the producer has open. -/
def stream? (l : Lookup) : Option Feed :=
  match l.producing with
  | .pulling feed | .offering feed _ => some feed
  | _ => none

/-- What belongs to the producer: where it is, and whether it has left the results. -/
def producerSide (l : Lookup) : Producing × Bool := (l.producing, l.results.channel.senderGone)

/-- A move of the producer or of its stream: the producer had not exited; if it has now, its end of
the results is closed; and it drops its stream only when it exits. -/
structure Proceeds (l l' : Lookup) : Prop where
  live : l.hasExited = false
  closes : l'.hasExited = true → l'.results.channel.senderGone = true
  drops : l.stream?.isSome = true → l'.stream? = none → l'.hasExited = true

theorem settle_proceeds (hlive : l.hasExited = false) (state : LookupState) :
    l.Proceeds (l.settle state) :=
  ⟨hlive, fun _ => rfl, fun _ _ => rfl⟩

theorem fail_proceeds (hlive : l.hasExited = false) (e : BackendError) : l.Proceeds (l.fail e) :=
  ⟨hlive, fun _ => rfl, fun _ _ => rfl⟩

/-- A producer that goes on has not exited. -/
theorem proceeds_of_live (hlive : l.hasExited = false) (hlive' : l'.hasExited = false)
    (hstream : l.stream?.isSome = true → l'.stream?.isSome = true) : l.Proceeds l' := by
  refine ⟨hlive, fun h => ?_, fun h hnone => ?_⟩
  · rw [hlive'] at h
    cases h
  · have hsome := hstream h
    rw [hnone] at hsome
    cases hsome

theorem opened_proceeds (hlive : l.hasExited = false) (hstream : l.stream? = none)
    (r : Reaction Feed) : l.Proceeds (l.opened r) := by
  match r with
  | .panicked _ => exact ⟨hlive, fun _ => rfl, fun _ _ => rfl⟩
  | .answered (.error e) => exact fail_proceeds hlive e
  | .answered (.ok feed) =>
    refine proceeds_of_live hlive rfl fun h => ?_
    rw [hstream] at h
    cases h

/-- **A move of the producer**, whatever has come of opening the stream. -/
theorem advance_proceeds (hm : l.advance canceled came = some l') : l.Proceeds l' := by
  have hwaiting : l.hasExited = false → l.stream? = none →
      (if canceled then some (l.settle .canceled) else came.map l.opened) = some l' →
      l.Proceeds l' := fun hlive hstream h => by
    split at h
    · cases h
      exact settle_proceeds hlive _
    · obtain ⟨r, -, rfl⟩ := Option.map_eq_some_iff.1 h
      exact opened_proceeds hlive hstream r
  cases hp : l.producing with
  | created =>
    rw [advance, hp] at hm
    exact hwaiting (by rw [hasExited, hp]) (by rw [stream?, hp]) hm
  | opening due =>
    rw [advance, hp] at hm
    exact hwaiting (by rw [hasExited, hp]) (by rw [stream?, hp]) hm
  | pulling feed =>
    have hlive : l.hasExited = false := by rw [hasExited, hp]
    simp only [advance, hp] at hm
    split at hm
    · cases hm
      exact settle_proceeds hlive _
    split at hm
    · cases hm
      exact settle_proceeds hlive _
    split at hm
    · cases hm
      exact proceeds_of_live hlive rfl fun _ => rfl
    · cases hm
      exact fail_proceeds hlive _
    · cases hm
      exact settle_proceeds hlive _
    · cases hm
  | offering feed item =>
    have hlive : l.hasExited = false := by rw [hasExited, hp]
    simp only [advance, hp] at hm
    split at hm
    · cases hm
      exact settle_proceeds hlive _
    split at hm
    · cases hm
      exact proceeds_of_live hlive rfl fun _ => rfl
    · cases hm
    · cases hm
      exact settle_proceeds hlive _
  | settled state =>
    rw [advance, hp] at hm
    cases hm
  | panicked =>
    rw [advance, hp] at hm
    cases hm

/-- A canceled producer exits with its next move, and can make one unless it has exited. -/
theorem advance_canceled (hlive : l.hasExited = false) (came : Option (Reaction Feed)) :
    ∃ l', l.advance true came = some l' ∧ l'.hasExited = true := by
  cases hp : l.producing with
  | created => exact ⟨_, by rw [advance, hp]; rfl, rfl⟩
  | opening due => exact ⟨_, by rw [advance, hp]; rfl, rfl⟩
  | pulling feed =>
    cases hallows : l.limit.allows l.delivered with
    | false => exact ⟨_, by simp only [advance, hp, hallows]; rfl, rfl⟩
    | true => exact ⟨_, by simp only [advance, hp, hallows]; rfl, rfl⟩
  | offering feed item => exact ⟨_, by rw [advance, hp]; rfl, rfl⟩
  | settled state =>
    rw [hasExited, hp] at hlive
    cases hlive
  | panicked =>
    rw [hasExited, hp] at hlive
    cases hlive

/-- An act of the open stream does not concern the producer. -/
theorem onStream_proceeds {act : Feed → Option Feed} (hm : l.onStream act = some l') :
    l.Proceeds l' := by
  rw [onStream] at hm
  split at hm
  next feed hp =>
    obtain ⟨f, -, rfl⟩ := Option.map_eq_some_iff.1 hm
    exact proceeds_of_live (by rw [hasExited, hp]) rfl fun _ => rfl
  next feed item hp =>
    obtain ⟨f, -, rfl⟩ := Option.map_eq_some_iff.1 hm
    exact proceeds_of_live (by rw [hasExited, hp]) rfl fun _ => rfl
  next => cases hm

theorem produce_proceeds {now : Nat} {b b' : Backend}
    (hm : l.produce now canceled b = some (l', b')) : l.Proceeds l' := by
  obtain ⟨-, ⟨hp, due, rfl⟩ | ⟨came, -, hadvance⟩⟩ := produce_cases hm
  · refine proceeds_of_live (by rw [hasExited, hp]) rfl fun h => ?_
    rw [stream?, hp] at h
    cases h
  · exact advance_proceeds hadvance

end Lookup

/-- A stream whose consumer has left stops with its next move. -/
theorem Feed.move_of_left {f f' : Feed} {now : Nat} {noticed : Bool} (hleft : f.pipe.IsLeft)
    (hm : f.move now noticed = some f') :
    f.running = true ∧ f'.running = false ∧ f'.pipe.IsLeft := by
  rw [Feed.move] at hm
  split at hm
  · cases hm
  next hrunning =>
  refine ⟨by simpa using hrunning, ?_⟩
  split at hm
  · cases hm
    exact ⟨rfl, hleft⟩
  split at hm
  next item hitem =>
    split at hm
    · cases hm
    obtain ⟨-, hpush⟩ | ⟨hpresent, -⟩ := f.pipe.push_cases item
    · rw [hpush] at hm
      cases hm
      exact ⟨rfl, hleft⟩
    · exact absurd hleft hpresent
  next hnone =>
    split at hm
    · cases hm
      exact ⟨rfl, hleft⟩
    · cases hm
      exact ⟨rfl, hleft⟩
    · cases hm

/-! ## What the task of a call does to its lookup -/

namespace Call

variable {c c' : Call} {s s' : Surroundings}

/-- The stages have been passed on the way back: the call has its result. -/
def hasReturned (c : Call) : Bool :=
  match c.progress with
  | .reporting _ | .ended => true
  | _ => false

/-- The handler has not started a lookup yet. -/
def isEarly (c : Call) : Bool :=
  match c.progress with
  | .waiting | .handling _ _ => true
  | _ => false

/-- The call is canceled. -/
def isCanceled (c : Call) : Bool := c.conversation.context.canceled

/-- The producer of the lookup, if there is one, is where it was. -/
def SameProducer (c c' : Call) : Prop :=
  c'.lookup.map Lookup.producerSide = c.lookup.map Lookup.producerSide

/-- What a move of the task of a guarded call comes to. -/
inductive Turns (c : Call) : Call → Prop where
  /-- The handler goes on, and its lookup is only read from. -/
  | on {c' : Call} (hproducer : c.SameProducer c') (hresult : c'.result = c.result)
      (hguarded : c'.guarded = c.guarded) (hbefore : c.hasReturned = false)
      (hafter : c'.hasReturned = false) (hearly : c'.isEarly = true → c.isEarly = true) : Turns c c'
  /-- The handler starts a lookup, which is all that is left of it. -/
  | starts (query : StreamQuery) (limit : Limit) (buffer : Nat) (hearly : c.isEarly = true) :
      Turns c { c with lookup := some (.fresh query limit buffer), progress := .relaying none }
  /-- The call returns, and is canceled. -/
  | returns {c' : Call} (hproducer : c.SameProducer c') (hguarded : c'.guarded = true)
      (hreturned : c'.hasReturned = true) (hcanceled : c'.isCanceled = true)
      (hresult : c'.result.isSome = true) : Turns c c'
  /-- The failure of the call is reported, or nobody is left to take it. -/
  | reports {c' : Call} (hbefore : c.hasReturned = true) (hreturned : c'.hasReturned = true)
      (hlookup : c'.lookup = c.lookup) (hresult : c'.result = c.result)
      (hguarded : c'.guarded = c.guarded) (hcanceled : c'.isCanceled = c.isCanceled) : Turns c c'

theorem not_hasReturned_of_isEarly (h : c.isEarly = true) : c.hasReturned = false := by
  rw [isEarly] at h
  rw [hasReturned]
  split at h
  · simp [*]
  · simp [*]
  · cases h

theorem not_isEarly_of_hasReturned (h : c.hasReturned = true) : c.isEarly = false := by
  by_contra he
  rw [Bool.not_eq_false] at he
  rw [not_hasReturned_of_isEarly he] at h
  cases h

theorem closeFrames_context (conversation : Conversation) :
    (closeFrames conversation).context = conversation.context := by
  rw [closeFrames]
  split
  · rfl
  · rfl

theorem abandon_producerSide (lookup : Option Lookup) :
    (lookup.map Lookup.abandon).map Lookup.producerSide = lookup.map Lookup.producerSide := by
  cases lookup with
  | none => rfl
  | some l => rfl

/-- **A guarded call that returns is canceled**, whatever its outcome is. -/
theorem conclude_turns {conversation : Conversation} {lookup : Option Lookup} {entered : List Stage}
    {began : Nat} (hguarded : c.guarded = true) (hproducer : c.SameProducer { c with lookup })
    (outcome : Outcome) :
    c.Turns ({ c with conversation, lookup, entered, began }.conclude outcome) := by
  have hlookup := (abandon_producerSide lookup).trans hproducer
  rw [conclude, if_neg (by simp [hguarded])]
  simp only
  split
  · exact .returns hlookup hguarded rfl rfl rfl
  · refine .returns hlookup hguarded rfl ?_ rfl
    rw [isCanceled, closeFrames_context]
    rfl

theorem finish_turns {conversation : Conversation} {lookup : Option Lookup} {entered : List Stage}
    {began : Nat} (hguarded : c.guarded = true) (hproducer : c.SameProducer { c with lookup })
    (outcome : Outcome) (s : Surroundings) :
    c.Turns ({ c with conversation, lookup, entered, began }.finish outcome s).1 := by
  rw [finish_eq]
  exact conclude_turns hguarded hproducer _

/-- A handler that is given up. -/
theorem giveUp_turns (hguarded : c.guarded = true) (ms : Nat) (s : Surroundings) :
    c.Turns (c.giveUp ms s).1 :=
  finish_turns hguarded (abandon_producerSide c.lookup) _ s

/-- The handler goes on, and has not started a lookup. -/
theorem Turns.on_early (hearly : c.isEarly = true) (conversation : Conversation) (p : Program)
    (due : Option Nat) : c.Turns { c with conversation, progress := .handling p due } :=
  .on rfl rfl rfl (not_hasReturned_of_isEarly hearly) rfl fun _ => hearly

/-- **A move of the handler.** -/
theorem handle_turns {p : Program} {due : Option Nat} (hguarded : c.guarded = true)
    (hearly : c.isEarly = true) (hm : c.handle s p due = some (c', s')) : c.Turns c' := by
  have hmove := handle_move hm
  generalize hr : (c', s') = r at hmove
  cases hmove with
  | ends hends =>
    obtain rfl : c' = _ := congrArg Prod.fst hr
    exact finish_turns hguarded rfl _ _
  | heldUp hdue hheld =>
    cases hr
    exact .on_early hearly c.conversation p _
  | proceeds hproceeds =>
    cases hr
    exact .on_early hearly _ _ none
  | @relays query l hrelays hstart =>
    cases hr
    rw [Lookup.start_eq_ok hstart]
    exact .starts query _ _ hearly

/-- **A move of the relay** only takes from the results. -/
theorem relay_turns {inHand : Option Json} (hguarded : c.guarded = true)
    (hbefore : c.hasReturned = false) (hm : c.relay s inHand = some (c', s')) : c.Turns c' := by
  -- What the consumer takes leaves the other end of the results alone.
  have hlooked : ∀ {l x results}, c.lookup = some l → l.results.sight? = some (x, results) →
      c.SameProducer { c with lookup := some { l with results } } := fun hlookup hx => by
    rw [SameProducer, hlookup, Option.map_some, Option.map_some, Lookup.producerSide,
      Lookup.producerSide, (Pipe.sight?_same hx).2.1]
  have hmove := relay_move hm
  generalize hr : (c', s') = r at hmove
  cases hmove with
  | passed hsend =>
    cases hr
    exact .on rfl rfl rfl hbefore rfl fun h => Bool.noConfusion h
  | took hlookup hx =>
    cases hr
    exact .on (hlooked hlookup hx) rfl rfl hbefore rfl fun h => Bool.noConfusion h
  | stopped | idle =>
    obtain rfl : c' = _ := congrArg Prod.fst hr
    exact finish_turns hguarded rfl _ s
  | failed hlookup hx | ended hlookup hx =>
    obtain rfl : c' = _ := congrArg Prod.fst hr
    exact finish_turns hguarded (hlooked hlookup hx) _ s

theorem begin_turns (hguarded : c.guarded = true) (hearly : c.isEarly = true) (s : Surroundings) :
    c.Turns (c.begin s).1 := by
  rw [begin]
  generalize Stage.enterAll c.stages [] s c.conversation = r
  obtain ⟨admission, entered, s₁, conversation⟩ := r
  cases admission with
  | ok u => exact .on rfl rfl rfl (not_hasReturned_of_isEarly hearly) rfl fun _ => hearly
  | error e => exact finish_turns hguarded rfl _ s₁

/-- The report of a failure. -/
theorem report_turns {e : CallError} (hbefore : c.hasReturned = true)
    (hm : c.report e = some c') : c.Turns c' := by
  cases report_move hm with
  | _ => exact .reports hbefore rfl rfl rfl rfl rfl

/-- **A move of the task of a guarded call.** -/
theorem taskMove_turns (hguarded : c.guarded = true) (hm : c.taskMove s = some (c', s')) :
    c.Turns c' := by
  rw [taskMove] at hm
  split at hm
  next hp =>
    have hturns := begin_turns hguarded (by rw [isEarly, hp]) s
    rwa [Option.some.inj hm] at hturns
  next p due hp => exact handle_turns hguarded (by rw [isEarly, hp]) hm
  next inHand hp => exact relay_turns hguarded (by rw [hasReturned, hp]) hm
  next e hp =>
    obtain ⟨c'', hreport, heq⟩ := Option.map_eq_some_iff.1 hm
    cases heq
    exact report_turns (by rw [hasReturned, hp]) hreport
  next => cases hm

end Call

/-! ## The aftermath of a call -/

/-- A scene, and the stream that the producer has left behind at the backend. -/
structure Aftermath where
  scene : Scene
  orphan : Option Feed := none

namespace Aftermath

/-- A producer that no longer has its stream has dropped it. -/
def leftBehind (before after : Option Lookup) (orphan : Option Feed) : Option Feed :=
  match before.bind Lookup.stream?, after.bind Lookup.stream? with
  | some feed, none => some feed.abandon
  | _, _ => orphan

/-- The scene goes on. -/
def goOn (a : Aftermath) (sc : Scene) : Aftermath :=
  ⟨sc, leftBehind a.scene.call.lookup sc.call.lookup a.orphan⟩

/-- The context that the stream was opened under is canceled: with the call, or because the producer
has exited. -/
def isStopped (a : Aftermath) : Bool :=
  a.scene.canceled || a.scene.call.lookup.all Lookup.hasExited

/-- The aftermath of a call of a gateway that has just been made. -/
def start (g : Gateway) (route : Route) (params : Json) (headers : Headers) (capacity : Nat)
    (shared : Surroundings) : Aftermath :=
  { scene := .start g route params headers capacity shared }

/-- One act of somebody, over any backend. -/
inductive Step : Aftermath → Aftermath → Prop where
  /-- Somebody acts in the scene. -/
  | scene {a : Aftermath} {sc : Scene} (hs : Scene.Step a.scene sc) : Step a (a.goOn sc)
  /-- The producer moves; an opening has come back with anything, or not yet. -/
  | producer {a : Aftermath} {l l' : Lookup} (came : Option (Reaction Feed))
      (hl : a.scene.call.lookup = some l)
      (hm : l.advance a.scene.canceled came = some l') : Step a (a.goOn (a.scene.withLookup l'))
  /-- The open stream changes in any way. -/
  | upstream {a : Aftermath} {l l' : Lookup} (act : Feed → Option Feed)
      (hl : a.scene.call.lookup = some l) (hm : l.onStream act = some l') :
      Step a (a.goOn (a.scene.withLookup l'))
  /-- The stream that was left behind moves; it has noticed that its context is canceled, or not
  yet. -/
  | orphan {a : Aftermath} {f f' : Feed} (noticed : Bool) (ho : a.orphan = some f)
      (hnoticed : noticed = true → a.isStopped = true)
      (hm : f.move a.scene.shared.now noticed = some f') : Step a { a with orphan := some f' }

/-- What the acts can lead to. -/
inductive Reachable (start : Aftermath) : Aftermath → Prop where
  | refl : Reachable start start
  | tail {a a' : Aftermath} (h : Reachable start a) (hs : Step a a') : Reachable start a'

/-- A step of one of the two tasks in the background, without anything new from the backend. -/
inductive TaskStep : Aftermath → Aftermath → Prop where
  | producer {a : Aftermath} {l l' : Lookup} (hl : a.scene.call.lookup = some l)
      (hm : l.advance a.scene.canceled none = some l') :
      TaskStep a (a.goOn (a.scene.withLookup l'))
  | orphan {a : Aftermath} {f f' : Feed} (noticed : Bool) (ho : a.orphan = some f)
      (hnoticed : noticed = true → a.isStopped = true)
      (hm : f.move a.scene.shared.now noticed = some f') : TaskStep a { a with orphan := some f' }

/-- Neither of the two tasks can take a step. -/
def AtRest (a : Aftermath) : Prop := ∀ a', ¬ TaskStep a a'

variable {a a' : Aftermath} {sc : Scene} {l l' : Lookup} {c : Call}

theorem TaskStep.step (h : TaskStep a a') : Step a a' := by
  cases h with
  | producer hl hm => exact .producer none hl hm
  | orphan noticed ho hnoticed hm => exact .orphan noticed ho hnoticed hm

/-! ## What every step keeps -/

/-- What holds of every aftermath: only a call whose handler is through has a result, and it is
canceled; a lookup is only there once the handler has started it; a producer that has exited has
closed its end of the results; and only such a producer has left a stream behind, as its
consumer. -/
structure Tidy (a : Aftermath) : Prop where
  guarded : a.scene.call.guarded = true
  returned : a.scene.call.result.isSome = true → a.scene.call.hasReturned = true
  canceled : a.scene.call.hasReturned = true → a.scene.call.isCanceled = true
  early : a.scene.call.isEarly = true → a.scene.call.lookup = none
  closed : ∀ l, a.scene.call.lookup = some l →
    l.hasExited = true → l.results.channel.senderGone = true
  left : ∀ f, a.orphan = some f →
    f.pipe.IsLeft ∧ ∃ l, a.scene.call.lookup = some l ∧ l.hasExited = true

theorem Tidy.start (g : Gateway) (route : Route) (params : Json) (headers : Headers)
    (capacity : Nat) (shared : Surroundings) :
    (Aftermath.start g route params headers capacity shared).Tidy := by
  have hfresh : ∀ c : Call, c.guarded = true → c.result = none → c.progress = .waiting →
      c.lookup = none → Tidy ⟨{ call := c, shared }, none⟩ := fun c hguarded hresult hp hlookup =>
    { guarded := hguarded
      returned := fun h => by simp [hresult] at h
      canceled := fun h => by simp [Call.hasReturned, hp] at h
      early := fun _ => hlookup
      closed := fun l hl => by simp [hlookup] at hl
      left := fun f hf => by simp at hf }
  rw [Aftermath.start, Scene.start]
  refine hfresh _ ?_ ?_ ?_ ?_
  all_goals cases route.kind <;> rfl

theorem exists_of_sameProducer {c c' : Call} (h : c.SameProducer c') (hl : c'.lookup = some l') :
    ∃ l, c.lookup = some l ∧ l.producing = l'.producing ∧
      l.results.channel.senderGone = l'.results.channel.senderGone := by
  rw [Call.SameProducer, hl, Option.map_some] at h
  obtain ⟨l, hl, hside⟩ := Option.map_eq_some_iff.1 h.symm
  exact ⟨l, hl, congrArg Prod.fst hside, congrArg Prod.snd hside⟩

/-- As long as the producer stays where it is, it drops nothing. -/
theorem leftBehind_of_sameProducer {c c' : Call} (h : c.SameProducer c') (orphan : Option Feed) :
    leftBehind c.lookup c'.lookup orphan = orphan := by
  have hstream : c'.lookup.bind Lookup.stream? = c.lookup.bind Lookup.stream? := by
    cases hl' : c'.lookup with
    | none =>
      rw [Call.SameProducer, hl', Option.map_none, eq_comm, Option.map_eq_none_iff] at h
      rw [h]
    | some l' =>
      obtain ⟨l, hl, hproducing, -⟩ := exists_of_sameProducer h hl'
      rw [hl, Option.bind_some, Option.bind_some, Lookup.stream?, Lookup.stream?, hproducing]
  rw [leftBehind, hstream]
  cases c.lookup.bind Lookup.stream? with
  | none => rfl
  | some f => rfl

namespace Tidy

/-- The producer stays where it is, and something happens to the call. -/
theorem sameProducer (h : a.Tidy) (hproducer : a.scene.call.SameProducer sc.call)
    (hguarded : sc.call.guarded = true)
    (hreturned : sc.call.result.isSome = true → sc.call.hasReturned = true)
    (hcanceled : sc.call.hasReturned = true → sc.call.isCanceled = true)
    (hearly : sc.call.isEarly = true → a.scene.call.isEarly = true) : (a.goOn sc).Tidy where
  guarded := hguarded
  returned := hreturned
  canceled := hcanceled
  early he := by
    have hnone := h.early (hearly he)
    rw [Call.SameProducer, hnone, Option.map_none, Option.map_eq_none_iff] at hproducer
    exact hproducer
  closed l' hl' hexited := by
    obtain ⟨l, hl, hproducing, hgone⟩ := exists_of_sameProducer hproducer hl'
    rw [Lookup.hasExited, ← hproducing] at hexited
    exact hgone ▸ h.closed l hl hexited
  left f hf := by
    rw [goOn, leftBehind_of_sameProducer hproducer] at hf
    obtain ⟨hleft, l, hl, hexited⟩ := h.left f hf
    obtain ⟨l', hl', hproducing, -⟩ := exists_of_sameProducer hproducer.symm hl
    refine ⟨hleft, l', hl', ?_⟩
    rw [Lookup.hasExited, hproducing]
    exact hexited

/-- The task of the call moves, or its handler is given up. -/
theorem turn (h : a.Tidy) (hc : sc.call = c) (ht : a.scene.call.Turns c) : (a.goOn sc).Tidy := by
  cases ht with
  | on hproducer hresult hguarded hbefore hafter hearly =>
    subst hc
    refine h.sameProducer hproducer (hguarded.trans h.guarded) (fun hr => ?_) (fun hr => ?_) hearly
    · rw [hresult] at hr
      rw [h.returned hr] at hbefore
      cases hbefore
    · rw [hafter] at hr
      cases hr
  | starts query limit buffer hearly =>
    have hnone := h.early hearly
    refine ⟨?_, fun hr => ?_, fun hr => ?_, fun he => ?_, fun l hl hexited => ?_, fun f hf => ?_⟩
    · rw [goOn, hc]
      exact h.guarded
    · rw [goOn, hc] at hr
      have hbefore := Call.not_hasReturned_of_isEarly hearly
      rw [h.returned hr] at hbefore
      cases hbefore
    · rw [goOn, hc] at hr
      cases hr
    · rw [goOn, hc] at he
      cases he
    · rw [goOn, hc] at hl
      cases hl
      cases hexited
    · -- There was no lookup, so that no stream has been left behind.
      rw [goOn, leftBehind, hnone] at hf
      obtain ⟨-, l, hl, -⟩ := h.left f hf
      rw [hnone] at hl
      cases hl
  | returns hproducer hguarded hreturned hcanceled hresult =>
    subst hc
    refine h.sameProducer hproducer hguarded (fun _ => hreturned) (fun _ => hcanceled) fun he => ?_
    rw [Call.not_isEarly_of_hasReturned hreturned] at he
    cases he
  | reports hbefore hreturned hlookup hresult hguarded hcanceled =>
    subst hc
    refine h.sameProducer (congrArg _ hlookup) (hguarded.trans h.guarded) (fun _ => hreturned)
      (fun _ => hcanceled.trans (h.canceled hbefore)) fun he => ?_
    rw [Call.not_isEarly_of_hasReturned hreturned] at he
    cases he

/-- The producer or its stream moves. -/
theorem proceed (h : a.Tidy) (hl : a.scene.call.lookup = some l) (hp : l.Proceeds l')
    (hc : sc.call = { a.scene.call with lookup := some l' }) : (a.goOn sc).Tidy := by
  have hnone : a.orphan = none := Option.eq_none_iff_forall_not_mem.2 fun f hf => by
    obtain ⟨-, l₀, hl₀, hexited⟩ := h.left f hf
    obtain rfl := Option.some.inj (hl.symm.trans hl₀)
    rw [hp.live] at hexited
    cases hexited
  refine ⟨?_, fun hr => ?_, fun hr => ?_, fun he => ?_, fun l₁ hl₁ hexited => ?_, fun f hf => ?_⟩
  · rw [goOn, hc]
    exact h.guarded
  · rw [goOn, hc] at hr ⊢
    exact h.returned hr
  · rw [goOn, hc] at hr ⊢
    exact h.canceled hr
  · rw [goOn, hc] at he
    have hearly := h.early he
    rw [hl] at hearly
    cases hearly
  · rw [goOn, hc] at hl₁
    obtain rfl := Option.some.inj hl₁
    exact hp.closes hexited
  · rw [goOn, hc, leftBehind, hl, hnone] at hf
    simp only [Option.bind_some] at hf
    split at hf
    next feed hbefore hafter =>
      cases hf
      refine ⟨rfl, l', by rw [goOn, hc], hp.drops ?_ hafter⟩
      rw [hbefore, Option.isSome_some]
    next => cases hf

/-- Something happens beside the call, or to its conversation. -/
theorem aside (h : a.Tidy) {conversation : Conversation}
    (hc : sc.call = { a.scene.call with conversation })
    (hcanceled : a.scene.call.isCanceled = true → conversation.context.canceled = true) :
    (a.goOn sc).Tidy := by
  refine h.sameProducer ?_ ?_ (fun hr => ?_) (fun hr => ?_) fun he => ?_
  · rw [hc]
    rfl
  · rw [hc]
    exact h.guarded
  · rw [hc] at hr ⊢
    exact h.returned hr
  · rw [hc] at hr ⊢
    exact hcanceled (h.canceled hr)
  · rw [hc] at he
    exact he

/-- **Every step keeps the aftermath tidy.** -/
theorem step (h : a.Tidy) (hs : Step a a') : a'.Tidy := by
  cases hs with
  | scene hs =>
    cases hs with
    | task hm => exact h.turn rfl (Call.taskMove_turns h.guarded hm)
    | deadline htimeout hhandling hlate => exact h.turn rfl (Call.giveUp_turns h.guarded _ _)
    | produce hl hm => exact h.proceed hl (Lookup.produce_proceeds hm) rfl
    | stream noticed hl hnoticed hm => exact h.proceed hl (Lookup.onStream_proceeds hm) rfl
    | breakdown words hl hm => exact h.proceed hl (Lookup.onStream_proceeds hm) rfl
    | others hs => exact h.aside rfl id
    | cancel => exact h.aside rfl fun _ => rfl
    | read hframes hpresent hr => exact h.aside rfl id
    | readEnd hframes hpresent hr => exact h.aside rfl id
    | leave hframes => exact h.aside rfl id
  | producer came hl hm => exact h.proceed hl (Lookup.advance_proceeds hm) rfl
  | upstream act hl hm => exact h.proceed hl (Lookup.onStream_proceeds hm) rfl
  | orphan noticed ho hnoticed hm =>
    obtain ⟨hleft, hexited⟩ := h.left _ ho
    refine { h with left := fun f hf => ?_ }
    cases hf
    exact ⟨(Feed.move_of_left hleft hm).2.2, hexited⟩

theorem of_reachable {start : Aftermath} (h : start.Tidy) (hr : Reachable start a) : a.Tidy := by
  induction hr with
  | refl => exact h
  | tail _ hs ih => exact ih.step hs

/-- A returned call is canceled. -/
theorem canceled_of_result (h : a.Tidy) (hr : a.scene.call.result.isSome = true) :
    a.scene.canceled = true := h.canceled (h.returned hr)

end Tidy

/-- A call that has returned keeps its result. -/
theorem Step.result (hs : Step a a') (h : a.Tidy) (hr : a.scene.call.result.isSome = true) :
    a'.scene.call.result.isSome = true := by
  have hturn : ∀ {c : Call}, a.scene.call.Turns c → c.result.isSome = true := fun ht => by
    cases ht with
    | on hproducer hresult hguarded hbefore hafter hearly => rwa [hresult]
    | starts query limit buffer hearly => exact hr
    | returns hproducer hguarded hreturned hcanceled hresult => exact hresult
    | reports hbefore hreturned hlookup hresult hguarded hcanceled => rwa [hresult]
  cases hs with
  | scene hs =>
    cases hs with
    | task hm => exact hturn (Call.taskMove_turns h.guarded hm)
    | deadline htimeout hhandling hlate => exact hturn (Call.giveUp_turns h.guarded _ _)
    | _ => exact hr
  | _ => exact hr

theorem Reachable.result (hreach : Reachable a a') (h : a.Tidy)
    (hr : a.scene.call.result.isSome = true) : a'.scene.call.result.isSome = true := by
  induction hreach with
  | refl => exact hr
  | tail hbefore hs ih => exact hs.result (h.of_reachable hbefore) ih

/-! ## Coming to rest -/

/-- How far the two tasks are from rest, once the call is canceled. A producer that exits may leave
its stream behind. -/
def unrest (a : Aftermath) : Nat :=
  2 * (a.scene.call.lookup.any (!·.hasExited)).toNat + (a.orphan.any (·.running)).toNat

/-- **After the return, every step of the two tasks brings them nearer to rest.** -/
theorem TaskStep.decreases (hs : TaskStep a a') (h : a.Tidy)
    (hcanceled : a.scene.canceled = true) : a'.unrest < a.unrest := by
  cases hs with
  | @producer l l' hl hm =>
    have hlive := (Lookup.advance_proceeds hm).live
    obtain ⟨l₁, hm₁, hexited⟩ := Lookup.advance_canceled hlive none
    rw [hcanceled, hm₁] at hm
    obtain rfl := Option.some.inj hm
    have hbefore : 2 ≤ a.unrest := by simp [unrest, hl, hlive]
    have hafter : (a.goOn (a.scene.withLookup l₁)).unrest ≤ 1 := by
      simp [unrest, goOn, Scene.withLookup, hexited, Bool.toNat_le]
    omega
  | orphan noticed ho hnoticed hm =>
    obtain ⟨hrunning, hstopped, -⟩ := Feed.move_of_left (h.left _ ho).1 hm
    simp [unrest, ho, hrunning, hstopped]

theorem Tidy.atRest_of_unrest (h : a.Tidy) (hcanceled : a.scene.canceled = true)
    (hzero : a.unrest = 0) : a.AtRest := fun a' hs => by
  have hless := hs.decreases h hcanceled
  omega

/-- The two tasks of a call that has returned come to rest, in whatever order they move. -/
theorem comes_to_rest (h : a.Tidy) (hr : a.scene.call.result.isSome = true) :
    Acc (fun later earlier => TaskStep earlier later) a := by
  induction hn : a.unrest using Nat.strongRecOn generalizing a with
  | ind n ih =>
    refine .intro a fun a' hs => ?_
    have hless := hs.decreases h (h.canceled_of_result hr)
    rw [hn] at hless
    exact ih _ hless (h.step hs.step) (hs.step.result h hr) rfl

/-- At rest nothing of a canceled call is left. -/
theorem AtRest.cleared (hrest : a.AtRest) (h : a.Tidy) (hcanceled : a.scene.canceled = true) :
    (∀ l, a.scene.call.lookup = some l →
      l.hasExited = true ∧ l.results.channel.senderGone = true) ∧
        ∀ f, a.orphan = some f → f.running = false := by
  refine ⟨fun l hl => ?_, fun f hf => ?_⟩
  · have hexited : l.hasExited = true := by
      by_contra hlive
      rw [Bool.not_eq_true] at hlive
      obtain ⟨l', hm, -⟩ := Lookup.advance_canceled hlive none
      rw [← hcanceled] at hm
      exact hrest _ (.producer hl hm)
    exact ⟨hexited, h.closed l hl hexited⟩
  · by_contra hrunning
    rw [Bool.not_eq_false] at hrunning
    have hstopped : a.isStopped = true := by rw [isStopped, hcanceled, Bool.true_or]
    have hm : f.move a.scene.shared.now true = some f.stop := by
      rw [Feed.move, hrunning]
      rfl
    exact hrest _ (.orphan true hf (fun _ => hstopped) hm)

/-- **No orphan producers.** Take any call of any gateway, over any backend and with buffers of any
capacity, and any schedule. Once the call has returned through its stages, for whatever reason, it
is canceled. In every later state in which neither the producer of its lookup nor a stream that the
producer has left behind can take a step, the producer has exited, its end of the results is closed,
and the stream does not run any more. And the two tasks do come to rest: left to themselves, without
the clock, the client or the backend, they cannot go on for ever. -/
theorem no_orphan_producers (g : Gateway) (route : Route) (params : Json) (headers : Headers)
    (capacity : Nat) (shared : Surroundings)
    (h : Reachable (.start g route params headers capacity shared) a)
    (hreturned : a.scene.call.result.isSome = true) :
    ∀ a', Reachable a a' → a'.scene.canceled = true ∧
      (a'.AtRest →
        (∀ l, a'.scene.call.lookup = some l →
          l.hasExited = true ∧ l.results.channel.senderGone = true) ∧
        ∀ f, a'.orphan = some f → f.running = false) ∧
      Acc (fun later earlier => TaskStep earlier later) a' := by
  intro a' hlater
  have htidy := (Tidy.start g route params headers capacity shared).of_reachable h
  have htidy' := htidy.of_reachable hlater
  have hresult := hlater.result htidy hreturned
  have hcanceled := htidy'.canceled_of_result hresult
  exact ⟨hcanceled, fun hrest => hrest.cleared htidy' hcanceled, comes_to_rest htidy' hresult⟩

/-- The time of a handler is up while its producer has a stream open that has more to yield. The
producer and the stream that it leaves behind stop, and nothing of the call is left. -/
theorem no_orphan_producers_late :
    let g : Gateway := { routes := [], stages := Stage.standard false none, timeout := 0 }
    let viewer (id : String) : Relationship :=
      ⟨⟨"document", "readme"⟩, "viewer", ⟨⟨"user", id⟩, none⟩⟩
    let store : Store := { rows := [⟨0, viewer "ada"⟩, ⟨1, viewer "bob"⟩], nextNumber := 2 }
    let shared : Surroundings :=
      { unixTime := 0
        backend := { store, mint := fun n => ⟨toString n⟩ }
        traceIds := fun _ => "trace" }
    let params : Json := .obj [("filter", .obj [("resource_type", .str "document")])]
    let route : Route :=
      ⟨"permgate.v1.PermissionsService/ReadRelationships", .serverStreaming, Program.read⟩
    ∃ a a', Reachable (.start g route params {} 1 shared) a ∧
      a.scene.call.result.isSome = true ∧
      (∃ l, a.scene.call.lookup = some l ∧ l.hasExited = false ∧ l.stream?.isSome = true) ∧
      Reachable a a' ∧ a'.AtRest ∧
      (∃ l, a'.scene.call.lookup = some l ∧ l.hasExited = true ∧
        l.results.channel.senderGone = true) ∧
      ∃ f, a'.orphan = some f ∧ f.running = false := by
  intro g viewer store shared params route
  have h₀ : Reachable (.start g route params {} 1 shared) _ := .refl
  have h₁ := h₀.tail (.scene (.task rfl))
  have h₂ := h₁.tail (.scene (.task rfl))
  have h₃ := h₂.tail (.scene (.task rfl))
  have h₄ := h₃.tail (.scene (.produce rfl rfl))
  have h₅ := h₄.tail (.scene (.stream false rfl (fun h => h) rfl))
  have h₆ := h₅.tail (.scene (.deadline rfl rfl (Nat.zero_le _)))
  -- What follows is seen from the moment of the return.
  have hself : ∀ {start a : Aftermath}, Reachable start a → Reachable a a := fun _ => .refl
  have h₇ := (hself h₆).tail (TaskStep.step (.producer rfl rfl))
  have h₈ := h₇.tail (TaskStep.step (.orphan true rfl (fun _ => rfl) rfl))
  have htidy := ((Tidy.start g route params {} 1 shared).of_reachable h₆).of_reachable h₈
  have hrest := htidy.atRest_of_unrest rfl rfl
  obtain ⟨hlookup, horphan⟩ :=
    (no_orphan_producers g route params {} 1 shared h₆ rfl _ h₈).2.1 hrest
  exact ⟨_, _, h₆, rfl, ⟨_, rfl, rfl, rfl⟩, h₈, hrest, ⟨_, rfl, hlookup _ rfl⟩, _, rfl,
    horphan _ rfl⟩

end Aftermath

end RelationGate
