import RelationGate.Gateway.Server
import RelationGate.Proofs.Call.Moves
import RelationGate.Proofs.Flow.Snapshot

/-!
# A call among everything else

A scene is one call beside everything that may act on it: its own task, the deadline, the producer
of its lookup, the stream of the backend, the other calls, whoever cancels, and the client, who
reads, sees the end or leaves. `Scene.Step` lets them act in any order, so what holds of every
reachable scene holds of every schedule; in particular of the one that the gateway picks, whose
moves are steps of the scene of each of its calls (`World.move_step`).

A scene also keeps what has become of the call: the frames that the client has got, the store that
the stream was opened on, and the first fault of the backend that struck while the handler was at
work.
-/

namespace RelationGate

/-- The words of the fault that strikes the next move of the task of a call. -/
def Call.struck (c : Call) (s : Surroundings) : Option String :=
  match c.progress with
  | .handling (.perform op _) (some moment) =>
    if moment ≤ s.now then (s.backend.disturbance op.kind).panic else none
  | .handling (.perform op _) none =>
    if s.backend.delayOf op.kind = 0 then (s.backend.disturbance op.kind).panic else none
  | _ => none

namespace Call

variable {c : Call} {s : Surroundings} {p : Program} {due : Option Nat}

/-- Whatever strikes an operation that is asked for strikes the call. -/
theorem struck_of_asks {op : Operation} {next : Except BackendError op.Answer → Program}
    {b : Backend} (hp : c.progress = .handling (.perform op next) due) (h : s.Asks op due b) :
    c.struck s = (s.backend.disturbance op.kind).panic := by
  rw [struck, hp]
  cases h with
  | later hdue => exact if_pos hdue
  | atOnce hdelay => exact if_pos hdelay

/-- A handler that is struck breaks down. -/
theorem struck_of_ends {outcome : Outcome} {b : Backend} (hp : c.progress = .handling p due)
    (h : p.Ends s due outcome b) :
    c.struck s = none ∨ ∃ words, c.struck s = some words ∧ outcome = .panicked (some words) := by
  cases h with
  | @struck op next due b words hasks hpanic =>
    exact .inr ⟨words, (struck_of_asks hp hasks).trans hpanic, rfl⟩
  | _ => exact .inl (by rw [struck, hp])

/-- Nothing strikes a handler that is held up. -/
theorem struck_of_heldUp {moment : Nat} {b : Backend} (hp : c.progress = .handling p none)
    (h : p.HeldUp s moment b) : c.struck s = none := by
  rw [struck, hp]
  cases h with
  | perform hdelay => exact if_neg hdelay
  | sleep => rfl

/-- Nothing strikes a handler that goes on. -/
theorem struck_of_proceeds {p' : Program} {conversation : Conversation} {s' : Surroundings}
    (hp : c.progress = .handling p due) (h : p.Proceeds s c.conversation due p' conversation s') :
    c.struck s = none := by
  cases h with
  | denied hasks hpanic herror | performed hasks hpanic herror =>
    exact (struck_of_asks hp hasks).trans hpanic
  | _ => rw [struck, hp]

end Call

/-- A call, what it shares, and what has become of it. -/
structure Scene where
  call : Call
  shared : Surroundings
  /-- The frames that the client has got. -/
  received : List Frame := []
  /-- The client has seen the end of the frames. -/
  sawEnd : Bool := false
  /-- The store that the stream was opened on. -/
  opened : Option Store := none
  /-- The words of the first fault that struck while the handler was at work. -/
  fault : Option String := none
  /-- Nobody has canceled, the time was not up, and the client has not left. -/
  undisturbed : Bool := true

namespace Scene

/-- A call of a gateway that has just been made. A streamed reply may be so many frames ahead of its
client; `replyBuffer` is what the gateway allows. -/
def start (g : Gateway) (route : Route) (params : Json) (headers : Headers) (capacity : Nat)
    (shared : Surroundings) : Scene :=
  { call :=
      match route.kind with
      | .unary => g.newCall route params headers
      | .serverStreaming => (g.newCall route params headers).withFrames (.ofCapacity capacity)
    shared }

/-- The call is canceled. -/
def canceled (sc : Scene) : Bool := sc.call.conversation.context.canceled

/-- The first fault, when one may strike. -/
def strike (sc : Scene) (words : Option String) : Option String :=
  sc.fault.or (if sc.call.isHandling then words else none)

/-- The scene with the lookup of the call replaced. -/
def withLookup (sc : Scene) (l : Lookup) : Scene :=
  { sc with call := { sc.call with lookup := some l } }

/-- One act of somebody. -/
inductive Step : Scene → Scene → Prop where
  /-- The task of the call moves. -/
  | task {sc : Scene} {c : Call} {s : Surroundings}
      (hm : sc.call.taskMove sc.shared = some (c, s)) :
      Step sc { sc with
        call := c, shared := s, fault := sc.strike (sc.call.struck sc.shared) }
  /-- The time of the handler is up. -/
  | deadline {sc : Scene} {ms : Nat} (htimeout : sc.call.timeout = some ms)
      (hhandling : sc.call.isHandling = true) (hlate : sc.call.began + ms ≤ sc.shared.now) :
      Step sc { sc with
        call := (sc.call.giveUp ms sc.shared).1, shared := (sc.call.giveUp ms sc.shared).2
        undisturbed := false }
  /-- The producer moves. -/
  | produce {sc : Scene} {l l' : Lookup} {b : Backend} (hl : sc.call.lookup = some l)
      (hm : l.produce sc.shared.now sc.canceled sc.shared.backend = some (l', b)) :
      Step sc { sc.withLookup l' with
        shared := { sc.shared with backend := b }
        opened := l.openedOn l' sc.opened sc.shared.backend.store
        fault := sc.strike (l.struck l' sc.shared.now sc.shared.backend) }
  /-- The stream moves; it has noticed the cancellation, or not yet. -/
  | stream {sc : Scene} {l l' : Lookup} (noticed : Bool) (hl : sc.call.lookup = some l)
      (hnoticed : noticed = true → sc.canceled = true)
      (hm : l.feedMove sc.shared.now noticed = some l') : Step sc (sc.withLookup l')
  /-- A fault brings the stream down. -/
  | breakdown {sc : Scene} {l l' : Lookup} (words : String) (hl : sc.call.lookup = some l)
      (hm : l.breakStream = some l') :
      Step sc { sc.withLookup l' with fault := sc.strike (some words) }
  /-- Other calls move, the clock goes on, the backend is switched. -/
  | others {sc : Scene} {s : Surroundings} (h : sc.shared.Evolves s) :
      Step sc { sc with shared := s }
  | cancel {sc : Scene} :
      Step sc { sc with
        call := { sc.call with conversation := sc.call.conversation.cancel }, undisturbed := false }
  /-- The client reads a frame. -/
  | read {sc : Scene} {frames frames' : Channel Frame} {frame : Frame}
      (hframes : sc.call.conversation.outbound = .channel frames)
      (hpresent : frames.receiverGone = false)
      (hr : frames.receive = .got frame frames') :
      Step sc { sc with call := sc.call.withFrames frames', received := sc.received ++ [frame] }
  /-- The client sees the end. -/
  | readEnd {sc : Scene} {frames : Channel Frame}
      (hframes : sc.call.conversation.outbound = .channel frames)
      (hpresent : frames.receiverGone = false)
      (hr : frames.receive = .ended) : Step sc { sc with sawEnd := true }
  /-- The client leaves. -/
  | leave {sc : Scene} {frames : Channel Frame}
      (hframes : sc.call.conversation.outbound = .channel frames) :
      Step sc { sc with call := sc.call.withFrames frames.closeReceiver, undisturbed := false }

/-- A step of the call, or of somebody who is there for it. It is only given up where it has to
wait. -/
inductive OwnStep : Scene → Scene → Prop where
  | task {sc : Scene} {c : Call} {s : Surroundings}
      (hm : sc.call.taskMove sc.shared = some (c, s)) :
      OwnStep sc { sc with
        call := c, shared := s, fault := sc.strike (sc.call.struck sc.shared) }
  | expire {sc : Scene} {c : Call} {s : Surroundings}
      (hm : sc.call.expire sc.shared = some (c, s)) :
      OwnStep sc { sc with call := c, shared := s, undisturbed := false }
  | produce {sc : Scene} {l l' : Lookup} {b : Backend} (hl : sc.call.lookup = some l)
      (hm : l.produce sc.shared.now sc.canceled sc.shared.backend = some (l', b)) :
      OwnStep sc { sc.withLookup l' with
        shared := { sc.shared with backend := b }
        opened := l.openedOn l' sc.opened sc.shared.backend.store
        fault := sc.strike (l.struck l' sc.shared.now sc.shared.backend) }
  | stream {sc : Scene} {l l' : Lookup} (noticed : Bool) (hl : sc.call.lookup = some l)
      (hnoticed : noticed = true → sc.canceled = true)
      (hm : l.feedMove sc.shared.now noticed = some l') : OwnStep sc (sc.withLookup l')
  | breakdown {sc : Scene} {l l' : Lookup} (words : String) (hl : sc.call.lookup = some l)
      (hm : l.breakStream = some l') :
      OwnStep sc { sc.withLookup l' with fault := sc.strike (some words) }
  | cancel {sc : Scene} :
      OwnStep sc { sc with
        call := { sc.call with conversation := sc.call.conversation.cancel }, undisturbed := false }
  | read {sc : Scene} {frames frames' : Channel Frame} {frame : Frame}
      (hframes : sc.call.conversation.outbound = .channel frames)
      (hpresent : frames.receiverGone = false)
      (hr : frames.receive = .got frame frames') :
      OwnStep sc { sc with call := sc.call.withFrames frames', received := sc.received ++ [frame] }
  | readEnd {sc : Scene} {frames : Channel Frame}
      (hframes : sc.call.conversation.outbound = .channel frames)
      (hpresent : frames.receiverGone = false)
      (hr : frames.receive = .ended) : OwnStep sc { sc with sawEnd := true }
  | leave {sc : Scene} {frames : Channel Frame}
      (hframes : sc.call.conversation.outbound = .channel frames) :
      OwnStep sc { sc with call := sc.call.withFrames frames.closeReceiver, undisturbed := false }

theorem OwnStep.step (hs : OwnStep sc sc') : Step sc sc' := by
  cases hs with
  | task hm => exact .task hm
  | expire hm =>
    obtain ⟨ms, htimeout, hhandling, hlate, -, heq⟩ := Call.expire_cases hm
    have hstep := Step.deadline htimeout hhandling hlate
    rwa [← heq] at hstep
  | produce hl hm => exact .produce hl hm
  | stream noticed hl hnoticed hm => exact .stream noticed hl hnoticed hm
  | breakdown words hl hm => exact .breakdown words hl hm
  | cancel => exact .cancel
  | read hframes hpresent hr => exact .read hframes hpresent hr
  | readEnd hframes hpresent hr => exact .readEnd hframes hpresent hr
  | leave hframes => exact .leave hframes

/-- What the acts can lead to. -/
inductive Reachable (start : Scene) : Scene → Prop where
  | refl : Reachable start start
  | tail {sc sc' : Scene} (h : Reachable start sc) (hs : Step sc sc') : Reachable start sc'

theorem strike_none (sc : Scene) : sc.strike none = sc.fault := by
  rw [strike, ite_self, Option.or_none]

theorem strike_of_not_isHandling {sc : Scene} {words : Option String}
    (hover : sc.call.isHandling = false) : sc.strike words = sc.fault := by
  rw [strike, hover, if_neg Bool.false_ne_true, Option.or_none]

/-- A fault on record stays there. -/
theorem fault_eq_none_of_step {sc sc' : Scene} (hs : Step sc sc') (hcalm : sc'.fault = none) :
    sc.fault = none := by
  cases hs with
  | task | produce | breakdown => exact (Option.or_eq_none_iff.1 hcalm).1
  | _ => exact hcalm

/-- If no fault is on record, none has struck while the handler was at work. -/
theorem eq_none_of_strike {sc : Scene} {words : Option String}
    (hhandling : sc.call.isHandling = true) (hcalm : sc.strike words = none) : words = none := by
  rw [strike, hhandling, if_pos rfl] at hcalm
  exact (Option.or_eq_none_iff.1 hcalm).2

end Scene

/-! ## The moves of the gateway are steps -/

namespace Call

variable {c c' : Call} {s s' : Surroundings}

theorem produce_evolves {l l' : Lookup} {b : Backend} {canceled : Bool}
    (hm : l.produce s.now canceled s.backend = some (l', b)) :
    s.Evolves { s with backend := b } := by
  obtain ⟨rfl | ⟨issued, rfl⟩, -⟩ := Lookup.produce_cases hm
  · exact .of_backend rfl rfl
  · exact .of_backend rfl rfl

theorem lookupMove_evolves (hm : c.lookupMove s = some (c', s')) : s.Evolves s' := by
  rw [lookupMove] at hm
  split at hm
  · cases hm
  next l hl =>
    obtain ⟨⟨l', b⟩, hmove, heq⟩ := Option.map_eq_some_iff.1 hm
    cases heq
    rw [Lookup.move] at hmove
    split at hmove
    · cases hmove
      exact .of_backend rfl rfl
    · exact produce_evolves hmove

theorem move_evolves (hm : c.move s = some (c', s')) : s.Evolves s' := by
  rw [move] at hm
  split at hm
  next r hr =>
    cases hm
    exact lookupMove_evolves hr
  next => exact taskMove_evolves hm

theorem expire_evolves (hm : c.expire s = some (c', s')) : s.Evolves s' := by
  obtain ⟨ms, -, -, -, -, heq⟩ := expire_cases hm
  have h := c.giveUp_evolves ms s
  rwa [← heq] at h

/-- What a call does of itself is a step of its scene. -/
theorem move_own {sc : Scene} (hm : sc.call.move sc.shared = some (c', s')) :
    ∃ sc', Scene.OwnStep sc sc' ∧ sc'.call = c' ∧ sc'.shared = s' := by
  rw [move] at hm
  split at hm
  next r hr =>
    cases hm
    rw [lookupMove] at hr
    split at hr
    · cases hr
    next l hl =>
      obtain ⟨⟨l', b⟩, hmove, heq⟩ := Option.map_eq_some_iff.1 hr
      cases heq
      rw [Lookup.move] at hmove
      split at hmove
      next l'' hfeed =>
        cases hmove
        exact ⟨_, .stream _ hl (fun h => h) hfeed, rfl, rfl⟩
      next => exact ⟨_, .produce hl hmove, rfl, rfl⟩
  next => exact ⟨_, .task hm, rfl, rfl⟩

end Call

namespace World

variable {step : Call → Surroundings → Option (Call × Surroundings)} {s s' : Surroundings}
  {calls calls' : List Call}

/-- One call moves, and the others stay as they are. -/
theorem moveFirst_eq_some (h : moveFirst step s calls = some (calls', s')) :
    ∃ i c c', calls[i]? = some c ∧ step c s = some (c', s') ∧ calls' = calls.set i c' := by
  induction calls generalizing calls' with
  | nil => cases h
  | cons c rest ih =>
    rw [moveFirst] at h
    split at h
    next c' s₁ hstep =>
      cases h
      exact ⟨0, c, c', rfl, hstep, rfl⟩
    next =>
      obtain ⟨⟨rest', s₁⟩, hrest, heq⟩ := Option.map_eq_some_iff.1 h
      cases heq
      obtain ⟨i, c₁, c', hi, hstep, rfl⟩ := ih hrest
      exact ⟨i + 1, c₁, c', hi, hstep, rfl⟩

/-- A move of the gateway is made by one call, in time or because its time is up. -/
theorem move_cases {w w' : World} (hm : w.move = some w') :
    ∃ j c c', w.calls[j]? = some c ∧ w'.calls = w.calls.set j c' ∧
      (c.expire w.surroundings = some (c', w'.surroundings) ∨
        c.move w.surroundings = some (c', w'.surroundings)) := by
  obtain ⟨⟨calls', s'⟩, hmove, rfl⟩ := Option.map_eq_some_iff.1 hm
  cases hexpire : moveFirst Call.expire w.surroundings w.calls with
  | some r =>
    rw [hexpire] at hmove
    cases hmove
    obtain ⟨j, c, c', hj, hstep, hcalls⟩ := moveFirst_eq_some hexpire
    exact ⟨j, c, c', hj, hcalls, .inl hstep⟩
  | none =>
    rw [hexpire] at hmove
    obtain ⟨j, c, c', hj, hstep, hcalls⟩ := moveFirst_eq_some hmove
    exact ⟨j, c, c', hj, hcalls, .inr hstep⟩

/-- **A move of the gateway**, as one of its calls sees it: it is a step of its own, or a move of
another call, in time or because its time is up. -/
theorem move_own_or_other {w w' : World} (hm : w.move = some w') {i : Nat} {sc : Scene}
    (hi : w.calls[i]? = some sc.call) (hs : w.surroundings = sc.shared) :
    (∃ sc', Scene.OwnStep sc sc' ∧ w'.calls[i]? = some sc'.call ∧ w'.surroundings = sc'.shared) ∨
      w'.calls[i]? = some sc.call ∧ ∃ c c' : Call, c.expire sc.shared = some (c', w'.surroundings) ∨
        c.move sc.shared = some (c', w'.surroundings) := by
  obtain ⟨j, c, c', hj, hcalls, hmoved⟩ := move_cases hm
  rw [hs] at hmoved
  by_cases hji : j = i
  · subst hji
    obtain rfl : c = sc.call := Option.some.inj (hj.symm.trans hi)
    obtain ⟨sc', hsc', rfl, hshared⟩ : ∃ sc', Scene.OwnStep sc sc' ∧ sc'.call = c' ∧
        sc'.shared = w'.surroundings := by
      rcases hmoved with hexpire | hmove
      · exact ⟨_, .expire hexpire, rfl, rfl⟩
      · exact Call.move_own hmove
    refine .inl ⟨sc', hsc', ?_, hshared.symm⟩
    rw [hcalls, List.getElem?_set_self (List.getElem?_eq_some_iff.1 hj).1]
  · refine .inr ⟨?_, c, c', hmoved⟩
    rw [hcalls, List.getElem?_set_ne hji, hi]

/-- **Every move of the gateway is a step of the scene of each of its calls.** -/
theorem move_step {w w' : World} (hm : w.move = some w') {i : Nat} {sc : Scene}
    (hi : w.calls[i]? = some sc.call) (hs : w.surroundings = sc.shared) :
    ∃ sc', Scene.Step sc sc' ∧ w'.calls[i]? = some sc'.call ∧ w'.surroundings = sc'.shared := by
  obtain ⟨sc', hstep, hcall, hshared⟩ | ⟨hcall, c, c', hmoved⟩ := move_own_or_other hm hi hs
  · exact ⟨sc', hstep.step, hcall, hshared⟩
  · have hevolves : sc.shared.Evolves w'.surroundings := by
      rcases hmoved with hexpire | hmove
      · exact Call.expire_evolves hexpire
      · exact Call.move_evolves hmove
    exact ⟨_, .others hevolves, hcall, rfl⟩

end World

end RelationGate
