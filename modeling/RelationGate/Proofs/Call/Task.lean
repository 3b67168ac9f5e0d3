import RelationGate.Proofs.Call.Stages
import RelationGate.Proofs.Flow.Pipe
import RelationGate.Proofs.Store.History
import RelationGate.Call.Machine

/-!
# The moves of the task of a call

Everything that the next move of the task of a call can come to, each with the conditions under
which it does.

* `handle_iff`: the program of a handler ends (`Program.Ends`), is held up until a moment
  (`Program.HeldUp`), gets what it asks for and goes on (`Program.Proceeds`), or starts the lookup
  that it relays. A handler that makes no move waits for one of three things (`handle_eq_none_iff`).
* `relay_iff`, `relay_eq_none_iff`: the same of a handler that relays its lookup.
* `report_iff`, `report_eq_none_iff`: the same of a failure that is to be reported.

What a move does to the conversation and to what calls share is read off here once, whatever the
program is about; the analyses of the task of a call start from these lemmas and not from the
program.
-/

namespace RelationGate

/-! ## What is asked of the backend -/

/-- The backend is asked for an operation now, and is this one by then: one that was held up had
been noted before, and one that nothing holds up is noted at once. -/
inductive Surroundings.Asks (s : Surroundings) (op : Operation) : Option Nat → Backend → Prop where
  | later {moment : Nat} (hdue : moment ≤ s.now) : Asks s op (some moment) s.backend
  | atOnce (hdelay : s.backend.delayOf op.kind = 0) :
      Asks s op none (s.backend.note (.single op))

namespace Surroundings.Asks

variable {s : Surroundings} {op : Operation} {due : Option Nat} {b : Backend}

/-- At most a note has been added. -/
theorem acts (h : s.Asks op due b) : ∃ acts, b = s.backend.after acts := by
  cases h with
  | later hdue => exact ⟨[], rfl⟩
  | atOnce hdelay => exact ⟨[.note (.single op)], rfl⟩

/-- What disturbs the operation is as it was. -/
theorem disturbance (h : s.Asks op due b) : b.disturbance = s.backend.disturbance := by
  cases h with
  | _ => rfl

/-- An operation that nothing disturbs is performed. -/
theorem react (h : s.Asks op due b) (hpanic : (s.backend.disturbance op.kind).panic = none)
    (herror : (s.backend.disturbance op.kind).error = none) :
    b.react op = (.answered (b.perform op).1, (b.perform op).2) :=
  Backend.react_eq_perform (by rw [h.disturbance, hpanic]) (by rw [h.disturbance, herror])

/-- Notes apart, the backend is as it was. -/
theorem journal (h : s.Asks op due b) : ∃ journal, b = { s.backend with journal } := by
  cases h with
  | later hdue => exact ⟨s.backend.journal, rfl⟩
  | atOnce hdelay => exact ⟨_, rfl⟩

theorem store (h : s.Asks op due b) : b.store = s.backend.store := by
  cases h with
  | _ => rfl

end Surroundings.Asks

/-- A lookup that has been started. -/
theorem Lookup.start_eq_ok {settings : LookupSettings} {query : StreamQuery} {l : Lookup}
    (h : Lookup.start settings query = .answered (.ok l)) :
    l = .fresh query (settings.limits.resolve query) settings.buffer := by
  unfold Lookup.start at h
  split at h
  · cases h
  · split at h
    · cases h
    · cases h
      rfl

/-! ## What is sent -/

namespace Conversation

variable {c c' : Conversation} {message : Json} {outcome : Except CallError Unit}

/-- What becomes of a message that is sent: it joins those that are kept, or the frames take it; or
it goes nowhere, as the call is canceled or the client has left. -/
inductive Sends (c : Conversation) (message : Json) :
    Except CallError Unit → Conversation → Prop where
  | kept {sent : List Json} (houtbound : c.outbound = .buffer sent) :
      Sends c message (.ok ()) { c with outbound := .buffer (sent ++ [message]) }
  | passed {frames : Channel Frame} (houtbound : c.outbound = .channel frames)
      (hgoing : c.context.canceled = false) (hpresent : frames.receiverGone = false)
      (hroom : frames.queue.length < frames.capacity) :
      Sends c message (.ok ())
        { c with outbound := .channel { frames with queue := frames.queue ++ [.ok message] } }
  | canceled {frames : Channel Frame} (houtbound : c.outbound = .channel frames)
      (hcanceled : c.context.canceled = true) :
      Sends c message (.error (.canceled "call canceled")) c
  | left {frames : Channel Frame} (houtbound : c.outbound = .channel frames)
      (hgoing : c.context.canceled = false) (hleft : frames.receiverGone = true) :
      Sends c message (.error (.canceled "client went away")) c

theorem sends_of_send (h : c.send message = .settled outcome c') : c.Sends message outcome c' := by
  unfold send at h
  split at h
  next sent houtbound =>
    cases h
    exact .kept houtbound
  next frames houtbound =>
    split at h
    next hcanceled =>
      cases h
      exact .canceled houtbound hcanceled
    next hgoing =>
      rw [Bool.not_eq_true] at hgoing
      obtain ⟨hleft, hsend⟩ | ⟨hpresent, hsend | hsend⟩ := frames.send_cases (.ok message)
      all_goals rw [hsend] at h; cases h
      · exact .left houtbound hgoing hleft
      · exact .passed houtbound hgoing hpresent (Channel.send_eq_taken hsend).2.1

/-- A message that finds no room. -/
theorem send_eq_full (h : c.send message = .full) : ∃ frames, c.outbound = .channel frames ∧
    frames.receiverGone = false ∧ frames.capacity ≤ frames.queue.length := by
  unfold send at h
  split at h
  · cases h
  next frames houtbound =>
    split at h
    · cases h
    split at h
    · cases h
    · cases h
    next hfull => exact ⟨frames, houtbound, Channel.send_eq_full hfull⟩

/-- A message joins those of a reply that is kept. -/
theorem send_kept {sent : List Json} (h : c.outbound = .buffer sent) (message : Json) :
    c.send message = .settled (.ok ()) { c with outbound := .buffer (sent ++ [message]) } := by
  rw [send, h]

end Conversation

/-! ## What becomes of a program -/

namespace Program

/-- A program ends so, and leaves this backend. -/
inductive Ends (s : Surroundings) : Program → Option Nat → Outcome → Backend → Prop where
  | done {outcome : Except CallError Unit} {due : Option Nat} :
      Ends s (.done outcome) due (.finished outcome) s.backend
  | panic {words : Option String} {due : Option Nat} :
      Ends s (.panic words) due (.panicked words) s.backend
  | struck {op : Operation} {next : Except BackendError op.Answer → Program} {due : Option Nat}
      {b : Backend} {words : String} (hasks : s.Asks op due b)
      (hpanic : (s.backend.disturbance op.kind).panic = some words) :
      Ends s (.perform op next) due (.panicked (some words)) b
  | unmade {query : StreamQuery} {due : Option Nat} {words : String}
      (hstart : Lookup.start s.settings query = .panicked words) :
      Ends s (.relay query) due (.panicked (some words)) s.backend
  | refused {query : StreamQuery} {due : Option Nat} {e : BackendError}
      (hstart : Lookup.start s.settings query = .answered (.error e)) :
      Ends s (.relay query) due (.finished (.error (.ofBackend e))) s.backend

/-- A program is held up until a moment, beside this backend. -/
inductive HeldUp (s : Surroundings) : Program → Nat → Backend → Prop where
  | perform {op : Operation} {next : Except BackendError op.Answer → Program}
      (hdelay : s.backend.delayOf op.kind ≠ 0) :
      HeldUp s (.perform op next) (s.now + s.backend.delayOf op.kind)
        (s.backend.note (.single op))
  | sleep {ms : Nat} {next : Program} : HeldUp s (.sleep ms next) (s.now + ms) s.backend

/-- A program gets what it asks for and goes on with another one, beside this conversation and these
surroundings. -/
inductive Proceeds (s : Surroundings) (c : Conversation) :
    Program → Option Nat → Program → Conversation → Surroundings → Prop where
  | received {kind : RequestKind} {next : Except CallError (Request kind) → Program}
      {due : Option Nat} :
      Proceeds s c (.receive kind next) due (next (c.receive kind).1) (c.receive kind).2 s
  | sent {message : Json} {next : Except CallError Unit → Program} {due : Option Nat}
      {outcome : Except CallError Unit} {c' : Conversation}
      (hsend : c.send message = .settled outcome c') :
      Proceeds s c (.send message next) due (next outcome) c' s
  | denied {op : Operation} {next : Except BackendError op.Answer → Program} {due : Option Nat}
      {b : Backend} {e : BackendError} (hasks : s.Asks op due b)
      (hpanic : (s.backend.disturbance op.kind).panic = none)
      (herror : (s.backend.disturbance op.kind).error = some e) :
      Proceeds s c (.perform op next) due (next (.error e)) c { s with backend := b }
  | performed {op : Operation} {next : Except BackendError op.Answer → Program}
      {due : Option Nat} {b : Backend} (hasks : s.Asks op due b)
      (hpanic : (s.backend.disturbance op.kind).panic = none)
      (herror : (s.backend.disturbance op.kind).error = none) :
      Proceeds s c (.perform op next) due (next (b.perform op).1) c
        { s with backend := (b.perform op).2 }
  | awoke {ms : Nat} {next : Program} {moment : Nat} (hdue : moment ≤ s.now) :
      Proceeds s c (.sleep ms next) (some moment) next c s
  | canceled {next : Program} {due : Option Nat} : Proceeds s c (.cancel next) due next c.cancel s
  | looked {next : CallView → Program} {due : Option Nat} :
      Proceeds s c (.look next) due (next c.view) c s
  | noted {entry : Json} {next : Program} {due : Option Nat} :
      Proceeds s c (.note entry next) due next (c.note entry) s
  | emitted {event : Event} {next : Program} {due : Option Nat} :
      Proceeds s c (.emit event next) due next c (s.emit event)
  | probed {next : Bool → Program} {due : Option Nat} :
      Proceeds s c (.isReady next) due (next s.ready) c s
  | marked {ready : Bool} {next : Bool → Program} {due : Option Nat} :
      Proceeds s c (.setReady ready next) due (next s.ready) c { s with ready }

/-- What a program that makes no move waits for. -/
inductive Waits (s : Surroundings) (c : Conversation) : Program → Option Nat → Prop where
  | room {message : Json} {next : Except CallError Unit → Program} {due : Option Nat}
      (hfull : c.send message = .full) : Waits s c (.send message next) due
  | answer {op : Operation} {next : Except BackendError op.Answer → Program} {moment : Nat}
      (hdue : s.now < moment) : Waits s c (.perform op next) (some moment)
  | asleep {ms : Nat} {next : Program} {moment : Nat} (hdue : s.now < moment) :
      Waits s c (.sleep ms next) (some moment)

/-- The next step of a program is an operation of the backend. -/
def performs : Program → Bool
  | .perform _ _ => true
  | _ => false

variable {s s' : Surroundings} {c c' : Conversation} {p p' : Program} {due : Option Nat}
  {b : Backend} {outcome : Outcome} {moment : Nat}

/-- A program that ends leaves the backend as it was, or with the note of an operation. -/
theorem Ends.acts (h : p.Ends s due outcome b) :
    ∃ acts, b = s.backend.after acts ∧ (p.performs = false → acts = []) := by
  cases h with
  | struck hasks hpanic =>
    obtain ⟨acts, hb⟩ := hasks.acts
    exact ⟨acts, hb, fun h => Bool.noConfusion h⟩
  | _ => exact ⟨[], rfl, fun _ => rfl⟩

/-- A program that ends leaves the store alone. -/
theorem Ends.store (h : p.Ends s due outcome b) : b.store = s.backend.store := by
  cases h with
  | struck hasks hpanic => exact hasks.store
  | _ => rfl

/-- A program that is held up leaves the store alone. -/
theorem HeldUp.store (h : p.HeldUp s moment b) : b.store = s.backend.store := by
  cases h with
  | _ => rfl

theorem HeldUp.acts (h : p.HeldUp s moment b) :
    ∃ acts, b = s.backend.after acts ∧ (p.performs = false → acts = []) := by
  cases h with
  | @perform op next hdelay => exact ⟨[.note (.single op)], rfl, fun h => Bool.noConfusion h⟩
  | sleep => exact ⟨[], rfl, fun _ => rfl⟩

/-- **What a program does to what calls share**: it acts on the backend, adds to the log, and keeps
whether the backend was found ready. -/
theorem Proceeds.shared (h : p.Proceeds s c due p' c' s') : ∃ acts events ready,
    s' = { s with backend := s.backend.after acts, events := s.events ++ events, ready } ∧
      (p.performs = false → acts = []) := by
  cases h with
  | denied hasks hpanic herror =>
    obtain ⟨acts, rfl⟩ := hasks.acts
    exact ⟨acts, [], s.ready, by rw [List.append_nil], fun h => Bool.noConfusion h⟩
  | @performed op next due b hasks hpanic herror =>
    have hperform : ∀ {acts}, b = s.backend.after acts →
        (b.perform op).2 = s.backend.after (acts ++ [.perform op]) := by
      rintro acts hb
      rw [Backend.after_append, ← hb]
      exact (congrArg Prod.snd (hasks.react hpanic herror)).symm
    obtain ⟨acts, hb⟩ := hasks.acts
    exact ⟨_, [], s.ready, by rw [List.append_nil, hperform hb], fun h => Bool.noConfusion h⟩
  | emitted => exact ⟨[], [_], s.ready, rfl, fun _ => rfl⟩
  | marked => exact ⟨[], [], _, by rw [List.append_nil]; rfl, fun _ => rfl⟩
  | _ => exact ⟨[], [], s.ready, by rw [List.append_nil]; rfl, fun _ => rfl⟩

/-- A reply that is kept stays one. -/
theorem Proceeds.kept (h : p.Proceeds s c due p' c' s')
    (hkept : ∃ sent, c.outbound = .buffer sent) : ∃ sent, c'.outbound = .buffer sent := by
  cases h with
  | sent hsend =>
    obtain ⟨sent, hsent⟩ := hkept
    cases (Conversation.send_kept hsent _).symm.trans hsend
    exact ⟨_, rfl⟩
  | _ => exact hkept

end Program

/-! ## What becomes of a call -/

namespace Call

variable {c c' : Call} {s s' : Surroundings} {p : Program} {due : Option Nat}
  {r : Call × Surroundings}

/-- **The next move of a handler**: the call goes back through its stages, or its handler is held
up, goes on, or relays a lookup. -/
inductive HandlerMove (c : Call) (s : Surroundings) (p : Program) (due : Option Nat) :
    Call × Surroundings → Prop where
  | ends {outcome : Outcome} {b : Backend} (h : p.Ends s due outcome b) :
      HandlerMove c s p due (c.finish outcome { s with backend := b })
  | heldUp {moment : Nat} {b : Backend} (hdue : due = none) (h : p.HeldUp s moment b) :
      HandlerMove c s p due
        ({ c with progress := .handling p (some moment) }, { s with backend := b })
  | proceeds {p' : Program} {conversation : Conversation} {s' : Surroundings}
      (h : p.Proceeds s c.conversation due p' conversation s') :
      HandlerMove c s p due ({ c with conversation, progress := .handling p' none }, s')
  | relays {query : StreamQuery} {l : Lookup} (hp : p = .relay query)
      (hstart : Lookup.start s.settings query = .answered (.ok l)) :
      HandlerMove c s p due ({ c with lookup := some l, progress := .relaying none }, s)

/-- An operation that is asked for. -/
theorem answered_move {op : Operation} {next : Except BackendError op.Answer → Program}
    {b : Backend} (hasks : s.Asks op due b) :
    c.HandlerMove s (.perform op next) due (c.answered { s with backend := b } op next) := by
  rw [answered, Backend.react, hasks.disturbance]
  cases hpanic : (s.backend.disturbance op.kind).panic with
  | some words => exact .ends (.struck hasks hpanic)
  | none =>
    cases herror : (s.backend.disturbance op.kind).error with
    | some e => exact .proceeds (.denied hasks hpanic herror)
    | none => exact .proceeds (.performed hasks hpanic herror)

/-- **Every move of the handler** is one of these. -/
theorem handle_move (hm : c.handle s p due = some r) : c.HandlerMove s p due r := by
  cases p with
  | done outcome =>
    cases hm
    exact .ends .done
  | panic words =>
    cases hm
    exact .ends .panic
  | receive kind next =>
    cases hm
    exact .proceeds .received
  | send message next =>
    simp only [handle] at hm
    split at hm
    next outcome conversation hsend =>
      cases hm
      exact .proceeds (.sent hsend)
    next => cases hm
  | perform op next =>
    cases due with
    | some moment =>
      simp only [handle] at hm
      split at hm
      next hdue =>
        rw [← Option.some.inj hm]
        exact answered_move (.later hdue)
      next => cases hm
    | none =>
      simp only [handle] at hm
      split at hm
      next hdelay =>
        rw [← Option.some.inj hm]
        exact answered_move (.atOnce hdelay)
      next hdelay =>
        cases hm
        exact .heldUp rfl (.perform hdelay)
  | relay query =>
    simp only [handle] at hm
    split at hm
    next words hstart =>
      cases hm
      exact .ends (.unmade hstart)
    next e hstart =>
      cases hm
      exact .ends (.refused hstart)
    next l hstart =>
      cases hm
      exact .relays rfl hstart
  | sleep ms next =>
    cases due with
    | some moment =>
      simp only [handle] at hm
      split at hm
      next hdue =>
        cases hm
        exact .proceeds (.awoke hdue)
      next => cases hm
    | none =>
      cases hm
      exact .heldUp rfl .sleep
  | cancel next =>
    cases hm
    exact .proceeds .canceled
  | look next =>
    cases hm
    exact .proceeds .looked
  | note entry next =>
    cases hm
    exact .proceeds .noted
  | emit event next =>
    cases hm
    exact .proceeds .emitted
  | isReady next =>
    cases hm
    exact .proceeds .probed
  | setReady ready next =>
    cases hm
    exact .proceeds .marked

/-- The move of an operation that is asked for. -/
theorem handle_perform {op : Operation} {next : Except BackendError op.Answer → Program}
    {b : Backend} (hasks : s.Asks op due b) :
    c.handle s (.perform op next) due = some (c.answered { s with backend := b } op next) := by
  cases hasks with
  | later hdue => simp only [handle, if_pos hdue]
  | atOnce hdelay => exact if_pos hdelay

/-- **The next move of a handler**, exactly. -/
theorem handle_iff : c.handle s p due = some r ↔ c.HandlerMove s p due r := by
  refine ⟨handle_move, fun h => ?_⟩
  cases h with
  | ends h =>
    cases h with
    | done | panic => rfl
    | struck hasks hpanic =>
      rw [handle_perform hasks, answered, Backend.react, hasks.disturbance, hpanic]
    | unmade hstart => simp only [handle, hstart]
    | refused hstart => simp only [handle, hstart]; rfl
  | heldUp hdue h =>
    subst hdue
    cases h with
    | perform hdelay => exact if_neg hdelay
    | sleep => rfl
  | proceeds h =>
    cases h with
    | sent hsend => simp only [handle, hsend]; rfl
    | denied hasks hpanic herror =>
      rw [handle_perform hasks, answered, Backend.react, hasks.disturbance, hpanic, herror]
      rfl
    | performed hasks hpanic herror =>
      rw [handle_perform hasks, answered, hasks.react hpanic herror]
      rfl
    | awoke hdue => simp only [handle, if_pos hdue]; rfl
    | _ => rfl
  | relays hp hstart =>
    subst hp
    simp only [handle, hstart]

/-- **A handler that makes no move** waits. -/
theorem handle_eq_none_iff : c.handle s p due = none ↔ p.Waits s c.conversation due := by
  constructor
  · intro hnone
    cases p with
    | send message next =>
      simp only [handle] at hnone
      split at hnone
      next => cases hnone
      next hfull => exact .room hfull
    | perform op next =>
      cases due with
      | some moment =>
        simp only [handle] at hnone
        split at hnone
        next => cases hnone
        next hdue => exact .answer (Nat.lt_of_not_le hdue)
      | none =>
        simp only [handle] at hnone
        split at hnone
        all_goals cases hnone
    | relay query =>
      simp only [handle] at hnone
      split at hnone
      all_goals cases hnone
    | sleep ms next =>
      cases due with
      | some moment =>
        simp only [handle] at hnone
        split at hnone
        next => cases hnone
        next hdue => exact .asleep (Nat.lt_of_not_le hdue)
      | none => cases hnone
    | _ => cases hnone
  · intro hwaits
    cases hwaits with
    | room hfull => simp only [handle, hfull]
    | answer hdue | asleep hdue => exact if_neg (Nat.not_le.2 hdue)

/-! ## What becomes of a relay -/

/-- **The next move of a handler that relays its lookup**: the item in its hands is passed on, or it
takes the next one from the results, or the call goes back through its stages. -/
inductive RelayMove (c : Call) (s : Surroundings) : Option Json → Call × Surroundings → Prop where
  | passed {message : Json} {conversation : Conversation}
      (hsend : c.conversation.send message = .settled (.ok ()) conversation) :
      RelayMove c s (some message) ({ c with conversation, progress := .relaying none }, s)
  | stopped {message : Json} {e : CallError} {conversation : Conversation}
      (hsend : c.conversation.send message = .settled (.error e) conversation) :
      RelayMove c s (some message) ({ c with conversation }.finishWith (.error e) s)
  | idle (hlookup : c.lookup = none) : RelayMove c s none (c.finishWith c.relayed s)
  | took {l : Lookup} {item : Item} {results : Pipe Item} (hlookup : c.lookup = some l)
      (hx : l.results.sight? = some (.item item, results)) :
      RelayMove c s none ({ c with
        lookup := some { l with results }, progress := .relaying (some item.encode) }, s)
  | failed {l : Lookup} {e : BackendError} {results : Pipe Item} (hlookup : c.lookup = some l)
      (hx : l.results.sight? = some (.failure e, results)) :
      RelayMove c s none
        ({ c with lookup := some { l with results } }.finishWith (.error (.ofBackend e)) s)
  | ended {l : Lookup} {results : Pipe Item} (hlookup : c.lookup = some l)
      (hx : l.results.sight? = some (.ended, results)) :
      RelayMove c s none ({ c with lookup := some { l with results } }.finishWith c.relayed s)

/-- What a handler that relays waits for: room for the item in its hands, or the next thing that the
results show. -/
inductive RelayWaits (c : Call) : Option Json → Prop where
  | room {message : Json} (hfull : c.conversation.send message = .full) :
      RelayWaits c (some message)
  | results {l : Lookup} (hlookup : c.lookup = some l) (hnext : l.results.next = .pending) :
      RelayWaits c none

variable {inHand : Option Json}

/-- **Every move of the relay** is one of these. -/
theorem relay_move (hm : c.relay s inHand = some r) : c.RelayMove s inHand r := by
  cases inHand with
  | some message =>
    simp only [relay] at hm
    split at hm
    next conversation hsend =>
      cases hm
      exact .passed hsend
    next e conversation hsend =>
      cases hm
      exact .stopped hsend
    next => cases hm
  | none =>
    simp only [relay] at hm
    split at hm
    next hlookup =>
      cases hm
      exact .idle hlookup
    next l hlookup =>
      split at hm
      next item results hnext =>
        cases hm
        exact .took hlookup (by rw [Pipe.sight?, hnext])
      next e results hnext =>
        cases hm
        exact .failed hlookup (by rw [Pipe.sight?, hnext])
      next results hnext =>
        cases hm
        exact .ended hlookup (by rw [Pipe.sight?, hnext])
      next => cases hm

/-- **The next move of the relay**, exactly. -/
theorem relay_iff : c.relay s inHand = some r ↔ c.RelayMove s inHand r := by
  refine ⟨relay_move, fun h => ?_⟩
  cases h with
  | passed hsend => simp only [relay, hsend]
  | stopped hsend => simp only [relay, hsend]
  | idle hlookup => simp only [relay, hlookup]
  | took hlookup hx => simp only [relay, hlookup, Pipe.next_of_sight? hx]
  | failed hlookup hx => simp only [relay, hlookup, Pipe.next_of_sight? hx]
  | ended hlookup hx => simp only [relay, hlookup, Pipe.next_of_sight? hx]

/-- **A relay that makes no move** waits. -/
theorem relay_eq_none_iff : c.relay s inHand = none ↔ c.RelayWaits inHand := by
  constructor
  · intro hnone
    cases inHand with
    | some message =>
      simp only [relay] at hnone
      split at hnone
      · cases hnone
      · cases hnone
      next hfull => exact .room hfull
    | none =>
      simp only [relay] at hnone
      split at hnone
      · cases hnone
      next l hlookup =>
        split at hnone
        · cases hnone
        · cases hnone
        · cases hnone
        next hnext => exact .results hlookup hnext
  · intro hwaits
    cases hwaits with
    | room hfull => simp only [relay, hfull]
    | results hlookup hnext => simp only [relay, hlookup, hnext]

/-! ## What becomes of a report -/

/-- **The report of a failure**: a reply that is kept needs none; the frames take it and are closed;
or the client has left. -/
inductive ReportMove (c : Call) (e : CallError) : Call → Prop where
  | kept {sent : List Json} (houtbound : c.conversation.outbound = .buffer sent) :
      ReportMove c e { c with progress := .ended }
  | told {frames : Channel Frame} (houtbound : c.conversation.outbound = .channel frames)
      (hpresent : frames.receiverGone = false) (hroom : frames.queue.length < frames.capacity) :
      ReportMove c e { c with
        conversation := { c.conversation with
          outbound := .channel
            { frames with queue := frames.queue ++ [.error e], senderGone := true } }
        progress := .ended }
  | left {frames : Channel Frame} (houtbound : c.conversation.outbound = .channel frames)
      (hleft : frames.receiverGone = true) : ReportMove c e { c with progress := .ended }

variable {e : CallError}

/-- **Every report** is one of these. -/
theorem report_move (hm : c.report e = some c') : c.ReportMove e c' := by
  unfold report at hm
  split at hm
  next sent houtbound =>
    cases hm
    exact .kept houtbound
  next frames houtbound =>
    obtain ⟨hleft, hsend⟩ | ⟨hpresent, hsend | hsend⟩ := frames.send_cases (.error e)
    all_goals rw [hsend] at hm; cases hm
    · exact .left houtbound hleft
    · exact .told houtbound hpresent (Channel.send_eq_taken hsend).2.1

/-- **The report of a failure**, exactly. -/
theorem report_iff : c.report e = some c' ↔ c.ReportMove e c' := by
  refine ⟨report_move, fun h => ?_⟩
  cases h with
  | kept houtbound => simp only [report, houtbound]
  | told houtbound hpresent hroom =>
    simp only [report, houtbound, Channel.send, hpresent, hroom, if_true]
    rfl
  | left houtbound hleft => simp only [report, houtbound, Channel.send, hleft, if_true]

/-- **A report that is not made** waits for room. -/
theorem report_eq_none_iff : c.report e = none ↔ ∃ frames,
    c.conversation.outbound = .channel frames ∧ frames.receiverGone = false ∧
      frames.capacity ≤ frames.queue.length := by
  constructor
  · intro hnone
    unfold report at hnone
    split at hnone
    · cases hnone
    next frames houtbound =>
      split at hnone
      · cases hnone
      · cases hnone
      next hfull =>
        obtain ⟨hpresent, hfull⟩ := Channel.send_eq_full hfull
        exact ⟨frames, houtbound, hpresent, hfull⟩
  · rintro ⟨frames, houtbound, hpresent, hfull⟩
    simp only [report, houtbound, Channel.send_of_full hpresent hfull]

/-- A failure can be reported where there is room for it, or nobody left to take it. -/
theorem exists_report {frames : Channel Frame} (e : CallError)
    (houtbound : c.conversation.outbound = .channel frames)
    (hroom : frames.receiverGone = false → frames.queue.length < frames.capacity) :
    ∃ c', c.report e = some c' := by
  cases hleft : frames.receiverGone with
  | true => exact ⟨_, report_iff.2 (.left houtbound hleft)⟩
  | false => exact ⟨_, report_iff.2 (.told houtbound hleft (hroom hleft))⟩

/-- A report ends the task, and leaves the result alone. -/
theorem report_ends (hm : c.report e = some c') : c'.progress = .ended ∧ c'.result = c.result := by
  cases report_move hm with
  | _ => exact ⟨rfl, rfl⟩

end Call

end RelationGate
