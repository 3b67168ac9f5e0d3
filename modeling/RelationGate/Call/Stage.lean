import RelationGate.Auth.Token
import RelationGate.Call.Inbox
import RelationGate.Call.Program
import RelationGate.Limit
import RelationGate.Metrics

/-!
# The stages of a call

Before its handler a call passes through stages, the outermost first, and after it through the
same stages in reverse. A stage may refuse the call, and then nothing inside it is run. The
standard order is recovery, validation, tracing, logging, metrics, authentication; the last two
may be missing.
-/

namespace RelationGate

open Text

/-! ## What calls share -/

/-- What all calls share: the clock, the backend and what is reported. -/
structure Surroundings where
  /-- In milliseconds. -/
  now : Nat := 0
  /-- In seconds since the beginning of 1970. -/
  unixTime : UInt64
  backend : Backend
  settings : LookupSettings := {}
  /-- The backend was ready when it was last asked. -/
  ready : Bool := false
  metrics : Metrics := {}
  events : List Event := []
  /-- The spans that have ended. -/
  spans : List Span := []
  /-- The supply of trace ids. -/
  traceIds : Nat → String
  /-- How many trace ids have been given. -/
  traced : Nat := 0

/-- Adds an event to the log. -/
def Surroundings.emit (s : Surroundings) (e : Event) : Surroundings :=
  { s with events := s.events ++ [e] }

/-- Spans end. -/
def Surroundings.endSpans (s : Surroundings) (spans : List Span) : Surroundings :=
  { s with spans := s.spans ++ spans }

/-! ## The messages of a call -/

/-- A frame of a streamed reply. -/
abbrev Frame := Except CallError Json

/-- Where the messages of a call go. -/
inductive Outbound where
  /-- They are kept until the call is over. -/
  | buffer (sent : List Json)
  /-- They are passed on as they come. -/
  | channel (frames : Channel Frame)

/-- The messages of a call and what is known about it. -/
structure Conversation where
  context : CallContext
  inbound : List Json
  outbound : Outbound
  /-- The rendering of the first message that was received. -/
  firstMessage : Option String := none
  /-- Received messages are checked. -/
  validating : Bool := false
  /-- The spans that the call is in, the innermost first. -/
  spans : List Span := []
  /-- What stages and the handler have noted. -/
  notes : List Json := []

namespace Conversation

/-- What can be seen of the call. -/
def view (c : Conversation) : CallView := ⟨c.context, c.firstMessage⟩

/-- Adds a note. -/
def note (c : Conversation) (entry : Json) : Conversation := { c with notes := c.notes ++ [entry] }

/-- Cancels the call. -/
def cancel (c : Conversation) : Conversation :=
  { c with context := { c.context with canceled := true } }

/-- The stream that the outermost stage gets. -/
def kept (c : Conversation) : Inbox := .keeping c.firstMessage (.messages c.inbound)

/-- The stream that the handler receives from. -/
def inbox (c : Conversation) : Inbox := if c.validating then .checking c.kept else c.kept

/-- Receives the next message in some form. A message that cannot be decoded is used up; of those
that can the first is kept for the log, whether it passes the check or not. -/
def receiveAs {α : Type} (c : Conversation) (form : MessageForm α) :
    Except CallError α × Conversation :=
  let (outcome, inbox) := c.inbox.request form
  (outcome, { c with inbound := inbox.inbound, firstMessage := inbox.firstMessage })

/-- Receives the next message as a request of a sort. -/
def receive (c : Conversation) (kind : RequestKind) :
    Except CallError (Request kind) × Conversation :=
  c.receiveAs kind.form

/-- What receiving a message comes to. -/
theorem receiveAs_eq {α : Type} (c : Conversation) (form : MessageForm α) : c.receiveAs form =
    match c.inbound with
    | [] => (.error (.badRequest "missing request message"), c)
    | message :: inbound =>
      match form.decode message with
      | .error e => (.error e, { c with inbound })
      | .ok a =>
        (if c.validating then
          match form.validate? a with
          | some (.error e) => .error (.badRequest e.text)
          | _ => .ok a
        else .ok a,
        { c with inbound, firstMessage := c.firstMessage <|> some (form.rendering a) }) := by
  obtain ⟨context, inbound, outbound, first, validating, spans, notes⟩ := c
  cases inbound with
  | nil => cases validating <;> rfl
  | cons message inbound =>
    cases hdecode : form.decode message with
    | error e =>
      cases validating <;> simp [receiveAs, inbox, kept, Inbox.request, Inbox.receive, Except.map,
        Inbox.inbound, Inbox.firstMessage, hdecode]
    | ok a =>
      cases validating <;> rcases hcheck : form.validate? a with _ | _ | _ <;>
        simp [receiveAs, inbox, kept, Inbox.request, Inbox.receive, Except.map, Inbox.inbound,
          Inbox.firstMessage, hdecode, hcheck]

/-- What receiving a request comes to. -/
theorem receive_eq (c : Conversation) (kind : RequestKind) : c.receive kind =
    match c.inbound with
    | [] => (.error (.badRequest "missing request message"), c)
    | message :: inbound =>
      match Request.decode kind message with
      | .error e => (.error e, { c with inbound })
      | .ok r =>
        (if c.validating then
          match Request.validate kind r with
          | .ok () => .ok r
          | .error e => .error (.badRequest e.text)
        else .ok r,
        { c with
          inbound, firstMessage := c.firstMessage <|> some (Request.rendering kind r) }) := by
  rw [receive, receiveAs_eq]
  cases c.inbound with
  | nil => rfl
  | cons message inbound =>
    simp only [kind.form_decode]
    cases Request.decode kind message with
    | error e => rfl
    | ok r =>
      -- a probe cannot be checked, but the check of a request refuses no probe either
      cases kind with
      | probe => rfl
      | _ => simp only [RequestKind.form]; cases Request.validate _ r <;> rfl

/-- What comes of an attempt to send. -/
inductive SendOutcome where
  | settled (outcome : Except CallError Unit) (conversation : Conversation)
  /-- There is no room now. -/
  | full

/-- Sends a message. Into a channel nothing is sent once the call is canceled or the client gone. -/
def send (c : Conversation) (message : Json) : SendOutcome :=
  match c.outbound with
  | .buffer sent => .settled (.ok ()) { c with outbound := .buffer (sent ++ [message]) }
  | .channel frames =>
    if c.context.canceled then .settled (.error (.canceled "call canceled")) c
    else
      match frames.send (.ok message) with
      | .taken frames => .settled (.ok ()) { c with outbound := .channel frames }
      | .refused => .settled (.error (.canceled "client went away")) c
      | .full => .full

/-- The messages that were kept. -/
def sent (c : Conversation) : List Json :=
  match c.outbound with
  | .buffer sent => sent
  | .channel _ => []

end Conversation

/-! ## Stages -/

/-- A stage that notes when a call passes it; it may look at the call, and may refuse it. -/
structure Checkpoint where
  name : String
  refuses : Bool := false
  looks : Bool := false
  /-- How a look is noted. -/
  describe : CallView → Json

/-- A stage. -/
inductive Stage where
  | recovery
  | validation
  | tracing
  | logging
  | metrics
  | auth (settings : AuthSettings)
  | checkpoint (checkpoint : Checkpoint)

/-- How the inside of a stage came out. -/
inductive Outcome where
  | finished (outcome : Except CallError Unit)
  | panicked (words : Option String)

namespace Stage

/-- The stages of the gateway. -/
def standard (metrics : Bool) (auth : Option AuthSettings) : List Stage :=
  [recovery, validation, tracing, logging] ++ (if metrics then [Stage.metrics] else []) ++
    auth.toList.map Stage.auth

/-- The header with a trace id of the client. -/
def traceHeader : String := "x-trace-id"

/-- The header with the credentials. -/
def authorizationHeader : String := "authorization"

/-- The claims that the credentials of a call prove. -/
def credentials (settings : AuthSettings) (unixTime : UInt64) (headers : Headers) :
    Except AuthError Claims := do
  settings.verify unixTime (← bearerToken (headers.text? authorizationHeader))

/-- A call comes to a stage: it is let in, or refused. -/
def enter (stage : Stage) (s : Surroundings) (c : Conversation) :
    Except CallError Unit × Surroundings × Conversation :=
  match stage with
  | recovery | logging | metrics => (.ok (), s, c)
  | validation => (.ok (), s, { c with validating := true })
  | tracing =>
    let given := c.context.headers.text? traceHeader
    let traceId := given.getD (s.traceIds s.traced)
    (.ok (),
      { s with traced := if given.isSome then s.traced else s.traced + 1 },
      { c with
        context := { c.context with traceId := some traceId }
        spans := ⟨c.context.method, c.context.kind.label, traceId⟩ :: c.spans })
  | auth settings =>
    match credentials settings s.unixTime c.context.headers with
    | .ok claims => (.ok (), s, { c with context := { c.context with claims := some claims } })
    | .error e =>
      (.error e.toCallError,
        s.emit ⟨.warn, "auth", "rejected call",
          [("method", c.context.method), ("kind", c.context.kind.label), ("reason", e.reason)]⟩,
        c)
  | checkpoint p =>
    let c := c.note (.str ("enter " ++ p.name))
    if p.refuses then (.error (.unauthenticated "denied" p.name), s, c) else (.ok (), s, c)

/-- The log entry of a finished call. -/
def finishedEvent (c : Conversation) (outcome : Except CallError Unit) : Event :=
  let labels := [("method", c.context.method), ("kind", c.context.kind.label),
    ("request", c.firstMessage.getD "")]
  match outcome with
  | .ok () => ⟨.info, "logging", "call finished", labels ++ [("code", Status.label .ok)]⟩
  | .error e => ⟨.error, "logging", "call failed",
      labels ++ [("code", e.status.label), ("reason", e.reason), ("error", e.message)]⟩

/-- The log entry of a recovered breakdown. -/
def recoveredEvent (c : Conversation) (words : Option String) : Event :=
  ⟨.error, "recovery", "recovered from panic in call",
    [("method", c.context.method), ("kind", c.context.kind.label),
      ("request", c.firstMessage.getD ""), ("panic", words.getD "non-string panic payload")]⟩

/-- A call comes back to a stage that it was let into at a moment. A breakdown passes every stage
but recovery unnoticed. -/
def leave (stage : Stage) (began : Nat) (outcome : Outcome) (s : Surroundings) (c : Conversation) :
    Outcome × Surroundings × Conversation :=
  match outcome with
  | .panicked words =>
    match stage with
    | recovery =>
      (.finished (.error (.internal "panic" "internal error")), s.emit (recoveredEvent c words), c)
    | _ => (outcome, s, c)
  | .finished result =>
    match stage with
    | recovery | validation | tracing | auth _ => (outcome, s, c)
    | logging => (outcome, s.emit (finishedEvent c result), c)
    | metrics =>
      let micros := 1000 * (s.now - began)
      let metrics := s.metrics.observe c.context.kind c.context.method result micros
      (outcome, { s with metrics }, c)
    | checkpoint p =>
      let c := c.note (.str ("exit " ++ p.name))
      (outcome, s, if p.looks then c.note (p.describe c.view) else c)

/-- A call goes through stages to its handler; gives the stages that it was let into, the
innermost first. -/
def enterAll : List Stage → List Stage → Surroundings → Conversation →
    Except CallError Unit × List Stage × Surroundings × Conversation
  | [], entered, s, c => (.ok (), entered, s, c)
  | stage :: rest, entered, s, c =>
    match stage.enter s c with
    | (.ok (), s, c) => enterAll rest (stage :: entered) s c
    | (.error e, s, c) => (.error e, entered, s, c)

/-- A call comes back through the stages that it was let into, the innermost first. -/
def leaveAll (began : Nat) : List Stage → Outcome → Surroundings → Conversation →
    Outcome × Surroundings × Conversation
  | [], outcome, s, c => (outcome, s, c)
  | stage :: rest, outcome, s, c =>
    let (outcome, s, c) := stage.leave began outcome s c
    leaveAll began rest outcome s c

end Stage

end RelationGate
