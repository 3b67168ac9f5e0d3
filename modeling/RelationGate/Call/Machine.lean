import RelationGate.Call.Stage
import RelationGate.Lookup

/-!
# The run of a call

A call goes through its stages to the handler and back. The handler is bounded in time: when the
time is up it is given up where it stands, the call is canceled and ends with a failure. However
it ends, a call of the gateway is canceled in the end, so whatever the handler has left running
stops. A streamed reply ends with the failure of the call if there is one.

Each function here is one move of one task, or `none` if the task has to wait.
-/

namespace RelationGate

/-- What the task of a call is at. -/
inductive Progress where
  /-- The call has not begun. -/
  | waiting
  /-- The handler is at work. What it waits for may be due at a moment. -/
  | handling (program : Program) (due : Option Nat)
  /-- The handler relays its lookup; an item may be in its hands. -/
  | relaying (inHand : Option Json)
  /-- The reply has yet to take the failure of the call. -/
  | reporting (e : CallError)
  /-- The call is over. -/
  | ended

/-- A call. -/
structure Call where
  stages : List Stage
  handler : Program
  /-- How many milliseconds the handler may take. -/
  timeout : Option Nat := none
  /-- The call is one of the gateway: it is canceled in the end, and a failure closes its reply. -/
  guarded : Bool := true
  conversation : Conversation
  progress : Progress := .waiting
  /-- The stages that the call has been let into, the innermost first. -/
  entered : List Stage := []
  /-- When the call began. -/
  began : Nat := 0
  /-- The lookup that the handler has started. -/
  lookup : Option Lookup := none
  /-- How the call came out. -/
  result : Option Outcome := none

namespace Call

/-- The call is over. -/
def isOver (c : Call) : Bool :=
  match c.progress with
  | .ended => true
  | _ => false

/-- The handler is at work. -/
def isHandling (c : Call) : Bool :=
  match c.progress with
  | .handling _ _ | .relaying _ => true
  | _ => false

/-- When the handler has to be done. -/
def deadline (c : Call) : Option Nat := c.timeout.map (c.began + ·)

/-- The sender of the frames leaves. -/
def closeFrames (c : Conversation) : Conversation :=
  match c.outbound with
  | .buffer _ => c
  | .channel frames => { c with outbound := .channel frames.closeSender }

/-- What is left to do once the stages have been passed. -/
def conclude (c : Call) (outcome : Outcome) : Call :=
  let lookup := c.lookup.map Lookup.abandon
  if !c.guarded then { c with lookup, result := some outcome, progress := .ended }
  else
    let conversation := c.conversation.cancel
    match outcome, conversation.outbound with
    | .finished (.error e), .channel _ =>
      { c with conversation, lookup, result := some outcome, progress := .reporting e }
    | _, _ =>
      { c with
        conversation := closeFrames conversation, lookup, result := some outcome, progress := .ended }

/-- The handler has come out, or has never been reached: the call goes back through its stages,
and the spans that it was in end. -/
def finish (c : Call) (outcome : Outcome) (s : Surroundings) : Call × Surroundings :=
  let (outcome, s, conversation) := Stage.leaveAll c.began c.entered outcome s c.conversation
  (conclude { c with conversation } outcome, s.endSpans conversation.spans)

/-- The handler fails, or is done. -/
def finishWith (c : Call) (outcome : Except CallError Unit) (s : Surroundings) : Call × Surroundings :=
  c.finish (.finished outcome) s

/-- The call begins: it goes through its stages. -/
def begin (c : Call) (s : Surroundings) : Call × Surroundings :=
  let (admission, entered, s, conversation) := Stage.enterAll c.stages [] s c.conversation
  let c := { c with entered, conversation, began := s.now }
  match admission with
  | .ok () => ({ c with progress := .handling c.handler none }, s)
  | .error e => c.finishWith (.error e) s

/-- The handler goes on with the rest of its program. -/
def goOn (c : Call) (p : Program) : Call := { c with progress := .handling p none }

/-- The handler waits until a moment. -/
def waitUntil (c : Call) (p : Program) (moment : Nat) : Call :=
  { c with progress := .handling p (some moment) }

/-- The backend answers an operation. -/
def answered (c : Call) (s : Surroundings) (op : Operation)
    (next : Except BackendError op.Answer → Program) : Call × Surroundings :=
  match s.backend.react op with
  | (.panicked words, backend) => c.finish (.panicked (some words)) { s with backend }
  | (.answered outcome, backend) => (c.goOn (next outcome), { s with backend })

/-- The next move of the handler. -/
def handle (c : Call) (s : Surroundings) (p : Program) (due : Option Nat) :
    Option (Call × Surroundings) :=
  match p with
  | .done outcome => some (c.finishWith outcome s)
  | .panic words => some (c.finish (.panicked words) s)
  | .receive kind next =>
    let (r, conversation) := c.conversation.receive kind
    some ({ c with conversation }.goOn (next r), s)
  | .send message next =>
    match c.conversation.send message with
    | .settled outcome conversation => some ({ c with conversation }.goOn (next outcome), s)
    | .full => none
  | .perform op next =>
    match due with
    | some moment => if moment ≤ s.now then some (c.answered s op next) else none
    | none =>
      let s := { s with backend := s.backend.note (.single op) }
      let delay := s.backend.delayOf op.kind
      if delay = 0 then some (c.answered s op next)
      else some (c.waitUntil p (s.now + delay), s)
  | .relay query =>
    match Lookup.start s.settings query with
    | .panicked words => some (c.finish (.panicked (some words)) s)
    | .answered (.error e) => some (c.finishWith (.error (.ofBackend e)) s)
    | .answered (.ok lookup) => some ({ c with lookup := some lookup, progress := .relaying none }, s)
  | .sleep ms next =>
    match due with
    | some moment => if moment ≤ s.now then some (c.goOn next, s) else none
    | none => some (c.waitUntil p (s.now + ms), s)
  | .cancel next => some ({ c with conversation := c.conversation.cancel }.goOn next, s)
  | .look next => some (c.goOn (next c.conversation.view), s)
  | .note entry next => some ({ c with conversation := c.conversation.note entry }.goOn next, s)
  | .emit event next => some (c.goOn next, s.emit event)
  | .isReady next => some (c.goOn (next s.ready), s)
  | .setReady ready next => some (c.goOn (next s.ready), { s with ready })

/-- The outcome of a lookup that has run dry: a canceled call does not pass for a complete one. -/
def relayed (c : Call) : Except CallError Unit :=
  if c.conversation.context.canceled then .error (.canceled "call canceled") else .ok ()

/-- The next move of a handler that relays its lookup. -/
def relay (c : Call) (s : Surroundings) (inHand : Option Json) : Option (Call × Surroundings) :=
  match inHand with
  | some message =>
    match c.conversation.send message with
    | .settled (.ok ()) conversation => some ({ c with conversation, progress := .relaying none }, s)
    | .settled (.error e) conversation => some ({ c with conversation }.finishWith (.error e) s)
    | .full => none
  | none =>
    match c.lookup with
    | none => some (c.finishWith c.relayed s)
    | some lookup =>
      match lookup.results.next with
      | .item item results =>
        some ({ c with
          lookup := some { lookup with results }, progress := .relaying (some item.encode) }, s)
      | .failure e results =>
        some ({ c with lookup := some { lookup with results } }.finishWith
          (.error (.ofBackend e)) s)
      | .ended results =>
        some ({ c with lookup := some { lookup with results } }.finishWith c.relayed s)
      | .pending => none

/-- The reply takes the failure of the call, or nobody is left to take it. -/
def report (c : Call) (e : CallError) : Option Call :=
  match c.conversation.outbound with
  | .buffer _ => some { c with progress := .ended }
  | .channel frames =>
    match frames.send (.error e) with
    | .taken frames =>
      let conversation := closeFrames { c.conversation with outbound := .channel frames }
      some { c with conversation, progress := .ended }
    | .refused => some { c with progress := .ended }
    | .full => none

/-- The next move of the task of the call. -/
def taskMove (c : Call) (s : Surroundings) : Option (Call × Surroundings) :=
  match c.progress with
  | .waiting => some (c.begin s)
  | .handling p due => c.handle s p due
  | .relaying inHand => c.relay s inHand
  | .reporting e => (c.report e).map fun c => (c, s)
  | .ended => none

/-- The next move of the lookup of the call. -/
def lookupMove (c : Call) (s : Surroundings) : Option (Call × Surroundings) :=
  match c.lookup with
  | none => none
  | some lookup =>
    (lookup.move s.now c.conversation.context.canceled s.backend).map fun (lookup, backend) =>
      ({ c with lookup := some lookup }, { s with backend })

/-- The failure of a handler whose time is up. -/
def lateError (ms : Nat) : CallError := .deadlineExceeded ("call exceeded " ++ toString ms ++ " ms")

/-- The handler is given up where it stands, and the call is canceled. -/
def giveUp (c : Call) (ms : Nat) (s : Surroundings) : Call × Surroundings :=
  let c := { c with
    conversation := c.conversation.cancel, lookup := c.lookup.map Lookup.abandon }
  c.finishWith (.error (lateError ms)) s

/-- The time of the handler is up and it has to wait: it is given up. -/
def expire (c : Call) (s : Surroundings) : Option (Call × Surroundings) :=
  match c.timeout with
  | none => none
  | some ms =>
    if c.isHandling && c.began + ms ≤ s.now && (c.taskMove s).isNone then some (c.giveUp ms s)
    else none

/-- The next move of the call: of its lookup, or of its task. -/
def move (c : Call) (s : Surroundings) : Option (Call × Surroundings) :=
  match c.lookupMove s with
  | some r => some r
  | none => c.taskMove s

/-- The next moment at which the call is due. -/
def due (c : Call) (now : Nat) : Option Nat :=
  let ofTask :=
    match c.progress with
    | .handling _ due => due
    | _ => none
  let ofLookup := c.lookup.bind (·.due now)
  let ofDeadline := if c.isHandling then c.deadline else none
  earlier ofTask (earlier ofLookup ofDeadline)

/-- The messages that came through, for a call whose reply is kept until it is over. -/
def sent (c : Call) : List Json := c.conversation.sent

/-- The reply to a unary call: the first message that was sent. -/
def reply (c : Call) : Except CallError Json :=
  match c.result with
  | some (.finished (.ok ())) =>
    match c.sent with
    | message :: _ => .ok message
    | [] => .error (.internal "no_response" "handler sent no response")
  | some (.finished (.error e)) => .error e
  | _ => .error (.internal "panic" "internal error")

end Call

end RelationGate
