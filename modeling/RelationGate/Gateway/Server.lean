import RelationGate.Gateway.World
import RelationGate.Wire.Envelope

/-!
# The gateway and its entry points

A gateway runs calls of known methods through its stages. Over HTTP there are two entry points: a
GET of the scrape path gives the counters, and any other request is taken for a call, whatever its
verb and path. A unary call is answered by one envelope, a streaming one by one envelope a line.
-/

namespace RelationGate

open Json

/-- How many frames a streamed reply may be ahead of its client. -/
def replyBuffer : Nat := 16

/-- A gateway. -/
structure Gateway where
  routes : List Route
  stages : List Stage
  /-- How many milliseconds a handler may take. -/
  timeout : Nat

namespace Gateway

/-- The reply to a call that no route serves. -/
def unknownMethodEvent (method : String) : Event :=
  ⟨.warn, "server", "call to unknown method", [("method", method)]⟩

/-- A call of a route, before it begins. -/
def newCall (g : Gateway) (route : Route) (params : Json) (headers : Headers) : Call where
  stages := g.stages
  handler := route.handler
  timeout := some g.timeout
  conversation :=
    { context := { kind := route.kind, method := route.method, headers }
      inbound := [params]
      outbound :=
        match route.kind with
        | .unary => .buffer []
        | .serverStreaming => .channel (.ofCapacity replyBuffer) }

/-- What comes of a request to call a method. -/
inductive Opening where
  /-- No route serves the method. -/
  | unknown (e : CallError)
  /-- A unary call has been started. -/
  | unary (index : Nat)
  /-- A streaming call has been started. -/
  | stream (index : Nat)

/-- Starts a call of a method. -/
def openCall (g : Gateway) (w : World) (method : String) (params : Json) (headers : Headers) :
    Opening × World :=
  match Route.find? g.routes method with
  | none =>
    (.unknown (.unknownMethod method),
      { w with surroundings := w.surroundings.emit (unknownMethodEvent method) })
  | some route =>
    let (w, i) := w.start (g.newCall route params headers)
    match route.kind with
    | .unary => (.unary i, w)
    | .serverStreaming => (.stream i, w)

/-- What a client has got of a reply. -/
structure Received where
  items : List Json := []
  error : Option CallError := none

/-- The frames of a reply, up to the first failure. -/
def Received.ofFrames : List Frame → Received
  | [] => {}
  | .ok j :: rest =>
    let r := ofFrames rest
    { r with items := j :: r.items }
  | .error e :: _ => { error := some e }

/-- The reply to a unary call as a client gets it. -/
def Received.ofReply : Except CallError Json → Received
  | .ok j => { items := [j] }
  | .error e => { error := some e }

/-- The reply to a unary call, which is run until it is over. -/
def unaryReply (w : World) (i : Nat) : Except CallError Json × World :=
  match w.complete i with
  | none => (.error (.internal "panic" "internal error"), w)
  | some w =>
    match w.calls[i]? with
    | some c => (c.reply, w)
    | none => (.error (.internal "panic" "internal error"), w)

/-- All frames of a streamed reply. -/
def allFrames (w : World) (i : Nat) : List Frame × World :=
  let (w, frames) := World.readFrames i Machine.enoughRounds w []
  (frames, w)

/-! ## HTTP -/

/-- Where calls are to be sent. -/
def callPath : String := "/permgate.v1.Gateway/Call"

/-- Where the counters are to be had. -/
def scrapePath : String := "/permgate.v1.Gateway/Metrics"

/-- A request over HTTP; its body may fail to arrive. -/
structure HttpRequest where
  verb : String
  path : String
  headers : Headers := {}
  body : Except String (List UInt8)

/-- A response over HTTP. -/
structure HttpResponse where
  status : Nat := 200
  contentType : String
  body : String
  deriving DecidableEq

/-- What a request over HTTP asks for. -/
inductive Asked where
  | scrape
  | refused (e : CallError) (event : Option Event)
  | call (envelope : CallEnvelope)

/-- The path of a request without what is asked of it. -/
def HttpRequest.barePath (r : HttpRequest) : String :=
  String.ofList (r.path.toList.takeWhile fun c => c ≠ '?' && c ≠ '#')

/-- Tells what a request asks for. -/
def HttpRequest.asked (r : HttpRequest) : Asked :=
  if r.verb = "GET" ∧ r.barePath = scrapePath then .scrape
  else
    match r.body with
    | .error words =>
      let e := CallError.badRequest ("failed to read request body: " ++ words)
      .refused e (some ⟨.error, "server", e.text, []⟩)
    | .ok bytes =>
      match Reader.run CallEnvelope.codec.read bytes with
      | .ok envelope => .call envelope
      | .error fault =>
        .refused (.badRequest ("invalid JSON-RPC request: " ++ fault.describe)) none

/-- A response with one envelope. -/
def HttpResponse.single (e : ReplyEnvelope) : HttpResponse :=
  { contentType := "application/json", body := e.text }

/-- A response with one envelope a line. -/
def HttpResponse.lines (frames : List Frame) : HttpResponse :=
  { contentType := "application/x-ndjson"
    body := String.join (frames.map fun f => (ReplyEnvelope.ofFrame f).text ++ "\n") }

/-- Answers a request over HTTP; the calls that it starts are run until they are over. -/
def serve (g : Gateway) (w : World) (r : HttpRequest) : HttpResponse × World :=
  match r.asked with
  | .scrape =>
    ({ contentType := "text/plain; version=0.0.4", body := w.surroundings.metrics.scrape }, w)
  | .refused e event =>
    (.single (.failed e),
      match event with
      | some event => { w with surroundings := w.surroundings.emit event }
      | none => w)
  | .call envelope =>
    match g.openCall w envelope.method envelope.params r.headers with
    | (.unknown e, w) => (.single (.failed e), w)
    | (.unary i, w) =>
      let (reply, w) := unaryReply w i
      (.single (.ofFrame reply), w)
    | (.stream i, w) =>
      let (frames, w) := allFrames w i
      (.lines frames, w)

end Gateway

end RelationGate
