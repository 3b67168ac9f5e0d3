import RelationGate.Wire.Request
import RelationGate.Json.Printer

/-!
# Envelopes

A call arrives as a method name and parameters. A reply is one envelope, or one for each frame of
a stream: it tells success and carries the result, or tells failure and carries the error.
-/

namespace RelationGate

open Json Text

/-- A call as it arrives. -/
structure CallEnvelope where
  method : String
  params : Json := .null

/-- The wire form of a call. -/
def CallEnvelope.codec : Codec CallEnvelope :=
  .record "struct JsonRpcRequest" (T := [String, Json])
    (.required "method" .text, .defaulted "params" .any .null, ())
    (fun (method, params, ()) => ⟨method, params⟩) (fun c => (c.method, c.params, ()))

/-- An error as it is sent. -/
structure WireError where
  code : String
  reason : String
  message : String
  deriving DecidableEq, Repr

/-- The error that is sent for a failed call. -/
def WireError.ofCall (e : CallError) : WireError := ⟨e.status.label, e.reason, e.message⟩

/-- The wire form of an error. -/
def WireError.codec : Codec WireError :=
  .record "struct WireError" (T := [String, String, String])
    (.required "code" .text, .required "reason" .text, .required "message" .text, ())
    (fun (code, reason, message, ()) => ⟨code, reason, message⟩)
    (fun e => (e.code, e.reason, e.message, ()))

instance : Render WireError where
  render e := renderRecord "WireError"
    [("code", render e.code), ("reason", render e.reason), ("message", render e.message)]

/-- A reply, or one frame of it. -/
structure ReplyEnvelope where
  success : Bool
  result : Option Json := none
  error : Option WireError := none

namespace ReplyEnvelope

/-- The envelope of a result. -/
def ok (result : Json) : ReplyEnvelope := { success := true, result := some result }

/-- The envelope of a failure. -/
def failed (e : CallError) : ReplyEnvelope := { success := false, error := some (.ofCall e) }

/-- The envelope of a frame. -/
def ofFrame : Except CallError Json → ReplyEnvelope
  | .ok j => ok j
  | .error e => failed e

/-- The wire form of a reply. -/
def codec : Codec ReplyEnvelope :=
  .record "struct JsonRpcResponse" (T := [Bool, Option Json, Option WireError])
    (.required "success" .flag, .optional "result" .any, .optional "error" WireError.codec, ())
    (fun (success, result, error, ()) => ⟨success, result, error⟩)
    (fun r => (r.success, r.result, r.error, ()))

/-- The text of a sent error, its members in their own order. -/
def errorText (e : WireError) : String :=
  objectText [("code", Json.text (.str e.code)), ("reason", Json.text (.str e.reason)),
    ("message", Json.text (.str e.message))]

/-- The text of a reply, its members in their own order. -/
def text (r : ReplyEnvelope) : String :=
  objectText
    ([("success", Json.text (.bool r.success))] ++
      (r.result.map fun j => ("result", j.text)).toList ++
      (r.error.map fun e => ("error", errorText e)).toList)

end ReplyEnvelope

/-- Where the gateway listens and how long a call may take. -/
structure ServerSettings where
  host : String := "127.0.0.1"
  port : UInt16 := 50051
  requestTimeoutMs : UInt64 := 30000
  deriving DecidableEq, Repr

namespace ServerSettings

/-- The wire form of the settings. -/
def codec : Codec ServerSettings :=
  .record "struct RpcConfig" (T := [String, UInt16, UInt64])
    (.required "host" .text, .required "port" .word16, .required "request_timeout_ms" .word64, ())
    (fun (host, port, requestTimeoutMs, ()) => ⟨host, port, requestTimeoutMs⟩)
    (fun s => (s.host, s.port, s.requestTimeoutMs, ()))

instance : Render ServerSettings where
  render s := renderRecord "RpcConfig"
    [("host", render s.host), ("port", toString s.port.toNat),
      ("request_timeout_ms", toString s.requestTimeoutMs.toNat)]

/-- The rendering of the server. -/
def serverRendering (s : ServerSettings) : String :=
  renderRecord "PermgateRpcServer" [("config", render s)]

end ServerSettings

end RelationGate
