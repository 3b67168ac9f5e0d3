import RelationGate.Daemon.Start
import RelationGate.Gateway.Server
import RelationGate.Uuid

/-!
# The daemon at work

A daemon that is ready holds a gateway with the standard routes and stages over an empty store. It
answers calls one after the other; each is a line with the body of a call over HTTP.
-/

namespace RelationGate.Daemon

/-- What a daemon is given when it starts: the time, and random bits. -/
structure Origin where
  /-- In milliseconds since the beginning of 1970. -/
  moment : Nat
  random : Nat

/-- A supply of identifiers. -/
def Origin.identifier (o : Origin) (n : Nat) : String := (Uuid.ofMoment o.moment (o.random + n)).text

namespace Service

/-- The gateway of a daemon. -/
def gateway (s : Service) : Gateway where
  routes := Route.standard s.settings.sticky
  stages := Stage.standard true s.auth
  timeout := s.settings.server.requestTimeoutMs.toNat

/-- The world in which a daemon begins. -/
def world (s : Service) (origin : Origin) : World where
  surroundings :=
    { unixTime := UInt64.ofNat (origin.moment / 1000)
      backend := { mint := fun n => ⟨origin.identifier n⟩ }
      settings := s.settings.lookupSettings
      traceIds := origin.identifier }

/-- The reply to the body of a call, as lines. -/
def answer (s : Service) (w : World) (line : String) : List String × World :=
  let (response, w) := s.gateway.serve w
    { verb := "POST", path := Gateway.callPath, body := .ok line.toUTF8.toList }
  ((response.body.splitOn "\n").filter (! ·.isEmpty), w)

/-- What is logged when a daemon ends. -/
def closing (s : Service) : List String :=
  let events :=
    [serverEvent "permgate RPC server stopped", event .info "permgate daemon shut down gracefully"]
  (events.filter (LogFilter.ofText s.settings.logLevel).admits).map eventLine

end Service

end RelationGate.Daemon
