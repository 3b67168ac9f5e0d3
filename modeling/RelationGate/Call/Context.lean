import RelationGate.Auth.Claims
import RelationGate.Call.Headers
import RelationGate.Text.Rendering

/-!
# The context of a call

What is known about a call beside its messages: its kind and method, its headers, whether it has
been canceled, and what the stages in front of the handler have found out.
-/

namespace RelationGate

open Text

/-- The shape of a call. -/
inductive CallKind where
  | unary
  | serverStreaming
  deriving DecidableEq, Repr

/-- The name of a kind in the log and in counters. -/
def CallKind.label : CallKind → String
  | unary => "unary"
  | serverStreaming => "server_streaming"

/-- The context of a call. -/
structure CallContext where
  kind : CallKind
  method : String
  headers : Headers := {}
  canceled : Bool := false
  traceId : Option String := none
  claims : Option Claims := none

/-! ## Events -/

/-- How grave an event is. -/
inductive Level where
  | error
  | warn
  | info
  deriving DecidableEq, Repr

/-- The name of a level. -/
def Level.label : Level → String
  | error => "ERROR"
  | warn => "WARN"
  | info => "INFO"

/-- An entry of the log. -/
structure Event where
  level : Level
  /-- The part of the gateway that the event comes from. -/
  source : String
  message : String
  fields : List (String × String) := []
  deriving DecidableEq, Repr

/-- The span that a call is traced in. -/
structure Span where
  method : String
  kind : String
  traceId : String
  deriving DecidableEq, Repr

end RelationGate
