import RelationGate.Text.Rendering

/-!
# Failures

A backend operation fails with a kind and a message. Layers on the way up may put the name of what
they were doing in front of the message; the kind stays. A call fails with a status, a stable
reason and a message; the status and the reason of a backend failure depend on its kind alone.
-/

namespace RelationGate

open Text

/-- What sort of failure a backend reports. -/
inductive ErrorKind where
  /-- The request is malformed or breaks a rule for a field. -/
  | invalidArgument
  /-- The named object or relationship does not exist. -/
  | notFound
  /-- A creating write met an existing relationship. -/
  | alreadyExists
  /-- The state does not allow the operation: a stale fencing token, a token from the future. -/
  | failedPrecondition
  /-- The backend cannot be reached. -/
  | unavailable
  /-- The operation was canceled before it was complete. -/
  | canceled
  /-- Any other failure. -/
  | internal
  deriving DecidableEq, Repr

/-- The words in front of a message of a kind. -/
def ErrorKind.title : ErrorKind → String
  | .invalidArgument => "Invalid argument"
  | .notFound => "Not found"
  | .alreadyExists => "Already exists"
  | .failedPrecondition => "Failed precondition"
  | .unavailable => "Backend unavailable"
  | .canceled => "Canceled"
  | .internal => "Internal error"

/-- The name of a kind. -/
def ErrorKind.name : ErrorKind → String
  | .invalidArgument => "InvalidArgument"
  | .notFound => "NotFound"
  | .alreadyExists => "AlreadyExists"
  | .failedPrecondition => "FailedPrecondition"
  | .unavailable => "Unavailable"
  | .canceled => "Canceled"
  | .internal => "Internal"

/-- Every kind. -/
def ErrorKind.all : List ErrorKind :=
  [.invalidArgument, .notFound, .alreadyExists, .failedPrecondition, .unavailable, .canceled,
    .internal]

/-- The kind of a name. -/
def ErrorKind.ofName? (s : String) : Option ErrorKind := all.find? (·.name == s)

/-- A failure of a backend operation. -/
structure BackendError where
  kind : ErrorKind
  message : String
  deriving DecidableEq, Repr

namespace BackendError

/-- The message behind the words of its kind. -/
def text (e : BackendError) : String := e.kind.title ++ ": " ++ e.message

/-- The failure, annotated with what was being done. -/
def within (e : BackendError) (activity : String) : BackendError :=
  { e with message := activity ++ ": " ++ e.message }

@[simp] theorem within_kind (e : BackendError) (activity : String) :
    (e.within activity).kind = e.kind := rfl

instance : Render BackendError := ⟨fun e => renderTuple e.kind.name [quoted e.message]⟩

end BackendError

/-- A request that breaks a rule. -/
def invalid (message : String) : BackendError := ⟨.invalidArgument, message⟩

/-- The outcome of a call. -/
inductive Status where
  | ok
  | canceled
  | unknown
  | invalidArgument
  | deadlineExceeded
  | notFound
  | alreadyExists
  | permissionDenied
  | resourceExhausted
  | failedPrecondition
  | aborted
  | outOfRange
  | unimplemented
  | internal
  | unavailable
  | dataLoss
  | unauthenticated
  deriving DecidableEq, Repr

namespace Status

/-- Every status in the order of the numbers. -/
def all : List Status :=
  [ok, canceled, unknown, invalidArgument, deadlineExceeded, notFound, alreadyExists,
    permissionDenied, resourceExhausted, failedPrecondition, aborted, outOfRange, unimplemented,
    internal, unavailable, dataLoss, unauthenticated]

/-- The number of a status. -/
def number (s : Status) : Nat := all.idxOf s

/-- The status of a number. -/
def ofNumber? (n : Nat) : Option Status := all[n]?

/-- The name of a status in replies and counters. -/
def label : Status → String
  | ok => "ok"
  | canceled => "canceled"
  | unknown => "unknown"
  | invalidArgument => "invalid_argument"
  | deadlineExceeded => "deadline_exceeded"
  | notFound => "not_found"
  | alreadyExists => "already_exists"
  | permissionDenied => "permission_denied"
  | resourceExhausted => "resource_exhausted"
  | failedPrecondition => "failed_precondition"
  | aborted => "aborted"
  | outOfRange => "out_of_range"
  | unimplemented => "unimplemented"
  | internal => "internal"
  | unavailable => "unavailable"
  | dataLoss => "data_loss"
  | unauthenticated => "unauthenticated"

end Status

/-- The failure that a call ends with. -/
structure CallError where
  status : Status
  reason : String
  message : String
  deriving DecidableEq, Repr

namespace CallError

/-- A fault of the client. -/
def badRequest (message : String) : CallError := ⟨.invalidArgument, "bad_request", message⟩

/-- A call without valid credentials. -/
def unauthenticated (reason message : String) : CallError := ⟨.unauthenticated, reason, message⟩

/-- A fault of the gateway. -/
def internal (reason message : String) : CallError := ⟨.internal, reason, message⟩

/-- A call that was given up. -/
def canceled (message : String) : CallError := ⟨.canceled, "canceled", message⟩

/-- A call that took too long. -/
def deadlineExceeded (message : String) : CallError :=
  ⟨.deadlineExceeded, "deadline_exceeded", message⟩

/-- A call to a method that no route serves. -/
def unknownMethod (method : String) : CallError :=
  ⟨.unimplemented, "unknown_method", "no such method: " ++ method⟩

/-- The reason and the message. -/
def text (e : CallError) : String := e.reason ++ ": " ++ e.message

/-- The status and the reason of a backend failure. -/
def outcomeOf : ErrorKind → Status × String
  | .invalidArgument => (.invalidArgument, "invalid_argument")
  | .notFound => (.notFound, "not_found")
  | .alreadyExists => (.alreadyExists, "already_exists")
  | .failedPrecondition => (.failedPrecondition, "failed_precondition")
  | .unavailable => (.unavailable, "backend_unavailable")
  | .canceled => (.canceled, "canceled")
  | .internal => (.internal, "internal")

/-- The call failure for a backend failure; the message is the bare one. -/
def ofBackend (e : BackendError) : CallError :=
  ⟨(outcomeOf e.kind).1, (outcomeOf e.kind).2, e.message⟩

end CallError

end RelationGate
