import RelationGate.Backend
import RelationGate.Call.Context
import RelationGate.Wire.Request

/-!
# Handler programs

A handler is a program over the messages of its call, the backend and the clock. Every step asks
for one thing and goes on with the answer, so a handler that is held up, canceled or given up is
the rest of its program. A lookup is relayed to the client by a step of its own, which ends the
program.
-/

namespace RelationGate

/-- What can be seen of a call from one place. -/
structure CallView where
  context : CallContext
  /-- The rendering of the first message that was received. -/
  firstMessage : Option String

/-- A handler program. -/
inductive Program where
  /-- The handler ends. -/
  | done (outcome : Except CallError Unit)
  /-- The handler breaks down, with words if there are any. -/
  | panic (words : Option String)
  /-- Receives the next message as a request of a sort. -/
  | receive (kind : RequestKind) (next : Except CallError (Request kind) → Program)
  /-- Sends a message. -/
  | send (message : Json) (next : Except CallError Unit → Program)
  /-- Has the backend perform an operation. -/
  | perform (operation : Operation) (next : Except BackendError operation.Answer → Program)
  /-- Relays a lookup to the client, and ends with it. -/
  | relay (query : StreamQuery)
  /-- Waits for some milliseconds. -/
  | sleep (ms : Nat) (next : Program)
  /-- Cancels the call. -/
  | cancel (next : Program)
  /-- Looks at the call. -/
  | look (next : CallView → Program)
  /-- Leaves a note with the call. -/
  | note (entry : Json) (next : Program)
  /-- Adds an event to the log. -/
  | emit (event : Event) (next : Program)
  /-- Asks whether the backend has been found ready. -/
  | isReady (next : Bool → Program)
  /-- Keeps whether the backend was found ready; goes on with what was kept before. -/
  | setReady (ready : Bool) (next : Bool → Program)

namespace Program

/-- Ends with a failure. -/
def fail (e : CallError) : Program := .done (.error e)

/-- Ends with a failure of the backend. -/
def failWith (e : BackendError) : Program := .fail (.ofBackend e)

/-- Sends a response and ends. -/
def respond (r : Response) : Program := .send r.encode .done

/-- Receives the one request of a call. -/
def withRequest (kind : RequestKind) (next : Request kind → Program) : Program :=
  .receive kind fun
    | .ok r => next r
    | .error e => .fail e

/-! ## Services -/

/-- Acquires a lock. A backend that gives the presented token back has not handed the lock out. -/
def acquireLock (identifier : String) (existing : Option LockToken)
    (next : Except BackendError LockToken → Program) : Program :=
  match checkLockIdentifier identifier with
  | .error e => next (.error e)
  | .ok () =>
    .perform (.acquire identifier existing) fun (outcome : Except BackendError LockToken) =>
      match outcome with
      | .error e => next (.error (e.within "could not acquire lock"))
      | .ok token =>
        if existing = some token then
          .emit ⟨.error, "lock", "backend returned the presented fencing token",
              [("identifier", identifier)]⟩
            (next (.error ⟨.internal, "could not acquire lock: backend reissued the existing token"⟩))
        else next (.ok token)

/-- Finds out whether the backend is ready. A sticky probe asks it no more once it was. -/
def checkReady (sticky : Bool) (next : Except BackendError Unit → Program) : Program :=
  .isReady fun ready =>
    if sticky && ready then next (.ok ())
    else .perform .available fun (outcome : Except BackendError Unit) =>
      match outcome with
      | .ok () =>
        .setReady true fun before =>
          if before then next (.ok ())
          else .emit ⟨.info, "readiness", "backend became ready", []⟩ (next (.ok ()))
      | .error e =>
        .setReady false fun _ =>
          .emit ⟨.warn, "readiness", "backend not ready", [("error", e.text)]⟩
            (next (.error (e.within "backend not ready")))

/-! ## Handlers -/

/-- Answers a check. -/
def check : Program :=
  withRequest .check fun q =>
    .perform (.check q) fun (outcome : Except BackendError CheckResult) =>
      match outcome with
      | .ok r => respond (.check (.ofResult r))
      | .error e => failWith (e.within "Check")

/-- Stores relationships. -/
def create : Program :=
  withRequest .create fun (r : CreateRequest) =>
    .perform (.create r.relationships r.mode) fun (outcome : Except BackendError ConsistencyToken) =>
      match outcome with
      | .ok t => respond (.created t)
      | .error e => failWith (e.within "CreateRelationships")

/-- Deletes relationships. -/
def delete : Program :=
  withRequest .delete fun (r : DeleteRequest) =>
    .perform (.delete r.filter) fun (outcome : Except BackendError ConsistencyToken) =>
      match outcome with
      | .ok t => respond (.deleted t)
      | .error e => failWith (e.within "DeleteRelationships")

/-- Streams the relationships that a filter selects. -/
def read : Program := withRequest .read fun q => .relay (.read q)

/-- Streams the subjects that have a permission. -/
def lookupSubjects : Program := withRequest .subjects fun q => .relay (.subjects q)

/-- Streams the resources on which a subject has a permission. -/
def lookupResources : Program := withRequest .resources fun q => .relay (.resources q)

/-- Hands a lock out. -/
def lock : Program :=
  withRequest .lock fun (r : LockRequest) =>
    acquireLock r.identifier r.existing fun
      | .ok t => respond (.locked t)
      | .error e => failWith e

/-- Answers that the gateway lives; the backend is not asked. -/
def liveness : Program := withRequest .probe fun _ => respond .serving

/-- Answers whether the backend is ready. -/
def readiness (sticky : Bool) : Program :=
  withRequest .probe fun _ =>
    checkReady sticky fun
      | .ok () => respond .serving
      | .error e => failWith e

end Program

/-! ## Routes -/

/-- A method of the gateway. -/
structure Route where
  method : String
  kind : CallKind
  handler : Program

namespace Route

/-- Every method that the gateway serves of itself. -/
def standard (sticky : Bool) : List Route :=
  [⟨"permgate.v1.PermissionsService/Check", .unary, Program.check⟩,
    ⟨"permgate.v1.PermissionsService/CreateRelationships", .unary, Program.create⟩,
    ⟨"permgate.v1.PermissionsService/DeleteRelationships", .unary, Program.delete⟩,
    ⟨"permgate.v1.PermissionsService/ReadRelationships", .serverStreaming, Program.read⟩,
    ⟨"permgate.v1.PermissionsService/LookupSubjects", .serverStreaming, Program.lookupSubjects⟩,
    ⟨"permgate.v1.PermissionsService/LookupResources", .serverStreaming, Program.lookupResources⟩,
    ⟨"permgate.v1.LockService/AcquireLock", .unary, Program.lock⟩,
    ⟨"permgate.v1.HealthService/Liveness", .unary, Program.liveness⟩,
    ⟨"permgate.v1.HealthService/Readiness", .unary, Program.readiness sticky⟩]

/-- The route of a method; of two for one method the later counts. -/
def find? (routes : List Route) (method : String) : Option Route :=
  routes.reverse.find? (·.method == method)

end Route

end RelationGate
