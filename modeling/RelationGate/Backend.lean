import RelationGate.Store
import RelationGate.Feed
import RelationGate.Request

/-!
# The backend

The backend answers operations from the store while it is available, and notes every operation
that it is given. An operation may be disturbed: delayed, then struck by a fault that brings the
caller down, then refused, before it reaches the store. The streams may be replaced by a script.

An operation takes effect at one moment, after its delay.
-/

namespace RelationGate

/-- The sorts of operation. -/
inductive OperationKind where
  | check
  | create
  | delete
  | read
  | subjects
  | resources
  | acquire
  | available
  deriving DecidableEq, Repr

namespace OperationKind

/-- Every sort of operation. -/
def all : List OperationKind :=
  [check, create, delete, read, subjects, resources, acquire, available]

/-- The name of a sort of operation. -/
def name : OperationKind → String
  | check => "check"
  | create => "create_relationships"
  | delete => "delete_relationships"
  | read => "read_relationships"
  | subjects => "lookup_subjects"
  | resources => "lookup_resources"
  | acquire => "acquire_lock"
  | available => "is_backend_available"

/-- The sort of operation of a name. -/
def ofName? (s : String) : Option OperationKind := all.find? (·.name == s)

end OperationKind

/-- The operation that answers a streaming query. -/
def StreamQuery.operation : StreamQuery → OperationKind
  | subjects _ => .subjects
  | resources _ => .resources
  | read _ => .read

/-- An operation with one answer. -/
inductive Operation where
  | check (query : CheckQuery)
  | create (batch : List Relationship) (mode : WriteMode)
  | delete (filter : RelationshipFilter)
  | acquire (identifier : String) (existing : Option LockToken)
  | available
  deriving DecidableEq, Repr

namespace Operation

/-- The sort of an operation. -/
def kind : Operation → OperationKind
  | check _ => .check
  | create _ _ => .create
  | delete _ => .delete
  | acquire _ _ => .acquire
  | available => .available

/-- The answer that an operation has. -/
def Answer : Operation → Type
  | check _ => CheckResult
  | create _ _ => ConsistencyToken
  | delete _ => ConsistencyToken
  | acquire _ _ => LockToken
  | available => Unit

end Operation

/-- An operation as the backend notes it. -/
inductive Issued where
  | single (operation : Operation)
  | stream (query : StreamQuery) (limit : UInt32) (place : Option ContinuationToken)
  deriving DecidableEq, Repr

/-- What strikes the operations of a sort, in this order. -/
structure Disturbance where
  /-- How long the operation is held up. -/
  delay : Nat := 0
  /-- The words of a fault that brings the caller down. -/
  panic : Option String := none
  error : Option BackendError := none
  /-- A stream is opened but fails at once. -/
  streamError : Option BackendError := none

/-- A script that takes the place of the streams. -/
structure Script where
  ids : List String
  pace : Nat := 0
  ending : FeedEnding := .close
  openError : Option BackendError := none

namespace Script

/-- The document of a scripted item. -/
def document (id : String) : ObjectRef := ⟨"document", id⟩

/-- The user of a scripted item. -/
def user (id : String) : SubjectRef := ⟨⟨"user", id⟩, none⟩

/-- The item of an id, as the query wants it. -/
def item (query : StreamQuery) (id : String) : Item :=
  match query with
  | .subjects _ => .subject ⟨user id, ⟨id⟩, ⟨"1"⟩⟩
  | .resources _ => .resource ⟨document id, ⟨id⟩, ⟨"1"⟩⟩
  | .read _ => .relationship ⟨⟨document id, "viewer", user id⟩, ⟨id⟩, ⟨"1"⟩⟩

/-- The feed of a script. -/
def feed (s : Script) (query : StreamQuery) (now : Nat) : Feed :=
  { items := fun n => (s.ids[n]?).map (item query), pace := s.pace, ready := now + s.pace,
    ending := s.ending, pipe := .ofCapacity 1 }

end Script

/-- The number of items between a stream of the store and its consumer. -/
def storeBuffer : Nat := 16

/-- The backend. -/
structure Backend where
  store : Store := {}
  isAvailable : Bool := true
  buffer : Nat := storeBuffer
  disturbance : OperationKind → Disturbance := fun _ => {}
  script : Option Script := none
  /-- Acquisitions give back what was presented. -/
  echoesLocks : Bool := false
  /-- The operations so far. -/
  journal : List Issued := []
  /-- The supply of fresh lock tokens. -/
  mint : Nat → LockToken
  /-- How many lock tokens have been handed out. -/
  minted : Nat := 0

/-- What comes of an operation: a fault that brings the caller down, or an answer. -/
inductive Reaction (α : Type) where
  | panicked (words : String)
  | answered (outcome : Except BackendError α)

namespace Backend

/-- Notes an operation. -/
def note (b : Backend) (i : Issued) : Backend := { b with journal := b.journal ++ [i] }

/-- How long operations of a sort are held up. -/
def delayOf (b : Backend) (kind : OperationKind) : Nat := (b.disturbance kind).delay

/-- Refuses every operation while the backend is down. -/
def checkAvailable (b : Backend) : Except BackendError Unit :=
  if b.isAvailable then .ok ()
  else .error ⟨.unavailable, "in-memory backend is marked unavailable"⟩

/-- Puts a written store in place. -/
def written {α : Type} (b : Backend) : Except BackendError (α × Store) → Except BackendError α × Backend
  | .ok (a, store) => (.ok a, { b with store })
  | .error e => (.error e, b)

/-- Acquires a lock with the next fresh token. -/
def acquire (b : Backend) (identifier : String) (existing : Option LockToken) :
    Except BackendError LockToken × Backend :=
  if b.echoesLocks then (.ok (existing.getD ⟨"first"⟩), b)
  else
    match b.checkAvailable with
    | .error e => (.error e, b)
    | .ok () =>
      match b.store.acquire identifier existing (b.mint b.minted) with
      | .ok (token, store) => (.ok token, { b with store, minted := b.minted + 1 })
      | .error e => (.error e, b)

/-- Performs an operation on the store. -/
def perform (b : Backend) : (op : Operation) → Except BackendError op.Answer × Backend
  | .check q => (do b.checkAvailable; b.store.check q, b)
  | .create batch mode => b.written do b.checkAvailable; b.store.create batch mode
  | .delete f => b.written do b.checkAvailable; b.store.delete f
  | .acquire identifier existing => b.acquire identifier existing
  | .available => (b.checkAvailable, b)

/-- What comes of an operation once its delay is over. -/
def react (b : Backend) (op : Operation) : Reaction op.Answer × Backend :=
  let d := b.disturbance op.kind
  match d.panic, d.error with
  | some words, _ => (.panicked words, b)
  | none, some e => (.answered (.error e), b)
  | none, none =>
    let (outcome, b) := b.perform op
    (.answered outcome, b)

/-- Opens a stream on the store, or the scripted one. -/
def openFeed (b : Backend) (query : StreamQuery) (limit : UInt32)
    (place : Option ContinuationToken) (now : Nat) : Except BackendError Feed :=
  match b.script with
  | some s =>
    match s.openError with
    | some e => .error e
    | none => .ok (s.feed query now)
  | none => do
    b.checkAvailable
    return .ofItems b.buffer (← b.store.answer limit place query)

/-- What comes of opening a stream once its delay is over. -/
def reactStream (b : Backend) (query : StreamQuery) (limit : UInt32)
    (place : Option ContinuationToken) (now : Nat) : Reaction Feed :=
  let d := b.disturbance query.operation
  match d.panic, d.error, d.streamError with
  | some words, _, _ => .panicked words
  | none, some e, _ => .answered (.error e)
  | none, none, some e => .answered (.ok (.failed e))
  | none, none, none =>
    match b.openFeed query limit place now with
    | .error e => .answered (.error e)
    | .ok feed =>
      if b.script.isNone ∧ Channel.maxCapacity < b.buffer then .panicked Channel.overflowWords
      else .answered (.ok feed)

end Backend

end RelationGate
