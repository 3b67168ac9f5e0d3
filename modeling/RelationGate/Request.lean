import RelationGate.Query

/-!
# Requests

What a call may receive: a query, a write, the acquisition of a lock, or a probe. Every request
but the probe can be checked before anything is done about it.
-/

namespace RelationGate

open Text

/-- The most relationships of one write. -/
def maxRelationshipsPerWrite : Nat := 1000

/-- Stores relationships. -/
structure CreateRequest where
  relationships : List Relationship
  mode : WriteMode := .create
  deriving DecidableEq, Repr

/-- Deletes what a filter selects. -/
structure DeleteRequest where
  filter : RelationshipFilter
  deriving DecidableEq, Repr

/-- Acquires a lock, with the caller's last token for it if there is one. -/
structure LockRequest where
  identifier : String
  existing : Option LockToken := none
  deriving DecidableEq, Repr

/-- Asks whether the gateway lives or is ready. -/
structure ProbeRequest where
  deriving DecidableEq, Repr

/-- Checks the size of the write and then every relationship in order. -/
def CreateRequest.validate (r : CreateRequest) : Except BackendError Unit :=
  if r.relationships.isEmpty then .error (invalid "at least one relationship is required")
  else if maxRelationshipsPerWrite < r.relationships.length then
    .error (invalid ("at most " ++ toString maxRelationshipsPerWrite ++
      " relationships per write, got " ++ toString r.relationships.length))
  else r.relationships.forM Relationship.validate

/-- Checks the filter. -/
def DeleteRequest.validate (r : DeleteRequest) : Except BackendError Unit := r.filter.validate

/-- Refuses a blank identifier of a lock. -/
def checkLockIdentifier (identifier : String) : Except BackendError Unit :=
  if isBlankText identifier then .error (invalid "lock identifier must not be empty") else .ok ()

/-- Checks the identifier. -/
def LockRequest.validate (r : LockRequest) : Except BackendError Unit :=
  checkLockIdentifier r.identifier

/-- The sorts of request. -/
inductive RequestKind where
  | probe
  | check
  | create
  | delete
  | lock
  | read
  | subjects
  | resources
  deriving DecidableEq, Repr

/-- The requests of a sort. -/
def Request : RequestKind → Type
  | .probe => ProbeRequest
  | .check => CheckQuery
  | .create => CreateRequest
  | .delete => DeleteRequest
  | .lock => LockRequest
  | .read => ReadQuery
  | .subjects => SubjectsQuery
  | .resources => ResourcesQuery

/-- Checks a request of any sort; a probe is always accepted. -/
def Request.validate : (kind : RequestKind) → Request kind → Except BackendError Unit
  | .probe, _ => .ok ()
  | .check, q => CheckQuery.validate q
  | .create, r => CreateRequest.validate r
  | .delete, r => DeleteRequest.validate r
  | .lock, r => LockRequest.validate r
  | .read, q => ReadQuery.validate q
  | .subjects, q => SubjectsQuery.validate q
  | .resources, q => ResourcesQuery.validate q

/-- The answer to a check as it is sent. -/
structure CheckResponse where
  permissionship : Permissionship
  allowed : Bool
  checkedAt : ConsistencyToken
  deriving DecidableEq, Repr

/-- The answer to a check, with its verdict spelled out. -/
def CheckResponse.ofResult (r : CheckResult) : CheckResponse :=
  ⟨r.permissionship, r.allowed, r.checkedAt⟩

/-- What a call may send. -/
inductive Response where
  | check (response : CheckResponse)
  | created (writtenAt : ConsistencyToken)
  | deleted (deletedAt : ConsistencyToken)
  | locked (token : LockToken)
  | serving
  | item (item : Item)
  deriving DecidableEq, Repr

end RelationGate
