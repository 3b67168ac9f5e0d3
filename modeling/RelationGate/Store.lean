import RelationGate.Query
import RelationGate.Number.Decimal

/-!
# The relationship store

Relationships are kept in the order in which they were stored, each under a number that is never
given twice. The number is the continuation token of the item; the revision counts the successful
writes and is the consistency token. Checks and lookups only know stored relationships: nothing is
derived from them. For every lock the store keeps the token handed out last.
-/

namespace RelationGate

open Number Text

/-- A stored relationship and its number. -/
structure Row where
  number : Nat
  relationship : Relationship
  deriving DecidableEq, Repr

/-- The state of the store. -/
structure Store where
  /-- In the order of their numbers. -/
  rows : List Row := []
  /-- The number of the next relationship. -/
  nextNumber : Nat := 0
  /-- How many writes have succeeded. -/
  revision : Nat := 0
  /-- The last token of every lock that was ever acquired. -/
  locks : List (String × LockToken) := []
  deriving DecidableEq, Repr

namespace Store

/-- The token of the state. -/
def token (s : Store) : ConsistencyToken := ⟨decimal s.revision⟩

/-- The relationships in the order in which they were stored. -/
def relationships (s : Store) : List Relationship := s.rows.map (·.relationship)

/-- A relationship is stored. -/
def contains (s : Store) (r : Relationship) : Bool := s.rows.any (·.relationship == r)

/-! ## Tokens of a request -/

/-- Refuses a state that is not fresh enough. -/
def checkFreshness (s : Store) : Consistency → Except BackendError Unit
  | .atLeastAsFresh t =>
    match word? t.text with
    | none => .error (invalid ("malformed consistency token " ++ quoted t.text))
    | some wanted =>
      if s.revision < wanted then
        .error ⟨.failedPrecondition, "consistency token " ++ decimal wanted ++
          " is ahead of revision " ++ decimal s.revision⟩
      else .ok ()
  | _ => .ok ()

/-- The number to continue after. -/
def startAfter : Option ContinuationToken → Except BackendError (Option Nat)
  | none => .ok none
  | some t =>
    match word? t.text with
    | none => .error (invalid ("malformed continuation token " ++ quoted t.text))
    | some n => .ok (some n)

/-- A row comes after the place. -/
def isAfter (place : Option Nat) (row : Row) : Bool :=
  match place with
  | none => true
  | some n => n < row.number

/-- At most so many items; zero stands for all. -/
def atMost {α : Type} (limit : UInt32) (items : List α) : List α :=
  if limit = 0 then items else items.take limit.toNat

/-! ## Reading -/

/-- The answer to a check. -/
def check (s : Store) (q : CheckQuery) : Except BackendError CheckResult := do
  s.checkFreshness q.consistency
  return ⟨if s.contains ⟨q.resource, q.permission, q.subject⟩ then .hasPermission
    else .noPermission, s.token⟩

/-- The items after a place in the order of their numbers, at most so many. -/
def select {α : Type} (s : Store) (limit : UInt32) (continuation : Option ContinuationToken)
    (project : Relationship → Option α) : Except BackendError (List (Hit α)) := do
  let place ← startAfter continuation
  let hits := (s.rows.filter (isAfter place)).filterMap fun row =>
    (project row.relationship).map fun a => ⟨a, ⟨decimal row.number⟩, s.token⟩
  return atMost limit hits

/-- The subject of a relationship that a lookup of subjects wants. -/
def subjectOf (q : SubjectsQuery) (r : Relationship) : Option SubjectRef :=
  if r.resource = q.resource ∧ r.relation = q.permission ∧ r.subject.object.type = q.subjectType ∧
      r.subject.relation = q.subjectRelation then some r.subject
  else none

/-- The resource of a relationship that a lookup of resources wants. -/
def resourceOf (q : ResourcesQuery) (r : Relationship) : Option ObjectRef :=
  if r.resource.type = q.resourceType ∧ r.relation = q.permission ∧ r.subject = q.subject then
    some r.resource
  else none

/-- A relationship that a read wants. -/
def relationshipOf (q : ReadQuery) (r : Relationship) : Option Relationship :=
  if q.filter.selects r then some r else none

/-- The subjects that have a permission. -/
def lookupSubjects (s : Store) (q : SubjectsQuery) (limit : UInt32)
    (continuation : Option ContinuationToken) : Except BackendError (List (Hit SubjectRef)) := do
  s.checkFreshness q.consistency
  s.select limit continuation (subjectOf q)

/-- The resources on which a subject has a permission. -/
def lookupResources (s : Store) (q : ResourcesQuery) (limit : UInt32)
    (continuation : Option ContinuationToken) : Except BackendError (List (Hit ObjectRef)) := do
  s.checkFreshness q.consistency
  s.select limit continuation (resourceOf q)

/-- The relationships that a filter selects. -/
def readRelationships (s : Store) (q : ReadQuery) (limit : UInt32)
    (continuation : Option ContinuationToken) : Except BackendError (List (Hit Relationship)) := do
  q.filter.validate
  s.checkFreshness q.consistency
  s.select limit continuation (relationshipOf q)

/-- The items that answer a streaming query. -/
def answer (s : Store) (limit : UInt32) (continuation : Option ContinuationToken) :
    StreamQuery → Except BackendError (List Item)
  | .subjects q => List.map .subject <$> s.lookupSubjects q limit continuation
  | .resources q => List.map .resource <$> s.lookupResources q limit continuation
  | .read q => List.map .relationship <$> s.readRelationships q limit continuation

/-! ## Writing -/

/-- The state after a write has gone through. -/
def commit (s : Store) : Store := { s with revision := s.revision + 1 }

/-- Stores a relationship unless it is stored. -/
def insert (s : Store) (r : Relationship) : Store :=
  if s.contains r then s
  else { s with rows := s.rows ++ [⟨s.nextNumber, r⟩], nextNumber := s.nextNumber + 1 }

/-- The first relationship of a batch that is stored or repeats an earlier one of the batch. -/
def conflict? (s : Store) : List Relationship → List Relationship → Option Relationship
  | _, [] => none
  | seen, r :: rest =>
    if s.contains r ∨ r ∈ seen then some r else conflict? s (r :: seen) rest

/-- Stores a batch of relationships: all of them or none. -/
def create (s : Store) (batch : List Relationship) (mode : WriteMode) :
    Except BackendError (ConsistencyToken × Store) := do
  batch.forM Relationship.validate
  if mode = .create then
    match s.conflict? [] batch with
    | some r => throw ⟨.alreadyExists, r.text⟩
    | none => pure ()
  let written := (batch.foldl insert s).commit
  return (written.token, written)

/-- Deletes the relationships that a filter selects. -/
def delete (s : Store) (f : RelationshipFilter) : Except BackendError (ConsistencyToken × Store) := do
  f.validate
  let written := { s with rows := s.rows.filter fun row => !f.selects row.relationship }.commit
  return (written.token, written)

/-! ## Locks -/

/-- The token that a lock was handed out with last. -/
def holder? (s : Store) (identifier : String) : Option LockToken := s.locks.lookup identifier

/-- The lock table with the token of one lock replaced. -/
def setLock (identifier : String) (token : LockToken) :
    List (String × LockToken) → List (String × LockToken)
  | [] => [(identifier, token)]
  | (other, old) :: rest =>
    if identifier = other then (identifier, token) :: rest
    else (other, old) :: setLock identifier token rest

/-- Hands a lock out with a fresh token. A caller without a token takes the lock over; one with a
token must hold the one handed out last, if the lock was handed out at all. -/
def acquire (s : Store) (identifier : String) (existing : Option LockToken) (fresh : LockToken) :
    Except BackendError (LockToken × Store) :=
  if identifier.isEmpty then .error (invalid "lock identifier must not be empty")
  else
    match existing, s.holder? identifier with
    | some presented, some current =>
      if presented = current then
        .ok (fresh, { s with locks := setLock identifier fresh s.locks })
      else .error ⟨.failedPrecondition, "stale fencing token for lock " ++ identifier⟩
    | _, _ => .ok (fresh, { s with locks := setLock identifier fresh s.locks })

end Store

end RelationGate
