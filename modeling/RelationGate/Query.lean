import RelationGate.Relationship
import RelationGate.Token

/-!
# Queries and their answers

A check asks whether a subject has a permission on a resource. A read streams the relationships
that a filter selects; the two lookups stream the subjects that have a permission on a resource
and the resources on which a subject has one. Every streamed item carries the place after it and
the point in history that it was taken at.
-/

namespace RelationGate

/-- The paging block of a streaming query. Whether the block is there at all matters. -/
structure Pagination where
  limit : Option UInt32 := none
  continuation : Option ContinuationToken := none
  deriving DecidableEq, Repr

/-- The place to continue from; the empty token stands for none. -/
def Pagination.place (p : Pagination) : Option ContinuationToken :=
  p.continuation.filter (!·.text.isEmpty)

/-- Does the subject have the permission on the resource? -/
structure CheckQuery where
  resource : ObjectRef
  permission : String
  subject : SubjectRef
  consistency : Consistency := .minimizeLatency
  deriving DecidableEq, Repr

/-- Which relationships does the filter select? -/
structure ReadQuery where
  filter : RelationshipFilter
  consistency : Consistency := .minimizeLatency
  pagination : Option Pagination := none
  deriving DecidableEq, Repr

/-- Which subjects of a type, with a given relation, have the permission on the resource? -/
structure SubjectsQuery where
  resource : ObjectRef
  permission : String
  subjectType : String
  subjectRelation : Option String := none
  consistency : Consistency := .minimizeLatency
  pagination : Option Pagination := none
  deriving DecidableEq, Repr

/-- On which resources of a type does the subject have the permission? -/
structure ResourcesQuery where
  resourceType : String
  permission : String
  subject : SubjectRef
  consistency : Consistency := .minimizeLatency
  pagination : Option Pagination := none
  deriving DecidableEq, Repr

/-- Checks the resource, the permission and the subject, in this order. -/
def CheckQuery.validate (q : CheckQuery) : Except BackendError Unit := do
  q.resource.validate
  checkRelationName "permission" q.permission
  q.subject.validate

/-- Checks the filter. -/
def ReadQuery.validate (q : ReadQuery) : Except BackendError Unit := q.filter.validate

/-- Checks the resource, the permission and the wanted subjects, in this order. -/
def SubjectsQuery.validate (q : SubjectsQuery) : Except BackendError Unit := do
  q.resource.validate
  checkRelationName "permission" q.permission
  checkTypeName "subject_type" q.subjectType
  checkOptional (checkRelationName "subject_relation") q.subjectRelation

/-- Checks the wanted resources, the permission and the subject, in this order. -/
def ResourcesQuery.validate (q : ResourcesQuery) : Except BackendError Unit := do
  checkTypeName "resource_type" q.resourceType
  checkRelationName "permission" q.permission
  q.subject.validate

/-- The answer to a check. -/
inductive Permissionship where
  | noPermission
  | hasPermission
  deriving DecidableEq, Repr

/-- The answer to a check and the point in history that it holds at. -/
structure CheckResult where
  permissionship : Permissionship
  checkedAt : ConsistencyToken
  deriving DecidableEq, Repr

/-- The check grants the permission. -/
def CheckResult.allowed (r : CheckResult) : Bool := r.permissionship == .hasPermission

/-- An item of a stream: what was found, the place after it and the point in history. -/
structure Hit (α : Type) where
  value : α
  continuation : ContinuationToken
  readAt : ConsistencyToken
  deriving DecidableEq, Repr

/-- An item of one of the three streams. -/
inductive Item where
  | subject (hit : Hit SubjectRef)
  | resource (hit : Hit ObjectRef)
  | relationship (hit : Hit Relationship)
  deriving DecidableEq, Repr

/-- A query that is answered by a stream. -/
inductive StreamQuery where
  | subjects (query : SubjectsQuery)
  | resources (query : ResourcesQuery)
  | read (query : ReadQuery)
  deriving DecidableEq, Repr

namespace StreamQuery

/-- The operation that answers a query. -/
def activity : StreamQuery → String
  | subjects _ => "LookupSubjects"
  | resources _ => "LookupResources"
  | read _ => "ReadRelationships"

/-- The paging block. -/
def pagination : StreamQuery → Option Pagination
  | subjects q => q.pagination
  | resources q => q.pagination
  | read q => q.pagination

/-- The place to continue from. -/
def place (q : StreamQuery) : Option ContinuationToken := q.pagination.bind Pagination.place

/-- Checks the query. -/
def validate : StreamQuery → Except BackendError Unit
  | subjects q => q.validate
  | resources q => q.validate
  | read q => q.validate

end StreamQuery

end RelationGate
