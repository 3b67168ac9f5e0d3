import RelationGate.Naming

/-!
# Relationships

A relationship says that a resource has a relation to a subject. The subject is an object, or the
set of those that have a relation to an object. A filter selects relationships by the type of
their resource and by whatever else it names.
-/

namespace RelationGate

/-- A typed object, such as `document:readme`. -/
structure ObjectRef where
  type : String
  id : String
  deriving DecidableEq, Repr

/-- The subject side of a relationship: an object, or one of its relations, such as
`group:eng#member`. -/
structure SubjectRef where
  object : ObjectRef
  relation : Option String := none
  deriving DecidableEq, Repr

/-- A stored fact: the resource has the relation to the subject. -/
structure Relationship where
  resource : ObjectRef
  relation : String
  subject : SubjectRef
  deriving DecidableEq, Repr

namespace ObjectRef

/-- The written form. -/
def text (o : ObjectRef) : String := o.type ++ ":" ++ o.id

/-- Checks the type and then the id. -/
def validate (o : ObjectRef) : Except BackendError Unit := do
  checkTypeName "object_type" o.type
  checkObjectId o.id

end ObjectRef

namespace SubjectRef

/-- The written form. -/
def text (s : SubjectRef) : String :=
  match s.relation with
  | some r => s.object.text ++ "#" ++ r
  | none => s.object.text

/-- Checks the object and then the relation. -/
def validate (s : SubjectRef) : Except BackendError Unit := do
  s.object.validate
  checkOptional (checkRelationName "subject.relation") s.relation

end SubjectRef

namespace Relationship

/-- The written form. -/
def text (r : Relationship) : String := r.resource.text ++ "#" ++ r.relation ++ "@" ++ r.subject.text

/-- Checks the resource, the relation and the subject, in this order. -/
def validate (r : Relationship) : Except BackendError Unit := do
  r.resource.validate
  checkRelationName "relation" r.relation
  r.subject.validate

end Relationship

/-- A selection of relationships: the type of the resource is mandatory, all else narrows. -/
structure RelationshipFilter where
  resourceType : String
  resourceId : Option String := none
  relation : Option String := none
  subjectType : Option String := none
  subjectId : Option String := none
  deriving DecidableEq, Repr

namespace RelationshipFilter

/-- The filter that only asks for a type of resource. -/
def forType (resourceType : String) : RelationshipFilter := { resourceType }

/-- Checks the fields in order; the id of a subject needs its type. -/
def validate (f : RelationshipFilter) : Except BackendError Unit := do
  checkTypeName "filter.resource_type" f.resourceType
  checkOptional checkObjectId f.resourceId
  checkOptional (checkRelationName "filter.relation") f.relation
  checkOptional (checkTypeName "filter.subject_type") f.subjectType
  match f.subjectId with
  | none => .ok ()
  | some id =>
    if f.subjectType.isNone then
      .error (invalid "filter.subject_id requires filter.subject_type")
    else checkObjectId id

/-- A value is wanted, or any value will do. -/
def admits (wanted : Option String) (value : String) : Bool :=
  match wanted with
  | none => true
  | some w => w == value

/-- Whether the filter selects a relationship. -/
def selects (f : RelationshipFilter) (r : Relationship) : Bool :=
  r.resource.type == f.resourceType && admits f.resourceId r.resource.id &&
    admits f.relation r.relation && admits f.subjectType r.subject.object.type &&
    admits f.subjectId r.subject.object.id

end RelationshipFilter

/-- How a write treats relationships that are already stored. -/
inductive WriteMode where
  /-- The write fails if one of them is stored. -/
  | create
  /-- Stored ones are left in place. -/
  | touch
  deriving DecidableEq, Repr

end RelationGate
