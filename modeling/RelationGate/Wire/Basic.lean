import RelationGate.Json.Codec
import RelationGate.Request

/-!
# Wire forms

How relationships, tokens, queries and answers stand in documents, and how they are rendered in
the log. Fields that may be missing are left out when they are; the consistency of a query is
always written.
-/

namespace RelationGate

open Json Text

/-! ## Tokens -/

instance : Render ConsistencyToken := ⟨fun t => renderTuple "ConsistencyToken" [render t.text]⟩
instance : Render ContinuationToken := ⟨fun t => renderTuple "ContinuationToken" [render t.text]⟩
instance : Render LockToken := ⟨fun t => renderTuple "LockToken" [render t.text]⟩

/-- A consistency token is a text. -/
def ConsistencyToken.codec : Codec ConsistencyToken := Codec.text.map .mk (·.text)

/-- A continuation token is a text. -/
def ContinuationToken.codec : Codec ContinuationToken := Codec.text.map .mk (·.text)

/-- A lock token is a text. -/
def LockToken.codec : Codec LockToken := Codec.text.map .mk (·.text)

instance : Render Consistency where
  render
    | .minimizeLatency => "MinimizeLatency"
    | .atLeastAsFresh t => renderTuple "AtLeastAsFresh" [render t]
    | .fullyConsistent => "FullyConsistent"

/-- A freshness stands under `requirement`, its token under `token`. -/
def Consistency.tagged : Codec.Tagged Consistency where
  name := "adjacently tagged enum Consistency"
  tag := "requirement"
  content := "token"
  branches :=
    [("minimize_latency", .bare "Consistency::MinimizeLatency" .minimizeLatency),
      ("at_least_as_fresh", .carrying (ConsistencyToken.codec.map .atLeastAsFresh fun
        | .atLeastAsFresh t => t
        | _ => ⟨""⟩)),
      ("fully_consistent", .bare "Consistency::FullyConsistent" .fullyConsistent)]
  view
    | .minimizeLatency => ("minimize_latency", none)
    | .atLeastAsFresh t => ("at_least_as_fresh", some (ConsistencyToken.codec.encode t))
    | .fullyConsistent => ("fully_consistent", none)

/-- The wire form of a freshness. -/
def Consistency.codec : Codec Consistency := Consistency.tagged.codec

/-! ## Relationships -/

/-- The wire form of an object. -/
def ObjectRef.codec : Codec ObjectRef :=
  .record "struct ObjectRef" (T := [String, String])
    (.required "object_type" .text, .required "object_id" .text, ())
    (fun (type, id, ()) => ⟨type, id⟩) (fun o => (o.type, o.id, ()))

instance : Render ObjectRef where
  render o := renderRecord "ObjectRef" [("object_type", render o.type), ("object_id", render o.id)]

/-- The wire form of a subject. -/
def SubjectRef.codec : Codec SubjectRef :=
  .record "struct SubjectRef" (T := [ObjectRef, Option String])
    (.required "object" ObjectRef.codec, .optional "relation" .text, ())
    (fun (object, relation, ()) => ⟨object, relation⟩) (fun s => (s.object, s.relation, ()))

instance : Render SubjectRef where
  render s := renderRecord "SubjectRef" [("object", render s.object), ("relation", render s.relation)]

/-- The wire form of a relationship. -/
def Relationship.codec : Codec Relationship :=
  .record "struct Relationship" (T := [ObjectRef, String, SubjectRef])
    (.required "resource" ObjectRef.codec, .required "relation" .text,
      .required "subject" SubjectRef.codec, ())
    (fun (resource, relation, subject, ()) => ⟨resource, relation, subject⟩)
    (fun r => (r.resource, r.relation, r.subject, ()))

instance : Render Relationship where
  render r := renderRecord "Relationship"
    [("resource", render r.resource), ("relation", render r.relation), ("subject", render r.subject)]

/-- The wire form of a filter. -/
def RelationshipFilter.codec : Codec RelationshipFilter :=
  .record "struct RelationshipFilter"
    (T := [String, Option String, Option String, Option String, Option String])
    (.required "resource_type" .text, .optional "resource_id" .text, .optional "relation" .text,
      .optional "subject_type" .text, .optional "subject_id" .text, ())
    (fun (resourceType, resourceId, relation, subjectType, subjectId, ()) =>
      ⟨resourceType, resourceId, relation, subjectType, subjectId⟩)
    (fun f => (f.resourceType, f.resourceId, f.relation, f.subjectType, f.subjectId, ()))

instance : Render RelationshipFilter where
  render f := renderRecord "RelationshipFilter"
    [("resource_type", render f.resourceType), ("resource_id", render f.resourceId),
      ("relation", render f.relation), ("subject_type", render f.subjectType),
      ("subject_id", render f.subjectId)]

instance : Render WriteMode where
  render
    | .create => "Create"
    | .touch => "Touch"

/-- The wire form of a write mode. -/
def WriteMode.codec : Codec WriteMode :=
  .choice [("create", .create), ("touch", .touch)] fun
    | .create => "create"
    | .touch => "touch"

end RelationGate
