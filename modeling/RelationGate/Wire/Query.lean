import RelationGate.Wire.Basic

/-!
# Wire forms of queries and answers
-/

namespace RelationGate

open Json Text

instance : Render UInt32 := ⟨fun n => toString n.toNat⟩

/-- The wire form of a paging block. -/
def Pagination.codec : Codec Pagination :=
  .record "struct Pagination" (T := [Option UInt32, Option ContinuationToken])
    (.optional "limit" .word32, .optional "continuation_token" ContinuationToken.codec, ())
    (fun (limit, continuation, ()) => ⟨limit, continuation⟩)
    (fun p => (p.limit, p.continuation, ()))

instance : Render Pagination where
  render p := renderRecord "Pagination"
    [("limit", render p.limit), ("continuation_token", render p.continuation)]

/-- The freshness of a query; the cheapest one unless given. -/
def consistencyField : RecordField Consistency :=
  .defaulted "consistency" Consistency.codec .minimizeLatency

/-- The wire form of a check. -/
def CheckQuery.codec : Codec CheckQuery :=
  .record "struct CheckQuery" (T := [ObjectRef, String, SubjectRef, Consistency])
    (.required "resource" ObjectRef.codec, .required "permission" .text,
      .required "subject" SubjectRef.codec, consistencyField, ())
    (fun (resource, permission, subject, consistency, ()) =>
      ⟨resource, permission, subject, consistency⟩)
    (fun q => (q.resource, q.permission, q.subject, q.consistency, ()))

instance : Render CheckQuery where
  render q := renderRecord "CheckQuery"
    [("resource", render q.resource), ("permission", render q.permission),
      ("subject", render q.subject), ("consistency", render q.consistency)]

/-- The wire form of a read. -/
def ReadQuery.codec : Codec ReadQuery :=
  .record "struct ReadRelationshipsQuery"
    (T := [RelationshipFilter, Consistency, Option Pagination])
    (.required "filter" RelationshipFilter.codec, consistencyField,
      .optional "pagination" Pagination.codec, ())
    (fun (filter, consistency, pagination, ()) => ⟨filter, consistency, pagination⟩)
    (fun q => (q.filter, q.consistency, q.pagination, ()))

instance : Render ReadQuery where
  render q := renderRecord "ReadRelationshipsQuery"
    [("filter", render q.filter), ("consistency", render q.consistency),
      ("pagination", render q.pagination)]

/-- The wire form of a lookup of subjects. -/
def SubjectsQuery.codec : Codec SubjectsQuery :=
  .record "struct LookupSubjectsQuery"
    (T := [ObjectRef, String, String, Option String, Consistency, Option Pagination])
    (.required "resource" ObjectRef.codec, .required "permission" .text,
      .required "subject_type" .text, .optional "subject_relation" .text, consistencyField,
      .optional "pagination" Pagination.codec, ())
    (fun (resource, permission, subjectType, subjectRelation, consistency, pagination, ()) =>
      ⟨resource, permission, subjectType, subjectRelation, consistency, pagination⟩)
    (fun q => (q.resource, q.permission, q.subjectType, q.subjectRelation, q.consistency,
      q.pagination, ()))

instance : Render SubjectsQuery where
  render q := renderRecord "LookupSubjectsQuery"
    [("resource", render q.resource), ("permission", render q.permission),
      ("subject_type", render q.subjectType), ("subject_relation", render q.subjectRelation),
      ("consistency", render q.consistency), ("pagination", render q.pagination)]

/-- The wire form of a lookup of resources. -/
def ResourcesQuery.codec : Codec ResourcesQuery :=
  .record "struct LookupResourcesQuery"
    (T := [String, String, SubjectRef, Consistency, Option Pagination])
    (.required "resource_type" .text, .required "permission" .text,
      .required "subject" SubjectRef.codec, consistencyField,
      .optional "pagination" Pagination.codec, ())
    (fun (resourceType, permission, subject, consistency, pagination, ()) =>
      ⟨resourceType, permission, subject, consistency, pagination⟩)
    (fun q => (q.resourceType, q.permission, q.subject, q.consistency, q.pagination, ()))

instance : Render ResourcesQuery where
  render q := renderRecord "LookupResourcesQuery"
    [("resource_type", render q.resourceType), ("permission", render q.permission),
      ("subject", render q.subject), ("consistency", render q.consistency),
      ("pagination", render q.pagination)]

/-! ## Answers -/

/-- The wire form of a verdict. -/
def Permissionship.codec : Codec Permissionship :=
  .choice [("no_permission", .noPermission), ("has_permission", .hasPermission)] fun
    | .noPermission => "no_permission"
    | .hasPermission => "has_permission"

instance : Render Permissionship where
  render
    | .noPermission => "NoPermission"
    | .hasPermission => "HasPermission"

/-- The wire form of the answer to a check. -/
def CheckResult.codec : Codec CheckResult :=
  .record "struct CheckResult" (T := [Permissionship, ConsistencyToken])
    (.required "permissionship" Permissionship.codec,
      .required "checked_at" ConsistencyToken.codec, ())
    (fun (permissionship, checkedAt, ()) => ⟨permissionship, checkedAt⟩)
    (fun r => (r.permissionship, r.checkedAt, ()))

instance : Render CheckResult where
  render r := renderRecord "CheckResult"
    [("permissionship", render r.permissionship), ("checked_at", render r.checkedAt)]

/-- The names of a streamed item: of its type, of what was found and of the point in history. -/
structure HitNames where
  type : String
  value : String
  readAt : String

/-- The names of a found subject. -/
def HitNames.subject : HitNames := ⟨"SubjectResult", "subject", "looked_up_at"⟩

/-- The names of a found resource. -/
def HitNames.resource : HitNames := ⟨"ResourceResult", "resource", "looked_up_at"⟩

/-- The names of a read relationship. -/
def HitNames.relationship : HitNames := ⟨"RelationshipResult", "relationship", "read_at"⟩

/-- The wire form of a streamed item. -/
def Hit.codec {α : Type} (names : HitNames) (codec : Codec α) : Codec (Hit α) :=
  .record ("struct " ++ names.type) (T := [α, ContinuationToken, ConsistencyToken])
    (.required names.value codec, .required "continuation_token" ContinuationToken.codec,
      .required names.readAt ConsistencyToken.codec, ())
    (fun (value, continuation, readAt, ()) => ⟨value, continuation, readAt⟩)
    (fun h => (h.value, h.continuation, h.readAt, ()))

/-- The rendering of a streamed item. -/
def Hit.rendering {α : Type} [Render α] (names : HitNames) (h : Hit α) : String :=
  renderRecord names.type
    [(names.value, render h.value), ("continuation_token", render h.continuation),
      (names.readAt, render h.readAt)]

/-- The wire form of a found subject. -/
def subjectHitCodec : Codec (Hit SubjectRef) := Hit.codec .subject SubjectRef.codec

/-- The wire form of a found resource. -/
def resourceHitCodec : Codec (Hit ObjectRef) := Hit.codec .resource ObjectRef.codec

/-- The wire form of a read relationship. -/
def relationshipHitCodec : Codec (Hit Relationship) := Hit.codec .relationship Relationship.codec

instance : Render (Hit SubjectRef) := ⟨Hit.rendering .subject⟩
instance : Render (Hit ObjectRef) := ⟨Hit.rendering .resource⟩
instance : Render (Hit Relationship) := ⟨Hit.rendering .relationship⟩

/-- The document of a streamed item. -/
def Item.encode : Item → Json
  | .subject h => subjectHitCodec.encode h
  | .resource h => resourceHitCodec.encode h
  | .relationship h => relationshipHitCodec.encode h

end RelationGate
