import RelationGate.Wire.Query

/-!
# Wire forms of requests and responses
-/

namespace RelationGate

open Json Text

/-- The wire form of a write. -/
def CreateRequest.codec : Codec CreateRequest :=
  .record "struct CreateRelationshipsRequest" (T := [List Relationship, WriteMode])
    (.required "relationships" Relationship.codec.list,
      .defaulted "touch" WriteMode.codec .create, ())
    (fun (relationships, mode, ()) => ⟨relationships, mode⟩)
    (fun r => (r.relationships, r.mode, ()))

instance : Render CreateRequest where
  render r := renderRecord "CreateRelationshipsRequest"
    [("relationships", render r.relationships), ("touch", render r.mode)]

/-- The wire form of a deletion. -/
def DeleteRequest.codec : Codec DeleteRequest :=
  .record "struct DeleteRelationshipsRequest" (T := [RelationshipFilter])
    (.required "filter" RelationshipFilter.codec, ())
    (fun (filter, ()) => ⟨filter⟩) (fun r => (r.filter, ()))

instance : Render DeleteRequest where
  render r := renderRecord "DeleteRelationshipsRequest" [("filter", render r.filter)]

/-- The wire form of an acquisition. -/
def LockRequest.codec : Codec LockRequest :=
  .record "struct AcquireLockRequest" (T := [String, Option LockToken])
    (.required "identifier" .text, .optional "existing_token" LockToken.codec, ())
    (fun (identifier, existing, ()) => ⟨identifier, existing⟩)
    (fun r => (r.identifier, r.existing, ()))

instance : Render LockRequest where
  render r := renderRecord "AcquireLockRequest"
    [("identifier", render r.identifier), ("existing_token", render r.existing)]

/-- The wire form of a probe. -/
def ProbeRequest.codec : Codec ProbeRequest :=
  .record "struct ProbeRequest" (T := []) () (fun () => ⟨⟩) (fun _ => ())

instance : Render ProbeRequest := ⟨fun _ => renderRecord "ProbeRequest" []⟩

/-- The wire form of the requests of a sort. -/
def Request.codec : (kind : RequestKind) → Codec (Request kind)
  | .probe => ProbeRequest.codec
  | .check => CheckQuery.codec
  | .create => CreateRequest.codec
  | .delete => DeleteRequest.codec
  | .lock => LockRequest.codec
  | .read => ReadQuery.codec
  | .subjects => SubjectsQuery.codec
  | .resources => ResourcesQuery.codec

/-- The rendering of a request of any sort. -/
def Request.rendering : (kind : RequestKind) → Request kind → String
  | .probe, r => render (α := ProbeRequest) r
  | .check, q => render (α := CheckQuery) q
  | .create, r => render (α := CreateRequest) r
  | .delete, r => render (α := DeleteRequest) r
  | .lock, r => render (α := LockRequest) r
  | .read, q => render (α := ReadQuery) q
  | .subjects, q => render (α := SubjectsQuery) q
  | .resources, q => render (α := ResourcesQuery) q

/-- The request of a sort that an inbound message holds; a missing message is an empty one. -/
def Request.decode (kind : RequestKind) (message : Json) : Except CallError (Request kind) :=
  let message := match message with | .null => Json.empty | j => j
  match (Request.codec kind).decode message with
  | .ok r => .ok r
  | .error fault => .error (.badRequest ("could not decode request: " ++ fault.describe))

/-! ## Responses -/

/-- The wire form of the answer to a check. -/
def CheckResponse.codec : Codec CheckResponse :=
  .record "struct CheckResponse" (T := [Permissionship, Bool, ConsistencyToken])
    (.required "permissionship" Permissionship.codec, .required "allowed" .flag,
      .required "checked_at" ConsistencyToken.codec, ())
    (fun (permissionship, allowed, checkedAt, ()) => ⟨permissionship, allowed, checkedAt⟩)
    (fun r => (r.permissionship, r.allowed, r.checkedAt, ()))

instance : Render CheckResponse where
  render r := renderRecord "CheckResponse"
    [("permissionship", render r.permissionship), ("allowed", render r.allowed),
      ("checked_at", render r.checkedAt)]

/-- A record that holds one text under a name. -/
def singleCodec {α : Type} (type name : String) (codec : Codec α) : Codec α :=
  .record ("struct " ++ type) (T := [α]) (.required name codec, ()) (fun (a, ()) => a)
    (fun a => (a, ()))

/-- The answer to a write. -/
def createdCodec : Codec ConsistencyToken :=
  singleCodec "CreateRelationshipsResponse" "written_at" ConsistencyToken.codec

/-- The answer to a deletion. -/
def deletedCodec : Codec ConsistencyToken :=
  singleCodec "DeleteRelationshipsResponse" "deleted_at" ConsistencyToken.codec

/-- The answer to an acquisition. -/
def lockedCodec : Codec LockToken := singleCodec "AcquireLockResponse" "token" LockToken.codec

/-- The answer to a probe. -/
def statusCodec : Codec String := singleCodec "ProbeResponse" "status" .text

/-- The document of a response. -/
def Response.encode : Response → Json
  | .check r => CheckResponse.codec.encode r
  | .created t => createdCodec.encode t
  | .deleted t => deletedCodec.encode t
  | .locked t => lockedCodec.encode t
  | .serving => statusCodec.encode "serving"
  | .item i => i.encode

end RelationGate
