import RelationGate.Wire.Request
import RelationGate.Proofs.Auth.Payload
import RelationGate.Proofs.Json.RoundTrip

/-!
# Wire forms are taken back

Every value that is sent as a document is taken back from it as it was (`wire_forms_round_trip`).
Each type needs no more than that its fields have names of their own and that its codec puts
together what it takes apart; the rest is the way in which its codec is built.

* A missing paging block, an empty one, and one with the limit 0 or the empty token are different
  requests, and they are sent as different documents. So are a missing and an empty relation of a
  subject, and a missing and an empty token.
* Claims are taken from documents that hold other members as well. Whatever has been taken is well
  formed (`Claims.wellFormed_of_decode`, `Claims.wellFormed_of_run`), and what is well formed is
  taken back (`Claims.decode_encode`).
-/

namespace RelationGate

open Json Json.Reader Json.Codec RecordField

/-! ## Tokens -/

theorem ConsistencyToken.codec_roundTrips : ConsistencyToken.codec.RoundTrips :=
  text_roundTrips.map fun _ => rfl

theorem ContinuationToken.codec_roundTrips : ContinuationToken.codec.RoundTrips :=
  text_roundTrips.map fun _ => rfl

theorem LockToken.codec_roundTrips : LockToken.codec.RoundTrips :=
  text_roundTrips.map fun _ => rfl

/-- **A freshness** is taken back by its tag, and the token of one that has one. -/
theorem Consistency.codec_roundTrips : Consistency.codec.RoundTrips := by
  refine Tagged.codec_roundTrips (by decide) ?_
  intro freshness
  cases freshness with
  | minimizeLatency => exact ⟨_, rfl, rfl⟩
  | atLeastAsFresh t => exact ⟨_, rfl, rfl⟩
  | fullyConsistent => exact ⟨_, rfl, rfl⟩

/-! ## Relationships -/

theorem ObjectRef.codec_roundTrips : ObjectRef.codec.RoundTrips :=
  record_roundTrips
    ⟨required_recovers text_roundTrips, by decide, required_recovers text_roundTrips, by decide,
      trivial⟩
    fun _ => rfl

theorem optional_text_recovers {name : String} : (optional name text).Recovers :=
  optional_recovers text_roundTrips fun _ => nofun

theorem SubjectRef.codec_roundTrips : SubjectRef.codec.RoundTrips :=
  record_roundTrips
    ⟨required_recovers ObjectRef.codec_roundTrips, by decide, optional_text_recovers, by decide,
      trivial⟩
    fun _ => rfl

theorem Relationship.codec_roundTrips : Relationship.codec.RoundTrips :=
  record_roundTrips
    ⟨required_recovers ObjectRef.codec_roundTrips, by decide, required_recovers text_roundTrips,
      by decide, required_recovers SubjectRef.codec_roundTrips, by decide, trivial⟩
    fun _ => rfl

theorem RelationshipFilter.codec_roundTrips : RelationshipFilter.codec.RoundTrips :=
  record_roundTrips
    ⟨required_recovers text_roundTrips, by decide, optional_text_recovers, by decide,
      optional_text_recovers, by decide, optional_text_recovers, by decide,
      optional_text_recovers, by decide, trivial⟩
    fun _ => rfl

theorem WriteMode.codec_roundTrips : WriteMode.codec.RoundTrips := by
  refine choice_roundTrips ?_
  intro mode
  cases mode <;> rfl

/-! ## Queries -/

theorem Pagination.codec_roundTrips : Pagination.codec.RoundTrips :=
  record_roundTrips
    ⟨optional_recovers word32_roundTrips fun _ => nofun, by decide,
      optional_recovers ContinuationToken.codec_roundTrips fun _ => nofun, by decide, trivial⟩
    fun _ => rfl

/-- A missing paging block is left out, and an empty one is an object without members. -/
theorem pagination_recovers : (optional "pagination" Pagination.codec).Recovers :=
  optional_recovers Pagination.codec_roundTrips fun _ => nofun

theorem consistencyField_recovers : consistencyField.Recovers :=
  defaulted_recovers Consistency.codec_roundTrips

theorem CheckQuery.codec_roundTrips : CheckQuery.codec.RoundTrips :=
  record_roundTrips
    ⟨required_recovers ObjectRef.codec_roundTrips, by decide, required_recovers text_roundTrips,
      by decide, required_recovers SubjectRef.codec_roundTrips, by decide,
      consistencyField_recovers, by decide, trivial⟩
    fun _ => rfl

theorem ReadQuery.codec_roundTrips : ReadQuery.codec.RoundTrips :=
  record_roundTrips
    ⟨required_recovers RelationshipFilter.codec_roundTrips, by decide, consistencyField_recovers,
      by decide, pagination_recovers, by decide, trivial⟩
    fun _ => rfl

theorem SubjectsQuery.codec_roundTrips : SubjectsQuery.codec.RoundTrips :=
  record_roundTrips
    ⟨required_recovers ObjectRef.codec_roundTrips, by decide, required_recovers text_roundTrips,
      by decide, required_recovers text_roundTrips, by decide, optional_text_recovers, by decide,
      consistencyField_recovers, by decide, pagination_recovers, by decide, trivial⟩
    fun _ => rfl

theorem ResourcesQuery.codec_roundTrips : ResourcesQuery.codec.RoundTrips :=
  record_roundTrips
    ⟨required_recovers text_roundTrips, by decide, required_recovers text_roundTrips, by decide,
      required_recovers SubjectRef.codec_roundTrips, by decide, consistencyField_recovers,
      by decide, pagination_recovers, by decide, trivial⟩
    fun _ => rfl

/-! ## Answers -/

theorem Permissionship.codec_roundTrips : Permissionship.codec.RoundTrips := by
  refine choice_roundTrips ?_
  intro verdict
  cases verdict <;> rfl

theorem CheckResult.codec_roundTrips : CheckResult.codec.RoundTrips :=
  record_roundTrips
    ⟨required_recovers Permissionship.codec_roundTrips, by decide,
      required_recovers ConsistencyToken.codec_roundTrips, by decide, trivial⟩
    fun _ => rfl

/-- A streamed item is taken back if what was found is and its names differ. -/
theorem Hit.codec_roundTrips {α : Type} {names : HitNames} {c : Codec α} (h : c.RoundTrips)
    (hnames : [names.value, "continuation_token", names.readAt].Nodup) :
    (Hit.codec names c).RoundTrips := by
  obtain ⟨hvalue, hcontinuation, -⟩ : (names.value ≠ "continuation_token" ∧
      names.value ≠ names.readAt) ∧ "continuation_token" ≠ names.readAt ∧ True := by
    simpa using hnames
  refine record_roundTrips ⟨required_recovers h, ?_,
    required_recovers ContinuationToken.codec_roundTrips, ?_,
    required_recovers ConsistencyToken.codec_roundTrips, by simp [Fields.names], trivial⟩
    fun _ => rfl
  · simpa [Fields.names, required] using hvalue
  · simpa [Fields.names, required] using hcontinuation

theorem singleCodec_roundTrips {α : Type} {type name : String} {c : Codec α} (h : c.RoundTrips) :
    (singleCodec type name c).RoundTrips :=
  record_roundTrips ⟨required_recovers h, by simp [Fields.names], trivial⟩ fun _ => rfl

/-! ## Writes and locks -/

theorem CreateRequest.codec_roundTrips : CreateRequest.codec.RoundTrips :=
  record_roundTrips
    ⟨required_recovers Relationship.codec_roundTrips.list, by decide,
      defaulted_recovers WriteMode.codec_roundTrips, by decide, trivial⟩
    fun _ => rfl

theorem DeleteRequest.codec_roundTrips : DeleteRequest.codec.RoundTrips :=
  record_roundTrips ⟨required_recovers RelationshipFilter.codec_roundTrips, by decide, trivial⟩
    fun _ => rfl

theorem LockRequest.codec_roundTrips : LockRequest.codec.RoundTrips :=
  record_roundTrips
    ⟨required_recovers text_roundTrips, by decide,
      optional_recovers LockToken.codec_roundTrips fun _ => nofun, by decide, trivial⟩
    fun _ => rfl

/-! ## Claims -/

namespace Claims

variable {c : Claims}

/-- The other members of claims stand in order, none of them under the name of a claim. -/
structure WellFormed (c : Claims) : Prop where
  inOrder : InOrder c.extra
  others : ∀ m ∈ c.extra, m.1 ≠ "sub" ∧ m.1 ≠ "exp"

/-- **Well-formed claims are taken back.** -/
theorem decode_encode (h : c.WellFormed) : codec.decode (codec.encode c) = .ok c := by
  refine openRecord_recovers ⟨required_recovers text_roundTrips, by decide,
    required_recovers word64_roundTrips, by decide, trivial⟩ rfl h.inOrder ?_
  intro m hm
  simpa [Fields.names, required] using h.others m hm

/-- Claims taken from a document are well formed. -/
theorem wellFormed_of_decode {j : Json} (hj : j.Ordered) (h : codec.decode j = .ok c) :
    c.WellFormed := by
  obtain ⟨ms, values, rfl, rfl⟩ := openRecord_decode h
  refine ⟨InOrder.filter hj, ?_⟩
  intro m hm
  simpa [Fields.names, required] using (List.mem_filter.1 hm).2

/-- Claims read from a text are well formed, in whatever order the text gives its members and
however often. -/
theorem wellFormed_of_run {bytes : List UInt8} (h : run codec.read bytes = .ok c) :
    c.WellFormed := by
  obtain ⟨place, htakes, -⟩ := run_eq_ok_iff.1 h
  obtain ⟨ms, -, hsays⟩ := takes_claims_iff.1 htakes
  have hextra := Json.obj.inj hsays.extra
  refine ⟨hextra ▸ foldl_insertMember_inOrder .nil, ?_⟩
  intro m hm
  rw [← hextra] at hm
  rcases mem_of_mem_foldl_insertMember hm with hm | hm
  · simpa using (List.mem_filter.1 hm).2
  · cases hm

end Claims

/-! ## Everything that is sent -/

/-- The ways of asking for no page in particular. -/
def idlePagings : List (Option Pagination) :=
  [none, some {}, some { limit := some 0 }, some { continuation := some ⟨""⟩ },
    some { limit := some 0, continuation := some ⟨""⟩ }]

theorem nodup_idlePagings : idlePagings.Nodup := by decide

/-- **What is sent as a document is taken back as it was.** The types of relationships, of tokens,
of queries and of answers, and the requests and responses of writes and locks, are all written as
documents that give the same value again. So a missing value is told from an empty one. Claims
that have been taken from a document or read from a text are taken back as well, and no other
member of theirs is named like a claim. -/
theorem wire_forms_round_trip :
    (ObjectRef.codec.RoundTrips ∧ SubjectRef.codec.RoundTrips ∧ Relationship.codec.RoundTrips ∧
      RelationshipFilter.codec.RoundTrips ∧ WriteMode.codec.RoundTrips) ∧
    (ConsistencyToken.codec.RoundTrips ∧ ContinuationToken.codec.RoundTrips ∧
      LockToken.codec.RoundTrips ∧ Consistency.codec.RoundTrips ∧ Pagination.codec.RoundTrips) ∧
    (CheckQuery.codec.RoundTrips ∧ ReadQuery.codec.RoundTrips ∧ SubjectsQuery.codec.RoundTrips ∧
      ResourcesQuery.codec.RoundTrips) ∧
    (CheckResult.codec.RoundTrips ∧ subjectHitCodec.RoundTrips ∧ resourceHitCodec.RoundTrips ∧
      relationshipHitCodec.RoundTrips) ∧
    (CreateRequest.codec.RoundTrips ∧ DeleteRequest.codec.RoundTrips ∧
      LockRequest.codec.RoundTrips ∧ createdCodec.RoundTrips ∧ deletedCodec.RoundTrips ∧
      lockedCodec.RoundTrips) ∧
    ((∀ q : ReadQuery,
        (idlePagings.map fun p => ReadQuery.codec.encode { q with pagination := p }).Nodup) ∧
      (∀ q : SubjectsQuery,
        (idlePagings.map fun p => SubjectsQuery.codec.encode { q with pagination := p }).Nodup) ∧
      (∀ q : ResourcesQuery,
        (idlePagings.map fun p => ResourcesQuery.codec.encode { q with pagination := p }).Nodup) ∧
      (∀ s : SubjectRef, SubjectRef.codec.encode { s with relation := none } ≠
        SubjectRef.codec.encode { s with relation := some "" }) ∧
      (∀ q : SubjectsQuery, SubjectsQuery.codec.encode { q with subjectRelation := none } ≠
        SubjectsQuery.codec.encode { q with subjectRelation := some "" }) ∧
      ∀ r : LockRequest, LockRequest.codec.encode { r with existing := none } ≠
        LockRequest.codec.encode { r with existing := some ⟨""⟩ }) ∧
    ∀ c : Claims, ((∃ j : Json, j.Ordered ∧ Claims.codec.decode j = .ok c) ∨
        ∃ bytes, run Claims.codec.read bytes = .ok c) →
      Claims.codec.decode (Claims.codec.encode c) = .ok c ∧
        ∀ m ∈ c.extra, m.1 ≠ "sub" ∧ m.1 ≠ "exp" := by
  refine ⟨⟨ObjectRef.codec_roundTrips, SubjectRef.codec_roundTrips, Relationship.codec_roundTrips,
      RelationshipFilter.codec_roundTrips, WriteMode.codec_roundTrips⟩,
    ⟨ConsistencyToken.codec_roundTrips, ContinuationToken.codec_roundTrips,
      LockToken.codec_roundTrips, Consistency.codec_roundTrips, Pagination.codec_roundTrips⟩,
    ⟨CheckQuery.codec_roundTrips, ReadQuery.codec_roundTrips, SubjectsQuery.codec_roundTrips,
      ResourcesQuery.codec_roundTrips⟩,
    ⟨CheckResult.codec_roundTrips, Hit.codec_roundTrips SubjectRef.codec_roundTrips (by decide),
      Hit.codec_roundTrips ObjectRef.codec_roundTrips (by decide),
      Hit.codec_roundTrips Relationship.codec_roundTrips (by decide)⟩,
    ⟨CreateRequest.codec_roundTrips, DeleteRequest.codec_roundTrips, LockRequest.codec_roundTrips,
      singleCodec_roundTrips ConsistencyToken.codec_roundTrips,
      singleCodec_roundTrips ConsistencyToken.codec_roundTrips,
      singleCodec_roundTrips LockToken.codec_roundTrips⟩, ⟨?_, ?_, ?_, ?_, ?_, ?_⟩, ?_⟩
  · intro q
    refine nodup_idlePagings.map fun p p' h => ?_
    exact congrArg ReadQuery.pagination (ReadQuery.codec_roundTrips.injective h)
  · intro q
    refine nodup_idlePagings.map fun p p' h => ?_
    exact congrArg SubjectsQuery.pagination (SubjectsQuery.codec_roundTrips.injective h)
  · intro q
    refine nodup_idlePagings.map fun p p' h => ?_
    exact congrArg ResourcesQuery.pagination (ResourcesQuery.codec_roundTrips.injective h)
  · intro s h
    cases congrArg SubjectRef.relation (SubjectRef.codec_roundTrips.injective h)
  · intro q h
    cases congrArg SubjectsQuery.subjectRelation (SubjectsQuery.codec_roundTrips.injective h)
  · intro r h
    cases congrArg LockRequest.existing (LockRequest.codec_roundTrips.injective h)
  · intro c hc
    have hwell : c.WellFormed := by
      rcases hc with ⟨j, hj, hdecode⟩ | ⟨bytes, hrun⟩
      · exact Claims.wellFormed_of_decode hj hdecode
      · exact Claims.wellFormed_of_run hrun
    exact ⟨Claims.decode_encode hwell, hwell.others⟩

/-- Claims that hold a role besides are taken back with it. -/
theorem wire_forms_round_trip_role :
    let c : Claims := ⟨"alice", 9, [("role", .str "admin")]⟩
    Claims.codec.decode (.obj [("exp", .nat 9), ("role", .str "admin"), ("sub", .str "alice")]) =
        .ok c ∧
      Claims.codec.decode (Claims.codec.encode c) = .ok c ∧
        ∀ m ∈ c.extra, m.1 ≠ "sub" ∧ m.1 ≠ "exp" := by
  intro c
  have hdecode : Claims.codec.decode
      (.obj [("exp", .nat 9), ("role", .str "admin"), ("sub", .str "alice")]) = .ok c := rfl
  have horder :
      Ordered (.obj [("exp", .nat 9), ("role", .str "admin"), ("sub", .str "alice")]) := by
    simp only [Ordered, InOrder]
    decide
  obtain ⟨-, -, -, -, -, -, hclaims⟩ := wire_forms_round_trip
  exact ⟨hdecode, hclaims c (.inl ⟨_, horder, hdecode⟩)⟩

end RelationGate
