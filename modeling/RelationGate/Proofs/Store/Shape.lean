import RelationGate.Lookup
import RelationGate.Proofs.Store.Genuine
import RelationGate.Proofs.Store.Writes
import RelationGate.Wire.Request

/-!
# Requests in shape

The rules for a request are looked at more than once: at the gate of the gateway (`Request.accept`),
by the lookup engine before it starts a lookup, by the service of the locks, and by the store before
it writes or reads. A request that the gate lets through is in shape for all of them
(`Request.isInShape_of_accept`): what a backend can still call invalid about it is a token that is
no word (`BlamesToken`).
-/

namespace RelationGate

open Json Number Store Text

/-! ## The gate -/

namespace Request

/-- The request that a message holds, if the gate lets it through: it can be decoded, and it passes
its check. -/
def accept (kind : RequestKind) (message : Json) : Except CallError (Request kind) :=
  match decode kind message with
  | .error e => .error e
  | .ok r =>
    match validate kind r with
    | .ok () => .ok r
    | .error e => .error (.badRequest e.text)

variable {kind : RequestKind} {message : Json} {r : Request kind} {e : CallError}

theorem accept_eq_ok_iff :
    accept kind message = .ok r ↔ decode kind message = .ok r ∧ validate kind r = .ok () := by
  unfold accept
  cases decode kind message with
  | error e => simp
  | ok q =>
    cases hvalid : validate kind q with
    | error e =>
      simp only [hvalid, reduceCtorEq, Except.ok.injEq, false_iff, not_and]
      rintro rfl h
      cases hvalid.symm.trans h
    | ok u =>
      simp only [hvalid, Except.ok.injEq]
      constructor
      · rintro rfl
        exact ⟨rfl, hvalid⟩
      · exact And.left

/-- **A request that is held back** is a fault of the client. -/
theorem accept_eq_error (h : accept kind message = .error e) :
    e.status = .invalidArgument ∧ e.reason = "bad_request" := by
  unfold accept at h
  split at h
  next e' hdecode =>
    cases h
    unfold decode at hdecode
    simp only at hdecode
    split at hdecode
    · cases hdecode
    · cases hdecode
      exact ⟨rfl, rfl⟩
  next r hdecode =>
    split at h
    · cases h
    · cases h
      exact ⟨rfl, rfl⟩

end Request

/-! ## What is asked of the backend -/

/-- A failure that says of a token of a request that it is malformed, and the token is no word. -/
inductive BlamesToken (consistency : Consistency) (place : Option ContinuationToken) :
    BackendError → Prop where
  | consistency (t : ConsistencyToken) (hasked : consistency = .atLeastAsFresh t)
      (hword : ¬ ∃ n, Denotes t.text n) :
      BlamesToken consistency place (invalid ("malformed consistency token " ++ quoted t.text))
  | place (t : ContinuationToken) (hplace : place = some t) (hword : ¬ ∃ n, Denotes t.text n) :
      BlamesToken consistency place (invalid ("malformed continuation token " ++ quoted t.text))

namespace Request

/-- The point in history that a request asks for; one that does not read asks for none. -/
def consistency : (kind : RequestKind) → Request kind → Consistency
  | .check, q => CheckQuery.consistency q
  | .read, q => ReadQuery.consistency q
  | .subjects, q => SubjectsQuery.consistency q
  | .resources, q => ResourcesQuery.consistency q
  | .probe, _ | .create, _ | .delete, _ | .lock, _ => .minimizeLatency

/-- The stream that a request asks for. -/
def stream? : (kind : RequestKind) → Request kind → Option StreamQuery
  | .read, q => some (.read q)
  | .subjects, q => some (.subjects q)
  | .resources, q => some (.resources q)
  | .probe, _ | .check, _ | .create, _ | .delete, _ | .lock, _ => none

/-- The operation with one answer that a request asks for. -/
def operation? : (kind : RequestKind) → Request kind → Option Operation
  | .probe, _ => some .available
  | .check, q => some (.check q)
  | .create, r => some (.create (CreateRequest.relationships r) (CreateRequest.mode r))
  | .delete, r => some (.delete (DeleteRequest.filter r))
  | .lock, r => some (.acquire (LockRequest.identifier r) (LockRequest.existing r))
  | .read, _ | .subjects, _ | .resources, _ => none

/-- The place that a request asks to continue from. -/
def place (kind : RequestKind) (r : Request kind) : Option ContinuationToken :=
  (stream? kind r).bind StreamQuery.place

/-- A failure blames a token of the request. -/
def Blamed (kind : RequestKind) (r : Request kind) : BackendError → Prop :=
  BlamesToken (consistency kind r) (place kind r)

/-- **Nobody behind the gate objects to the shape of the request.** The lookup engine starts its
lookup, the service of the locks goes on to the backend, and whatever a backend holds and whether it
is available or not, it calls nothing invalid but a token that is no word. -/
structure IsInShape (kind : RequestKind) (r : Request kind) : Prop where
  engine : ∀ q, stream? kind r = some q → ∀ settings e,
    Lookup.start settings q ≠ .answered (.error e)
  lock : ∀ identifier existing, operation? kind r = some (.acquire identifier existing) →
    checkLockIdentifier identifier = .ok ()
  operation : ∀ op, operation? kind r = some op → ∀ (b : Backend) (e : BackendError),
    (b.perform op).1 = .error e → e.kind = .invalidArgument → Blamed kind r e
  stream : ∀ q, stream? kind r = some q → ∀ (b : Backend) (limit : UInt32) (now : Nat)
    (e : BackendError), b.script = none → b.openFeed q limit q.place now = .error e →
      e.kind = .invalidArgument → Blamed kind r e

end Request

/-! ## What the store refuses -/

namespace Store

variable {s : Store} {q : StreamQuery} {c : Consistency} {place : Option ContinuationToken}
  {e : BackendError}

/-- The store blames the consistency token, or is behind it. -/
theorem blames_of_checkFreshness (h : s.checkFreshness c = .error e)
    (hkind : e.kind = .invalidArgument) : BlamesToken c place e := by
  unfold checkFreshness at h
  split at h
  next t =>
    split at h
    next hword =>
      cases h
      exact .consistency t rfl (word?_eq_none_iff.1 hword)
    next =>
      split at h
      · cases h
        cases hkind
      · cases h
  next => cases h

theorem blames_of_startAfter (h : startAfter place = .error e) : BlamesToken c place e := by
  unfold startAfter at h
  split at h
  · cases h
  next t =>
    split at h
    next hword =>
      cases h
      exact .place t rfl (word?_eq_none_iff.1 hword)
    next => cases h

/-- **Why the store refuses to read**: it blames a token, or is behind the one it is asked for. -/
theorem blames_of_answer (hfilter : q.HasValidFilter) {limit : UInt32}
    (h : s.answer limit place q = .error e) (hkind : e.kind = .invalidArgument) :
    BlamesToken q.consistency place e := by
  rw [answer_eq, vet_of_hasValidFilter hfilter] at h
  cases hfresh : s.checkFreshness q.consistency with
  | error e' =>
    rw [hfresh] at h
    cases h
    exact blames_of_checkFreshness hfresh hkind
  | ok u =>
    rw [hfresh] at h
    cases hplace : startAfter place with
    | error e' =>
      rw [hplace] at h
      cases h
      exact blames_of_startAfter hplace
    | ok after =>
      rw [hplace] at h
      cases h

theorem blames_of_check {q : CheckQuery} (h : s.check q = .error e)
    (hkind : e.kind = .invalidArgument) : BlamesToken q.consistency place e := by
  unfold check at h
  cases hfresh : s.checkFreshness q.consistency with
  | error e' =>
    rw [hfresh] at h
    cases h
    exact blames_of_checkFreshness hfresh hkind
  | ok u =>
    rw [hfresh] at h
    cases h

/-- A valid batch is refused only for what is stored. -/
theorem create_eq_error {batch : List Relationship} {mode : WriteMode}
    (hbatch : batch.forM Relationship.validate = .ok ()) (h : s.create batch mode = .error e) :
    e.kind = .alreadyExists := by
  unfold create at h
  rw [hbatch] at h
  cases mode with
  | touch => cases h
  | create =>
    cases hconflict : s.conflict? [] batch with
    | none =>
      simp only [hconflict] at h
      cases h
    | some r =>
      simp only [hconflict] at h
      cases h
      rfl

/-- A valid filter is not refused. -/
theorem delete_ne_error {f : RelationshipFilter} (hfilter : f.validate = .ok ()) :
    s.delete f ≠ .error e := by
  unfold delete
  rw [hfilter]
  nofun

/-- A lock with a name is refused only for a stale token. -/
theorem acquire_eq_error {identifier : String} {existing : Option LockToken} {fresh : LockToken}
    (hname : identifier.isEmpty = false) (h : s.acquire identifier existing fresh = .error e) :
    e.kind = .failedPrecondition := by
  unfold acquire at h
  rw [hname, if_neg Bool.false_ne_true] at h
  split at h
  · split at h
    · cases h
    · cases h
      rfl
  · cases h

end Store

/-- A text that is not blank is not empty. -/
theorem isEmpty_of_checkLockIdentifier {identifier : String}
    (h : checkLockIdentifier identifier = .ok ()) : identifier.isEmpty = false := by
  unfold checkLockIdentifier at h
  split at h
  · cases h
  next hblank =>
    cases hempty : identifier.isEmpty with
    | false => rfl
    | true =>
      rw [String.isEmpty_iff.1 hempty] at hblank
      exact absurd rfl hblank

namespace Backend

variable {b : Backend} {e : BackendError}

/-- A backend that is down refuses, and so may what it was asked for. -/
theorem checkAvailable_bind_eq_error {α : Type} {f : Unit → Except BackendError α}
    (h : b.checkAvailable >>= f = .error e) : e.kind = .unavailable ∨ f () = .error e := by
  unfold checkAvailable at h
  split at h
  · exact .inr h
  · cases h
    exact .inl rfl

theorem written_eq_error {α : Type} {attempt : Except BackendError (α × Store)}
    (h : (b.written attempt).1 = .error e) : attempt = .error e := by
  obtain e' | ⟨a, store⟩ := attempt
  · cases h
    rfl
  · cases h

/-- **A check that fails** blames its token, unless it is not called invalid. -/
theorem blames_of_perform_check {q : CheckQuery} {place : Option ContinuationToken}
    (h : (b.perform (.check q)).1 = .error e) (hkind : e.kind = .invalidArgument) :
    BlamesToken q.consistency place e := by
  obtain hdown | hstore := checkAvailable_bind_eq_error h
  · cases hdown.symm.trans hkind
  · exact blames_of_check hstore hkind

theorem perform_create_eq_error {batch : List Relationship} {mode : WriteMode}
    (hbatch : batch.forM Relationship.validate = .ok ())
    (h : (b.perform (.create batch mode)).1 = .error e) :
    e.kind = .unavailable ∨ e.kind = .alreadyExists :=
  (checkAvailable_bind_eq_error (written_eq_error h)).imp_right (create_eq_error hbatch)

theorem perform_delete_eq_error {f : RelationshipFilter} (hfilter : f.validate = .ok ())
    (h : (b.perform (.delete f)).1 = .error e) : e.kind = .unavailable :=
  (checkAvailable_bind_eq_error (written_eq_error h)).resolve_right (delete_ne_error hfilter)

theorem perform_acquire_eq_error {identifier : String} {existing : Option LockToken}
    (hname : identifier.isEmpty = false)
    (h : (b.perform (.acquire identifier existing)).1 = .error e) :
    e.kind = .unavailable ∨ e.kind = .failedPrecondition := by
  change (b.acquire identifier existing).1 = .error e at h
  unfold acquire at h
  split at h
  · cases h
  · unfold checkAvailable at h
    split at h
    next e' hdown =>
      cases h
      split at hdown
      · cases hdown
      · cases hdown
        exact .inl rfl
    next =>
      split at h
      · cases h
      next e' hrefused =>
        cases h
        exact .inr (acquire_eq_error hname hrefused)

/-- **A stream that is not opened** blames a token, unless that is not called invalid. -/
theorem blames_of_openFeed {q : StreamQuery} {limit : UInt32} {now : Nat}
    (hscript : b.script = none) (hfilter : q.HasValidFilter)
    (h : b.openFeed q limit q.place now = .error e) (hkind : e.kind = .invalidArgument) :
    BlamesToken q.consistency q.place e := by
  unfold openFeed at h
  rw [hscript] at h
  obtain hdown | hstore := checkAvailable_bind_eq_error h
  · cases hdown.symm.trans hkind
  · cases hanswer : b.store.answer limit q.place q with
    | error e' =>
      rw [hanswer] at hstore
      cases hstore
      exact blames_of_answer hfilter hanswer hkind
    | ok items =>
      rw [hanswer] at hstore
      cases hstore

end Backend

/-! ## The checks agree -/

/-- A query that is valid at the gate is valid for the engine, which looks at nothing else. -/
theorem Lookup.start_ne_error {q : StreamQuery} (hvalid : q.validate = .ok ())
    (settings : LookupSettings) (e : BackendError) :
    Lookup.start settings q ≠ .answered (.error e) := by
  unfold Lookup.start
  rw [hvalid]
  simp only
  split
  · nofun
  · nofun

theorem StreamQuery.hasValidFilter_of_validate {q : StreamQuery} (h : q.validate = .ok ()) :
    q.HasValidFilter := by
  cases q with
  | subjects q => trivial
  | resources q => trivial
  | read q => exact h

/-- The size of a batch is looked at first, and then all of it. -/
theorem CreateRequest.forM_of_validate {r : CreateRequest} (h : r.validate = .ok ()) :
    r.relationships.forM Relationship.validate = .ok () := by
  unfold CreateRequest.validate at h
  split at h
  · cases h
  split at h
  · cases h
  · exact h

namespace Request

variable {kind : RequestKind} {r : Request kind} {message : Json}

/-- The engine checks of a request for a stream what the gate has checked. -/
theorem validate_stream? {q : StreamQuery} (hstream : stream? kind r = some q) :
    validate kind r = q.validate := by
  cases kind with
  | read | subjects | resources =>
    cases hstream
    rfl
  | _ => cases hstream

theorem consistency_stream? {q : StreamQuery} (hstream : stream? kind r = some q) :
    consistency kind r = q.consistency := by
  cases kind with
  | read | subjects | resources =>
    cases hstream
    rfl
  | _ => cases hstream

/-- **The gate is strict enough for everybody behind it.** -/
theorem isInShape_of_validate (hvalid : validate kind r = .ok ()) : IsInShape kind r where
  engine q hstream := Lookup.start_ne_error ((validate_stream? hstream).symm.trans hvalid)
  lock identifier existing hop := by
    cases kind with
    | lock =>
      cases hop
      exact hvalid
    | _ => cases hop
  operation op hop b e he hkind := by
    cases kind with
    | probe =>
      cases hop
      change b.checkAvailable = .error e at he
      unfold Backend.checkAvailable at he
      split at he
      · cases he
      · cases he
        cases hkind
    | check =>
      cases hop
      exact Backend.blames_of_perform_check he hkind
    | create =>
      cases hop
      obtain h | h := Backend.perform_create_eq_error (CreateRequest.forM_of_validate hvalid) he
      · cases h.symm.trans hkind
      · cases h.symm.trans hkind
    | delete =>
      cases hop
      cases (Backend.perform_delete_eq_error hvalid he).symm.trans hkind
    | lock =>
      cases hop
      obtain h | h := Backend.perform_acquire_eq_error (isEmpty_of_checkLockIdentifier hvalid) he
      · cases h.symm.trans hkind
      · cases h.symm.trans hkind
    | read | subjects | resources => cases hop
  stream q hstream b limit now e hscript he hkind := by
    have hfilter :=
      StreamQuery.hasValidFilter_of_validate ((validate_stream? hstream).symm.trans hvalid)
    rw [Blamed, consistency_stream? hstream, place, hstream]
    exact Backend.blames_of_openFeed hscript hfilter he hkind

theorem isInShape_of_accept (h : accept kind message = .ok r) : IsInShape kind r :=
  isInShape_of_validate (accept_eq_ok_iff.1 h).2

end Request

end RelationGate
