import RelationGate.Proofs.Call.Audit
import RelationGate.Proofs.Call.Breakdown

/-!
# What a reply says about the store

The terms of a unary call say which replies go with which changes of the store. A program meets the
terms if its call does, whatever its messages hold, whatever the backend answers and wherever it is
given up (`Program.Meets`). Each step of a call that meets its terms leaves one that does
(`Bound.own`), and the handler of every unary method meets the terms of its sort of request
(`meets_of_unary`): a failure goes with no change, and a success with the one change it reports.
The streaming methods change nothing at all (`changes_of_streaming`).

Main result: `reply_tells_effect`.
-/

namespace RelationGate

/-! ## Terms -/

/-- The reply of a call whose handler came out so after it had sent some messages. -/
def replyOf (outcome : Except CallError Unit) (sent : List Json) : Except CallError Json :=
  match outcome, sent with
  | .ok (), message :: _ => .ok message
  | .ok (), [] => .error (.internal "no_response" "handler sent no response")
  | .error e, _ => .error e

/-- What is known of a unary call, and what its end has to be. -/
structure Terms where
  params : Json
  /-- The supply of lock tokens. -/
  mint : Nat → LockToken
  /-- How many of them had been handed out when the call was made. -/
  minted : Nat
  /-- The backend before and after each step of the call, those still to come among them. -/
  acts : List (Backend × Backend)
  /-- These changes of the store may go with this reply. -/
  final : Except CallError Json → List (Store × Store) → Prop

/-- A backend that an operation of the call may be performed on: it has the supply of lock tokens
that is known of, and but for notes it is the one before a step of the call. -/
structure Terms.Supplies (t : Terms) (b : Backend) : Prop where
  mint : b.mint = t.mint
  minted : t.minted ≤ b.minted
  act : ∃ act ∈ t.acts, ∃ journal, b = { act.1 with journal }

/-- Notes make no difference. -/
theorem Terms.Supplies.of_asks {t : Terms} {s : Surroundings} {op : Operation} {due : Option Nat}
    {b : Backend} (h : t.Supplies s.backend) (hasks : s.Asks op due b) : t.Supplies b := by
  obtain ⟨journal, rfl⟩ := hasks.journal
  obtain ⟨act, hact, journal', hs⟩ := h.act
  exact ⟨h.mint, h.minted, act, hact, journal, by rw [hs]⟩

/-- The call may fail after these changes. -/
def Terms.MayFail (t : Terms) (changes : List (Store × Store)) : Prop :=
  ∀ e, t.final (.error e) changes

/-- Wherever a program goes from here, its call ends on its terms. The call has sent some messages
and made some changes before. It may be given up where it waits. -/
def Program.Meets (t : Terms) : Program → List Json → List (Store × Store) → Prop
  | .done outcome, sent, changes => t.final (replyOf outcome sent) changes
  | .panic _, _, changes => t.MayFail changes
  | .receive kind next, sent, changes => ∀ r,
    (∀ q, r = .ok q → Request.decode kind t.params = .ok q) → (next r).Meets t sent changes
  | .send message next, sent, changes => (next (.ok ())).Meets t (sent ++ [message]) changes
  | .perform op next, sent, changes => t.MayFail changes ∧
    (∀ e, (next (.error e)).Meets t sent changes) ∧
    ∀ b, t.Supplies b → (next (b.perform op).1).Meets t sent
      (changes ++ (b.store.changeTo (b.perform op).2.store).toList)
  | .relay _, _, _ => False
  | .sleep _ next, sent, changes => t.MayFail changes ∧ next.Meets t sent changes
  | .cancel next, sent, changes => next.Meets t sent changes
  | .look next, sent, changes => ∀ v, (next v).Meets t sent changes
  | .note _ next, sent, changes => next.Meets t sent changes
  | .emit _ next, sent, changes => next.Meets t sent changes
  | .isReady next, sent, changes => ∀ ready, (next ready).Meets t sent changes
  | .setReady _ next, sent, changes => ∀ before, (next before).Meets t sent changes

namespace Call

variable {c c' : Call} {s s' : Surroundings} {t : Terms} {sent : List Json}
  {changes : List (Store × Store)}

theorem reply_of_result {outcome : Except CallError Unit}
    (h : c.result = some (.finished outcome)) : c.reply = replyOf outcome c.sent := by
  rw [reply, h]
  cases outcome with
  | error e => rfl
  | ok u =>
    simp only
    cases c.sent with
    | nil => rfl
    | cons message rest => rfl

theorem sent_of_outbound (h : c.conversation.outbound = .buffer sent) : c.sent = sent := by
  rw [Call.sent, Conversation.sent, h]

/-- The reply of a call that is over. -/
theorem reply_closed (h : c.conversation.outbound = .buffer sent)
    (outcome : Except CallError Unit) : (c.closed outcome).reply = replyOf outcome sent := by
  rw [reply_of_result rfl]
  exact congrArg (replyOf outcome) (sent_of_outbound h)

end Call

theorem Store.changeTo_self (s : Store) : s.changeTo s = none := if_pos rfl

/-! ## A step of the handler -/

/-- A unary call at work that has sent some messages and meets its terms. -/
structure Call.Works (c : Call) (t : Terms) (sent : List Json) : Prop where
  replies : c.Replies
  recovery : .recovery ∈ c.entered
  outbound : c.conversation.outbound = .buffer sent
  inbound : ∀ message ∈ c.conversation.inbound, message = t.params

namespace Call.Works

variable {c c' : Call} {s s' : Surroundings} {t : Terms} {sent : List Json}
  {changes : List (Store × Store)}

/-- The end of a call, or a handler that goes on, on the terms of the call. -/
def Leads (c : Call) (t : Terms) (c' : Call) (changes : List (Store × Store)) : Prop :=
  (∃ outcome, c' = c.closed outcome ∧ t.final c'.reply changes) ∨
    ∃ conversation program due sent,
      c' = { c with conversation, progress := .handling program due } ∧
      conversation.outbound = .buffer sent ∧
      (∀ message ∈ conversation.inbound, message = t.params) ∧ program.Meets t sent changes

theorem leads_closed (h : c.Works t sent) {outcome : Except CallError Unit}
    (hfinal : t.final (replyOf outcome sent) changes) : Leads c t (c.closed outcome) changes :=
  .inl ⟨outcome, rfl, by rwa [reply_closed h.outbound]⟩

/-- A handler that ends does so on the terms of the call. -/
theorem leads_ended (h : c.Works t sent) {p : Program} {due : Option Nat} {outcome : Outcome}
    {b : Backend} (hends : p.Ends s due outcome b) (hp : p.Meets t sent changes)
    (s₁ : Surroundings) : Leads c t (c.finish outcome s₁).1 changes := by
  -- A handler that breaks down comes to a failure like any other.
  have hbroken : ∀ words, t.MayFail changes →
      Leads c t (c.finish (.panicked words) s₁).1 changes := fun words hfail => by
    obtain ⟨hc, -⟩ := finish_panicked h.replies.plain h.recovery words s₁
    rw [hc, conclude_kept h.replies]
    exact h.leads_closed (hfail _)
  cases hends with
  | done =>
    rw [show c.finish _ s₁ = c.finishWith _ s₁ from rfl, finishWith_kept h.replies]
    exact h.leads_closed hp
  | panic => exact hbroken _ hp
  | struck hasks hpanic => exact hbroken _ hp.1
  | unmade hstart | refused hstart => exact hp.elim

/-- A handler that goes on beside this conversation. -/
theorem leads_beside (sent : List Json) {conversation : Conversation}
    (houtbound : conversation.outbound = .buffer sent)
    (hinbound : ∀ message ∈ conversation.inbound, message = t.params) {program : Program}
    {due : Option Nat} (hp : program.Meets t sent changes) :
    Leads c t { c with conversation, progress := .handling program due } changes :=
  .inr ⟨conversation, program, due, sent, rfl, houtbound, hinbound, hp⟩

theorem leads_on (h : c.Works t sent) {program : Program} {due : Option Nat}
    (hp : program.Meets t sent changes) :
    Leads c t { c with progress := .handling program due } changes :=
  leads_beside sent h.outbound h.inbound hp

/-- A step that leaves the store as it is makes no change. -/
theorem Leads.aside (h : Leads c t c' changes) {before after : Store} (hsame : after = before) :
    Leads c t c' (changes ++ (before.changeTo after).toList) := by
  rwa [hsame, Store.changeTo_self, Option.toList_none, List.append_nil]

/-- Whatever is received as a request is the one of the call. -/
theorem decode_of_receive (h : c.Works t sent) {kind : RequestKind} {q : Request kind}
    (hq : (c.conversation.receive kind).1 = .ok q) : Request.decode kind t.params = .ok q := by
  obtain ⟨params, rest, hinbound, hdecode⟩ := receive_eq_ok hq
  rw [← h.inbound params (by rw [hinbound]; exact List.mem_cons_self)]
  exact hdecode

/-- A handler that goes on does so on the terms of the call. -/
theorem leads_proceeded (h : c.Works t sent) (hs : t.Supplies s.backend) {p p' : Program}
    {due : Option Nat} {conversation : Conversation}
    (hproceeds : p.Proceeds s c.conversation due p' conversation s')
    (hp : p.Meets t sent changes) :
    Leads c t { c with conversation, progress := .handling p' none }
      (changes ++ (s.backend.store.changeTo s'.backend.store).toList) := by
  cases hproceeds with
  | performed hasks hpanic herror =>
    rw [← hasks.store]
    exact h.leads_on (hp.2.2 _ (hs.of_asks hasks))
  | denied hasks hpanic herror => exact (h.leads_on (hp.2.1 _)).aside hasks.store
  | @received kind next due =>
    refine Leads.aside (leads_beside sent ?_ (fun message hmessage => ?_) ?_) rfl
    · exact h.outbound
    · exact h.inbound message (receive_inbound c.conversation kind hmessage)
    · exact hp _ fun q hq => h.decode_of_receive hq
  | @sent message next due outcome conversation hsend =>
    cases (Conversation.send_kept h.outbound message).symm.trans hsend
    refine Leads.aside (leads_beside (sent ++ [message]) ?_ ?_ ?_) rfl
    · rfl
    · exact h.inbound
    · exact hp
  | canceled | noted =>
    refine Leads.aside (leads_beside sent ?_ ?_ ?_) rfl
    · exact h.outbound
    · exact h.inbound
    · exact hp
  | awoke hdue => exact (h.leads_on hp.2).aside rfl
  | emitted =>
    refine Leads.aside ?_ rfl
    exact h.leads_on hp
  | looked | probed | marked => exact (h.leads_on (hp _)).aside rfl

/-- **A move of the handler** keeps the call on its terms. -/
theorem handle (h : c.Works t sent) (hs : t.Supplies s.backend) {p : Program} {due : Option Nat}
    (hp : p.Meets t sent changes) (hm : c.handle s p due = some (c', s')) :
    Leads c t c' (changes ++ (s.backend.store.changeTo s'.backend.store).toList) := by
  have hmove := handle_move hm
  generalize hr : (c', s') = r at hmove
  cases hmove with
  | @ends outcome b hends =>
    obtain rfl : c' = _ := congrArg Prod.fst hr
    obtain rfl : s' = _ := congrArg Prod.snd hr
    rw [finish_backend]
    exact (h.leads_ended hends hp _).aside hends.store
  | heldUp hdue hheld =>
    cases hr
    exact (h.leads_on hp).aside hheld.store
  | proceeds hproceeds =>
    cases hr
    exact h.leads_proceeded hs hproceeds hp
  | relays hrelays hstart =>
    subst hrelays
    exact hp.elim

/-- A handler that has to wait may fail where it stands. -/
theorem mayFail_of_waiting (h : c.Works t sent) {p : Program} {due : Option Nat}
    (hp : p.Meets t sent changes) (hnone : c.handle s p due = none) : t.MayFail changes := by
  cases handle_eq_none_iff.1 hnone with
  | room hfull => cases (Conversation.send_kept h.outbound _).symm.trans hfull
  | answer hdue | asleep hdue => exact hp.1

end Call.Works

/-! ## The terms of the unary methods -/

/-- A lock is handed out under a token: its own entry is changed, and nothing else. -/
structure HandsOut (identifier : String) (token : LockToken) (s s' : Store) : Prop where
  rows : s'.rows = s.rows
  nextNumber : s'.nextNumber = s.nextNumber
  revision : s'.revision = s.revision
  holder : s'.holder? identifier = some token
  others : ∀ other, other ≠ identifier → s'.holder? other = s.holder? other

/-- **A lock has been handed out** by a call of these acts: it has changed the store once, and that
hands the lock out under the token. It can have found nothing to change in two ways only: the
backend gives back what is presented, or the fresh token is the one that the lock had already. -/
def HandedOut (identifier : String) (token : LockToken) (acts : List (Backend × Backend))
    (changes : List (Store × Store)) : Prop :=
  (∃ s s', changes = [(s, s')] ∧ HandsOut identifier token s s') ∨
    changes = [] ∧ ∃ act ∈ acts, act.1.echoesLocks = true ∨
      token = act.1.mint act.1.minted ∧ act.1.store.holder? identifier = some token

/-- **What a reply says about the store**, after these acts of the call: a failure goes with no
change. A write that succeeds has made one change, which raised the revision by one, and answers the
token of the new revision. A lock that is answered has been handed out, which changes its own entry
and nothing else. Nothing else changes anything. -/
def Explains (kind : RequestKind) (params : Json) (acts : List (Backend × Backend))
    (reply : Except CallError Json) (changes : List (Store × Store)) : Prop :=
  match reply, kind with
  | .error _, _ => changes = []
  | .ok message, .create => ∃ s s', changes = [(s, s')] ∧ s'.revision = s.revision + 1 ∧
      message = (Response.created s'.token).encode
  | .ok message, .delete => ∃ s s', changes = [(s, s')] ∧ s'.revision = s.revision + 1 ∧
      message = (Response.deleted s'.token).encode
  | .ok message, .lock => ∃ (r : LockRequest) (token : LockToken),
      Request.decode .lock params = .ok r ∧ message = (Response.locked token).encode ∧
        HandedOut r.identifier token acts changes
  | .ok _, _ => changes = []

/-- The terms of a call that takes a sort of request and makes these steps. -/
def Terms.of (kind : RequestKind) (params : Json) (b : Backend) (acts : List (Backend × Backend)) :
    Terms where
  params := params
  mint := b.mint
  minted := b.minted
  acts := acts
  final := Explains kind params acts

theorem Terms.mayFail_of (kind : RequestKind) (params : Json) (b : Backend)
    (acts : List (Backend × Backend)) : (Terms.of kind params b acts).MayFail [] := by
  intro e
  cases kind with
  | _ => rfl

theorem Store.changeTo_of_revision {s s' : Store} (h : s'.revision = s.revision + 1) :
    s.changeTo s' = some (s, s') := by
  refine if_neg fun heq => ?_
  rw [heq] at h
  omega

namespace Program

variable {t : Terms} {sent : List Json} {changes : List (Store × Store)} {params : Json}
  {b : Backend} {acts : List (Backend × Backend)}

theorem meets_withRequest {kind : RequestKind} {next : Request kind → Program}
    (hfail : t.MayFail changes)
    (h : ∀ q, Request.decode kind t.params = .ok q → (next q).Meets t sent changes) :
    (withRequest kind next).Meets t sent changes := by
  intro r hr
  cases r with
  | error e => exact hfail e
  | ok q => exact h q (hr q rfl)

/-- An operation that reads. -/
theorem meets_perform_read {op : Operation} {next : Except BackendError op.Answer → Program}
    (hfail : t.MayFail changes) (hread : ∀ b : Backend, (b.perform op).2 = b)
    (h : ∀ outcome, (next outcome).Meets t sent changes) :
    (Program.perform op next).Meets t sent changes := by
  refine ⟨hfail, fun e => h _, fun b hb => ?_⟩
  rw [hread, Store.changeTo_self, Option.toList_none, List.append_nil]
  exact h _

theorem meets_check : check.Meets (.of .check params b acts) [] [] := by
  have hfail := Terms.mayFail_of .check params b acts
  refine meets_withRequest hfail fun q hq => ?_
  refine meets_perform_read hfail (fun b => rfl)
    fun (outcome : Except BackendError CheckResult) => ?_
  cases outcome with
  | ok r => rfl
  | error e => rfl

theorem meets_create : create.Meets (.of .create params b acts) [] [] := by
  have hfail := Terms.mayFail_of .create params b acts
  refine meets_withRequest hfail fun (r : CreateRequest) hr => ?_
  refine ⟨hfail, fun e => hfail _, fun b hb => ?_⟩
  obtain ⟨token, ht, -, hstore, htoken⟩ | ⟨e, he⟩ := b.perform_create r.relationships r.mode
  · have hrevision : (b.perform (.create r.relationships r.mode)).2.store.revision =
        b.store.revision + 1 := by
      rw [hstore, Store.commit_revision, Store.insertAll_revision]
    rw [Store.changeTo_of_revision hrevision, ht]
    exact ⟨_, _, rfl, hrevision, by rw [← htoken]⟩
  · rw [he, Store.changeTo_self]
    exact hfail _

theorem meets_delete : delete.Meets (.of .delete params b acts) [] [] := by
  have hfail := Terms.mayFail_of .delete params b acts
  refine meets_withRequest hfail fun (r : DeleteRequest) hr => ?_
  refine ⟨hfail, fun e => hfail _, fun b hb => ?_⟩
  obtain ⟨token, ht, hstore, htoken⟩ | ⟨e, he⟩ := b.perform_delete r.filter
  · have hrevision : (b.perform (.delete r.filter)).2.store.revision = b.store.revision + 1 := by
      rw [hstore, Store.commit_revision, Store.without_revision]
    rw [Store.changeTo_of_revision hrevision, ht]
    exact ⟨_, _, rfl, hrevision, by rw [← htoken]⟩
  · rw [he, Store.changeTo_self]
    exact hfail _

/-- What the handler makes of the outcome of an acquisition. -/
def lockReply : Except BackendError LockToken → Program
  | .ok t => respond (.locked t)
  | .error e => failWith e

/-- What the handler makes of the answer of the backend. -/
def lockNext (identifier : String) (existing : Option LockToken) :
    Except BackendError LockToken → Program
  | .error e => lockReply (.error (e.within "could not acquire lock"))
  | .ok token =>
    if existing = some token then
      .emit ⟨.error, "lock", "backend returned the presented fencing token",
          [("identifier", identifier)]⟩
        (lockReply
          (.error ⟨.internal, "could not acquire lock: backend reissued the existing token"⟩))
    else lockReply (.ok token)

variable {identifier : String} {existing : Option LockToken} {token : LockToken}

theorem lock_eq : lock = withRequest .lock fun (r : LockRequest) =>
    acquireLock r.identifier r.existing lockReply := rfl

theorem acquireLock_of_ok (h : checkLockIdentifier identifier = .ok ()) :
    acquireLock identifier existing lockReply =
      .perform (.acquire identifier existing) (lockNext identifier existing) := by
  rw [acquireLock, h]
  rfl

theorem acquireLock_of_error {e : BackendError} (h : checkLockIdentifier identifier = .error e) :
    acquireLock identifier existing lockReply = .fail (.ofBackend e) := by
  rw [acquireLock, h]
  rfl

/-- A backend that gives the presented token back has not handed the lock out. -/
theorem lockNext_of_eq (h : existing = some token) :
    lockNext identifier existing (.ok token) =
      .emit ⟨.error, "lock", "backend returned the presented fencing token",
          [("identifier", identifier)]⟩
        (.fail (.ofBackend
          ⟨.internal, "could not acquire lock: backend reissued the existing token"⟩)) :=
  if_pos h

theorem lockNext_of_ne (h : existing ≠ some token) :
    lockNext identifier existing (.ok token) = .respond (.locked token) :=
  if_neg h

theorem handsOut_setLock (identifier : String) (token : LockToken) (s : Store) :
    HandsOut identifier token s
      { s with locks := Store.setLock identifier token s.locks } where
  rows := rfl
  nextNumber := rfl
  revision := rfl
  holder := by rw [Store.holder?, Store.lookup_setLock, if_pos rfl]
  others other hother := by
    rw [Store.holder?, Store.lookup_setLock, if_neg hother]
    rfl

/-- **A lock that the backend hands out** is handed out by the call: the fresh token goes into the
entry of the lock, which is no change only if it was there before. -/
theorem handedOut_acquire {act : Backend × Backend} (hact : act ∈ acts) {journal : List Issued}
    (hb : b = { act.1 with journal }) (identifier : String) :
    HandedOut identifier (b.mint b.minted) acts ([] ++ (b.store.changeTo { b.store with
      locks := Store.setLock identifier (b.mint b.minted) b.store.locks }).toList) := by
  have hands := handsOut_setLock identifier (b.mint b.minted) b.store
  rw [List.nil_append, Store.changeTo]
  split
  next hsame =>
    refine .inr ⟨rfl, act, hact, .inr ⟨by rw [hb], ?_⟩⟩
    rw [← hsame, hb] at hands
    rw [hb]
    exact hands.holder
  next => exact .inl ⟨_, _, rfl, hands⟩

theorem meets_lock (hfresh : ∀ r : LockRequest, Request.decode .lock params = .ok r →
      ∀ n, b.minted ≤ n → r.existing ≠ some (b.mint n)) :
    lock.Meets (.of .lock params b acts) [] [] := by
  have hfail := Terms.mayFail_of .lock params b acts
  rw [lock_eq]
  refine meets_withRequest hfail fun (r : LockRequest) hr => ?_
  cases hidentifier : checkLockIdentifier r.identifier with
  | error e =>
    rw [acquireLock_of_error hidentifier]
    exact hfail _
  | ok u =>
    rw [acquireLock_of_ok hidentifier]
    refine ⟨hfail, fun e => hfail _, fun b' hb => ?_⟩
    show (lockNext r.identifier r.existing (b'.acquire r.identifier r.existing).1).Meets _ _
      ([] ++ (b'.store.changeTo (b'.acquire r.identifier r.existing).2.store).toList)
    obtain ⟨act, hact, journal, hbefore⟩ := hb.act
    obtain ⟨hechoes, h⟩ | ⟨-, h⟩ | ⟨e, h⟩ := b'.acquire_cases r.identifier r.existing
    · -- The backend gave the presented token back, or the first one.
      rw [h, Store.changeTo_self]
      by_cases hgiven : r.existing = some (r.existing.getD ⟨"first"⟩)
      · rw [lockNext_of_eq hgiven]
        exact hfail _
      · rw [lockNext_of_ne hgiven]
        rw [hbefore] at hechoes
        exact ⟨r, _, hr, rfl, .inr ⟨rfl, act, hact, .inl hechoes⟩⟩
    · rw [h, lockNext_of_ne (by rw [hb.mint]; exact hfresh r hr _ hb.minted)]
      exact ⟨r, _, hr, rfl, handedOut_acquire hact hbefore r.identifier⟩
    · rw [h, Store.changeTo_self]
      exact hfail _

theorem meets_liveness : liveness.Meets (.of .probe params b acts) [] [] :=
  meets_withRequest (Terms.mayFail_of .probe params b acts) fun _ _ => rfl

theorem meets_readiness (sticky : Bool) :
    (readiness sticky).Meets (.of .probe params b acts) [] [] := by
  have hfail := Terms.mayFail_of .probe params b acts
  refine meets_withRequest hfail fun _ _ => ?_
  refine fun ready => ?_
  show (if sticky && ready then _ else _ : Program).Meets _ _ _
  split
  · rfl
  refine meets_perform_read hfail (fun b => rfl) fun (outcome : Except BackendError Unit) => ?_
  cases outcome with
  | error e => exact fun _ => hfail _
  | ok u =>
    refine fun before => ?_
    cases before with
    | true => rfl
    | false => rfl

/-- The sort of request that a program begins by receiving. -/
def request? : Program → Option RequestKind
  | .receive kind _ => some kind
  | _ => none

/-- **Every unary method keeps to the terms of its requests.** -/
theorem meets_of_unary {sticky : Bool} {route : Route} (hmem : route ∈ Route.standard sticky)
    (hunary : route.kind = .unary) {kind : RequestKind} (hkind : route.handler.request? = some kind)
    (hfresh : ∀ r : LockRequest, Request.decode .lock params = .ok r →
      ∀ n, b.minted ≤ n → r.existing ≠ some (b.mint n)) :
    route.handler.Meets (.of kind params b acts) [] [] := by
  simp only [Route.standard, List.mem_cons, List.not_mem_nil, or_false] at hmem
  rcases hmem with rfl | rfl | rfl | rfl | rfl | rfl | rfl | rfl | rfl
  · cases hkind
    exact meets_check
  · cases hkind
    exact meets_create
  · cases hkind
    exact meets_delete
  · cases hunary
  · cases hunary
  · cases hunary
  · cases hkind
    exact meets_lock hfresh
  · cases hkind
    exact meets_liveness
  · cases hkind
    exact meets_readiness sticky

/-- Every unary method receives a request. -/
theorem request?_of_unary {sticky : Bool} {route : Route} (hmem : route ∈ Route.standard sticky)
    (hunary : route.kind = .unary) : ∃ kind, route.handler.request? = some kind := by
  simp only [Route.standard, List.mem_cons, List.not_mem_nil, or_false] at hmem
  rcases hmem with rfl | rfl | rfl | rfl | rfl | rfl | rfl | rfl | rfl
  · exact ⟨_, rfl⟩
  · exact ⟨_, rfl⟩
  · exact ⟨_, rfl⟩
  · cases hunary
  · cases hunary
  · cases hunary
  · exact ⟨_, rfl⟩
  · exact ⟨_, rfl⟩
  · exact ⟨_, rfl⟩

end Program

/-! ## Every schedule of a unary call -/

/-- What a unary call owes its terms at each stage of its task. -/
def Owes (t : Terms) (c : Call) (changes : List (Store × Store)) : Progress → Prop
  | .waiting => c.handler.Meets t c.sent changes ∧ t.MayFail changes
  | .handling program _ => program.Meets t c.sent changes
  | .relaying _ | .reporting _ => False
  | .ended => t.final c.reply changes

/-- **The invariant** of a unary call: it is bound by its terms. -/
structure Bound (t : Terms) (a : Audit) : Prop where
  contained : Contained a.scene
  mint : a.scene.shared.backend.mint = t.mint
  minted : t.minted ≤ a.scene.shared.backend.minted
  inbound : ∀ message ∈ a.scene.call.conversation.inbound, message = t.params
  owes : Owes t a.scene.call a.changes a.scene.call.progress

namespace Bound

variable {t : Terms} {a a' : Audit} {c : Call} {s : Surroundings}

/-- What becomes of the terms when the task of the call moves. -/
theorem task (h : Bound t a) (hs : t.Supplies a.scene.shared.backend)
    (hm : a.scene.call.taskMove a.scene.shared = some (c, s)) :
    (∀ message ∈ c.conversation.inbound, message = t.params) ∧
      Owes t c (a.changes ++ (a.scene.shared.backend.store.changeTo s.backend.store).toList)
        c.progress := by
  obtain ⟨sent, hsent⟩ := h.contained.outbound
  have howes := h.owes
  have hphase := h.contained.phase
  cases hp : a.scene.call.progress with
  | waiting =>
    rw [hp] at howes hphase
    obtain ⟨⟨rest, hstages⟩, hplain, -⟩ := hphase
    have hbackend := a.scene.call.begin_backend a.scene.shared
    obtain ⟨conversation, entered, began, hadmits, -, hentered, hc⟩ :=
      Call.begin_cases hstages hplain a.scene.shared
    rw [Call.taskMove, hp] at hm
    rw [Option.some.inj hm] at hc hbackend
    rw [hbackend, Store.changeTo_self, Option.toList_none, List.append_nil]
    have houtbound : conversation.outbound = .buffer sent := hadmits.outbound.trans hsent
    have hinbound : ∀ message ∈ conversation.inbound, message = t.params := by
      rw [hadmits.inbound]
      exact h.inbound
    obtain rfl | ⟨e, s₁, rfl⟩ := hc
    · refine ⟨hinbound, ?_⟩
      have hmeets := howes.1
      rw [Call.sent_of_outbound hsent] at hmeets
      show a.scene.call.handler.Meets t (Call.sent _) a.changes
      rwa [Call.sent_of_outbound houtbound]
    · have hreplies : Call.Replies { a.scene.call with entered, conversation, began } :=
        ⟨h.contained.guarded, ⟨sent, houtbound⟩, hentered⟩
      rw [Call.finishWith_kept hreplies]
      refine ⟨hinbound, ?_⟩
      show t.final (Call.reply _) a.changes
      rw [Call.reply_closed houtbound]
      exact howes.2 e
  | handling program due =>
    rw [hp] at howes hphase
    have hworks : a.scene.call.Works t sent :=
      ⟨⟨h.contained.guarded, ⟨sent, hsent⟩, hphase.2.1⟩, hphase.1, hsent, h.inbound⟩
    rw [Call.taskMove, hp] at hm
    rw [Owes, Call.sent_of_outbound hsent] at howes
    obtain ⟨outcome, rfl, hfinal⟩ | ⟨conversation, program', due', sent', rfl, houtbound, hinbound,
      hmeets⟩ := hworks.handle hs howes hm
    · exact ⟨h.inbound, hfinal⟩
    · refine ⟨hinbound, ?_⟩
      show program'.Meets t (Call.sent _) _
      rwa [Call.sent_of_outbound houtbound]
  | relaying inHand =>
    rw [hp] at howes
    exact howes.elim
  | reporting e =>
    rw [hp] at howes
    exact howes.elim
  | ended =>
    rw [Call.taskMove, hp] at hm
    cases hm

/-- What becomes of the terms when the handler is given up. -/
theorem expire (h : Bound t a) (hm : a.scene.call.expire a.scene.shared = some (c, s)) :
    (∀ message ∈ c.conversation.inbound, message = t.params) ∧
      Owes t c (a.changes ++ (a.scene.shared.backend.store.changeTo s.backend.store).toList)
        c.progress := by
  obtain ⟨sent, hsent⟩ := h.contained.outbound
  have howes := h.owes
  have hphase := h.contained.phase
  rw [Call.expire_backend hm, Store.changeTo_self, Option.toList_none, List.append_nil]
  obtain ⟨ms, -, hhandling, -, hnone, heq⟩ := Call.expire_cases hm
  cases hp : a.scene.call.progress with
  | handling program due =>
    rw [hp] at howes hphase
    have hworks : a.scene.call.Works t sent :=
      ⟨⟨h.contained.guarded, ⟨sent, hsent⟩, hphase.2.1⟩, hphase.1, hsent, h.inbound⟩
    rw [Call.taskMove, hp] at hnone
    rw [Owes, Call.sent_of_outbound hsent] at howes
    have hfail := hworks.mayFail_of_waiting howes hnone
    have hgiven : Call.Replies { a.scene.call with
        conversation := a.scene.call.conversation.cancel
        lookup := a.scene.call.lookup.map Lookup.abandon } :=
      ⟨h.contained.guarded, ⟨sent, hsent⟩, hphase.2.1⟩
    have hc := Call.finishWith_kept hgiven (.error (Call.lateError ms)) a.scene.shared
    rw [show Call.finishWith _ _ _ = (c, s) from heq.symm] at hc
    rw [show c = _ from hc]
    exact ⟨h.inbound, hfail (Call.lateError ms)⟩
  | relaying inHand =>
    rw [hp] at howes
    exact howes.elim
  | _ =>
    rw [Call.isHandling, hp] at hhandling
    cases hhandling

/-- **Every step keeps the call bound by its terms.** A unary call has no lookup and no frames. -/
theorem step (h : Bound t a) (hs : Audit.Step a a') (hacts : a'.acts ⊆ t.acts) : Bound t a' := by
  obtain ⟨sent, hsent⟩ := h.contained.outbound
  have hcontinues := hs.continues
  have hkept := fun hinbound howes =>
    (⟨h.contained.step hs.scene, hcontinues.mint.trans h.mint,
      Nat.le_trans h.minted hcontinues.minted, hinbound, howes⟩ : Bound t a')
  cases hs with
  | others hs => exact hkept h.inbound h.owes
  | own hs =>
    rw [Audit.changes_noting] at hkept
    have hsupplies : t.Supplies a.scene.shared.backend :=
      ⟨h.mint, h.minted, _, hacts (List.mem_append_right _ List.mem_cons_self), _, rfl⟩
    cases hs with
    | task hm => exact hkept (h.task hsupplies hm).1 (h.task hsupplies hm).2
    | expire hm => exact hkept (h.expire hm).1 (h.expire hm).2
    | cancel =>
      rw [Store.changeTo_self, Option.toList_none, List.append_nil] at hkept
      refine hkept h.inbound ?_
      have howes := h.owes
      show Owes t _ _ a.scene.call.progress
      generalize a.scene.call.progress = progress at howes ⊢
      cases progress with
      | _ => exact howes
    | produce hl hm => cases h.contained.lookup.symm.trans hl
    | stream noticed hl hnoticed hm => cases h.contained.lookup.symm.trans hl
    | breakdown words hl hm => cases h.contained.lookup.symm.trans hl
    | read hframes hpresent hr => cases hsent.symm.trans hframes
    | readEnd hframes hpresent hr => cases hsent.symm.trans hframes
    | leave hframes => cases hsent.symm.trans hframes

theorem of_reachable {start : Audit} (hstart : Bound t start) (h : Audit.Reachable start a)
    (hacts : a.acts ⊆ t.acts) : Bound t a := by
  induction h with
  | refl => exact hstart
  | tail _ hs ih => exact (ih fun act hact => hacts (hs.acts_subset hact)).step hs hacts

/-- A unary call that has just been made is bound by the terms of its requests. -/
theorem start {sticky : Bool} {route : Route} (hmem : route ∈ Route.standard sticky)
    (hunary : route.kind = .unary) {kind : RequestKind} (hkind : route.handler.request? = some kind)
    {g : Gateway} {metrics : Bool} {auth : Option AuthSettings}
    (hstages : g.stages = Stage.standard metrics auth) {params : Json} (headers : Headers)
    (capacity : Nat) {shared : Surroundings}
    (hfresh : ∀ r : LockRequest, Request.decode .lock params = .ok r →
      ∀ n, shared.backend.minted ≤ n → r.existing ≠ some (shared.backend.mint n))
    (acts : List (Backend × Backend)) :
    Bound (.of kind params shared.backend acts)
      (.start g route params headers capacity shared) where
  contained := Contained.start hmem hunary hstages params headers capacity shared
  mint := rfl
  minted := Nat.le_refl _
  inbound := by
    rw [Audit.start, Scene.start, hunary]
    exact fun message hmessage => List.mem_singleton.1 hmessage
  owes := by
    have hmeets : route.handler.Meets (.of kind params shared.backend acts) [] [] :=
      Program.meets_of_unary hmem hunary hkind hfresh
    have hsent : (Scene.start g route params headers capacity shared).call.sent = [] := by
      rw [Scene.start, hunary, Call.sent, Conversation.sent, Gateway.newCall, hunary]
    rw [← hsent, Scene.start, hunary] at hmeets
    rw [Audit.start, Scene.start, hunary]
    exact ⟨hmeets, Terms.mayFail_of kind params shared.backend acts⟩

end Bound

/-! ## Every schedule of a streaming call -/

namespace Unnoticed

variable {k : StreamKind} {sc sc' : Scene}

/-- No step of a streaming call touches the store. -/
theorem store_of_own (h : Unnoticed k sc) (hs : Scene.OwnStep sc sc') :
    sc'.shared.backend.store = sc.shared.backend.store := by
  cases hs with
  | @task c s hm =>
    show s.backend.store = _
    obtain ⟨frames, -, hphase, -⟩ := h.phase
    rw [Call.taskMove] at hm
    cases hp : sc.call.progress with
    | waiting =>
      have hbackend := sc.call.begin_backend sc.shared
      rw [hp] at hm
      rw [Option.some.inj hm] at hbackend
      rw [hbackend]
    | handling program due =>
      rw [hp] at hphase hm
      obtain ⟨-, -, -, -, hprogram⟩ := hphase
      have hreads : program.performs = false := by
        obtain rfl | ⟨q, rfl⟩ | ⟨e, rfl⟩ := hprogram
        · rfl
        · rfl
        · rfl
      rw [Call.handle_backend hreads hm]
    | relaying inHand =>
      rw [hp] at hm
      rw [Call.relay_backend hm]
    | reporting e =>
      rw [hp] at hm
      obtain ⟨c', -, heq⟩ := Option.map_eq_some_iff.1 hm
      cases heq
      rfl
    | ended =>
      rw [hp] at hm
      cases hm
  | expire hm => exact congrArg Backend.store (Call.expire_backend hm)
  | produce hl hm =>
    obtain ⟨rfl | ⟨issued, rfl⟩, -⟩ := Lookup.produce_cases hm
    · rfl
    · rfl
  | _ => rfl

end Unnoticed

/-- **The streaming methods change nothing.** -/
theorem changes_of_streaming {k : StreamKind} {start a : Audit} (hstart : Unnoticed k start.scene)
    (hnone : start.changes = []) (h : Audit.Reachable start a) : a.changes = [] := by
  induction h with
  | refl => exact hnone
  | tail h hs ih =>
    cases hs with
    | own hs =>
      have hstore := (Unnoticed.of_reachable hstart h.scene).store_of_own hs
      rw [Audit.changes_noting, hstore, Store.changeTo_self, ih]
      rfl
    | others hs => exact ih

/-! ## Every call of the gateway -/

/-- **A failure means no effect, and a success exactly the one that it reports.** A call of a method
that the gateway does not serve leaves the backend alone. In every schedule, with other calls,
faults and switches of the backend, a deadline and cancellations in any order, a streaming call
changes nothing in the store; and once a unary call is over, its reply says what it has changed. The
lock tokens still to be handed out are not among those that the call presents. -/
theorem reply_tells_effect {sticky : Bool} {g : Gateway} {metrics : Bool}
    {auth : Option AuthSettings} (hroutes : g.routes = Route.standard sticky)
    (hstages : g.stages = Stage.standard metrics auth) (method : String) (params : Json)
    (headers : Headers) (capacity : Nat) (shared : Surroundings)
    (hfresh : ∀ r : LockRequest, Request.decode .lock params = .ok r →
      ∀ n, shared.backend.minted ≤ n → r.existing ≠ some (shared.backend.mint n)) :
    (Route.find? g.routes method = none → ∀ w,
        (g.openCall w method params headers).2.surroundings.backend = w.surroundings.backend ∧
          (g.openCall w method params headers).2.calls = w.calls) ∧
      ∀ route, Route.find? g.routes method = some route →
        ∀ a, Audit.Reachable (.start g route params headers capacity shared) a →
          (route.kind = .serverStreaming → a.changes = []) ∧
          (route.kind = .unary → a.scene.call.isOver = true →
            ∃ kind, route.handler.request? = some kind ∧
              Explains kind params a.acts a.scene.call.reply a.changes) := by
  refine ⟨fun hnone w => ?_, fun route hroute a h => ⟨fun hkind => ?_, fun hunary hover => ?_⟩⟩
  · rw [Gateway.openCall, hnone]
    exact ⟨rfl, rfl⟩
  · have hmem : route ∈ Route.standard sticky := by
      rw [← hroutes]
      exact List.mem_reverse.1 (List.mem_of_find?_eq_some hroute)
    obtain ⟨k, rfl⟩ := StreamKind.mem_standard_iff.1 ⟨hmem, hkind⟩
    exact changes_of_streaming (Unnoticed.start k hstages params headers capacity shared) rfl h
  · have hmem : route ∈ Route.standard sticky := by
      rw [← hroutes]
      exact List.mem_reverse.1 (List.mem_of_find?_eq_some hroute)
    obtain ⟨kind, hkind⟩ := Program.request?_of_unary hmem hunary
    have hbound := Bound.of_reachable
      (Bound.start hmem hunary hkind hstages headers capacity hfresh a.acts) h (List.Subset.refl _)
    have howes := hbound.owes
    cases hp : a.scene.call.progress with
    | ended =>
      rw [hp] at howes
      exact ⟨kind, hkind, howes⟩
    | _ =>
      rw [Call.isOver, hp] at hover
      cases hover

/-- A write comes through: its reply is the revision that it has made. A lock is handed out: its
reply is the token that its entry has now. -/
theorem reply_tells_effect_write_and_lock :
    let g : Gateway :=
      { routes := Route.standard false, stages := Stage.standard false none, timeout := 1000 }
    let shared : Surroundings :=
      { unixTime := 0, backend := { mint := fun n => ⟨toString n⟩ }, traceIds := fun _ => "trace" }
    let object (type id : String) : Json :=
      .obj [("object_type", .str type), ("object_id", .str id)]
    let viewer : Json := .obj [("resource", object "document" "readme"),
      ("relation", .str "viewer"), ("subject", .obj [("object", object "user" "ada")])]
    let written : Json := .obj [("relationships", .arr [viewer])]
    let leader : Json := .obj [("identifier", .str "leader")]
    let write : Route :=
      ⟨"permgate.v1.PermissionsService/CreateRelationships", .unary, Program.create⟩
    let lock : Route := ⟨"permgate.v1.LockService/AcquireLock", .unary, Program.lock⟩
    (∃ a, Audit.Reachable (.start g write written {} 16 shared) a ∧
      ∃ s s', a.changes = [(s, s')] ∧ s'.revision = s.revision + 1 ∧
        a.scene.call.reply = .ok (Response.created s'.token).encode) ∧
      ∃ a, Audit.Reachable (.start g lock leader {} 16 shared) a ∧
        a.scene.call.reply = .ok (Response.locked (shared.backend.mint 0)).encode ∧
        ∃ s s', a.changes = [(s, s')] ∧ HandsOut "leader" (shared.backend.mint 0) s s' := by
  intro g shared object viewer written leader write lock
  have hroutes : g.routes = Route.standard false := rfl
  have hstages : g.stages = Stage.standard false none := rfl
  constructor
  · have h₀ : Audit.Reachable (.start g write written {} 16 shared) _ := .refl
    have h₁ := h₀.tail (.own (.task rfl))
    have h₂ := h₁.tail (.own (.task rfl))
    have h₃ := h₂.tail (.own (.task rfl))
    have h₄ := h₃.tail (.own (.task rfl))
    have h₅ := h₄.tail (.own (.task rfl))
    have hfresh : ∀ r : LockRequest, Request.decode .lock written = .ok r →
        ∀ n, shared.backend.minted ≤ n → r.existing ≠ some (shared.backend.mint n) := by
      intro r hr
      have hother : (Request.decode .lock written).toOption.isNone = true := by decide +kernel
      rw [hr] at hother
      cases hother
    have hroute : Route.find? g.routes write.method = some write := rfl
    obtain ⟨-, hcalls⟩ :=
      reply_tells_effect hroutes hstages write.method written {} 16 shared hfresh
    obtain ⟨kind, hkind, hexplains⟩ := (hcalls write hroute _ h₅).2 rfl rfl
    cases hkind
    obtain ⟨s, s', hchanges, hrevision, hmessage⟩ := hexplains
    exact ⟨_, h₅, s, s', hchanges, hrevision, congrArg Except.ok hmessage⟩
  · have h₀ : Audit.Reachable (.start g lock leader {} 16 shared) _ := .refl
    have h₁ := h₀.tail (.own (.task rfl))
    have h₂ := h₁.tail (.own (.task rfl))
    have h₃ := h₂.tail (.own (.task rfl))
    have h₄ := h₃.tail (.own (.task rfl))
    have h₅ := h₄.tail (.own (.task rfl))
    have hfresh : ∀ r : LockRequest, Request.decode .lock leader = .ok r →
        ∀ n, shared.backend.minted ≤ n → r.existing ≠ some (shared.backend.mint n) := by
      rintro r hr n -
      cases hr
      exact nofun
    have hroute : Route.find? g.routes lock.method = some lock := rfl
    obtain ⟨-, hcalls⟩ := reply_tells_effect hroutes hstages lock.method leader {} 16 shared hfresh
    obtain ⟨kind, hkind, hexplains⟩ := (hcalls lock hroute _ h₅).2 rfl rfl
    cases hkind
    obtain ⟨r, ⟨text⟩, hr, hmessage, hhanded⟩ := hexplains
    cases hr
    have hencoded : (Response.locked (shared.backend.mint 0)).encode =
        (Response.locked ⟨text⟩).encode := hmessage
    cases hencoded
    refine ⟨_, h₅, congrArg Except.ok hmessage, ?_⟩
    obtain hhanded | ⟨hnone, -⟩ := hhanded
    · exact hhanded
    · cases hnone

end RelationGate
