import RelationGate.Proofs.Call.Effects
import RelationGate.Proofs.Number.Decimal
import RelationGate.Proofs.Store.Fencing

/-!
# The locks over all calls

Any number of clients call for locks, while other calls and the surroundings do as they please. A
`Desk` is the calls for locks and what they share, with the history of what has been handed out, to
which call and for which token.

* `Serves`: what holds of one call at each stage of its task. It is handed at most one token, only
  for what it asked for, and only a call that has been handed a token answers one.
* `Desk.Kept`: what every step of anybody keeps. The history is the one that the backend has gone
  through (`LockHistory`).
* `fencing_tokens_single_use`: two calls never win with the same token.
-/

namespace RelationGate

/-! ## The handler of a lock -/

variable {params : Json} {caller : Nat} {mine added : List Exchange} {sent : List Json}

/-- How a call for a lock stands that was made with some parameters: what its handler is about to
do, what the call has been handed, and what it has sent. -/
inductive Locking (params : Json) (caller : Nat) : Program → List Exchange → List Json → Prop where
  | receives : Locking params caller .lock [] []
  | performs {r : LockRequest} (hr : Request.decode .lock params = .ok r)
      (hidentifier : checkLockIdentifier r.identifier = .ok ()) :
      Locking params caller
        (.perform (.acquire r.identifier r.existing) (.lockNext r.identifier r.existing)) [] []
  | fails (e : CallError) : Locking params caller (.fail e) [] []
  | answers {r : LockRequest} (hr : Request.decode .lock params = .ok r) (t : LockToken) :
      Locking params caller (.respond (.locked t)) [⟨caller, r.identifier, r.existing, t⟩] []
  | done {r : LockRequest} (hr : Request.decode .lock params = .ok r) (t : LockToken) :
      Locking params caller (.done (.ok ())) [⟨caller, r.identifier, r.existing, t⟩]
        [(Response.locked t).encode]

/-- A call that answers a token has been handed it, for what it asked for, and one that fails has
been handed nothing. -/
def Answers (params : Json) (caller : Nat) (reply : Except CallError Json)
    (mine : List Exchange) : Prop :=
  match reply with
  | .ok message => ∃ (r : LockRequest) (t : LockToken), Request.decode .lock params = .ok r ∧
      message = (Response.locked t).encode ∧ mine = [⟨caller, r.identifier, r.existing, t⟩]
  | .error _ => mine = []

/-- What a step of a call does to the locks: nothing, or it hands the one out that the call asks
for. -/
inductive Hands (params : Json) (caller : Nat) (b b' : Backend) : List Exchange → Prop where
  | nothing (hlocks : b'.store.locks = b.store.locks) (hminted : b'.minted = b.minted) :
      Hands params caller b b' []
  | lock {r : LockRequest} (hr : Request.decode .lock params = .ok r)
      (hacquire : b.store.acquire r.identifier r.existing (b.mint b.minted) =
        .ok (b.mint b.minted, b'.store))
      (hminted : b'.minted = b.minted + 1) :
      Hands params caller b b' [⟨caller, r.identifier, r.existing, b.mint b.minted⟩]

theorem Hands.of_eq {b b' : Backend} (h : b' = b) : Hands params caller b b' [] := by
  rw [h]
  exact .nothing rfl rfl

/-- That the operation is noted does not concern the locks. -/
theorem Hands.of_asks {s : Surroundings} {op : Operation} {due : Option Nat} {b b' : Backend}
    (hasks : s.Asks op due b) (h : Hands params caller b b' added) :
    Hands params caller s.backend b' added := by
  obtain ⟨journal, rfl⟩ := hasks.journal
  cases h with
  | nothing hlocks hminted => exact .nothing hlocks hminted
  | lock hr hacquire hminted => exact .lock hr hacquire hminted

/-- The lock tokens come off the same supply, and acquisitions do not start to give back what was
presented. -/
structure Backend.SameSupply (b b' : Backend) : Prop where
  mint : b'.mint = b.mint
  echoesLocks : b'.echoesLocks = b.echoesLocks

theorem Backend.SameSupply.of_eq {b b' : Backend} (h : b' = b) : b.SameSupply b' := by
  rw [h]
  exact ⟨rfl, rfl⟩

namespace Locking

variable {c c' : Call} {s s' : Surroundings} {p : Program} {due : Option Nat}

/-- The call is over, or its handler goes on. -/
def Leads (params : Json) (caller : Nat) (c c' : Call) (mine : List Exchange) : Prop :=
  (∃ outcome, c' = c.closed outcome ∧ Answers params caller c'.reply mine) ∨
    ∃ conversation program due sent,
      c' = { c with conversation, progress := .handling program due } ∧
      conversation.outbound = .buffer sent ∧
      (∀ message ∈ conversation.inbound, message = params) ∧
        Locking params caller program mine sent

/-- A call at work that has sent some messages. -/
structure Works (params : Json) (c : Call) (sent : List Json) : Prop where
  replies : c.Replies
  recovery : .recovery ∈ c.entered
  outbound : c.conversation.outbound = .buffer sent
  inbound : ∀ message ∈ c.conversation.inbound, message = params

theorem Works.leads_on (h : Works params c sent) (due : Option Nat)
    (hp : Locking params caller p mine sent) :
    Leads params caller c { c with progress := .handling p due } mine :=
  .inr ⟨c.conversation, p, due, sent, rfl, h.outbound, h.inbound, hp⟩

theorem Works.leads_error (h : Works params c sent) (e : CallError) :
    Leads params caller c (c.closed (.error e)) [] := by
  refine .inl ⟨_, rfl, ?_⟩
  rw [Call.reply_closed h.outbound]
  rfl

/-- The handler after it has got its request. -/
theorem of_request {r : LockRequest} (hr : Request.decode .lock params = .ok r) :
    Locking params caller (.acquireLock r.identifier r.existing .lockReply) [] [] := by
  cases hidentifier : checkLockIdentifier r.identifier with
  | error e =>
    rw [Program.acquireLock_of_error hidentifier]
    exact .fails _
  | ok _ =>
    rw [Program.acquireLock_of_ok hidentifier]
    exact .performs hr hidentifier

/-- The handler after the answer of the backend: it has been handed the lock, or it fails. -/
theorem of_answer {r : LockRequest} (hr : Request.decode .lock params = .ok r) {b : Backend}
    (hechoes : b.echoesLocks = false) (hfresh : r.existing ≠ some (b.mint b.minted)) :
    b.SameSupply (b.acquire r.identifier r.existing).2 ∧ ∃ added,
      Hands params caller b (b.acquire r.identifier r.existing).2 added ∧
        Locking params caller
          (.lockNext r.identifier r.existing (b.acquire r.identifier r.existing).1) added [] := by
  obtain ⟨store, hacquire, h⟩ | ⟨refusal, h⟩ :=
    Backend.acquire_honest hechoes r.identifier r.existing
  · rw [h, Program.lockNext_of_ne hfresh]
    exact ⟨⟨rfl, rfl⟩, _, .lock hr hacquire rfl, .answers hr _⟩
  · rw [h]
    exact ⟨.of_eq rfl, [], .of_eq rfl, .fails _⟩

/-- **The operation** is held up, struck, refused, or performed. -/
theorem Works.perform (h : Works params c []) {r : LockRequest}
    (hr : Request.decode .lock params = .ok r)
    (hidentifier : checkLockIdentifier r.identifier = .ok ())
    (hechoes : s.backend.echoesLocks = false)
    (hfresh : r.existing ≠ some (s.backend.mint s.backend.minted))
    (hm : c.handle s (.perform (.acquire r.identifier r.existing)
      (.lockNext r.identifier r.existing)) due = some (c', s')) :
    s.backend.SameSupply s'.backend ∧ ∃ added,
      Hands params caller s.backend s'.backend added ∧ Leads params caller c c' added := by
  have hmove := Call.handle_move hm
  generalize hresult : (c', s') = result at hmove
  cases hmove with
  | @ends outcome b hends =>
    cases hends with
    | @struck _ _ _ _ words hasks hpanic =>
      obtain ⟨hc, -⟩ := Call.finish_panicked h.replies.plain h.recovery (some words)
        { s with backend := b }
      have hbackend := Call.finish_backend c (.panicked (some words)) { s with backend := b }
      rw [← hresult] at hc hbackend
      obtain rfl : c' = _ := hc.trans (Call.conclude_kept h.replies _)
      rw [show s'.backend = b from hbackend]
      obtain ⟨journal, rfl⟩ := hasks.journal
      exact ⟨⟨rfl, rfl⟩, [], .nothing rfl rfl, h.leads_error _⟩
  | heldUp hnone hheld =>
    cases hresult
    cases hheld with
    | perform hdelay =>
      exact ⟨⟨rfl, rfl⟩, [], .nothing rfl rfl, h.leads_on _ (.performs hr hidentifier)⟩
  | proceeds hproceeds =>
    cases hresult
    cases hproceeds with
    | denied hasks hpanic herror =>
      obtain ⟨journal, rfl⟩ := hasks.journal
      exact ⟨⟨rfl, rfl⟩, [], .nothing rfl rfl, h.leads_on none (.fails _)⟩
    | performed hasks hpanic herror =>
      obtain ⟨journal, rfl⟩ := hasks.journal
      obtain ⟨hsupply, added, hhands, hlocking⟩ : _ ∧ ∃ added, Hands params caller _ _ added ∧ _ :=
        of_answer (b := { s.backend with journal }) hr hechoes hfresh
      exact ⟨⟨hsupply.mint, hsupply.echoesLocks⟩, added, hhands.of_asks hasks,
        h.leads_on none hlocking⟩
  | relays hrelays hstart => cases hrelays

/-- A move of the handler that leaves the backend alone. -/
theorem Leads.aside (h : Leads params caller c c' mine) (hs : s'.backend = s.backend) :
    s.backend.SameSupply s'.backend ∧ ∃ added,
      Hands params caller s.backend s'.backend added ∧
        Leads params caller c c' (mine ++ added) := by
  refine ⟨.of_eq hs, [], .of_eq hs, ?_⟩
  rwa [List.append_nil]

/-- **A move of the handler**, by where it stands. -/
theorem Works.handle (h : Works params c sent) (hp : Locking params caller p mine sent)
    (hechoes : s.backend.echoesLocks = false)
    (hfresh : ∀ r : LockRequest, Request.decode .lock params = .ok r →
      r.existing ≠ some (s.backend.mint s.backend.minted))
    (hm : c.handle s p due = some (c', s')) :
    s.backend.SameSupply s'.backend ∧ ∃ added,
      Hands params caller s.backend s'.backend added ∧
        Leads params caller c c' (mine ++ added) := by
  cases hp with
  | receives =>
    rw [Program.lock_eq] at hm
    obtain ⟨rfl, conversation, p, rfl, houtbound, -, hinbound, hp⟩ := Call.handle_withRequest hm
    refine Leads.aside (.inr ⟨_, _, _, [], rfl, houtbound.trans h.outbound, fun message hmessage =>
      h.inbound message (hinbound hmessage), ?_⟩) rfl
    obtain ⟨e, rfl⟩ | ⟨message, rest, r, hmessages, hdecode, rfl⟩ := hp
    · exact .fails e
    · have hparams := h.inbound message (by rw [hmessages]; exact List.mem_cons_self)
      exact of_request (hparams ▸ hdecode)
  | performs hr hidentifier => exact h.perform hr hidentifier hechoes (hfresh _ hr) hm
  | fails e =>
    have hs := Call.handle_backend rfl hm
    obtain rfl := Call.handle_done_kept h.replies hm
    exact Leads.aside (h.leads_error e) hs
  | answers hr t =>
    rw [Program.respond, Call.handle, Conversation.send_kept h.outbound] at hm
    cases hm
    exact Leads.aside (.inr ⟨_, _, _, _, rfl, rfl, h.inbound, .done hr t⟩) rfl
  | @done r hr t =>
    have hs := Call.handle_backend rfl hm
    obtain rfl := Call.handle_done_kept h.replies hm
    refine Leads.aside (.inl ⟨_, rfl, ?_⟩) hs
    rw [Call.reply_closed h.outbound]
    exact ⟨r, t, hr, rfl, rfl⟩

/-- A handler that has to wait has been handed nothing. -/
theorem Works.nothing_of_waiting (h : Works params c sent)
    (hp : Locking params caller p mine sent) (hnone : c.handle s p due = none) : mine = [] := by
  cases hp with
  | answers hr t =>
    rw [Program.respond, Call.handle, Conversation.send_kept h.outbound] at hnone
    cases hnone
  | done hr t => cases hnone
  | _ => rfl

/-- The handler asks the backend for nothing but the lock. -/
theorem asks {op : Operation} {next : Except BackendError op.Answer → Program}
    (h : Locking params caller (.perform op next) mine sent) :
    ∃ r : LockRequest, Request.decode .lock params = .ok r ∧ Program.perform op next =
      .perform (.acquire r.identifier r.existing) (.lockNext r.identifier r.existing) := by
  cases h with
  | performs hr hidentifier => exact ⟨_, hr, rfl⟩

end Locking

/-! ## One call in every schedule -/

/-- How a call for a lock stands at each stage of its task. -/
def Stands (params : Json) (caller : Nat) (c : Call) (mine : List Exchange) : Progress → Prop
  | .waiting => c.handler = .lock ∧ c.sent = [] ∧ mine = []
  | .handling program _ => Locking params caller program mine c.sent
  | .relaying _ | .reporting _ => False
  | .ended => Answers params caller c.reply mine

/-- **The invariant** of a call for a lock that has been handed so much. -/
structure Serves (params : Json) (caller : Nat) (mine : List Exchange) (sc : Scene) : Prop where
  contained : Contained sc
  inbound : ∀ message ∈ sc.call.conversation.inbound, message = params
  stands : Stands params caller sc.call mine sc.call.progress

theorem Locking.Leads.stands {c c' : Call} (h : Leads params caller c c' mine)
    (hinbound : ∀ message ∈ c.conversation.inbound, message = params) :
    (∀ message ∈ c'.conversation.inbound, message = params) ∧
      Stands params caller c' mine c'.progress := by
  obtain ⟨outcome, rfl, hanswers⟩ | ⟨conversation, program, due, sent, rfl, houtbound, hinbound',
    hlocking⟩ := h
  · exact ⟨hinbound, hanswers⟩
  · refine ⟨hinbound', ?_⟩
    show Locking params caller program mine (Call.sent _)
    rwa [Call.sent_of_outbound houtbound]

namespace Serves

variable {sc sc' : Scene} {c : Call} {s : Surroundings}

/-- The call is at work. -/
theorem works (h : Serves params caller mine sc) {program : Program} {due : Option Nat}
    (hp : sc.call.progress = .handling program due) :
    Locking.Works params sc.call sc.call.sent ∧
      Locking params caller program mine sc.call.sent := by
  obtain ⟨sent, hsent⟩ := h.contained.outbound
  have hphase := h.contained.phase
  have hstands := h.stands
  rw [hp] at hphase hstands
  rw [← Call.sent_of_outbound hsent] at hsent
  exact ⟨⟨⟨h.contained.guarded, ⟨_, hsent⟩, hphase.2.1⟩, hphase.1, hsent, h.inbound⟩, hstands⟩

/-- The task of the call moves. -/
theorem task (h : Serves params caller mine sc) (hechoes : sc.shared.backend.echoesLocks = false)
    (hfresh : ∀ r : LockRequest, Request.decode .lock params = .ok r →
      r.existing ≠ some (sc.shared.backend.mint sc.shared.backend.minted))
    (hm : sc.call.taskMove sc.shared = some (c, s)) :
    sc.shared.backend.SameSupply s.backend ∧ ∃ added,
      Hands params caller sc.shared.backend s.backend added ∧
        (∀ message ∈ c.conversation.inbound, message = params) ∧
          Stands params caller c (mine ++ added) c.progress := by
  cases hp : sc.call.progress with
  | waiting =>
    obtain ⟨sent, hsent⟩ := h.contained.outbound
    have hphase := h.contained.phase
    have hstands := h.stands
    rw [hp] at hphase hstands
    obtain ⟨⟨rest, hstages⟩, hplain, -⟩ := hphase
    obtain ⟨hhandler, hnone, rfl⟩ := hstands
    have hbackend := sc.call.begin_backend sc.shared
    obtain ⟨conversation, entered, began, hadmits, hrecovery, hentered, hc⟩ :=
      Call.begin_cases hstages hplain sc.shared
    rw [Call.taskMove, hp] at hm
    rw [Option.some.inj hm] at hc hbackend
    rw [Call.sent_of_outbound hsent] at hnone
    have houtbound : conversation.outbound = .buffer [] := hadmits.outbound.trans (hnone ▸ hsent)
    have hworks : Locking.Works params { sc.call with entered, conversation, began } [] :=
      ⟨⟨h.contained.guarded, ⟨[], houtbound⟩, hentered⟩, hrecovery, houtbound,
        hadmits.inbound ▸ h.inbound⟩
    refine ⟨.of_eq hbackend, [], .of_eq hbackend, ?_⟩
    obtain rfl | ⟨e, s₁, rfl⟩ := hc
    · rw [hhandler]
      exact (hworks.leads_on none .receives).stands hworks.inbound
    · rw [Call.finishWith_kept hworks.replies]
      exact (hworks.leads_error e).stands hworks.inbound
  | handling program due =>
    obtain ⟨hworks, hlocking⟩ := h.works hp
    rw [Call.taskMove, hp] at hm
    obtain ⟨hsupply, added, hhands, hleads⟩ := hworks.handle hlocking hechoes hfresh hm
    exact ⟨hsupply, added, hhands, hleads.stands h.inbound⟩
  | relaying inHand =>
    have hstands := h.stands
    rw [hp] at hstands
    exact hstands.elim
  | reporting e =>
    have hstands := h.stands
    rw [hp] at hstands
    exact hstands.elim
  | ended =>
    rw [Call.taskMove, hp] at hm
    cases hm

/-- The handler is given up. -/
theorem expire (h : Serves params caller mine sc) (hm : sc.call.expire sc.shared = some (c, s)) :
    (∀ message ∈ c.conversation.inbound, message = params) ∧
      Stands params caller c mine c.progress := by
  obtain ⟨ms, -, hhandling, -, hnone, heq⟩ := Call.expire_cases hm
  cases hp : sc.call.progress with
  | handling program due =>
    obtain ⟨hworks, hlocking⟩ := h.works hp
    rw [Call.taskMove, hp] at hnone
    obtain rfl := hworks.nothing_of_waiting hlocking hnone
    have hgiven : Call.Replies { sc.call with
        conversation := sc.call.conversation.cancel
        lookup := sc.call.lookup.map Lookup.abandon } :=
      ⟨h.contained.guarded, hworks.replies.outbound, hworks.replies.plain⟩
    have hc := Call.finishWith_kept hgiven (.error (Call.lateError ms)) sc.shared
    rw [show Call.finishWith _ _ _ = (c, s) from heq.symm] at hc
    rw [show c = _ from hc]
    exact ⟨h.inbound, rfl⟩
  | relaying inHand =>
    have hstands := h.stands
    rw [hp] at hstands
    exact hstands.elim
  | _ =>
    rw [Call.isHandling, hp] at hhandling
    cases hhandling

/-- **A step of the call** does to the locks what the call is then said to have been handed. -/
theorem own (h : Serves params caller mine sc) (hechoes : sc.shared.backend.echoesLocks = false)
    (hfresh : ∀ r : LockRequest, Request.decode .lock params = .ok r →
      r.existing ≠ some (sc.shared.backend.mint sc.shared.backend.minted))
    (hs : Scene.OwnStep sc sc') :
    sc.shared.backend.SameSupply sc'.shared.backend ∧ ∃ added,
      Hands params caller sc.shared.backend sc'.shared.backend added ∧
        Serves params caller (mine ++ added) sc' := by
  obtain ⟨sent, hsent⟩ := h.contained.outbound
  have hcontained := h.contained.step hs.step
  -- A step that is no move of the task leaves the backend, and so what the call has been handed.
  have haside (hsame : sc'.shared.backend = sc.shared.backend)
      (hkept : (∀ message ∈ sc'.call.conversation.inbound, message = params) ∧
        Stands params caller sc'.call mine sc'.call.progress) :
      sc.shared.backend.SameSupply sc'.shared.backend ∧ ∃ added,
        Hands params caller sc.shared.backend sc'.shared.backend added ∧
          Serves params caller (mine ++ added) sc' := by
    refine ⟨.of_eq hsame, [], .of_eq hsame, ?_⟩
    rw [List.append_nil]
    exact ⟨hcontained, hkept.1, hkept.2⟩
  cases hs with
  | task hm =>
    obtain ⟨hsupply, added, hhands, hinbound, hstands⟩ := h.task hechoes hfresh hm
    exact ⟨hsupply, added, hhands, hcontained, hinbound, hstands⟩
  | expire hm => exact haside (Call.expire_backend hm) (h.expire hm)
  | cancel =>
    refine haside rfl ⟨h.inbound, ?_⟩
    have hstands := h.stands
    show Stands params caller _ mine sc.call.progress
    generalize sc.call.progress = progress at hstands ⊢
    cases progress with
    | _ => exact hstands
  | produce hl hm => cases h.contained.lookup.symm.trans hl
  | stream noticed hl hnoticed hm => cases h.contained.lookup.symm.trans hl
  | breakdown words hl hm => cases h.contained.lookup.symm.trans hl
  | read hframes hpresent hr => cases hsent.symm.trans hframes
  | readEnd hframes hpresent hr => cases hsent.symm.trans hframes
  | leave hframes => cases hsent.symm.trans hframes

/-- A handler that fails ends the call with its failure. -/
theorem tells (h : Serves params caller mine sc) {e : CallError} {due : Option Nat}
    (hp : sc.call.progress = .handling (.fail e) due) :
    ∃ c s, sc.call.taskMove sc.shared = some (c, s) ∧ c.isOver = true ∧ c.reply = .error e := by
  obtain ⟨hworks, -⟩ := h.works hp
  refine ⟨_, _, by rw [Call.taskMove, hp]; rfl, ?_⟩
  show (sc.call.finishWith (.error e) sc.shared).1.isOver = true ∧
    (sc.call.finishWith (.error e) sc.shared).1.reply = .error e
  rw [Call.finishWith_kept hworks.replies, Call.reply_closed hworks.outbound]
  exact ⟨rfl, rfl⟩

/-- What calls share evolves. -/
theorem others (h : Serves params caller mine sc) (hs : sc.shared.Evolves s) :
    Serves params caller mine { sc with shared := s } :=
  ⟨h.contained.others hs, h.inbound, h.stands⟩

end Serves

/-! ## Any number of calls -/

/-- The method that hands out locks. -/
def lockRoute : Route := ⟨"permgate.v1.LockService/AcquireLock", .unary, .lock⟩

theorem lockRoute_mem : lockRoute ∈ Route.standard false := by
  simp [Route.standard, lockRoute]

/-- The parameters do not present a token that is still to be handed out. -/
def PresentsNothingAhead (params : Json) (b : Backend) : Prop :=
  ∀ r : LockRequest, Request.decode .lock params = .ok r →
    ∀ n, b.minted ≤ n → r.existing ≠ some (b.mint n)

/-- What goes on beside the calls for locks does not concern the locks. -/
structure Surroundings.SparesLocks (s s' : Surroundings) : Prop where
  evolves : s.Evolves s'
  locks : s'.backend.store.locks = s.backend.store.locks
  minted : s'.backend.minted = s.backend.minted
  supply : s.backend.SameSupply s'.backend

/-- A call for a lock, with the parameters that it was made with. -/
structure LockCall where
  params : Json
  scene : Scene

/-- The call beside what it shares with the others now. -/
def LockCall.beside (l : LockCall) (s : Surroundings) : Scene := { l.scene with shared := s }

/-- The calls for locks in the order in which they were made, what they share, and what has been
handed out. -/
structure Desk where
  shared : Surroundings
  calls : List LockCall := []
  log : List Exchange := []

/-- What a call is handed when a token comes off the supply. -/
def handed (caller : Nat) (params : Json) (b b' : Backend) : List Exchange :=
  if b'.minted = b.minted then []
  else
    match Request.decode .lock params with
    | .ok r => [⟨caller, r.identifier, r.existing, b.mint b.minted⟩]
    | .error _ => []

theorem Hands.handed_eq {b b' : Backend} (h : Hands params caller b b' added) :
    handed caller params b b' = added := by
  cases h with
  | nothing hlocks hminted => exact if_pos hminted
  | lock hr hacquire hminted => rw [handed, if_neg (by omega), hr]

namespace Desk

/-- One step of somebody: a client makes a call, a call or somebody who is there for it moves, or
something else goes on. -/
inductive Step (g : Gateway) : Desk → Desk → Prop where
  | make {w : Desk} (params : Json) (headers : Headers) (capacity : Nat)
      (hnew : PresentsNothingAhead params w.shared.backend) :
      Step g w { w with
        calls := w.calls ++ [⟨params, .start g lockRoute params headers capacity w.shared⟩] }
  | own {w : Desk} (caller : Nat) {l : LockCall} {sc : Scene} (hl : w.calls[caller]? = some l)
      (hs : Scene.OwnStep (l.beside w.shared) sc) :
      Step g w
        { shared := sc.shared, calls := w.calls.set caller { l with scene := sc }
          log := w.log ++ handed caller l.params w.shared.backend sc.shared.backend }
  | others {w : Desk} {s : Surroundings} (hs : w.shared.SparesLocks s) :
      Step g w { w with shared := s }

/-- What the steps can lead to. -/
inductive Reachable (g : Gateway) (start : Desk) : Desk → Prop where
  | refl : Reachable g start start
  | tail {w w' : Desk} (h : Reachable g start w) (hs : Step g w w') : Reachable g start w'

/-- What a call has been handed. -/
def handedTo (w : Desk) (caller : Nat) : List Exchange := w.log.filter (·.caller = caller)

/-- **The invariant** of a desk that was opened in some surroundings. -/
structure Kept (s : Surroundings) (w : Desk) : Prop where
  serves : ∀ caller l, w.calls[caller]? = some l →
    Serves l.params caller (w.handedTo caller) (l.beside w.shared)
  new : ∀ l ∈ w.calls, PresentsNothingAhead l.params w.shared.backend
  callers : ∀ e ∈ w.log, e.caller < w.calls.length
  supply : s.backend.SameSupply w.shared.backend
  history : LockHistory s.backend.minted w.log w.shared.backend

end Desk

theorem PresentsNothingAhead.mono {b b' : Backend} (h : PresentsNothingAhead params b)
    (hmint : b'.mint = b.mint) (hminted : b.minted ≤ b'.minted) :
    PresentsNothingAhead params b' := by
  intro r hr n hn
  rw [hmint]
  exact h r hr n (Nat.le_trans hminted hn)

theorem Backend.SameSupply.trans {b b' b'' : Backend} (h : b.SameSupply b')
    (h' : b'.SameSupply b'') : b.SameSupply b'' :=
  ⟨h'.mint.trans h.mint, h'.echoesLocks.trans h.echoesLocks⟩

/-- What a call is handed adds to the history. -/
theorem LockHistory.hands {first : Nat} {log : List Exchange} {b b' : Backend}
    (h : LockHistory first log b) (hhands : Hands params caller b b' added)
    (hnew : PresentsNothingAhead params b) (hmint : b'.mint = b.mint) :
    LockHistory first (log ++ added) b' := by
  cases hhands with
  | nothing hlocks hminted =>
    rw [List.append_nil]
    exact h.of_same hlocks hmint hminted
  | lock hr hacquire hminted => exact h.exchange caller hacquire (hnew _ hr) rfl hmint hminted

theorem Hands.caller_eq {b b' : Backend} (h : Hands params caller b b' added) :
    ∀ e ∈ added, e.caller = caller := by
  cases h with
  | nothing hlocks hminted => exact fun e he => (List.not_mem_nil he).elim
  | lock hr hacquire hminted =>
    intro e he
    rw [List.mem_singleton.1 he]

/-- Only the call that has moved is handed anything. -/
theorem Hands.filter_caller {b b' : Backend} (h : Hands params caller b b' added) (other : Nat) :
    added.filter (·.caller = other) = if caller = other then added else [] := by
  cases h with
  | nothing hlocks hminted => rw [List.filter_nil, ite_self]
  | lock hr hacquire hminted => simp [List.filter_singleton]

/-- A call that has just been made. -/
theorem Serves.start {g : Gateway} {metrics : Bool} {auth : Option AuthSettings}
    (hstages : g.stages = Stage.standard metrics auth) (params : Json) (headers : Headers)
    (capacity : Nat) (shared : Surroundings) :
    Serves params caller [] (.start g lockRoute params headers capacity shared) where
  contained := Contained.start lockRoute_mem rfl hstages params headers capacity shared
  inbound _ hmessage := List.mem_singleton.1 hmessage
  stands := ⟨rfl, rfl, rfl⟩

namespace Desk.Kept

variable {s : Surroundings} {w w' : Desk} {g : Gateway}

theorem honest (h : w.Kept s) (hhonest : s.backend.echoesLocks = false) :
    w.shared.backend.echoesLocks = false :=
  h.supply.echoesLocks.trans hhonest

theorem start (hnone : s.backend.store.locks = []) : Kept s { shared := s } where
  serves _ _ hl := by cases hl
  new _ hl := by cases hl
  callers _ he := by cases he
  supply := .of_eq rfl
  history := .start hnone

/-- A client makes a call. -/
theorem make (h : w.Kept s) {metrics : Bool} {auth : Option AuthSettings}
    (hstages : g.stages = Stage.standard metrics auth) {params : Json}
    (hnew : PresentsNothingAhead params w.shared.backend) (headers : Headers) (capacity : Nat) :
    Kept s { w with
      calls := w.calls ++ [⟨params, .start g lockRoute params headers capacity w.shared⟩] } where
  serves caller l hl := by
    by_cases hcaller : caller < w.calls.length
    · rw [List.getElem?_append_left hcaller] at hl
      exact h.serves caller l hl
    · rw [List.getElem?_append_right (Nat.not_lt.1 hcaller), List.getElem?_singleton] at hl
      split at hl
      · obtain rfl := Option.some.inj hl
        have hnone : w.handedTo caller = [] := List.filter_eq_nil_iff.2 fun e he => by
          have hlt := h.callers e he
          simp only [decide_eq_true_eq]
          omega
        show Serves params caller (w.handedTo caller) _
        rw [hnone]
        exact .start hstages params headers capacity w.shared
      · cases hl
  new := by
    simp only [List.forall_mem_append, List.forall_mem_singleton]
    exact ⟨h.new, hnew⟩
  callers e he := by
    have hlt := h.callers e he
    rw [List.length_append]
    omega
  supply := h.supply
  history := h.history

/-- A call moves. -/
theorem own (h : w.Kept s) (hhonest : s.backend.echoesLocks = false) {l : LockCall} {sc : Scene}
    (hl : w.calls[caller]? = some l) (hs : Scene.OwnStep (l.beside w.shared) sc) :
    ∃ added, handed caller l.params w.shared.backend sc.shared.backend = added ∧
      Hands l.params caller w.shared.backend sc.shared.backend added ∧
      Kept s { shared := sc.shared, calls := w.calls.set caller { l with scene := sc }
               log := w.log ++ added } := by
  have hnew := h.new l (List.mem_of_getElem? hl)
  have hcaller := (List.getElem?_eq_some_iff.1 hl).1
  obtain ⟨hsupply, added, hhands, hserves⟩ := (h.serves caller l hl).own (h.honest hhonest)
    (fun r hr => hnew r hr _ (Nat.le_refl _)) hs
  have hcontinues := hs.continues
  refine ⟨added, hhands.handed_eq, hhands, ?_, ?_, ?_, h.supply.trans hsupply,
    h.history.hands hhands hnew hsupply.mint⟩
  · intro other l' hl'
    rw [handedTo, List.filter_append, hhands.filter_caller other]
    by_cases hother : caller = other
    · subst hother
      rw [List.getElem?_set_self hcaller] at hl'
      obtain rfl := Option.some.inj hl'
      rw [if_pos rfl]
      exact hserves
    · rw [List.getElem?_set_ne hother] at hl'
      rw [if_neg hother, List.append_nil]
      exact (h.serves other l' hl').others hcontinues.evolves
  · intro l' hl'
    obtain hmem | rfl := List.mem_or_eq_of_mem_set hl'
    · exact (h.new l' hmem).mono hcontinues.mint hcontinues.minted
    · exact hnew.mono hcontinues.mint hcontinues.minted
  · rw [List.length_set]
    simp only [List.forall_mem_append]
    exact ⟨h.callers, fun e he => (hhands.caller_eq e he) ▸ hcaller⟩

/-- Something else goes on. -/
theorem others (h : w.Kept s) {s' : Surroundings} (hs : w.shared.SparesLocks s') :
    Kept s { w with shared := s' } where
  serves caller l hl := (h.serves caller l hl).others hs.evolves
  new l hl := (h.new l hl).mono hs.supply.mint (Nat.le_of_eq hs.minted.symm)
  callers := h.callers
  supply := h.supply.trans hs.supply
  history := h.history.of_same hs.locks hs.supply.mint hs.minted

/-- **Every step keeps the invariant.** -/
theorem step (h : w.Kept s) {metrics : Bool} {auth : Option AuthSettings}
    (hstages : g.stages = Stage.standard metrics auth) (hhonest : s.backend.echoesLocks = false)
    (hs : Step g w w') : w'.Kept s := by
  cases hs with
  | make params headers capacity hnew => exact h.make hstages hnew headers capacity
  | own caller hl hs =>
    obtain ⟨added, hadded, -, hkept⟩ := h.own hhonest hl hs
    rwa [hadded]
  | others hs => exact h.others hs

theorem of_reachable {metrics : Bool} {auth : Option AuthSettings}
    (hstages : g.stages = Stage.standard metrics auth) (hhonest : s.backend.echoesLocks = false)
    (h : w.Kept s) (hw : Reachable g w w') : w'.Kept s := by
  induction hw with
  | refl => exact h
  | tail _ hs ih => exact ih.step hstages hhonest hs

end Desk.Kept

/-! ## What becomes of a token -/

/-- An operation that nothing disturbs is performed. -/
theorem Call.answered_of_calm {c : Call} {s : Surroundings} {op : Operation}
    {next : Except BackendError op.Answer → Program}
    (hpanic : (s.backend.disturbance op.kind).panic = none)
    (herror : (s.backend.disturbance op.kind).error = none) :
    c.answered s op next = (c.goOn (next (s.backend.perform op).1),
      { s with backend := (s.backend.perform op).2 }) := by
  rw [answered, Backend.react_eq_perform hpanic herror]

/-- The store hands the lock out for this token, or for none. -/
def Store.Accepts (s : Store) (identifier : String) (presented : Option LockToken) : Prop :=
  ∃ fresh handed, s.acquire identifier presented fresh = .ok handed

/-- What is accepted for a lock depends on its holder only. -/
theorem Store.accepts_iff {s : Store} {identifier : String} {presented : Option LockToken} :
    s.Accepts identifier presented ↔ identifier.isEmpty = false ∧
      ∀ t ∈ presented, ∀ current ∈ s.holder? identifier, t = current := by
  constructor
  · rintro ⟨fresh, ⟨t, s'⟩, h⟩
    obtain ⟨hname, hcurrent, -⟩ := Store.acquire_eq_ok_iff.1 h
    exact ⟨hname, hcurrent⟩
  · rintro ⟨hname, hcurrent⟩
    exact ⟨⟨""⟩, _, Store.acquire_eq_ok_iff.2 ⟨hname, hcurrent, rfl, rfl⟩⟩

namespace Desk

/-- **What a step comes to**: the locks stay as they are, or one of them is handed out by the store,
and put on the log. -/
inductive Turns (w w' : Desk) : Prop where
  | same (hlog : w'.log = w.log)
      (hlocks : w'.shared.backend.store.locks = w.shared.backend.store.locks)
  | hands (e : Exchange) (hlog : w'.log = w.log ++ [e])
      (hacquire : w.shared.backend.store.acquire e.identifier e.presented e.token =
        .ok (e.token, w'.shared.backend.store))

/-- **A token is no good any more**: who presents it for the lock is refused, and nothing is
changed. A backend that is there says that the token is stale, and a call that is so answered fails
with that. -/
structure Spurns (w : Desk) (identifier : String) (t : LockToken) : Prop where
  refused : ∃ refusal, w.shared.backend.acquire identifier (some t) =
    (.error refusal, w.shared.backend)
  stale : w.shared.backend.isAvailable = true →
    w.shared.backend.acquire identifier (some t) =
      (.error ⟨.failedPrecondition, "stale fencing token for lock " ++ identifier⟩,
        w.shared.backend)
  fails : w.shared.backend.isAvailable = true →
    (w.shared.backend.disturbance .acquire).panic = none →
    (w.shared.backend.disturbance .acquire).error = none → ∀ c : Call,
      c.answered w.shared (.acquire identifier (some t)) (Program.lockNext identifier (some t)) =
        (c.goOn (.fail (.ofBackend ⟨.failedPrecondition,
          "could not acquire lock: stale fencing token for lock " ++ identifier⟩)), w.shared)

/-- **What has been handed out** up to some moment. -/
structure Fenced (w : Desk) : Prop where
  /-- A token is exchanged at most once on the lock that it was handed out for. -/
  once : ∀ issued ∈ w.log, ∀ (i k : Nat) (d e : Exchange), w.log[i]? = some d → w.log[k]? = some e →
    d.identifier = issued.identifier → e.identifier = issued.identifier →
    d.presented = some issued.token → e.presented = some issued.token → i = k
  /-- A call that answers a lock has made one exchange, and one that fails has made none. -/
  replies : ∀ caller l, w.calls[caller]? = some l → l.scene.call.isOver = true →
    Answers l.params caller l.scene.call.reply (w.handedTo caller)
  /-- The token answered is not the one presented. -/
  differs : ∀ e ∈ w.log, e.presented ≠ some e.token
  /-- A call asks the backend for nothing but the lock that it was made for. -/
  asks : ∀ l ∈ w.calls, ∀ op next due, l.scene.call.progress = .handling (.perform op next) due →
    ∃ r : LockRequest, Request.decode .lock l.params = .ok r ∧
      Program.perform op next =
        .perform (.acquire r.identifier r.existing) (.lockNext r.identifier r.existing)
  /-- A call whose handler fails answers the failure. -/
  tells : ∀ l ∈ w.calls, ∀ e due, l.scene.call.progress = .handling (.fail e) due →
    ∃ c s, l.scene.call.taskMove w.shared = some (c, s) ∧ c.isOver = true ∧ c.reply = .error e

namespace Kept

variable {s : Surroundings} {w w' : Desk} {g : Gateway}

theorem injective (h : w.Kept s) (hinj : Function.Injective s.backend.mint) :
    Function.Injective w.shared.backend.mint := by
  rwa [h.supply.mint]

theorem fenced (h : w.Kept s) (hinj : Function.Injective s.backend.mint) : w.Fenced where
  once issued hissued i k d e hi hk hd he hd' he' :=
    h.history.eq_of_presented (h.injective hinj) hissued hi hk hd he hd' he'
  replies caller l hl hover := by
    have hstands := (h.serves caller l hl).stands
    rw [LockCall.beside] at hstands
    cases hp : l.scene.call.progress with
    | ended =>
      rw [hp] at hstands
      exact hstands
    | _ =>
      rw [Call.isOver, hp] at hover
      cases hover
  differs e he := by
    obtain ⟨k, hk⟩ := List.getElem?_of_mem he
    rw [h.history.token k e hk]
    exact h.history.fresh k e hk _ (Nat.le_refl _)
  asks l hl op next due hp := by
    obtain ⟨caller, hcaller⟩ := List.getElem?_of_mem hl
    exact ((h.serves caller l hcaller).works hp).2.asks
  tells l hl e due hp := by
    obtain ⟨caller, hcaller⟩ := List.getElem?_of_mem hl
    exact (h.serves caller l hcaller).tells hp

theorem turns (h : w.Kept s) (hhonest : s.backend.echoesLocks = false) (hs : Step g w w') :
    w.Turns w' := by
  cases hs with
  | make params headers capacity hnew => exact .same rfl rfl
  | own caller hl hs =>
    obtain ⟨added, hadded, hhands, -⟩ := h.own hhonest hl hs
    rw [hadded]
    cases hhands with
    | nothing hlocks hminted => exact .same (List.append_nil _) hlocks
    | lock hr hacquire hminted => exact .hands _ rfl hacquire
  | others hs => exact .same rfl hs.locks

theorem spurns (h : w.Kept s) (hinj : Function.Injective s.backend.mint)
    (hhonest : s.backend.echoesLocks = false) {i k : Nat} {d e : Exchange} (hlt : i < k)
    (hi : w.log[i]? = some d) (hk : w.log[k]? = some e) (hlock : e.identifier = d.identifier) :
    w.Spurns d.identifier d.token := by
  obtain ⟨hstale, hrefused⟩ :=
    h.history.acquire_stale (h.injective hinj) (h.honest hhonest) hlt hi hk hlock
  refine ⟨hrefused, hstale, fun havailable hpanic herror c => ?_⟩
  refine (Call.answered_of_calm hpanic herror).trans ?_
  show (c.goOn (Program.lockNext _ _ (w.shared.backend.acquire d.identifier (some d.token)).1),
    { w.shared with backend := (w.shared.backend.acquire d.identifier (some d.token)).2 }) = _
  rw [hstale havailable]
  rfl

end Kept

/-- The log only grows. -/
theorem Reachable.log {g : Gateway} {w w' : Desk} (h : Reachable g w w') : w.log <+: w'.log := by
  induction h with
  | refl => exact List.prefix_rfl
  | tail _ hs ih =>
    cases hs with
    | own caller hl hs => exact ih.trans (List.prefix_append _ _)
    | _ => exact ih

/-- An exchange of one lock leaves what another one accepts. -/
theorem Turns.accepts_iff {w w' : Desk} (h : w.Turns w') {other : String}
    (hother : ∀ e, w'.log = w.log ++ [e] → e.identifier ≠ other) (presented : Option LockToken) :
    w'.shared.backend.store.Accepts other presented ↔
      w.shared.backend.store.Accepts other presented := by
  have hheld : w'.shared.backend.store.holder? other = w.shared.backend.store.holder? other := by
    cases h with
    | same hlog hlocks => rw [Store.holder?, hlocks, Store.holder?]
    | hands e hlog hacquire =>
      obtain ⟨-, -, -, hstore⟩ := Store.acquire_eq_ok_iff.1 hacquire
      rw [hstore, Store.holder?, Store.lookup_setLock, if_neg (Ne.symm (hother e hlog))]
      rfl
  rw [Store.accepts_iff, Store.accepts_iff, hheld]

end Desk

/-- **A fencing token is used once.** Any number of clients call for locks, presenting no token that
is still to be handed out, and their calls move in any order, with faults, deadlines and
cancellations, while anything else that spares the locks goes on. No lock was held to begin with,
and no token is in the supply twice. Then each token is exchanged at most once on the lock that it
was handed out for, and a call answers another token than it presents. Once the lock has been handed
out again, the token is refused for ever, with FailedPrecondition unless the backend is down or
disturbed, and to no effect. And whatever happens to one lock, the others accept what they accepted
before. -/
theorem fencing_tokens_single_use {g : Gateway} {metrics : Bool} {auth : Option AuthSettings}
    (hstages : g.stages = Stage.standard metrics auth) {s : Surroundings}
    (hnone : s.backend.store.locks = []) (hhonest : s.backend.echoesLocks = false)
    (hinj : Function.Injective s.backend.mint) {w : Desk}
    (h : Desk.Reachable g { shared := s } w) :
    w.Fenced ∧
      (∀ w', Desk.Reachable g w w' → ∀ (i k : Nat) (d e : Exchange), i < k →
        w.log[i]? = some d → w.log[k]? = some e → e.identifier = d.identifier →
          w'.Spurns d.identifier d.token) ∧
      ∀ w', Desk.Step g w w' → w.Turns w' ∧ ∀ other,
        (∀ e, w'.log = w.log ++ [e] → e.identifier ≠ other) → ∀ presented,
          (w'.shared.backend.store.Accepts other presented ↔
            w.shared.backend.store.Accepts other presented) := by
  have hkept := (Desk.Kept.start hnone).of_reachable hstages hhonest h
  refine ⟨hkept.fenced hinj, fun w' hw' i k d e hlt hi hk hlock => ?_, fun w' hs => ?_⟩
  · have hkeeps : ∀ {j : Nat} {f : Exchange}, w.log[j]? = some f → w'.log[j]? = some f := by
      intro j f hj
      obtain ⟨later, hlater⟩ := hw'.log
      rw [← hlater, List.getElem?_append_left (List.getElem?_eq_some_iff.1 hj).1, hj]
    exact (hkept.of_reachable hstages hhonest hw').spurns hinj hhonest hlt (hkeeps hi) (hkeeps hk)
      hlock
  · have hturns := hkept.turns hhonest hs
    exact ⟨hturns, fun other hother presented => hturns.accepts_iff hother presented⟩

namespace Desk

/-- The desk after a client has made a call. -/
def making (g : Gateway) (params : Json) (w : Desk) : Desk :=
  { w with calls := w.calls ++ [⟨params, .start g lockRoute params {} 16 w.shared⟩] }

/-- The desk after a move of the task of a call, if it can make one. -/
def moving (w : Desk) (caller : Nat) : Desk :=
  match w.calls[caller]? with
  | none => w
  | some l =>
    match l.scene.call.taskMove w.shared with
    | none => w
    | some (c, s) =>
      let sc := l.beside w.shared
      { shared := s
        calls := w.calls.set caller
          { l with
            scene :=
              { sc with call := c, shared := s, fault := sc.strike (sc.call.struck sc.shared) } }
        log := w.log ++ handed caller l.params w.shared.backend s.backend }

/-- Tasks that move in some order. -/
theorem Reachable.moves {g : Gateway} {start w : Desk} (h : Reachable g start w)
    (callers : List Nat) : Reachable g start (callers.foldl moving w) := by
  induction callers generalizing w with
  | nil => exact h
  | cons caller callers ih =>
    refine ih ?_
    rw [moving]
    split
    · exact h
    next l hl =>
      split
      · exact h
      next c s hm => exact h.tail (.own caller hl (.task hm))

end Desk

/-- Two clients race with the same token. The second one is faster, and the first one is told that
the token is stale. -/
theorem fencing_tokens_single_use_race :
    let g : Gateway :=
      { routes := Route.standard false, stages := Stage.standard false none, timeout := 1000 }
    let s : Surroundings :=
      { unixTime := 0, backend := { mint := fun n => ⟨Number.decimal n⟩ }
        traceIds := fun _ => "trace" }
    let stale : CallError := .ofBackend
      ⟨.failedPrecondition, "could not acquire lock: stale fencing token for lock leader"⟩
    ∃ w, Desk.Reachable g { shared := s } w ∧
      w.log = [⟨0, "leader", none, ⟨"0"⟩⟩, ⟨2, "leader", some ⟨"0"⟩, ⟨"1"⟩⟩] ∧
      (∃ l, w.calls[1]? = some l ∧ l.scene.call.reply = .error stale) ∧
      w.Fenced ∧ w.Spurns "leader" ⟨"0"⟩ := by
  intro g s stale
  let first : Json := .obj [("identifier", .str "leader")]
  let again : Json := .obj [("identifier", .str "leader"), ("existing_token", .str "0")]
  let held := [0, 0, 0, 0, 0].foldl Desk.moving (Desk.making g first { shared := s })
  let w := [1, 1, 2, 2, 2, 1, 1, 2, 2].foldl Desk.moving ((held.making g again).making g again)
  have hlog : w.log = [⟨0, "leader", none, ⟨"0"⟩⟩, ⟨2, "leader", some ⟨"0"⟩, ⟨"1"⟩⟩] := by
    decide +kernel
  have hreply : (w.calls[1]?.bind fun l => match l.scene.call.reply with
      | .error e => some e
      | .ok _ => none) = some stale := by decide +kernel
  have hfirst : PresentsNothingAhead first s.backend := by
    intro r hr n hn
    have hnone : (Request.decode .lock first).toOption.map LockRequest.existing = some none := by
      decide +kernel
    rw [hr] at hnone
    rw [Option.some.inj hnone]
    exact nofun
  have hstages : g.stages = Stage.standard false none := rfl
  have hheld : Desk.Reachable g { shared := s } held :=
    Desk.Reachable.moves (.tail .refl (.make first {} 16 hfirst)) _
  have hminted : held.shared.backend.minted = 1 := by decide +kernel
  have hagain : PresentsNothingAhead again held.shared.backend := by
    intro r hr n hn
    have hsome : (Request.decode .lock again).toOption.map LockRequest.existing =
        some (some ⟨"0"⟩) := by decide +kernel
    rw [hr] at hsome
    rw [Option.some.inj hsome, ((Desk.Kept.start rfl).of_reachable hstages rfl hheld).supply.mint]
    intro heq
    have hzero : Number.decimal 0 = Number.decimal n :=
      congrArg LockToken.text (Option.some.inj heq)
    have hn0 := Number.decimal_injective hzero
    omega
  have h : Desk.Reachable g { shared := s } w :=
    Desk.Reachable.moves ((hheld.tail (.make again {} 16 hagain)).tail (.make again {} 16 hagain)) _
  have hinj : Function.Injective s.backend.mint := fun m n heq =>
    Number.decimal_injective (congrArg LockToken.text heq)
  obtain ⟨hfenced, hspurns, -⟩ := fencing_tokens_single_use hstages rfl rfl hinj h
  refine ⟨w, h, hlog, ?_, hfenced, ?_⟩
  · obtain ⟨l, hl, hreply⟩ := Option.bind_eq_some_iff.1 hreply
    refine ⟨l, hl, ?_⟩
    cases hr : l.scene.call.reply with
    | ok message => simp [hr] at hreply
    | error e => simpa [hr] using hreply
  · exact hspurns w .refl 0 1 ⟨0, "leader", none, ⟨"0"⟩⟩ ⟨2, "leader", some ⟨"0"⟩, ⟨"1"⟩⟩
      Nat.zero_lt_one (by rw [hlog]; rfl) (by rw [hlog]; rfl) rfl

end RelationGate
