import RelationGate.Gateway.Server
import RelationGate.Proofs.Call.Moves
import RelationGate.Proofs.Flow.Pipe

/-!
# The moves of a streaming call

The three streaming methods have one handler with parameters: it receives a query of its sort and
relays the lookup (`StreamKind.handler`). What the task of such a call can do is listed here, one
lemma for each phase: the way in (`begin_streaming`), the request (`handle_request`), the start of
the lookup (`handle_relay`), an item in hand (`relay_held`), the next thing the results show
(`relay_next`), and the report of a failure (`report_cases`).
-/

namespace RelationGate

open Json

/-! ## The streaming methods -/

/-- The streaming methods. -/
inductive StreamKind where
  | read
  | subjects
  | resources
  deriving DecidableEq, Repr

namespace StreamKind

/-- The sort of request that a method takes. -/
def request : StreamKind → RequestKind
  | read => .read
  | subjects => .subjects
  | resources => .resources

/-- The query of a request. -/
def query : (k : StreamKind) → Request k.request → StreamQuery
  | read => StreamQuery.read
  | subjects => StreamQuery.subjects
  | resources => StreamQuery.resources

/-- The handler: it receives the request and relays its lookup. -/
def handler (k : StreamKind) : Program := Program.withRequest k.request fun r => .relay (k.query r)

/-- The name of a method. -/
def method : StreamKind → String
  | read => "permgate.v1.PermissionsService/ReadRelationships"
  | subjects => "permgate.v1.PermissionsService/LookupSubjects"
  | resources => "permgate.v1.PermissionsService/LookupResources"

/-- The route of a method. -/
def route (k : StreamKind) : Route := ⟨k.method, .serverStreaming, k.handler⟩

/-- The query that the parameters of a call hold. -/
def query? (k : StreamKind) (params : Json) : Option StreamQuery :=
  match Request.decode k.request params with
  | .ok r => some (k.query r)
  | .error _ => none

/-- These are the streaming methods of the gateway. -/
theorem mem_standard_iff {sticky : Bool} {route : Route} :
    route ∈ Route.standard sticky ∧ route.kind = .serverStreaming ↔
      ∃ k : StreamKind, route = k.route := by
  constructor
  · rintro ⟨hmem, hkind⟩
    simp only [Route.standard, List.mem_cons, List.not_mem_nil, or_false] at hmem
    rcases hmem with rfl | rfl | rfl | rfl | rfl | rfl | rfl | rfl | rfl
    · cases hkind
    · cases hkind
    · cases hkind
    · exact ⟨.read, rfl⟩
    · exact ⟨.subjects, rfl⟩
    · exact ⟨.resources, rfl⟩
    · cases hkind
    · cases hkind
    · cases hkind
  · rintro ⟨k, rfl⟩
    cases k with
    | read => exact ⟨List.mem_of_getElem? (i := 3) rfl, rfl⟩
    | subjects => exact ⟨List.mem_of_getElem? (i := 4) rfl, rfl⟩
    | resources => exact ⟨List.mem_of_getElem? (i := 5) rfl, rfl⟩

end StreamKind

namespace Call

variable {c c' : Call} {s s' : Surroundings} {frames : Channel Frame} {k : StreamKind}

/-- **The way in**: the handler is reached, or the call fails. -/
theorem begin_streaming {rest : List Stage} (h : c.Streams frames)
    (hstages : c.stages = .recovery :: rest)
    (hplain : ∀ stage ∈ c.stages, stage.IsPlain) (s : Surroundings) :
    ∃ conversation entered began, Stage.Admits c.conversation conversation ∧
      Stage.recovery ∈ entered ∧ { c with entered, conversation, began }.Streams frames ∧
      ((c.begin s).1 =
          { c with entered, conversation, began, progress := .handling c.handler none } ∨
        ∃ e, (c.begin s).1 =
          { { c with entered, conversation, began }.leaving (.error e) with
            progress := .reporting e }) := by
  obtain ⟨conversation, entered, began, hadmits, hrecovery, hentered, hc⟩ :=
    begin_cases hstages hplain s
  have hstreams : { c with entered, conversation, began }.Streams frames :=
    ⟨h.guarded, hadmits.outbound.trans h.outbound, hentered⟩
  refine ⟨conversation, entered, began, hadmits, hrecovery, hstreams, hc.imp_right ?_⟩
  rintro ⟨e, s₁, hc⟩
  exact ⟨e, hc.trans (finishWith_error hstreams e s₁)⟩

/-- What a request that comes through was decoded from. -/
theorem receive_eq_ok {conversation : Conversation} {kind : RequestKind} {r : Request kind}
    (h : (conversation.receive kind).1 = .ok r) :
    ∃ params rest, conversation.inbound = params :: rest ∧ Request.decode kind params = .ok r := by
  rw [Conversation.receive_eq] at h
  split at h
  · cases h
  next params rest hinbound =>
    refine ⟨params, rest, hinbound, ?_⟩
    split at h
    · cases h
    next r' hdecode =>
      rw [hdecode]
      simp only at h
      split at h
      · split at h
        · cases h
          rfl
        · cases h
      · cases h
        rfl

/-- Receiving adds no message. -/
theorem receive_inbound (conversation : Conversation) (kind : RequestKind) :
    (conversation.receive kind).2.inbound ⊆ conversation.inbound := by
  rw [Conversation.receive_eq]
  split
  next hinbound =>
    rw [hinbound]
    exact List.Subset.refl _
  next message rest hinbound =>
    rw [hinbound]
    split
    · exact List.subset_cons_self _ _
    · exact List.subset_cons_self _ _

/-- **The request** of a handler: it goes on with it, or fails. -/
theorem handle_withRequest {kind : RequestKind} {next : Request kind → Program} {due : Option Nat}
    (hm : c.handle s (.withRequest kind next) due = some (c', s')) :
    s' = s ∧ ∃ conversation p, c' = { c with conversation, progress := .handling p none } ∧
      conversation.outbound = c.conversation.outbound ∧
      conversation.context = c.conversation.context ∧
      conversation.inbound ⊆ c.conversation.inbound ∧
        ((∃ e, p = .fail e) ∨ ∃ params rest r, c.conversation.inbound = params :: rest ∧
          Request.decode kind params = .ok r ∧ p = next r) := by
  obtain ⟨houtbound, hcontext⟩ := receive_frame c.conversation kind
  have hinbound := receive_inbound c.conversation kind
  have hok : ∀ r, (c.conversation.receive kind).1 = .ok r → ∃ params rest,
      c.conversation.inbound = params :: rest ∧ Request.decode kind params = .ok r :=
    fun _ => receive_eq_ok
  rw [Program.withRequest, handle] at hm
  generalize c.conversation.receive kind = received at hm houtbound hcontext hinbound hok
  obtain ⟨outcome, conversation⟩ := received
  cases outcome with
  | error e =>
    cases hm
    exact ⟨rfl, conversation, _, rfl, houtbound, hcontext, hinbound, .inl ⟨e, rfl⟩⟩
  | ok r =>
    cases hm
    obtain ⟨params, rest, hmessages, hdecode⟩ := hok r rfl
    exact ⟨rfl, conversation, _, rfl, houtbound, hcontext, hinbound,
      .inr ⟨params, rest, r, hmessages, hdecode, rfl⟩⟩

/-- The request of a streaming call: the handler goes on to its lookup, or to its end. -/
theorem handle_request {due : Option Nat} (hm : c.handle s k.handler due = some (c', s')) :
    ∃ conversation, conversation.outbound = c.conversation.outbound ∧
      conversation.context = c.conversation.context ∧ ∃ p,
        c' = { c with conversation, progress := .handling p none } ∧
        ((∃ e, p = .done (.error e)) ∨ ∃ params rest q,
          c.conversation.inbound = params :: rest ∧ k.query? params = some q ∧ p = .relay q) := by
  rw [StreamKind.handler] at hm
  obtain ⟨-, conversation, p, rfl, houtbound, hcontext, -, hp⟩ := handle_withRequest hm
  refine ⟨conversation, houtbound, hcontext, p, rfl, hp.imp_right ?_⟩
  rintro ⟨params, rest, r, hmessages, hdecode, rfl⟩
  exact ⟨params, rest, k.query r, hmessages, by rw [StreamKind.query?, hdecode], rfl⟩

/-- **The start of the lookup**: it is started, or the call fails. -/
theorem handle_relay {query : StreamQuery} {due : Option Nat} (h : c.Streams frames)
    (hrecovery : .recovery ∈ c.entered) (hm : c.handle s (.relay query) due = some (c', s')) :
    c' = { c with
        lookup := some (.fresh query (s.settings.limits.resolve query) s.settings.buffer)
        progress := .relaying none } ∨
      ∃ e, c' = { c.leaving (.error e) with progress := .reporting e } := by
  have hmove := handle_move hm
  generalize hr : (c', s') = r at hmove
  cases hmove with
  | ends hends =>
    obtain rfl : c' = _ := congrArg Prod.fst hr
    cases hends with
    | @unmade _ _ words hstart =>
      obtain ⟨hc, -⟩ := finish_panicked h.plain hrecovery (some words) s
      exact .inr ⟨Stage.breakdownError, hc.trans (conclude_error h _)⟩
    | refused hstart => exact .inr ⟨_, finishWith_error h _ s⟩
  | heldUp hdue hheld => cases hheld
  | proceeds hproceeds => cases hproceeds
  | relays hrelays hstart =>
    cases hrelays
    cases hr
    rw [Lookup.start_eq_ok hstart]
    exact .inl rfl

/-- **An item in hand**: the frames take it, or the call ends. -/
theorem relay_held {message : Json} (h : c.Streams frames)
    (hm : c.relay s (some message) = some (c', s')) :
    (frames.receiverGone = false ∧ c.conversation.context.canceled = false ∧
        c' = { c.withFrames { frames with queue := frames.queue ++ [.ok message] } with
          progress := .relaying none }) ∨
      ∃ words, (c.conversation.context.canceled = true ∨ frames.receiverGone = true) ∧
        c' = { c.leaving (.error (.canceled words)) with
          progress := .reporting (.canceled words) } := by
  have hmove := relay_move hm
  generalize hr : (c', s') = r at hmove
  cases hmove with
  | passed hsend =>
    cases hr
    cases Conversation.sends_of_send hsend with
    | kept houtbound => cases h.outbound.symm.trans houtbound
    | passed houtbound hgoing hpresent hroom =>
      cases h.outbound.symm.trans houtbound
      exact .inl ⟨hpresent, hgoing, rfl⟩
  | stopped hsend =>
    cases Conversation.sends_of_send hsend with
    | canceled houtbound hcanceled =>
      exact .inr ⟨_, .inl hcanceled, (congrArg Prod.fst hr).trans (finishWith_error h _ s)⟩
    | left houtbound hgoing hleft =>
      cases h.outbound.symm.trans houtbound
      exact .inr ⟨_, .inr hleft, (congrArg Prod.fst hr).trans (finishWith_error h _ s)⟩

/-- **The next thing the results show**: an item is taken, or the call ends; it ends well only at
the end of the results, and if it has not been canceled. -/
theorem relay_next {l : Lookup} (h : c.Streams frames) (hl : c.lookup = some l)
    (hm : c.relay s none = some (c', s')) :
    (∃ item results, l.results.sight? = some (.item item, results) ∧
        c' = { c with
          lookup := some { l with results }, progress := .relaying (some item.encode) }) ∨
      (∃ results, l.results.sight? = some (.ended, results) ∧
        c.conversation.context.canceled = false ∧
          c' = { ({ c with lookup := some { l with results } }.leaving (.ok ())).withFrames
            frames.closeSender with progress := .ended }) ∨
      ∃ e results, ((∃ failure, l.results.sight? = some (.failure failure, results) ∧
            e = .ofBackend failure) ∨
          c.conversation.context.canceled = true ∧ e = .canceled "call canceled") ∧
        c' = { { c with lookup := some { l with results } }.leaving (.error e) with
          progress := .reporting e } := by
  have hwith : ∀ results, { c with lookup := some { l with results } }.Streams frames :=
    fun results => ⟨h.guarded, h.outbound, h.plain⟩
  have hmove := relay_move hm
  generalize hr : (c', s') = r at hmove
  cases hmove with
  | idle hlookup => cases hl.symm.trans hlookup
  | took hlookup hx =>
    cases hl.symm.trans hlookup
    cases hr
    exact .inl ⟨_, _, hx, rfl⟩
  | failed hlookup hx =>
    cases hl.symm.trans hlookup
    exact .inr (.inr ⟨_, _, .inl ⟨_, hx, rfl⟩,
      (congrArg Prod.fst hr).trans (finishWith_error (hwith _) _ s)⟩)
  | ended hlookup hx =>
    cases hl.symm.trans hlookup
    simp only [relayed] at hr
    cases hcanceled : c.conversation.context.canceled with
    | true =>
      rw [hcanceled] at hr
      exact .inr (.inr ⟨_, _, .inr ⟨rfl, rfl⟩,
        (congrArg Prod.fst hr).trans (finishWith_error (hwith _) _ s)⟩)
    | false =>
      rw [hcanceled] at hr
      exact .inr (.inl ⟨_, hx, rfl, (congrArg Prod.fst hr).trans (finishWith_ok (hwith _) s)⟩)

/-- **The report of a failure**: the frames take it and are closed, or the client has left. -/
theorem report_cases {e : CallError} (h : c.conversation.outbound = .channel frames)
    (hm : c.report e = some c') :
    (frames.receiverGone = false ∧ c' = { c.withFrames
        { frames with queue := frames.queue ++ [.error e], senderGone := true } with
          progress := .ended }) ∨
      frames.receiverGone = true ∧ c' = { c with progress := .ended } := by
  cases report_move hm with
  | kept houtbound => cases h.symm.trans houtbound
  | told houtbound hpresent hroom =>
    cases h.symm.trans houtbound
    exact .inl ⟨hpresent, rfl⟩
  | left houtbound hleft =>
    cases h.symm.trans houtbound
    exact .inr ⟨hleft, rfl⟩

end Call

end RelationGate
