import RelationGate.Proofs.Call.Replies

/-!
# What the log says of a call

A report follows one call among everything else and keeps what its own steps have added to the log
(`Report.Step`). An entry about the outcome of a call comes from the logging stage, or from recovery
if a breakdown has unwound the stages.

The handlers of the gateway receive one request and then conclude (`Program.Concludes`): they do not
end a unary call well before they have sent a message, and what they log themselves is not about the
outcome. So there is no such entry as long as the call is at work, the way back through the stages
adds one, and nothing is added after it (`Reports.own`).

Main result: `one_truthful_outcome_event`.
-/

namespace RelationGate

open Json

/-! ## Handlers that conclude -/

/-- The entry is about the outcome of a call. -/
def Event.isOutcome (e : Event) : Bool := e.source == "logging" || e.source == "recovery"

/-- The level, the code, the reason and the message are those of a call that came out so. -/
def Event.Reflects (e : Event) : Except CallError Unit → Prop
  | .ok () => e.level = .info ∧ e.fields.lookup "code" = some "ok"
  | .error failure => e.level = .error ∧ e.fields.lookup "code" = some failure.status.label ∧
      e.fields.lookup "reason" = some failure.reason ∧
      e.fields.lookup "error" = some failure.message

namespace Program

/-- **A handler after its request**, which has sent a message or not. A unary call does not end well
before that, only a streamed reply is relayed, and no entry of its own is about the outcome. -/
inductive Concludes (kind : CallKind) : Bool → Program → Prop where
  | done {sent : Bool} {outcome : Except CallError Unit}
      (h : outcome = .ok () → kind = .unary → sent = true) : Concludes kind sent (.done outcome)
  | send {sent : Bool} {message : Json} {next : Except CallError Unit → Program}
      (h : ∀ r, Concludes kind true (next r)) : Concludes kind sent (.send message next)
  | perform {sent : Bool} {op : Operation} {next : Except BackendError op.Answer → Program}
      (h : ∀ r, Concludes kind sent (next r)) : Concludes kind sent (.perform op next)
  | relay {sent : Bool} {query : StreamQuery} (h : kind = .serverStreaming) :
      Concludes kind sent (.relay query)
  | emit {sent : Bool} {event : Event} {next : Program} (hown : event.isOutcome = false)
      (h : Concludes kind sent next) : Concludes kind sent (.emit event next)
  | isReady {sent : Bool} {next : Bool → Program} (h : ∀ b, Concludes kind sent (next b)) :
      Concludes kind sent (.isReady next)
  | setReady {sent ready : Bool} {next : Bool → Program} (h : ∀ b, Concludes kind sent (next b)) :
      Concludes kind sent (.setReady ready next)

variable {kind : CallKind} {sent : Bool}

theorem concludes_fail (e : CallError) : (fail e).Concludes kind sent := .done nofun

theorem concludes_respond (r : Response) : (respond r).Concludes kind sent :=
  .send fun _ => .done fun _ _ => rfl

theorem concludes_acquireLock {identifier : String} {existing : Option LockToken}
    {next : Except BackendError LockToken → Program} (h : ∀ r, (next r).Concludes kind sent) :
    (acquireLock identifier existing next).Concludes kind sent := by
  rw [acquireLock]
  split
  · exact h _
  · refine .perform fun (outcome : Except BackendError LockToken) => ?_
    cases outcome with
    | error e => exact h _
    | ok token =>
      show (if existing = some token then _ else _ : Program).Concludes kind sent
      split
      · exact .emit rfl (h _)
      · exact h _

theorem concludes_checkReady {sticky : Bool} {next : Except BackendError Unit → Program}
    (h : ∀ r, (next r).Concludes kind sent) : (checkReady sticky next).Concludes kind sent := by
  refine .isReady fun ready => ?_
  show (if sticky && ready then _ else _ : Program).Concludes kind sent
  split
  · exact h _
  · refine .perform fun (outcome : Except BackendError Unit) => ?_
    cases outcome with
    | error e => exact .setReady fun _ => .emit rfl (h _)
    | ok u =>
      refine .setReady fun before => ?_
      cases before with
      | true => exact h _
      | false => exact .emit rfl (h _)

/-- **Every method of the gateway** receives a request and concludes. -/
theorem concludes_of_standard {sticky : Bool} {route : Route}
    (hmem : route ∈ Route.standard sticky) : ∃ sort next,
      route.handler = withRequest sort next ∧ ∀ q, (next q).Concludes route.kind false := by
  simp only [Route.standard, List.mem_cons, List.not_mem_nil, or_false] at hmem
  rcases hmem with rfl | rfl | rfl | rfl | rfl | rfl | rfl | rfl | rfl
  · refine ⟨_, _, rfl, fun q => .perform fun (outcome : Except BackendError CheckResult) => ?_⟩
    cases outcome with
    | ok r => exact concludes_respond _
    | error e => exact concludes_fail _
  · refine ⟨_, _, rfl, fun (r : CreateRequest) =>
      .perform fun (outcome : Except BackendError ConsistencyToken) => ?_⟩
    cases outcome with
    | ok t => exact concludes_respond _
    | error e => exact concludes_fail _
  · refine ⟨_, _, rfl, fun (r : DeleteRequest) =>
      .perform fun (outcome : Except BackendError ConsistencyToken) => ?_⟩
    cases outcome with
    | ok t => exact concludes_respond _
    | error e => exact concludes_fail _
  · exact ⟨_, _, rfl, fun q => .relay rfl⟩
  · exact ⟨_, _, rfl, fun q => .relay rfl⟩
  · exact ⟨_, _, rfl, fun q => .relay rfl⟩
  · refine ⟨_, _, rfl, fun (r : LockRequest) => concludes_acquireLock fun outcome => ?_⟩
    cases outcome with
    | ok t => exact concludes_respond _
    | error e => exact concludes_fail _
  · exact ⟨_, _, rfl, fun _ => concludes_respond _⟩
  · refine ⟨_, _, rfl, fun _ => concludes_checkReady fun outcome => ?_⟩
    cases outcome with
    | ok u => exact concludes_respond _
    | error e => exact concludes_fail _

end Program

/-! ## A move of a handler that concludes -/

/-- The log has grown by entries that are not about outcomes. -/
def Surroundings.Mutters (s s' : Surroundings) : Prop :=
  ∃ added, s'.events = s.events ++ added ∧ ∀ e ∈ added, e.isOutcome = false

theorem Surroundings.Mutters.of_events {s s' : Surroundings} (h : s'.events = s.events) :
    s.Mutters s' := ⟨[], by rw [h, List.append_nil], fun e he => (List.not_mem_nil he).elim⟩

namespace Call

variable {c c' : Call} {s s' : Surroundings} {kind : CallKind} {sent : Bool}
  {r : Call × Surroundings}

/-- What a move of a handler that concludes comes to: the call goes back through its stages, or its
handler goes on and concludes, or it relays a lookup. -/
inductive Concluding (c : Call) (s : Surroundings) (kind : CallKind) (sent : Bool) :
    Call × Surroundings → Prop where
  | back (b : Backend) (outcome : Outcome)
      (hsent : outcome = .finished (.ok ()) → kind = .unary → sent = true)
      (hway : outcome.isBreakdown = c.unwinds s) :
      Concluding c s kind sent (c.finish outcome { s with backend := b })
  | on (conversation : Conversation) (p : Program) (due : Option Nat) (s₁ : Surroundings)
      (sent' : Bool) (hconversation : c.conversation.GoesOn conversation)
      (hsent : ∀ received, c.conversation.outbound.Spoken received sent →
        conversation.outbound.Spoken received sent')
      (hp : p.Concludes kind sent') (hquiet : s.Mutters s₁) :
      Concluding c s kind sent ({ c with conversation, progress := .handling p due }, s₁)
  | relays (l : Lookup) (hkind : kind = .serverStreaming) :
      Concluding c s kind sent ({ c with lookup := some l, progress := .relaying none }, s)

/-- The handler goes on, beside the same conversation. -/
theorem Concluding.stay {p : Program} (hp : p.Concludes kind sent) (due : Option Nat)
    {s₁ : Surroundings} (hquiet : s.Mutters s₁) :
    c.Concluding s kind sent ({ c with progress := .handling p due }, s₁) :=
  .on c.conversation p due s₁ sent (.refl _) (fun _ h => h) hp hquiet

/-- A program that ends without a failure has sent a message, if that is its kind. -/
theorem sent_of_ends {p : Program} {due : Option Nat} {outcome : Outcome} {b : Backend}
    (hconcludes : p.Concludes kind sent) (h : p.Ends s due outcome b)
    (hok : outcome = .finished (.ok ())) : kind = .unary → sent = true := by
  cases h with
  | done =>
    cases hconcludes with
    | done h =>
      cases hok
      exact h rfl
  | _ => cases hok

/-- **A handler that concludes goes on** with a program that concludes. -/
theorem concluding_of_proceeds {p p' : Program} {due : Option Nat} {conversation : Conversation}
    (hconcludes : p.Concludes kind sent)
    (h : p.Proceeds s c.conversation due p' conversation s') :
    c.Concluding s kind sent ({ c with conversation, progress := .handling p' none }, s') := by
  cases hconcludes with
  | done | relay => cases h
  | @send _ message next hnext =>
    cases h with
    | sent hsend =>
      have hgoes := Conversation.goesOn_send hsend
      refine .on conversation _ none s true hgoes (fun received hspoken => ?_) (hnext _)
        (.of_events rfl)
      -- A kept reply holds the message now.
      have hstreamed : ∀ {frames}, c.conversation.outbound = .channel frames →
          c.conversation.outbound.Spoken received true := fun hframes => by
        rw [hframes] at hspoken ⊢
        exact hspoken
      cases Conversation.sends_of_send hsend with
      | kept => exact fun _ => List.append_ne_nil_of_right_ne_nil _ (List.cons_ne_nil _ _)
      | passed houtbound | canceled houtbound | left houtbound =>
        exact (hstreamed houtbound).speaks hgoes.speaks
  | perform hnext | isReady hnext | setReady hnext =>
    cases h
    all_goals exact .stay (hnext _) none (.of_events rfl)
  | @emit _ event next hown hnext =>
    cases h
    refine .stay hnext none ⟨[event], rfl, fun e he => ?_⟩
    rw [List.mem_singleton.1 he]
    exact hown

/-- **A move of a handler that concludes.** -/
theorem handle_concluding {p : Program} {due : Option Nat} (hp : c.progress = .handling p due)
    (hconcludes : p.Concludes kind sent) (hm : c.handle s p due = some r) :
    c.Concluding s kind sent r := by
  cases handle_move hm with
  | ends h => exact .back _ _ (sent_of_ends hconcludes h) (isBreakdown_of_ends hp h)
  | heldUp hdue h => exact .stay hconcludes _ (.of_events rfl)
  | proceeds h => exact concluding_of_proceeds hconcludes h
  | relays hrelays hstart =>
    subst hrelays
    cases hconcludes with
    | relay hkind => exact .relays _ hkind

end Call

/-! ## Reports -/

/-- The rendering of the request of a call, if its parameters hold one. -/
def Route.requestText (route : Route) (params : Json) : String :=
  match route.handler.request? with
  | none => ""
  | some sort =>
    match Request.decode sort params with
    | .ok q => Request.rendering sort q
    | .error _ => ""

/-- A call among everything else, and what its own steps have added to the log. -/
structure Report where
  scene : Scene
  events : List Event := []
  /-- The handler has been reached. -/
  reached : Bool := false
  /-- A breakdown has unwound the stages. -/
  unwound : Bool := false

namespace Report

/-- A call of a gateway that has just been made. -/
def start (g : Gateway) (route : Route) (params : Json) (headers : Headers) (capacity : Nat)
    (shared : Surroundings) : Report :=
  { scene := .start g route params headers capacity shared }

/-- The entries about the outcome of the call. -/
def outcomes (r : Report) : List Event := r.events.filter Event.isOutcome

/-- The report after a step of the call. -/
def noting (r : Report) (sc : Scene) : Report where
  scene := sc
  events := r.events ++ sc.shared.events.drop r.scene.shared.events.length
  reached := r.reached || sc.call.isHandling
  unwound := r.unwound || (r.scene.call.unwinds r.scene.shared && !sc.call.isHandling)

/-- One step of somebody. -/
inductive Step : Report → Report → Prop where
  | own {r : Report} {sc : Scene} (hs : Scene.OwnStep r.scene sc) : Step r (r.noting sc)
  | others {r : Report} {s : Surroundings} (hs : r.scene.shared.Evolves s) :
      Step r { r with scene := { r.scene with shared := s } }

/-- What the steps can lead to. -/
inductive Reachable (start : Report) : Report → Prop where
  | refl : Reachable start start
  | tail {r r' : Report} (h : Reachable start r) (hs : Step r r') : Reachable start r'

variable {r r' : Report} {sc : Scene} {s : Surroundings}

theorem outcomes_noting {added : List Event}
    (h : sc.shared.events = r.scene.shared.events ++ added) :
    (r.noting sc).outcomes = r.outcomes ++ added.filter Event.isOutcome := by
  rw [outcomes, noting, h, List.drop_left, List.filter_append, outcomes]

theorem outcomes_noting_of_mutters (h : r.scene.shared.Mutters sc.shared) :
    (r.noting sc).outcomes = r.outcomes := by
  obtain ⟨added, hevents, hquiet⟩ := h
  have hnone : added.filter Event.isOutcome = [] :=
    List.filter_eq_nil_iff.2 fun e he => by simp [hquiet e he]
  rw [outcomes_noting hevents, hnone, List.append_nil]

/-- A step after which the handler is still at work has not unwound the stages. -/
theorem unwound_noting_of_isHandling (h : sc.call.isHandling = true) :
    (r.noting sc).unwound = r.unwound := by
  simp [noting, h]

theorem unwound_noting_of_calm (h : r.scene.call.unwinds r.scene.shared = false) :
    (r.noting sc).unwound = r.unwound := by
  simp [noting, h]

theorem reached_noting_of_over (h : sc.call.isHandling = false) :
    (r.noting sc).reached = r.reached := by
  simp [noting, h]

/-- Only a move of a handler at work unwinds the stages. -/
theorem unwound_noting_of_over (h : r.scene.call.isHandling = false) :
    (r.noting sc).unwound = r.unwound := by
  refine unwound_noting_of_calm ?_
  rw [← Bool.not_eq_true]
  intro hunwinds
  rw [Call.isHandling_of_unwinds hunwinds] at h
  cases h

/-! ## The invariant -/

section Reports

variable (route : Route) (params : Json) (headers : Headers) (metrics : Bool)
  (auth : Option AuthSettings)

/-- The credentials were refused, and this is the failure of the call. -/
def Refused (x : Except CallError Unit) : Prop :=
  ∃ settings now e, auth = some settings ∧
    Stage.credentials settings now headers = .error e ∧ x = .error e.toCallError

/-- **A truthful entry** about a call that came out so. -/
structure Truthful (r : Report) (x : Except CallError Unit) (entry : Event) : Prop where
  method : entry.fields.lookup "method" = some route.method
  kind : entry.fields.lookup "kind" = some route.kind.label
  /-- The request is in it if the handler has been reached and the request can be decoded. -/
  request : entry.fields.lookup "request" =
    some (if r.reached then route.requestText params else "")
  /-- Only a call whose credentials are refused does not reach its handler. -/
  refused : r.reached = false → Refused headers auth x
  /-- A breakdown is reported by recovery. -/
  recovery : r.unwound = true → entry.source = "recovery" ∧ entry.level = .error ∧
    x = .error (.internal "panic" "internal error")
  /-- Everything else is reported by the logging stage. -/
  logging : r.unwound = false → entry.source = "logging" ∧ entry.Reflects x

/-- The call is logged, once and truthfully. -/
def Logged (r : Report) (x : Except CallError Unit) : Prop :=
  ∃ entry, r.outcomes = [entry] ∧ Truthful route params headers auth r x entry

/-- The handler has received its request, and has sent a message or not. -/
structure Heard (conversation : Conversation) (received : List Frame) (sent : Bool) : Prop where
  inbound : conversation.inbound = []
  firstMessage : conversation.firstMessage.getD "" = route.requestText params
  spoken : conversation.outbound.Spoken received sent

/-- The handler has yet to receive its request. -/
structure Listening (conversation : Conversation) (received : List Frame) : Prop where
  inbound : conversation.inbound = [params]
  firstMessage : conversation.firstMessage = none
  spoken : conversation.outbound.Spoken received false

/-- The call has not come to its stages. -/
structure Fresh (r : Report) : Prop where
  stages : r.scene.call.stages = Stage.standard metrics auth
  handler : r.scene.call.handler = route.handler
  headers : r.scene.call.conversation.context.headers = headers
  listening : Listening params r.scene.call.conversation r.scene.received
  reached : r.reached = false
  calm : r.unwound = false
  silent : r.outcomes = []

/-- The handler is at work, and nothing has been logged about the outcome. -/
structure AtWork (r : Report) : Prop where
  entered : r.scene.call.entered = (Stage.standard metrics auth).reverse
  reached : r.reached = true
  calm : r.unwound = false
  silent : r.outcomes = []

/-- What holds at each stage of the task of the call. -/
def Stands (r : Report) : Progress → Prop
  | .waiting => Fresh route params headers metrics auth r
  | .handling p _ => AtWork metrics auth r ∧
      ((p = route.handler ∧ Listening params r.scene.call.conversation r.scene.received) ∨
        ∃ sent, p.Concludes route.kind sent ∧
          Heard route params r.scene.call.conversation r.scene.received sent)
  | .relaying _ => AtWork metrics auth r ∧ route.kind = .serverStreaming ∧
      Heard route params r.scene.call.conversation r.scene.received false
  | .reporting e => r.scene.call.result = some (.finished (.error e)) ∧
      Logged route params headers auth r (.error e) ∧
      r.scene.call.conversation.outbound.Spoken r.scene.received false
  | .ended => ∃ x, r.scene.call.result = some (.finished x) ∧
      Logged route params headers auth r x ∧ r.scene.Tells x

/-- **The invariant** of a call of the gateway and its report. -/
structure Reports (r : Report) : Prop where
  made : route.Makes r.scene.call
  stands : Stands route params headers metrics auth r r.scene.call.progress

/-- The call is about to go back through its stages. -/
structure Returning (r : Report) (c : Call) (s : Surroundings) (outcome : Outcome) (sent : Bool) :
    Prop where
  made : route.Makes c
  entered : ∃ auth', c.entered = (Stage.standard metrics auth').reverse
  spoken : c.conversation.outbound.Spoken r.scene.received sent
  hasSent : outcome = .finished (.ok ()) → route.kind = .unary → sent = true
  request : c.conversation.firstMessage.getD "" =
    if r.reached then route.requestText params else ""
  refused : r.reached = false → Refused headers auth outcome.result
  calm : r.unwound = false
  silent : r.outcomes = []
  quiet : r.scene.shared.Mutters s
  way : outcome.isBreakdown = r.scene.call.unwinds r.scene.shared

end Reports

variable {route : Route} {params : Json} {headers : Headers} {metrics : Bool}
  {auth : Option AuthSettings} {c : Call} {outcome : Outcome} {sent : Bool}

/-- The entry about the outcome of a call tells what it has to. -/
theorem Returning.truthful (h : Returning route params headers metrics auth r c s outcome sent)
    (hover : sc.call.isHandling = false) :
    Truthful route params headers auth (r.noting sc) outcome.result
      (Stage.outcomeEvent c.conversation outcome) := by
  have hreached : (r.noting sc).reached = r.reached := by simp [noting, hover]
  have hunwound : (r.noting sc).unwound = outcome.isBreakdown := by
    simp [noting, hover, h.calm, h.way]
  have hmethod : some c.conversation.context.method = some route.method :=
    congrArg some h.made.method
  have hkind : some c.conversation.context.kind.label = some route.kind.label :=
    congrArg (fun kind => some (CallKind.label kind)) h.made.kind
  have hrequest := congrArg some h.request
  rw [← hreached] at hrequest
  have hrefused : (r.noting sc).reached = false → Refused headers auth outcome.result := by
    rw [hreached]
    exact h.refused
  cases outcome with
  | panicked words =>
    refine ⟨hmethod, hkind, hrequest, hrefused, fun _ => ⟨rfl, rfl, rfl⟩, fun hcalm => ?_⟩
    rw [hunwound] at hcalm
    cases hcalm
  | finished x =>
    have hnever : (r.noting sc).unwound = true → False := by
      rw [hunwound]
      exact Bool.false_ne_true
    cases x with
    | ok u =>
      exact ⟨hmethod, hkind, hrequest, hrefused, fun hbroken => (hnever hbroken).elim,
        fun _ => ⟨rfl, rfl, rfl⟩⟩
    | error e =>
      exact ⟨hmethod, hkind, hrequest, hrefused, fun hbroken => (hnever hbroken).elim,
        fun _ => ⟨rfl, rfl, rfl, rfl, rfl⟩⟩

theorem outcomeEvent_isOutcome (conversation : Conversation) (outcome : Outcome) :
    (Stage.outcomeEvent conversation outcome).isOutcome = true := by
  cases outcome with
  | panicked words => rfl
  | finished x =>
    cases x with
    | ok u => rfl
    | error e => rfl

/-- The way back adds the one entry about the outcome. -/
theorem Returning.logged (h : Returning route params headers metrics auth r c s outcome sent)
    (hover : sc.call.isHandling = false)
    (hevents : sc.shared.events = s.events ++ [Stage.outcomeEvent c.conversation outcome]) :
    Logged route params headers auth (r.noting sc) outcome.result := by
  refine ⟨_, ?_, h.truthful hover⟩
  obtain ⟨added, hadded, hquiet⟩ := h.quiet
  have hnone : added.filter Event.isOutcome = [] :=
    List.filter_eq_nil_iff.2 fun e he => by simp [hquiet e he]
  rw [hadded, List.append_assoc] at hevents
  rw [outcomes_noting hevents, h.silent, List.filter_append, hnone, List.filter_singleton,
    outcomeEvent_isOutcome]
  rfl

/-- **The way back**: the call is logged, and its failure has yet to be reported, or its reply tells
its outcome. -/
theorem Returning.reports (h : Returning route params headers metrics auth r c s outcome sent)
    (hcall : sc.call = (c.finish outcome s).1) (hshared : sc.shared = (c.finish outcome s).2)
    (hreceived : sc.received = r.scene.received) :
    Reports route params headers metrics auth (r.noting sc) := by
  obtain ⟨auth', hentered⟩ := h.entered
  rw [Call.finish_standard hentered] at hcall hshared
  have hcall : sc.call = c.conclude (.finished outcome.result) := hcall
  have hmade : route.Makes sc.call := hcall ▸ h.made.conclude _
  have hevents : sc.shared.events = s.events ++ [Stage.outcomeEvent c.conversation outcome] := by
    rw [hshared]
  have hsent : ∀ kept, c.conversation.outbound = .buffer kept → outcome.result = .ok () →
      sent = true := by
    intro kept hkept hok
    refine h.hasSent ?_ ?_
    · -- A breakdown is no success.
      cases outcome with
      | panicked words => cases hok
      | finished x => exact congrArg Outcome.finished hok
    · cases hkind : route.kind with
      | unary => rfl
      | serverStreaming =>
        obtain ⟨frames, hframes⟩ := h.made.streamed hkind
        cases hframes.symm.trans hkept
  obtain ⟨hresult, ⟨e, hfailed, hprogress, hspoken⟩ | ⟨hprogress, htells⟩⟩ :=
    Scene.tells_of_conclude h.made.guarded hcall (hreceived ▸ h.spoken) hsent
  all_goals
    have hlogged := h.logged (by simp [Call.isHandling, hprogress]) hevents
    refine ⟨hmade, ?_⟩
    show Stands _ _ _ _ _ (r.noting sc) sc.call.progress
    rw [hprogress]
  · rw [hfailed] at hresult hlogged
    exact ⟨hresult, hlogged, hspoken⟩
  · exact ⟨_, hresult, hlogged, htells⟩

/-! ## A step -/

variable {c' : Call} {s' : Surroundings} {conversation conversation' : Conversation}
  {received : List Frame} {fault : Option String} {undisturbed : Bool}

theorem Heard.goesOn (h : Heard route params conversation received sent)
    (hgoes : conversation.GoesOn conversation') :
    Heard route params conversation' received sent := by
  obtain ⟨hinbound, hfirst⟩ := hgoes.heard h.inbound
  exact ⟨hinbound, hfirst ▸ h.firstMessage, h.spoken.speaks hgoes.speaks⟩

/-- **The request is received**, and its rendering noted if it can be decoded. -/
theorem Listening.receive {sort : RequestKind}
    (hsort : route.handler.request? = some sort) (h : Listening params conversation received) :
    Heard route params (conversation.receive sort).2 received false := by
  obtain ⟨houtbound, -⟩ := Call.receive_frame conversation sort
  refine ⟨?_, ?_, houtbound ▸ h.spoken⟩
  · rw [Conversation.receive_eq, h.inbound]
    simp only
    split
    · rfl
    · rfl
  · rw [Conversation.receive_eq, h.inbound, Route.requestText, hsort]
    simp only
    cases Request.decode sort params with
    | error e => simp [h.firstMessage]
    | ok q => simp [h.firstMessage]

/-- **The way in**: the handler is reached, or the credentials are refused. -/
theorem Fresh.begin (h : Fresh route params headers metrics auth r)
    (hmade : route.Makes r.scene.call) (hp : r.scene.call.progress = .waiting)
    (hm : r.scene.call.begin r.scene.shared = (c', s')) :
    Reports route params headers metrics auth
      (r.noting { r.scene with call := c', shared := s', fault }) := by
  obtain ⟨conversation, s₁, hstays, -, hbegin⟩ := Call.begin_standard h.stages r.scene.shared
  obtain ⟨hevents, hbegin⟩ | ⟨settings, e, hauth, hverdict, hevents, hbegin⟩ := hbegin
  · rw [hbegin] at hm
    cases hm
    refine ⟨hmade.goesOn rfl hstays.goesOn, ⟨rfl, ?_, ?_, ?_⟩, .inl ⟨h.handler, ?_⟩⟩
    · exact Bool.or_true _
    · exact (unwound_noting_of_isHandling rfl).trans h.calm
    · exact (outcomes_noting_of_mutters (.of_events hevents)).trans h.silent
    · exact ⟨hstays.inbound.trans h.listening.inbound,
        hstays.firstMessage.trans h.listening.firstMessage, hstays.outbound ▸ h.listening.spoken⟩
  · rw [hbegin] at hm
    have hreturning : Returning route params headers metrics auth r { r.scene.call with
        entered := (Stage.standard metrics none).reverse, conversation, began := s₁.now } s₁
        (.finished (.error e.toCallError)) false := by
      refine ⟨hmade.goesOn rfl hstays.goesOn, ⟨none, rfl⟩, hstays.outbound ▸ h.listening.spoken,
        nofun, ?_, fun _ => ⟨settings, _, e, hauth, h.headers ▸ hverdict, rfl⟩, h.calm, h.silent,
        ⟨_, hevents, fun entry hentry => ?_⟩, ?_⟩
      · rw [h.reached, if_neg Bool.false_ne_true]
        show conversation.firstMessage.getD "" = ""
        rw [hstays.firstMessage, h.listening.firstMessage]
        rfl
      · rw [List.mem_singleton.1 hentry]
        rfl
      · simp [Call.unwinds, hp, Outcome.isBreakdown]
    exact hreturning.reports (congrArg Prod.fst hm).symm (congrArg Prod.snd hm).symm rfl

/-- The handler comes back: what it has received and sent is settled. -/
theorem AtWork.returning (hwork : AtWork metrics auth r)
    (hheard : Heard route params r.scene.call.conversation r.scene.received sent)
    (hmade : route.Makes r.scene.call) (hgoes : r.scene.call.conversation.GoesOn conversation)
    (lookup : Option Lookup) (b : Backend)
    (hsent : outcome = .finished (.ok ()) → route.kind = .unary → sent = true)
    (hway : outcome.isBreakdown = r.scene.call.unwinds r.scene.shared) :
    Returning route params headers metrics auth r { r.scene.call with conversation, lookup }
      { r.scene.shared with backend := b } outcome sent := by
  have hheard := hheard.goesOn hgoes
  refine ⟨hmade.goesOn rfl hgoes, ⟨auth, hwork.entered⟩, hheard.spoken, hsent, ?_, fun hnot => ?_,
    hwork.calm, hwork.silent, .of_events rfl, hway⟩
  · rw [hwork.reached, if_pos rfl]
    exact hheard.firstMessage
  · rw [hwork.reached] at hnot
    cases hnot

/-- The handler is still at work. -/
theorem AtWork.noting (hwork : AtWork metrics auth r)
    (hentered : sc.call.entered = r.scene.call.entered) (hat : sc.call.isHandling = true)
    (hquiet : r.scene.shared.Mutters sc.shared) :
    AtWork metrics auth (r.noting sc) where
  entered := hentered.trans hwork.entered
  reached := by simp [Report.noting, hat]
  calm := (unwound_noting_of_isHandling hat).trans hwork.calm
  silent := (outcomes_noting_of_mutters hquiet).trans hwork.silent

/-- **A move of the handler**: it receives its request, or concludes. -/
theorem Reports.handle (h : Reports route params headers metrics auth r) {sort : RequestKind}
    {next : Request sort → Program} (hsort : route.handler = .withRequest sort next)
    (hconcludes : ∀ q, (next q).Concludes route.kind false) {p : Program} {due : Option Nat}
    (hp : r.scene.call.progress = .handling p due)
    (hm : r.scene.call.handle r.scene.shared p due = some (c', s')) :
    Reports route params headers metrics auth
      (r.noting { r.scene with call := c', shared := s', fault }) := by
  have hstands := h.stands
  rw [hp] at hstands
  obtain ⟨hwork, ⟨rfl, hlistening⟩ | ⟨sent, hprogram, hheard⟩⟩ := hstands
  · have hheard := hlistening.receive (by rw [hsort]; rfl : route.handler.request? = some sort)
    have hgoes := r.scene.call.conversation.goesOn_receive sort
    have hprogram : ∀ request : Except CallError (Request sort), Program.Concludes route.kind false
        (match request with
          | .ok q => next q
          | .error e => .fail e) := by
      intro request
      cases request with
      | ok q => exact hconcludes q
      | error e => exact Program.concludes_fail e
    rw [hsort, Program.withRequest, Call.handle] at hm
    cases hm
    exact ⟨h.made.goesOn rfl hgoes, hwork.noting rfl rfl (.of_events rfl),
      .inr ⟨false, hprogram _, hheard⟩⟩
  · have hconcluding := Call.handle_concluding hp hprogram hm
    generalize hresult : (c', s') = result at hconcluding
    cases hconcluding with
    | back b outcome hsent hway =>
      exact (hwork.returning hheard h.made (.refl _) r.scene.call.lookup b hsent hway).reports
        (congrArg Prod.fst hresult) (congrArg Prod.snd hresult) rfl
    | on conversation p' due' s₁ sent' hgoes hspoken hprogram' hquiet =>
      cases hresult
      obtain ⟨hinbound, hfirst⟩ := hgoes.heard hheard.inbound
      exact ⟨h.made.goesOn rfl hgoes, hwork.noting rfl rfl hquiet, .inr ⟨sent', hprogram',
        hinbound, hfirst ▸ hheard.firstMessage, hspoken _ hheard.spoken⟩⟩
    | relays l hkind =>
      cases hresult
      have hunsent := hheard.spoken.weaken
      exact ⟨h.made.goesOn rfl (.refl _), hwork.noting rfl rfl (.of_events rfl), hkind,
        hheard.inbound, hheard.firstMessage, hunsent⟩

/-- **A move of the relay.** -/
theorem Reports.relay (h : Reports route params headers metrics auth r) {inHand : Option Json}
    (hp : r.scene.call.progress = .relaying inHand)
    (hm : r.scene.call.relay r.scene.shared inHand = some (c', s')) :
    Reports route params headers metrics auth
      (r.noting { r.scene with call := c', shared := s', fault }) := by
  have hstands := h.stands
  rw [hp] at hstands
  obtain ⟨hwork, hkind, hheard⟩ := hstands
  obtain ⟨conversation, lookup, hgoes, ⟨x, hresult⟩ | ⟨inHand', hresult⟩⟩ := Call.relay_cases hm
  · have hcalm : (Outcome.finished x).isBreakdown = r.scene.call.unwinds r.scene.shared := by
      simp [Call.unwinds, hp, Outcome.isBreakdown]
    exact (hwork.returning hheard h.made hgoes lookup r.scene.shared.backend
      (fun _ hunary => by rw [hkind] at hunary; cases hunary) hcalm).reports
      (congrArg Prod.fst hresult) (congrArg Prod.snd hresult) rfl
  · cases hresult
    exact ⟨h.made.goesOn rfl hgoes, hwork.noting rfl rfl (.of_events rfl), hkind,
      hheard.goesOn hgoes⟩

/-- **The handler is given up** where it has to wait. -/
theorem Reports.expire (h : Reports route params headers metrics auth r) {sort : RequestKind}
    {next : Request sort → Program} (hsort : route.handler = .withRequest sort next)
    (hm : r.scene.call.expire r.scene.shared = some (c', s')) :
    Reports route params headers metrics auth
      (r.noting { r.scene with call := c', shared := s', undisturbed }) := by
  obtain ⟨ms, -, hhandling, -, hwaits, hresult⟩ := Call.expire_cases hm
  have hcalm := Call.unwinds_of_waiting hwaits
  have hgiven : ∀ {sent}, AtWork metrics auth r →
      Heard route params r.scene.call.conversation r.scene.received sent →
      Reports route params headers metrics auth
        (r.noting { r.scene with call := c', shared := s', undisturbed }) := by
    intro sent hwork hheard
    have hfailed : Outcome.finished (.error (Call.lateError ms)) = .finished (.ok ()) →
        route.kind = .unary → sent = true := nofun
    exact (hwork.returning hheard h.made r.scene.call.conversation.stays_cancel.goesOn
      (r.scene.call.lookup.map Lookup.abandon) r.scene.shared.backend hfailed hcalm.symm).reports
      (congrArg Prod.fst hresult) (congrArg Prod.snd hresult) rfl
  have hstands := h.stands
  cases hp : r.scene.call.progress with
  | handling p due =>
    rw [hp] at hstands
    obtain ⟨hwork, ⟨rfl, -⟩ | ⟨sent, -, hheard⟩⟩ := hstands
    · -- A handler does not wait for its request.
      rw [Call.taskMove, hp] at hwaits
      simp only [hsort, Program.withRequest, Call.handle] at hwaits
      cases hwaits
    · exact hgiven hwork hheard
  | relaying inHand =>
    rw [hp] at hstands
    obtain ⟨hwork, -, hheard⟩ := hstands
    exact hgiven hwork hheard
  | _ => simp [Call.isHandling, hp] at hhandling

/-- What has been logged stays so. -/
theorem Logged.noting {x : Except CallError Unit} (h : Logged route params headers auth r x)
    (hbefore : r.scene.call.isHandling = false) (hafter : sc.call.isHandling = false)
    (hevents : sc.shared.events = r.scene.shared.events) :
    Logged route params headers auth (r.noting sc) x := by
  obtain ⟨entry, hlogged, htruthful⟩ := h
  have hreached : (r.noting sc).reached = r.reached := reached_noting_of_over hafter
  have hunwound : (r.noting sc).unwound = r.unwound := unwound_noting_of_over hbefore
  exact ⟨entry, (outcomes_noting_of_mutters (.of_events hevents)).trans hlogged,
    htruthful.method, htruthful.kind, hreached ▸ htruthful.request, hreached ▸ htruthful.refused,
    hunwound ▸ htruthful.recovery, hunwound ▸ htruthful.logging⟩

/-- **The report** of a failure: the reply takes it, or nobody is left to take it. -/
theorem Reports.report (h : Reports route params headers metrics auth r) {e : CallError}
    (hp : r.scene.call.progress = .reporting e) (hm : r.scene.call.report e = some c') :
    Reports route params headers metrics auth
      (r.noting { r.scene with call := c', fault }) := by
  have hstands := h.stands
  rw [hp] at hstands
  obtain ⟨hresult, hlogged, hspoken⟩ := hstands
  obtain ⟨hprogress, hresult'⟩ := Call.report_ends hm
  have hbefore : r.scene.call.isHandling = false := by simp [Call.isHandling, hp]
  have hafter : c'.isHandling = false := by simp [Call.isHandling, hprogress]
  refine ⟨h.made.report hm, ?_⟩
  show Stands route params headers metrics auth _ c'.progress
  rw [hprogress]
  exact ⟨.error e, hresult'.trans hresult, hlogged.noting hbefore hafter rfl,
    Scene.tells_of_report hresult hspoken hm rfl⟩

/-- **Somebody acts beside the task.** -/
theorem Reports.beside (h : Reports route params headers metrics auth r)
    (hbeside : r.scene.Beside sc) : Reports route params headers metrics auth (r.noting sc) := by
  obtain ⟨conversation, lookup, hcall⟩ := hbeside.call
  have hprogress : sc.call.progress = r.scene.call.progress := by rw [hcall]
  have hhandling : sc.call.isHandling = r.scene.call.isHandling := by rw [hcall]; rfl
  have hentered : sc.call.entered = r.scene.call.entered := by rw [hcall]
  have hresult : sc.call.result = r.scene.call.result := by rw [hcall]
  have hquiet : r.scene.shared.Mutters sc.shared := .of_events hbeside.events
  have hheard : ∀ {sent}, Heard route params r.scene.call.conversation r.scene.received sent →
      Heard route params sc.call.conversation sc.received sent := fun hheard =>
    ⟨hbeside.inbound.trans hheard.inbound, hbeside.firstMessage ▸ hheard.firstMessage,
      hbeside.spoken _ hheard.spoken⟩
  have hlistening : Listening params r.scene.call.conversation r.scene.received →
      Listening params sc.call.conversation sc.received := fun hlistening =>
    ⟨hbeside.inbound.trans hlistening.inbound,
      hbeside.firstMessage.trans hlistening.firstMessage, hbeside.spoken _ hlistening.spoken⟩
  have hstands := h.stands
  refine ⟨h.made.beside hbeside, ?_⟩
  show Stands route params headers metrics auth (r.noting sc) sc.call.progress
  rw [hprogress]
  cases hp : r.scene.call.progress with
  | waiting =>
    rw [hp] at hstands
    have hbefore : r.scene.call.isHandling = false := by simp [Call.isHandling, hp]
    refine ⟨?_, ?_, ?_, hlistening hstands.listening, ?_, ?_, ?_⟩
    · exact (by rw [hcall] : sc.call.stages = r.scene.call.stages).trans hstands.stages
    · exact (by rw [hcall] : sc.call.handler = r.scene.call.handler).trans hstands.handler
    · exact (congrArg CallContext.headers (hbeside.context true)).trans hstands.headers
    · exact (reached_noting_of_over (hhandling.trans hbefore)).trans hstands.reached
    · exact (unwound_noting_of_over hbefore).trans hstands.calm
    · exact (outcomes_noting_of_mutters hquiet).trans hstands.silent
  | handling p due =>
    rw [hp] at hstands
    have hat : sc.call.isHandling = true := hhandling.trans (by simp [Call.isHandling, hp])
    obtain ⟨hwork, hprogram⟩ := hstands
    refine ⟨hwork.noting hentered hat hquiet, hprogram.imp (fun hfirst => ?_) fun hlater => ?_⟩
    · exact ⟨hfirst.1, hlistening hfirst.2⟩
    · obtain ⟨sent, hconcludes, hheard'⟩ := hlater
      exact ⟨sent, hconcludes, hheard hheard'⟩
  | relaying inHand =>
    rw [hp] at hstands
    have hat : sc.call.isHandling = true := hhandling.trans (by simp [Call.isHandling, hp])
    obtain ⟨hwork, hkind, hheard'⟩ := hstands
    exact ⟨hwork.noting hentered hat hquiet, hkind, hheard hheard'⟩
  | reporting e =>
    rw [hp] at hstands
    have hbefore : r.scene.call.isHandling = false := by simp [Call.isHandling, hp]
    obtain ⟨hfailed, hlogged, hspoken⟩ := hstands
    exact ⟨hresult.trans hfailed,
      hlogged.noting hbefore (hhandling.trans hbefore) hbeside.events, hbeside.spoken _ hspoken⟩
  | ended =>
    rw [hp] at hstands
    have hbefore : r.scene.call.isHandling = false := by simp [Call.isHandling, hp]
    obtain ⟨x, hfinished, hlogged, htells⟩ := hstands
    exact ⟨x, hresult.trans hfinished,
      hlogged.noting hbefore (hhandling.trans hbefore) hbeside.events, hbeside.tells x htells⟩

/-- **A step of the call.** -/
theorem Reports.own (h : Reports route params headers metrics auth r) {sort : RequestKind}
    {next : Request sort → Program} (hsort : route.handler = .withRequest sort next)
    (hconcludes : ∀ q, (next q).Concludes route.kind false) (hs : Scene.OwnStep r.scene sc) :
    Reports route params headers metrics auth (r.noting sc) := by
  obtain ⟨c', s', fault, hm, rfl⟩ | ⟨c', s', hm, rfl⟩ | hbeside := hs.task_or_beside
  · unfold Call.taskMove at hm
    split at hm
    next hp =>
      have hfresh := h.stands
      rw [hp] at hfresh
      exact hfresh.begin h.made hp (Option.some.inj hm)
    next p due hp => exact h.handle hsort hconcludes hp hm
    next inHand hp => exact h.relay hp hm
    next e hp =>
      obtain ⟨c'', hreport, heq⟩ := Option.map_eq_some_iff.1 hm
      cases heq
      exact h.report hp hreport
    next hp => cases hm
  · exact h.expire hsort hm
  · exact h.beside hbeside

/-- A step of the others. -/
theorem Reports.others (h : Reports route params headers metrics auth r) (s : Surroundings) :
    Reports route params headers metrics auth
      { r with scene := { r.scene with shared := s } } := by
  have hlogged : ∀ {x}, Logged route params headers auth r x →
      Logged route params headers auth { r with scene := { r.scene with shared := s } } x := by
    intro x hlogged
    obtain ⟨entry, hentries, ht⟩ := hlogged
    exact ⟨entry, hentries, ht.method, ht.kind, ht.request, ht.refused, ht.recovery, ht.logging⟩
  have hwork : AtWork metrics auth r →
      AtWork metrics auth { r with scene := { r.scene with shared := s } } := fun h =>
    ⟨h.entered, h.reached, h.calm, h.silent⟩
  have hstands := h.stands
  refine ⟨h.made, ?_⟩
  show Stands route params headers metrics auth _ r.scene.call.progress
  cases hp : r.scene.call.progress with
  | waiting =>
    rw [hp] at hstands
    exact ⟨hstands.stages, hstands.handler, hstands.headers, hstands.listening, hstands.reached,
      hstands.calm, hstands.silent⟩
  | handling p due =>
    rw [hp] at hstands
    exact ⟨hwork hstands.1, hstands.2⟩
  | relaying inHand =>
    rw [hp] at hstands
    exact ⟨hwork hstands.1, hstands.2⟩
  | reporting e =>
    rw [hp] at hstands
    exact ⟨hstands.1, hlogged hstands.2.1, hstands.2.2⟩
  | ended =>
    rw [hp] at hstands
    obtain ⟨x, hresult, hlogged', htells⟩ := hstands
    exact ⟨x, hresult, hlogged hlogged', htells⟩

theorem Reports.start {g : Gateway} (hstages : g.stages = Stage.standard metrics auth)
    (capacity : Nat) (shared : Surroundings) : Reports route params headers metrics auth
      (.start g route params headers capacity shared) := by
  cases hkind : route.kind with
  | unary =>
    refine ⟨?_, ?_⟩
    · simp only [Report.start, Scene.start, hkind]
      exact ⟨rfl, rfl, rfl, fun h => by rw [hkind] at h; cases h⟩
    · simp only [Report.start, Scene.start, hkind]
      refine ⟨hstages, rfl, rfl, ⟨rfl, rfl, ?_⟩, rfl, rfl, rfl⟩
      simp only [Gateway.newCall, hkind]
      exact fun h => by cases h
  | serverStreaming =>
    refine ⟨?_, ?_⟩
    · simp only [Report.start, Scene.start, hkind]
      exact ⟨rfl, rfl, rfl, fun _ => ⟨_, rfl⟩⟩
    · simp only [Report.start, Scene.start, hkind]
      exact ⟨hstages, rfl, rfl, ⟨rfl, rfl, fun _ => ⟨[], rfl⟩⟩, rfl, rfl, rfl⟩

theorem Reports.of_reachable {start : Report} {sort : RequestKind} {next : Request sort → Program}
    (hsort : route.handler = .withRequest sort next)
    (hconcludes : ∀ q, (next q).Concludes route.kind false)
    (hstart : Reports route params headers metrics auth start) (h : Reachable start r) :
    Reports route params headers metrics auth r := by
  induction h with
  | refl => exact hstart
  | tail h hs ih =>
    cases hs with
    | own hs => exact ih.own hsort hconcludes hs
    | others hs => exact ih.others _

end Report

/-- **One truthful entry about the outcome of every call.** Take a call of any method of the
gateway, with any parameters and headers, beside other calls, faults of the backend, a deadline,
cancellations and a client that does what it likes. Once it is over, it has an outcome, its reply
tells that outcome, and the log has exactly one entry about it, which is truthful. It holds the
first message that could be decoded, which no step of any call ever changes. -/
theorem one_truthful_outcome_event {sticky : Bool} {route : Route}
    (hmem : route ∈ Route.standard sticky) {g : Gateway} {metrics : Bool}
    {auth : Option AuthSettings} (hstages : g.stages = Stage.standard metrics auth) (params : Json)
    (headers : Headers) (capacity : Nat) (shared : Surroundings) :
    (∀ r, Report.Reachable (.start g route params headers capacity shared) r →
      r.scene.call.isOver = true → ∃ x entry,
        r.scene.call.result = some (.finished x) ∧ r.scene.Tells x ∧ r.outcomes = [entry] ∧
          Report.Truthful route params headers auth r x entry) ∧
      ∀ sc sc' : Scene, Scene.Step sc sc' → ∀ text,
        sc.call.conversation.firstMessage = some text →
          sc'.call.conversation.firstMessage = some text := by
  refine ⟨fun r h hover => ?_, fun sc sc' hs text hfirst => hs.firstMessage hfirst⟩
  obtain ⟨sort, next, hsort, hconcludes⟩ := Program.concludes_of_standard hmem
  have hstart : Report.Reports route params headers metrics auth
      (.start g route params headers capacity shared) := .start hstages capacity shared
  have hstands := (hstart.of_reachable hsort hconcludes h).stands
  cases hp : r.scene.call.progress with
  | ended =>
    rw [hp] at hstands
    obtain ⟨x, hresult, ⟨entry, hentries, htruthful⟩, htells⟩ := hstands
    exact ⟨x, entry, hresult, htells, hentries, htruthful⟩
  | _ =>
    rw [Call.isOver, hp] at hover
    cases hover

/-- A backend breaks down under a lock request. Recovery reports it, with the request. -/
theorem one_truthful_outcome_event_kaboom :
    let g : Gateway :=
      { routes := Route.standard false, stages := Stage.standard true none, timeout := 1000 }
    let shared : Surroundings :=
      { unixTime := 0
        backend :=
          { disturbance := fun _ => { panic := some "kaboom" }, mint := fun n => ⟨toString n⟩ }
        traceIds := fun _ => "trace" }
    let route : Route := ⟨"permgate.v1.LockService/AcquireLock", .unary, Program.lock⟩
    let params : Json := .obj [("identifier", .str "jobs")]
    ∃ r entry, Report.Reachable (.start g route params {} 16 shared) r ∧
      r.scene.call.reply = .error (.internal "panic" "internal error") ∧ r.outcomes = [entry] ∧
        entry.source = "recovery" ∧ entry.level = .error ∧ entry.fields.lookup "request" =
          some "AcquireLockRequest \x7b identifier: \"jobs\", existing_token: None \x7d" := by
  intro g shared route params
  have h₀ : Report.Reachable (.start g route params {} 16 shared) _ := .refl
  have h₁ := h₀.tail (.own (.task rfl))
  have h₂ := h₁.tail (.own (.task rfl))
  have h₃ := h₂.tail (.own (.task rfl))
  have hmem : route ∈ Route.standard false := List.mem_of_getElem? (i := 6) rfl
  have hstages : g.stages = Stage.standard true none := rfl
  obtain ⟨hcalls, -⟩ := one_truthful_outcome_event hmem hstages params {} 16 shared
  obtain ⟨x, entry, hresult, -, hentries, htruthful⟩ := hcalls _ h₃ rfl
  obtain ⟨hsource, hlevel, rfl⟩ := htruthful.recovery rfl
  refine ⟨_, entry, h₃, Call.reply_of_result hresult, hentries, hsource, hlevel, ?_⟩
  have htext : route.requestText params =
      "AcquireLockRequest \x7b identifier: \"jobs\", existing_token: None \x7d" := by decide +kernel
  rw [← htext]
  exact htruthful.request

/-- **Every move of the gateway is a step of the report of each of its calls.** -/
theorem World.move_report {w w' : World} (hm : w.move = some w') {i : Nat} {r : Report}
    (hi : w.calls[i]? = some r.scene.call) (hs : w.surroundings = r.scene.shared) :
    ∃ r', Report.Step r r' ∧ w'.calls[i]? = some r'.scene.call ∧
      w'.surroundings = r'.scene.shared := by
  obtain ⟨sc', hstep, hcall, hshared⟩ | ⟨hcall, c, c', hmoved⟩ := move_own_or_other hm hi hs
  · exact ⟨_, .own hstep, hcall, hshared⟩
  · have hevolves : r.scene.shared.Evolves w'.surroundings := by
      rcases hmoved with hexpire | hmove
      · exact Call.expire_evolves hexpire
      · exact Call.move_evolves hmove
    exact ⟨_, .others hevolves, hcall, rfl⟩

end RelationGate
