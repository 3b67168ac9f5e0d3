import RelationGate.Proofs.Call.Audit
import RelationGate.Proofs.Call.Completeness

/-!
# Authentication gates everything

A call of a gateway with authentication is refused or let in by a verdict that knows the settings,
the clock and the authorization of the call, and nothing else (`Stage.verdict`). `Gate` is what
holds of such a call in every schedule: before it comes to its stages nothing has been done for it
(`Awaits`); a refused one never comes to its handler, its message is not looked at, the backend is
left alone, and the reply is the one failure of the verdict (`Refused`); and one that was let in
carries the claims of the verdict (`Admitted`).

Main result: `auth_gates_calls`.
-/

namespace RelationGate

/-! ## The verdict -/

namespace Stage

/-- The verdict on an authorization. -/
def verdict (settings : AuthSettings) (unixTime : UInt64) (authorization : Option String) :
    Except AuthError Claims := do
  settings.verify unixTime (← bearerToken authorization)

theorem credentials_eq (settings : AuthSettings) (unixTime : UInt64) (headers : Headers) :
    credentials settings unixTime headers =
      verdict settings unixTime (headers.text? authorizationHeader) := rfl

/-- **The verdict decides at the gate.** The stages before it refuse nobody and read nothing. -/
theorem enterAll_standard (metrics : Bool) (settings : AuthSettings) (s : Surroundings)
    (c : Conversation) :
    (enterAll (standard metrics (some settings)) [] s c).2.2.2.firstMessage = c.firstMessage ∧
      ((∃ e, verdict settings s.unixTime (c.context.headers.text? authorizationHeader) = .error e ∧
          (enterAll (standard metrics (some settings)) [] s c).1 = .error e.toCallError) ∨
        ∃ claims, verdict settings s.unixTime (c.context.headers.text? authorizationHeader) =
            .ok claims ∧
          (enterAll (standard metrics (some settings)) [] s c).1 = .ok () ∧
            (enterAll (standard metrics (some settings)) [] s c).2.2.2.context.claims =
              some claims) := by
  rw [← credentials_eq]
  -- With or without the counters, every other stage lets everybody in.
  cases metrics with
  | _ =>
    simp only [standard, Bool.false_eq_true, if_true, if_false, Option.toList_some, List.map_cons,
      List.map_nil, List.cons_append, List.nil_append, List.append_nil, enterAll, enter]
    cases credentials settings s.unixTime c.context.headers with
    | error e => exact ⟨rfl, .inl ⟨e, rfl, rfl⟩⟩
    | ok claims => exact ⟨rfl, .inr ⟨claims, rfl, rfl, rfl⟩⟩

end Stage

/-! ## What a move leaves of what was found out -/

namespace Call

variable {c c' : Call} {s s' : Surroundings}

/-- A call goes on, with the claims that it had. -/
structure Carries (c c' : Call) : Prop where
  begun : c'.hasBegun = true
  entered : c'.entered = c.entered
  claims : c'.conversation.context.claims = c.conversation.context.claims

theorem conclude_carries (c : Call) (outcome : Outcome) : c.Carries (c.conclude outcome) := by
  have hclosed : ∀ conversation : Conversation,
      (closeFrames conversation).context = conversation.context := by
    intro conversation
    rw [closeFrames]
    split
    · rfl
    · rfl
  rw [conclude]
  simp only
  split
  · exact ⟨rfl, rfl, rfl⟩
  split
  · exact ⟨rfl, rfl, rfl⟩
  · refine ⟨rfl, rfl, ?_⟩
    show (closeFrames c.conversation.cancel).context.claims = _
    rw [hclosed]
    rfl

theorem finish_carries (c : Call) (outcome : Outcome) (s : Surroundings) :
    c.Carries (c.finish outcome s).1 := by
  obtain ⟨-, hcontext⟩ := Stage.leaveAll_shared c.began c.entered outcome s c.conversation
  rw [finish_eq]
  obtain ⟨hbegun, hentered, hclaims⟩ := conclude_carries
    { c with conversation := (Stage.leaveAll c.began c.entered outcome s c.conversation).2.2 }
    (Stage.leaveAll c.began c.entered outcome s c.conversation).1
  exact ⟨hbegun, hentered, hclaims.trans (congrArg CallContext.claims hcontext)⟩

theorem Goes.carries {acts : List Act} (h : c.Goes s acts (c', s')) : c.Carries c' := by
  cases h with
  | back conversation lookup s₁ outcome hclaims hs hacts =>
    obtain ⟨hbegun, hentered, hkept⟩ := finish_carries { c with conversation, lookup } outcome s₁
    exact ⟨hbegun, hentered, hkept.trans hclaims⟩
  | on conversation lookup progress s₁ hclaims hat hs hacts =>
    exact ⟨hasBegun_of_isHandling hat, rfl, hclaims⟩

theorem report_carries {e : CallError} (hm : c.report e = some c') : c.Carries c' := by
  cases report_move hm with
  | _ => exact ⟨rfl, rfl, rfl⟩

/-- **A move of the task** of a call that has come to its stages leaves the claims as they are. -/
theorem taskMove_carries (hbegun : c.hasBegun = true) (hm : c.taskMove s = some (c', s')) :
    c.Carries c' := by
  rw [taskMove] at hm
  cases hp : c.progress with
  | waiting =>
    rw [hasBegun, hp] at hbegun
    cases hbegun
  | handling program due =>
    rw [hp] at hm
    obtain ⟨acts, hgoes, -⟩ := handle_goes hm
    exact hgoes.carries
  | relaying inHand =>
    rw [hp] at hm
    exact (relay_goes hm).carries
  | reporting e =>
    rw [hp] at hm
    obtain ⟨c'', hreport, heq⟩ := Option.map_eq_some_iff.1 hm
    cases heq
    exact report_carries hreport
  | ended =>
    rw [hp] at hm
    cases hm

/-- A handler that is given up. -/
theorem expire_carries (hm : c.expire s = some (c', s')) : c.Carries c' := by
  obtain ⟨ms, -, -, -, -, heq⟩ := expire_cases hm
  obtain ⟨hbegun, hentered, hclaims⟩ := finish_carries
    { c with conversation := c.conversation.cancel, lookup := c.lookup.map Lookup.abandon }
    (.finished (.error (lateError ms))) s
  cases heq
  exact ⟨hbegun, hentered, hclaims⟩

/-! ## The way in -/

/-- A failure ends the call, or has yet to be reported if the reply is streamed. -/
theorem finishWith_fails (hguarded : c.guarded = true) (hplain : ∀ stage ∈ c.entered, stage.IsPlain)
    (e : CallError) (s : Surroundings) :
    (c.finishWith (.error e) s).1 =
      { c.leaving (.error e) with
        progress :=
          match c.conversation.outbound with
          | .buffer _ => .ended
          | .channel _ => .reporting e } := by
  cases houtbound : c.conversation.outbound with
  | buffer kept => exact finishWith_kept ⟨hguarded, ⟨kept, houtbound⟩, hplain⟩ (.error e) s
  | channel frames => exact finishWith_error ⟨hguarded, houtbound, hplain⟩ e s

/-- **The way in** with authentication: the handler is reached with the claims of the verdict, or
the call is refused for the reason of the verdict. -/
theorem begin_gated {metrics : Bool} {settings : AuthSettings}
    (hstages : c.stages = Stage.standard metrics (some settings)) (s : Surroundings) :
    ∃ (conversation : Conversation) (entered : List Stage),
      Stage.Admits c.conversation conversation ∧
      conversation.firstMessage = c.conversation.firstMessage ∧
      (∀ stage ∈ entered, stage.IsPlain) ∧
      ((∃ (e : AuthError) (s₁ : Surroundings), Stage.verdict settings s.unixTime
            (c.conversation.context.headers.text? Stage.authorizationHeader) = .error e ∧
          (c.begin s).1 = ({ c with entered, conversation, began := s₁.now }.finishWith
            (.error e.toCallError) s₁).1) ∨
        ∃ claims, Stage.verdict settings s.unixTime
            (c.conversation.context.headers.text? Stage.authorizationHeader) = .ok claims ∧
          (c.begin s).1.progress = .handling c.handler none ∧
            (c.begin s).1.entered = c.stages.reverse ∧
              (c.begin s).1.conversation.context.claims = some claims) := by
  have hplain : ∀ stage ∈ c.stages, stage.IsPlain := fun stage =>
    Stage.isPlain_of_mem_standard hstages
  obtain ⟨hadmits, -, hentered⟩ := Stage.enterAll_admits hplain [] s c.conversation
  obtain ⟨hunread, hverdict⟩ := Stage.enterAll_standard metrics settings s c.conversation
  have hthrough : (Stage.enterAll c.stages [] s c.conversation).1 = .ok () → _ :=
    Stage.enterAll_entered
  rw [← hstages] at hunread hverdict
  rw [List.append_nil] at hentered hthrough
  rw [begin]
  generalize Stage.enterAll c.stages [] s c.conversation = r
    at hadmits hentered hunread hverdict hthrough ⊢
  obtain ⟨admission, entered, s₁, conversation⟩ := r
  refine ⟨conversation, entered, hadmits, hunread,
    fun stage hstage => hplain stage (hentered hstage), ?_⟩
  obtain ⟨e, he, hrefused⟩ | ⟨claims, hok, hlet, hclaims⟩ := hverdict
  · cases hrefused
    exact .inl ⟨e, s₁, he, rfl⟩
  · cases hlet
    exact .inr ⟨claims, hok, rfl, hthrough rfl, hclaims⟩

end Call

/-! ## Calls of a gateway with authentication -/

/-- A call that is to be made of a gateway with authentication. -/
structure GatedCall (settings : AuthSettings) where
  gateway : Gateway
  metrics : Bool
  staged : gateway.stages = Stage.standard metrics (some settings)
  route : Route
  params : Json
  headers : Headers
  /-- How many frames a streamed reply may be ahead of its client. -/
  capacity : Nat
  shared : Surroundings

/-- Nothing has been done for a call: it has not come to its handler, its message has not been
looked at, no lookup is under way, and each step of it has left the backend as it was. -/
structure Untouched (params : Json) (a : Audit) : Prop where
  outside : a.scene.call.isHandling = false
  inbound : a.scene.call.conversation.inbound = [params]
  firstMessage : a.scene.call.conversation.firstMessage = none
  lookup : a.scene.call.lookup = none
  acts : ∀ act ∈ a.acts, act.2 = act.1

namespace GatedCall

variable {settings : AuthSettings}

/-- The audit of the call when it is made. -/
def start (r : GatedCall settings) : Audit :=
  .start r.gateway r.route r.params r.headers r.capacity r.shared

/-- The authorization of the call. -/
def authorization (r : GatedCall settings) : Option String :=
  r.headers.text? Stage.authorizationHeader

/-- The next move of the task takes the call to its handler, with the claims of the verdict, or not
to it at all. -/
def Enters (r : GatedCall settings) (a : Audit) : Prop :=
  ∃ c s, a.scene.call.taskMove a.scene.shared = some (c, s) ∧
    match Stage.verdict settings a.scene.shared.unixTime r.authorization with
    | .ok claims =>
      c.progress = .handling r.route.handler none ∧ c.conversation.context.claims = some claims
    | .error _ => c.isHandling = false

/-- Nothing has been done for the call, and its reply is one failure: an end of the stream without
it is not shown, and the call does not wait for anything before it is over. -/
structure Refused (r : GatedCall settings) (e : CallError) (a : Audit) : Prop where
  untouched : Untouched r.params a
  status : e.status = .unauthenticated
  reply : r.route.kind = .unary → a.scene.call.isOver = true ∧ a.scene.call.reply = .error e
  frames : r.route.kind = .serverStreaming →
    a.scene.received <+: [.error e] ∧ (a.scene.sawEnd = true → a.scene.received = [.error e])
  ends : a.scene.call.isOver = false →
    ∃ c s, a.scene.call.taskMove a.scene.shared = some (c, s) ∧ c.isOver = true

/-- The call has been let into every stage and so to its handler, and what is known of its caller is
what was verified. -/
structure Admitted (r : GatedCall settings) (claims : Claims) (a : Audit) : Prop where
  begun : a.scene.call.hasBegun = true
  entered : a.scene.call.entered = r.gateway.stages.reverse
  claims : a.scene.call.conversation.context.claims = some claims

end GatedCall

/-! ## Beside the task -/

/-- These frames have been sent to the client, if the call streams its reply. -/
def Scene.Sends (kind : CallKind) (sc : Scene) (sent : List Frame) : Prop :=
  match kind with
  | .unary => ∃ kept, sc.call.conversation.outbound = .buffer kept
  | .serverStreaming => ∃ frames, sc.call.conversation.outbound = .channel frames ∧
    Delivery frames sc.received sc.sawEnd sent ∧ (sent = [] → frames.senderGone = false)

/-- The call has been canceled, or its client has acted. -/
structure Scene.Aside (sc sc' : Scene) : Prop where
  call : ∃ conversation, sc'.call = { sc.call with conversation } ∧
    conversation.inbound = sc.call.conversation.inbound ∧
    conversation.firstMessage = sc.call.conversation.firstMessage ∧
    conversation.context.headers = sc.call.conversation.context.headers
  shared : sc'.shared = sc.shared

/-- The call with another flag of its cancellation and other messages under way. -/
def Call.attended (c : Call) (canceled : Bool) (outbound : Outbound) : Call :=
  { c with
    conversation := { c.conversation with
      context := { c.conversation.context with canceled }, outbound } }

namespace Scene

variable {sc sc' : Scene} {kind : CallKind} {sent : List Frame} {frames frames' : Channel Frame}

/-- What the client does to the frames leaves those that have been sent. -/
theorem Sends.withFrames (h : sc.Sends kind sent)
    (hframes : sc.call.conversation.outbound = .channel frames) {received : List Frame}
    {sawEnd undisturbed : Bool}
    (hdelivery : Delivery frames sc.received sc.sawEnd sent → Delivery frames' received sawEnd sent)
    (hsender : frames'.senderGone = frames.senderGone) :
    Sends kind { sc with call := sc.call.withFrames frames', received, sawEnd, undisturbed }
      sent := by
  cases kind with
  | unary =>
    obtain ⟨kept, hkept⟩ := h
    rw [hframes] at hkept
    cases hkept
  | serverStreaming =>
    obtain ⟨frames₁, hframes₁, hdelivered, hopen⟩ := h
    rw [hframes] at hframes₁
    cases hframes₁
    exact ⟨frames', rfl, hdelivery hdelivered, fun hnone => hsender.trans (hopen hnone)⟩

/-- **A call without a lookup that is not given up**: beside its task there are whoever cancels it
and its client, and all that they change of it is whether it is canceled and what is under way. -/
theorem OwnStep.task_or_attended (hs : OwnStep sc sc') (hexpire : sc.call.expire sc.shared = none)
    (hlookup : sc.call.lookup = none) (h : sc.Sends kind sent) :
    (∃ c s fault, sc.call.taskMove sc.shared = some (c, s) ∧
        sc' = { sc with call := c, shared := s, fault }) ∨
      (∃ canceled outbound, sc'.call = sc.call.attended canceled outbound) ∧
        sc'.shared = sc.shared ∧ sc'.Sends kind sent := by
  cases hs with
  | task hm => exact .inl ⟨_, _, _, hm, rfl⟩
  | expire hm => cases hexpire.symm.trans hm
  | produce hl hm =>
    rw [hlookup] at hl
    cases hl
  | stream noticed hl hnoticed hm =>
    rw [hlookup] at hl
    cases hl
  | breakdown words hl hm =>
    rw [hlookup] at hl
    cases hl
  | cancel => exact .inr ⟨⟨_, _, rfl⟩, rfl, h⟩
  | read hframes hpresent hr =>
    refine .inr ⟨⟨_, _, rfl⟩, rfl, h.withFrames hframes (fun hd => hd.read hr) ?_⟩
    obtain ⟨rest, -, rfl⟩ := Channel.receive_eq_got hr
    rfl
  | readEnd hframes hpresent hr =>
    refine .inr ⟨⟨_, _, rfl⟩, rfl, ?_⟩
    rw [← Call.withFrames_self hframes]
    exact h.withFrames hframes (fun hd => hd.readEnd hpresent hr) rfl
  | leave hframes =>
    exact .inr ⟨⟨_, _, rfl⟩, rfl, h.withFrames hframes (fun hd => hd.leave) rfl⟩

/-- A call without a lookup, outside its handler: beside its task there are whoever cancels it and
its client. -/
theorem OwnStep.task_or_aside (hs : OwnStep sc sc') (houtside : sc.call.isHandling = false)
    (hlookup : sc.call.lookup = none) (h : sc.Sends kind sent) :
    (∃ c s fault, sc.call.taskMove sc.shared = some (c, s) ∧
        sc' = { sc with call := c, shared := s, fault }) ∨
      sc.Aside sc' ∧ sc'.Sends kind sent := by
  refine (hs.task_or_attended (Call.expire_of_outside houtside) hlookup h).imp_right ?_
  rintro ⟨⟨canceled, outbound, hcall⟩, hshared, hsends⟩
  exact ⟨⟨⟨_, hcall, rfl, rfl, rfl⟩, hshared⟩, hsends⟩

end Scene

namespace Audit

variable {a : Audit} {sc : Scene}

theorem begunAt_noting_of_begun (h : a.scene.call.hasBegun = true) :
    (a.noting sc).begunAt = a.begunAt := by
  rw [noting, h]
  rfl

theorem begunAt_noting_of_waiting (h : sc.call.hasBegun = false) :
    (a.noting sc).begunAt = a.begunAt := by
  rw [noting, h, Bool.and_false]
  rfl

theorem begunAt_noting_begins (h : a.scene.call.hasBegun = false) (hsc : sc.call.hasBegun = true) :
    (a.noting sc).begunAt = some a.scene.shared.unixTime := by
  rw [noting, h, hsc]
  rfl

end Audit

/-- A step that does nothing for the call. -/
theorem Untouched.noting {params : Json} {a : Audit} {sc : Scene} (h : Untouched params a)
    (houtside : sc.call.isHandling = false)
    (hinbound : sc.call.conversation.inbound = a.scene.call.conversation.inbound)
    (hfirst : sc.call.conversation.firstMessage = a.scene.call.conversation.firstMessage)
    (hlookup : sc.call.lookup = none) (hbackend : sc.shared.backend = a.scene.shared.backend) :
    Untouched params (a.noting sc) := by
  refine ⟨houtside, hinbound.trans h.inbound, hfirst.trans h.firstMessage, hlookup,
    fun act hact => ?_⟩
  rcases List.mem_append.1 hact with hact | hact
  · exact h.acts act hact
  · rw [List.mem_singleton.1 hact]
    exact hbackend

theorem Untouched.aside {params : Json} {a : Audit} {sc : Scene} (h : Untouched params a)
    (hs : a.scene.Aside sc) : Untouched params (a.noting sc) := by
  obtain ⟨⟨conversation, hcall, hinbound, hfirst, -⟩, hshared⟩ := hs
  refine h.noting ?_ ?_ ?_ ?_ (congrArg Surroundings.backend hshared)
  · rw [hcall]
    exact h.outside
  · rw [hcall]
    exact hinbound
  · rw [hcall]
    exact hfirst
  · rw [hcall]
    exact h.lookup

/-! ## The invariant -/

namespace GatedCall

variable {settings : AuthSettings} {r : GatedCall settings} {a a' : Audit} {e : CallError}
  {claims : Claims} {sc : Scene}

/-- The call waits to come to its stages. -/
structure Awaits (r : GatedCall settings) (a : Audit) : Prop where
  untouched : Untouched r.params a
  progress : a.scene.call.progress = .waiting
  guarded : a.scene.call.guarded = true
  stages : a.scene.call.stages = r.gateway.stages
  handler : a.scene.call.handler = r.route.handler
  headers : a.scene.call.conversation.context.headers = r.headers
  sends : a.scene.Sends r.route.kind []

/-- The call has been refused, and its reply tells so, or is about to. -/
structure Declines (r : GatedCall settings) (e : CallError) (a : Audit) : Prop where
  untouched : Untouched r.params a
  status : e.status = .unauthenticated
  result : a.scene.call.result = some (.finished (.error e))
  phase : (a.scene.call.progress = .ended ∧ a.scene.Sends r.route.kind [.error e]) ∨
    a.scene.call.progress = .reporting e ∧ r.route.kind = .serverStreaming ∧
      a.scene.Sends r.route.kind []

theorem Declines.hasBegun (h : r.Declines e a) : a.scene.call.hasBegun = true := by
  rw [Call.hasBegun]
  obtain ⟨hp, -⟩ | ⟨hp, -⟩ := h.phase
  · rw [hp]
  · rw [hp]

/-- **A refused call** shows what it is meant to show. -/
theorem Declines.refused (h : r.Declines e a) : r.Refused e a := by
  refine ⟨h.untouched, h.status, fun hunary => ?_, fun hstreaming => ?_, fun hopen => ?_⟩
  · have hreply : a.scene.call.reply = .error e := by
      rw [Call.reply, h.result]
    obtain ⟨hp, -⟩ | ⟨-, hstreaming, -⟩ := h.phase
    · exact ⟨by rw [Call.isOver, hp], hreply⟩
    · rw [hunary] at hstreaming
      cases hstreaming
  · obtain ⟨-, hsends⟩ | ⟨-, -, hsends⟩ := h.phase
    · rw [hstreaming] at hsends
      obtain ⟨frames, -, hdelivery, -⟩ := hsends
      exact ⟨(List.prefix_append _ _).trans hdelivery.within, fun hsaw => (hdelivery.ended hsaw).2⟩
    · rw [hstreaming] at hsends
      obtain ⟨frames, -, hdelivery, hsender⟩ := hsends
      have hnone : a.scene.received = [] :=
        (List.append_eq_nil_iff.1 (List.prefix_nil.1 hdelivery.within)).1
      rw [hnone]
      refine ⟨List.nil_prefix, fun hsaw => ?_⟩
      cases (hsender rfl).symm.trans (hdelivery.ended hsaw).1
  · obtain ⟨hp, -⟩ | ⟨hp, hstreaming, hsends⟩ := h.phase
    · rw [Call.isOver, hp] at hopen
      cases hopen
    · rw [hstreaming] at hsends
      obtain ⟨frames, hframes, hdelivery, hsender⟩ := hsends
      -- Nothing is under way, so there is room for the failure, or nobody is there to take it.
      have hqueue : frames.queue = [] :=
        (List.append_eq_nil_iff.1 (List.prefix_nil.1 hdelivery.within)).2
      rw [Call.taskMove, hp]
      simp only [Call.report, hframes, Channel.send, hqueue, List.length_nil, frames.positive]
      cases frames.receiverGone with
      | true => exact ⟨_, _, rfl, rfl⟩
      | false => exact ⟨_, _, rfl, rfl⟩

/-- **The call comes to its stages.** It is refused or let in by the verdict. -/
theorem Awaits.begins (h : r.Awaits a) (fault : Option String) :
    match Stage.verdict settings a.scene.shared.unixTime r.authorization with
    | .error e => r.Declines e.toCallError (a.noting { a.scene with
        call := (a.scene.call.begin a.scene.shared).1
        shared := (a.scene.call.begin a.scene.shared).2, fault })
    | .ok claims =>
      (a.scene.call.begin a.scene.shared).1.progress = .handling r.route.handler none ∧
        (a.scene.call.begin a.scene.shared).1.entered = r.gateway.stages.reverse ∧
          (a.scene.call.begin a.scene.shared).1.conversation.context.claims = some claims := by
  obtain ⟨conversation, entered, hadmits, hunread, hplain, hcases⟩ :=
    Call.begin_gated (h.stages.trans r.staged) a.scene.shared
  rw [h.headers] at hcases
  obtain ⟨e, s₁, he, hc⟩ | ⟨claims, hok, hhandling, hentered, hclaims⟩ := hcases
  · have hverdict : Stage.verdict settings a.scene.shared.unixTime r.authorization = .error e := he
    have hbackend := a.scene.call.begin_backend a.scene.shared
    -- The call goes back with the failure of the verdict: kept if it is unary, else yet to be told.
    have hfails := Call.finishWith_fails
      (c := { a.scene.call with entered, conversation, began := s₁.now }) h.guarded hplain
      e.toCallError s₁
    rw [hverdict]
    simp only
    rw [hc.trans hfails]
    have houtbound : conversation.outbound = a.scene.call.conversation.outbound := hadmits.outbound
    refine ⟨h.untouched.noting ?_ hadmits.inbound hunread ?_ hbackend, rfl, rfl, ?_⟩
    · cases hout : conversation.outbound with
      | _ => simp only [Call.isHandling]
    · show a.scene.call.lookup.map Lookup.abandon = none
      rw [h.untouched.lookup]
      rfl
    · have hsends := h.sends
      cases hkind : r.route.kind with
      | unary =>
        rw [hkind] at hsends
        obtain ⟨kept, hkept⟩ := hsends
        rw [hkept] at houtbound
        refine .inl ⟨?_, kept, houtbound⟩
        simp only [Audit.noting, houtbound]
      | serverStreaming =>
        rw [hkind] at hsends
        obtain ⟨frames, hframes, hdelivery, hopen⟩ := hsends
        rw [hframes] at houtbound
        refine .inr ⟨?_, rfl, frames, houtbound, hdelivery, hopen⟩
        simp only [Audit.noting, houtbound]
  · have hverdict :
        Stage.verdict settings a.scene.shared.unixTime r.authorization = .ok claims := hok
    rw [hverdict]
    exact ⟨hhandling.trans (by rw [h.handler]), hentered.trans (by rw [h.stages]), hclaims⟩

/-- What holds of the call in every schedule: it waits, or it has been refused or let in by the
verdict at the time when it came to its stages. -/
inductive Gate (r : GatedCall settings) (a : Audit) : Prop where
  | awaits (hnone : a.begunAt = none) (h : r.Awaits a)
  | declines {t : UInt64} {e : AuthError} (ht : a.begunAt = some t)
      (hverdict : Stage.verdict settings t r.authorization = .error e)
      (h : r.Declines e.toCallError a)
  | admits {t : UInt64} {claims : Claims} (ht : a.begunAt = some t)
      (hverdict : Stage.verdict settings t r.authorization = .ok claims) (h : r.Admitted claims a)

theorem Awaits.aside (h : r.Awaits a) (hs : a.scene.Aside sc) (hsends : sc.Sends r.route.kind []) :
    r.Awaits (a.noting sc) := by
  have huntouched := h.untouched.aside hs
  obtain ⟨⟨conversation, hcall, -, -, hheaders⟩, -⟩ := hs
  refine ⟨huntouched, ?_, ?_, ?_, ?_, ?_, hsends⟩
  · exact (congrArg Call.progress hcall).trans h.progress
  · exact (congrArg Call.guarded hcall).trans h.guarded
  · exact (congrArg Call.stages hcall).trans h.stages
  · exact (congrArg Call.handler hcall).trans h.handler
  · show sc.call.conversation.context.headers = r.headers
    rw [hcall]
    exact hheaders.trans h.headers

theorem Awaits.hasBegun (h : r.Awaits a) : a.scene.call.hasBegun = false := by
  rw [Call.hasBegun, h.progress]

/-- **A step of a call that waits** for its stages takes it there, or leaves it waiting. -/
theorem Awaits.own (h : r.Awaits a) (hnone : a.begunAt = none) (hs : a.scene.OwnStep sc) :
    r.Gate (a.noting sc) := by
  obtain ⟨c, s, fault, hm, rfl⟩ | ⟨haside, hsends⟩ :=
    hs.task_or_aside h.untouched.outside h.untouched.lookup h.sends
  · rw [Call.taskMove, h.progress] at hm
    have hbegins := h.begins fault
    rw [Option.some.inj hm] at hbegins
    cases hverdict : Stage.verdict settings a.scene.shared.unixTime r.authorization with
    | error e =>
      rw [hverdict] at hbegins
      have hbegun : c.hasBegun = true := Declines.hasBegun hbegins
      exact .declines (Audit.begunAt_noting_begins h.hasBegun hbegun) hverdict hbegins
    | ok claims =>
      rw [hverdict] at hbegins
      obtain ⟨hhandling, hentered, hclaims⟩ := hbegins
      have hbegun : c.hasBegun = true := by rw [Call.hasBegun, hhandling]
      exact .admits (Audit.begunAt_noting_begins h.hasBegun hbegun) hverdict
        ⟨hbegun, hentered, hclaims⟩
  · have hwaits := h.aside haside hsends
    have hwaiting : sc.call.hasBegun = false := hwaits.hasBegun
    exact .awaits ((Audit.begunAt_noting_of_waiting hwaiting).trans hnone) hwaits

theorem Declines.aside (h : r.Declines e a) (hs : a.scene.Aside sc)
    (hphase : (a.scene.call.progress = .ended ∧ sc.Sends r.route.kind [.error e]) ∨
      a.scene.call.progress = .reporting e ∧ r.route.kind = .serverStreaming ∧
        sc.Sends r.route.kind []) : r.Declines e (a.noting sc) := by
  have huntouched := h.untouched.aside hs
  obtain ⟨conversation, hcall, -⟩ := hs.call
  have hprogress : sc.call.progress = a.scene.call.progress := by rw [hcall]
  rw [← hprogress] at hphase
  exact ⟨huntouched, h.status, (congrArg Call.result hcall).trans h.result, hphase⟩

/-- The failure is told, or nobody is left to be told. -/
theorem Declines.tells (h : r.Declines e a) (hkind : r.route.kind = .serverStreaming)
    (hsends : a.scene.Sends r.route.kind []) {c : Call} (hreport : a.scene.call.report e = some c)
    (fault : Option String) : r.Declines e (a.noting { a.scene with call := c, fault }) := by
  rw [hkind] at hsends
  obtain ⟨frames, hframes, hdelivery, hopen⟩ := hsends
  obtain ⟨hpresent, rfl⟩ | ⟨hgone, rfl⟩ := Call.report_cases hframes hreport
  · refine ⟨h.untouched.noting rfl rfl rfl h.untouched.lookup rfl, h.status, h.result,
      .inl ⟨rfl, ?_⟩⟩
    rw [hkind]
    exact ⟨_, rfl, hdelivery.send (hopen rfl) hpresent (.error e) true, nofun⟩
  · refine ⟨h.untouched.noting rfl rfl rfl h.untouched.lookup rfl, h.status, h.result,
      .inl ⟨rfl, ?_⟩⟩
    rw [hkind]
    -- The client has left: it has got nothing, and will get nothing.
    refine ⟨frames, hframes, ⟨?_, fun hpresent => ?_, fun hsaw => ?_⟩, nofun⟩
    · exact hdelivery.within.trans List.nil_prefix
    · cases hgone.symm.trans hpresent
    · cases (hopen rfl).symm.trans (hdelivery.ended hsaw).1

/-- **A step of a refused call** at most tells that it has been refused. -/
theorem Declines.own (h : r.Declines e a) (hs : a.scene.OwnStep sc) :
    r.Declines e (a.noting sc) := by
  obtain ⟨hp, hsends⟩ | ⟨hp, hkind, hsends⟩ := h.phase
  · obtain ⟨c, s, fault, hm, rfl⟩ | ⟨haside, hsends'⟩ :=
      hs.task_or_aside h.untouched.outside h.untouched.lookup hsends
    · rw [Call.taskMove, hp] at hm
      cases hm
    · exact h.aside haside (.inl ⟨hp, hsends'⟩)
  · obtain ⟨c, s, fault, hm, rfl⟩ | ⟨haside, hsends'⟩ :=
      hs.task_or_aside h.untouched.outside h.untouched.lookup hsends
    · rw [Call.taskMove, hp] at hm
      obtain ⟨c', hreport, heq⟩ := Option.map_eq_some_iff.1 hm
      cases heq
      exact h.tells hkind hsends hreport fault
    · exact h.aside haside (.inr ⟨hp, hkind, hsends'⟩)

/-- **A step of a call that was let in** leaves what was verified. -/
theorem Admitted.own (h : r.Admitted claims a) (hs : a.scene.OwnStep sc) :
    r.Admitted claims (a.noting sc) := by
  cases hs with
  | task hm =>
    obtain ⟨hbegun, hentered, hclaims⟩ := Call.taskMove_carries h.begun hm
    exact ⟨hbegun, hentered.trans h.entered, hclaims.trans h.claims⟩
  | expire hm =>
    obtain ⟨hbegun, hentered, hclaims⟩ := Call.expire_carries hm
    exact ⟨hbegun, hentered.trans h.entered, hclaims.trans h.claims⟩
  | _ => exact ⟨h.begun, h.entered, h.claims⟩

/-- **Every step keeps the gate.** What others do is nothing to a call that has not come to its
handler. -/
theorem Gate.step (h : r.Gate a) (hs : Audit.Step a a') : r.Gate a' := by
  cases hs with
  | own hs =>
    cases h with
    | awaits hnone h => exact h.own hnone hs
    | declines ht hverdict h =>
      exact .declines ((Audit.begunAt_noting_of_begun h.hasBegun).trans ht) hverdict (h.own hs)
    | admits ht hverdict h =>
      exact .admits ((Audit.begunAt_noting_of_begun h.begun).trans ht) hverdict (h.own hs)
  | others hs =>
    cases h with
    | awaits hnone h => exact .awaits hnone { h with untouched := { h.untouched with } }
    | declines ht hverdict h =>
      exact .declines ht hverdict { h with untouched := { h.untouched with } }
    | admits ht hverdict h => exact .admits ht hverdict { h with }

theorem Awaits.start (r : GatedCall settings) : r.Awaits r.start := by
  obtain ⟨gateway, metrics, staged, ⟨method, kind, handler⟩, params, headers, capacity, shared⟩ := r
  have hacts : ∀ act : Backend × Backend, act ∈ [] → act.2 = act.1 := fun act hact =>
    (List.not_mem_nil hact).elim
  cases kind with
  | unary => exact ⟨⟨rfl, rfl, rfl, rfl, hacts⟩, rfl, rfl, rfl, rfl, rfl, [], rfl⟩
  | serverStreaming =>
    exact ⟨⟨rfl, rfl, rfl, rfl, hacts⟩, rfl, rfl, rfl, rfl, rfl, .ofCapacity capacity, rfl,
      .fresh capacity, fun _ => rfl⟩

/-- **What holds of the call** in every schedule. -/
theorem Gate.of_reachable (h : Audit.Reachable r.start a) : r.Gate a := by
  induction h with
  | refl => exact .awaits rfl (.start r)
  | tail h hs ih => exact ih.step hs

/-- A call that the verdict is against. -/
theorem Gate.refused (h : r.Gate a) {t : UInt64} {e : AuthError} (ht : a.begunAt = some t)
    (hverdict : Stage.verdict settings t r.authorization = .error e) :
    r.Refused e.toCallError a := by
  cases h with
  | awaits hnone => cases hnone.symm.trans ht
  | declines ht' hverdict' h =>
    cases ht'.symm.trans ht
    cases hverdict'.symm.trans hverdict
    exact h.refused
  | admits ht' hverdict' =>
    cases ht'.symm.trans ht
    cases hverdict'.symm.trans hverdict

/-- A call that the verdict is for. -/
theorem Gate.admitted (h : r.Gate a) {t : UInt64} {claims : Claims} (ht : a.begunAt = some t)
    (hverdict : Stage.verdict settings t r.authorization = .ok claims) : r.Admitted claims a := by
  cases h with
  | awaits hnone => cases hnone.symm.trans ht
  | declines ht' hverdict' =>
    cases ht'.symm.trans ht
    cases hverdict'.symm.trans hverdict
  | admits ht' hverdict' h =>
    cases ht'.symm.trans ht
    cases hverdict'.symm.trans hverdict
    exact h

/-- **The way in** from where the call waits. -/
theorem Awaits.enters (h : r.Awaits a) : r.Enters a := by
  have hbegins := h.begins a.scene.fault
  refine ⟨_, _, by rw [Call.taskMove, h.progress], ?_⟩
  cases hverdict : Stage.verdict settings a.scene.shared.unixTime r.authorization with
  | error e =>
    rw [hverdict] at hbegins
    exact hbegins.untouched.outside
  | ok claims =>
    rw [hverdict] at hbegins
    obtain ⟨hhandling, -, hclaims⟩ := hbegins
    exact ⟨hhandling, hclaims⟩

/-- Every call can come to its stages. -/
theorem exists_begun (r : GatedCall settings) :
    ∃ a, Audit.Reachable r.start a ∧ a.begunAt = some r.start.scene.shared.unixTime := by
  have h := Awaits.start r
  have hm : r.start.scene.call.taskMove r.start.scene.shared =
      some (r.start.scene.call.begin r.start.scene.shared) := by
    rw [Call.taskMove, h.progress]
  have hbegun : (r.start.scene.call.begin r.start.scene.shared).1.hasBegun = true := by
    have hbegins := h.begins none
    cases hverdict : Stage.verdict settings r.start.scene.shared.unixTime r.authorization with
    | error e =>
      rw [hverdict] at hbegins
      exact hbegins.hasBegun
    | ok claims =>
      rw [hverdict] at hbegins
      rw [Call.hasBegun, hbegins.1]
  exact ⟨_, .tail .refl (.own (.task hm)), Audit.begunAt_noting_begins h.hasBegun hbegun⟩

end GatedCall

/-- **Authentication gates everything and leaks nothing.** Until a call comes to its stages nothing
is done for it, and its next move takes it to its handler exactly if the verdict on its
authorization lets it in. After that, of two calls with the same settings and the same authorization
that came to their stages at the same time, whatever their methods, parameters, other headers and
stores are and whatever else goes on, either both are refused with one and the same failure and
nothing is done for either, or both carry the same claims. -/
theorem auth_gates_calls {settings : AuthSettings} (r r' : GatedCall settings) {a a' : Audit}
    (h : Audit.Reachable r.start a) (h' : Audit.Reachable r'.start a') :
    (a.begunAt = none → Untouched r.params a ∧ a.scene.call.isOver = false ∧ r.Enters a) ∧
      ∀ t, a.begunAt = some t → a'.begunAt = some t → r'.authorization = r.authorization →
        match Stage.verdict settings t r.authorization with
        | .error e => r.Refused e.toCallError a ∧ r'.Refused e.toCallError a'
        | .ok claims => r.Admitted claims a ∧ r'.Admitted claims a' := by
  have hgate := GatedCall.Gate.of_reachable h
  have hgate' := GatedCall.Gate.of_reachable h'
  refine ⟨fun hnone => ?_, fun t ht ht' hsame => ?_⟩
  · cases hgate with
    | awaits _ hwaits =>
      exact ⟨hwaits.untouched, by rw [Call.isOver, hwaits.progress], hwaits.enters⟩
    | declines ht => cases hnone.symm.trans ht
    | admits ht => cases hnone.symm.trans ht
  · cases hverdict : Stage.verdict settings t r.authorization with
    | error e => exact ⟨hgate.refused ht hverdict, hgate'.refused ht' (hsame ▸ hverdict)⟩
    | ok claims => exact ⟨hgate.admitted ht hverdict, hgate'.admitted ht' (hsame ▸ hverdict)⟩

/-- A check and a read of relationships: without an authorization both come back with the same
failure, and with a token both carry its claims. -/
theorem auth_gates_calls_check_and_read :
    let settings : AuthSettings := .withKey .hs256 (.secret [115])
    let gateway : Gateway :=
      { routes := Route.standard false, stages := Stage.standard true (some settings)
        timeout := 1000 }
    let shared (backend : Backend) : Surroundings :=
      { unixTime := 5, backend, traceIds := fun _ => "trace" }
    let check (headers : List (String × String)) : GatedCall settings :=
      { gateway, metrics := true, staged := rfl
        route := ⟨"permgate.v1.PermissionsService/Check", .unary, Program.check⟩
        params := .null, headers := ⟨headers⟩, capacity := 16
        shared := shared { mint := fun n => ⟨toString n⟩ } }
    let read (headers : List (String × String)) : GatedCall settings :=
      { gateway, metrics := true, staged := rfl
        route :=
          ⟨"permgate.v1.PermissionsService/ReadRelationships", .serverStreaming, Program.read⟩
        params := .str "viewer", headers := ⟨headers⟩, capacity := 1
        shared := shared { mint := fun n => ⟨toString n⟩, isAvailable := false } }
    let missing : CallError := .unauthenticated "missing_token" "missing bearer token"
    let signed := "Bearer eyJhbGciOiJIUzI1NiJ9.eyJzdWIiOiJhZGEiLCJleHAiOjl9." ++
      "YDz3QWJz70CLbgat4P3CR1_e8rtoe8FRTELpcoqsMuo"
    (∃ a a', Audit.Reachable (check []).start a ∧ Audit.Reachable (read []).start a' ∧
        a.scene.call.reply = .error missing ∧ a'.scene.sawEnd = true ∧
          a'.scene.received = [.error missing]) ∧
      ∃ a a' claims, Audit.Reachable (check [("authorization", signed)]).start a ∧
        Audit.Reachable (read [("x-trace-id", "read"), ("Authorization", signed)]).start a' ∧
          claims.subject = "ada" ∧ a.scene.call.conversation.context.claims = some claims ∧
            a'.scene.call.conversation.context.claims = some claims := by
  intro settings gateway shared check read missing signed
  refine ⟨?_, ?_⟩
  · have h : Audit.Reachable (check []).start _ := .tail .refl (.own (.task rfl))
    have h₁ : Audit.Reachable (read []).start _ := .tail .refl (.own (.task rfl))
    have h₂ := h₁.tail (.own (.task rfl))
    have h₃ := h₂.tail (.own (.read rfl rfl rfl))
    have h₄ := h₃.tail (.own (.readEnd rfl rfl rfl))
    obtain ⟨-, hgated⟩ := auth_gates_calls (check []) (read []) h h₄
    obtain ⟨hcheck, hread⟩ := hgated 5 rfl rfl rfl
    exact ⟨_, _, h, h₄, (hcheck.reply rfl).2, rfl, (hread.frames rfl).2 rfl⟩
  · obtain ⟨a, h, hbegun⟩ := (check [("authorization", signed)]).exists_begun
    obtain ⟨a', h', hbegun'⟩ :=
      (read [("x-trace-id", "read"), ("Authorization", signed)]).exists_begun
    obtain ⟨-, hgated⟩ := auth_gates_calls _ _ h h'
    have hboth := hgated 5 hbegun hbegun' (by decide +kernel)
    have hsubject : (Stage.verdict settings 5
        (check [("authorization", signed)]).authorization).toOption.map (·.subject) =
          some "ada" := by decide +kernel
    cases hverdict : Stage.verdict settings 5 (check [("authorization", signed)]).authorization with
    | error e =>
      rw [hverdict] at hsubject
      cases hsubject
    | ok claims =>
      rw [hverdict] at hsubject hboth
      exact ⟨a, a', claims, h, h', Option.some.inj hsubject, hboth.1.claims, hboth.2.claims⟩

end RelationGate
