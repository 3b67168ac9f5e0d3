import RelationGate.Proofs.Call.Scene

/-!
# A handler at work

Whatever its program is, a move of a handler at work takes the call back through its stages, or
leaves the handler at work (`Call.Fares`). The stages leave the messages of a call alone
(`Conversation.Stays`), the handler may receive and send (`Conversation.GoesOn`), and the counters
are not touched before the way back.

A call comes back with a breakdown exactly if the next move of its task unwinds the stages
(`Call.unwinds`): the handler breaks down, its lookup cannot be made, or a fault of the backend
strikes the operation that it performs.

* `Call.begin_stays`, `Call.taskMove_fares`, `Call.conclude_cases`: the way in, a move of the
  handler, and the way back, for any stages and any program.
-/

namespace RelationGate

/-! ## Conversations -/

/-- How far ahead of its client a reply may be, if the client gets it as it comes. -/
def Outbound.room? : Outbound → Option Nat
  | .buffer _ => none
  | .channel frames => some frames.capacity

/-- No reply is further ahead of its client than it may be. -/
def Outbound.Fits : Outbound → Prop
  | .buffer _ => True
  | .channel frames => frames.Fits

/-- At most one message has gone where the messages of a call go. -/
inductive Outbound.Speaks : Outbound → Outbound → Prop where
  | silent (o : Outbound) : Speaks o o
  | kept (sent : List Json) (message : Json) : Speaks (.buffer sent) (.buffer (sent ++ [message]))
  | passed (frames : Channel Frame) (message : Json) (hpresent : frames.receiverGone = false)
      (hroom : frames.queue.length < frames.capacity) : Speaks (.channel frames)
        (.channel { frames with queue := frames.queue ++ [.ok message] })

namespace Outbound.Speaks

variable {o o' : Outbound}

theorem room (h : o.Speaks o') : o'.room? = o.room? := by
  cases h with
  | _ => rfl

theorem fits (h : o.Speaks o') (hfits : o.Fits) : o'.Fits := by
  cases h with
  | silent => exact hfits
  | kept sent message => trivial
  | passed frames message hpresent hroom =>
    simp only [Outbound.Fits, Channel.Fits, List.length_append, List.length_singleton]
    omega

end Outbound.Speaks

/-- What the stages leave of a conversation as it is. -/
structure Conversation.Stays (c c' : Conversation) : Prop where
  kind : c'.context.kind = c.context.kind
  method : c'.context.method = c.context.method
  headers : c'.context.headers = c.context.headers
  inbound : c'.inbound = c.inbound
  outbound : c'.outbound = c.outbound
  firstMessage : c'.firstMessage = c.firstMessage

/-- What a handler may make of a conversation: something is received, noted or sent, or the call is
canceled. The first message that can be decoded is kept, and once there is nothing left to receive
it is settled whether there is one. -/
structure Conversation.GoesOn (c c' : Conversation) : Prop where
  kind : c'.context.kind = c.context.kind
  method : c'.context.method = c.context.method
  speaks : c.outbound.Speaks c'.outbound
  first : ∀ text, c.firstMessage = some text → c'.firstMessage = some text
  heard : c.inbound = [] → c'.inbound = [] ∧ c'.firstMessage = c.firstMessage

namespace Conversation

variable {c c' c'' : Conversation}

theorem Stays.refl (c : Conversation) : c.Stays c := ⟨rfl, rfl, rfl, rfl, rfl, rfl⟩

theorem Stays.trans (h : c.Stays c') (h' : c'.Stays c'') : c.Stays c'' where
  kind := h'.kind.trans h.kind
  method := h'.method.trans h.method
  headers := h'.headers.trans h.headers
  inbound := h'.inbound.trans h.inbound
  outbound := h'.outbound.trans h.outbound
  firstMessage := h'.firstMessage.trans h.firstMessage

theorem stays_cancel (c : Conversation) : c.Stays c.cancel := ⟨rfl, rfl, rfl, rfl, rfl, rfl⟩

theorem Stays.goesOn (h : c.Stays c') : c.GoesOn c' where
  kind := h.kind
  method := h.method
  speaks := h.outbound ▸ .silent _
  first _ hfirst := h.firstMessage.trans hfirst
  heard hnone := ⟨h.inbound.trans hnone, h.firstMessage⟩

theorem GoesOn.refl (c : Conversation) : c.GoesOn c := (Stays.refl c).goesOn

theorem goesOn_receive (c : Conversation) (kind : RequestKind) : c.GoesOn (c.receive kind).2 := by
  obtain ⟨houtbound, hcontext⟩ := Call.receive_frame c kind
  refine ⟨by rw [hcontext], by rw [hcontext], houtbound ▸ .silent _, fun text hfirst => ?_,
    fun hnone => by simp [receive_eq, hnone]⟩
  rw [receive_eq]
  split
  · exact hfirst
  · split
    · exact hfirst
    · simp [hfirst]

/-- A message that is sent, or that nobody takes any more. -/
theorem goesOn_send {message : Json} {outcome : Except CallError Unit}
    (h : c.send message = .settled outcome c') : c.GoesOn c' := by
  cases sends_of_send h with
  | kept houtbound =>
    exact ⟨rfl, rfl, houtbound ▸ .kept _ message, fun _ h => h, fun hnone => ⟨hnone, rfl⟩⟩
  | passed houtbound hgoing hpresent hroom =>
    exact ⟨rfl, rfl, houtbound ▸ .passed _ message hpresent hroom, fun _ h => h,
      fun hnone => ⟨hnone, rfl⟩⟩
  | canceled | left => exact .refl c

end Conversation

/-- **What a program makes of a conversation.** -/
theorem Program.Proceeds.goesOn {p p' : Program} {due : Option Nat} {s s' : Surroundings}
    {c c' : Conversation} (h : p.Proceeds s c due p' c' s') : c.GoesOn c' := by
  cases h with
  | received => exact c.goesOn_receive _
  | sent hsend => exact Conversation.goesOn_send hsend
  | canceled => exact c.stays_cancel.goesOn
  | noted => exact ⟨rfl, rfl, .silent _, fun _ h => h, fun hnone => ⟨hnone, rfl⟩⟩
  | _ => exact .refl c

/-! ## The stages -/

namespace Stage

theorem enter_stays (stage : Stage) (s : Surroundings) (c : Conversation) :
    c.Stays (stage.enter s c).2.2 := by
  cases stage with
  | recovery | logging | metrics => exact .refl c
  | validation | tracing => exact ⟨rfl, rfl, rfl, rfl, rfl, rfl⟩
  | auth settings =>
    rw [enter]
    split
    · exact ⟨rfl, rfl, rfl, rfl, rfl, rfl⟩
    · exact .refl c
  | checkpoint p =>
    rw [enter]
    split
    · exact ⟨rfl, rfl, rfl, rfl, rfl, rfl⟩
    · exact ⟨rfl, rfl, rfl, rfl, rfl, rfl⟩

theorem enterAll_stays (stages entered : List Stage) (s : Surroundings) (c : Conversation) :
    c.Stays (enterAll stages entered s c).2.2.2 := by
  induction stages generalizing entered s c with
  | nil => exact .refl c
  | cons stage rest ih =>
    have hc := stage.enter_stays s c
    rw [enterAll]
    split
    next s₁ c₁ henter =>
      rw [henter] at hc
      exact hc.trans (ih _ s₁ c₁)
    next e s₁ c₁ henter =>
      rw [henter] at hc
      exact hc

theorem leave_stays (stage : Stage) (began : Nat) (outcome : Outcome) (s : Surroundings)
    (c : Conversation) : c.Stays (stage.leave began outcome s c).2.2 := by
  cases outcome with
  | panicked words =>
    cases stage with
    | _ => exact .refl c
  | finished x =>
    cases stage with
    | checkpoint p =>
      simp only [leave]
      split
      · exact ⟨rfl, rfl, rfl, rfl, rfl, rfl⟩
      · exact ⟨rfl, rfl, rfl, rfl, rfl, rfl⟩
    | _ => exact .refl c

theorem leaveAll_stays (began : Nat) (entered : List Stage) (outcome : Outcome) (s : Surroundings)
    (c : Conversation) : c.Stays (leaveAll began entered outcome s c).2.2 := by
  induction entered generalizing outcome s c with
  | nil => exact .refl c
  | cons stage rest ih => exact (stage.leave_stays began outcome s c).trans (ih _ _ _)

end Stage

/-! ## Moves of the handler -/

/-- The inside of a stage has broken down. -/
def Outcome.isBreakdown : Outcome → Bool
  | .panicked _ => true
  | .finished _ => false

namespace Call

variable {c : Call} {s : Surroundings} {r : Call × Surroundings}

/-- The next move of the task of a call unwinds its stages. -/
def unwinds (c : Call) (s : Surroundings) : Bool :=
  match c.progress with
  | .handling (.panic _) _ => true
  | .handling (.relay query) _ =>
    match Lookup.start s.settings query with
    | .panicked _ => true
    | .answered _ => false
  | .handling (.perform _ _) _ => (c.struck s).isSome
  | _ => false

/-- **What a move of a handler at work comes to**: the call goes back through its stages, or its
handler is still at work. -/
inductive Fares (c : Call) (s : Surroundings) : Call × Surroundings → Prop where
  | out (conversation : Conversation) (lookup : Option Lookup) (b : Backend) (outcome : Outcome)
      (hconversation : c.conversation.GoesOn conversation)
      (hway : outcome.isBreakdown = c.unwinds s) :
      Fares c s ({ c with conversation, lookup }.finish outcome { s with backend := b })
  | on (conversation : Conversation) (lookup : Option Lookup) (progress : Progress)
      (s₁ : Surroundings) (hconversation : c.conversation.GoesOn conversation)
      (hat : { c with progress }.isHandling = true) (hmetrics : s₁.metrics = s.metrics) :
      Fares c s ({ c with conversation, lookup, progress }, s₁)

/-- The handler goes on with another program, beside the same conversation. -/
theorem Fares.stay (p : Program) (due : Option Nat) (s₁ : Surroundings)
    (hmetrics : s₁.metrics = s.metrics) : c.Fares s ({ c with progress := .handling p due }, s₁) :=
  .on c.conversation c.lookup _ s₁ (.refl _) rfl hmetrics

/-- A handler that ends breaks down exactly if it unwinds the stages. -/
theorem isBreakdown_of_ends {p : Program} {due : Option Nat} {outcome : Outcome} {b : Backend}
    (hp : c.progress = .handling p due) (h : p.Ends s due outcome b) :
    outcome.isBreakdown = c.unwinds s := by
  cases h with
  | struck hasks hpanic =>
    simp [Outcome.isBreakdown, unwinds, hp, struck_of_asks hp hasks, hpanic]
  | unmade hstart | refused hstart => simp [Outcome.isBreakdown, unwinds, hp, hstart]
  | _ => simp [Outcome.isBreakdown, unwinds, hp]

/-- **A move of the handler.** -/
theorem handle_fares {p : Program} {due : Option Nat} (hp : c.progress = .handling p due)
    (hm : c.handle s p due = some r) : c.Fares s r := by
  cases handle_move hm with
  | ends h => exact .out c.conversation c.lookup _ _ (.refl _) (isBreakdown_of_ends hp h)
  | heldUp hdue h => exact .stay p _ _ rfl
  | proceeds h =>
    obtain ⟨acts, events, ready, rfl, -⟩ := h.shared
    exact .on _ c.lookup _ _ h.goesOn rfl rfl
  | relays hp hstart => exact .on c.conversation _ _ s (.refl _) rfl rfl

/-- **A move of the relay**: it is done, or goes on relaying. -/
theorem relay_cases {inHand : Option Json} (hm : c.relay s inHand = some r) :
    ∃ conversation lookup, c.conversation.GoesOn conversation ∧
      ((∃ x, r = { c with conversation, lookup }.finishWith x s) ∨
        ∃ inHand', r = ({ c with conversation, lookup, progress := .relaying inHand' }, s)) := by
  cases relay_move hm with
  | passed hsend => exact ⟨_, c.lookup, Conversation.goesOn_send hsend, .inr ⟨none, rfl⟩⟩
  | stopped hsend => exact ⟨_, c.lookup, Conversation.goesOn_send hsend, .inl ⟨_, rfl⟩⟩
  | took hlookup hx => exact ⟨c.conversation, _, .refl _, .inr ⟨_, rfl⟩⟩
  | idle hlookup => exact ⟨c.conversation, c.lookup, .refl _, .inl ⟨c.relayed, rfl⟩⟩
  | failed | ended => exact ⟨c.conversation, _, .refl _, .inl ⟨_, rfl⟩⟩

theorem relay_fares {inHand : Option Json} (hp : c.progress = .relaying inHand)
    (hm : c.relay s inHand = some r) : c.Fares s r := by
  have hcalm : c.unwinds s = false := by simp [unwinds, hp]
  obtain ⟨conversation, lookup, hconversation, ⟨x, rfl⟩ | ⟨inHand', rfl⟩⟩ := relay_cases hm
  · exact .out conversation lookup s.backend (.finished x) hconversation hcalm.symm
  · exact .on conversation lookup _ s hconversation rfl rfl

/-- **A move of the task** of a call whose handler is at work. -/
theorem taskMove_fares (hhandling : c.isHandling = true) (hm : c.taskMove s = some r) :
    c.Fares s r := by
  unfold taskMove at hm
  cases hp : c.progress with
  | handling p due =>
    rw [hp] at hm
    exact handle_fares hp hm
  | relaying inHand =>
    rw [hp] at hm
    exact relay_fares hp hm
  | _ => simp [isHandling, hp] at hhandling

/-! ## The way in and the way back -/

/-- **The way in**, through any stages: the handler is reached, or the call fails. -/
theorem begin_stays (c : Call) (s : Surroundings) :
    ∃ conversation entered s₁, c.conversation.Stays conversation ∧
      (c.begin s = ({ c with
          entered, conversation, began := s₁.now, progress := .handling c.handler none }, s₁) ∨
        ∃ e, c.begin s =
          { c with entered, conversation, began := s₁.now }.finishWith (.error e) s₁) := by
  have hstays := Stage.enterAll_stays c.stages [] s c.conversation
  unfold begin
  split
  next admission entered s₁ conversation heq =>
  rw [heq] at hstays
  refine ⟨conversation, entered, s₁, hstays, ?_⟩
  cases admission with
  | ok u => exact .inl rfl
  | error e => exact .inr ⟨e, rfl⟩

/-- The call with its result: it is canceled, and its lookup left alone. -/
def resting (c : Call) (conversation : Conversation) (outcome : Outcome) (progress : Progress) :
    Call :=
  { c with
    conversation, lookup := c.lookup.map Lookup.abandon, result := some outcome, progress }

/-- **What is left to do** once the stages have been passed: a failure has yet to be reported on a
streamed reply, and otherwise the call is over. -/
theorem conclude_cases (hguarded : c.guarded = true) (outcome : Outcome) :
    (∃ e frames, outcome = .finished (.error e) ∧ c.conversation.outbound = .channel frames ∧
        c.conclude outcome = c.resting c.conversation.cancel outcome (.reporting e)) ∨
      (∀ e frames, outcome = .finished (.error e) → c.conversation.outbound ≠ .channel frames) ∧
        c.conclude outcome = c.resting (closeFrames c.conversation.cancel) outcome .ended := by
  unfold conclude
  rw [if_neg (by simp [hguarded])]
  simp only
  split
  next e frames houtbound => exact .inl ⟨e, frames, rfl, houtbound, rfl⟩
  next hother => exact .inr ⟨hother, rfl⟩

theorem closeFrames_room (conversation : Conversation) :
    (closeFrames conversation).outbound.room? = conversation.outbound.room? := by
  unfold closeFrames
  split
  · rfl
  next frames hframes =>
    rw [hframes]
    rfl

theorem closeFrames_fits {conversation : Conversation} (h : conversation.outbound.Fits) :
    (closeFrames conversation).outbound.Fits := by
  unfold closeFrames
  split
  · exact h
  next frames hframes =>
    rw [hframes] at h
    exact h

theorem closeFrames_firstMessage (conversation : Conversation) :
    (closeFrames conversation).firstMessage = conversation.firstMessage := by
  unfold closeFrames
  split
  · rfl
  · rfl

/-- The way back leaves the first message as it is. -/
theorem finish_firstMessage (c : Call) (outcome : Outcome) (s : Surroundings) :
    (c.finish outcome s).1.conversation.firstMessage = c.conversation.firstMessage := by
  have hstays := Stage.leaveAll_stays c.began c.entered outcome s c.conversation
  unfold finish conclude
  split
  next outcome' s' conversation hleave =>
    rw [hleave] at hstays
    rw [← hstays.firstMessage]
    split
    · rfl
    · simp only
      split
      · rfl
      · exact closeFrames_firstMessage _

/-- **The first message that could be decoded is kept**, whatever the handler receives after it. -/
theorem taskMove_firstMessage {text : String} (hm : c.taskMove s = some r)
    (hfirst : c.conversation.firstMessage = some text) :
    r.1.conversation.firstMessage = some text := by
  cases hhandling : c.isHandling with
  | true =>
    cases taskMove_fares hhandling hm with
    | out conversation lookup b outcome hconversation hway =>
      rw [finish_firstMessage]
      exact hconversation.first text hfirst
    | on conversation lookup progress s₁ hconversation hat hmetrics =>
      exact hconversation.first text hfirst
  | false =>
    unfold taskMove at hm
    split at hm
    next hp =>
      obtain ⟨conversation, entered, s₁, hstays, hbegin | ⟨e, hbegin⟩⟩ := begin_stays c s
      · rw [hbegin] at hm
        cases hm
        exact hstays.firstMessage.trans hfirst
      · rw [hbegin] at hm
        cases hm
        exact (finish_firstMessage _ _ _).trans (hstays.firstMessage.trans hfirst)
    next p due hp => simp [isHandling, hp] at hhandling
    next inHand hp => simp [isHandling, hp] at hhandling
    next e hp =>
      obtain ⟨c', hreport, rfl⟩ := Option.map_eq_some_iff.1 hm
      cases report_move hreport with
      | _ => exact hfirst
    next hp => cases hm

/-- A move that unwinds the stages is one of a handler at work. -/
theorem isHandling_of_unwinds (h : c.unwinds s = true) : c.isHandling = true := by
  unfold unwinds at h
  split at h
  all_goals simp_all [isHandling]

/-- A move that unwinds the stages is one that the task can make. -/
theorem unwinds_of_waiting (h : c.taskMove s = none) : c.unwinds s = false := by
  unfold taskMove at h
  unfold unwinds
  split at h
  next hp => rw [hp]
  next p due hp =>
    rw [hp]
    cases handle_eq_none_iff.1 h with
    | room hfull | asleep hdue => rfl
    | answer hdue => simp [struck, hp, Nat.not_le.2 hdue]
  next hp => rw [hp]
  next hp => rw [hp]
  next hp => rw [hp]

end Call

/-! ## The standard stages -/

/-- What a call comes to whose inside has come out so: recovery makes a failure of a breakdown. -/
def Outcome.result : Outcome → Except CallError Unit
  | .finished x => x
  | .panicked _ => .error Stage.breakdownError

/-- The log entry of a call whose inside has come out so. -/
def Stage.outcomeEvent (c : Conversation) : Outcome → Event
  | .finished x => finishedEvent c x
  | .panicked words => recoveredEvent c words

namespace Stage

/-- The log entry of a call whose credentials are refused. -/
def rejectedEvent (c : Conversation) (e : AuthError) : Event :=
  ⟨.warn, "auth", "rejected call",
    [("method", c.context.method), ("kind", c.context.kind.label), ("reason", e.reason)]⟩

variable (metrics : Bool) (auth : Option AuthSettings)

/-- **The way out** through the standard stages: one entry is added to the log, and the call is
counted unless a breakdown has unwound the stages. -/
theorem leaveAll_standard (began : Nat) (outcome : Outcome) (s : Surroundings) (c : Conversation) :
    leaveAll began (standard metrics auth).reverse outcome s c = (.finished outcome.result,
      { s with
        events := s.events ++ [outcomeEvent c outcome]
        metrics :=
          if metrics && !outcome.isBreakdown then
            s.metrics.observe c.context.kind c.context.method outcome.result
              (1000 * (s.now - began))
          else s.metrics }, c) := by
  cases outcome with
  | finished x =>
    cases metrics with
    | _ =>
      cases auth with
      | _ => rfl
  | panicked words =>
    cases metrics with
    | _ =>
      cases auth with
      | _ => rfl

/-- **The way in** through the standard stages: everybody is let in, or authentication refuses. -/
theorem enterAll_standard_cases (s : Surroundings) (c : Conversation) :
    ∃ conversation s₁, c.Stays conversation ∧ s₁.metrics = s.metrics ∧
      ((s₁.events = s.events ∧ enterAll (standard metrics auth) [] s c =
          (.ok (), (standard metrics auth).reverse, s₁, conversation)) ∨
        ∃ settings e, auth = some settings ∧
          credentials settings s.unixTime c.context.headers = .error e ∧
          s₁.events = s.events ++ [rejectedEvent c e] ∧
          enterAll (standard metrics auth) [] s c =
            (.error e.toCallError, (standard metrics none).reverse, s₁, conversation)) := by
  have hstays := enterAll_stays (standard metrics auth) [] s c
  cases auth with
  | none =>
    cases metrics with
    | _ =>
      refine ⟨_, _, hstays, ?_, .inl ⟨?_, rfl⟩⟩
      · rfl
      · rfl
  | some settings =>
    cases hverdict : credentials settings s.unixTime c.context.headers with
    | ok claims =>
      cases metrics with
      | _ =>
        simp only [standard, enterAll, enter, hverdict, List.append_nil, List.cons_append,
          List.nil_append, List.reverse_cons, List.reverse_nil, Option.toList_some, List.map_cons,
          List.map_nil, Bool.false_eq_true, if_true, if_false] at hstays ⊢
        refine ⟨_, _, hstays, ?_, .inl ⟨?_, rfl⟩⟩
        · rfl
        · rfl
    | error e =>
      cases metrics with
      | _ =>
        simp only [standard, enterAll, enter, hverdict, List.append_nil, List.cons_append,
          List.nil_append, List.reverse_cons, List.reverse_nil, Option.toList_some, List.map_cons,
          List.map_nil, Bool.false_eq_true, if_true, if_false] at hstays ⊢
        refine ⟨_, _, hstays, ?_, .inr ⟨settings, e, rfl, hverdict, ?_, rfl⟩⟩
        · rfl
        · rfl

end Stage

namespace Call

variable {c : Call} {metrics : Bool} {auth : Option AuthSettings}

theorem finish_standard (hentered : c.entered = (Stage.standard metrics auth).reverse)
    (outcome : Outcome) (s : Surroundings) :
    c.finish outcome s = (c.conclude (.finished outcome.result),
      { s with
        events := s.events ++ [Stage.outcomeEvent c.conversation outcome]
        metrics :=
          if metrics && !outcome.isBreakdown then
            s.metrics.observe c.conversation.context.kind c.conversation.context.method
              outcome.result (1000 * (s.now - c.began))
          else s.metrics
        spans := s.spans ++ c.conversation.spans }) := by
  have hleave := Stage.leaveAll_standard metrics auth c.began outcome s c.conversation
  rw [← hentered] at hleave
  unfold finish
  rw [hleave]
  rfl

/-- **The way in**: the handler is reached, or the call is refused, and then authentication is the
one stage that it has not been let into. -/
theorem begin_standard (hstages : c.stages = Stage.standard metrics auth) (s : Surroundings) :
    ∃ conversation s₁, c.conversation.Stays conversation ∧ s₁.metrics = s.metrics ∧
      ((s₁.events = s.events ∧ c.begin s = ({ c with
          entered := (Stage.standard metrics auth).reverse, conversation, began := s₁.now
          progress := .handling c.handler none }, s₁)) ∨
        ∃ settings e, auth = some settings ∧ Stage.credentials settings s.unixTime
            c.conversation.context.headers = .error e ∧
          s₁.events = s.events ++ [Stage.rejectedEvent c.conversation e] ∧
          c.begin s = { c with
            entered := (Stage.standard metrics none).reverse, conversation
            began := s₁.now }.finishWith (.error e.toCallError) s₁) := by
  obtain ⟨conversation, s₁, hstays, hmetrics, ⟨hevents, henter⟩ |
    ⟨settings, e, hauth, hverdict, hevents, henter⟩⟩ :=
    Stage.enterAll_standard_cases metrics auth s c.conversation
  · refine ⟨conversation, s₁, hstays, hmetrics, .inl ⟨hevents, ?_⟩⟩
    simp only [begin, hstages, henter]
  · refine ⟨conversation, s₁, hstays, hmetrics,
      .inr ⟨settings, e, hauth, hverdict, hevents, ?_⟩⟩
    simp only [begin, hstages, henter]

end Call

end RelationGate
