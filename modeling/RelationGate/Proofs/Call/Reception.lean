import Mathlib.Data.List.Induction
import RelationGate.Proofs.Call.Handling

/-!
# What a handler receives

The messages of a call come through streams, one around the other: the innermost decodes the next
message, the next keeps the rendering of the first that could be decoded, and every stage that
checks messages puts one more around those (`Conversation.behind`). A `Reception` is a call whose
handler receives as often as it likes, each time in a form of its choice. Everybody else may do what
they like, but nobody else receives; a run of the gateway is one of its runs
(`Scene.Reachable.reception`).

* `Conversation.request_behind`: behind any stages of which one checks messages, a message comes out
  as `Conversation.receiveAs` has it, however often it is checked on the way.
* `Call.Unread`: a move that receives nothing takes no message, and changes nothing of what is kept.
* `Reception.messages_received_in_turn`: the messages are received one after the other, each of them
  is checked, and what is kept is the rendering of the first that could be decoded. A call of a
  gateway is one to which this applies (`Scene.Reachable.inTurn`).
-/

namespace RelationGate

/-! ## Streams one around the other -/

namespace MessageForm

variable {α : Type} (form : MessageForm α)

/-- The check of a value lets it pass, if it can be checked. -/
def Accepts (a : α) : Prop := ∀ verdict, form.validate? a = some verdict → verdict = .ok ()

/-- The rendering of the value that a message holds, if it holds one. -/
def rendering? (message : Json) : Option String :=
  match form.decode message with
  | .ok a => some (form.rendering a)
  | .error _ => none

/-- What comes through a stage that checks messages. -/
def screen : Except CallError (Option α) → Except CallError (Option α)
  | .ok (some a) =>
    match form.validate? a with
    | some (.error e) => .error (.badRequest e.text)
    | _ => .ok (some a)
  | outcome => outcome

/-- A second check finds nothing that the first has let pass. -/
theorem screen_screen (outcome : Except CallError (Option α)) :
    form.screen (form.screen outcome) = form.screen outcome := by
  rcases outcome with e | _ | a
  · rfl
  · rfl
  · rcases hcheck : form.validate? a with _ | e | u <;> simp [screen, hcheck]

end MessageForm

theorem Inbox.receive_checking {α : Type} (form : MessageForm α) (i : Inbox) :
    (Inbox.checking i).receive form =
      (form.screen (i.receive form).1, .checking (i.receive form).2) := by
  rw [Inbox.receive]
  rcases i.receive form with ⟨e | _ | a, i'⟩
  · rfl
  · rfl
  · rcases hcheck : form.validate? a with _ | e | u <;> simp [MessageForm.screen, hcheck]

/-- What a stage makes of the messages that come through it. -/
def Stage.checks : Stage → Bool
  | validation => true
  | _ => false

/-- The stream that a stage hands on, around the one that it has got. -/
def Stage.around (stage : Stage) (i : Inbox) : Inbox := if stage.checks then .checking i else i

namespace Conversation

variable {α : Type} {c c' c'' : Conversation}

/-- The stream behind stages, of which the outermost comes first. -/
def behind (c : Conversation) (passed : List Stage) : Inbox :=
  passed.foldl (fun i stage => stage.around i) c.kept

theorem behind_concat (c : Conversation) (passed : List Stage) (stage : Stage) :
    c.behind (passed ++ [stage]) = stage.around (c.behind passed) := by
  simp only [behind, List.foldl_concat]

/-- **Every stage sees the same** of the first message. -/
theorem firstMessage_behind (c : Conversation) (passed : List Stage) :
    (c.behind passed).firstMessage = c.firstMessage := by
  induction passed using List.reverseRecOn with
  | nil => rfl
  | append_singleton passed stage ih =>
    rw [behind_concat, Stage.around]
    split
    · exact ih
    · exact ih

theorem receive_kept (c : Conversation) (form : MessageForm α) :
    (c.kept.receive form).2 = (c.receiveAs form).2.kept := by
  rw [receiveAs_eq, kept, Inbox.receive]
  cases hinbound : c.inbound with
  | nil => simp [Inbox.receive, kept, hinbound]
  | cons message inbound =>
    cases hdecode : form.decode message with
    | error e => simp [Inbox.receive, kept, Except.map, hdecode]
    | ok a => simp [Inbox.receive, kept, Except.map, hdecode]

theorem receive_behind (c : Conversation) (form : MessageForm α) (passed : List Stage) :
    (c.behind passed).receive form =
      (if passed.any Stage.checks then form.screen (c.kept.receive form).1
        else (c.kept.receive form).1,
      (c.receiveAs form).2.behind passed) := by
  induction passed using List.reverseRecOn with
  | nil => exact Prod.ext rfl (c.receive_kept form)
  | append_singleton passed stage ih =>
    rw [behind_concat, behind_concat, Stage.around, Stage.around, List.any_append]
    cases hchecks : stage.checks with
    | false => simp [ih, hchecks]
    | true =>
      -- what one more check does depends on whether there was one before
      cases hany : passed.any Stage.checks with
      | false => simp [ih, hchecks, hany, Inbox.receive_checking]
      | true => simp [ih, hchecks, hany, Inbox.receive_checking, MessageForm.screen_screen]

/-- **The stream of the handler** is the one behind all stages, if one of them checks messages. -/
theorem request_behind {stages : List Stage} (hstages : .validation ∈ stages)
    (hvalidating : c.validating = true) (form : MessageForm α) :
    (c.behind stages).request form =
      ((c.receiveAs form).1, (c.receiveAs form).2.behind stages) := by
  have hany : stages.any Stage.checks = true := List.any_eq_true.2 ⟨_, hstages, rfl⟩
  have hinbox : c.inbox.receive form = (form.screen (c.kept.receive form).1,
      .checking (c.kept.receive form).2) := by
    rw [inbox, if_pos hvalidating]
    exact Inbox.receive_checking form c.kept
  rw [Inbox.request, c.receive_behind form, if_pos hany, receiveAs, Inbox.request, hinbox]
  rcases form.screen (c.kept.receive form).1 with e | _ | a <;> rfl

end Conversation

/-! ## Moves that receive nothing -/

/-- The messages of a call that has passed its stages are checked, if one of the stages does so. -/
theorem Stage.enterAll_checks {stages : List Stage} {entered entered' : List Stage}
    {s s' : Surroundings} {c c' : Conversation}
    (henter : enterAll stages entered s c = (.ok (), entered', s', c'))
    (h : c.validating = true ∨ .validation ∈ stages) : c'.validating = true := by
  induction stages generalizing entered s c with
  | nil =>
    cases henter
    simpa using h
  | cons stage rest ih =>
    rw [enterAll] at henter
    split at henter
    next s₁ c₁ hstage =>
      refine ih henter ?_
      cases stage with
      | validation =>
        cases hstage
        exact .inl rfl
      | recovery | logging | metrics | tracing =>
        cases hstage
        simpa using h
      | auth settings =>
        simp only [enter] at hstage
        split at hstage
        · cases hstage
          simpa using h
        · cases hstage
      | checkpoint p =>
        simp only [enter] at hstage
        split at hstage
        · cases hstage
        · cases hstage
          simpa [Conversation.note] using h
    next => cases henter

theorem Conversation.send_unread {c c' : Conversation} {message : Json}
    {outcome : Except CallError Unit} (h : c.send message = .settled outcome c') :
    c'.inbound = c.inbound ∧ c'.firstMessage = c.firstMessage ∧ c'.validating = c.validating := by
  cases sends_of_send h with
  | _ => exact ⟨rfl, rfl, rfl⟩

namespace Call

variable {c c' c'' : Call} {s s' : Surroundings}

/-- Whatever the handler of a call receives is checked. -/
structure Checking (c : Call) : Prop where
  validation : .validation ∈ c.stages
  validating : c.isHandling = true → c.conversation.validating = true

/-- No message has been received in between. -/
structure Unread (c c' : Call) : Prop where
  inbound : c'.conversation.inbound = c.conversation.inbound
  firstMessage : c'.conversation.firstMessage = c.conversation.firstMessage
  checking : c.Checking → c'.Checking

namespace Unread

theorem trans (h : c.Unread c') (h' : c'.Unread c'') : c.Unread c'' where
  inbound := h'.inbound.trans h.inbound
  firstMessage := h'.firstMessage.trans h.firstMessage
  checking hchecking := h'.checking (h.checking hchecking)

/-- The handler is still at work. -/
theorem on {conversation : Conversation} {lookup : Option Lookup} {progress : Progress}
    (hhandling : c.isHandling = true)
    (h : conversation.inbound = c.conversation.inbound ∧
      conversation.firstMessage = c.conversation.firstMessage ∧
      conversation.validating = c.conversation.validating) :
    c.Unread { c with conversation, lookup, progress } where
  inbound := h.1
  firstMessage := h.2.1
  checking hchecking :=
    ⟨hchecking.validation, fun _ => h.2.2.trans (hchecking.validating hhandling)⟩

/-- The handler is not at work any more. -/
theorem ended (hinbound : c'.conversation.inbound = c.conversation.inbound)
    (hfirst : c'.conversation.firstMessage = c.conversation.firstMessage)
    (hafter : c'.stages = c.stages ∧ c'.isHandling = false) : c.Unread c' where
  inbound := hinbound
  firstMessage := hfirst
  checking hchecking :=
    ⟨hafter.1 ▸ hchecking.validation, fun hhandling => by cases hhandling.symm.trans hafter.2⟩

/-- The handler goes on with another program, beside the same conversation. -/
theorem stay (hhandling : c.isHandling = true) (lookup : Option Lookup) (progress : Progress) :
    c.Unread { c with lookup, progress } :=
  .on hhandling ⟨rfl, rfl, rfl⟩

end Unread

theorem closeFrames_inbound (conversation : Conversation) :
    (closeFrames conversation).inbound = conversation.inbound := by
  unfold closeFrames
  split
  · rfl
  · rfl

theorem conclude_frame (c : Call) (outcome : Outcome) :
    (c.conclude outcome).conversation.inbound = c.conversation.inbound ∧
      (c.conclude outcome).stages = c.stages ∧ (c.conclude outcome).isHandling = false := by
  unfold conclude
  split
  · exact ⟨rfl, rfl, rfl⟩
  · simp only
    split
    · exact ⟨rfl, rfl, rfl⟩
    · exact ⟨closeFrames_inbound _, rfl, rfl⟩

/-- A call that comes back through its stages has no handler at work. -/
theorem finish_over (c : Call) (outcome : Outcome) (s : Surroundings) :
    (c.finish outcome s).1.stages = c.stages ∧ (c.finish outcome s).1.isHandling = false := by
  rw [finish_eq]
  exact (conclude_frame _ _).2

/-- The way back leaves what there is to receive as it is. -/
theorem finish_inbound (c : Call) (outcome : Outcome) (s : Surroundings) :
    (c.finish outcome s).1.conversation.inbound = c.conversation.inbound := by
  have hstays := Stage.leaveAll_stays c.began c.entered outcome s c.conversation
  rw [finish_eq, ← hstays.inbound]
  exact (conclude_frame _ _).1

/-- **The way back** through the stages. -/
theorem finish_unread (c : Call) (outcome : Outcome) (s : Surroundings) :
    c.Unread (c.finish outcome s).1 :=
  .ended (c.finish_inbound outcome s) (c.finish_firstMessage outcome s) (c.finish_over outcome s)

/-- **The way in**: a handler is reached through the stage that checks messages. -/
theorem begin_unread (c : Call) (s : Surroundings) : c.Unread (c.begin s).1 := by
  have hstays := Stage.enterAll_stays c.stages [] s c.conversation
  unfold begin
  split
  next admission entered s₁ conversation henter =>
  rw [henter] at hstays
  cases admission with
  | ok u =>
    exact ⟨hstays.inbound, hstays.firstMessage, fun h =>
      ⟨h.validation, fun _ => Stage.enterAll_checks henter (.inr h.validation)⟩⟩
  | error e =>
    exact .ended ((finish_inbound _ _ _).trans hstays.inbound)
      ((finish_firstMessage _ _ _).trans hstays.firstMessage) (finish_over _ _ _)

/-- **A move of the handler** that receives nothing. -/
theorem handle_unread {p : Program} {due : Option Nat} (hp : c.progress = .handling p due)
    (hother : ∀ kind next, p ≠ .receive kind next) {r : Call × Surroundings}
    (hm : c.handle s p due = some r) : c.Unread r.1 := by
  have hhandling : c.isHandling = true := by rw [isHandling, hp]
  cases handle_move hm with
  | ends h => exact c.finish_unread _ _
  | heldUp | relays => exact .stay hhandling _ _
  | proceeds h =>
    cases h with
    | received => exact absurd rfl (hother _ _)
    | sent hsend => exact .on hhandling (Conversation.send_unread hsend)
    | canceled | noted => exact .on hhandling ⟨rfl, rfl, rfl⟩
    | _ => exact .stay hhandling _ _

/-- **A move of the relay.** -/
theorem relay_unread {inHand : Option Json} (hp : c.progress = .relaying inHand)
    {r : Call × Surroundings} (hm : c.relay s inHand = some r) : c.Unread r.1 := by
  have hhandling : c.isHandling = true := by rw [isHandling, hp]
  cases relay_move hm with
  | passed hsend => exact .on hhandling (Conversation.send_unread hsend)
  | stopped hsend =>
    exact (Unread.on hhandling (Conversation.send_unread hsend)).trans (finish_unread _ _ s)
  | idle hlookup => exact c.finish_unread _ s
  | took hlookup hx => exact .stay hhandling _ _
  | failed | ended => exact (Unread.stay hhandling _ _).trans (finish_unread _ _ s)

/-- **A report** of the failure of a call. -/
theorem report_unread {e : CallError} (hm : c.report e = some c') : c.Unread c' := by
  cases report_move hm with
  | _ => exact .ended rfl rfl ⟨rfl, rfl⟩

/-- **A move of the task** that receives nothing. -/
theorem taskMove_unread (hother : ∀ kind next due, c.progress ≠ .handling (.receive kind next) due)
    {r : Call × Surroundings} (hm : c.taskMove s = some r) : c.Unread r.1 := by
  unfold taskMove at hm
  cases hp : c.progress with
  | waiting =>
    rw [hp] at hm
    cases hm
    exact c.begin_unread s
  | handling p due =>
    rw [hp] at hm
    exact handle_unread hp (fun kind next heq => hother kind next due (heq ▸ hp)) hm
  | relaying inHand =>
    rw [hp] at hm
    exact relay_unread hp hm
  | reporting e =>
    rw [hp] at hm
    obtain ⟨c', hreport, rfl⟩ := Option.map_eq_some_iff.1 hm
    exact report_unread hreport
  | ended =>
    rw [hp] at hm
    cases hm

/-- **A handler that is given up.** -/
theorem giveUp_unread (c : Call) (ms : Nat) (s : Surroundings) : c.Unread (c.giveUp ms s).1 :=
  .ended (finish_inbound _ _ s) (finish_firstMessage _ _ s) (finish_over _ _ s)

end Call

/-! ## Receiving a message -/

/-- A form in which a message was asked for, and what came of it. -/
structure Receipt where
  {Value : Type}
  form : MessageForm Value
  outcome : Except CallError Value

/-- What came of it is right, if this is the message: a message comes through exactly if it holds a
value of the form and the check of the value, if it has one, lets it pass. -/
def Receipt.Answers (receipt : Receipt) : Option Json → Prop
  | none => receipt.outcome = .error (.badRequest "missing request message")
  | some message => ∀ a, receipt.outcome = .ok a ↔
      receipt.form.decode message = .ok a ∧ receipt.form.Accepts a

/-- The rendering of the first message that held a value of the form in which it was asked for,
whether its check let it pass or not. -/
def Receipt.firstDecoded (receipts : List Receipt) (inbound : List Json) : Option String :=
  receipts.zipIdx.findSome? fun (receipt, k) => inbound[k]?.bind receipt.form.rendering?

theorem Receipt.firstDecoded_concat (receipts : List Receipt) (receipt : Receipt)
    (inbound : List Json) :
    firstDecoded (receipts ++ [receipt]) inbound =
      (firstDecoded receipts inbound <|>
        inbound[receipts.length]?.bind receipt.form.rendering?) := by
  simp [firstDecoded, List.zipIdx_append, List.findSome?_append]

namespace Conversation

variable {α : Type} {c : Conversation}

theorem receiveAs_inbound (c : Conversation) (form : MessageForm α) :
    (c.receiveAs form).2.inbound = c.inbound.tail := by
  rw [receiveAs_eq]
  cases hinbound : c.inbound with
  | nil => exact hinbound
  | cons message inbound =>
    simp only
    split
    · rfl
    · rfl

/-- The first message is kept once it could be decoded. -/
theorem receiveAs_firstMessage (c : Conversation) (form : MessageForm α) :
    (c.receiveAs form).2.firstMessage =
      (c.firstMessage <|> c.inbound.head?.bind form.rendering?) := by
  rw [receiveAs_eq]
  cases c.inbound with
  | nil => simp
  | cons message inbound =>
    cases hdecode : form.decode message with
    | error e => simp [MessageForm.rendering?, hdecode]
    | ok a => simp [MessageForm.rendering?, hdecode]

/-- **What comes of asking for a message**, where messages are checked. -/
theorem receiveAs_answers (hvalidating : c.validating = true) (form : MessageForm α) :
    Receipt.Answers ⟨form, (c.receiveAs form).1⟩ c.inbound.head? := by
  rw [receiveAs_eq]
  cases c.inbound with
  | nil => rfl
  | cons message inbound =>
    intro a
    cases hdecode : form.decode message with
    | error e => simp [hdecode]
    | ok b =>
      have hpasses (h : form.Accepts b) : (Except.ok b : Except CallError α) = .ok a ↔
          (Except.ok b : Except CallError α) = .ok a ∧ form.Accepts a :=
        ⟨fun heq => ⟨heq, Except.ok.inj heq ▸ h⟩, And.left⟩
      simp only [hdecode, hvalidating, if_true]
      rcases hcheck : form.validate? b with _ | e | u
      · exact hpasses (by simp [MessageForm.Accepts, hcheck])
      · refine ⟨fun heq => (by cases heq), fun ⟨heq, haccepts⟩ => ?_⟩
        cases heq
        cases haccepts _ hcheck
      · exact hpasses (by simp [MessageForm.Accepts, hcheck])

end Conversation

/-! ## A handler that receives -/

/-- What comes of the next move of the task of a call, if it receives a message. -/
def Call.receipt? (c : Call) : Option Receipt :=
  match c.progress with
  | .handling (.receive kind _) _ => some ⟨kind.form, (c.conversation.receive kind).1⟩
  | _ => none

/-- A call, what it shares, and what its handler has received. -/
structure Reception where
  call : Call
  shared : Surroundings
  receipts : List Receipt := []

namespace Reception

variable {r r' r'' : Reception} {inbound : List Json}

/-- The handler has received a message in a form, and its call is at something. -/
def received {α : Type} (r : Reception) (form : MessageForm α) (progress : Progress) : Reception :=
  { r with
    call := { r.call with conversation := (r.call.conversation.receiveAs form).2, progress }
    receipts := r.receipts ++ [⟨form, (r.call.conversation.receiveAs form).1⟩] }

/-- An act of the call, or of somebody else. -/
inductive Step : Reception → Reception → Prop where
  /-- The task of the call moves. -/
  | task {r : Reception} {c : Call} {s : Surroundings}
      (hm : r.call.taskMove r.shared = some (c, s)) :
      Step r ⟨c, s, r.receipts ++ r.call.receipt?.toList⟩
  /-- The handler receives a message in a form of its own, and goes on as it likes. -/
  | own {r : Reception} {α : Type} (form : MessageForm α) (next : Except CallError α → Program)
      (hhandling : r.call.isHandling = true) :
      Step r (r.received form (.handling (next (r.call.conversation.receiveAs form).1) none))
  /-- The handler is given up. -/
  | deadline {r : Reception} (ms : Nat) :
      Step r { r with
        call := (r.call.giveUp ms r.shared).1, shared := (r.call.giveUp ms r.shared).2 }
  /-- Whatever becomes of the context of the call, its reply, its lookup and what it shares:
  somebody cancels, the client reads or leaves, the lookup or another call moves, time passes. -/
  | others {r : Reception} (context : CallContext) (outbound : Outbound) (lookup : Option Lookup)
      (shared : Surroundings) :
      Step r { r with
        call := { r.call with
          conversation := { r.call.conversation with context, outbound }, lookup }
        shared }

/-- What the acts can lead to. -/
inductive Reachable (start : Reception) : Reception → Prop where
  | refl : Reachable start start
  | tail {r r' : Reception} (h : Reachable start r) (hs : Step r r') : Reachable start r'

/-- What an act comes to: nothing is received, or the handler receives a message. -/
inductive Takes (r : Reception) : Reception → Prop where
  | unread {c : Call} (s : Surroundings) (h : r.call.Unread c) : Takes r ⟨c, s, r.receipts⟩
  | received {α : Type} (form : MessageForm α) (progress : Progress)
      (hhandling : r.call.isHandling = true) : Takes r (r.received form progress)

theorem Step.takes (hs : Step r r') : r.Takes r' := by
  cases hs with
  | @task c s hm =>
    by_cases hreceive : ∃ kind next due, r.call.progress = .handling (.receive kind next) due
    · obtain ⟨kind, next, due, hp⟩ := hreceive
      simp only [Call.taskMove, hp, Call.handle] at hm
      cases hm
      rw [Call.receipt?, hp]
      exact .received kind.form _ (by rw [Call.isHandling, hp])
    · have hnone : r.call.receipt? = none := by
        rw [Call.receipt?]
        split
        next kind next due hp => exact absurd ⟨kind, next, due, hp⟩ hreceive
        next => rfl
      rw [hnone, Option.toList_none, List.append_nil]
      exact .unread s (Call.taskMove_unread
        (fun kind next due hp => hreceive ⟨kind, next, due, hp⟩) hm)
  | own form next hhandling => exact .received form _ hhandling
  | deadline ms => exact .unread _ (r.call.giveUp_unread ms r.shared)
  | others context outbound lookup shared =>
    exact .unread shared ⟨rfl, rfl, fun h => ⟨h.validation, h.validating⟩⟩

/-- A rendering that is kept stays. -/
theorem Step.firstMessage (hs : Step r r') {text : String}
    (h : r.call.conversation.firstMessage = some text) :
    r'.call.conversation.firstMessage = some text := by
  cases hs.takes with
  | unread s hunread => exact hunread.firstMessage.trans h
  | received form progress hhandling =>
    rw [Reception.received, Conversation.receiveAs_firstMessage, h]
    rfl

theorem Reachable.firstMessage (hr : Reachable r r') {text : String}
    (h : r.call.conversation.firstMessage = some text) :
    r'.call.conversation.firstMessage = some text := by
  induction hr with
  | refl => exact h
  | tail _ hs ih => exact hs.firstMessage ih

/-! ## The messages in turn -/

/-- What is so of a call whose messages are checked, after some of them have been received. -/
structure Keeps (inbound : List Json) (r : Reception) : Prop where
  checking : r.call.Checking
  consumed : r.call.conversation.inbound = inbound.drop r.receipts.length
  captured : r.call.conversation.firstMessage = Receipt.firstDecoded r.receipts inbound
  answered : ∀ {k : Nat} {receipt : Receipt}, r.receipts[k]? = some receipt →
    receipt.Answers inbound[k]?

namespace Keeps

/-- **Nothing is received.** -/
theorem unread {c : Call} (h : r.Keeps inbound) (hunread : r.call.Unread c) (s : Surroundings) :
    Keeps inbound ⟨c, s, r.receipts⟩ where
  checking := hunread.checking h.checking
  consumed := hunread.inbound.trans h.consumed
  captured := hunread.firstMessage.trans h.captured
  answered := h.answered

/-- **A message is received.** -/
theorem received {α : Type} (h : r.Keeps inbound) (hhandling : r.call.isHandling = true)
    (form : MessageForm α) (progress : Progress) : (r.received form progress).Keeps inbound := by
  have hvalidating := h.checking.validating hhandling
  have hnext : r.call.conversation.inbound.head? = inbound[r.receipts.length]? := by
    rw [h.consumed, List.head?_drop]
  refine ⟨⟨h.checking.validation, fun _ => hvalidating⟩, ?_, ?_, fun {k receipt} hk => ?_⟩
  · rw [Reception.received, Conversation.receiveAs_inbound, h.consumed, List.tail_drop,
      List.length_append, List.length_singleton]
  · rw [Reception.received, Conversation.receiveAs_firstMessage, h.captured, hnext,
      Receipt.firstDecoded_concat]
  · have hanswers := Conversation.receiveAs_answers hvalidating form
    have hcases : r.receipts[k]? = some receipt ∨ k = r.receipts.length ∧
        receipt = ⟨form, (r.call.conversation.receiveAs form).1⟩ := by
      simp only [Reception.received] at hk
      grind
    obtain hk | ⟨rfl, rfl⟩ := hcases
    · exact h.answered hk
    · rwa [hnext] at hanswers

theorem step (h : r.Keeps inbound) (hs : Step r r') : r'.Keeps inbound := by
  cases hs.takes with
  | unread s hunread => exact h.unread hunread s
  | received form progress hhandling => exact h.received hhandling form progress

theorem of_reachable (h : r.Keeps inbound) (hr : Reachable r r') : r'.Keeps inbound := by
  induction hr with
  | refl => exact h
  | tail _ hs ih => exact ih.step hs

end Keeps

/-- **The messages are received in turn**, by a handler behind some stages. -/
structure InTurn (stages : List Stage) (inbound : List Json) (r : Reception) : Prop where
  /-- Every time that a message is asked for, the next one is used up. -/
  consumed : r.call.conversation.inbound = inbound.drop r.receipts.length
  /-- What is asked for at some time is the message of that number. It comes through exactly if it
  holds a value of the form in which it is asked for and the check of the value lets it pass. -/
  succeeds_iff {k : Nat} {receipt : Receipt} (hk : r.receipts[k]? = some receipt)
    (a : receipt.Value) : receipt.outcome = .ok a ↔ ∃ message, inbound[k]? = some message ∧
      receipt.form.decode message = .ok a ∧ receipt.form.Accepts a
  /-- Past the last message it is said that there is none. -/
  missing {k : Nat} {receipt : Receipt} (hk : r.receipts[k]? = some receipt)
    (hpast : inbound.length ≤ k) : receipt.outcome = .error (.badRequest "missing request message")
  /-- While the handler is at work, its stream, around which every stage may have put another, does
  what `Conversation.receiveAs` says. -/
  stream (hhandling : r.call.isHandling = true) {α : Type} (form : MessageForm α) :
    (r.call.conversation.behind stages).request form =
      ((r.call.conversation.receiveAs form).1, (r.call.conversation.receiveAs form).2.behind stages)
  /-- The stream of every stage, and that of the handler, has kept the rendering of the first
  message that could be decoded, and nothing before there was one. -/
  captured {passed : List Stage} (hpassed : passed <+: stages) :
    (r.call.conversation.behind passed).firstMessage = Receipt.firstDecoded r.receipts inbound
  /-- So it is when the call comes back to a stage. -/
  seen {inner outer : List Stage} {stage : Stage}
    (hentered : r.call.entered = inner ++ stage :: outer) (outcome : Outcome) (s : Surroundings) :
    (Stage.leaveAll r.call.began inner outcome s r.call.conversation).2.2.view.firstMessage =
      Receipt.firstDecoded r.receipts inbound
  /-- It never changes after. -/
  lasting {text : String} (hfirst : Receipt.firstDecoded r.receipts inbound = some text)
    {r' : Reception} (hr : Reachable r r') : Receipt.firstDecoded r'.receipts inbound = some text

theorem Keeps.inTurn {stages : List Stage} (hstages : .validation ∈ stages)
    (h : r.Keeps inbound) : r.InTurn stages inbound where
  consumed := h.consumed
  succeeds_iff {k receipt} hk a := by
    have hanswers := h.answered hk
    cases hmessage : inbound[k]? with
    | none =>
      rw [hmessage] at hanswers
      simp [show receipt.outcome = _ from hanswers]
    | some message =>
      rw [hmessage] at hanswers
      simpa using hanswers a
  missing {k receipt} hk hpast := by
    have hanswers := h.answered hk
    rwa [List.getElem?_eq_none hpast] at hanswers
  stream hhandling {α} form :=
    Conversation.request_behind hstages (h.checking.validating hhandling) form
  captured {passed} _ := (Conversation.firstMessage_behind _ passed).trans h.captured
  seen {inner outer stage} _ outcome s :=
    (Stage.leaveAll_stays r.call.began inner outcome s r.call.conversation).firstMessage.trans
      h.captured
  lasting {text} hfirst {r'} hr := by
    rw [← (h.of_reachable hr).captured]
    exact hr.firstMessage (h.captured.trans hfirst)

/-- A call that has yet to begin, with messages to receive and a stage that checks them. -/
structure Expects (inbound : List Json) (c : Call) : Prop where
  waiting : c.progress = .waiting
  inbound : c.conversation.inbound = inbound
  firstMessage : c.conversation.firstMessage = none
  validation : .validation ∈ c.stages

theorem Expects.keeps {c : Call} (h : Expects inbound c) (s : Surroundings) :
    Keeps inbound ⟨c, s, []⟩ where
  checking := ⟨h.validation, fun hhandling => by simp [Call.isHandling, h.waiting] at hhandling⟩
  consumed := h.inbound
  captured := h.firstMessage
  answered hk := by cases hk

/-- **Inbound messages are received once each and in turn, each of them is checked, and the first is
kept.** For all messages, all stages of which one checks messages, and all that a handler and
everybody else may do. -/
theorem messages_received_in_turn {c : Call} (hc : Expects inbound c) (s : Surroundings)
    (hr : Reachable ⟨c, s, []⟩ r) : r.InTurn c.stages inbound :=
  ((hc.keeps s).of_reachable hr).inTurn hc.validation

/-- A flag that has to be set, behind a stage that checks messages. Of the messages the first is no
probe, the second is a flag that is not set, and the third is one that is; a fourth is asked for in
vain. It is the second whose rendering is kept. -/
theorem messages_received_in_turn_flags :
    let flag : MessageForm Bool :=
      { read := fun | .bool b => .ok b | _ => .error "no flag"
        validate? := fun b => some (if b then .ok () else .error ⟨.invalidArgument, "not set"⟩)
        rendering := toString }
    let inbound : List Json := [.str "on", .bool false, .bool true]
    let c : Call :=
      { stages := [.recovery, .validation, .logging]
        handler := .receive .probe fun _ => .done (.ok ())
        conversation :=
          { context := { kind := .serverStreaming, method := "t/Flags" }
            inbound, outbound := .buffer [] } }
    let shared : Surroundings :=
      { unixTime := 0, backend := { mint := fun n => ⟨toString n⟩ }, traceIds := fun _ => "trace" }
    Expects inbound c ∧ ∃ r, Reachable ⟨c, shared, []⟩ r ∧ r.call.conversation.inbound = [] ∧
      (r.receipts.map fun receipt => receipt.outcome.isOk) = [false, false, true, false] ∧
      r.receipts[3]? = some ⟨flag, .error (.badRequest "missing request message")⟩ ∧
      ∀ passed, passed <+: c.stages →
        (r.call.conversation.behind passed).firstMessage = some "false" := by
  intro flag inbound c shared
  have hc : Expects inbound c := ⟨rfl, rfl, rfl, .tail _ (.head _)⟩
  have hr : Reachable ⟨c, shared, []⟩ _ :=
    ((((Reachable.refl.tail (.task rfl)).tail (.task rfl)).tail
      (.own flag (fun _ => .done (.ok ())) rfl)).tail
      (.own flag (fun _ => .done (.ok ())) rfl)).tail
      (.own flag (fun _ => .done (.ok ())) rfl)
  have h := messages_received_in_turn hc shared hr
  refine ⟨hc, _, hr, h.consumed, ?_, ?_, fun passed hpassed => h.captured hpassed⟩
  · rfl
  · rfl

end Reception

/-! ## Runs of the gateway -/

/-- What is done in a scene is an act of a call that receives messages, or of somebody else. -/
theorem Scene.Step.reception {sc sc' : Scene} (hs : Scene.Step sc sc') (receipts : List Receipt) :
    ∃ receipts',
      Reception.Step ⟨sc.call, sc.shared, receipts⟩ ⟨sc'.call, sc'.shared, receipts'⟩ := by
  have hothers (context : CallContext) (outbound : Outbound) (lookup : Option Lookup)
      (shared : Surroundings) := Reception.Step.others (r := ⟨sc.call, sc.shared, receipts⟩)
        context outbound lookup shared
  let c := sc.call.conversation
  cases hs with
  | task hm => exact ⟨_, .task hm⟩
  | deadline => exact ⟨_, .deadline _⟩
  | @produce l l' b hl hm =>
    exact ⟨_, hothers c.context c.outbound (some l') { sc.shared with backend := b }⟩
  | @stream l l' => exact ⟨_, hothers c.context c.outbound (some l') sc.shared⟩
  | @breakdown l l' => exact ⟨_, hothers c.context c.outbound (some l') sc.shared⟩
  | @others s h => exact ⟨_, hothers c.context c.outbound sc.call.lookup s⟩
  | cancel => exact ⟨_, hothers c.cancel.context c.outbound sc.call.lookup sc.shared⟩
  | @read frames frames' =>
    exact ⟨_, hothers c.context (.channel frames') sc.call.lookup sc.shared⟩
  | readEnd => exact ⟨_, hothers c.context c.outbound sc.call.lookup sc.shared⟩
  | @leave frames =>
    exact ⟨_, hothers c.context (.channel frames.closeReceiver) sc.call.lookup sc.shared⟩

/-- **A run of the gateway** is one of a call that receives messages. -/
theorem Scene.Reachable.reception {start sc : Scene} (hr : Scene.Reachable start sc) :
    ∃ receipts,
      Reception.Reachable ⟨start.call, start.shared, []⟩ ⟨sc.call, sc.shared, receipts⟩ := by
  induction hr with
  | refl => exact ⟨[], .refl⟩
  | tail _ hs ih =>
    obtain ⟨receipts, hr⟩ := ih
    obtain ⟨receipts', hstep⟩ := hs.reception receipts
    exact ⟨receipts', hr.tail hstep⟩

/-- A call that a gateway has just made expects the one message of its client. -/
theorem Reception.expects_start (g : Gateway) (hvalidation : .validation ∈ g.stages) (route : Route)
    (params : Json) (headers : Headers) (capacity : Nat) (shared : Surroundings) :
    Expects [params] (Scene.start g route params headers capacity shared).call := by
  unfold Scene.start
  cases route.kind with
  | _ => exact ⟨rfl, rfl, rfl, hvalidation⟩

/-- **In every run of a gateway** the message of a client is received in turn: once, and only if its
check lets it pass. -/
theorem Scene.Reachable.inTurn {g : Gateway} (hvalidation : .validation ∈ g.stages) {route : Route}
    {params : Json} {headers : Headers} {capacity : Nat} {shared : Surroundings} {sc : Scene}
    (hr : Scene.Reachable (.start g route params headers capacity shared) sc) :
    ∃ receipts, Reception.InTurn g.stages [params] ⟨sc.call, sc.shared, receipts⟩ := by
  obtain ⟨receipts, hr⟩ := hr.reception
  have hexpects :=
    Reception.expects_start g hvalidation route params headers capacity shared
  exact ⟨receipts, ((hexpects.keeps _).of_reachable hr).inTurn hvalidation⟩

end RelationGate
