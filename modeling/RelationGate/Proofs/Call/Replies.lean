import RelationGate.Proofs.Call.Effects
import RelationGate.Proofs.Call.Handling
import RelationGate.Proofs.Call.Orphans

/-!
# What a reply tells

As long as a call is at work its reply holds messages only (`Outbound.Spoken`), so at its end it
tells the outcome of the call (`Scene.Tells`): a unary call by the way back alone, a streamed reply
with a failure only once it has taken it.

* `Scene.tells_of_conclude`, `Scene.tells_of_report`: the end of the way back, and the report.
* `Scene.answers_of_conclude`: the same for a handler that may end well without having sent
  anything.
* `Scene.OwnStep.task_or_beside`: a step of a call is one of its task, or its handler is given up,
  or somebody acts beside its task, who changes nothing of what a reply tells (`Scene.Beside`).
* `Scene.Step.firstMessage`: nothing changes the first message that could be decoded.
-/

namespace RelationGate

open Json

/-! ## Replies -/

/-- What has been said on a reply before its end: one that is kept holds a message once one has been
sent, and one that is passed on holds no failure, as long as the client is there. -/
def Outbound.Spoken (received : List Frame) (sent : Bool) : Outbound → Prop
  | .buffer kept => sent = true → kept ≠ []
  | .channel frames => frames.receiverGone = false →
    ∃ items : List Json, received ++ frames.queue = items.map .ok

/-- **What a reply tells of the outcome.** A unary call replies with its outcome. A streamed reply
ends with the failure of the call if there is one, as long as the client is there. -/
def Scene.Tells (sc : Scene) (x : Except CallError Unit) : Prop :=
  match sc.call.conversation.outbound with
  | .buffer _ => sc.call.reply.map (fun _ => ()) = x
  | .channel frames => frames.receiverGone = false →
    ∃ items : List Json, sc.received ++ frames.queue = items.map .ok ++
      match x with
      | .ok () => []
      | .error e => [.error e]

namespace Outbound

variable {o o' : Outbound} {received : List Frame} {sent : Bool} {frames frames' : Channel Frame}
  {frame : Frame}

theorem Spoken.speaks (h : o.Spoken received sent) (hspeaks : o.Speaks o') :
    o'.Spoken received sent := by
  cases hspeaks with
  | silent => exact h
  | kept sent message => exact fun _ => List.append_ne_nil_of_right_ne_nil _ (List.cons_ne_nil _ _)
  | passed frames message hpresent hroom =>
    intro _
    obtain ⟨items, hitems⟩ := h hpresent
    refine ⟨items ++ [message], ?_⟩
    rw [← List.append_assoc, hitems, List.map_append]
    rfl

theorem Spoken.weaken (h : o.Spoken received sent) : o.Spoken received false := by
  cases o with
  | buffer kept => exact nofun
  | channel frames => exact h

/-- The client reads a frame. -/
theorem Spoken.read (h : (Outbound.channel frames).Spoken received sent)
    (hr : frames.receive = .got frame frames') :
    (Outbound.channel frames').Spoken (received ++ [frame]) sent := by
  obtain ⟨rest, hqueue, rfl⟩ := Channel.receive_eq_got hr
  intro hpresent
  obtain ⟨items, hitems⟩ := h hpresent
  exact ⟨items, by rw [← hitems, hqueue, List.append_assoc, List.singleton_append]⟩

end Outbound

namespace Scene

variable {sc sc' : Scene} {x : Except CallError Unit} {sent : Bool}

/-- What a reply tells at the end of a call that has no failure left to report. -/
theorem tells_of_closed {conversation : Conversation}
    (hresult : sc.call.result = some (.finished x))
    (hclosed : sc.call.conversation = Call.closeFrames conversation)
    (hspoken : conversation.outbound.Spoken sc.received sent)
    (hsent : ∀ kept, conversation.outbound = .buffer kept → x = .ok () → sent = true)
    (hother : ∀ frames, conversation.outbound = .channel frames → x = .ok ()) : sc.Tells x := by
  cases houtbound : conversation.outbound with
  | buffer kept =>
    have hkept : sc.call.conversation.outbound = .buffer kept := by
      simp only [hclosed, Call.closeFrames, houtbound]
    simp only [Scene.Tells, hkept]
    rw [Call.reply_of_result hresult, Call.sent_of_outbound hkept]
    cases x with
    | error e => rfl
    | ok u =>
      rw [houtbound] at hspoken
      cases hkept' : kept with
      | nil => exact (hspoken (hsent kept houtbound rfl) hkept').elim
      | cons message rest => rfl
  | channel frames =>
    have hframes : sc.call.conversation.outbound = .channel frames.closeSender := by
      simp only [hclosed, Call.closeFrames, houtbound]
    rw [hother frames houtbound]
    simp only [Scene.Tells, hframes]
    rw [houtbound] at hspoken
    intro hpresent
    obtain ⟨items, hitems⟩ := hspoken hpresent
    exact ⟨items, by rw [List.append_nil]; exact hitems⟩

/-- **The end of the way back**: the failure of the call has yet to be reported, or its reply tells
its outcome. -/
theorem tells_of_conclude {c : Call} (hguarded : c.guarded = true)
    (hcall : sc.call = c.conclude (.finished x))
    (hspoken : c.conversation.outbound.Spoken sc.received sent)
    (hsent : ∀ kept, c.conversation.outbound = .buffer kept → x = .ok () → sent = true) :
    sc.call.result = some (.finished x) ∧
      ((∃ e, x = .error e ∧ sc.call.progress = .reporting e ∧
          sc.call.conversation.outbound.Spoken sc.received false) ∨
        sc.call.progress = .ended ∧ sc.Tells x) := by
  obtain ⟨e, frames, hfailed, houtbound, hc⟩ | ⟨hother, hc⟩ :=
    Call.conclude_cases hguarded (.finished x)
  · rw [hc] at hcall
    refine ⟨by rw [hcall]; rfl, .inl ⟨e, Outcome.finished.inj hfailed, by rw [hcall]; rfl, ?_⟩⟩
    rw [hcall]
    exact hspoken.weaken
  · rw [hc] at hcall
    have hresult : sc.call.result = some (.finished x) := by rw [hcall]; rfl
    have hclosed : sc.call.conversation = Call.closeFrames c.conversation.cancel := by
      rw [hcall]; rfl
    refine ⟨hresult, .inr ⟨by rw [hcall]; rfl, ?_⟩⟩
    refine tells_of_closed hresult hclosed hspoken hsent fun frames hframes => ?_
    cases x with
    | ok u => rfl
    | error e => exact (hother e frames rfl hframes).elim

/-- What a reply tells once it has taken the failure of the call, or nobody is left to take it. -/
theorem tells_of_report {e : CallError} (hresult : sc.call.result = some (.finished (.error e)))
    (hspoken : sc.call.conversation.outbound.Spoken sc.received sent)
    (hm : sc.call.report e = some sc'.call) (hreceived : sc'.received = sc.received) :
    sc'.Tells (.error e) := by
  have hmove := Call.report_move hm
  generalize hc : sc'.call = c' at hmove
  cases hmove with
  | kept houtbound =>
    have hresult' : sc'.call.result = some (.finished (.error e)) := by rw [hc, hresult]
    simp only [Tells, hc, houtbound]
    exact congrArg (Except.map fun _ => ()) (hc ▸ Call.reply_of_result hresult')
  | told houtbound hpresent hroom =>
    simp only [Tells, hc, hreceived]
    rw [houtbound] at hspoken
    intro _
    obtain ⟨items, hitems⟩ := hspoken hpresent
    exact ⟨items, by rw [← List.append_assoc, hitems]⟩
  | left houtbound hleft =>
    simp only [Tells, hc, houtbound]
    intro hpresent
    rw [hleft] at hpresent
    cases hpresent

end Scene

/-! ## Beside the task -/

/-- Somebody beside the task has acted: the producer, its stream, whoever cancels, or the client. -/
structure Scene.Beside (sc sc' : Scene) : Prop where
  call : ∃ conversation lookup, sc'.call = { sc.call with conversation, lookup }
  context : ∀ canceled, { sc'.call.conversation.context with canceled } =
    { sc.call.conversation.context with canceled }
  inbound : sc'.call.conversation.inbound = sc.call.conversation.inbound
  firstMessage : sc'.call.conversation.firstMessage = sc.call.conversation.firstMessage
  events : sc'.shared.events = sc.shared.events
  metrics : sc'.shared.metrics = sc.shared.metrics
  kept : ∀ sent, sc.call.conversation.outbound = .buffer sent →
    sc'.call.conversation.outbound = .buffer sent
  streamed : ∀ frames, sc.call.conversation.outbound = .channel frames →
    ∃ frames', sc'.call.conversation.outbound = .channel frames'
  spoken : ∀ sent, sc.call.conversation.outbound.Spoken sc.received sent →
    sc'.call.conversation.outbound.Spoken sc'.received sent
  tells : ∀ x, sc.Tells x → sc'.Tells x

namespace Scene

variable {sc sc' : Scene} {frames frames' : Channel Frame} {frame : Frame}

/-- The producer or its stream has moved. -/
theorem beside_withLookup (l : Lookup) (b : Backend) (opened : Option Store)
    (fault : Option String) : sc.Beside { sc.withLookup l with
      shared := { sc.shared with backend := b }, opened, fault } :=
  ⟨⟨_, _, rfl⟩, fun _ => rfl, rfl, rfl, rfl, rfl, fun _ h => h,
    fun frames h => ⟨frames, h⟩, fun _ h => h, fun _ h => h⟩

theorem beside_read (hframes : sc.call.conversation.outbound = .channel frames)
    (hr : frames.receive = .got frame frames') : sc.Beside { sc with
      call := sc.call.withFrames frames', received := sc.received ++ [frame] } := by
  refine ⟨⟨_, _, rfl⟩, fun _ => rfl, rfl, rfl, rfl, rfl, fun sent h => ?_,
    fun _ _ => ⟨frames', rfl⟩, fun sent h => ?_, fun x h => ?_⟩
  · rw [hframes] at h
    cases h
  · rw [hframes] at h
    exact h.read hr
  · obtain ⟨rest, hqueue, rfl⟩ := Channel.receive_eq_got hr
    simp only [Tells, hframes] at h
    intro hpresent
    obtain ⟨items, hitems⟩ := h hpresent
    refine ⟨items, ?_⟩
    rw [← hitems, hqueue]
    simp

theorem beside_leave (hframes : sc.call.conversation.outbound = .channel frames) :
    sc.Beside { sc with
      call := sc.call.withFrames frames.closeReceiver, undisturbed := false } := by
  refine ⟨⟨_, _, rfl⟩, fun _ => rfl, rfl, rfl, rfl, rfl, fun sent h => ?_, fun _ _ => ⟨_, rfl⟩,
    fun sent _ => ?_, fun x _ => ?_⟩
  · rw [hframes] at h
    cases h
  · intro hpresent
    cases hpresent
  · intro hpresent
    cases hpresent

/-- **A step of a call** is one of its task, or its handler is given up, or somebody acts beside its
task. -/
theorem OwnStep.task_or_beside (hs : OwnStep sc sc') :
    (∃ c s fault, sc.call.taskMove sc.shared = some (c, s) ∧
        sc' = { sc with call := c, shared := s, fault }) ∨
      (∃ c s, sc.call.expire sc.shared = some (c, s) ∧
        sc' = { sc with call := c, shared := s, undisturbed := false }) ∨
      sc.Beside sc' := by
  cases hs with
  | task hm => exact .inl ⟨_, _, _, hm, rfl⟩
  | expire hm => exact .inr (.inl ⟨_, _, hm, rfl⟩)
  | produce hl hm => exact .inr (.inr (beside_withLookup _ _ _ _))
  | stream noticed hl hnoticed hm =>
    exact .inr (.inr (beside_withLookup _ sc.shared.backend sc.opened sc.fault))
  | breakdown words hl hm => exact .inr (.inr (beside_withLookup _ sc.shared.backend sc.opened _))
  | cancel =>
    exact .inr (.inr ⟨⟨_, _, rfl⟩, fun _ => rfl, rfl, rfl, rfl, rfl, fun _ h => h,
      fun frames h => ⟨frames, h⟩, fun _ h => h, fun _ h => h⟩)
  | read hframes hpresent hr => exact .inr (.inr (beside_read hframes hr))
  | readEnd hframes hpresent hr =>
    exact .inr (.inr ⟨⟨_, _, rfl⟩, fun _ => rfl, rfl, rfl, rfl, rfl, fun _ h => h,
      fun frames h => ⟨frames, h⟩, fun _ h => h, fun _ h => h⟩)
  | leave hframes => exact .inr (.inr (beside_leave hframes))

/-- **The first message that could be decoded is kept**, whatever anybody does after it. -/
theorem Step.firstMessage {text : String} (hs : Step sc sc')
    (hfirst : sc.call.conversation.firstMessage = some text) :
    sc'.call.conversation.firstMessage = some text := by
  cases hs with
  | task hm => exact Call.taskMove_firstMessage hm hfirst
  | deadline htimeout hhandling hlate => exact (Call.finish_firstMessage _ _ _).trans hfirst
  | _ => exact hfirst

end Scene

/-! ## Replies of any handler -/

/-- What a reply tells of the outcome, also that of a unary call that has ended well without a
message. -/
def Scene.Answers (sc : Scene) (x : Except CallError Unit) : Prop :=
  sc.Tells x ∨ x = .ok () ∧ sc.call.conversation.outbound = .buffer [] ∧
    sc.call.reply = .error (.internal "no_response" "handler sent no response")

/-- Nobody beside the task changes what a reply tells. -/
theorem Scene.Answers.beside {sc sc' : Scene} {x : Except CallError Unit} (h : sc.Answers x)
    (hbeside : sc.Beside sc') (hresult : sc.call.result = some (.finished x)) :
    sc'.Answers x := by
  obtain htells | ⟨hok, hempty, hreply⟩ := h
  · exact .inl (hbeside.tells x htells)
  · obtain ⟨conversation, lookup, hcall⟩ := hbeside.call
    have hempty' := hbeside.kept [] hempty
    have hresult' : sc'.call.result = some (.finished x) := by rw [hcall, hresult]
    refine .inr ⟨hok, hempty', ?_⟩
    rw [← hreply, Call.reply_of_result hresult', Call.reply_of_result hresult,
      Call.sent_of_outbound hempty', Call.sent_of_outbound hempty]

/-- The end of the way back, for any handler. -/
theorem Scene.answers_of_conclude {sc : Scene} {c : Call} {x : Except CallError Unit}
    (hguarded : c.guarded = true) (hcall : sc.call = c.conclude (.finished x))
    (hspoken : c.conversation.outbound.Spoken sc.received false) :
    sc.call.result = some (.finished x) ∧
      ((∃ e, x = .error e ∧ sc.call.progress = .reporting e ∧
          sc.call.conversation.outbound.Spoken sc.received false) ∨
        sc.call.progress = .ended ∧ sc.Answers x) := by
  cases houtbound : c.conversation.outbound with
  | channel frames =>
    obtain ⟨hresult, hend⟩ := tells_of_conclude hguarded hcall hspoken fun kept hkept _ => by
      rw [houtbound] at hkept
      cases hkept
    exact ⟨hresult, hend.imp_right fun ⟨hprogress, htells⟩ => ⟨hprogress, .inl htells⟩⟩
  | buffer kept =>
    cases kept with
    | cons message rest =>
      have hspoken : c.conversation.outbound.Spoken sc.received true := by
        rw [houtbound]
        exact fun _ => List.cons_ne_nil _ _
      obtain ⟨hresult, hend⟩ := tells_of_conclude hguarded hcall hspoken fun _ _ _ => rfl
      exact ⟨hresult, hend.imp_right fun ⟨hprogress, htells⟩ => ⟨hprogress, .inl htells⟩⟩
    | nil =>
      -- Nothing has been sent, and a reply cannot be told from that.
      obtain ⟨e, frames, -, hframes, -⟩ | ⟨-, hc⟩ := Call.conclude_cases hguarded (.finished x)
      · rw [houtbound] at hframes
        cases hframes
      · rw [hc] at hcall
        have hresult : sc.call.result = some (.finished x) := by rw [hcall]; rfl
        have hempty : sc.call.conversation.outbound = .buffer [] := by
          rw [hcall]
          simp only [Call.resting, Call.closeFrames, Conversation.cancel, houtbound]
        have hreply := Call.reply_of_result hresult
        rw [Call.sent_of_outbound hempty] at hreply
        refine ⟨hresult, .inr ⟨by rw [hcall]; rfl, ?_⟩⟩
        cases x with
        | ok u => exact .inr ⟨rfl, hempty, hreply⟩
        | error e =>
          refine .inl ?_
          simp only [Tells, hempty, hreply]
          rfl

/-! ## Calls of a route -/

/-- A call of a route of the gateway. -/
structure Route.Makes (route : Route) (c : Call) : Prop where
  guarded : c.guarded = true
  kind : c.conversation.context.kind = route.kind
  method : c.conversation.context.method = route.method
  streamed : route.kind = .serverStreaming → ∃ frames, c.conversation.outbound = .channel frames

namespace Route.Makes

variable {route : Route} {c c' : Call}

theorem goesOn (h : route.Makes c) (hguarded : c'.guarded = c.guarded)
    (hgoes : c.conversation.GoesOn c'.conversation) : route.Makes c' where
  guarded := hguarded.trans h.guarded
  kind := hgoes.kind.trans h.kind
  method := hgoes.method.trans h.method
  streamed hkind := by
    obtain ⟨frames, hframes⟩ := h.streamed hkind
    have hspeaks := hgoes.speaks
    rw [hframes] at hspeaks
    generalize c'.conversation.outbound = o at hspeaks
    cases hspeaks with
    | silent => exact ⟨frames, rfl⟩
    | passed _ message hpresent hroom => exact ⟨_, rfl⟩

theorem conclude (h : route.Makes c) (outcome : Outcome) : route.Makes (c.conclude outcome) := by
  obtain ⟨e, frames, -, -, hc⟩ | ⟨-, hc⟩ := Call.conclude_cases h.guarded outcome
  · rw [hc]
    exact h.goesOn rfl c.conversation.stays_cancel.goesOn
  · have hcontext := Call.closeFrames_context c.conversation.cancel
    rw [hc]
    refine ⟨h.guarded, ?_, ?_, fun hkind => ?_⟩
    · exact (congrArg CallContext.kind hcontext).trans h.kind
    · exact (congrArg CallContext.method hcontext).trans h.method
    · obtain ⟨frames, hframes⟩ := h.streamed hkind
      have hout : c.conversation.cancel.outbound = .channel frames := hframes
      refine ⟨frames.closeSender, ?_⟩
      simp only [Call.resting, Call.closeFrames, hout]

theorem report (h : route.Makes c) {e : CallError} (hm : c.report e = some c') :
    route.Makes c' := by
  cases Call.report_move hm with
  | kept | left => exact ⟨h.guarded, h.kind, h.method, h.streamed⟩
  | told => exact ⟨h.guarded, h.kind, h.method, fun _ => ⟨_, rfl⟩⟩

theorem beside {sc sc' : Scene} (h : route.Makes sc.call) (hbeside : sc.Beside sc') :
    route.Makes sc'.call := by
  obtain ⟨conversation, lookup, hcall⟩ := hbeside.call
  refine ⟨?_, ?_, ?_, fun hkind => ?_⟩
  · rw [hcall]
    exact h.guarded
  · exact (congrArg CallContext.kind (hbeside.context true)).trans h.kind
  · exact (congrArg CallContext.method (hbeside.context true)).trans h.method
  · obtain ⟨frames, hframes⟩ := h.streamed hkind
    exact hbeside.streamed frames hframes

end Route.Makes

end RelationGate
