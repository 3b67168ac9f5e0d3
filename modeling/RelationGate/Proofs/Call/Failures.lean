import RelationGate.Proofs.Call.Admission
import RelationGate.Proofs.Call.Failing

/-!
# Failures of the backend reach the client

A failure behind the items of a stream comes to the client through four hands: the stream of the
backend, the results of the lookup, the handler and the frames. Until the backend fails the call is
under way (`UnderWay`), and from then on it conveys the failure (`Conveying`): the items that came
before are on their way, or have arrived, and the failure is behind them. There is always something
left to do, and every step of the call leaves less of it (`Scene.work`), so in every schedule in
which nobody disturbs the call the client sees the end.

* `UnderWay.own`, `UnderWay.raises`: how a streaming call comes to convey a failure.
* `Conveying.own`, `Conveying.goesOn`, `Conveying.comesTo`: what becomes of it.
* `backend_failures_conveyed`: the reply to a call whose backend fails, of every method.
-/

namespace RelationGate

open Json

theorem StreamKind.activity_of_query? {k : StreamKind} {params : Json} {q : StreamQuery}
    (h : k.query? params = some q) : q.activity = k.request.context := by
  rw [StreamKind.query?] at h
  split at h
  · cases h
    cases k with
    | read => rfl
    | subjects => rfl
    | resources => rfl
  · cases h

/-- What has yet to be done after a failure, by everybody in the row. -/
def Scene.work (sc : Scene) : Nat :=
  sc.call.lookup.elim 0 Lookup.backlog +
    (match sc.call.progress with
      | .relaying (some _) => 5
      | .relaying none => 3
      | .reporting _ => 2
      | _ => 0) +
    match sc.call.conversation.outbound with
    | .channel frames => frames.queue.length
    | .buffer _ => 0

/-! ## Frames, and the lookup behind them -/

/-- A call that streams its reply to a client who is there. -/
structure Scene.Sending (sc : Scene) (frames : Channel Frame) (sent : List Frame) : Prop where
  streams : sc.call.Streams frames
  present : frames.receiverGone = false
  opened : frames.senderGone = false
  delivery : Delivery frames sc.received sc.sawEnd sent

/-- A call whose handler relays a lookup. It has sent the frames of the items that it has taken, up
to the one in hand. -/
structure Scene.Relays (sc : Scene) (frames : Channel Frame) (taken : List Item)
    (held : Option Item) (l : Lookup) : Prop
    extends sc.Sending frames (taken.map Item.frame) where
  calm : sc.canceled = false
  progress : sc.call.progress = .relaying (held.map Item.encode)
  lookup : sc.call.lookup = some l

namespace Scene

variable {sc sc' : Scene} {frames frames' : Channel Frame} {frame : Frame} {sent : List Frame}
  {taken : List Item} {held : Option Item} {l l' : Lookup} {c : Call} {s shared : Surroundings}
  {fault : Option String} {opened : Option Store}

namespace Sending

/-- The client reads a frame. -/
theorem read (h : sc.Sending frames sent) (hr : frames.receive = .got frame frames') :
    { sc with call := sc.call.withFrames frames', received := sc.received ++ [frame] }.Sending
      frames' sent := by
  have hdelivery := h.delivery.read hr
  obtain ⟨rest, -, rfl⟩ := Channel.receive_eq_got hr
  exact ⟨⟨h.streams.guarded, rfl, h.streams.plain⟩, h.present, h.opened, hdelivery⟩

/-- As long as the sender is there, the client does not see the end. -/
theorem not_ended (h : sc.Sending frames sent) : frames.receive ≠ .ended := fun hr => by
  obtain ⟨-, hgone⟩ := Channel.receive_eq_ended hr
  cases h.opened.symm.trans hgone

theorem not_sawEnd (h : sc.Sending frames sent) : sc.sawEnd = false := by
  by_contra hsaw
  cases h.opened.symm.trans (h.delivery.ended (by simpa using hsaw)).1

end Sending

/-- **The handler relays**: it passes on the item in hand, or takes the next one; or it returns,
because the results are at their end. -/
theorem Relays.task (h : sc.Relays frames taken held l) (fault : Option String)
    (hm : sc.call.taskMove sc.shared = some (c, s)) :
    (∃ item, held = some item ∧ { sc with call := c, shared := s, fault }.Relays
        { frames with queue := frames.queue ++ [item.frame] } (taken ++ [item]) none l) ∨
      held = none ∧ ∃ x results, l.results.sight? = some (x, results) ∧
        ((∃ item, x = .item item ∧
            { sc with call := c, shared := s, fault }.Relays frames taken (some item)
              { l with results }) ∨
          (∃ e, x = .failure e ∧ c = { { sc.call with
              lookup := some { l with results } }.leaving (.error (.ofBackend e)) with
                progress := .reporting (.ofBackend e) }) ∨
            x = .ended ∧ c = { ({ sc.call with
              lookup := some { l with results } }.leaving (.ok ())).withFrames
                frames.closeSender with progress := .ended }) := by
  have hcalm : sc.call.conversation.context.canceled = false := h.calm
  rw [Call.taskMove, h.progress] at hm
  cases held with
  | some item =>
    obtain ⟨-, -, rfl⟩ | ⟨words, hdisturbed, -⟩ := Call.relay_held h.streams hm
    · refine .inl ⟨item, rfl, ⟨⟨h.streams.guarded, rfl, h.streams.plain⟩, h.present, h.opened, ?_⟩,
        h.calm, rfl, h.lookup⟩
      rw [List.map_append]
      exact h.delivery.send h.opened h.present item.frame frames.senderGone
    · rw [hcalm, h.present] at hdisturbed
      simp at hdisturbed
  | none =>
    refine .inr ⟨rfl, ?_⟩
    obtain ⟨item, results, hx, rfl⟩ | ⟨results, hx, -, rfl⟩ | ⟨e, results, ⟨e', hx, rfl⟩ |
        ⟨hcanceled, -⟩, rfl⟩ := Call.relay_next h.streams h.lookup hm
    · exact ⟨_, results, hx, .inl ⟨item, rfl,
        ⟨{ h.streams with }, h.present, h.opened, h.delivery⟩, h.calm, rfl, rfl⟩⟩
    · exact ⟨_, results, hx, .inr (.inr ⟨rfl, rfl⟩)⟩
    · exact ⟨_, results, hx, .inr (.inl ⟨e', rfl, rfl⟩)⟩
    · cases hcalm.symm.trans hcanceled

theorem Relays.work (h : sc.Relays frames taken held l) :
    sc.work = l.backlog + held.elim 3 (fun _ => 5) + frames.queue.length := by
  rw [Scene.work, h.progress, h.lookup, h.streams.outbound]
  cases held with
  | some item => rfl
  | none => rfl

/-- The client reads while the handler relays. -/
theorem Relays.read (h : sc.Relays frames taken held l) (hr : frames.receive = .got frame frames') :
    { sc with call := sc.call.withFrames frames', received := sc.received ++ [frame] }.Relays
      frames' taken held l :=
  ⟨h.toSending.read hr, h.calm, h.progress, h.lookup⟩

/-- The lookup moves while the handler relays it. -/
theorem Relays.withLookup (h : sc.Relays frames taken held l) (l' : Lookup) :
    { sc.withLookup l' with shared, opened, fault }.Relays frames taken held l' :=
  ⟨⟨{ h.streams with }, h.present, h.opened, h.delivery⟩, h.calm, h.progress, rfl⟩

end Scene

/-! ## Before the backend fails -/

namespace Call

variable {c c' : Call} {s s' : Surroundings} {frames : Channel Frame}

/-- A call that has returned only reports. -/
theorem taskMove_of_hasReturned (h : c.Streams frames) (hreturned : c.hasReturned = true)
    (hm : c.taskMove s = some (c', s')) :
    (∃ frames', c'.Streams frames') ∧ c'.hasReturned = true ∧ c'.lookup = c.lookup := by
  cases hp : c.progress with
  | reporting e =>
    rw [taskMove, hp] at hm
    obtain ⟨c'', hreport, heq⟩ := Option.map_eq_some_iff.1 hm
    cases heq
    obtain ⟨-, rfl⟩ | ⟨-, rfl⟩ := report_cases h.outbound hreport
    · exact ⟨⟨_, h.guarded, rfl, h.plain⟩, rfl, rfl⟩
    · exact ⟨⟨_, h.guarded, h.outbound, h.plain⟩, rfl, rfl⟩
  | ended =>
    rw [taskMove, hp] at hm
    cases hm
  | _ =>
    rw [hasReturned, hp] at hreturned
    cases hreturned

end Call

/-- The programs of a handler that has not started its lookup: it waits for its request, or it has
its query, or it has failed. -/
inductive StreamKind.Handles (k : StreamKind) : Program → Prop where
  | asking : Handles k k.handler
  | starting (q : StreamQuery) (hactivity : q.activity = k.request.context) : Handles k (.relay q)
  | failed (e : CallError) : Handles k (.done (.error e))

/-- **A streaming call whose backend has not failed.** If it has returned, its backend is done. -/
inductive UnderWay (k : StreamKind) (sc : Scene) : Prop where
  | waiting {frames : Channel Frame} {rest : List Stage} (h : sc.Sending frames [])
      (hcalm : sc.canceled = false) (hlookup : sc.call.lookup = none)
      (hp : sc.call.progress = .waiting) (hstages : sc.call.stages = .recovery :: rest)
      (hplain : ∀ stage ∈ sc.call.stages, stage.IsPlain) (hhandler : sc.call.handler = k.handler)
  | handling {frames : Channel Frame} {p : Program} {due : Option Nat} (h : sc.Sending frames [])
      (hcalm : sc.canceled = false) (hlookup : sc.call.lookup = none)
      (hp : sc.call.progress = .handling p due) (hrecovery : .recovery ∈ sc.call.entered)
      (hprogram : k.Handles p)
  | relaying {frames : Channel Frame} {taken : List Item} {held : Option Item} {l : Lookup}
      (h : sc.Relays frames taken held l) (hactivity : l.query.activity = k.request.context)
      (hheeds : l.Heeds (taken ++ held.toList))
  | returned {frames : Channel Frame} (h : sc.call.Streams frames)
      (hreturned : sc.call.hasReturned = true)
      (hspent : ∀ l, sc.call.lookup = some l → l.isSpent = true)

/-- **A streaming call whose backend has failed** behind some items: they and the failure are on
their way to the client. -/
inductive Conveying (activity : String) (hits : List Item) (e : BackendError) (sc : Scene) :
    Prop where
  | relaying {frames : Channel Frame} {taken : List Item} {held : Option Item} {l : Lookup}
      (h : sc.Relays frames taken held l) (hactivity : l.query.activity = activity)
      (howes : l.Owes hits e (taken ++ held.toList))
  | reporting {frames : Channel Frame} (h : sc.Sending frames (hits.map Item.frame))
      (hp : sc.call.progress = .reporting (.ofBackend (e.within activity)))
      (hspent : ∀ l, sc.call.lookup = some l → l.isSpent = true)
  | closed {frames : Channel Frame} (houtbound : sc.call.conversation.outbound = .channel frames)
      (hpresent : frames.receiverGone = false) (hgone : frames.senderGone = true)
      (hdelivery : Delivery frames sc.received sc.sawEnd
        (hits.map Item.frame ++ [.error (.ofBackend (e.within activity))]))
      (hp : sc.call.progress = .ended)
      (hspent : ∀ l, sc.call.lookup = some l → l.isSpent = true)

namespace UnderWay

variable {k : StreamKind} {sc sc' : Scene} {c : Call} {s : Surroundings} {fault : Option String}

/-- A move of the task before there is a lookup. -/
theorem task_of_handling {frames : Channel Frame} {p : Program} {due : Option Nat}
    (h : sc.Sending frames []) (hcalm : sc.canceled = false) (hlookup : sc.call.lookup = none)
    (hp : sc.call.progress = .handling p due) (hrecovery : .recovery ∈ sc.call.entered)
    (hprogram : k.Handles p)
    (hm : sc.call.taskMove sc.shared = some (c, s)) :
    UnderWay k { sc with call := c, shared := s, fault } := by
  have hnone : ∀ e l, (sc.call.leaving (.error e)).lookup = some l → l.isSpent = true :=
    fun e l hl => by cases (Call.leaving_lookup hlookup (.error e)).symm.trans hl
  rw [Call.taskMove, hp] at hm
  cases hprogram with
  | asking =>
    obtain ⟨conversation, houtbound, hcontext, p, rfl, hnext⟩ := Call.handle_request hm
    refine .handling ⟨⟨h.streams.guarded, houtbound.trans h.streams.outbound, h.streams.plain⟩,
      h.present, h.opened, h.delivery⟩ ((congrArg CallContext.canceled hcontext).trans hcalm)
      hlookup rfl hrecovery ?_
    obtain ⟨e, rfl⟩ | ⟨params, rest, q, -, hq, rfl⟩ := hnext
    · exact .failed e
    · exact .starting q (StreamKind.activity_of_query? hq)
  | starting q hq =>
    obtain rfl | ⟨e, rfl⟩ := Call.handle_relay h.streams hrecovery hm
    · exact .relaying (show Scene.Relays _ frames [] none _ from
        ⟨⟨{ h.streams with }, h.present, h.opened, h.delivery⟩, hcalm, rfl, rfl⟩) hq
        (.fresh q _ _)
    · exact .returned { h.streams with } rfl (hnone e)
  | failed e =>
    obtain rfl := Call.handle_done_error h.streams hm
    exact .returned { h.streams with } rfl (hnone e)

/-- **A move of the task.** -/
theorem task (h : UnderWay k sc) (hm : sc.call.taskMove sc.shared = some (c, s)) :
    UnderWay k { sc with call := c, shared := s, fault } := by
  cases h with
  | waiting h hcalm hlookup hp hstages hplain hhandler =>
    obtain ⟨conversation, entered, began, hadmits, hrecovery, hstreams, hc⟩ :=
      Call.begin_streaming h.streams hstages hplain sc.shared
    rw [Call.taskMove, hp] at hm
    rw [congrArg Prod.fst (Option.some.inj hm)] at hc
    obtain rfl | ⟨e, rfl⟩ := hc
    · exact .handling ⟨{ hstreams with }, h.present, h.opened, h.delivery⟩
        (hadmits.canceled.trans hcalm) hlookup rfl hrecovery (hhandler ▸ .asking)
    · refine .returned { hstreams with } rfl fun l hl => ?_
      cases (Call.leaving_lookup hlookup (.error e)).symm.trans hl
  | handling h hcalm hlookup hp hrecovery hprogram =>
    exact task_of_handling h hcalm hlookup hp hrecovery hprogram hm
  | @relaying frames taken held l h hactivity hheeds =>
    obtain ⟨item, rfl, h'⟩ | ⟨rfl, x, results, hx, ⟨item, rfl, h'⟩ | ⟨e, rfl, rfl⟩ | ⟨rfl, rfl⟩⟩ :=
      h.task fault hm
    · refine .relaying h' hactivity ?_
      rwa [Option.toList_none, List.append_nil]
    · refine .relaying h' hactivity ?_
      rw [Option.toList_none, List.append_nil] at hheeds
      exact hheeds.item hx
    · refine .returned { h.streams with } rfl fun l' hl' => ?_
      cases hl'
      exact hheeds.paid hx fun item hitem => by cases hitem
    · refine .returned ⟨h.streams.guarded, rfl, h.streams.plain⟩ rfl
        fun l' hl' => ?_
      cases hl'
      exact hheeds.paid hx fun item hitem => by cases hitem
  | returned h hreturned hspent =>
    obtain ⟨⟨frames', h'⟩, hreturned', hlookup⟩ := Call.taskMove_of_hasReturned h hreturned hm
    exact .returned h' hreturned' fun l hl => hspent l (hlookup.symm.trans hl)

theorem own (h : UnderWay k sc) (hs : sc.OwnStep sc') (hcalm : sc'.undisturbed = true) :
    UnderWay k sc' := by
  cases hs.calm hcalm with
  | task hm => exact h.task hm
  | lookup hl hm =>
    cases h with
    | waiting h hcalm hlookup => cases hlookup.symm.trans hl
    | handling h hcalm hlookup => cases hlookup.symm.trans hl
    | relaying h hactivity hheeds =>
      obtain rfl := Option.some.inj (h.lookup.symm.trans hl)
      rw [h.calm] at hm
      exact .relaying (h.withLookup _) ((congrArg _ hm.kept.query).trans hactivity)
        (hheeds.movesTo hm)
    | returned h hreturned hspent =>
      refine .returned { h with } hreturned fun l hl' => ?_
      cases hl'
      exact (hm.of_isSpent (hspent _ hl)).1
  | @read frames frames' frame hframes hr =>
    cases h with
    | waiting h hcalm hlookup hp hstages hplain hhandler =>
      cases h.streams.outbound.symm.trans hframes
      exact .waiting (h.read hr) hcalm hlookup hp hstages hplain hhandler
    | handling h hcalm hlookup hp hrecovery hprogram =>
      cases h.streams.outbound.symm.trans hframes
      exact .handling (h.read hr) hcalm hlookup hp hrecovery hprogram
    | relaying h hactivity hheeds =>
      cases h.streams.outbound.symm.trans hframes
      exact .relaying (h.read hr) hactivity hheeds
    | returned h hreturned hspent =>
      exact .returned ⟨h.guarded, rfl, h.plain⟩ hreturned hspent
  | readEnd hframes hpresent hr =>
    cases h with
    | waiting h =>
      cases h.streams.outbound.symm.trans hframes
      exact absurd hr h.not_ended
    | handling h =>
      cases h.streams.outbound.symm.trans hframes
      exact absurd hr h.not_ended
    | relaying h =>
      cases h.streams.outbound.symm.trans hframes
      exact absurd hr h.not_ended
    | returned h hreturned hspent => exact .returned h hreturned hspent

theorem others (h : UnderWay k sc) (s : Surroundings) : UnderWay k { sc with shared := s } := by
  cases h with
  | waiting h hcalm hlookup hp hstages hplain hhandler =>
    exact .waiting { h with } hcalm hlookup hp hstages hplain hhandler
  | handling h hcalm hlookup hp hrecovery hprogram =>
    exact .handling { h with } hcalm hlookup hp hrecovery hprogram
  | relaying h hactivity hheeds => exact .relaying { h with } hactivity hheeds
  | returned h hreturned hspent => exact .returned h hreturned hspent

theorem start (k : StreamKind) {g : Gateway} {metrics : Bool} {auth : Option AuthSettings}
    (hstages : g.stages = Stage.standard metrics auth) (params : Json) (headers : Headers)
    (capacity : Nat) (shared : Surroundings) :
    UnderWay k (.start g k.route params headers capacity shared) :=
  .waiting
    ⟨⟨rfl, rfl, fun _ hstage => (List.not_mem_nil hstage).elim⟩, rfl, rfl, .fresh capacity⟩ rfl
    rfl rfl hstages (fun _ hstage => Stage.isPlain_of_mem_standard hstages hstage) rfl

/-- **The backend of a streaming call fails**, and the call conveys the failure. -/
theorem raises {hits : List Item} {e : BackendError} (h : UnderWay k sc)
    (hr : sc.Raises hits e sc') : Conveying k.request.context hits e sc' := by
  cases hr with
  | operation hp =>
    -- A streaming handler asks for no operation.
    exfalso
    cases h with
    | waiting h hcalm hlookup hp' => cases hp.symm.trans hp'
    | handling h hcalm hlookup hp' hrecovery hprogram =>
      cases hp.symm.trans hp'
      cases hprogram
    | relaying h => cases hp.symm.trans h.progress
    | returned h hreturned =>
      rw [Call.hasReturned, hp] at hreturned
      cases hreturned
  | opening hl hwaiting hraised hopened hm =>
    cases h with
    | waiting h hcalm hlookup => cases hlookup.symm.trans hl
    | handling h hcalm hlookup => cases hlookup.symm.trans hl
    | relaying h hactivity hheeds =>
      obtain rfl := Option.some.inj (h.lookup.symm.trans hl)
      subst hopened
      exact .relaying (h.withLookup _)
        ((congrArg _ (Lookup.opened_kept _ _).query).trans hactivity)
        (hheeds.opening_raises hwaiting hraised)
    | returned h hreturned hspent =>
      exact absurd hwaiting (Lookup.not_isWaiting_of_isSpent (hspent _ hl))
  | stream noticed hl hnoticed hm hfeed hfeed' hraised hfits hsent hallows =>
    cases h with
    | waiting h hcalm hlookup => cases hlookup.symm.trans hl
    | handling h hcalm hlookup => cases hlookup.symm.trans hl
    | relaying h hactivity hheeds =>
      obtain rfl := Option.some.inj (h.lookup.symm.trans hl)
      have hunnoticed : noticed = false := by
        rw [h.calm] at hnoticed
        simpa using mt hnoticed Bool.false_ne_true
      subst hunnoticed
      exact .relaying (h.withLookup _)
        ((congrArg _ (Lookup.onStream_kept hm).query).trans hactivity)
        (hheeds.stream_raises hm hfeed hfeed' hraised hfits hsent hallows)
    | returned h hreturned hspent =>
      rw [Lookup.feedMove_of_isSpent (hspent _ hl)] at hm
      cases hm

end UnderWay

/-! ## After the backend has failed -/

/-- A client who looks sees a frame, or waits for the sender, or sees the end. -/
theorem Channel.receive_cases {α : Type} (c : Channel α) :
    (∃ a rest, c.queue = a :: rest ∧ c.receive = .got a { c with queue := rest }) ∨
      c.queue = [] ∧ ((c.senderGone = false ∧ c.receive = .pending) ∨
        c.senderGone = true ∧ c.receive = .ended) := by
  rw [receive]
  cases c.queue with
  | cons a rest => exact .inl ⟨a, rest, rfl, rfl⟩
  | nil =>
    refine .inr ⟨rfl, ?_⟩
    cases c.senderGone with
    | false => exact .inl ⟨rfl, rfl⟩
    | true => exact .inr ⟨rfl, rfl⟩

namespace Conveying

variable {activity : String} {hits : List Item} {e : BackendError} {sc sc' : Scene} {c : Call}
  {s : Surroundings} {fault : Option String} {frames : Channel Frame}

/-- The frames are those of a client who is there. -/
theorem channel (h : Conveying activity hits e sc) : ∃ frames,
    sc.call.conversation.outbound = .channel frames ∧ frames.receiverGone = false := by
  cases h with
  | relaying h => exact ⟨_, h.streams.outbound, h.present⟩
  | reporting h => exact ⟨_, h.streams.outbound, h.present⟩
  | closed houtbound hpresent => exact ⟨_, houtbound, hpresent⟩

/-- **A move of the task**: there is less left to do. -/
theorem task (h : Conveying activity hits e sc) (hm : sc.call.taskMove sc.shared = some (c, s)) :
    Conveying activity hits e { sc with call := c, shared := s, fault } ∧
      { sc with call := c, shared := s, fault }.work < sc.work := by
  cases h with
  | @relaying frames taken held l h hactivity howes =>
    obtain ⟨item, rfl, h'⟩ | ⟨rfl, x, results, hx, ⟨item, rfl, h'⟩ | hend⟩ :=
      h.task fault hm
    · refine ⟨.relaying h' hactivity ?_, ?_⟩
      · rwa [Option.toList_none, List.append_nil]
      · rw [h.work, h'.work, List.length_append, List.length_singleton]
        simp only [Option.elim]
        omega
    · rw [Option.toList_none, List.append_nil] at howes
      refine ⟨.relaying h' hactivity (howes.item hx), ?_⟩
      have hless := Lookup.backlog_item hx
      rw [h.work, h'.work]
      simp only [Option.elim]
      omega
    · rw [Option.toList_none, List.append_nil] at howes
      have hitem : ∀ item, x ≠ .item item := by
        rintro item rfl
        obtain ⟨e', hx', -⟩ | ⟨hx', -⟩ := hend
        · cases hx'
        · cases hx'
      obtain ⟨rfl, rfl⟩ := howes.paid hx hitem
      obtain ⟨e', hx', rfl⟩ | ⟨hx', -⟩ := hend
      · cases hx'
        refine ⟨.reporting ⟨{ h.streams with }, h.present, h.opened, h.delivery⟩
          (by rw [hactivity]) fun l' hl' => ?_, ?_⟩
        · cases hl'
          exact howes.spent
        · have hless := l.backlog_abandon_le results
          rw [h.work]
          simp only [Scene.work, h.streams.outbound, Call.leaving, Conversation.cancel,
            Option.elim, Option.map_some]
          omega
      · cases hx'
  | reporting h hp hspent =>
    rw [Call.taskMove, hp] at hm
    obtain ⟨c', hreport, heq⟩ := Option.map_eq_some_iff.1 hm
    cases heq
    obtain ⟨-, rfl⟩ | ⟨hgone, -⟩ := Call.report_cases h.streams.outbound hreport
    · refine ⟨.closed rfl h.present rfl (h.delivery.send h.opened h.present _ true) rfl hspent, ?_⟩
      simp only [Scene.work, hp, h.streams.outbound, Call.withFrames, List.length_append,
        List.length_singleton]
      omega
    · cases h.present.symm.trans hgone
  | closed houtbound hpresent hgone hdelivery hp hspent =>
    rw [Call.taskMove, hp] at hm
    cases hm

/-- **A move of the lookup**: there is less left to do. -/
theorem lookup {l l' : Lookup} {shared : Surroundings} {opened : Option Store}
    (h : Conveying activity hits e sc) (hl : sc.call.lookup = some l)
    (hm : l.MovesTo sc.shared.now sc.canceled sc.shared.backend l') :
    Conveying activity hits e { sc.withLookup l' with shared, opened, fault } ∧
      { sc.withLookup l' with shared, opened, fault }.work < sc.work := by
  have hspent : l.isSpent = true := by
    cases h with
    | relaying h hactivity howes => exact Option.some.inj (h.lookup.symm.trans hl) ▸ howes.spent
    | reporting h hp hspent => exact hspent l hl
    | closed houtbound hpresent hgone hdelivery hp hspent => exact hspent l hl
  obtain ⟨hspent', hless⟩ := hm.of_isSpent hspent
  constructor
  · cases h with
    | relaying h hactivity howes =>
      obtain rfl := Option.some.inj (h.lookup.symm.trans hl)
      rw [h.calm] at hm
      exact .relaying (h.withLookup l') ((congrArg _ hm.kept.query).trans hactivity)
        (howes.movesTo hm)
    | reporting h hp hspent =>
      refine .reporting ⟨{ h.streams with }, h.present, h.opened, h.delivery⟩ hp fun l hl' => ?_
      cases hl'
      exact hspent'
    | closed houtbound hpresent hgone hdelivery hp hspent =>
      refine .closed houtbound hpresent hgone hdelivery hp fun l hl' => ?_
      cases hl'
      exact hspent'
  · simp only [Scene.work, Scene.withLookup, hl, Option.elim]
    omega

/-- **The client reads a frame**: there is one less on the way. -/
theorem read {frames' : Channel Frame} {frame : Frame} (h : Conveying activity hits e sc)
    (hframes : sc.call.conversation.outbound = .channel frames)
    (hr : frames.receive = .got frame frames') :
    Conveying activity hits e
        { sc with call := sc.call.withFrames frames', received := sc.received ++ [frame] } ∧
      { sc with call := sc.call.withFrames frames', received := sc.received ++ [frame] }.work <
        sc.work := by
  constructor
  · cases h with
    | relaying h hactivity howes =>
      cases h.streams.outbound.symm.trans hframes
      exact .relaying (h.read hr) hactivity howes
    | reporting h hp hspent =>
      cases h.streams.outbound.symm.trans hframes
      exact .reporting (h.read hr) hp hspent
    | closed houtbound hpresent hgone hdelivery hp hspent =>
      cases houtbound.symm.trans hframes
      have hdelivery' := hdelivery.read hr
      obtain ⟨rest, -, rfl⟩ := Channel.receive_eq_got hr
      exact .closed rfl hpresent hgone hdelivery' hp hspent
  · obtain ⟨rest, hqueue, rfl⟩ := Channel.receive_eq_got hr
    simp only [Scene.work, Call.withFrames, hframes, hqueue, List.length_cons]
    omega

/-- **The client sees the end.** -/
theorem readEnd (h : Conveying activity hits e sc)
    (hframes : sc.call.conversation.outbound = .channel frames)
    (hr : frames.receive = .ended) : Conveying activity hits e { sc with sawEnd := true } := by
  cases h with
  | relaying h =>
    cases h.streams.outbound.symm.trans hframes
    exact absurd hr h.not_ended
  | reporting h =>
    cases h.streams.outbound.symm.trans hframes
    exact absurd hr h.not_ended
  | closed houtbound hpresent hgone hdelivery hp hspent =>
    cases houtbound.symm.trans hframes
    exact .closed hframes hpresent hgone (hdelivery.readEnd hpresent hr) hp hspent

/-- **Every step** leaves less to do, unless the client has seen the end. -/
theorem own (h : Conveying activity hits e sc) (hs : sc.OwnStep sc')
    (hcalm : sc'.undisturbed = true) :
    Conveying activity hits e sc' ∧ (sc'.work < sc.work ∨ sc'.sawEnd = true) := by
  cases hs.calm hcalm with
  | task hm => exact (h.task hm).imp_right .inl
  | lookup hl hm => exact (h.lookup hl hm).imp_right .inl
  | read hframes hr => exact (h.read hframes hr).imp_right .inl
  | readEnd hframes hpresent hr => exact ⟨h.readEnd hframes hr, .inr rfl⟩

theorem others (h : Conveying activity hits e sc) (s : Surroundings) :
    Conveying activity hits e { sc with shared := s } := by
  cases h with
  | relaying h hactivity howes => exact .relaying { h with } hactivity howes
  | reporting h hp hspent => exact .reporting { h with } hp hspent
  | closed houtbound hpresent hgone hdelivery hp hspent =>
    exact .closed houtbound hpresent hgone hdelivery hp hspent

/-- **There is always something to do**, until the client has seen the end. -/
theorem goesOn (h : Conveying activity hits e sc) (hcalm : sc.undisturbed = true) :
    ∃ sc', sc.OwnStep sc' ∧ sc'.undisturbed = true := by
  obtain ⟨frames, hframes, hpresent⟩ := h.channel
  cases hm : sc.call.taskMove sc.shared with
  | some r => exact ⟨_, .task hm, hcalm⟩
  | none =>
    obtain ⟨a, rest, hqueue, hr⟩ | ⟨hqueue, hend⟩ := frames.receive_cases
    · exact ⟨_, .read hframes hpresent hr, hcalm⟩
    -- The frames are empty, so the task has ended, or it waits for the results.
    have hroom : frames.queue.length < frames.capacity := by
      rw [hqueue]
      exact frames.positive
    cases h with
    | relaying h hactivity howes =>
      cases Call.taskMove_eq_none hm with
      | ended hover => simp [Call.isOver, h.progress] at hover
      | asleep ms next due hp => cases hp.symm.trans h.progress
      | answer op next due hp => cases hp.symm.trans h.progress
      | results l hp hl hnext =>
        obtain rfl := Option.some.inj (h.lookup.symm.trans hl)
        obtain ⟨l', b', hmove⟩ := howes.moves hnext sc.shared.now sc.shared.backend
        rw [← h.calm] at hmove
        exact ⟨_, .produce hl hmove, hcalm⟩
      | room frames' hframes' hpresent' hfull =>
        cases hframes.symm.trans hframes'
        omega
    | reporting h hp hspent =>
      cases Call.taskMove_eq_none hm with
      | ended hover => simp [Call.isOver, hp] at hover
      | asleep ms next due hp' => cases hp'.symm.trans hp
      | answer op next due hp' => cases hp'.symm.trans hp
      | results l hp' => cases hp'.symm.trans hp
      | room frames' hframes' hpresent' hfull =>
        cases hframes.symm.trans hframes'
        omega
    | closed houtbound hpresent' hgone hdelivery hp hspent =>
      cases houtbound.symm.trans hframes
      obtain ⟨hopen, -⟩ | ⟨-, hr⟩ := hend
      · cases hopen.symm.trans hgone
      · exact ⟨_, .readEnd hframes hpresent hr, hcalm⟩

/-- **What a client who has seen the end has got.** -/
theorem received_of_sawEnd (h : Conveying activity hits e sc) (hsaw : sc.sawEnd = true) :
    sc.received = hits.map Item.frame ++ [.error (.ofBackend (e.within activity))] := by
  cases h with
  | relaying h => cases h.not_sawEnd.symm.trans hsaw
  | reporting h => cases h.not_sawEnd.symm.trans hsaw
  | closed houtbound hpresent hgone hdelivery => exact (hdelivery.ended hsaw).2

theorem reply {frames : List Frame} (h : Conveying activity hits e sc)
    (hreply : sc.reply? = some frames) :
    frames = hits.map Item.frame ++ [.error (.ofBackend (e.within activity))] := by
  obtain ⟨channel, hframes, -⟩ := h.channel
  simp only [Scene.reply?, hframes] at hreply
  split at hreply
  next hsaw => rw [← Option.some.inj hreply, h.received_of_sawEnd hsaw]
  next => cases hreply

/-- **The client gets the items and then the failure.** The induction is on what is left to do. -/
theorem comesTo (h : Conveying activity hits e sc) (hcalm : sc.undisturbed = true) :
    sc.ComesTo (hits.map Item.frame ++ [.error (.ofBackend (e.within activity))]) := by
  induction hn : sc.work using Nat.strongRecOn generalizing sc with
  | ind n ih =>
    have hhere : ∀ sc', Conveying activity hits e sc' → sc'.sawEnd = true →
        sc'.ComesTo (hits.map Item.frame ++ [.error (.ofBackend (e.within activity))]) := by
      intro sc' h' hsaw
      obtain ⟨frames, hframes, -⟩ := h'.channel
      exact .here (by simp [Scene.reply?, hframes, hsaw, h'.received_of_sawEnd hsaw])
    refine .on (fun s _ => (h.others s).goesOn hcalm) fun s sc' _ hs hcalm' => ?_
    obtain ⟨h', hless | hsaw⟩ := (h.others s).own hs hcalm'
    · exact ih sc'.work (hn ▸ hless) h' hcalm' rfl
    · exact hhere sc' h' hsaw

end Conveying

/-! ## Every method -/

/-- **Failures of the backend reach the client**, of whatever kind and with whatever message. In
every schedule in which nobody cancels, the time is not up and the client does not leave, a call
whose backend raises a failure comes to its reply: the items that the stream sent before, if there
is one, and then one failure. Its status and its reason are those of the kind, and its message is
that of the backend behind what the gateway was doing. There is no other reply. -/
theorem backend_failures_conveyed (r : RoutedCall) :
    ∃ kind, r.route.handler.request? = some kind ∧
      ∀ before hits e after sc, Scene.Reachable r.start.scene before →
        before.Raises hits e after → Scene.Reachable after sc → sc.undisturbed = true →
          let failure : CallError :=
            { status := (CallError.outcomeOf e.kind).1, reason := (CallError.outcomeOf e.kind).2,
              message := kind.context ++ ": " ++ e.message }
          let reply := hits.map Item.frame ++ [.error failure]
          sc.ComesTo reply ∧ ∀ frames, sc.reply? = some frames → frames = reply := by
  obtain ⟨kind, -, -, hkind, -⟩ := r.exists_handler
  refine ⟨kind, hkind, fun before hits e after sc hbefore hraises hafter hcalm => ?_⟩
  have hcalm' := hafter.undisturbed_of_undisturbed hcalm
  have hcalm'' := hraises.ownStep.undisturbed hcalm'
  show sc.ComesTo (hits.map Item.frame ++ [.error (.ofBackend (e.within kind.context))]) ∧ ∀ frames,
    sc.reply? = some frames →
      frames = hits.map Item.frame ++ [.error (.ofBackend (e.within kind.context))]
  cases hroute : r.route.kind with
  | unary =>
    have hasks : Asks kind.context before :=
      hbefore.undisturbed (fun _ _ h hs hc => h.own hs hc) (fun _ _ h hs => h.others hs)
        (fun _ => .start r.routed hroute hkind r.staged r.params r.headers r.capacity r.shared)
        hcalm''
    obtain ⟨rfl, hfailing⟩ := hasks.raises hraises
    have hsc : Failing (.ofBackend (e.within kind.context)) sc :=
      hafter.undisturbed (fun _ _ h hs hc => h.own hs hc) (fun _ s h _ => h.others s)
        (fun _ => hfailing) hcalm
    exact ⟨hsc.comesTo hcalm, fun frames => hsc.reply⟩
  | serverStreaming =>
    obtain ⟨k, hk⟩ := StreamKind.mem_standard_iff.1 ⟨r.routed, hroute⟩
    have hstart : UnderWay k r.start.scene := by
      rw [RoutedCall.start, hk]
      exact .start k r.staged r.params r.headers r.capacity r.shared
    obtain rfl : k.request = kind := by
      rw [hk] at hkind
      exact Option.some.inj hkind
    have hunderWay : UnderWay k before :=
      hbefore.undisturbed (fun _ _ h hs hc => h.own hs hc) (fun _ s h _ => h.others s)
        (fun _ => hstart) hcalm''
    have hsc : Conveying k.request.context hits e sc :=
      hafter.undisturbed (fun _ _ h hs hc => (h.own hs hc).1) (fun _ s h _ => h.others s)
        (fun _ => hunderWay.raises hraises) hcalm
    exact ⟨hsc.comesTo hcalm, fun frames => hsc.reply⟩

/-- A stream shows one item and fails; the client reads to the end. -/
theorem backend_failures_conveyed_stream :
    let gateway : Gateway :=
      { routes := Route.standard false, stages := Stage.standard true none, timeout := 1000 }
    let e : BackendError := ⟨.unavailable, "gone"⟩
    let backend : Backend :=
      { mint := fun n => ⟨toString n⟩, script := some { ids := ["ada"], ending := .fail e } }
    let params : Json := .obj [("resource", .obj [("object_type", .str "document"),
      ("object_id", .str "readme")]), ("permission", .str "viewer"), ("subject_type", .str "user")]
    let r : RoutedCall :=
      { gateway, metrics := true, auth := none, staged := rfl, sticky := false
        route := StreamKind.subjects.route, routed := List.mem_of_getElem? (i := 4) rfl
        params, headers := {}, capacity := 16
        shared := { unixTime := 0, backend, traceIds := fun _ => "trace" } }
    let hit : Item := .subject ⟨Script.user "ada", ⟨"ada"⟩, ⟨"1"⟩⟩
    ∃ before after sc, Scene.Reachable r.start.scene before ∧ before.Raises [hit] e after ∧
      Scene.Reachable after sc ∧ sc.undisturbed = true ∧
        sc.reply? = some
          [hit.frame, .error ⟨.unavailable, "backend_unavailable", "LookupSubjects: gone"⟩] := by
  intro gateway e backend params r hit
  have h₀ : Scene.Reachable r.start.scene _ := .refl
  have h₁ := h₀.tail (.task rfl)
  have h₂ := h₁.tail (.task rfl)
  have h₃ := h₂.tail (.task rfl)
  have h₄ := h₃.tail (.produce rfl rfl)
  have h₅ := h₄.tail (.stream false rfl (fun h => h) rfl)
  obtain ⟨before, after, hbefore, hraises, sc, hafter, hcalm, frames, hreply⟩ :
      ∃ before after, Scene.Reachable r.start.scene before ∧ before.Raises [hit] e after ∧
        ∃ sc, Scene.Reachable after sc ∧ sc.undisturbed = true ∧
          ∃ frames, sc.reply? = some frames := by
    refine ⟨_, _, h₅, .stream false rfl (fun h => h) rfl rfl rfl rfl
      (fun i hi => by obtain rfl := Nat.lt_one_iff.1 hi; rfl) rfl rfl, ?_⟩
    -- The producer takes the item and the failure, the handler relays them, the client reads on.
    refine ⟨_, .tail (.tail (.tail (.tail (.tail (.tail (.tail (.tail (.tail (.tail .refl
      (.produce rfl rfl)) (.produce rfl rfl)) (.produce rfl rfl)) (.task rfl)) (.task rfl))
      (.task rfl)) (.task rfl)) (.read rfl rfl rfl)) (.read rfl rfl rfl)) (.readEnd rfl rfl rfl),
      rfl, _, rfl⟩
  obtain ⟨kind, hkind, hconveyed⟩ := backend_failures_conveyed r
  cases hkind
  obtain ⟨-, hall⟩ := hconveyed _ _ _ _ _ hbefore hraises hafter hcalm
  refine ⟨before, after, sc, hbefore, hraises, hafter, hcalm, ?_⟩
  rw [hreply, hall frames hreply]
  rfl

end RelationGate
