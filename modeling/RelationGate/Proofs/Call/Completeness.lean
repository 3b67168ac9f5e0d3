import RelationGate.Proofs.Call.Scene
import RelationGate.Proofs.Call.Streaming

/-!
# Success means completeness

A streaming call that ends well has sent the whole answer. Three channels in a row lie between the
store and the client, and each of them can be closed, left or canceled at any moment; a stream that
was cut off must not look like one that has ended. `Tracks` is the invariant of a streaming call
over every schedule: what the client has got and what is under way are the first items of the answer
of the store at the moment the stream was opened, in its order, and the frames are closed without a
failure only after the last of them.

* `step_tracks`: every act of everybody keeps it, as long as no fault of the backend strikes.
* `streaming_success_complete`: what a client may conclude from the frames that it has got.
-/

namespace RelationGate

/-! ## Frames on their way -/

/-- The frame of an item. -/
def Item.frame (item : Item) : Frame := .ok item.encode

/-- The frames that a client has got and those under way, against all that were sent. -/
structure Delivery (frames : Channel Frame) (received : List Frame) (sawEnd : Bool)
    (sent : List Frame) :
    Prop where
  within : received ++ frames.queue <+: sent
  whole : frames.receiverGone = false → received ++ frames.queue = sent
  ended : sawEnd = true → frames.senderGone = true ∧ received = sent

namespace Delivery

variable {frames frames' : Channel Frame} {received sent : List Frame} {sawEnd : Bool}
  {frame : Frame}

theorem fresh (n : Nat) : Delivery (.ofCapacity n) [] false [] :=
  ⟨List.prefix_rfl, fun _ => rfl, fun h => Bool.noConfusion h⟩

/-- A frame is sent, and perhaps the sender leaves. -/
theorem send (h : Delivery frames received sawEnd sent) (hopen : frames.senderGone = false)
    (hpresent : frames.receiverGone = false) (frame : Frame) (senderGone : Bool) :
    Delivery { frames with queue := frames.queue ++ [frame], senderGone } received sawEnd
      (sent ++ [frame]) := by
  have hwhole : received ++ (frames.queue ++ [frame]) = sent ++ [frame] := by
    rw [← List.append_assoc, h.whole hpresent]
  refine ⟨hwhole ▸ List.prefix_rfl, fun _ => hwhole, fun hsaw => ?_⟩
  cases hopen.symm.trans (h.ended hsaw).1

/-- The sender leaves. -/
theorem close (h : Delivery frames received sawEnd sent) :
    Delivery frames.closeSender received sawEnd sent :=
  ⟨h.within, h.whole, fun hsaw => ⟨rfl, (h.ended hsaw).2⟩⟩

/-- The client reads a frame. -/
theorem read (h : Delivery frames received sawEnd sent) (hr : frames.receive = .got frame frames') :
    Delivery frames' (received ++ [frame]) sawEnd sent := by
  obtain ⟨rest, hqueue, rfl⟩ := Channel.receive_eq_got hr
  refine ⟨?_, fun hpresent => ?_, fun hsaw => ?_⟩
  · simpa [hqueue] using h.within
  · simpa [hqueue] using h.whole hpresent
  · -- Behind the end there is nothing to read.
    have hlength := h.within.length_le
    rw [(h.ended hsaw).2, hqueue, List.length_append, List.length_cons] at hlength
    omega

/-- The client sees the end. -/
theorem readEnd (h : Delivery frames received sawEnd sent) (hpresent : frames.receiverGone = false)
    (hr : frames.receive = .ended) : Delivery frames received true sent := by
  obtain ⟨hqueue, hgone⟩ := Channel.receive_eq_ended hr
  have hwhole := h.whole hpresent
  rw [hqueue, List.append_nil] at hwhole
  exact ⟨h.within, h.whole, fun _ => ⟨hgone, hwhole⟩⟩

/-- The client leaves. -/
theorem leave (h : Delivery frames received sawEnd sent) :
    Delivery frames.closeReceiver received sawEnd sent :=
  ⟨(List.append_nil received).symm ▸ (List.prefix_append _ _).trans h.within,
    fun hp => Bool.noConfusion hp,
    h.ended⟩

end Delivery

/-! ## The invariant -/

section Tracks

variable (k : StreamKind) (params : Json) (p : LimitPolicy) (q : StreamQuery)

/-- Nothing has been looked up or sent. -/
structure Quiet (lookup : Option Lookup) (opened : Option Store) (frames : Channel Frame)
    (received : List Frame) (sawEnd : Bool) : Prop where
  lookup : lookup = none
  opened : opened = none
  senderGone : frames.senderGone = false
  delivery : Delivery frames received sawEnd []

/-- What holds of a streaming call at each stage of its task. -/
def Phase (sc : Scene) (frames : Channel Frame) : Progress → Prop
  | .waiting => (∃ rest, sc.call.stages = .recovery :: rest) ∧
      (∀ stage ∈ sc.call.stages, stage.IsPlain) ∧
      sc.call.handler = k.handler ∧ sc.call.conversation.inbound = [params] ∧
        Quiet sc.call.lookup sc.opened frames sc.received sc.sawEnd
  | .handling program _ => .recovery ∈ sc.call.entered ∧
      Quiet sc.call.lookup sc.opened frames sc.received sc.sawEnd ∧
        ((program = k.handler ∧ sc.call.conversation.inbound = [params]) ∨ program = .relay q ∨
          ∃ e, program = .done (.error e))
  | .relaying inHand => frames.senderGone = false ∧ ∃ l hits, ∃ held : Option Item,
      sc.call.lookup = some l ∧ inHand = held.map Item.encode ∧
        Delivery frames sc.received sc.sawEnd (hits.map Item.frame) ∧
          l.Follows p q sc.opened sc.canceled ((hits ++ held.toList).map Sight.item)
  | .reporting _ => frames.senderGone = false ∧ ∃ hits, Heads p q sc.opened hits ∧
      Delivery frames sc.received sc.sawEnd (hits.map Item.frame)
  | .ended => ∃ hits tail, Heads p q sc.opened hits ∧
      Delivery frames sc.received sc.sawEnd (hits.map Item.frame ++ tail) ∧
        (tail = [] ∨ ∃ e, tail = [.error e]) ∧
          (tail = [] → frames.senderGone = true → Complete p q sc.opened hits)

/-- **The invariant** of a streaming call. -/
structure Tracks (sc : Scene) : Prop where
  script : sc.shared.backend.script = none
  limits : sc.shared.settings.limits = p
  phase : ∃ frames, sc.call.Streams frames ∧ Phase k params p q sc frames sc.call.progress

end Tracks

namespace Tracks

variable {k : StreamKind} {params : Json} {p : LimitPolicy} {q : StreamQuery} {sc sc' : Scene}
  {frames : Channel Frame} {c : Call} {s : Surroundings} {fault : Option String}

/-- The call comes to its handler, or fails on the way. -/
theorem begin_tracks (h : Tracks k params p q sc) (hp : sc.call.progress = .waiting)
    (hm : sc.call.taskMove sc.shared = some (c, s)) :
    Tracks k params p q { sc with call := c, shared := s, fault } := by
  have hs := Call.taskMove_evolves hm
  obtain ⟨frames, hstreams, hphase⟩ := h.phase
  rw [hp] at hphase
  obtain ⟨⟨rest, hstages⟩, hplain, hhandler, hinbound, hquiet⟩ := hphase
  obtain ⟨conversation, entered, began, hadmits, hrecovery, hstreams', hc⟩ :=
    Call.begin_streaming hstreams hstages hplain sc.shared
  rw [Call.taskMove, hp] at hm
  rw [congrArg Prod.fst (Option.some.inj hm)] at hc
  refine ⟨hs.script.trans h.script, (congrArg _ hs.settings).trans h.limits, frames, ?_⟩
  obtain rfl | ⟨e, rfl⟩ := hc
  · exact ⟨{ hstreams' with }, hrecovery, hquiet, .inl ⟨hhandler, hadmits.inbound.trans hinbound⟩⟩
  · exact ⟨{ hstreams' with }, hquiet.senderGone, [], heads_nil p q sc.opened, hquiet.delivery⟩

/-- The handler takes the request, starts the lookup, or ends. -/
theorem handle_tracks (h : Tracks k params p q sc) (hq : k.query? params = some q)
    {program : Program}
    {due : Option Nat} (hp : sc.call.progress = .handling program due)
    (hm : sc.call.taskMove sc.shared = some (c, s)) :
    Tracks k params p q { sc with call := c, shared := s, fault } := by
  have hs := Call.taskMove_evolves hm
  obtain ⟨frames, hstreams, hphase⟩ := h.phase
  rw [hp] at hphase
  obtain ⟨hrecovery, hquiet, hprogram⟩ := hphase
  rw [Call.taskMove, hp] at hm
  simp only at hm
  refine ⟨hs.script.trans h.script, (congrArg _ hs.settings).trans h.limits, frames, ?_⟩
  obtain ⟨rfl, hinbound⟩ | rfl | ⟨e, rfl⟩ := hprogram
  · obtain ⟨conversation, houtbound, -, program, rfl, hnext⟩ := Call.handle_request hm
    refine ⟨⟨hstreams.guarded, houtbound.trans hstreams.outbound, hstreams.plain⟩, hrecovery,
      hquiet, .inr ?_⟩
    obtain ⟨e, rfl⟩ | ⟨params', rest, q', hinbound', hq', rfl⟩ := hnext
    · exact .inr ⟨e, rfl⟩
    · rw [hinbound, List.cons.injEq] at hinbound'
      rw [← hinbound'.1, hq, Option.some.injEq] at hq'
      exact .inl (hq' ▸ rfl)
  · obtain rfl | ⟨e, rfl⟩ := Call.handle_relay hstreams hrecovery hm
    · refine ⟨{ hstreams with }, hquiet.senderGone, _, [], none, rfl, rfl, hquiet.delivery, ?_⟩
      rw [h.limits, hquiet.opened]
      exact .fresh p q sc.canceled _
    · exact ⟨{ hstreams with }, hquiet.senderGone, [], heads_nil p q sc.opened, hquiet.delivery⟩
  · obtain rfl := Call.handle_done_error hstreams hm
    exact ⟨{ hstreams with }, hquiet.senderGone, [], heads_nil p q sc.opened, hquiet.delivery⟩

/-- The handler passes an item on or takes the next one, or ends. -/
theorem relay_tracks (h : Tracks k params p q sc) {inHand : Option Json}
    (hp : sc.call.progress = .relaying inHand) (hm : sc.call.taskMove sc.shared = some (c, s)) :
    Tracks k params p q { sc with call := c, shared := s, fault } := by
  have hs := Call.taskMove_evolves hm
  obtain ⟨frames, hstreams, hphase⟩ := h.phase
  rw [hp] at hphase
  obtain ⟨hopen, l, hits, held, hl, rfl, hdelivery, hfollows⟩ := hphase
  rw [Call.taskMove, hp] at hm
  simp only at hm
  refine ⟨hs.script.trans h.script, (congrArg _ hs.settings).trans h.limits, ?_⟩
  -- Whatever the handler has in hand, the items that were sent are the first of the answer.
  have hheads : Heads p q sc.opened hits := hfollows.heads.of_initial (List.prefix_append _ _)
  cases held with
  | some item =>
    obtain ⟨hpresent, -, rfl⟩ | ⟨words, -, rfl⟩ := Call.relay_held hstreams hm
    · refine ⟨_, ⟨hstreams.guarded, rfl, hstreams.plain⟩, hopen, l, hits ++ [item], none, hl, rfl,
        ?_, ?_⟩
      · rw [List.map_append]
        exact hdelivery.send hopen hpresent item.frame frames.senderGone
      · rw [Option.toList_none, List.append_nil]
        exact hfollows
    · exact ⟨frames, { hstreams with }, hopen, hits, hheads, hdelivery⟩
  | none =>
    rw [Option.toList_none, List.append_nil] at hfollows
    obtain ⟨item, results, hx, rfl⟩ | ⟨results, hx, hcanceled, rfl⟩ | ⟨e, results, -, rfl⟩ :=
      Call.relay_next hstreams hl hm
    · refine ⟨frames, { hstreams with }, hopen, _, hits, some item, rfl, rfl, hdelivery, ?_⟩
      rw [Option.toList_some, List.map_append]
      exact hfollows.look hx
    · rw [show sc.canceled = false from hcanceled] at hfollows
      refine ⟨_, ⟨hstreams.guarded, rfl, hstreams.plain⟩, hits, [], hheads, ?_, .inl rfl,
        fun _ _ => hfollows.complete hx⟩
      rw [List.append_nil]
      exact hdelivery.close
    · exact ⟨frames, { hstreams with }, hopen, hits, hheads, hdelivery⟩

/-- The failure of the call is reported, or nobody is left to take it. -/
theorem report_tracks (h : Tracks k params p q sc) {e : CallError}
    (hp : sc.call.progress = .reporting e) (hm : sc.call.taskMove sc.shared = some (c, s)) :
    Tracks k params p q { sc with call := c, shared := s, fault } := by
  obtain ⟨frames, hstreams, hphase⟩ := h.phase
  rw [hp] at hphase
  obtain ⟨hopen, hits, hheads, hdelivery⟩ := hphase
  rw [Call.taskMove, hp] at hm
  obtain ⟨c', hreport, heq⟩ := Option.map_eq_some_iff.1 hm
  cases heq
  refine ⟨h.script, h.limits, ?_⟩
  obtain ⟨hpresent, rfl⟩ | ⟨hgone, rfl⟩ := Call.report_cases hstreams.outbound hreport
  · exact ⟨_, ⟨hstreams.guarded, rfl, hstreams.plain⟩, hits, [.error e], hheads,
      hdelivery.send hopen hpresent (.error e) true, .inr ⟨e, rfl⟩,
      fun hnil => absurd hnil (List.cons_ne_nil _ _)⟩
  · refine ⟨frames, { hstreams with }, hits, [], hheads, ?_, .inl rfl,
      fun _ hgone' => absurd (hopen.symm.trans hgone') Bool.false_ne_true⟩
    rwa [List.append_nil]

/-- **A move of the task keeps the invariant.** -/
theorem task_tracks (h : Tracks k params p q sc) (hq : k.query? params = some q)
    (hm : sc.call.taskMove sc.shared = some (c, s)) :
    Tracks k params p q { sc with call := c, shared := s, fault } := by
  cases hp : sc.call.progress with
  | waiting => exact h.begin_tracks hp hm
  | handling program due => exact h.handle_tracks hq hp hm
  | relaying inHand => exact h.relay_tracks hp hm
  | reporting e => exact h.report_tracks hp hm
  | ended =>
    rw [Call.taskMove, hp] at hm
    cases hm

/-! ### Everybody else -/

/-- The lookup moves: only a handler that relays it has to know what has become of it. -/
theorem lookup_tracks (h : Tracks k params p q sc) {l l' : Lookup} {opened : Option Store}
    {shared : Surroundings} (hl : sc.call.lookup = some l) (hs : sc.shared.Evolves shared)
    (hopened : ∀ store, sc.opened = some store → opened = some store)
    (hfollows : sc.call.isHandling = true → ∀ seen, l.Follows p q sc.opened sc.canceled seen →
      l'.Follows p q opened sc.canceled seen) :
    Tracks k params p q { sc.withLookup l' with shared, opened, fault } := by
  obtain ⟨frames, hstreams, hphase⟩ := h.phase
  refine ⟨hs.script.trans h.script, (congrArg _ hs.settings).trans h.limits, frames,
    { hstreams with }, ?_⟩
  have hheads : ∀ hits, Heads p q sc.opened hits → Heads p q opened hits := fun hits hhits => by
    cases hopen : sc.opened with
    | none =>
      rw [hopen] at hhits
      exact (show hits = [] from hhits) ▸ heads_nil p q opened
    | some store =>
      rw [hopened store hopen]
      rwa [hopen] at hhits
  show Phase k params p q _ frames sc.call.progress
  cases hp : sc.call.progress with
  | waiting =>
    rw [hp] at hphase
    cases hl.symm.trans hphase.2.2.2.2.lookup
  | handling program due =>
    rw [hp] at hphase
    cases hl.symm.trans hphase.2.1.lookup
  | relaying inHand =>
    rw [hp] at hphase
    obtain ⟨hopen, l₀, hits, held, hl₀, hheld, hdelivery, hf⟩ := hphase
    cases hl.symm.trans hl₀
    exact ⟨hopen, l', hits, held, rfl, hheld, hdelivery,
      hfollows (by rw [Call.isHandling, hp]) _ hf⟩
  | reporting e =>
    rw [hp] at hphase
    obtain ⟨hopen, hits, hhits, hdelivery⟩ := hphase
    exact ⟨hopen, hits, hheads hits hhits, hdelivery⟩
  | ended =>
    rw [hp] at hphase
    obtain ⟨hits, tail, hhits, hdelivery, htail, hcomplete⟩ := hphase
    refine ⟨hits, tail, hheads hits hhits, hdelivery, htail, fun hnil hgone => ?_⟩
    obtain ⟨store, hstore, hall⟩ := hcomplete hnil hgone
    exact ⟨store, hopened store hstore, hall⟩

/-- The time is up: the call has yet to report it. -/
theorem deadline_tracks (h : Tracks k params p q sc) (ms : Nat)
    (hhandling : sc.call.isHandling = true) :
    Tracks k params p q { sc with
      call := (sc.call.giveUp ms sc.shared).1, shared := (sc.call.giveUp ms sc.shared).2
      undisturbed := false } := by
  have hs := sc.call.giveUp_evolves ms sc.shared
  obtain ⟨frames, hstreams, hphase⟩ := h.phase
  refine ⟨hs.script.trans h.script, (congrArg _ hs.settings).trans h.limits, frames, ?_⟩
  obtain ⟨conversation, lookup, houtbound, hc⟩ := Call.giveUp_eq hstreams ms sc.shared
  rw [hc]
  refine ⟨⟨hstreams.guarded, houtbound, hstreams.plain⟩, ?_⟩
  cases hp : sc.call.progress with
  | handling program due =>
    rw [hp] at hphase
    exact ⟨hphase.2.1.senderGone, [], heads_nil p q sc.opened, hphase.2.1.delivery⟩
  | relaying inHand =>
    rw [hp] at hphase
    obtain ⟨hopen, l, hits, held, hl, hheld, hdelivery, hfollows⟩ := hphase
    exact ⟨hopen, hits, hfollows.heads.of_initial (List.prefix_append _ _), hdelivery⟩
  | _ =>
    rw [Call.isHandling, hp] at hhandling
    cases hhandling

/-- The client acts on the frames. -/
theorem frames_tracks (h : Tracks k params p q sc) {frames' : Channel Frame} {received : List Frame}
    {sawEnd undisturbed : Bool} (hframes : sc.call.conversation.outbound = .channel frames)
    (hgone : frames'.senderGone = frames.senderGone)
    (hdelivery : ∀ sent, Delivery frames sc.received sc.sawEnd sent →
      Delivery frames' received sawEnd sent) :
    Tracks k params p q
      { sc with call := sc.call.withFrames frames', received, sawEnd, undisturbed } := by
  obtain ⟨frames₀, hstreams, hphase⟩ := h.phase
  cases hframes.symm.trans hstreams.outbound
  refine ⟨h.script, h.limits, frames', ⟨hstreams.guarded, rfl, hstreams.plain⟩, ?_⟩
  have hquiet : Quiet sc.call.lookup sc.opened frames sc.received sc.sawEnd →
      Quiet sc.call.lookup sc.opened frames' received sawEnd :=
    fun hq => ⟨hq.lookup, hq.opened, hgone.trans hq.senderGone, hdelivery [] hq.delivery⟩
  show Phase k params p q _ frames' sc.call.progress
  cases hp : sc.call.progress with
  | waiting =>
    rw [hp] at hphase
    obtain ⟨hstages, hplain, hhandler, hinbound, hq⟩ := hphase
    exact ⟨hstages, hplain, hhandler, hinbound, hquiet hq⟩
  | handling program due =>
    rw [hp] at hphase
    obtain ⟨hrecovery, hq, hprogram⟩ := hphase
    exact ⟨hrecovery, hquiet hq, hprogram⟩
  | relaying inHand =>
    rw [hp] at hphase
    obtain ⟨hopen, l, hits, held, hl, hheld, hd, hfollows⟩ := hphase
    exact ⟨hgone.trans hopen, l, hits, held, hl, hheld, hdelivery _ hd, hfollows⟩
  | reporting e =>
    rw [hp] at hphase
    obtain ⟨hopen, hits, hhits, hd⟩ := hphase
    exact ⟨hgone.trans hopen, hits, hhits, hdelivery _ hd⟩
  | ended =>
    rw [hp] at hphase
    obtain ⟨hits, tail, hhits, hd, htail, hcomplete⟩ := hphase
    exact ⟨hits, tail, hhits, hdelivery _ hd, htail, fun hnil hg => hcomplete hnil (hgone ▸ hg)⟩

/-- Somebody cancels. -/
theorem cancel_tracks (h : Tracks k params p q sc) :
    Tracks k params p q { sc with
      call := { sc.call with conversation := sc.call.conversation.cancel }
      undisturbed := false } := by
  obtain ⟨frames, hstreams, hphase⟩ := h.phase
  refine ⟨h.script, h.limits, frames, { hstreams with }, ?_⟩
  show Phase k params p q _ frames sc.call.progress
  cases hp : sc.call.progress with
  | waiting =>
    rw [hp] at hphase
    obtain ⟨hstages, hplain, hhandler, hinbound, hq⟩ := hphase
    exact ⟨hstages, hplain, hhandler, hinbound, hq⟩
  | handling program due =>
    rw [hp] at hphase
    obtain ⟨hrecovery, hq, hprogram⟩ := hphase
    exact ⟨hrecovery, hq, hprogram⟩
  | relaying inHand =>
    rw [hp] at hphase
    obtain ⟨hopen, l, hits, held, hl, hheld, hd, hfollows⟩ := hphase
    exact ⟨hopen, l, hits, held, hl, hheld, hd, hfollows.mono fun _ => rfl⟩
  | reporting e =>
    rw [hp] at hphase
    exact hphase
  | ended =>
    rw [hp] at hphase
    exact hphase

/-- **Every act keeps the invariant**, unless it is a fault that strikes while the handler is at
work. -/
theorem step_tracks (h : Tracks k params p q sc) (hq : k.query? params = some q)
    (hs : Scene.Step sc sc')
    (hcalm : sc'.fault = none) : Tracks k params p q sc' := by
  cases hs with
  | task hm => exact h.task_tracks hq hm
  | deadline htimeout hhandling hlate => exact h.deadline_tracks _ hhandling
  | produce hl hm =>
    refine h.lookup_tracks hl (Call.produce_evolves hm)
      (fun store hstore => ?_) fun hhandling seen hf => ?_
    · rw [Lookup.openedOn, hstore]
      rfl
    · exact hf.produce h.script hm (Scene.eq_none_of_strike hhandling hcalm)
  | stream noticed hl hnoticed hm =>
    exact h.lookup_tracks hl (.refl _) (fun _ hstore => hstore)
      fun _ seen hf => hf.feedMove hnoticed hm
  | breakdown words hl hm =>
    exact h.lookup_tracks hl (.refl _) (fun _ hstore => hstore) fun hhandling _ _ =>
      absurd (Scene.eq_none_of_strike hhandling hcalm) (Option.some_ne_none _)
  | others hevolves =>
    exact ⟨hevolves.script.trans h.script, (congrArg _ hevolves.settings).trans h.limits, h.phase⟩
  | cancel => exact h.cancel_tracks
  | read hframes hpresent hr =>
    obtain ⟨rest, -, rfl⟩ := Channel.receive_eq_got hr
    exact h.frames_tracks hframes rfl fun _ hd => hd.read hr
  | readEnd hframes hpresent hr =>
    have hread : Tracks k params p q { sc with call := sc.call.withFrames _, sawEnd := true } :=
      h.frames_tracks hframes rfl fun _ hd => hd.readEnd hpresent hr
    rwa [Call.withFrames_self hframes] at hread
  | leave hframes => exact h.frames_tracks hframes rfl fun _ hd => hd.leave

/-- A call that has just been made. -/
theorem start_tracks (k : StreamKind) {g : Gateway} {metrics : Bool} {auth : Option AuthSettings}
    (hstages : g.stages = Stage.standard metrics auth) (params : Json) (headers : Headers)
    (capacity : Nat)
    {shared : Surroundings} (hscript : shared.backend.script = none) (q : StreamQuery) :
    Tracks k params shared.settings.limits q (.start g k.route params headers capacity shared) where
  script := hscript
  limits := rfl
  phase := by
    refine ⟨.ofCapacity capacity, ⟨rfl, rfl, fun stage hstage => (List.not_mem_nil hstage).elim⟩,
      ⟨_, hstages⟩, fun stage hstage => ?_, rfl, rfl, rfl, rfl, rfl, .fresh capacity⟩
    exact Stage.isPlain_of_mem_standard hstages hstage

theorem reachable_tracks {start : Scene} (hstart : Tracks k params p q start)
    (hq : k.query? params = some q) (h : Scene.Reachable start sc) (hcalm : sc.fault = none) :
    Tracks k params p q sc := by
  induction h with
  | refl => exact hstart
  | tail _ hs ih => exact step_tracks (ih (Scene.fault_eq_none_of_step hs hcalm)) hq hs hcalm

end Tracks

/-! ## What the client has got -/

/-- What a client has got of the frames of some items and of a failure behind them: all of it, or
frames of the first items. -/
theorem prefix_frames {received tail : List Frame} {hits : List Item}
    (h : received <+: hits.map Item.frame ++ tail) (htail : tail = [] ∨ ∃ e, tail = [.error e]) :
    received = hits.map Item.frame ++ tail ∨
      ∃ hits', hits' <+: hits ∧ received = hits'.map Item.frame := by
  obtain rfl | ⟨e, rfl⟩ := htail
  · rw [List.append_nil] at h
    obtain ⟨hits', hfirst, rfl⟩ := List.prefix_map_iff.1 h
    exact .inr ⟨hits', hfirst, rfl⟩
  · obtain hall | h := List.prefix_concat_iff.1 h
    · exact .inl hall
    · obtain ⟨hits', hfirst, rfl⟩ := List.prefix_map_iff.1 h
      exact .inr ⟨hits', hfirst, rfl⟩

/-- What has been sent of a call: the first items of the answer, then at most one failure; and once
their end is seen without a failure, they are the answer. -/
structure HasSent (p : LimitPolicy) (q : StreamQuery) (sc : Scene) (hits : List Item)
    (tail : List Frame) : Prop where
  heads : Heads p q sc.opened hits
  received : sc.received <+: hits.map Item.frame ++ tail
  failure : tail = [] ∨ ∃ e, tail = [.error e]
  ended : sc.sawEnd = true → sc.received = hits.map Item.frame ++ tail ∧
    (tail = [] → Complete p q sc.opened hits)

theorem Tracks.hasSent {k : StreamKind} {params : Json} {p : LimitPolicy} {q : StreamQuery}
    {sc : Scene}
    (h : Tracks k params p q sc) : ∃ hits tail, HasSent p q sc hits tail := by
  obtain ⟨frames, -, hphase⟩ := h.phase
  -- As long as the frames are open, nobody has seen their end.
  have hopen : ∀ hits, frames.senderGone = false → Heads p q sc.opened hits →
      Delivery frames sc.received sc.sawEnd (hits.map Item.frame) → HasSent p q sc hits [] := by
    intro hits hgone hheads hd
    refine ⟨hheads, ?_, .inl rfl, fun hsaw => ?_⟩
    · rw [List.append_nil]
      exact (List.prefix_append _ _).trans hd.within
    · cases hgone.symm.trans (hd.ended hsaw).1
  cases hp : sc.call.progress with
  | waiting =>
    rw [hp] at hphase
    obtain ⟨-, -, -, -, hquiet⟩ := hphase
    exact ⟨[], [], hopen [] hquiet.senderGone (heads_nil p q sc.opened) hquiet.delivery⟩
  | handling program due =>
    rw [hp] at hphase
    obtain ⟨-, hquiet, -⟩ := hphase
    exact ⟨[], [], hopen [] hquiet.senderGone (heads_nil p q sc.opened) hquiet.delivery⟩
  | relaying inHand =>
    rw [hp] at hphase
    obtain ⟨hgone, l, hits, held, -, -, hd, hfollows⟩ := hphase
    exact ⟨hits, [], hopen hits hgone (hfollows.heads.of_initial (List.prefix_append _ _)) hd⟩
  | reporting e =>
    rw [hp] at hphase
    obtain ⟨hgone, hits, hheads, hd⟩ := hphase
    exact ⟨hits, [], hopen hits hgone hheads hd⟩
  | ended =>
    rw [hp] at hphase
    obtain ⟨hits, tail, hheads, hd, htail, hcomplete⟩ := hphase
    refine ⟨hits, tail, hheads, (List.prefix_append _ _).trans hd.within, htail, fun hsaw => ?_⟩
    obtain ⟨hgone, hall⟩ := hd.ended hsaw
    exact ⟨hall, fun hnil => hcomplete hnil hgone⟩

/-- **Success means completeness.** In every schedule of a streaming call in which no fault of the
backend strikes, a client gets the frames of some items and then at most one failure. The items are
the first of the answer of the store at the moment the stream was opened; there are none before
that. A client that has read to the end without a failure has got the whole answer. -/
theorem streaming_success_complete (k : StreamKind) {g : Gateway} {metrics : Bool}
    {auth : Option AuthSettings} (hstages : g.stages = Stage.standard metrics auth) {params : Json}
    {q : StreamQuery} (hquery : k.query? params = some q) (headers : Headers) (capacity : Nat)
    {shared : Surroundings} (hscript : shared.backend.script = none) {sc : Scene}
    (h : Scene.Reachable (.start g k.route params headers capacity shared) sc)
    (hcalm : sc.fault = none) :
    ∃ hits tail, sc.received = hits.map Item.frame ++ tail ∧ (tail = [] ∨ ∃ e, tail = [.error e]) ∧
      Heads shared.settings.limits q sc.opened hits ∧
        (sc.sawEnd = true → tail = [] → Complete shared.settings.limits q sc.opened hits) := by
  have hstart := Tracks.start_tracks k hstages params headers capacity hscript q
  obtain ⟨hits, tail, hheads, hreceived, htail, hend⟩ :=
    (Tracks.reachable_tracks hstart hquery h hcalm).hasSent
  obtain hall | ⟨hits', hfirst, heq⟩ := prefix_frames hreceived htail
  · exact ⟨hits, tail, hall, htail, hheads, fun hsaw => (hend hsaw).2⟩
  refine ⟨hits', [], by rw [List.append_nil, heq], .inl rfl, hheads.of_initial hfirst,
    fun hsaw _ => ?_⟩
  -- At the end the first items that were got are all that were sent.
  obtain ⟨hall, hcomplete⟩ := hend hsaw
  have hlength := congrArg List.length (heq.symm.trans hall)
  rw [List.length_append, List.length_map, List.length_map] at hlength
  have hle := hfirst.length_le
  rw [hfirst.eq_of_length (by omega)]
  exact hcomplete (List.length_eq_zero_iff.1 (by omega))

/-- A read of a store with one relationship, whose client reads to the end. -/
theorem streaming_success_complete_one :
    let g : Gateway := { routes := [], stages := Stage.standard false none, timeout := 1000 }
    let ada : Relationship := ⟨⟨"document", "readme"⟩, "viewer", ⟨⟨"user", "ada"⟩, none⟩⟩
    let store : Store := { rows := [⟨0, ada⟩], nextNumber := 1, revision := 1 }
    let shared : Surroundings :=
      { unixTime := 0
        backend := { store, mint := fun n => ⟨toString n⟩ }
        traceIds := fun _ => "trace" }
    let params : Json := .obj [("filter", .obj [("resource_type", .str "document")])]
    let q : StreamQuery := .read { filter := { resourceType := "document" } }
    StreamKind.read.query? params = some q ∧
      ∃ sc, Scene.Reachable (.start g StreamKind.read.route params {} 1 shared) sc ∧
        sc.sawEnd = true ∧ sc.received.length = 1 ∧
          sc.received = (store.fullAnswer shared.settings.limits q).map Item.frame := by
  intro g ada store shared params q
  have h₀ : Scene.Reachable (.start g StreamKind.read.route params {} 1 shared) _ := .refl
  have h₁ := h₀.tail (.task rfl)
  have h₂ := h₁.tail (.task rfl)
  have h₃ := h₂.tail (.task rfl)
  have h₄ := h₃.tail (.produce rfl rfl)
  have h₅ := h₄.tail (.stream false rfl (fun h => h) rfl)
  have h₆ := h₅.tail (.produce rfl rfl)
  have h₇ := h₆.tail (.produce rfl rfl)
  have h₈ := h₇.tail (.task rfl)
  have h₉ := h₈.tail (.task rfl)
  have h₁₀ := h₉.tail (.stream false rfl (fun h => h) rfl)
  have h₁₁ := h₁₀.tail (.produce rfl rfl)
  have h₁₂ := h₁₁.tail (.task rfl)
  have h₁₃ := h₁₂.tail (.read rfl rfl rfl)
  have h₁₄ := h₁₃.tail (.readEnd rfl rfl rfl)
  obtain ⟨sc, h, hcalm, hsaw, hopened, message, hmessage⟩ :
      ∃ sc, Scene.Reachable (.start g StreamKind.read.route params {} 1 shared) sc ∧
        sc.fault = none ∧
        sc.sawEnd = true ∧ sc.opened = some store ∧ ∃ message, sc.received = [.ok message] :=
    ⟨_, h₁₄, rfl, rfl, rfl, _, rfl⟩
  have hquery : StreamKind.read.query? params = some q := rfl
  obtain ⟨hits, tail, hreceived, htail, -, hcomplete⟩ :=
    streaming_success_complete .read rfl hquery {} 1 rfl h hcalm
  -- The one frame is no failure.
  have hnil : tail = [] := htail.resolve_right fun ⟨e, he⟩ => by
    have hmem : Except.error e ∈ sc.received := by simp [hreceived, he]
    rw [hmessage] at hmem
    cases List.mem_singleton.1 hmem
  obtain ⟨store', hstore', hall⟩ := hcomplete hsaw hnil
  obtain rfl := Option.some.inj (hopened.symm.trans hstore')
  refine ⟨hquery, sc, h, hsaw, by rw [hmessage]; rfl, ?_⟩
  rw [hreceived, hnil, List.append_nil, hall]

end RelationGate
