import RelationGate.Proofs.Call.Completeness
import RelationGate.Proofs.Call.Replies
import RelationGate.Proofs.Call.Timing

/-!
# What a deadline cuts off

A handler comes out by itself, or it is given up when its time is up. The runs are the timely ones:
the clock does not go past the deadline of a handler at work.

* `Working`: the call has not returned, and its reply holds items only. A step of the call leaves it
  so, or its handler comes out (`Working.own`).
* `Settled`: the handler has come out by itself, and the reply tells its outcome.
* `Lapsed`: the handler was given up. The reply holds the items that it held by then, and behind
  them the failure, once it is reported (`Lapsed.own`).
* `Course`: a timely run is at one of the three, and the first two are those of a call without a
  deadline (`Course.of_timely`).

Main result: `deadline_cuts_cleanly`.
-/

namespace RelationGate

/-! ## A reply that holds items only -/

/-- A reply that is passed on is open, and has taken items only. -/
def Outbound.Collects (received : List Frame) (sawEnd : Bool) : Outbound → Prop
  | .buffer _ => True
  | .channel frames => frames.senderGone = false ∧
    ∃ items : List Json, Delivery frames received sawEnd (items.map .ok)

namespace Outbound.Collects

variable {o o' : Outbound} {frames frames' : Channel Frame} {received : List Frame} {sawEnd : Bool}
  {frame : Frame}

theorem speaks (h : o.Collects received sawEnd) (hs : o.Speaks o') :
    o'.Collects received sawEnd := by
  cases hs with
  | silent => exact h
  | kept sent message => trivial
  | passed frames message hpresent hroom =>
    obtain ⟨hopen, items, hdelivery⟩ := h
    refine ⟨hopen, items ++ [message], ?_⟩
    rw [List.map_append]
    exact hdelivery.send hopen hpresent (.ok message) frames.senderGone

theorem spoken (h : o.Collects received sawEnd) : o.Spoken received false := by
  cases o with
  | buffer sent => exact nofun
  | channel frames =>
    obtain ⟨-, items, hdelivery⟩ := h
    exact fun hpresent => ⟨items, hdelivery.whole hpresent⟩

theorem read (h : (Outbound.channel frames).Collects received sawEnd)
    (hr : frames.receive = .got frame frames') :
    (Outbound.channel frames').Collects (received ++ [frame]) sawEnd := by
  obtain ⟨hopen, items, hdelivery⟩ := h
  refine ⟨?_, items, hdelivery.read hr⟩
  obtain ⟨rest, -, rfl⟩ := Channel.receive_eq_got hr
  exact hopen

theorem leave (h : (Outbound.channel frames).Collects received sawEnd) :
    (Outbound.channel frames.closeReceiver).Collects received sawEnd := by
  obtain ⟨hopen, items, hdelivery⟩ := h
  exact ⟨hopen, items, hdelivery.leave⟩

end Outbound.Collects

namespace Call

variable {c : Call}

theorem not_hasReturned_of_isHandling (h : c.isHandling = true) : c.hasReturned = false := by
  unfold isHandling at h
  unfold hasReturned
  split at h
  · simp [*]
  · simp [*]
  · cases h

theorem expire_of_hasReturned (h : c.hasReturned = true) {s : Surroundings} :
    c.expire s = none := by
  refine expire_of_outside (Bool.eq_false_iff.2 fun hhandling => ?_)
  cases (not_hasReturned_of_isHandling hhandling).symm.trans h

end Call

namespace Scene

variable {start sc sc' : Scene} {ms : Nat} {items : List Json} {outcome : Outcome}

/-! ## A handler that comes out by itself -/

/-- A call that has not returned. -/
structure Working (ms : Nat) (sc : Scene) : Prop where
  guarded : sc.call.guarded = true
  timeout : sc.call.timeout = some ms
  atWork : sc.call.hasReturned = false
  inTime : sc.InTime
  reply : sc.call.conversation.outbound.Collects sc.received sc.sawEnd

/-- A call whose handler has come out by itself: its failure has yet to be reported, or it is over
and its reply tells how it came out. -/
structure Settled (outcome : Outcome) (sc : Scene) : Prop where
  result : sc.call.result = some outcome
  stands : (∃ e, outcome = .finished (.error e) ∧ sc.call.progress = .reporting e ∧
      sc.call.conversation.outbound.Spoken sc.received false) ∨
    sc.call.progress = .ended ∧ ∀ x, outcome = .finished x → sc.Answers x

theorem Settled.hasReturned (h : sc.Settled outcome) : sc.call.hasReturned = true := by
  unfold Call.hasReturned
  obtain ⟨e, -, hp, -⟩ | ⟨hp, -⟩ := h.stands
  · rw [hp]
  · rw [hp]

/-- The end of the way back. -/
theorem settled_of_finish {c : Call} {s : Surroundings} (hguarded : c.guarded = true)
    (hspoken : c.conversation.outbound.Spoken sc.received false)
    (hcall : sc.call = (c.finish outcome s).1) : ∃ outcome', sc.Settled outcome' := by
  have hstays := Stage.leaveAll_stays c.began c.entered outcome s c.conversation
  rw [Call.finish_eq] at hcall
  generalize Stage.leaveAll c.began c.entered outcome s c.conversation = r at hstays hcall
  obtain ⟨outcome', s₁, conversation⟩ := r
  rw [← hstays.outbound] at hspoken
  cases outcome' with
  | finished x =>
    obtain ⟨hresult, hstands⟩ :=
      answers_of_conclude (c := { c with conversation }) hguarded hcall hspoken
    refine ⟨_, hresult, hstands.imp ?_ ?_⟩
    · rintro ⟨e, rfl, hp, hspoken⟩
      exact ⟨e, rfl, hp, hspoken⟩
    · rintro ⟨hp, hanswers⟩
      refine ⟨hp, fun x' hx' => ?_⟩
      obtain rfl := Outcome.finished.inj hx'
      exact hanswers
  | panicked words =>
    obtain ⟨e, frames, hfinished, -⟩ | ⟨-, hc⟩ :=
      Call.conclude_cases (c := { c with conversation }) hguarded (.panicked words)
    · cases hfinished
    · rw [hc] at hcall
      refine ⟨.panicked words, by rw [hcall]; rfl, .inr ⟨by rw [hcall]; rfl, fun x hx => ?_⟩⟩
      cases hx

/-- **A move of the task** of a call that has not returned. -/
theorem Working.task {c : Call} {s : Surroundings} (h : sc.Working ms)
    (hm : sc.call.taskMove sc.shared = some (c, s)) (fault : Option String) :
    Working ms { sc with call := c, shared := s, fault } ∨
      ∃ outcome, Settled outcome { sc with call := c, shared := s, fault } := by
  have hnow := Call.taskMove_now hm
  cases hhandling : sc.call.isHandling with
  | true =>
    generalize hr : (c, s) = r at hm
    cases Call.taskMove_fares hhandling hm with
    | out conversation lookup b outcome hgoes hway =>
      have hc := congrArg Prod.fst hr
      exact .inr (settled_of_finish (c := { sc.call with conversation, lookup }) h.guarded
        (h.reply.speaks hgoes.speaks).spoken hc)
    | on conversation lookup progress s₁ hgoes hat hmetrics =>
      cases hr
      refine .inl ⟨h.guarded, h.timeout, Call.not_hasReturned_of_isHandling hat, ?_,
        h.reply.speaks hgoes.speaks⟩
      intro _ ms' hms'
      show s.now ≤ _
      rw [hnow]
      exact h.inTime hhandling ms' hms'
  | false =>
    have hatWork := h.atWork
    cases hp : sc.call.progress with
    | waiting =>
      simp only [Call.taskMove, hp] at hm
      obtain ⟨conversation, entered, s₁, hstays, hon | ⟨e, hback⟩⟩ :=
        Call.begin_stays sc.call sc.shared
      · rw [hon] at hm
        cases hm
        exact .inl ⟨h.guarded, h.timeout, rfl, fun _ _ _ => Nat.le_add_right _ _,
          h.reply.speaks hstays.goesOn.speaks⟩
      · rw [hback] at hm
        have hc := congrArg Prod.fst (Option.some.inj hm).symm
        exact .inr (settled_of_finish (c := { sc.call with
          conversation, entered, began := s₁.now }) h.guarded
          (h.reply.speaks hstays.goesOn.speaks).spoken hc)
    | handling p due => simp [Call.isHandling, hp] at hhandling
    | relaying inHand => simp [Call.isHandling, hp] at hhandling
    | reporting e => simp [Call.hasReturned, hp] at hatWork
    | ended => simp [Call.hasReturned, hp] at hatWork

/-- **A step of a call that has not returned**: it has not returned, or its handler has come out, or
was given up. -/
theorem Working.own (h : sc.Working ms) (hs : OwnStep sc sc') :
    sc'.Working ms ∨ (∃ outcome, sc'.Settled outcome) ∨ sc.GivenUp sc' := by
  obtain ⟨hguarded, htimeout, hatWork, hintime, hreply⟩ := h
  cases hs with
  | task hm =>
    rcases Working.task ⟨hguarded, htimeout, hatWork, hintime, hreply⟩ hm _ with hworking | hsettled
    · exact .inl hworking
    · exact .inr (.inl hsettled)
  | expire hm => exact .inr (.inr ⟨_, _, hm, rfl⟩)
  | produce hl hm | stream noticed hl hnoticed hm | breakdown words hl hm =>
    exact .inl ⟨hguarded, htimeout, hatWork, hintime, hreply⟩
  | cancel => exact .inl ⟨hguarded, htimeout, hatWork, hintime, hreply⟩
  | read hframes hpresent hr =>
    rw [hframes] at hreply
    exact .inl ⟨hguarded, htimeout, hatWork, hintime, hreply.read hr⟩
  | readEnd hframes hpresent hr =>
    -- The reply is still open.
    rw [hframes] at hreply
    have hclosed := (Channel.receive_eq_ended hr).2
    rw [hreply.1] at hclosed
    cases hclosed
  | leave hframes =>
    rw [hframes] at hreply
    exact .inl ⟨hguarded, htimeout, hatWork, hintime, hreply.leave⟩

/-- **A step of a call whose handler has come out** leaves the outcome as it is. -/
theorem Settled.own (h : sc.Settled outcome) (hs : OwnStep sc sc') : sc'.Settled outcome := by
  have hreturned := h.hasReturned
  obtain ⟨hresult, hstands⟩ := h
  obtain ⟨c, s, fault, hm, rfl⟩ | ⟨c, s, hm, -⟩ | hbeside := hs.task_or_beside
  · obtain ⟨e, rfl, hp, hspoken⟩ | ⟨hp, -⟩ := hstands
    · simp only [Call.taskMove, hp] at hm
      obtain ⟨c', hreport, heq⟩ := Option.map_eq_some_iff.1 hm
      cases heq
      obtain ⟨hended, hsame⟩ := Call.report_ends hreport
      refine ⟨hsame.trans hresult, .inr ⟨hended, fun x hx => ?_⟩⟩
      cases hx
      exact .inl (tells_of_report hresult hspoken hreport rfl)
    · simp [Call.taskMove, hp] at hm
  · rw [Call.expire_of_hasReturned hreturned] at hm
    cases hm
  · obtain ⟨conversation, lookup, hcall⟩ := hbeside.call
    refine ⟨by rw [hcall]; exact hresult, hstands.imp ?_ ?_⟩
    · rintro ⟨e, he, hp, hspoken⟩
      exact ⟨e, he, by rw [hcall]; exact hp, hbeside.spoken _ hspoken⟩
    · rintro ⟨hp, hanswers⟩
      refine ⟨by rw [hcall]; exact hp, fun x hx => ?_⟩
      subst hx
      exact (hanswers x rfl).beside hbeside hresult

/-! ## A handler that is given up -/

/-- How far the report of a failure has come, behind the items that the reply had taken. -/
inductive Reported (items : List Json) (e : CallError) (sc : Scene) : Prop where
  /-- The reply is kept until the call is over, and it is. -/
  | kept {sent : List Json} (houtbound : sc.call.conversation.outbound = .buffer sent)
      (hp : sc.call.progress = .ended)
  | pending {frames : Channel Frame} (houtbound : sc.call.conversation.outbound = .channel frames)
      (hp : sc.call.progress = .reporting e) (hopen : frames.senderGone = false)
      (hdelivery : Delivery frames sc.received sc.sawEnd (items.map .ok))
  /-- The reply has taken the failure, or nobody is left to take it. -/
  | told {frames : Channel Frame} (houtbound : sc.call.conversation.outbound = .channel frames)
      (hp : sc.call.progress = .ended)
      (hclosed : frames.receiverGone = false → frames.senderGone = true)
      (hdelivery : Delivery frames sc.received sc.sawEnd (items.map .ok ++ [.error e]))

/-- A call whose handler was given up after so many milliseconds. -/
structure Lapsed (ms : Nat) (items : List Json) (sc : Scene) : Prop where
  late : sc.call.began + ms ≤ sc.shared.now
  result : sc.call.result = some (.finished (.error (Call.lateError ms)))
  canceled : sc.canceled = true
  reported : sc.Reported items (Call.lateError ms)

theorem Reported.hasReturned {e : CallError} (h : sc.Reported items e) :
    sc.call.hasReturned = true := by
  unfold Call.hasReturned
  cases h with
  | kept houtbound hp | pending houtbound hp hopen hdelivery
  | told houtbound hp hclosed hdelivery => rw [hp]

/-- **A handler that is given up** leaves a reply that has taken these items, and its failure is
under way. -/
theorem Working.givenUp (h : sc.Working ms) (hgiven : sc.GivenUp sc') :
    sc.shared.now = sc.call.began + ms ∧ ∃ items : List Json,
      (∀ frames, sc.call.conversation.outbound = .channel frames → frames.receiverGone = false →
        sc.received ++ frames.queue = items.map .ok) ∧ sc'.Lapsed ms items := by
  obtain ⟨c, s, hm, rfl⟩ := hgiven
  obtain ⟨ms', htimeout, hhandling, hlate, -, heq⟩ := Call.expire_cases hm
  obtain rfl := Option.some.inj (h.timeout.symm.trans htimeout)
  have hintime := h.inTime hhandling ms h.timeout
  refine ⟨Nat.le_antisymm hintime hlate, ?_⟩
  have hnow := Call.expire_now hm
  have hcall : c = (sc.call.giveUp ms sc.shared).1 := congrArg Prod.fst heq
  unfold Call.giveUp Call.finishWith at hcall
  rw [Call.finish_eq] at hcall
  have hstays := Stage.leaveAll_stays sc.call.began sc.call.entered
    (.finished (.error (Call.lateError ms))) sc.shared sc.call.conversation.cancel
  have houtcome := Stage.leaveAll_outcome sc.call.began sc.call.entered
    (.error (Call.lateError ms)) sc.shared sc.call.conversation.cancel
  generalize Stage.leaveAll sc.call.began sc.call.entered
    (.finished (.error (Call.lateError ms))) sc.shared sc.call.conversation.cancel = r
    at hstays houtcome hcall
  obtain ⟨outcome, s₁, conversation⟩ := r
  obtain rfl : outcome = .finished (.error (Call.lateError ms)) := houtcome
  have houtbound : conversation.outbound = sc.call.conversation.outbound := hstays.outbound
  have hreply := h.reply
  obtain ⟨e, frames, hfailed, hframes, hc⟩ | ⟨hother, hc⟩ := Call.conclude_cases
    (c := { sc.call with conversation, lookup := sc.call.lookup.map Lookup.abandon }) h.guarded
    (.finished (.error (Call.lateError ms)))
  · obtain rfl : Call.lateError ms = e := by injection hfailed with hx; injection hx
    rw [hc] at hcall
    have hframes' : sc.call.conversation.outbound = .channel frames := houtbound.symm.trans hframes
    rw [hframes'] at hreply
    obtain ⟨hopen, items, hdelivery⟩ := hreply
    refine ⟨items, fun frames' hframes₁ hpresent => ?_, ?_⟩
    · cases hframes'.symm.trans hframes₁
      exact hdelivery.whole hpresent
    · subst hcall
      exact ⟨Nat.le_trans hlate (Nat.le_of_eq hnow.symm), rfl, rfl,
        .pending hframes rfl hopen hdelivery⟩
  · rw [hc] at hcall
    cases hkept : sc.call.conversation.outbound with
    | channel frames => exact (hother _ frames rfl (houtbound.trans hkept)).elim
    | buffer sent =>
      refine ⟨[], (fun frames hframes => by cases hframes), ?_⟩
      have hclosed : (Call.closeFrames conversation.cancel).outbound = .buffer sent := by
        have hsent : conversation.cancel.outbound = .buffer sent := houtbound.trans hkept
        simp only [Call.closeFrames, hsent]
      have hcanceled : (Call.closeFrames conversation.cancel).context.canceled = true := by
        rw [Call.closeFrames_context]
        rfl
      subst hcall
      exact ⟨Nat.le_trans hlate (Nat.le_of_eq hnow.symm), rfl, hcanceled, .kept hclosed rfl⟩

/-- A canceled producer leaves the backend alone. -/
theorem produce_backend_of_canceled {l l' : Lookup} {now : Nat} {b b' : Backend}
    (hm : l.produce now true b = some (l', b')) : b' = b := by
  unfold Lookup.produce at hm
  split at hm
  · cases hm
    rfl
  · obtain ⟨l₁, -, heq⟩ := Option.map_eq_some_iff.1 hm
    cases heq
    rfl
  · obtain ⟨l₁, -, heq⟩ := Option.map_eq_some_iff.1 hm
    cases heq
    rfl

/-- The failure is reported, or nobody is left to take it. -/
theorem Lapsed.task {c : Call} {s : Surroundings} (h : sc.Lapsed ms items)
    (hm : sc.call.taskMove sc.shared = some (c, s)) (fault : Option String) :
    c.progress = .ended ∧ s = sc.shared ∧
      Lapsed ms items { sc with call := c, shared := s, fault } := by
  obtain ⟨hlate, hresult, hcanceled, hreported⟩ := h
  cases hreported with
  | kept houtbound hp | told houtbound hp hclosed hdelivery => simp [Call.taskMove, hp] at hm
  | @pending frames houtbound hp hopen hdelivery =>
    simp only [Call.taskMove, hp] at hm
    obtain ⟨c', hreport, heq⟩ := Option.map_eq_some_iff.1 hm
    cases heq
    refine ⟨(Call.report_ends hreport).1, rfl, ?_⟩
    obtain ⟨hpresent, rfl⟩ | ⟨hgone, rfl⟩ := Call.report_cases houtbound hreport
    · exact ⟨hlate, hresult, hcanceled, .told rfl rfl (fun _ => rfl)
        (hdelivery.send hopen hpresent (.error (Call.lateError ms)) true)⟩
    · refine ⟨hlate, hresult, hcanceled, .told houtbound rfl (fun hpresent => ?_)
        ⟨hdelivery.within.trans (List.prefix_append _ _), fun hpresent => ?_, fun hsaw => ?_⟩⟩
      · cases hgone.symm.trans hpresent
      · cases hgone.symm.trans hpresent
      · cases hopen.symm.trans (hdelivery.ended hsaw).1

/-- The client acts on the frames, and leaves what has been sent. -/
theorem Reported.withFrames {e : CallError} {frames frames' : Channel Frame} {received : List Frame}
    {sawEnd undisturbed : Bool} (h : sc.Reported items e)
    (hframes : sc.call.conversation.outbound = .channel frames)
    (hsender : frames'.senderGone = frames.senderGone)
    (hreceiver : frames.receiverGone = true → frames'.receiverGone = true)
    (hdelivery : ∀ sent, Delivery frames sc.received sc.sawEnd sent →
      Delivery frames' received sawEnd sent) :
    Reported items e
      { sc with call := sc.call.withFrames frames', received, sawEnd, undisturbed } := by
  cases h with
  | kept houtbound hp => cases houtbound.symm.trans hframes
  | pending houtbound hp hopen hdelivered =>
    cases houtbound.symm.trans hframes
    exact .pending rfl hp (hsender.trans hopen) (hdelivery _ hdelivered)
  | told houtbound hp hclosed hdelivered =>
    cases houtbound.symm.trans hframes
    refine .told rfl hp (fun hpresent => ?_) (hdelivery _ hdelivered)
    refine hsender.trans (hclosed ?_)
    rw [← Bool.not_eq_true]
    intro hgone
    cases (hreceiver hgone).symm.trans hpresent

/-- Something happens beside the reply. -/
theorem Reported.aside {e : CallError} (h : sc.Reported items e)
    (houtbound' : sc'.call.conversation.outbound = sc.call.conversation.outbound)
    (hp' : sc'.call.progress = sc.call.progress) (hreceived : sc'.received = sc.received)
    (hsaw : sc'.sawEnd = sc.sawEnd) : sc'.Reported items e := by
  cases h with
  | kept houtbound hp => exact .kept (houtbound'.trans houtbound) (hp'.trans hp)
  | pending houtbound hp hopen hdelivery =>
    exact .pending (houtbound'.trans houtbound) (hp'.trans hp) hopen
      (by rw [hreceived, hsaw]; exact hdelivery)
  | told houtbound hp hclosed hdelivery =>
    exact .told (houtbound'.trans houtbound) (hp'.trans hp) hclosed
      (by rw [hreceived, hsaw]; exact hdelivery)

/-- **A step of a call that was given up**: it touches the backend no more, and all that is sent is
the failure. -/
theorem Lapsed.own (h : sc.Lapsed ms items) (hs : OwnStep sc sc') :
    sc'.Lapsed ms items ∧ sc'.shared.backend = sc.shared.backend := by
  have hreturned := h.reported.hasReturned
  cases hs with
  | task hm =>
    obtain ⟨-, rfl, hlapsed⟩ := h.task hm _
    exact ⟨hlapsed, rfl⟩
  | expire hm => cases (Call.expire_of_hasReturned hreturned).symm.trans hm
  | produce hl hm =>
    rw [h.canceled] at hm
    exact ⟨⟨h.late, h.result, h.canceled, h.reported.aside rfl rfl rfl rfl⟩,
      produce_backend_of_canceled hm⟩
  | stream noticed hl hnoticed hm | breakdown words hl hm =>
    exact ⟨⟨h.late, h.result, h.canceled, h.reported.aside rfl rfl rfl rfl⟩, rfl⟩
  | cancel => exact ⟨⟨h.late, h.result, rfl, h.reported.aside rfl rfl rfl rfl⟩, rfl⟩
  | read hframes hpresent hr =>
    refine ⟨⟨h.late, h.result, h.canceled,
      h.reported.withFrames hframes ?_ ?_ fun _ hd => hd.read hr⟩, rfl⟩
    · obtain ⟨rest, -, rfl⟩ := Channel.receive_eq_got hr
      rfl
    · intro hgone
      cases hgone.symm.trans hpresent
  | @readEnd frames hframes hpresent hr =>
    have hsame : Reported items (Call.lateError ms)
        { sc with call := sc.call.withFrames frames, sawEnd := true } :=
      h.reported.withFrames hframes rfl id fun _ hd => hd.readEnd hpresent hr
    rw [Call.withFrames_self hframes] at hsame
    exact ⟨⟨h.late, h.result, h.canceled, hsame⟩, rfl⟩
  | leave hframes =>
    exact ⟨⟨h.late, h.result, h.canceled,
      h.reported.withFrames hframes rfl (fun _ => rfl) fun _ hd => hd.leave⟩, rfl⟩

theorem Lapsed.of_timely (h : sc.Lapsed ms items) (ht : Timely sc sc') : sc'.Lapsed ms items :=
  ht.induct (fun _ _ h hs => (h.own hs).1)
    (fun _ _ h hs _ => ⟨Nat.le_trans h.late hs.now, h.result, h.canceled,
      h.reported.aside rfl rfl rfl rfl⟩) h

theorem Settled.of_timely (h : sc.Settled outcome) (ht : Timely sc sc') : sc'.Settled outcome :=
  ht.induct (fun _ _ h hs => h.own hs) (fun _ _ h _ _ => ⟨h.result, h.stands⟩) h

/-! ## The end of a call that was given up -/

/-- Of a call that is over, a client that reads on gets all that was sent, and sees the end. -/
theorem exists_drained {frames : Channel Frame} {sent : List Frame}
    (houtbound : sc.call.conversation.outbound = .channel frames)
    (hp : sc.call.progress = .ended) (hpresent : frames.receiverGone = false)
    (hclosed : frames.senderGone = true) (hdelivery : Delivery frames sc.received sc.sawEnd sent) :
    ∃ sc', Timely sc sc' ∧ sc'.call.isOver = true ∧ sc'.sawEnd = true ∧ sc'.received = sent := by
  induction hqueue : frames.queue generalizing sc frames with
  | nil =>
    have hr : frames.receive = .ended := by simp [Channel.receive, hqueue, hclosed]
    have hwhole := hdelivery.whole hpresent
    rw [hqueue, List.append_nil] at hwhole
    refine ⟨_, .own .refl (.readEnd houtbound hpresent hr), ?_, rfl, hwhole⟩
    show sc.call.isOver = true
    simp [Call.isOver, hp]
  | cons frame rest ih =>
    have hr : frames.receive = .got frame { frames with queue := rest } := by
      simp [Channel.receive, hqueue]
    let frames₁ : Channel Frame := { frames with queue := rest }
    let sc₁ : Scene :=
      { sc with call := sc.call.withFrames frames₁, received := sc.received ++ [frame] }
    have hs : OwnStep sc sc₁ := .read houtbound hpresent hr
    have houtbound₁ : sc₁.call.conversation.outbound = .channel frames₁ := rfl
    have hp₁ : sc₁.call.progress = .ended := hp
    obtain ⟨sc', ht, hend⟩ := ih houtbound₁ hp₁ hpresent hclosed (hdelivery.read hr) rfl
    exact ⟨sc', (Timely.own .refl hs).trans ht, hend⟩

/-- A client that reads on makes room for the failure. -/
theorem Lapsed.exists_told (h : sc.Lapsed ms items) {frames : Channel Frame}
    (houtbound : sc.call.conversation.outbound = .channel frames)
    (hp : sc.call.progress = .reporting (Call.lateError ms))
    (hpresent : frames.receiverGone = false) :
    ∃ sc', Timely sc sc' ∧ sc'.Lapsed ms items ∧ sc'.call.progress = .ended ∧
      ∃ frames', sc'.call.conversation.outbound = .channel frames' ∧
        frames'.receiverGone = false := by
  induction hqueue : frames.queue generalizing sc frames with
  | nil =>
    obtain ⟨c, hreport⟩ := Call.exists_report (Call.lateError ms) houtbound fun _ => by
      rw [hqueue]
      exact frames.positive
    have hm : sc.call.taskMove sc.shared = some (c, sc.shared) := by
      simp [Call.taskMove, hp, hreport]
    obtain ⟨hended, -, -⟩ := h.task hm none
    refine ⟨_, .own .refl (.task hm), (h.own (.task hm)).1, hended, ?_⟩
    obtain ⟨-, rfl⟩ | ⟨hgone, -⟩ := Call.report_cases houtbound hreport
    · exact ⟨_, rfl, hpresent⟩
    · cases hgone.symm.trans hpresent
  | cons frame rest ih =>
    have hr : frames.receive = .got frame { frames with queue := rest } := by
      simp [Channel.receive, hqueue]
    have hs : OwnStep sc { sc with
        call := sc.call.withFrames { frames with queue := rest }
        received := sc.received ++ [frame] } := .read houtbound hpresent hr
    obtain ⟨sc', ht, hend⟩ := ih (h.own hs).1 rfl hp hpresent rfl
    exact ⟨sc', (Timely.own .refl hs).trans ht, hend⟩

/-- **A call that was given up ends.** A client that reads on gets the items, then the failure, and
sees the end. -/
theorem Lapsed.ends (h : sc.Lapsed ms items) :
    ∃ sc', Timely sc sc' ∧ sc'.call.isOver = true ∧
      ∀ frames, sc.call.conversation.outbound = .channel frames → frames.receiverGone = false →
        sc'.sawEnd = true ∧ sc'.received = items.map .ok ++ [.error (Call.lateError ms)] := by
  have hover : ∀ {sc : Scene}, sc.call.progress = .ended → sc.call.isOver = true := by
    intro sc hp
    simp [Call.isOver, hp]
  cases h.reported with
  | kept houtbound hp =>
    refine ⟨sc, .refl, hover hp, fun frames hframes => ?_⟩
    cases houtbound.symm.trans hframes
  | @told frames houtbound hp hclosed hdelivery =>
    cases hpresent : frames.receiverGone with
    | true =>
      refine ⟨sc, .refl, hover hp, fun frames' hframes hpresent' => ?_⟩
      cases houtbound.symm.trans hframes
      cases hpresent.symm.trans hpresent'
    | false =>
      obtain ⟨sc', ht, hover, hend⟩ :=
        exists_drained houtbound hp hpresent (hclosed hpresent) hdelivery
      exact ⟨sc', ht, hover, fun _ _ _ => hend⟩
  | @pending frames houtbound hp hopen hdelivery =>
    cases hpresent : frames.receiverGone with
    | true =>
      obtain ⟨c, hreport⟩ := Call.exists_report (Call.lateError ms) houtbound fun hpresent' => by
        cases hpresent.symm.trans hpresent'
      have hm : sc.call.taskMove sc.shared = some (c, sc.shared) := by
        simp [Call.taskMove, hp, hreport]
      refine ⟨_, .own .refl (.task hm), hover (h.task hm none).1,
        fun frames' hframes hpresent' => ?_⟩
      cases houtbound.symm.trans hframes
      cases hpresent.symm.trans hpresent'
    | false =>
      obtain ⟨sc₁, ht₁, hlapsed, hended, frames', houtbound', hpresent'⟩ :=
        h.exists_told houtbound hp hpresent
      cases hlapsed.reported with
      | kept houtbound₁ hp₁ => cases houtbound₁.symm.trans houtbound'
      | pending houtbound₁ hp₁ hopen₁ hdelivery₁ => cases hp₁.symm.trans hended
      | told houtbound₁ hp₁ hclosed₁ hdelivery₁ =>
        cases houtbound₁.symm.trans houtbound'
        obtain ⟨sc', ht, hover, hend⟩ :=
          exists_drained houtbound₁ hp₁ hpresent' (hclosed₁ hpresent') hdelivery₁
        exact ⟨sc', ht₁.trans ht, hover, fun _ _ _ => hend⟩

/-- **A call that has been cut off** by its deadline, after its reply had taken these items. -/
structure CutOff (ms : Nat) (items : List Json) (sc : Scene) : Prop where
  /-- It has come out with the failure of a call whose time is up. -/
  result : sc.call.result = some (.finished (.error (Call.lateError ms)))
  canceled : sc.canceled = true
  /-- No step of the call touches the backend any more. -/
  backend : ∀ sc', OwnStep sc sc' → sc'.shared.backend = sc.shared.backend
  /-- A unary call is over, and its reply is the failure. -/
  unary : ∀ sent, sc.call.conversation.outbound = .buffer sent →
    sc.call.isOver = true ∧ sc.call.reply = .error (Call.lateError ms)
  /-- What the client gets, and what is under way, are the items and then the failure. -/
  within : ∀ frames, sc.call.conversation.outbound = .channel frames →
    sc.received ++ frames.queue <+: items.map .ok ++ [.error (Call.lateError ms)]
  /-- A client that sees the end has got all of it. -/
  whole : sc.sawEnd = true → ∀ frames, sc.call.conversation.outbound = .channel frames →
    sc.received = items.map .ok ++ [.error (Call.lateError ms)]
  /-- The call is over, or its next move is its last, or its client has to read first. -/
  moves : sc.call.isOver = true ∨
    (∃ c s, sc.call.taskMove sc.shared = some (c, s) ∧ c.isOver = true) ∨
    ∃ frames, sc.call.conversation.outbound = .channel frames ∧ frames.receiverGone = false ∧
      frames.capacity ≤ frames.queue.length
  /-- It comes to an end, and a client that reads on gets all of it and sees the end. -/
  ends : ∃ sc', Timely sc sc' ∧ sc'.call.isOver = true ∧
    ∀ frames, sc.call.conversation.outbound = .channel frames → frames.receiverGone = false →
      sc'.sawEnd = true ∧ sc'.received = items.map .ok ++ [.error (Call.lateError ms)]

theorem Lapsed.cutOff (h : sc.Lapsed ms items) : sc.CutOff ms items where
  result := h.result
  canceled := h.canceled
  backend _ hs := (h.own hs).2
  unary sent hsent := by
    cases h.reported with
    | kept houtbound hp => exact ⟨by simp [Call.isOver, hp], Call.reply_of_result h.result⟩
    | pending houtbound hp hopen hdelivery => cases houtbound.symm.trans hsent
    | told houtbound hp hclosed hdelivery => cases houtbound.symm.trans hsent
  within frames hframes := by
    cases h.reported with
    | kept houtbound hp => cases houtbound.symm.trans hframes
    | pending houtbound hp hopen hdelivery =>
      cases houtbound.symm.trans hframes
      exact hdelivery.within.trans (List.prefix_append _ _)
    | told houtbound hp hclosed hdelivery =>
      cases houtbound.symm.trans hframes
      exact hdelivery.within
  whole hsaw frames hframes := by
    cases h.reported with
    | kept houtbound hp => cases houtbound.symm.trans hframes
    | pending houtbound hp hopen hdelivery => cases hopen.symm.trans (hdelivery.ended hsaw).1
    | told houtbound hp hclosed hdelivery => exact (hdelivery.ended hsaw).2
  moves := by
    cases h.reported with
    | kept houtbound hp | told houtbound hp hclosed hdelivery =>
      exact .inl (by simp [Call.isOver, hp])
    | @pending frames houtbound hp hopen hdelivery =>
      refine .inr ?_
      by_cases hroom : frames.receiverGone = false → frames.queue.length < frames.capacity
      · obtain ⟨c, hreport⟩ := Call.exists_report (Call.lateError ms) houtbound hroom
        have hm : sc.call.taskMove sc.shared = some (c, sc.shared) := by
          simp [Call.taskMove, hp, hreport]
        exact .inl ⟨c, _, hm, by simp [Call.isOver, (h.task hm none).1]⟩
      · obtain ⟨hpresent, hfull⟩ := Classical.not_imp.1 hroom
        exact .inr ⟨frames, houtbound, hpresent, Nat.le_of_not_lt hfull⟩
  ends := h.ends

/-! ## The course of a call -/

/-- Where a timely run of a call has come to. What is not cut off by the deadline is a run of the
call without it. -/
inductive Course (start : Scene) (ms : Nat) (sc : Scene) : Prop where
  | working (h : sc.Working ms) (hfree : Timely start.untimed sc.untimed)
  | settled {outcome : Outcome} (h : sc.Settled outcome) (hfree : Timely start.untimed sc.untimed)
  | lapsed {items : List Json} (h : sc.Lapsed ms items)

theorem Course.own (h : Course start ms sc) (hs : OwnStep sc sc') : Course start ms sc' := by
  cases h with
  | working h hfree =>
    obtain hfree' | hgiven := hs.untimed
    · obtain hworking | ⟨outcome, hsettled⟩ | hgiven := h.own hs
      · exact .working hworking (hfree.own hfree')
      · exact .settled hsettled (hfree.own hfree')
      · obtain ⟨-, items, -, hlapsed⟩ := h.givenUp hgiven
        exact .lapsed hlapsed
    · obtain ⟨-, items, -, hlapsed⟩ := h.givenUp hgiven
      exact .lapsed hlapsed
  | settled h hfree =>
    obtain hfree' | ⟨c, s, hm, -⟩ := hs.untimed
    · exact .settled (h.own hs) (hfree.own hfree')
    · cases (Call.expire_of_hasReturned h.hasReturned).symm.trans hm
  | lapsed h => exact .lapsed (h.own hs).1

theorem Course.others {s : Surroundings} (h : Course start ms sc) (hs : sc.shared.Evolves s)
    (hintime : InTime { sc with shared := s }) : Course start ms { sc with shared := s } := by
  cases h with
  | working h hfree =>
    exact .working ⟨h.guarded, h.timeout, h.atWork, hintime, h.reply⟩ (hfree.others_untimed hs)
  | settled h hfree => exact .settled ⟨h.result, h.stands⟩ (hfree.others_untimed hs)
  | lapsed h => exact .lapsed (h.of_timely (.others .refl hs hintime))

theorem working_start (g : Gateway) (route : Route) (params : Json) (headers : Headers)
    (capacity : Nat) (shared : Surroundings) :
    (Scene.start g route params headers capacity shared).Working g.timeout := by
  unfold Scene.start
  cases hkind : route.kind with
  | unary =>
    refine ⟨rfl, rfl, rfl, (fun hhandling => by cases hhandling), ?_⟩
    simp only [Gateway.newCall, hkind]
    trivial
  | serverStreaming =>
    exact ⟨rfl, rfl, rfl, (fun hhandling => by cases hhandling), rfl, [], .fresh capacity⟩

/-- **Every timely run** has come to one of the three. -/
theorem Course.of_timely {g : Gateway} {route : Route} {params : Json} {headers : Headers}
    {capacity : Nat} {shared : Surroundings}
    (h : Timely (.start g route params headers capacity shared) sc) :
    Course (.start g route params headers capacity shared) g.timeout sc :=
  h.induct (fun _ _ h hs => h.own hs) (fun _ _ h hs hintime => h.others hs hintime)
    (.working (working_start g route params headers capacity shared) .refl)

/-- What follows a handler that has come out by itself is a run of the call without its deadline. -/
theorem Settled.free_of_timely (h : sc.Settled outcome) (hfree : Timely start sc.untimed)
    (ht : Timely sc sc') : Timely start sc'.untimed := by
  have hboth : sc'.Settled outcome ∧ Timely start sc'.untimed := by
    refine ht.induct (P := fun sc => sc.Settled outcome ∧ Timely start sc.untimed) ?_ ?_ ⟨h, hfree⟩
    · rintro sc₁ sc₂ ⟨h₁, hfree₁⟩ hs
      refine ⟨h₁.own hs, ?_⟩
      obtain hfree₂ | ⟨c, s, hm, -⟩ := hs.untimed
      · exact hfree₁.own hfree₂
      · cases (Call.expire_of_hasReturned h₁.hasReturned).symm.trans hm
    · rintro sc₁ s ⟨h₁, hfree₁⟩ hs -
      exact ⟨⟨h₁.result, h₁.stands⟩, hfree₁.others_untimed hs⟩
  exact hboth.2

theorem Course.working_of_isHandling (h : Course start ms sc)
    (hhandling : sc.call.isHandling = true) : sc.Working ms := by
  have hatWork := Call.not_hasReturned_of_isHandling hhandling
  cases h with
  | working h hfree => exact h
  | settled h hfree => cases hatWork.symm.trans h.hasReturned
  | lapsed h => cases hatWork.symm.trans h.reported.hasReturned

end Scene

/-! ## The deadline -/

/-- **The deadline cuts cleanly.** Take any call of any gateway, and any run in which the clock does
not go past the deadline of a handler at work.

* At its deadline a handler that is still at work moves on or is given up.
* A handler that is out has come out as without a deadline, or has been cut off. If it is out before
  its deadline, then whatever follows is a run of the call without a deadline: the result stays, and
  when the call is over, its reply tells it.
* A handler is given up at its deadline and at no other moment, and from then on the call is cut off
  behind the items that its reply has taken. -/
theorem deadline_cuts_cleanly (g : Gateway) (route : Route) (params : Json) (headers : Headers)
    (capacity : Nat) (shared : Surroundings) {sc : Scene}
    (h : Scene.Timely (.start g route params headers capacity shared) sc) :
    (sc.call.isHandling = true → sc.shared.now ≤ sc.call.began + g.timeout ∧
      (sc.call.began + g.timeout ≤ sc.shared.now →
        (sc.call.taskMove sc.shared).isSome = true ∨ (sc.call.expire sc.shared).isSome = true)) ∧
    (sc.call.hasReturned = true →
      (Scene.Timely (Scene.start g route params headers capacity shared).untimed sc.untimed ∨
        ∃ items, sc.CutOff g.timeout items) ∧
      (sc.shared.now < sc.call.began + g.timeout → ∀ sc', Scene.Timely sc sc' →
        Scene.Timely (Scene.start g route params headers capacity shared).untimed sc'.untimed ∧
          sc'.call.result = sc.call.result ∧
          ∀ x, sc.call.result = some (.finished x) → sc'.call.isOver = true → sc'.Answers x)) ∧
    ∀ sc', sc.GivenUp sc' → sc.shared.now = sc.call.began + g.timeout ∧ ∃ items : List Json,
      (∀ frames, sc.call.conversation.outbound = .channel frames → frames.receiverGone = false →
        sc.received ++ frames.queue = items.map .ok) ∧
      ∀ sc'', Scene.Timely sc' sc'' → sc''.CutOff g.timeout items := by
  have hcourse := Scene.Course.of_timely h
  refine ⟨fun hhandling => ?_, fun hreturned => ?_, fun sc' hgiven => ?_⟩
  · have hworking := hcourse.working_of_isHandling hhandling
    refine ⟨hworking.inTime hhandling _ hworking.timeout, fun hlate => ?_⟩
    cases hm : sc.call.taskMove sc.shared with
    | some r => exact .inl rfl
    | none => exact .inr (by simp [Call.expire, hworking.timeout, hhandling, hlate, hm])
  · cases hcourse with
    | working h hfree => cases h.atWork.symm.trans hreturned
    | lapsed hlapsed =>
      refine ⟨.inr ⟨_, hlapsed.cutOff⟩, fun hearly => ?_⟩
      have hlate := hlapsed.late
      omega
    | @settled outcome hsettled hfree =>
      refine ⟨.inl hfree, fun _ sc' ht => ?_⟩
      have hsettled' := hsettled.of_timely ht
      refine ⟨hsettled.free_of_timely hfree ht, hsettled'.result.trans hsettled.result.symm, ?_⟩
      intro x hx hover
      obtain rfl := Option.some.inj (hsettled.result.symm.trans hx)
      obtain ⟨e, -, hp, -⟩ | ⟨-, hanswers⟩ := hsettled'.stands
      · simp [Call.isOver, hp] at hover
      · exact hanswers x rfl
  · obtain ⟨c, s, hm, -⟩ := id hgiven
    obtain ⟨ms, -, hhandling, -⟩ := Call.expire_cases hm
    have hworking := hcourse.working_of_isHandling hhandling
    obtain ⟨hmoment, items, hitems, hlapsed⟩ := hworking.givenUp hgiven
    exact ⟨hmoment, items, hitems, fun sc'' ht => (hlapsed.of_timely ht).cutOff⟩

/-- Two calls that may take twenty milliseconds. A handler that takes ten of them replies as it
would without a deadline. A lookup that shows one item and then hangs is cut off: the client gets
the item, the failure and the end. -/
theorem deadline_cuts_cleanly_twenty :
    let g : Gateway := { routes := [], stages := Stage.standard false none, timeout := 20 }
    let backend : Backend :=
      { mint := fun n => ⟨toString n⟩, script := some { ids := ["ada"], ending := .hang } }
    let shared : Surroundings := { unixTime := 0, backend, traceIds := fun _ => "trace" }
    let slow : Route :=
      ⟨"t/Slow", .unary, .sleep 10 (.send (.str "pong") fun _ => .done (.ok ()))⟩
    let params : Json := .obj [("resource", .obj [("object_type", .str "document"),
      ("object_id", .str "readme")]), ("permission", .str "viewer"), ("subject_type", .str "user")]
    (∃ sc, Scene.Timely (.start g slow .null {} replyBuffer shared) sc ∧ sc.shared.now = 10 ∧
        sc.call.reply = .ok (.str "pong") ∧
        Scene.Timely (Scene.start g slow .null {} replyBuffer shared).untimed sc.untimed) ∧
      ∃ sc, Scene.Timely (.start g StreamKind.subjects.route params {} replyBuffer shared) sc ∧
        sc.shared.now = 20 ∧ sc.canceled = true ∧ sc.call.isOver = true ∧ sc.sawEnd = true ∧
        ∃ item, sc.received = [.ok item, .error (Call.lateError g.timeout)] := by
  intro g backend shared slow params
  have hclock : ∀ (s : Surroundings) (ms : Nat), s.Evolves { s with now := s.now + ms } :=
    fun s ms => ⟨Nat.le_add_right _ _, List.prefix_rfl, rfl, rfl, rfl⟩
  constructor
  · have h₀ : Scene.Timely (.start g slow .null {} replyBuffer shared) _ := .refl
    have h₁ := h₀.own (.task rfl)
    have h₂ := h₁.own (.task rfl)
    have h₃ := h₂.others (hclock _ 10) fun _ ms hms => by cases hms; decide
    have h₄ := h₃.own (.task rfl)
    have h₅ := h₄.own (.task rfl)
    have h₆ := h₅.own (.task rfl)
    obtain ⟨-, hown⟩ := (deadline_cuts_cleanly g slow .null {} replyBuffer shared h₆).2.1 rfl
    obtain ⟨hfree, -, -⟩ := hown (by decide) _ .refl
    exact ⟨_, h₆, rfl, rfl, hfree⟩
  · let route := StreamKind.subjects.route
    have h₀ : Scene.Timely (.start g route params {} replyBuffer shared) _ := .refl
    have h₁ := h₀.own (.task rfl)
    have h₂ := h₁.own (.task rfl)
    have h₃ := h₂.own (.task rfl)
    have h₄ := h₃.own (.produce rfl rfl)
    have h₅ := h₄.own (.stream false rfl (fun h => h) rfl)
    have h₆ := h₅.own (.produce rfl rfl)
    have h₇ := h₆.own (.produce rfl rfl)
    have h₈ := h₇.own (.task rfl)
    have h₉ := h₈.own (.task rfl)
    have h₁₀ := h₉.others (hclock _ 20) fun _ ms hms => by cases hms; decide
    obtain ⟨-, -, hgiven⟩ := deadline_cuts_cleanly g route params {} replyBuffer shared h₁₀
    obtain ⟨hmoment, items, hitems, hcut⟩ := hgiven _ ⟨_, _, rfl, rfl⟩
    have hpresent := hitems _ rfl rfl
    -- What follows is seen from the moment of the cut.
    have hself : ∀ {start sc : Scene}, Scene.Timely start sc → Scene.Timely sc sc := fun _ => .refl
    have h₁₁ := h₁₀.own (.expire rfl)
    have t₁ := (hself h₁₁).own (.task rfl)
    have t₂ := t₁.own (.read rfl rfl rfl)
    have t₃ := t₂.own (.read rfl rfl rfl)
    have t₄ := t₃.own (.readEnd rfl rfl rfl)
    have hcanceled := (hcut _ t₄).canceled
    have hwhole := (hcut _ t₄).whole rfl _ rfl
    have hlength : 1 = (items.map Except.ok).length := congrArg List.length hpresent
    rw [List.length_map] at hlength
    obtain ⟨item, rfl⟩ := List.length_eq_one_iff.1 hlength.symm
    exact ⟨_, h₁₁.trans t₄, hmoment, hcanceled, rfl, rfl, item, hwhole⟩

end RelationGate
