import RelationGate.Proofs.Call.Standstill
import RelationGate.Proofs.Call.Streaming

/-!
# Calls without their clients

A client may leave its streaming call alone in two ways: it does not read, or it leaves.

* `late_call_alive_iff_unread`: past its time a call is canceled, and nothing of it is left but
  perhaps the task of the gateway, which is left exactly if the failure of the call still waits
  behind frames that the client has not read.
* `left_call_over_iff`: once the client has left, the call is canceled and over, and nothing of it
  is left, exactly if its handler is not held up by the backend or asleep.
-/

namespace RelationGate

namespace Aftermath

variable {a a' : Aftermath} {ms capacity : Nat} {e : CallError}

/-! ## Past the time of the call -/

/-- **A failure that waits behind unread frames**: the reply is as far ahead of its client as it may
be, so that the failure of the call cannot be handed over, and the client is still there. -/
structure Backlogged (a : Aftermath) (e : CallError) (frames : Channel Frame) : Prop where
  progress : a.scene.call.progress = .reporting e
  outbound : a.scene.call.conversation.outbound = .channel frames
  present : frames.receiverGone = false
  full : frames.queue.length = frames.capacity

/-- What the acts can lead to while the client neither reads nor leaves. -/
inductive WithoutClient (start : Aftermath) : Aftermath → Prop where
  | refl : WithoutClient start start
  | tail {a a' : Aftermath} (h : WithoutClient start a) (hs : Step a a')
      (hread : a'.scene.received = a.scene.received) (hpresent : a'.clientGone = false) :
      WithoutClient start a'

namespace Backlogged

variable {frames : Channel Frame}

theorem isOver (h : a.Backlogged e frames) : a.scene.call.isOver = false := by
  rw [Call.isOver, h.progress]

/-- The task of the gateway cannot move. -/
theorem taskMove (h : a.Backlogged e frames) : a.scene.call.taskMove a.scene.shared = none := by
  have hnone := Call.report_eq_none_iff (c := a.scene.call) (e := e).2
    ⟨frames, h.outbound, h.present, Nat.le_of_eq h.full.symm⟩
  simp only [Call.taskMove, h.progress, hnone, Option.map_none]

/-- **Nobody but the client can help.** -/
theorem step (h : a.Backlogged e frames) (hs : Step a a')
    (hread : a'.scene.received = a.scene.received) (hpresent : a'.clientGone = false) :
    a'.Backlogged e frames := by
  have hwaits := h.taskMove
  cases hs with
  | scene hs =>
    cases hs with
    | task hm =>
      rw [hwaits] at hm
      cases hm
    | deadline htimeout hhandling hlate => simp [Call.isHandling, h.progress] at hhandling
    | produce hl hm | stream noticed hl hnoticed hm | breakdown words hl hm | others hs | cancel
    | readEnd hframes hpresent hr => exact ⟨h.progress, h.outbound, h.present, h.full⟩
    | read hframes hpresent hr => simp [goOn] at hread
    | leave hframes => simp [clientGone, goOn, Call.withFrames, Channel.closeReceiver] at hpresent
  | producer came hl hm | upstream act hl hm | orphan noticed ho hnoticed hm =>
    exact ⟨h.progress, h.outbound, h.present, h.full⟩

theorem lasts (h : a.Backlogged e frames) (hw : WithoutClient a a') : a'.Backlogged e frames := by
  induction hw with
  | refl => exact h
  | tail hw hs hread hpresent ih => exact ih.step hs hread hpresent

/-- The client can: once it has read a frame, or left, the task of the gateway ends with its next
move. -/
theorem ends_of_heard (h : a.Backlogged e frames) (hs : Step a a')
    (hheard : a'.scene.received ≠ a.scene.received ∨ a'.clientGone = true) :
    ∃ c s, a'.scene.call.taskMove a'.scene.shared = some (c, s) ∧ c.isOver = true := by
  have hgone : a.clientGone = false := by
    simp only [clientGone, h.outbound, h.present]
  have hbusy : a'.scene.received = a.scene.received → a'.clientGone = false → False := by
    intro hread hpresent
    rw [hread, hpresent] at hheard
    simp at hheard
  cases hs with
  | scene hs =>
    cases hs with
    | task hm =>
      rw [h.taskMove] at hm
      cases hm
    | deadline htimeout hhandling hlate => simp [Call.isHandling, h.progress] at hhandling
    | produce hl hm | stream noticed hl hnoticed hm | breakdown words hl hm | others hs | cancel
    | readEnd hframes hpresent hr => exact (hbusy rfl hgone).elim
    | read hframes hpresent hr =>
      obtain rfl : frames = _ := by simpa [h.outbound] using hframes
      obtain ⟨rest, hqueue, rfl⟩ := Channel.receive_eq_got hr
      have hroom : rest.length < frames.capacity := by
        have hfull := h.full
        rw [hqueue, List.length_cons] at hfull
        omega
      simp [goOn, Call.taskMove, Call.withFrames, h.progress, Call.report, Channel.send, hpresent,
        hroom, Call.isOver]
    | leave hframes =>
      simp [goOn, Call.taskMove, Call.withFrames, h.progress, Call.report, Channel.send,
        Channel.closeReceiver, Call.isOver]
  | producer came hl hm | upstream act hl hm | orphan noticed ho hnoticed hm =>
    exact (hbusy rfl hgone).elim

end Backlogged

/-- At a standstill past its time, a call is over, or its failure waits behind unread frames. -/
theorem AtStandstill.over_or_backlogged (h : a.AtStandstill)
    (hserves : a.scene.call.Serves ms capacity)
    (hlate : a.scene.call.began + ms ≤ a.scene.shared.now) :
    a.scene.call.isOver = true ∨ ∃ e frames, a.Backlogged e frames ∧ frames.capacity = capacity ∧
      a.scene.call.result = some (.finished (.error e)) := by
  have hdone : a.scene.call.isHandling = true → False := by
    intro hhandling
    have hnow := h.in_time hserves.timeout hhandling
    omega
  cases Call.taskMove_eq_none h.task with
  | ended hover => exact .inl hover
  | asleep ms' next due hp hdue => exact (hdone (by rw [Call.isHandling, hp])).elim
  | answer op next due hp hdue => exact (hdone (by rw [Call.isHandling, hp])).elim
  | results l hp hl hnext => exact (hdone (by rw [Call.isHandling, hp])).elim
  | room frames hframes hpresent hfull hat =>
    obtain hhandling | ⟨e, hp⟩ := hat
    · exact (hdone hhandling).elim
    · have hroom := hserves.room
      have hfits := hserves.fits
      rw [hframes] at hroom hfits
      have hlength : frames.queue.length = frames.capacity := Nat.le_antisymm hfits hfull
      exact .inr ⟨e, frames, ⟨hp, hframes, hpresent, hlength⟩, Option.some.inj hroom,
        hserves.reporting e hp⟩

/-- **The time of a streaming call is not the end of its task.** Take any streaming call of any
gateway, over any backend, and any schedule of the client. At every standstill past the time of the
call it is canceled, and nothing of its lookup is left. But the task of the gateway is over unless
the call has failed and its failure waits behind as many frames as the reply may be ahead, which the
client has not read. There it stays as long as the client neither reads nor leaves, whatever else
happens; once the client does, the task ends. -/
theorem late_call_alive_iff_unread (g : Gateway) (route : Route)
    (hkind : route.kind = .serverStreaming) (params : Json) (headers : Headers) (capacity : Nat)
    (shared : Surroundings) (h : Reachable (.start g route params headers capacity shared) a)
    (hstill : a.AtStandstill) (hlate : a.scene.call.began + g.timeout ≤ a.scene.shared.now) :
    a.scene.canceled = true ∧ a.Cleared ∧
      (a.scene.call.isOver = false ↔ ∃ e frames, a.Backlogged e frames ∧
        frames.capacity = max capacity 1 ∧ a.scene.call.result = some (.finished (.error e))) ∧
      (a.scene.call.isOver = false →
        (∀ a', WithoutClient a a' → a'.scene.call.isOver = false) ∧
        ∀ a', Step a a' → a'.scene.received ≠ a.scene.received ∨ a'.clientGone = true →
          ∃ c s, a'.scene.call.taskMove a'.scene.shared = some (c, s) ∧ c.isOver = true) := by
  have htidy := (Tidy.start g route params headers capacity shared).of_reachable h
  have hserves := Serves.of_reachable g route hkind params headers capacity shared h
  have hcases := hstill.over_or_backlogged hserves hlate
  have hreturned : a.scene.call.hasReturned = true := by
    obtain hover | ⟨e, frames, hb, -⟩ := hcases
    · exact Call.hasReturned_of_isOver hover
    · rw [Call.hasReturned, hb.progress]
  have hcanceled : a.scene.canceled = true := htidy.canceled hreturned
  have halive : a.scene.call.isOver = false → ∃ e frames, a.Backlogged e frames ∧
      frames.capacity = max capacity 1 ∧ a.scene.call.result = some (.finished (.error e)) := by
    intro hover
    refine hcases.resolve_left ?_
    rw [hover]
    exact Bool.false_ne_true
  refine ⟨hcanceled, hstill.cleared htidy hcanceled, ⟨halive, ?_⟩, fun hover => ?_⟩
  · rintro ⟨e, frames, hb, -⟩
    exact hb.isOver
  · obtain ⟨e, frames, hb, -⟩ := halive hover
    exact ⟨fun a' hw => (hb.lasts hw).isOver, fun a' hs hheard => hb.ends_of_heard hs hheard⟩

/-- A handler sends seventeen messages to a client that reads none. When its time is up, there is no
room for the failure, and the task of the gateway is left. -/
theorem late_call_alive_iff_unread_burst :
    let g : Gateway := { routes := [], stages := Stage.standard false none, timeout := 5 }
    let shared : Surroundings :=
      { unixTime := 0, backend := { mint := fun n => ⟨toString n⟩ }, traceIds := fun _ => "trace" }
    let burst : Program := Nat.repeat (fun p => .send (.str "item") fun _ => p) 17 (.done (.ok ()))
    let route : Route := ⟨"t/Burst", .serverStreaming, burst⟩
    ∃ a, Reachable (.start g route .null {} replyBuffer shared) a ∧ a.AtStandstill ∧
      a.scene.call.began + g.timeout ≤ a.scene.shared.now ∧ a.scene.canceled = true ∧
      a.Cleared ∧ a.scene.call.isOver = false ∧
      ∀ a', WithoutClient a a' → a'.scene.call.isOver = false := by
  intro g shared burst route
  let schedule := List.replicate 17 Turn.task ++ [.clock 5, .deadline]
  let a := schedule.foldl take (.start g route .null {} replyBuffer shared)
  have h : Reachable (.start g route .null {} replyBuffer shared) a :=
    Reachable.turns .refl schedule
  have hstill : a.AtStandstill := atStandstill_of_isStill (by decide +kernel)
  have hlate : a.scene.call.began + g.timeout ≤ a.scene.shared.now := by decide +kernel
  have hover : a.scene.call.isOver = false := by decide +kernel
  obtain ⟨hcanceled, hcleared, -, halive⟩ :=
    late_call_alive_iff_unread g route rfl .null {} replyBuffer shared h hstill hlate
  exact ⟨a, h, hstill, hlate, hcanceled, hcleared, hover, (halive hover).1⟩

/-! ## After the client has left -/

/-- At a standstill after the client has left, a call is over, or its handler is held up. Where it
relays a lookup, the call is not even canceled. -/
theorem AtStandstill.over_or_heldUp (h : a.AtStandstill) (htidy : a.Tidy)
    (hgone : a.clientGone = true) :
    a.scene.call.isOver = true ∨ a.scene.call.HeldUp a.scene.shared.now := by
  cases Call.taskMove_eq_none h.task with
  | ended hover => exact .inl hover
  | asleep ms next due hp hdue => exact .inr (.asleep ms next due hp hdue)
  | answer op next due hp hdue => exact .inr (.answer op next due hp hdue)
  | results l hp hl hnext => exact .inr (.item l hp hl (h.awaitsBackend htidy hl hnext).2)
  | room frames hframes hpresent hfull hat =>
    simp only [clientGone, hframes, hpresent] at hgone
    cases hgone

/-- **Whether a call notices that its client has left.** Take any streaming call of any gateway,
over any backend, and any schedule in which the client leaves at any moment. At every standstill
after that, the call is canceled and over, and nothing of its lookup is left, if and only if its
handler is not held up by the backend or asleep. If it is held up, it stays so until the backend or
the clock goes on, and its time is not up; and if it relays a lookup, the call is not canceled, and
the producer is there and waits for the backend. -/
theorem left_call_over_iff (g : Gateway) (route : Route) (hkind : route.kind = .serverStreaming)
    (params : Json) (headers : Headers) (capacity : Nat) (shared : Surroundings)
    (h : Reachable (.start g route params headers capacity shared) a) (hgone : a.clientGone = true)
    (hstill : a.AtStandstill) :
    ((a.scene.canceled = true ∧ a.scene.call.isOver = true ∧ a.Cleared) ↔
        ¬ a.scene.call.HeldUp a.scene.shared.now) ∧
      (a.scene.call.HeldUp a.scene.shared.now →
        a.scene.shared.now < a.scene.call.began + g.timeout ∧
          ∀ l, a.scene.call.lookup = some l →
            a.scene.canceled = false ∧ l.AwaitsBackend a.scene.shared.now) := by
  have htidy := (Tidy.start g route params headers capacity shared).of_reachable h
  have hserves := Serves.of_reachable g route hkind params headers capacity shared h
  refine ⟨⟨?_, fun hfree => ?_⟩, fun hheld => ⟨?_, fun l hl => ?_⟩⟩
  · rintro ⟨-, hover, -⟩ hheld
    rw [Call.isOver_of_isHandling hheld.isHandling] at hover
    cases hover
  · have hover := (hstill.over_or_heldUp htidy hgone).resolve_right hfree
    have hcanceled := htidy.canceled (Call.hasReturned_of_isOver hover)
    exact ⟨hcanceled, hover, hstill.cleared htidy hcanceled⟩
  · exact hstill.in_time hserves.timeout hheld.isHandling
  · have hlate : a.scene.call.isEarly = false := by
      by_contra hearly
      have hnone := htidy.early (by simpa using hearly)
      rw [hl] at hnone
      cases hnone
    cases Call.taskMove_eq_none hstill.task with
    | results l' hp hl' hnext =>
      obtain rfl := Option.some.inj (hl.symm.trans hl')
      exact hstill.awaitsBackend htidy hl hnext
    | ended hover => simp [Call.isOver_of_isHandling hheld.isHandling] at hover
    | asleep ms next due hp hdue => simp [Call.isEarly, hp] at hlate
    | answer op next due hp hdue => simp [Call.isEarly, hp] at hlate
    | room frames hframes hpresent hfull hat =>
      simp only [clientGone, hframes, hpresent] at hgone
      cases hgone

/-- A stream shows one item and then nothing more. The client reads the item and leaves, and the
call goes on as if it had not. -/
theorem left_call_over_iff_hanging :
    let g : Gateway := { routes := [], stages := Stage.standard false none, timeout := 1000 }
    let backend : Backend :=
      { mint := fun n => ⟨toString n⟩, script := some { ids := ["ada"], ending := .hang } }
    let shared : Surroundings := { unixTime := 0, backend, traceIds := fun _ => "trace" }
    let params : Json := .obj [("resource", .obj [("object_type", .str "document"),
      ("object_id", .str "readme")]), ("permission", .str "viewer"), ("subject_type", .str "user")]
    ∃ a, Reachable (.start g StreamKind.subjects.route params {} replyBuffer shared) a ∧
      a.clientGone = true ∧ a.AtStandstill ∧
      ¬ (a.scene.canceled = true ∧ a.scene.call.isOver = true ∧ a.Cleared) ∧
      a.scene.canceled = false ∧ ∃ l, a.scene.call.lookup = some l ∧ l.hasExited = false := by
  intro g backend shared params
  let route := StreamKind.subjects.route
  let schedule : List Turn := [.task, .task, .task, .producer, .stream, .producer, .producer, .task,
    .task, .leave]
  let a := schedule.foldl take (.start g route params {} replyBuffer shared)
  have h : Reachable (.start g route params {} replyBuffer shared) a :=
    Reachable.turns .refl schedule
  have hgone : a.clientGone = true := by decide +kernel
  have hstill : a.AtStandstill := atStandstill_of_isStill (by decide +kernel)
  have hover : a.scene.call.isOver = false := by decide +kernel
  have hstarted : a.scene.call.lookup.isSome = true := by decide +kernel
  obtain ⟨hiff, hheld⟩ :=
    left_call_over_iff g route rfl params {} replyBuffer shared h hgone hstill
  have hnot : ¬ (a.scene.canceled = true ∧ a.scene.call.isOver = true ∧ a.Cleared) := by
    rintro ⟨-, hover', -⟩
    rw [hover] at hover'
    cases hover'
  obtain ⟨l, hl⟩ := Option.isSome_iff_exists.1 hstarted
  obtain ⟨-, hlookup⟩ := hheld (not_not.1 fun hfree => hnot (hiff.2 hfree))
  obtain ⟨hcanceled, hwait⟩ := hlookup l hl
  exact ⟨a, h, hgone, hstill, hnot, hcanceled, l, hl, hwait.hasExited⟩

end Aftermath

end RelationGate
