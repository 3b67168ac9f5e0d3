import RelationGate.Gateway.Server
import RelationGate.Proofs.Call.Scene

/-!
# Which requests start a call

A request over HTTP is answered in one of four ways, and `World.Runs` says what becomes of the
world: by moves of tasks, by the clock and by the client of one call that reads its frames, so that
no further call can begin.

* A GET of the scrape path gets the counters, and the world stays as it is.
* Of all other requests, one whose body is an envelope with the method of a route starts exactly
  one call, and the world runs on from there.
* One whose body is an envelope with another method is answered with an error.
* One whose body is no envelope, or does not arrive, is answered with an error.

The last two leave the calls and the backend alone. The verb and the path of a request that does
not ask for the counters decide nothing: a call that is sent elsewhere than to the documented entry
point is run all the same.

Main result: `call_started_iff`.
-/

namespace RelationGate

/-- What moves and the clock preserve is preserved by a run. -/
theorem Machine.runUntil_invariant {σ : Type} {m : Machine σ} {P : σ → Prop}
    (hmove : ∀ s s', P s → m.move s = some s' → P s') (hwait : ∀ s t, P s → P (m.setNow s t))
    {holds : σ → Bool} {rounds : Nat} {s s' : σ} (hs : P s)
    (h : m.runUntil holds rounds s = some s') : P s' := by
  induction rounds generalizing s with
  | zero => cases h
  | succ rounds ih =>
    rw [runUntil] at h
    split at h
    · cases h
      exact hs
    · split at h
      next s₁ hs₁ => exact ih (hmove s s₁ hs hs₁) h
      next =>
        split at h
        next t _ => exact ih (hwait s t hs) h
        next => cases h

namespace World

variable {i : Nat} {w w' start : World}

/-- Runs of a world in which no call begins: tasks move, the clock goes on, and the client of one
call reads its frames. -/
inductive Runs (i : Nat) (start : World) : World → Prop where
  | refl : Runs i start start
  | move {w w' : World} (h : Runs i start w) (hm : w.move = some w') : Runs i start w'
  | wait {w : World} (h : Runs i start w) (t : Nat) : Runs i start (machine.setNow w t)
  | read {w : World} {frames rest : Channel Frame} {frame : Frame} (h : Runs i start w)
      (hframes : w.frames? i = some frames) (hr : frames.receive = .got frame rest) :
      Runs i start (w.setFrames i rest)

/-- **No call begins** in a run. -/
theorem Runs.length_calls (h : Runs i start w) : w.calls.length = start.calls.length := by
  induction h with
  | refl => rfl
  | move _ hm ih =>
    obtain ⟨j, c, c', -, hcalls, -⟩ := move_cases hm
    rw [hcalls, List.length_set, ih]
  | wait _ t ih => exact ih
  | read _ _ _ ih => exact (List.length_modify _ _ _).trans ih

theorem Runs.of_runUntil {holds : World → Bool} {rounds : Nat} (hs : Runs i start w)
    (h : machine.runUntil holds rounds w = some w') : Runs i start w' :=
  Machine.runUntil_invariant (P := Runs i start) (fun _ _ hruns hm => .move hruns hm)
    (fun _ t hruns => .wait hruns t) hs h

theorem Runs.of_readFrames {n : Nat} (hs : Runs i start w) (read : List Frame) :
    Runs i start (readFrames i n w read).1 := by
  induction n generalizing w read with
  | zero => exact hs
  | succ n ih =>
    rw [readFrames]
    split
    next => exact hs
    next w' hruns =>
      have hs' := hs.of_runUntil hruns
      split
      next => exact hs'
      next frames hframes =>
        split
        next frame rest hr => exact ih (.read hs' hframes hr) _
        next => exact hs'

end World

namespace Gateway

variable {g : Gateway} {w : World} {i : Nat} {r : HttpRequest} {envelope : CallEnvelope}
  {route : Route}

theorem unaryReply_runs : World.Runs i w (unaryReply w i).2 := by
  rw [unaryReply]
  split
  next => exact .refl
  next w' hcomplete =>
    split
    · exact World.Runs.refl.of_runUntil hcomplete
    · exact World.Runs.refl.of_runUntil hcomplete

theorem allFrames_runs : World.Runs i w (allFrames w i).2 :=
  World.Runs.of_readFrames (n := Machine.enoughRounds) .refl []

/-! ## What a request asks for -/

/-- The request asks for the counters. -/
abbrev HttpRequest.IsScrape (r : HttpRequest) : Prop := r.verb = "GET" ∧ r.barePath = scrapePath

/-- The body of the request arrives and is an envelope. -/
def HttpRequest.Brings (r : HttpRequest) (envelope : CallEnvelope) : Prop :=
  ∃ bytes, r.body = .ok bytes ∧ Json.Reader.run CallEnvelope.codec.read bytes = .ok envelope

/-- The request does not ask for the counters, and brings an envelope with the method of a route. -/
structure Takes (g : Gateway) (r : HttpRequest) (envelope : CallEnvelope) (route : Route) :
    Prop where
  isCall : ¬r.IsScrape
  brings : r.Brings envelope
  routed : Route.find? g.routes envelope.method = some route

/-- The errors that answer a request which starts no call. -/
inductive HttpRequest.RefusedWith (r : HttpRequest) : CallError → Prop where
  | unknown {envelope : CallEnvelope} (hbrings : r.Brings envelope) :
      RefusedWith r (.unknownMethod envelope.method)
  | unread (hbrings : ∀ envelope, ¬r.Brings envelope) (words : String) :
      RefusedWith r (.badRequest words)

theorem HttpRequest.asked_of_isScrape (h : r.IsScrape) : r.asked = .scrape := if_pos h

theorem HttpRequest.asked_of_brings (h : ¬r.IsScrape) (hbrings : r.Brings envelope) :
    r.asked = .call envelope := by
  obtain ⟨bytes, hbody, hread⟩ := hbrings
  rw [asked, if_neg h, hbody]
  simp only [hread]

theorem HttpRequest.asked_of_not_brings (h : ¬r.IsScrape) (hbrings : ∀ e, ¬r.Brings e) :
    ∃ words event, r.asked = .refused (.badRequest words) event := by
  rw [asked, if_neg h]
  split
  next words _ => exact ⟨_, _, rfl⟩
  next bytes hbody =>
    split
    next envelope hread => exact absurd ⟨bytes, hbody, hread⟩ (hbrings envelope)
    next fault _ => exact ⟨_, _, rfl⟩

/-- What a request asks for, if not for the counters, is decided by its body. -/
theorem HttpRequest.asked_congr {r' : HttpRequest} (h : ¬r.IsScrape) (h' : ¬r'.IsScrape)
    (hbody : r'.body = r.body) : r'.asked = r.asked := by
  rw [asked, asked, if_neg h, if_neg h', hbody]

/-! ## What comes of it -/

theorem openCall_of_find? (hroute : Route.find? g.routes envelope.method = some route)
    (headers : Headers) :
    g.openCall w envelope.method envelope.params headers =
      (match route.kind with
        | .unary => .unary w.calls.length
        | .serverStreaming => .stream w.calls.length,
        (w.start (g.newCall route envelope.params headers)).1) := by
  simp only [openCall, hroute, World.start]
  cases route.kind <;> rfl

/-- The answer to a request that starts a call, and the world when it has been given. -/
theorem serve_of_takes (h : g.Takes r envelope route) :
    World.Runs w.calls.length (w.start (g.newCall route envelope.params r.headers)).1
        (g.serve w r).2 ∧
      match route.kind with
      | .unary => ∃ reply, (g.serve w r).1 = .single (.ofFrame reply)
      | .serverStreaming => ∃ frames, (g.serve w r).1 = .lines frames := by
  rw [serve, HttpRequest.asked_of_brings h.isCall h.brings]
  simp only [openCall_of_find? h.routed]
  cases hkind : route.kind with
  | unary => exact ⟨unaryReply_runs, _, rfl⟩
  | serverStreaming => exact ⟨allFrames_runs, _, rfl⟩

/-- A request that starts no call and does not ask for the counters is answered with an error, and
at most the log notices it. -/
theorem serve_of_not_takes (h : ¬r.IsScrape)
    (htakes : ∀ envelope route, ¬g.Takes r envelope route) :
    ∃ e events, r.RefusedWith e ∧ g.serve w r =
      (.single (.failed e),
        { w with surroundings :=
          { w.surroundings with events := w.surroundings.events ++ events } }) := by
  by_cases hbrings : ∃ envelope, r.Brings envelope
  · obtain ⟨envelope, hbrings⟩ := hbrings
    have hroute : Route.find? g.routes envelope.method = none :=
      Option.eq_none_iff_forall_ne_some.2 fun route hroute =>
        htakes envelope route ⟨h, hbrings, hroute⟩
    refine ⟨_, [unknownMethodEvent envelope.method], .unknown hbrings, ?_⟩
    rw [serve, HttpRequest.asked_of_brings h hbrings]
    simp only [openCall, hroute, Surroundings.emit]
  · obtain ⟨words, event, hasked⟩ :=
      HttpRequest.asked_of_not_brings h (not_exists.1 hbrings)
    refine ⟨_, event.toList, .unread (not_exists.1 hbrings) words, ?_⟩
    rw [serve, hasked]
    cases event with
    | none => simp only [Option.toList_none, List.append_nil]
    | some event => rfl

/-- **Which requests start a call**: all that do not ask for the counters and bring an envelope with
the method of a route, each exactly one. A request for the counters gets them and changes nothing;
every other one is answered with an error, without a call and without the backend. The verb and the
path say no more than whether it is the counters that are asked for. -/
theorem call_started_iff (g : Gateway) (w : World) (r : HttpRequest) :
    ((g.serve w r).2.calls.length = w.calls.length + 1 ↔
        ∃ envelope route, g.Takes r envelope route) ∧
      (∀ envelope route, g.Takes r envelope route →
        World.Runs w.calls.length (w.start (g.newCall route envelope.params r.headers)).1
            (g.serve w r).2 ∧
          match route.kind with
          | .unary => ∃ reply, (g.serve w r).1 = .single (.ofFrame reply)
          | .serverStreaming => ∃ frames, (g.serve w r).1 = .lines frames) ∧
      (r.IsScrape →
        g.serve w r = (⟨200, "text/plain; version=0.0.4", w.surroundings.metrics.scrape⟩, w)) ∧
      (¬r.IsScrape → (∀ envelope route, ¬g.Takes r envelope route) →
        (∃ e, r.RefusedWith e ∧ (g.serve w r).1 = .single (.failed e)) ∧
          (g.serve w r).2.calls = w.calls ∧
          (g.serve w r).2.surroundings.backend = w.surroundings.backend) ∧
      ∀ verb path, ¬r.IsScrape → ¬{ r with verb, path }.IsScrape →
        g.serve w { r with verb, path } = g.serve w r := by
  have hscrape (h : r.IsScrape) :
      g.serve w r = (⟨200, "text/plain; version=0.0.4", w.surroundings.metrics.scrape⟩, w) := by
    rw [serve, HttpRequest.asked_of_isScrape h]
  have hrefused (h : ¬r.IsScrape) (htakes : ∀ envelope route, ¬g.Takes r envelope route) :
      (∃ e, r.RefusedWith e ∧ (g.serve w r).1 = .single (.failed e)) ∧
        (g.serve w r).2.calls = w.calls ∧
        (g.serve w r).2.surroundings.backend = w.surroundings.backend := by
    obtain ⟨e, events, he, hserve⟩ := g.serve_of_not_takes h htakes
    rw [hserve]
    exact ⟨⟨e, he, rfl⟩, rfl, rfl⟩
  refine ⟨⟨fun hlength => ?_, ?_⟩, fun envelope route htakes => serve_of_takes htakes, hscrape,
    hrefused, fun verb path h h' => ?_⟩
  · by_contra htakes
    simp only [not_exists] at htakes
    have hcalls : (g.serve w r).2.calls = w.calls := by
      by_cases h : r.IsScrape
      · rw [hscrape h]
      · exact (hrefused h htakes).2.1
    rw [hcalls] at hlength
    omega
  · rintro ⟨envelope, route, htakes⟩
    exact (serve_of_takes htakes).1.length_calls.trans List.length_append
  · rw [serve, serve, HttpRequest.asked_congr h h' rfl]

/-- A request that is sent with another verb, to another path, writes to the store. -/
theorem not_only_documented_entry :
    ¬∀ (g : Gateway) (w : World) (r : HttpRequest),
      ¬(r.verb = "POST" ∧ r.barePath = callPath) → (g.serve w r).2.calls = w.calls ∧
        (g.serve w r).2.surroundings.backend.store = w.surroundings.backend.store := by
  intro hall
  -- A relationship is created by a DELETE of a path that nothing stands for.
  let g : Gateway :=
    { routes := Route.standard true, stages := Stage.standard true none, timeout := 30000 }
  let w : World :=
    { surroundings :=
        { unixTime := 0
          backend := { mint := fun n => ⟨toString n⟩ }
          traceIds := fun _ => "trace" } }
  let body :=
    "\x7b\"method\":\"permgate.v1.PermissionsService/CreateRelationships\",\"params\":" ++
      "\x7b\"relationships\":[\x7b\"resource\":\x7b\"object_type\":\"document\"," ++
      "\"object_id\":\"readme\"\x7d,\"relation\":\"viewer\",\"subject\":" ++
      "\x7b\"object\":\x7b\"object_type\":\"user\",\"object_id\":\"alice\"" ++
      "\x7d\x7d\x7d]\x7d\x7d"
  let r : HttpRequest := { verb := "DELETE", path := "/nowhere", body := .ok body.toUTF8.toList }
  have hstored : (g.serve w r).2.surroundings.backend.store.relationships.length = 1 := by
    decide +kernel
  obtain ⟨-, hstore⟩ := hall g w r (by decide +kernel)
  rw [hstore] at hstored
  cases hstored

end Gateway

end RelationGate
