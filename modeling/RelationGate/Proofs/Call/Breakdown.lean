import RelationGate.Proofs.Call.Unary
import RelationGate.Proofs.Flow.Cutoff

/-!
# What becomes of a fault of the backend

A fault that strikes a unary call strikes the task that recovery watches over. The lookup of a
streaming call runs on a task of its own, and nobody asks how that task came out: a fault there
closes the results, and the handler takes that for their end. `Unnoticed` is the invariant of a
streaming call over every schedule.

* `Unnoticed.step`: every act of everybody keeps it.
* `breakdown_reported_iff_unary`: a fault is reported on the unary methods and on no other.
-/

namespace RelationGate

/-! ## The invariant of a streaming call -/

theorem canceled_ne_breakdownError (words : String) :
    CallError.canceled words ≠ Stage.breakdownError := by
  simp [CallError.canceled, Stage.breakdownError, CallError.internal]

theorem lateError_ne_breakdownError (ms : Nat) : Call.lateError ms ≠ Stage.breakdownError := by
  simp [Call.lateError, CallError.deadlineExceeded, Stage.breakdownError, CallError.internal]

/-- An outcome that hides a fault, if there was one: it is not the failure of a breakdown, and no
failure at all unless somebody disturbed the call. -/
def Hides (fault : Option String) (undisturbed : Bool) (outcome : Except CallError Unit) : Prop :=
  fault ≠ none → outcome ≠ .error Stage.breakdownError ∧ (undisturbed = true → outcome = .ok ())

theorem hides_of_calm (undisturbed : Bool) (outcome : Except CallError Unit) :
    Hides none undisturbed outcome := fun hfault => absurd rfl hfault

/-- A failure that is not that of a breakdown, of a call that somebody has disturbed. -/
theorem hides_of_disturbed {e : CallError} (fault : Option String) (he : e ≠ Stage.breakdownError) :
    Hides fault false (.error e) :=
  fun _ => ⟨fun h => he (Except.error.inj h), fun hu => absurd hu Bool.false_ne_true⟩

/-- What holds of a streaming call at each stage of its task. -/
def Overlooks (k : StreamKind) (sc : Scene) : Progress → Prop
  | .waiting => (∃ rest, sc.call.stages = .recovery :: rest) ∧
      (∀ stage ∈ sc.call.stages, stage.IsPlain) ∧
      sc.call.handler = k.handler ∧ sc.call.lookup = none ∧ sc.call.result = none ∧ sc.fault = none
  | .handling program _ => .recovery ∈ sc.call.entered ∧ sc.call.lookup = none ∧
      sc.call.result = none ∧ sc.fault = none ∧
        (program = k.handler ∨ (∃ q, program = .relay q) ∨ ∃ e, program = .done (.error e))
  | .relaying _ => sc.call.result = none ∧ ∃ l, sc.call.lookup = some l ∧ l.Tidy ∧
      (sc.fault ≠ none → l.CutOff)
  | .reporting e => sc.call.result = some (.finished (.error e)) ∧
      Hides sc.fault sc.undisturbed (.error e)
  | .ended => ∃ outcome, sc.call.result = some (.finished outcome) ∧
      Hides sc.fault sc.undisturbed outcome

/-- The failures among the frames are that of the call. -/
def Shown (received : List Frame) (frames : Channel Frame) (result : Option Outcome) : Prop :=
  ∀ e, .error e ∈ received ++ frames.queue → ∃ e', result = some (.finished (.error e'))

/-- **The invariant** of a streaming call: no fault of the backend is noticed. -/
structure Unnoticed (k : StreamKind) (sc : Scene) : Prop where
  phase : ∃ frames, sc.call.Streams frames ∧ Overlooks k sc sc.call.progress ∧
    Shown sc.received frames sc.call.result ∧
      (sc.undisturbed = true → sc.call.result = none →
        sc.canceled = false ∧ frames.receiverGone = false)

namespace Unnoticed

variable {k : StreamKind} {sc sc' : Scene} {frames : Channel Frame} {c : Call} {s : Surroundings}

/-- The handler is done with a failure, which has yet to be reported. -/
theorem fails {e : CallError} {undisturbed : Bool} (hstreams : c.Streams frames)
    (hshown : Shown sc.received frames none) (hhides : Hides sc.fault undisturbed (.error e)) :
    Unnoticed k { sc with
      call := { c.leaving (.error e) with progress := .reporting e }
      shared := s, undisturbed } := by
  refine ⟨frames, { hstreams with }, ⟨rfl, hhides⟩, fun e' he' => ?_,
    fun _ hresult => absurd hresult (Option.some_ne_none _)⟩
  obtain ⟨e'', heq⟩ := hshown e' he'
  cases heq

/-- The task of a streaming call performs no operation, so no fault strikes it. -/
theorem struck_eq_none (h : Unnoticed k sc) : sc.call.struck sc.shared = none := by
  obtain ⟨frames, -, hphase, -⟩ := h.phase
  cases hp : sc.call.progress with
  | handling program due =>
    rw [hp] at hphase
    rw [Call.struck, hp]
    obtain ⟨-, -, -, -, rfl | ⟨q, rfl⟩ | ⟨e, rfl⟩⟩ := hphase
    · rfl
    · rfl
    · rfl
  | _ => rw [Call.struck, hp]

/-! ### The task -/

/-- The call comes to its handler, or fails on the way. -/
theorem begin (h : Unnoticed k sc) (hp : sc.call.progress = .waiting)
    (hm : sc.call.taskMove sc.shared = some (c, s)) :
    Unnoticed k { sc with call := c, shared := s } := by
  obtain ⟨frames, hstreams, hphase, hshown, hattended⟩ := h.phase
  rw [hp] at hphase
  obtain ⟨⟨rest, hstages⟩, hplain, hhandler, hlookup, hresult, hcalm⟩ := hphase
  obtain ⟨conversation, entered, began, hadmits, hrecovery, hstreams', hc⟩ :=
    Call.begin_streaming hstreams hstages hplain sc.shared
  rw [Call.taskMove, hp] at hm
  rw [congrArg Prod.fst (Option.some.inj hm)] at hc
  obtain rfl | ⟨e, rfl⟩ := hc
  · refine ⟨frames, { hstreams' with },
      ⟨hrecovery, hlookup, hresult, hcalm, .inl hhandler⟩, hshown, fun hu hr => ?_⟩
    exact ⟨hadmits.canceled.trans (hattended hu hr).1, (hattended hu hr).2⟩
  · exact fails hstreams' (hresult ▸ hshown) (hcalm ▸ hides_of_calm _ _)

/-- The handler takes the request, starts the lookup, or ends. -/
theorem handle (h : Unnoticed k sc) {program : Program} {due : Option Nat}
    (hp : sc.call.progress = .handling program due)
    (hm : sc.call.taskMove sc.shared = some (c, s)) :
    Unnoticed k { sc with call := c, shared := s } := by
  obtain ⟨frames, hstreams, hphase, hshown, hattended⟩ := h.phase
  rw [hp] at hphase
  obtain ⟨hrecovery, hlookup, hresult, hcalm, hprogram⟩ := hphase
  rw [Call.taskMove, hp] at hm
  simp only at hm
  obtain rfl | ⟨q, rfl⟩ | ⟨e, rfl⟩ := hprogram
  · obtain ⟨conversation, houtbound, hcontext, program, rfl, hnext⟩ := Call.handle_request hm
    refine ⟨frames, ⟨hstreams.guarded, houtbound.trans hstreams.outbound, hstreams.plain⟩,
      ⟨hrecovery, hlookup, hresult, hcalm, .inr ?_⟩, hshown, fun hu hr => ?_⟩
    · obtain ⟨e, rfl⟩ | ⟨params, rest, q, -, -, rfl⟩ := hnext
      · exact .inr ⟨e, rfl⟩
      · exact .inl ⟨q, rfl⟩
    · exact ⟨(congrArg CallContext.canceled hcontext).trans (hattended hu hr).1,
        (hattended hu hr).2⟩
  · obtain rfl | ⟨e, rfl⟩ := Call.handle_relay hstreams hrecovery hm
    · exact ⟨frames, { hstreams with },
        ⟨hresult, _, rfl, Lookup.tidy_fresh _ _ _, fun hfault => absurd hcalm hfault⟩, hshown,
          hattended⟩
    · exact fails hstreams (hresult ▸ hshown) (hcalm ▸ hides_of_calm _ _)
  · obtain rfl := Call.handle_done_error hstreams hm
    exact fails hstreams (hresult ▸ hshown) (hcalm ▸ hides_of_calm _ _)

/-- A call that sees a cancellation, or that its client has left, is a disturbed one. -/
theorem canceled_hides (words : String) (hresult : sc.call.result = none)
    (hattended : sc.undisturbed = true → sc.call.result = none →
      sc.canceled = false ∧ frames.receiverGone = false)
    (hwhy : sc.canceled = true ∨ frames.receiverGone = true) :
    Hides sc.fault sc.undisturbed (.error (.canceled words)) := by
  cases hu : sc.undisturbed with
  | false => exact hides_of_disturbed sc.fault (canceled_ne_breakdownError words)
  | true =>
    obtain ⟨hcanceled, hgone⟩ := hattended hu hresult
    obtain hc | hg := hwhy
    · cases hcanceled.symm.trans hc
    · cases hgone.symm.trans hg

/-- The handler passes an item on or takes the next one, or ends. -/
theorem relay (h : Unnoticed k sc) {inHand : Option Json} (hp : sc.call.progress = .relaying inHand)
    (hm : sc.call.taskMove sc.shared = some (c, s)) :
    Unnoticed k { sc with call := c, shared := s } := by
  obtain ⟨frames, hstreams, hphase, hshown, hattended⟩ := h.phase
  rw [hp] at hphase
  obtain ⟨hresult, l, hl, htidy, hcut⟩ := hphase
  rw [Call.taskMove, hp] at hm
  simp only at hm
  cases inHand with
  | some message =>
    obtain ⟨hpresent, -, rfl⟩ | ⟨words, hwhy, rfl⟩ := Call.relay_held hstreams hm
    · refine ⟨_, ⟨hstreams.guarded, rfl, hstreams.plain⟩, ⟨hresult, l, hl, htidy, hcut⟩,
        fun e he => ?_, hattended⟩
      rw [← List.append_assoc, List.mem_append] at he
      exact hshown e (he.resolve_right (by simp))
    · exact fails hstreams (hresult ▸ hshown) (canceled_hides words hresult hattended hwhy)
  | none =>
    obtain ⟨item, results, hx, rfl⟩ | ⟨results, hx, hcanceled, rfl⟩ | ⟨e, results, hwhy, rfl⟩ :=
      Call.relay_next hstreams hl hm
    · have hfailure := Pipe.sight?_failure hx
      exact ⟨frames, { hstreams with }, ⟨hresult, _, rfl, htidy.of_results hfailure,
          fun hfault => (hcut hfault).of_results hfailure⟩,
        hshown, hattended⟩
    · refine ⟨_, ⟨hstreams.guarded, rfl, hstreams.plain⟩,
        ⟨.ok (), rfl, fun _ => ⟨by simp, fun _ => rfl⟩⟩, fun e he => ?_,
        fun _ hr => absurd hr (Option.some_ne_none _)⟩
      obtain ⟨e', heq⟩ := hshown e he
      cases hresult.symm.trans heq
    · refine fails { hstreams with } (hresult ▸ hshown) ?_
      obtain ⟨failure, hx, rfl⟩ | ⟨hcanceled, rfl⟩ := hwhy
      · exact fun hfault => absurd hx (hcut hfault).not_sight_failure
      · exact canceled_hides _ hresult hattended (.inl hcanceled)

/-- The failure of the call is reported, or nobody is left to take it. -/
theorem report (h : Unnoticed k sc) {e : CallError} (hp : sc.call.progress = .reporting e)
    (hm : sc.call.taskMove sc.shared = some (c, s)) :
    Unnoticed k { sc with call := c, shared := s } := by
  obtain ⟨frames, hstreams, hphase, hshown, hattended⟩ := h.phase
  rw [hp] at hphase
  obtain ⟨hresult, hhides⟩ := hphase
  rw [Call.taskMove, hp] at hm
  obtain ⟨c', hreport, heq⟩ := Option.map_eq_some_iff.1 hm
  cases heq
  obtain ⟨hpresent, rfl⟩ | ⟨hgone, rfl⟩ := Call.report_cases hstreams.outbound hreport
  · exact ⟨_, ⟨hstreams.guarded, rfl, hstreams.plain⟩, ⟨_, hresult, hhides⟩,
      fun _ _ => ⟨e, hresult⟩,
      fun _ hr => absurd (hresult.symm.trans hr) (Option.some_ne_none _)⟩
  · exact ⟨frames, { hstreams with }, ⟨_, hresult, hhides⟩, hshown, hattended⟩

/-- **A move of the task keeps the invariant.** -/
theorem task (h : Unnoticed k sc) (hm : sc.call.taskMove sc.shared = some (c, s)) :
    Unnoticed k { sc with call := c, shared := s } := by
  cases hp : sc.call.progress with
  | waiting => exact h.begin hp hm
  | handling program due => exact h.handle hp hm
  | relaying inHand => exact h.relay hp hm
  | reporting e => exact h.report hp hm
  | ended =>
    rw [Call.taskMove, hp] at hm
    cases hm

/-! ### Everybody else -/

/-- The lookup moves, and a fault may strike it: if the handler is at work, it is cut off. -/
theorem lookup (h : Unnoticed k sc) {l l' : Lookup} {opened : Option Store} {shared : Surroundings}
    {fault : Option String} (hl : sc.call.lookup = some l) (htidy : l.Tidy → l'.Tidy)
    (hcut : sc.call.isHandling = true → l.Tidy → (sc.fault ≠ none → l.CutOff) → fault ≠ none →
      l'.CutOff)
    (hkept : sc.call.isHandling = false → fault = sc.fault) :
    Unnoticed k { sc.withLookup l' with shared, opened, fault } := by
  obtain ⟨frames, hstreams, hphase, hshown, hattended⟩ := h.phase
  refine ⟨frames, { hstreams with }, ?_, hshown, hattended⟩
  show Overlooks k _ sc.call.progress
  cases hp : sc.call.progress with
  | waiting =>
    rw [hp] at hphase
    cases hl.symm.trans hphase.2.2.2.1
  | handling program due =>
    rw [hp] at hphase
    cases hl.symm.trans hphase.2.1
  | relaying inHand =>
    rw [hp] at hphase
    obtain ⟨hresult, l₀, hl₀, htidy₀, hcut₀⟩ := hphase
    cases hl.symm.trans hl₀
    exact ⟨hresult, l', rfl, htidy htidy₀, hcut (by rw [Call.isHandling, hp]) htidy₀ hcut₀⟩
  | reporting e =>
    rw [hp] at hphase
    rwa [hkept (by rw [Call.isHandling, hp])]
  | ended =>
    rw [hp] at hphase
    rwa [hkept (by rw [Call.isHandling, hp])]

/-- The time is up: that is what the call has yet to report, whatever struck before. -/
theorem deadline (h : Unnoticed k sc) (ms : Nat) (hhandling : sc.call.isHandling = true) :
    Unnoticed k { sc with
      call := (sc.call.giveUp ms sc.shared).1, shared := (sc.call.giveUp ms sc.shared).2
      undisturbed := false } := by
  obtain ⟨frames, hstreams, hphase, hshown, -⟩ := h.phase
  have hresult : sc.call.result = none := by
    cases hp : sc.call.progress with
    | handling program due =>
      rw [hp] at hphase
      exact hphase.2.2.1
    | relaying inHand =>
      rw [hp] at hphase
      exact hphase.1
    | _ =>
      rw [Call.isHandling, hp] at hhandling
      cases hhandling
  obtain ⟨conversation, lookup, houtbound, hc⟩ := Call.giveUp_eq hstreams ms sc.shared
  rw [hc]
  exact fails ⟨hstreams.guarded, houtbound, hstreams.plain⟩ (hresult ▸ hshown)
    (hides_of_disturbed sc.fault (lateError_ne_breakdownError ms))

/-- A disturbance takes nothing away. -/
theorem overlooks_disturb {undisturbed : Bool} {call : Call} {received : List Frame} {sawEnd : Bool}
    {progress : Progress} (h : Overlooks k sc progress)
    (hcall : call.stages = sc.call.stages ∧ call.handler = sc.call.handler ∧
      call.entered = sc.call.entered ∧ call.lookup = sc.call.lookup ∧ call.result = sc.call.result)
    (hu : undisturbed = true → sc.undisturbed = true) :
    Overlooks k { sc with call, received, sawEnd, undisturbed } progress := by
  obtain ⟨hstages, hhandler, hentered, hlookup, hresult⟩ := hcall
  have hhides : ∀ outcome, Hides sc.fault sc.undisturbed outcome →
    Hides sc.fault undisturbed outcome :=
    fun outcome hh hfault => (hh hfault).imp_right fun hok hu' => hok (hu hu')
  cases progress with
  | waiting =>
    simp only [Overlooks, hstages, hhandler, hlookup, hresult]
    exact h
  | handling program due =>
    simp only [Overlooks, hentered, hlookup, hresult]
    exact h
  | relaying inHand =>
    simp only [Overlooks, hlookup, hresult]
    exact h
  | reporting e =>
    simp only [Overlooks, hresult]
    exact h.imp_right (hhides _)
  | ended =>
    simp only [Overlooks, hresult]
    obtain ⟨outcome, hr, hh⟩ := h
    exact ⟨outcome, hr, hhides outcome hh⟩

/-- The client acts on the frames. -/
theorem client (h : Unnoticed k sc) {frames frames' : Channel Frame} {received : List Frame}
    {sawEnd undisturbed : Bool} (hframes : sc.call.conversation.outbound = .channel frames)
    (hsub : received ++ frames'.queue ⊆ sc.received ++ frames.queue)
    (hu : undisturbed = true → sc.undisturbed = true ∧ frames'.receiverGone = frames.receiverGone) :
    Unnoticed k { sc with call := sc.call.withFrames frames', received, sawEnd, undisturbed } := by
  obtain ⟨frames₀, hstreams, hphase, hshown, hattended⟩ := h.phase
  cases hframes.symm.trans hstreams.outbound
  refine ⟨frames', ⟨hstreams.guarded, rfl, hstreams.plain⟩,
    overlooks_disturb hphase ⟨rfl, rfl, rfl, rfl, rfl⟩ fun hu' => (hu hu').1,
    fun e he => hshown e (hsub he), fun hu' hr => ?_⟩
  obtain ⟨hundisturbed, hgone⟩ := hu hu'
  obtain ⟨hcanceled, hpresent⟩ := hattended hundisturbed hr
  exact ⟨hcanceled, hgone.trans hpresent⟩

/-- Somebody cancels. -/
theorem cancel (h : Unnoticed k sc) :
    Unnoticed k { sc with
      call := { sc.call with conversation := sc.call.conversation.cancel }
      undisturbed := false } := by
  obtain ⟨frames, hstreams, hphase, hshown, -⟩ := h.phase
  exact ⟨frames, { hstreams with },
    overlooks_disturb hphase ⟨rfl, rfl, rfl, rfl, rfl⟩ fun hu => absurd hu Bool.false_ne_true,
    hshown, fun hu => absurd hu Bool.false_ne_true⟩

/-- **Every act keeps the invariant.** -/
theorem step (h : Unnoticed k sc) (hs : Scene.Step sc sc') : Unnoticed k sc' := by
  cases hs with
  | task hm =>
    rw [h.struck_eq_none, Scene.strike_none]
    exact h.task hm
  | deadline htimeout hhandling hlate => exact h.deadline _ hhandling
  | @produce l l' b hl hm =>
    refine h.lookup hl (·.produce hm) (fun hhandling htidy hcut hfault => ?_)
      fun hover => Scene.strike_of_not_isHandling hover
    cases hcalm : sc.fault with
    | some fault => exact (hcut (by simp [hcalm])).produce hm
    | none =>
      cases hstruck : l.struck l' sc.shared.now sc.shared.backend with
      | some words => exact htidy.struck hm hstruck
      | none =>
        rw [hstruck, Scene.strike_none] at hfault
        exact absurd hcalm hfault
  | stream noticed hl hnoticed hm =>
    exact h.lookup hl (·.feedMove hm) (fun _ _ hcut hfault => (hcut hfault).feedMove hm)
      fun _ => rfl
  | breakdown words hl hm =>
    exact h.lookup hl (fun htidy => (htidy.breakStream hm).tidy)
      (fun _ htidy _ _ => htidy.breakStream hm)
      fun hover => Scene.strike_of_not_isHandling hover
  | others hevolves => exact ⟨h.phase⟩
  | cancel => exact h.cancel
  | read hframes hpresent hr =>
    obtain ⟨rest, hqueue, rfl⟩ := Channel.receive_eq_got hr
    refine h.client hframes ?_ fun hu => ⟨hu, rfl⟩
    rw [hqueue, List.append_assoc]
    exact List.Subset.refl _
  | readEnd hframes hpresent hr =>
    have hread : Unnoticed k { sc with call := sc.call.withFrames _, sawEnd := true } :=
      h.client hframes (List.Subset.refl _) fun hu => ⟨hu, rfl⟩
    rwa [Call.withFrames_self hframes] at hread
  | leave hframes =>
    refine h.client hframes (fun frame hframe => ?_) fun hu => absurd hu Bool.false_ne_true
    rw [Channel.closeReceiver, List.append_nil] at hframe
    exact List.mem_append_left _ hframe

/-- A streaming call that has just been made. -/
theorem start (k : StreamKind) {g : Gateway} {metrics : Bool} {auth : Option AuthSettings}
    (hstages : g.stages = Stage.standard metrics auth) (params : Json) (headers : Headers)
    (capacity : Nat)
    (shared : Surroundings) : Unnoticed k (.start g k.route params headers capacity shared) where
  phase := by
    refine ⟨.ofCapacity capacity, ⟨rfl, rfl, fun stage hstage => (List.not_mem_nil hstage).elim⟩,
      ⟨⟨_, hstages⟩, fun stage hstage => ?_, rfl, rfl, rfl, rfl⟩,
      fun e he => (List.not_mem_nil he).elim, fun _ _ => ⟨rfl, rfl⟩⟩
    exact Stage.isPlain_of_mem_standard hstages hstage

theorem of_reachable {start : Scene} (hstart : Unnoticed k start) (h : Scene.Reachable start sc) :
    Unnoticed k sc := by
  induction h with
  | refl => exact hstart
  | tail _ hs ih => exact ih.step hs

/-- What has become of a streaming call that a fault has struck. -/
theorem of_fault {k : StreamKind} (h : Unnoticed k sc) (hfault : sc.fault ≠ none)
    {outcome : Outcome} (hresult : sc.call.result = some outcome) :
    outcome ≠ .finished (.error Stage.breakdownError) ∧ (sc.undisturbed = true →
      outcome = .finished (.ok ()) ∧ ∀ frame ∈ sc.received, ∃ message, frame = .ok message) := by
  obtain ⟨frames, -, hphase, hshown, -⟩ := h.phase
  have hhides : ∃ x, outcome = .finished x ∧ Hides sc.fault sc.undisturbed x := by
    cases hp : sc.call.progress with
    | waiting =>
      rw [hp] at hphase
      cases hresult.symm.trans hphase.2.2.2.2.1
    | handling program due =>
      rw [hp] at hphase
      cases hresult.symm.trans hphase.2.2.1
    | relaying inHand =>
      rw [hp] at hphase
      cases hresult.symm.trans hphase.1
    | reporting e =>
      rw [hp] at hphase
      exact ⟨_, Option.some.inj (hresult.symm.trans hphase.1), hphase.2⟩
    | ended =>
      rw [hp] at hphase
      obtain ⟨x, hx, hhides⟩ := hphase
      exact ⟨x, Option.some.inj (hresult.symm.trans hx), hhides⟩
  obtain ⟨x, rfl, hhides⟩ := hhides
  obtain ⟨hother, hok⟩ := hhides hfault
  refine ⟨fun heq => hother (by injection heq), fun hu => ?_⟩
  obtain rfl := hok hu
  refine ⟨rfl, fun frame hframe => ?_⟩
  cases frame with
  | ok message => exact ⟨message, rfl⟩
  | error e =>
    obtain ⟨e', heq⟩ := hshown e (List.mem_append_left _ hframe)
    cases hresult.symm.trans heq

end Unnoticed

/-! ## Both sorts of calls -/

/-- **A fault of the backend is reported on the unary methods and on no other.** In every schedule
of a call whose handler is struck by a fault: a unary call ends with the one failure of a breakdown,
and the log has the words of the fault. A streaming call never ends so; if nobody disturbs it and it
ends, it ends well, and its client is shown items and no failure. -/
theorem breakdown_reported_iff_unary {sticky : Bool} {route : Route}
    (hmem : route ∈ Route.standard sticky) {g : Gateway} {metrics : Bool}
    {auth : Option AuthSettings}
    (hstages : g.stages = Stage.standard metrics auth) (params : Json) (headers : Headers)
    (capacity : Nat)
    (shared : Surroundings) {sc : Scene}
    (h : Scene.Reachable (.start g route params headers capacity shared) sc)
    {words : String} (hfault : sc.fault = some words) :
    (route.kind = .unary →
      sc.call.result = some (.finished (.error Stage.breakdownError)) ∧
        sc.call.reply = .error Stage.breakdownError ∧
          Stage.recoveredEvent sc.call.conversation (some words) ∈ sc.shared.events) ∧
      (route.kind = .serverStreaming → ∀ outcome, sc.call.result = some outcome →
        outcome ≠ .finished (.error Stage.breakdownError) ∧ (sc.undisturbed = true →
          outcome = .finished (.ok ()) ∧
            ∀ frame ∈ sc.received, ∃ message, frame = .ok message)) := by
  constructor
  · intro hkind
    have hstart := Contained.start hmem hkind hstages params headers capacity shared
    obtain ⟨hresult, hevent⟩ := (Contained.of_reachable hstart h).of_fault hfault
    exact ⟨hresult, by rw [Call.reply, hresult], hevent⟩
  · intro hkind outcome hresult
    obtain ⟨k, rfl⟩ := StreamKind.mem_standard_iff.1 ⟨hmem, hkind⟩
    have hstart := Unnoticed.start k hstages params headers capacity shared
    refine (Unnoticed.of_reachable hstart h).of_fault (fun hnone => ?_) hresult
    cases hfault.symm.trans hnone

/-- The same fault strikes a probe and a read. The probe fails; the read passes for one of an empty
store. -/
theorem breakdown_reported_iff_unary_kaboom :
    let g : Gateway :=
      { routes := Route.standard false, stages := Stage.standard false none, timeout := 1000 }
    let shared : Surroundings :=
      { unixTime := 0
        backend :=
          { disturbance := fun _ => { panic := some "kaboom" }, mint := fun n => ⟨toString n⟩ }
        traceIds := fun _ => "trace" }
    let probe : Route := ⟨"permgate.v1.HealthService/Readiness", .unary, Program.readiness false⟩
    let params : Json := .obj [("filter", .obj [("resource_type", .str "document")])]
    (∃ sc, Scene.Reachable (.start g probe (.obj []) {} 16 shared) sc ∧
        sc.call.reply = .error (.internal "panic" "internal error")) ∧
      ∃ sc, Scene.Reachable (.start g StreamKind.read.route params {} 16 shared) sc ∧
        sc.fault = some "kaboom" ∧ sc.call.result = some (.finished (.ok ())) ∧
          sc.sawEnd = true ∧ sc.received = [] := by
  intro g shared probe params
  constructor
  · have h₀ : Scene.Reachable (.start g probe (.obj []) {} 16 shared) _ := .refl
    have h₁ := h₀.tail (.task rfl)
    have h₂ := h₁.tail (.task rfl)
    have h₃ := h₂.tail (.task rfl)
    have h₄ := h₃.tail (.task rfl)
    have hmem : probe ∈ Route.standard false := List.mem_of_getElem? (i := 8) rfl
    obtain ⟨-, hreply, -⟩ := (breakdown_reported_iff_unary hmem rfl _ _ _ _ h₄ rfl).1 rfl
    exact ⟨_, h₄, hreply⟩
  · have h₀ : Scene.Reachable (.start g StreamKind.read.route params {} 16 shared) _ := .refl
    have h₁ := h₀.tail (.task rfl)
    have h₂ := h₁.tail (.task rfl)
    have h₃ := h₂.tail (.task rfl)
    have h₄ := h₃.tail (.produce rfl rfl)
    have h₅ := h₄.tail (.task rfl)
    have h₆ := h₅.tail (.readEnd rfl rfl rfl)
    have hmem : StreamKind.read.route ∈ Route.standard false := List.mem_of_getElem? (i := 3) rfl
    obtain ⟨-, hok⟩ := (breakdown_reported_iff_unary hmem rfl _ _ _ _ h₆ rfl).2 rfl _ rfl
    exact ⟨_, h₆, rfl, congrArg some (hok rfl).1, rfl, rfl⟩

end RelationGate
