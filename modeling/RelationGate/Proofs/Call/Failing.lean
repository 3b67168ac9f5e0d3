import RelationGate.Proofs.Call.Effects
import RelationGate.Proofs.Call.Raising

/-!
# Calls whose backend fails

A step of a call may be the one in which the backend raises a failure (`Scene.Raises`). What is to
come of it is a reply: the client has it in the end (`Scene.reply?`), whatever the others do
meanwhile, if nobody disturbs the call (`Scene.ComesTo`).

The unary methods wait for their operation on the task of the call. `Program.Conveys` says of a
handler that it ends with the failure of its operation, under the name of what was being done; so
does the call (`Failing`), in every schedule.

* `Scene.Reachable.undisturbed`: the induction over the schedules that do not disturb the call.
* `Asks.raises`, `Failing.reply`, `Failing.comesTo`: the unary methods.
-/

namespace RelationGate

open Json

/-- What the gateway says that it was doing, in front of the message of a failure of the backend, by
the request that it has received. -/
def RequestKind.context : RequestKind → String
  | .probe => "backend not ready"
  | .check => "Check"
  | .create => "CreateRelationships"
  | .delete => "DeleteRelationships"
  | .lock => "could not acquire lock"
  | .read => "ReadRelationships"
  | .subjects => "LookupSubjects"
  | .resources => "LookupResources"

namespace Backend

theorem written_fst {α : Type} (b : Backend) (attempt : Except BackendError (α × Store)) :
    (b.written attempt).1 = attempt.map (·.1) := by
  cases attempt with
  | error e => rfl
  | ok r => rfl

theorem acquire_fst (b : Backend) (identifier : String) (existing : Option LockToken) :
    (b.acquire identifier existing).1 =
      if b.echoesLocks then .ok (existing.getD ⟨"first"⟩)
      else b.checkAvailable >>= fun _ =>
        (b.store.acquire identifier existing (b.mint b.minted)).map (·.1) := by
  rw [acquire]
  split
  · rfl
  · cases b.checkAvailable with
    | error e => rfl
    | ok u =>
      cases b.store.acquire identifier existing (b.mint b.minted) with
      | error e => rfl
      | ok r => rfl

theorem perform_note (b : Backend) (i : Issued) (op : Operation) :
    ((b.note i).perform op).1 = (b.perform op).1 := by
  cases op with
  | check q => rfl
  | available => rfl
  | create batch mode => exact (written_fst _ _).trans (written_fst _ _).symm
  | delete filter => exact (written_fst _ _).trans (written_fst _ _).symm
  | acquire identifier existing =>
    exact (acquire_fst (b.note i) identifier existing).trans
      (acquire_fst b identifier existing).symm

/-- The backend answers as it would have answered without the note. -/
theorem react_note (b : Backend) (i : Issued) (op : Operation) :
    ((b.note i).react op).1 = (b.react op).1 := by
  have hdisturbance : (b.note i).disturbance = b.disturbance := rfl
  rw [react, react, hdisturbance]
  simp only
  split
  · rfl
  · rfl
  · exact congrArg Reaction.answered (perform_note b i op)

end Backend

/-! ## The failing step -/

/-- What comes of an operation that is asked for does not depend on its note. -/
theorem Surroundings.Asks.answer {s : Surroundings} {op : Operation} {due : Option Nat}
    {b : Backend} (h : s.Asks op due b) : (b.react op).1 = (s.backend.react op).1 := by
  cases h with
  | later hdue => rfl
  | atOnce hdelay => exact s.backend.react_note _ op

/-- A handler that asks for an operation does not have to wait for the answer, or no longer. -/
def Operation.IsDue (op : Operation) (s : Surroundings) : Option Nat → Prop
  | none => s.backend.delayOf op.kind = 0
  | some moment => moment ≤ s.now

namespace Scene

variable {sc sc' : Scene} {hits : List Item} {e : BackendError} {reply : List Frame}

/-- The frames of the reply, once the client has all of it. -/
def reply? (sc : Scene) : Option (List Frame) :=
  match sc.call.conversation.outbound with
  | .buffer _ => if sc.call.isOver then some [sc.call.reply] else none
  | .channel _ => if sc.sawEnd then some sc.received else none

theorem reply?_of_finished {sent : List Json} {x : CallError}
    (houtbound : sc.call.conversation.outbound = .buffer sent) (hp : sc.call.progress = .ended)
    (hresult : sc.call.result = some (.finished (.error x))) : sc.reply? = some [.error x] := by
  simp [reply?, houtbound, Call.isOver, hp, Call.reply, hresult]

/-- **The backend raises a failure** in a step of a call. A stream has sent some items before, fewer
than the cap. -/
inductive Raises : Scene → List Item → BackendError → Scene → Prop where
  /-- An operation fails. -/
  | operation {sc : Scene} {c : Call} {s : Surroundings} {op : Operation}
      {next : Except BackendError op.Answer → Program} {due : Option Nat} {e : BackendError}
      (hp : sc.call.progress = .handling (.perform op next) due) (hdue : op.IsDue sc.shared due)
      (hraised : (sc.shared.backend.react op).1 = .answered (.error e))
      (hm : sc.call.taskMove sc.shared = some (c, s)) :
      Raises sc [] e { sc with
        call := c, shared := s, fault := sc.strike (sc.call.struck sc.shared) }
  /-- A stream cannot be opened, or fails at once. -/
  | opening {sc : Scene} {l l' : Lookup} {b : Backend} {e : BackendError}
      (hl : sc.call.lookup = some l) (hwaiting : l.IsWaiting)
      (hraised : (l.opening sc.shared.now sc.shared.backend).raised? = some e)
      (hopened : l' = l.opened (l.opening sc.shared.now sc.shared.backend))
      (hm : l.produce sc.shared.now sc.canceled sc.shared.backend = some (l', b)) :
      Raises sc [] e { sc.withLookup l' with
        shared := { sc.shared with backend := b }
        opened := l.openedOn l' sc.opened sc.shared.backend.store
        fault := sc.strike (l.struck l' sc.shared.now sc.shared.backend) }
  /-- A stream fails behind its items. -/
  | stream {sc : Scene} {l l' : Lookup} {feed feed' : Feed} {hits : List Item} {e : BackendError}
      (noticed : Bool) (hl : sc.call.lookup = some l)
      (hnoticed : noticed = true → sc.canceled = true)
      (hm : l.feedMove sc.shared.now noticed = some l')
      (hfeed : l.stream? = some feed) (hfeed' : l'.stream? = some feed')
      (hraised : feed'.pipe.failure = some e) (hfits : Fits feed.items 0 hits)
      (hsent : hits.length = feed.sent) (hallows : l.limit.allows hits.length = true) :
      Raises sc hits e (sc.withLookup l')

theorem Raises.ownStep (h : Raises sc hits e sc') : OwnStep sc sc' := by
  cases h with
  | operation hp hdue hraised hm => exact .task hm
  | opening hl hwaiting hraised hopened hm => exact .produce hl hm
  | stream noticed hl hnoticed hm => exact .stream noticed hl hnoticed hm

/-- **The call comes to a reply.** The client has it; or the call can go on, whatever the others do
meanwhile, and comes to the reply wherever it goes, if nobody disturbs it. -/
inductive ComesTo (reply : List Frame) : Scene → Prop where
  | here {sc : Scene} (h : sc.reply? = some reply) : ComesTo reply sc
  | on {sc : Scene}
      (hgoes : ∀ s, sc.shared.Evolves s →
        ∃ sc', OwnStep { sc with shared := s } sc' ∧ sc'.undisturbed = true)
      (hon : ∀ s sc', sc.shared.Evolves s → OwnStep { sc with shared := s } sc' →
        sc'.undisturbed = true → ComesTo reply sc') : ComesTo reply sc

/-! ## Schedules that do not disturb the call -/

theorem OwnStep.undisturbed (hs : OwnStep sc sc') (hcalm : sc'.undisturbed = true) :
    sc.undisturbed = true := by
  cases hs with
  | expire | cancel | leave => cases hcalm
  | _ => exact hcalm

theorem Step.own_or_others (hs : Step sc sc') (hcalm : sc'.undisturbed = true) :
    OwnStep sc sc' ∨ ∃ s, sc.shared.Evolves s ∧ sc' = { sc with shared := s } := by
  cases hs with
  | task hm => exact .inl (.task hm)
  | deadline htimeout hhandling hlate => cases hcalm
  | produce hl hm => exact .inl (.produce hl hm)
  | stream noticed hl hnoticed hm => exact .inl (.stream noticed hl hnoticed hm)
  | breakdown words hl hm => exact .inl (.breakdown words hl hm)
  | others h => exact .inr ⟨_, h, rfl⟩
  | cancel => cases hcalm
  | read hframes hpresent hr => exact .inl (.read hframes hpresent hr)
  | readEnd hframes hpresent hr => exact .inl (.readEnd hframes hpresent hr)
  | leave hframes => cases hcalm

/-- A step that does not disturb the call, as the call sees it: its task moves, or its lookup does,
or the client reads on. -/
inductive CalmStep : Scene → Scene → Prop where
  | task {sc : Scene} {c : Call} {s : Surroundings} {fault : Option String}
      (hm : sc.call.taskMove sc.shared = some (c, s)) :
      CalmStep sc { sc with call := c, shared := s, fault }
  | lookup {sc : Scene} {l l' : Lookup} {shared : Surroundings} {opened : Option Store}
      {fault : Option String} (hl : sc.call.lookup = some l)
      (hm : l.MovesTo sc.shared.now sc.canceled sc.shared.backend l') :
      CalmStep sc { sc.withLookup l' with shared, opened, fault }
  | read {sc : Scene} {frames frames' : Channel Frame} {frame : Frame}
      (hframes : sc.call.conversation.outbound = .channel frames)
      (hr : frames.receive = .got frame frames') :
      CalmStep sc { sc with call := sc.call.withFrames frames', received := sc.received ++ [frame] }
  | readEnd {sc : Scene} {frames : Channel Frame}
      (hframes : sc.call.conversation.outbound = .channel frames)
      (hpresent : frames.receiverGone = false) (hr : frames.receive = .ended) :
      CalmStep sc { sc with sawEnd := true }

theorem OwnStep.calm (hs : OwnStep sc sc') (hcalm : sc'.undisturbed = true) : CalmStep sc sc' := by
  cases hs with
  | task hm => exact .task hm
  | expire | cancel | leave => cases hcalm
  | produce hl hm => exact .lookup hl (.produce hm)
  | stream noticed hl hnoticed hm => exact .lookup hl (.stream noticed hnoticed hm)
  | breakdown words hl hm => exact .lookup hl (.breakdown hm)
  | read hframes hpresent hr => exact .read hframes hr
  | readEnd hframes hpresent hr => exact .readEnd hframes hpresent hr

/-- **What every step keeps holds of every schedule** that does not disturb the call. -/
theorem Reachable.undisturbed {P : Scene → Prop}
    (hown : ∀ sc sc', P sc → OwnStep sc sc' → sc'.undisturbed = true → P sc')
    (hothers : ∀ sc s, P sc → sc.shared.Evolves s → P { sc with shared := s }) {start : Scene}
    (hstart : start.undisturbed = true → P start) (h : Reachable start sc)
    (hcalm : sc.undisturbed = true) : P sc := by
  induction h with
  | refl => exact hstart hcalm
  | tail _ hs ih =>
    obtain hs | ⟨s, hevolves, rfl⟩ := hs.own_or_others hcalm
    · exact hown _ _ (ih (hs.undisturbed hcalm)) hs hcalm
    · exact hothers _ _ (ih hcalm) hevolves

theorem Reachable.undisturbed_of_undisturbed {start : Scene} (h : Reachable start sc)
    (hcalm : sc.undisturbed = true) : start.undisturbed = true := by
  induction h with
  | refl => exact hcalm
  | tail _ hs ih =>
    obtain hs | ⟨s, -, rfl⟩ := hs.own_or_others hcalm
    · exact ih (hs.undisturbed hcalm)
    · exact ih hcalm

/-- Of a call without a lookup whose reply is kept, only the task can move. -/
theorem CalmStep.task_of_kept {sent : List Json} (hs : CalmStep sc sc')
    (hlookup : sc.call.lookup = none) (houtbound : sc.call.conversation.outbound = .buffer sent) :
    ∃ c s fault, sc.call.taskMove sc.shared = some (c, s) ∧
      sc' = { sc with call := c, shared := s, fault } := by
  cases hs with
  | task hm => exact ⟨_, _, _, hm, rfl⟩
  | lookup hl hm => cases hlookup.symm.trans hl
  | read hframes hr => cases houtbound.symm.trans hframes
  | readEnd hframes hpresent hr => cases houtbound.symm.trans hframes

/-- Such a call comes to a reply if its task always moves, and comes to it wherever it goes. -/
theorem ComesTo.of_task {sent : List Json} (hlookup : sc.call.lookup = none)
    (houtbound : sc.call.conversation.outbound = .buffer sent) (hcalm : sc.undisturbed = true)
    (hgoes : ∀ s, (sc.call.taskMove s).isSome = true)
    (hon : ∀ s c s' fault, sc.call.taskMove s = some (c, s') →
      ComesTo reply { sc with call := c, shared := s', fault }) : ComesTo reply sc := by
  refine .on (fun s _ => ?_) fun s sc' _ hs hcalm' => ?_
  · obtain ⟨r, hm⟩ := Option.isSome_iff_exists.1 (hgoes s)
    exact ⟨_, .task hm, hcalm⟩
  · obtain ⟨c, s', fault, hm, rfl⟩ := (hs.calm hcalm').task_of_kept hlookup houtbound
    exact hon s c s' fault hm

end Scene

/-! ## Handlers that pass failures on -/

namespace Program

/-- The program ends with a failure, whatever it is answered. Before it does it may add to the log,
and keep whether the backend is ready. -/
inductive FailsWith (x : CallError) : Program → Prop where
  | done : FailsWith x (.done (.error x))
  | emit {event : Event} {next : Program} (h : FailsWith x next) : FailsWith x (.emit event next)
  | setReady {ready : Bool} {next : Bool → Program} (h : ∀ b, FailsWith x (next b)) :
      FailsWith x (.setReady ready next)

/-- **A program that passes failures on**: wherever it goes, it ends with the failure of an
operation once it is told of it, and says what was being done. -/
inductive Conveys (context : String) : Program → Prop where
  | done (outcome : Except CallError Unit) : Conveys context (.done outcome)
  | receive {kind : RequestKind} {next : Except CallError (Request kind) → Program}
      (h : ∀ r, Conveys context (next r)) : Conveys context (.receive kind next)
  | send {message : Json} {next : Except CallError Unit → Program}
      (h : ∀ r, Conveys context (next r)) : Conveys context (.send message next)
  | perform {op : Operation} {next : Except BackendError op.Answer → Program}
      (h : ∀ r, Conveys context (next r))
      (hfails : ∀ e : BackendError, (next (.error e)).FailsWith (.ofBackend (e.within context))) :
      Conveys context (.perform op next)
  | emit {event : Event} {next : Program} (h : Conveys context next) :
      Conveys context (.emit event next)
  | isReady {next : Bool → Program} (h : ∀ b, Conveys context (next b)) :
      Conveys context (.isReady next)
  | setReady {ready : Bool} {next : Bool → Program} (h : ∀ b, Conveys context (next b)) :
      Conveys context (.setReady ready next)

variable {context : String}

theorem FailsWith.conveys {x : CallError} {p : Program} (h : p.FailsWith x) :
    p.Conveys context := by
  induction h with
  | done => exact .done _
  | emit _ ih => exact .emit ih
  | setReady _ ih => exact .setReady ih

/-- What a program that passes failures on goes on with passes them on. -/
theorem Conveys.proceeds {p p' : Program} {due : Option Nat} {s s' : Surroundings}
    {c c' : Conversation} (hconveys : p.Conveys context) (h : p.Proceeds s c due p' c' s') :
    p'.Conveys context := by
  cases hconveys with
  | done outcome => cases h
  | receive hnext | send hnext | perform hnext | isReady hnext | setReady hnext =>
    cases h
    all_goals exact hnext _
  | emit hnext =>
    cases h
    exact hnext

/-- An operation, if what follows its success passes failures on. -/
theorem conveys_perform {op : Operation} {next : Except BackendError op.Answer → Program}
    (hok : ∀ a, (next (.ok a)).Conveys context)
    (hfails : ∀ e : BackendError, (next (.error e)).FailsWith (.ofBackend (e.within context))) :
    (Program.perform op next).Conveys context := by
  refine .perform (fun r => ?_) hfails
  cases r with
  | ok a => exact hok a
  | error e => exact (hfails e).conveys

theorem conveys_respond (r : Response) : (respond r).Conveys context := .send fun _ => .done _

theorem conveys_withRequest {kind : RequestKind} {next : Request kind → Program}
    (h : ∀ r, (next r).Conveys context) : (withRequest kind next).Conveys context := by
  refine .receive fun r => ?_
  cases r with
  | ok r => exact h r
  | error e => exact .done _

theorem conveys_lock : lock.Conveys RequestKind.lock.context := by
  rw [lock_eq]
  refine conveys_withRequest fun (r : LockRequest) => ?_
  cases hvalid : checkLockIdentifier r.identifier with
  | error e =>
    rw [acquireLock_of_error hvalid]
    exact .done _
  | ok u =>
    rw [acquireLock_of_ok hvalid]
    refine conveys_perform (fun (token : LockToken) => ?_) fun e => .done
    show (lockNext r.identifier r.existing (.ok token)).Conveys _
    by_cases hsame : r.existing = some token
    · rw [lockNext_of_eq hsame]
      exact .emit (.done _)
    · rw [lockNext_of_ne hsame]
      exact conveys_respond _

theorem conveys_readiness (sticky : Bool) :
    (readiness sticky).Conveys RequestKind.probe.context := by
  refine conveys_withRequest fun _ => .isReady fun ready => ?_
  show (if sticky && ready then _ else _ : Program).Conveys _
  split
  · exact conveys_respond _
  refine conveys_perform (fun _ => .setReady fun before => ?_) fun e =>
    .setReady fun _ => .emit .done
  cases before with
  | true => exact conveys_respond _
  | false => exact .emit (conveys_respond _)

/-- **Every unary method passes failures on.** -/
theorem conveys_of_unary {sticky : Bool} {route : Route} (hmem : route ∈ Route.standard sticky)
    (hunary : route.kind = .unary) {kind : RequestKind}
    (hkind : route.handler.request? = some kind) : route.handler.Conveys kind.context := by
  simp only [Route.standard, List.mem_cons, List.not_mem_nil, or_false] at hmem
  rcases hmem with rfl | rfl | rfl | rfl | rfl | rfl | rfl | rfl | rfl
  · cases hkind
    exact conveys_withRequest fun _ => conveys_perform (fun _ => conveys_respond _) fun e => .done
  · cases hkind
    exact conveys_withRequest fun _ => conveys_perform (fun _ => conveys_respond _) fun e => .done
  · cases hkind
    exact conveys_withRequest fun _ => conveys_perform (fun _ => conveys_respond _) fun e => .done
  · cases hunary
  · cases hunary
  · cases hunary
  · cases hkind
    exact conveys_lock
  · cases hkind
    exact conveys_withRequest fun _ => conveys_respond _
  · cases hkind
    exact conveys_readiness sticky

end Program

namespace Call

variable {c c' : Call} {s s' : Surroundings} {p : Program} {due : Option Nat}

theorem Replies.goOn (h : c.Replies) (p : Program) : (c.goOn p).Replies :=
  ⟨h.guarded, h.outbound, h.plain⟩

theorem leaving_lookup (h : c.lookup = none) (outcome : Except CallError Unit) :
    (c.leaving outcome).lookup = none := congrArg (Option.map Lookup.abandon) h

/-- **A handler that passes failures on** is done, or goes on to pass them on. -/
theorem handle_conveys {context : String} (h : c.Replies) (hrecovery : .recovery ∈ c.entered)
    (hconveys : p.Conveys context) (hm : c.handle s p due = some (c', s')) :
    c'.progress = .ended ∨
      ∃ p' due', c'.progress = .handling p' due' ∧ p'.Conveys context := by
  have hmove := handle_move hm
  generalize hr : (c', s') = r at hmove
  cases hmove with
  | @ends outcome b hends =>
    obtain ⟨x, hc⟩ := finish_kept h hrecovery outcome { s with backend := b }
    rw [← hr] at hc
    exact .inl (congrArg Call.progress hc)
  | heldUp hdue hheld =>
    cases hr
    exact .inr ⟨p, _, rfl, hconveys⟩
  | proceeds hproceeds =>
    cases hr
    exact .inr ⟨_, none, rfl, hconveys.proceeds hproceeds⟩
  | relays hrelays hstart =>
    subst hrelays
    cases hconveys

/-- **A handler whose operation fails** is told so. -/
theorem handle_perform_error {op : Operation} {next : Except BackendError op.Answer → Program}
    {e : BackendError} (hdue : op.IsDue s due)
    (hraised : (s.backend.react op).1 = .answered (.error e))
    (hm : c.handle s (.perform op next) due = some (c', s')) : c' = c.goOn (next (.error e)) := by
  have hmove := handle_move hm
  generalize hr : (c', s') = r at hmove
  cases hmove with
  | ends hends =>
    cases hends with
    | struck hasks hpanic => simp [Backend.react, hpanic] at hraised
  | heldUp hnone hheld =>
    subst hnone
    cases hheld with
    | perform hdelay => exact absurd hdue hdelay
  | proceeds hproceeds =>
    cases hr
    cases hproceeds with
    | denied hasks hpanic herror =>
      simp only [Backend.react, hpanic, herror] at hraised
      cases hraised
      rfl
    | performed hasks hpanic herror =>
      have hanswer := hasks.answer
      rw [hraised, hasks.react hpanic herror] at hanswer
      rw [Reaction.answered.inj hanswer]
      rfl
  | relays hrelays hstart => cases hrelays

end Call

/-! ## Unary calls -/

/-- **A unary call under way**: what is left of its handler passes failures on. -/
structure Asks (context : String) (sc : Scene) : Prop where
  contained : Contained sc
  conveys : match sc.call.progress with
    | .waiting => sc.call.handler.Conveys context
    | .handling p _ => p.Conveys context
    | _ => True

/-- **A unary call that has been told of a failure**: its handler is about to end with it, or the
call has. -/
inductive Failing (x : CallError) (sc : Scene) : Prop where
  | running {p : Program} {due : Option Nat} (hreplies : sc.call.Replies)
      (hlookup : sc.call.lookup = none) (hp : sc.call.progress = .handling p due)
      (hfails : p.FailsWith x)
  | closed {sent : List Json} (hlookup : sc.call.lookup = none)
      (houtbound : sc.call.conversation.outbound = .buffer sent)
      (hp : sc.call.progress = .ended) (hresult : sc.call.result = some (.finished (.error x)))

namespace Asks

variable {context : String} {sc sc' : Scene}

theorem own (h : Asks context sc) (hs : sc.OwnStep sc') (hcalm : sc'.undisturbed = true) :
    Asks context sc' := by
  have hcontained := h.contained.step hs.step
  obtain ⟨sent, hsent⟩ := h.contained.outbound
  obtain ⟨c, s, fault, hm, rfl⟩ := (hs.calm hcalm).task_of_kept h.contained.lookup hsent
  refine ⟨hcontained, ?_⟩
  have hphase := h.contained.phase
  have hconveys := h.conveys
  show match c.progress with
    | .waiting => c.handler.Conveys context
    | .handling p _ => p.Conveys context
    | _ => True
  cases hp : sc.call.progress with
  | waiting =>
    rw [hp] at hphase hconveys
    obtain ⟨⟨rest, hstages⟩, hplain, hentered, -, -⟩ := hphase
    obtain ⟨conversation, entered, began, -, -, hc⟩ := Call.begin_kept
      ⟨h.contained.guarded, h.contained.outbound, hentered⟩ hstages hplain sc.shared
    rw [Call.taskMove, hp] at hm
    rw [show sc.call.begin sc.shared = (c, s) from Option.some.inj hm] at hc
    obtain rfl | ⟨e, rfl⟩ := hc
    · exact hconveys
    · trivial
  | handling p due =>
    rw [hp] at hphase hconveys
    obtain ⟨hrecovery, hplain, -, -⟩ := hphase
    rw [Call.taskMove, hp] at hm
    obtain hended | ⟨p', due', hp', hconveys'⟩ := Call.handle_conveys
      ⟨h.contained.guarded, h.contained.outbound, hplain⟩ hrecovery hconveys hm
    · rw [hended]
      trivial
    · rw [hp']
      exact hconveys'
  | relaying inHand =>
    rw [hp] at hphase
    exact hphase.elim
  | reporting e =>
    rw [hp] at hphase
    exact hphase.elim
  | ended =>
    rw [Call.taskMove, hp] at hm
    cases hm

theorem others {s : Surroundings} (h : Asks context sc) (hs : sc.shared.Evolves s) :
    Asks context { sc with shared := s } :=
  ⟨h.contained.others hs, h.conveys⟩

/-- **The operation of a unary call fails**, and its handler is told so. -/
theorem raises {hits : List Item} {e : BackendError} (h : Asks context sc)
    (hr : sc.Raises hits e sc') : hits = [] ∧ Failing (.ofBackend (e.within context)) sc' := by
  cases hr with
  | operation hp hdue hraised hm =>
    have hphase := h.contained.phase
    have hconveys := h.conveys
    rw [hp] at hphase hconveys
    obtain ⟨-, hplain, -, -⟩ := hphase
    rw [Call.taskMove, hp] at hm
    obtain rfl := Call.handle_perform_error hdue hraised hm
    cases hconveys with
    | perform hnext hfails =>
      exact ⟨rfl, .running ⟨h.contained.guarded, h.contained.outbound, hplain⟩ h.contained.lookup
        rfl (hfails e)⟩
  | opening hl => cases h.contained.lookup.symm.trans hl
  | stream noticed hl => cases h.contained.lookup.symm.trans hl

theorem start {sticky : Bool} {route : Route} (hmem : route ∈ Route.standard sticky)
    (hunary : route.kind = .unary) {kind : RequestKind}
    (hkind : route.handler.request? = some kind) {g : Gateway} {metrics : Bool}
    {auth : Option AuthSettings} (hstages : g.stages = Stage.standard metrics auth) (params : Json)
    (headers : Headers) (capacity : Nat) (shared : Surroundings) :
    Asks kind.context (.start g route params headers capacity shared) := by
  refine ⟨.start hmem hunary hstages params headers capacity shared, ?_⟩
  rw [Scene.start, hunary]
  exact Program.conveys_of_unary hmem hunary hkind

end Asks

namespace Failing

variable {x : CallError} {sc sc' : Scene} {c : Call} {s : Surroundings} {fault : Option String}
  {p : Program} {due : Option Nat}

/-- The call is about to end, or its handler takes one more step. -/
theorem task_of_running (hreplies : sc.call.Replies) (hlookup : sc.call.lookup = none)
    (hp : sc.call.progress = .handling p due) (hfails : p.FailsWith x)
    (hm : sc.call.taskMove sc.shared = some (c, s)) :
    Failing x { sc with call := c, shared := s, fault } := by
  rw [Call.taskMove, hp] at hm
  cases hfails with
  | done =>
    obtain rfl := Call.handle_done_kept hreplies hm
    obtain ⟨sent, hsent⟩ := hreplies.outbound
    exact .closed (Call.leaving_lookup hlookup (.error x)) hsent rfl rfl
  | emit hnext =>
    cases hm
    exact .running (hreplies.goOn _) hlookup rfl hnext
  | setReady hnext =>
    cases hm
    exact .running (hreplies.goOn _) hlookup rfl (hnext _)

theorem own (h : Failing x sc) (hs : sc.OwnStep sc') (hcalm : sc'.undisturbed = true) :
    Failing x sc' := by
  cases h with
  | running hreplies hlookup hp hfails =>
    obtain ⟨sent, hsent⟩ := hreplies.outbound
    obtain ⟨c, s, fault, hm, rfl⟩ := (hs.calm hcalm).task_of_kept hlookup hsent
    exact task_of_running hreplies hlookup hp hfails hm
  | closed hlookup houtbound hp hresult =>
    obtain ⟨c, s, fault, hm, rfl⟩ := (hs.calm hcalm).task_of_kept hlookup houtbound
    rw [Call.taskMove, hp] at hm
    cases hm

theorem others (h : Failing x sc) (s : Surroundings) : Failing x { sc with shared := s } := by
  cases h with
  | running hreplies hlookup hp hfails => exact .running hreplies hlookup hp hfails
  | closed hlookup houtbound hp hresult => exact .closed hlookup houtbound hp hresult

/-- **The reply is the failure.** -/
theorem reply {frames : List Frame} (h : Failing x sc) (hreply : sc.reply? = some frames) :
    frames = [.error x] := by
  cases h with
  | running hreplies hlookup hp hfails =>
    obtain ⟨sent, hsent⟩ := hreplies.outbound
    simp [Scene.reply?, hsent, Call.isOver, hp] at hreply
  | closed hlookup houtbound hp hresult =>
    rw [Scene.reply?_of_finished houtbound hp hresult] at hreply
    exact (Option.some.inj hreply).symm

theorem comesTo_of_running (hfails : p.FailsWith x) {due : Option Nat} (hreplies : sc.call.Replies)
    (hlookup : sc.call.lookup = none) (hp : sc.call.progress = .handling p due)
    (hcalm : sc.undisturbed = true) : sc.ComesTo [.error x] := by
  induction hfails generalizing sc due with
  | done =>
    obtain ⟨sent, hsent⟩ := hreplies.outbound
    refine .of_task hlookup hsent hcalm (fun s => by rw [Call.taskMove, hp]; rfl)
      fun s c s' fault hm => .here ?_
    rw [Call.taskMove, hp] at hm
    obtain rfl := Call.handle_done_kept hreplies hm
    exact Scene.reply?_of_finished hsent rfl rfl
  | emit _ ih =>
    obtain ⟨sent, hsent⟩ := hreplies.outbound
    refine .of_task hlookup hsent hcalm (fun s => by rw [Call.taskMove, hp]; rfl)
      fun s c s' fault hm => ?_
    rw [Call.taskMove, hp] at hm
    cases hm
    exact ih (hreplies.goOn _) hlookup rfl hcalm
  | setReady _ ih =>
    obtain ⟨sent, hsent⟩ := hreplies.outbound
    refine .of_task hlookup hsent hcalm (fun s => by rw [Call.taskMove, hp]; rfl)
      fun s c s' fault hm => ?_
    rw [Call.taskMove, hp] at hm
    cases hm
    exact ih _ (hreplies.goOn _) hlookup rfl hcalm

/-- **The client gets the failure**, and nothing else. -/
theorem comesTo (h : Failing x sc) (hcalm : sc.undisturbed = true) : sc.ComesTo [.error x] := by
  cases h with
  | running hreplies hlookup hp hfails => exact comesTo_of_running hfails hreplies hlookup hp hcalm
  | closed hlookup houtbound hp hresult =>
    exact .here (Scene.reply?_of_finished houtbound hp hresult)

end Failing

end RelationGate
