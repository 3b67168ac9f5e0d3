import RelationGate.Proofs.Call.Scene
import RelationGate.Proofs.Call.Streaming

/-!
# Unary calls and the faults of the backend

The handlers of the unary methods start no lookup (`relayFree_of_unary`), so every operation of the
backend is performed on the task of the call. A fault that strikes there unwinds through the stages:
recovery records it and makes one fixed failure of it, in every schedule (`Contained.of_reachable`).
-/

namespace RelationGate

/-! ## Handlers without lookups -/

/-- A program that starts no lookup, whatever it is answered. -/
inductive Program.RelayFree : Program → Prop where
  | done (outcome : Except CallError Unit) : RelayFree (.done outcome)
  | panic (words : Option String) : RelayFree (.panic words)
  | receive {kind : RequestKind} {next : Except CallError (Request kind) → Program}
      (h : ∀ r, RelayFree (next r)) : RelayFree (.receive kind next)
  | send {message : Json} {next : Except CallError Unit → Program} (h : ∀ r, RelayFree (next r)) :
      RelayFree (.send message next)
  | perform {op : Operation} {next : Except BackendError op.Answer → Program}
      (h : ∀ r, RelayFree (next r)) : RelayFree (.perform op next)
  | sleep {ms : Nat} {next : Program} (h : RelayFree next) : RelayFree (.sleep ms next)
  | cancel {next : Program} (h : RelayFree next) : RelayFree (.cancel next)
  | look {next : CallView → Program} (h : ∀ v, RelayFree (next v)) : RelayFree (.look next)
  | note {entry : Json} {next : Program} (h : RelayFree next) : RelayFree (.note entry next)
  | emit {event : Event} {next : Program} (h : RelayFree next) : RelayFree (.emit event next)
  | isReady {next : Bool → Program} (h : ∀ b, RelayFree (next b)) : RelayFree (.isReady next)
  | setReady {ready : Bool} {next : Bool → Program} (h : ∀ b, RelayFree (next b)) :
      RelayFree (.setReady ready next)

namespace Program

theorem relayFree_respond (r : Response) : (respond r).RelayFree := .send .done

theorem relayFree_withRequest {kind : RequestKind} {next : Request kind → Program}
    (h : ∀ r, (next r).RelayFree) : (withRequest kind next).RelayFree :=
  .receive fun
    | .ok r => h r
    | .error e => .done (.error e)

theorem relayFree_acquireLock {identifier : String} {existing : Option LockToken}
    {next : Except BackendError LockToken → Program} (h : ∀ r, (next r).RelayFree) :
    (acquireLock identifier existing next).RelayFree := by
  rw [acquireLock]
  split
  · exact h _
  · refine .perform fun (outcome : Except BackendError LockToken) => ?_
    cases outcome with
    | error e => exact h _
    | ok token =>
      show (if existing = some token then _ else _ : Program).RelayFree
      split
      · exact .emit (h _)
      · exact h _

theorem relayFree_checkReady {sticky : Bool} {next : Except BackendError Unit → Program}
    (h : ∀ r, (next r).RelayFree) : (checkReady sticky next).RelayFree := by
  refine .isReady fun ready => ?_
  show (if sticky && ready then _ else _ : Program).RelayFree
  split
  · exact h _
  · refine .perform fun (outcome : Except BackendError Unit) => ?_
    cases outcome with
    | error e => exact .setReady fun _ => .emit (h _)
    | ok u =>
      refine .setReady fun before => ?_
      cases before with
      | true => exact h _
      | false => exact .emit (h _)

/-- **No unary method starts a lookup.** -/
theorem relayFree_of_unary {sticky : Bool} {route : Route} (hmem : route ∈ Route.standard sticky)
    (hkind : route.kind = .unary) : route.handler.RelayFree := by
  simp only [Route.standard, List.mem_cons, List.not_mem_nil, or_false] at hmem
  rcases hmem with rfl | rfl | rfl | rfl | rfl | rfl | rfl | rfl | rfl
  · exact relayFree_withRequest fun q =>
      .perform fun (outcome : Except BackendError CheckResult) => by
        cases outcome with
      | ok r => exact relayFree_respond _
      | error e => exact .done _
  · exact relayFree_withRequest fun (r : CreateRequest) =>
      .perform fun (outcome : Except BackendError ConsistencyToken) => by
        cases outcome with
        | ok t => exact relayFree_respond _
        | error e => exact .done _
  · exact relayFree_withRequest fun (r : DeleteRequest) =>
      .perform fun (outcome : Except BackendError ConsistencyToken) => by
        cases outcome with
        | ok t => exact relayFree_respond _
        | error e => exact .done _
  · cases hkind
  · cases hkind
  · cases hkind
  · exact relayFree_withRequest fun (r : LockRequest) => relayFree_acquireLock fun outcome => by
      cases outcome with
      | ok t => exact relayFree_respond _
      | error e => exact .done _
  · exact relayFree_withRequest fun _ => relayFree_respond _
  · exact relayFree_withRequest fun _ => relayFree_checkReady fun outcome => by
      cases outcome with
      | ok u => exact relayFree_respond _
      | error e => exact .done _

/-- What a program without lookups goes on with is one as well. -/
theorem RelayFree.proceeds {p p' : Program} {due : Option Nat} {s s' : Surroundings}
    {c c' : Conversation} (hfree : p.RelayFree) (h : p.Proceeds s c due p' c' s') :
    p'.RelayFree := by
  cases hfree with
  | done outcome | panic words => cases h
  | receive hnext | send hnext | perform hnext | look hnext | isReady hnext | setReady hnext =>
    cases h
    all_goals exact hnext _
  | sleep hnext | cancel hnext | note hnext | emit hnext =>
    cases h
    exact hnext

end Program

/-! ## The moves of the task -/

namespace Call

variable {c c' : Call} {s s' : Surroundings}

/-- **The way in**: the handler is reached, or the call is over. -/
theorem begin_kept {rest : List Stage} (h : c.Replies) (hstages : c.stages = .recovery :: rest)
    (hplain : ∀ stage ∈ c.stages, stage.IsPlain) (s : Surroundings) :
    ∃ conversation entered began, .recovery ∈ entered ∧
      { c with entered, conversation, began }.Replies ∧
      ((c.begin s).1 =
          { c with entered, conversation, began, progress := .handling c.handler none } ∨
        ∃ e, (c.begin s).1 = { c with entered, conversation, began }.closed (.error e)) := by
  obtain ⟨sent, hsent⟩ := h.outbound
  obtain ⟨conversation, entered, began, hadmits, hrecovery, hentered, hc⟩ :=
    begin_cases hstages hplain s
  have hreplies : { c with entered, conversation, began }.Replies :=
    ⟨h.guarded, ⟨sent, hadmits.outbound.trans hsent⟩, hentered⟩
  refine ⟨conversation, entered, began, hrecovery, hreplies, hc.imp_right ?_⟩
  rintro ⟨e, s₁, hc⟩
  exact ⟨e, hc.trans (finishWith_kept hreplies _ s₁)⟩

/-- **The way back** of a handler that has come out somehow. -/
theorem finish_kept (h : c.Replies) (hrecovery : .recovery ∈ c.entered) (outcome : Outcome)
    (s : Surroundings) : ∃ x, (c.finish outcome s).1 = c.closed x := by
  cases outcome with
  | finished x => exact ⟨x, finishWith_kept h x s⟩
  | panicked words =>
    exact ⟨_, (finish_panicked h.plain hrecovery words s).1.trans (conclude_kept h _)⟩

/-- **A move of a handler without lookups**: a fault brings it down, or it is over, or it goes
on. -/
theorem handle_kept {p : Program} {due : Option Nat} (h : c.Replies)
    (hrecovery : .recovery ∈ c.entered)
    (hp : c.progress = .handling p due) (hfree : p.RelayFree)
    (hm : c.handle s p due = some (c', s')) :
    (∃ words, c.struck s = some words ∧ c' = c.closed (.error Stage.breakdownError) ∧
        Stage.recoveredEvent c.conversation (some words) ∈ s'.events) ∨
      c.struck s = none ∧ ((∃ outcome, c' = c.closed outcome) ∨
        ∃ conversation p' due', (∃ sent, conversation.outbound = .buffer sent) ∧ p'.RelayFree ∧
          c' = { c with conversation, progress := .handling p' due' }) := by
  have hmove := handle_move hm
  generalize hr : (c', s') = r at hmove
  cases hmove with
  | @ends outcome b hends =>
    obtain hcalm | ⟨words, hstruck, rfl⟩ := struck_of_ends hp hends
    · obtain ⟨x, hc⟩ := finish_kept h hrecovery outcome { s with backend := b }
      exact .inr ⟨hcalm, .inl ⟨x, (congrArg Prod.fst hr).trans hc⟩⟩
    · obtain ⟨hc, hevent⟩ :=
        finish_panicked h.plain hrecovery (some words) { s with backend := b }
      rw [← hr] at hc hevent
      exact .inl ⟨words, hstruck, hc.trans (conclude_kept h _), hevent⟩
  | heldUp hdue hheld =>
    cases hr
    exact .inr ⟨struck_of_heldUp (hdue ▸ hp) hheld,
      .inr ⟨c.conversation, p, _, h.outbound, hfree, rfl⟩⟩
  | proceeds hproceeds =>
    cases hr
    exact .inr ⟨struck_of_proceeds hp hproceeds,
      .inr ⟨_, _, none, hproceeds.kept h.outbound, hfree.proceeds hproceeds, rfl⟩⟩
  | relays hrelays hstart =>
    subst hrelays
    cases hfree

end Call

/-! ## The invariant -/

/-- What holds of a unary call at each stage of its task. -/
def Guards (sc : Scene) : Progress → Prop
  | .waiting => (∃ rest, sc.call.stages = .recovery :: rest) ∧
      (∀ stage ∈ sc.call.stages, stage.IsPlain) ∧
      (∀ stage ∈ sc.call.entered, stage.IsPlain) ∧ sc.call.handler.RelayFree ∧ sc.fault = none
  | .handling program _ => .recovery ∈ sc.call.entered ∧
      (∀ stage ∈ sc.call.entered, stage.IsPlain) ∧
      program.RelayFree ∧ sc.fault = none
  | .relaying _ | .reporting _ => False
  | .ended => ∀ words, sc.fault = some words →
      sc.call.result = some (.finished (.error Stage.breakdownError)) ∧
        Stage.recoveredEvent sc.call.conversation (some words) ∈ sc.shared.events

/-- **The invariant** of a unary call: a fault that has struck was contained by recovery. -/
structure Contained (sc : Scene) : Prop where
  guarded : sc.call.guarded = true
  outbound : ∃ sent, sc.call.conversation.outbound = .buffer sent
  lookup : sc.call.lookup = none
  phase : Guards sc sc.call.progress

namespace Contained

variable {sc sc' : Scene} {c : Call} {s : Surroundings}

/-- The call is over without a fault. -/
theorem closed_calm (h : Contained sc) (outcome : Except CallError Unit)
    (conversation : Conversation)
    (houtbound : ∃ sent, conversation.outbound = .buffer sent) (entered : List Stage) (began : Nat)
    (shared : Surroundings) (undisturbed : Bool) :
    Contained { sc with
      call := { sc.call with entered, conversation, began }.closed outcome, shared, fault := none
      undisturbed } where
  guarded := h.guarded
  outbound := houtbound
  lookup := congrArg (Option.map Lookup.abandon) h.lookup
  phase := fun _ hfault => absurd hfault.symm (Option.some_ne_none _)

/-- **A move of the task keeps the invariant.** -/
theorem task (h : Contained sc) (hm : sc.call.taskMove sc.shared = some (c, s)) :
    Contained { sc with
      call := c, shared := s, fault := sc.strike (sc.call.struck sc.shared) } := by
  have hphase := h.phase
  cases hp : sc.call.progress with
  | waiting =>
    rw [hp] at hphase
    obtain ⟨⟨rest, hstages⟩, hplain, hentered, hfree, hcalm⟩ := hphase
    have hfault : sc.strike (sc.call.struck sc.shared) = none := by
      rw [Scene.strike, hcalm, Call.isHandling, hp]
      rfl
    obtain ⟨conversation, entered, began, hrecovery, hreplies, hc⟩ :=
      Call.begin_kept ⟨h.guarded, h.outbound, hentered⟩ hstages hplain sc.shared
    rw [Call.taskMove, hp] at hm
    rw [congrArg Prod.fst (Option.some.inj hm)] at hc
    rw [hfault]
    obtain rfl | ⟨e, rfl⟩ := hc
    · exact ⟨h.guarded, hreplies.outbound, h.lookup, hrecovery, hreplies.plain, hfree, rfl⟩
    · exact h.closed_calm (.error e) conversation hreplies.outbound entered began s sc.undisturbed
  | handling program due =>
    rw [hp] at hphase
    obtain ⟨hrecovery, hplain, hfree, hcalm⟩ := hphase
    have hfault : sc.strike (sc.call.struck sc.shared) = sc.call.struck sc.shared := by
      rw [Scene.strike, hcalm, Call.isHandling, hp]
      rfl
    rw [Call.taskMove, hp] at hm
    rw [hfault]
    obtain ⟨words, hstruck, rfl, hevent⟩ | ⟨hstruck, hnext⟩ :=
      Call.handle_kept ⟨h.guarded, h.outbound, hplain⟩ hrecovery hp hfree hm
    · rw [hstruck]
      refine ⟨h.guarded, h.outbound, congrArg (Option.map Lookup.abandon) h.lookup,
        fun words' heq => ?_⟩
      cases heq
      exact ⟨rfl, hevent⟩
    · rw [hstruck]
      obtain ⟨outcome, rfl⟩ | ⟨conversation, program', due', houtbound, hfree', rfl⟩ := hnext
      · exact h.closed_calm outcome _ h.outbound _ _ s sc.undisturbed
      · exact ⟨h.guarded, houtbound, h.lookup, hrecovery, hplain, hfree', rfl⟩
  | relaying inHand =>
    rw [hp] at hphase
    exact hphase.elim
  | reporting e =>
    rw [hp] at hphase
    exact hphase.elim
  | ended =>
    rw [Call.taskMove, hp] at hm
    cases hm

/-- The time is up: the call is over. -/
theorem deadline (h : Contained sc) (ms : Nat) (hhandling : sc.call.isHandling = true) :
    Contained { sc with
      call := (sc.call.giveUp ms sc.shared).1, shared := (sc.call.giveUp ms sc.shared).2
      undisturbed := false } := by
  have hphase := h.phase
  cases hp : sc.call.progress with
  | handling program due =>
    rw [hp] at hphase
    obtain ⟨-, hplain, -, hcalm⟩ := hphase
    have hgiven : { sc.call with
        conversation := sc.call.conversation.cancel
        lookup := sc.call.lookup.map Lookup.abandon }.Replies := ⟨h.guarded, h.outbound, hplain⟩
    refine ⟨?_, ?_, ?_, ?_⟩
    all_goals rw [Call.giveUp, Call.finishWith_kept hgiven]
    · exact h.guarded
    · exact h.outbound
    · rw [Call.closed, Call.leaving, h.lookup]
      rfl
    · exact fun words heq => absurd (heq.symm.trans hcalm) (Option.some_ne_none _)
  | relaying inHand =>
    rw [hp] at hphase
    exact hphase.elim
  | _ =>
    rw [Call.isHandling, hp] at hhandling
    cases hhandling

/-- What calls share evolves. -/
theorem others (h : Contained sc) (hs : sc.shared.Evolves s) :
    Contained { sc with shared := s } := by
  refine ⟨h.guarded, h.outbound, h.lookup, ?_⟩
  have hphase := h.phase
  show Guards _ sc.call.progress
  cases hp : sc.call.progress with
  | ended =>
    rw [hp] at hphase
    exact fun words hfault => (hphase words hfault).imp_right fun hevent => hs.events.subset hevent
  | _ =>
    rw [hp] at hphase
    exact hphase

/-- Somebody cancels. -/
theorem cancel (h : Contained sc) :
    Contained { sc with
      call := { sc.call with conversation := sc.call.conversation.cancel }
      undisturbed := false } := by
  refine ⟨h.guarded, h.outbound, h.lookup, ?_⟩
  have hphase := h.phase
  show Guards _ sc.call.progress
  generalize sc.call.progress = progress at hphase ⊢
  cases progress with
  | _ => exact hphase

/-- **Every act keeps the invariant.** A unary call has no lookup and no frames to act on. -/
theorem step (h : Contained sc) (hs : Scene.Step sc sc') : Contained sc' := by
  obtain ⟨sent, hsent⟩ := h.outbound
  cases hs with
  | task hm => exact h.task hm
  | deadline htimeout hhandling hlate => exact h.deadline _ hhandling
  | produce hl hm => cases h.lookup.symm.trans hl
  | stream noticed hl hnoticed hm => cases h.lookup.symm.trans hl
  | breakdown words hl hm => cases h.lookup.symm.trans hl
  | others hevolves => exact h.others hevolves
  | cancel => exact h.cancel
  | read hframes hpresent hr => cases hsent.symm.trans hframes
  | readEnd hframes hpresent hr => cases hsent.symm.trans hframes
  | leave hframes => cases hsent.symm.trans hframes

/-- A unary call that has just been made. -/
theorem start {sticky : Bool} {route : Route} (hmem : route ∈ Route.standard sticky)
    (hkind : route.kind = .unary) {g : Gateway} {metrics : Bool} {auth : Option AuthSettings}
    (hstages : g.stages = Stage.standard metrics auth) (params : Json) (headers : Headers)
    (capacity : Nat)
    (shared : Surroundings) : Contained (.start g route params headers capacity shared) := by
  rw [Scene.start, hkind]
  refine ⟨rfl, ⟨[], by simp only [Gateway.newCall, hkind]⟩, rfl, ⟨_, hstages⟩,
    fun stage hstage => ?_,
    fun stage hstage => (List.not_mem_nil hstage).elim, Program.relayFree_of_unary hmem hkind, rfl⟩
  exact Stage.isPlain_of_mem_standard hstages hstage

theorem of_reachable {start : Scene} (hstart : Contained start) (h : Scene.Reachable start sc) :
    Contained sc := by
  induction h with
  | refl => exact hstart
  | tail _ hs ih => exact ih.step hs

/-- **A fault that has struck** ended the call with the failure of a breakdown, and is on record. -/
theorem of_fault (h : Contained sc) {words : String} (hfault : sc.fault = some words) :
    sc.call.result = some (.finished (.error Stage.breakdownError)) ∧
      Stage.recoveredEvent sc.call.conversation (some words) ∈ sc.shared.events := by
  have hphase := h.phase
  cases hp : sc.call.progress with
  | waiting =>
    rw [hp] at hphase
    cases hphase.2.2.2.2.symm.trans hfault
  | handling program due =>
    rw [hp] at hphase
    cases hphase.2.2.2.symm.trans hfault
  | relaying inHand =>
    rw [hp] at hphase
    exact hphase.elim
  | reporting e =>
    rw [hp] at hphase
    exact hphase.elim
  | ended =>
    rw [hp] at hphase
    exact hphase words hfault

end Contained

end RelationGate
