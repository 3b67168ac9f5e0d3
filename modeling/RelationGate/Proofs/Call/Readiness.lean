import Mathlib.Data.List.Basic
import RelationGate.Proofs.Call.Moves

/-!
# Checks of the readiness side by side

A sticky check looks at the flag that the backend was ready once, and asks the backend only if it
is down. While it waits for the answer, other checks may look, ask, and put the flag up. A `Crowd`
is any number of checks, what they share, and whatever else goes on.

* `CheckStage.Next`: what one move of a check does to it and to the flag. Only a check that is
  refused takes the flag down.
* `readiness_lasts_iff`: a flag that is up stays up for ever exactly if no check is under way that
  may still be refused. Then whoever starts later is told that the backend is ready, and asks
  nothing.
* `not_readiness_lasts`: that some check has come out well is not enough, for a slower one may be
  refused after it.
-/

namespace RelationGate

/-! ## One check -/

namespace Program

/-- A check ends with what it has found out. -/
def verdict : Except BackendError Unit → Program
  | .ok () => .done (.ok ())
  | .error e => failWith e

/-- What a check makes of the answer of the backend. -/
def heardReady : Except BackendError Unit → Program
  | .ok () =>
    .setReady true fun before =>
      if before then verdict (.ok ())
      else .emit ⟨.info, "readiness", "backend became ready", []⟩ (verdict (.ok ()))
  | .error e =>
    .setReady false fun _ =>
      .emit ⟨.warn, "readiness", "backend not ready", [("error", e.text)]⟩
        (verdict (.error (e.within "backend not ready")))

theorem checkReady_eq : checkReady true verdict = .isReady fun ready =>
    if ready then verdict (.ok ()) else .perform .available heardReady := by
  rfl

end Program

/-- A sticky check. -/
def Call.ofCheck : Call where
  stages := []
  handler := .checkReady true .verdict
  conversation :=
    { context := { kind := .unary, method := "permgate.v1.HealthService/Readiness" }
      inbound := [], outbound := .buffer [] }

/-- How far a check has come. -/
inductive CheckStage where
  | made
  | looking
  | asking
  | heard (outcome : Except BackendError Unit)
  | telling (outcome : Except BackendError Unit)
  | done (outcome : Outcome)

namespace CheckStage

/-- A check that has come so far. -/
def At (c : Call) : CheckStage → Prop
  | made => c.progress = .waiting
  | looking => c.progress = .handling (.checkReady true .verdict) none
  | asking => ∃ due, c.progress = .handling (.perform .available .heardReady) due
  | heard o => c.progress = .handling (.heardReady o) none
  | telling o => c.progress = .handling (.verdict o) none ∨
      ∃ e, c.progress = .handling (.emit e (.verdict o)) none
  | done r => c.progress = .ended ∧ c.result = some r

/-- **What one move of a check does** to it, and to the flag. -/
inductive Next : Bool → Bool → CheckStage → CheckStage → Prop where
  | begins (ready : Bool) : Next ready ready .made .looking
  | sticks : Next true true .looking (.telling (.ok ()))
  | asks : Next false false .looking .asking
  | waits (ready : Bool) : Next ready ready .asking .asking
  | breaks (ready : Bool) (words : Option String) :
      Next ready ready .asking (.done (.panicked words))
  | hears (ready : Bool) (o : Except BackendError Unit) : Next ready ready .asking (.heard o)
  | admits (ready : Bool) : Next ready true (.heard (.ok ())) (.telling (.ok ()))
  | refuses (ready : Bool) (e e' : BackendError) :
      Next ready false (.heard (.error e)) (.telling (.error e'))
  | tells (ready : Bool) (o : Except BackendError Unit) : Next ready ready (.telling o) (.telling o)
  | ends (ready : Bool) (o : Except BackendError Unit) :
      Next ready ready (.telling o) (.done (.finished (o.mapError .ofBackend)))

end CheckStage

/-- What does not change of a check. -/
structure Call.IsCheck (c : Call) : Prop where
  stages : c.stages = []
  handler : c.handler = .checkReady true .verdict
  entered : c.entered = []
  guarded : c.guarded = true
  outbound : c.conversation.outbound = .buffer []

namespace Call.IsCheck

variable {c c' : Call} {s s' : Surroundings} {stage : CheckStage}

/-- A check that comes to its end. -/
theorem finish (h : c.IsCheck) (outcome : Outcome) (s : Surroundings) :
    (c.finish outcome s).1.IsCheck ∧ (CheckStage.done outcome).At (c.finish outcome s).1 ∧
      (c.finish outcome s).2.ready = s.ready := by
  have hout : c.conversation.cancel.outbound = .buffer [] := h.outbound
  have hc : (c.finish outcome s).1 = { c with
      conversation := c.conversation.cancel, lookup := c.lookup.map Lookup.abandon
      result := some outcome, progress := .ended } := by
    rw [Call.finish, h.entered, Stage.leaveAll]
    simp only [conclude, h.guarded, hout, closeFrames]
    rfl
  rw [hc, Call.finish, h.entered]
  exact ⟨⟨h.stages, h.handler, rfl, h.guarded, h.outbound⟩, ⟨rfl, rfl⟩, rfl⟩

/-- A check whose task goes on. -/
theorem goOn (h : c.IsCheck) (p : Program) : (c.goOn p).IsCheck :=
  ⟨h.stages, h.handler, h.entered, h.guarded, h.outbound⟩

/-- **A check that asks the backend**: it waits, breaks down, or hears the answer. -/
theorem ask (h : c.IsCheck) {due : Option Nat}
    (hm : c.handle s (.perform .available Program.heardReady) due = some (c', s')) :
    c'.IsCheck ∧ ∃ stage', CheckStage.Next s.ready s'.ready .asking stage' ∧ stage'.At c' := by
  have hmove := handle_move hm
  generalize hr : (c', s') = r at hmove
  cases hmove with
  | @ends outcome b hends =>
    cases hends with
    | struck hasks hpanic =>
      obtain ⟨hcheck, hat, hready⟩ := h.finish (.panicked (some _)) { s with backend := b }
      rw [← hr] at hcheck hat hready
      rw [show s'.ready = s.ready from hready]
      exact ⟨hcheck, _, .breaks _ _, hat⟩
  | heldUp hdue hheld =>
    cases hr
    exact ⟨⟨h.stages, h.handler, h.entered, h.guarded, h.outbound⟩, _, .waits _, _, rfl⟩
  | proceeds hproceeds =>
    cases hr
    cases hproceeds with
    | denied hasks hpanic herror => exact ⟨h.goOn _, _, .hears _ _, rfl⟩
    | performed hasks hpanic herror => exact ⟨h.goOn _, _, .hears _ _, rfl⟩
  | relays hrelays hstart => cases hrelays

/-- **A move of a check.** -/
theorem next (h : c.IsCheck) (hat : stage.At c) (hm : c.taskMove s = some (c', s')) :
    c'.IsCheck ∧ ∃ stage', stage.Next s.ready s'.ready stage' ∧ stage'.At c' := by
  cases stage with
  | made =>
    rw [taskMove, show c.progress = _ from hat] at hm
    have hbegin : c.begin s = ({ c with
        entered := [], conversation := c.conversation, began := s.now
        progress := .handling c.handler none }, s) := by
      rw [begin, h.stages]
      rfl
    cases hbegin.symm.trans (Option.some.inj hm)
    exact ⟨⟨h.stages, h.handler, rfl, h.guarded, h.outbound⟩, _, .begins _, by
      rw [CheckStage.At, h.handler]⟩
  | looking =>
    rw [taskMove, show c.progress = _ from hat, Program.checkReady_eq] at hm
    cases hm
    refine ⟨h.goOn _, ?_⟩
    show ∃ stage', CheckStage.Next s.ready s.ready .looking stage' ∧ stage'.At
      (c.goOn (if s.ready then _ else _))
    cases s.ready with
    | true => exact ⟨_, .sticks, .inl rfl⟩
    | false => exact ⟨_, .asks, none, rfl⟩
  | asking =>
    obtain ⟨due, hp⟩ := hat
    rw [taskMove, hp] at hm
    exact h.ask hm
  | heard o =>
    rw [taskMove, show c.progress = _ from hat] at hm
    cases o with
    | ok u =>
      cases hm
      refine ⟨h.goOn _, _, .admits _, ?_⟩
      show (CheckStage.telling _).At (c.goOn (if s.ready then _ else _))
      cases s.ready with
      | true => exact .inl rfl
      | false => exact .inr ⟨_, rfl⟩
    | error e =>
      cases hm
      exact ⟨h.goOn _, _, .refuses _ _ _, .inr ⟨_, rfl⟩⟩
  | telling o =>
    obtain hp | ⟨e, hp⟩ := hat
    · have hverdict : Program.verdict o = .done (o.mapError .ofBackend) := by
        cases o with
        | ok u => rfl
        | error e => rfl
      rw [taskMove, hp, hverdict] at hm
      obtain ⟨hcheck, hat', hready⟩ := h.finish (.finished (o.mapError .ofBackend)) s
      rw [show c.finish _ s = (c', s') from Option.some.inj hm] at hcheck hat' hready
      rw [hready]
      exact ⟨hcheck, _, .ends _ o, hat'⟩
    · rw [taskMove, hp] at hm
      cases hm
      exact ⟨h.goOn _, _, .tells _ o, .inl rfl⟩
  | done r =>
    rw [taskMove, hat.1] at hm
    cases hm

end Call.IsCheck

/-! ## Any number of checks -/

/-- Checks in the order in which they were started, and what they share. -/
structure Crowd where
  shared : Surroundings
  checks : List Call := []

namespace Crowd

/-- One step of somebody: a check is started, a check moves, or time and everything else go on,
which leave the flag alone. -/
inductive Step : Crowd → Crowd → Prop where
  | start {w : Crowd} : Step w { w with checks := w.checks ++ [.ofCheck] }
  | move {w : Crowd} (i : Nat) {c c' : Call} {s : Surroundings} (hi : w.checks[i]? = some c)
      (hm : c.taskMove w.shared = some (c', s)) : Step w ⟨s, w.checks.set i c'⟩
  | others {w : Crowd} {s : Surroundings} (hready : s.ready = w.shared.ready)
      (hnow : w.shared.now ≤ s.now) : Step w { w with shared := s }

/-- What the steps can lead to. -/
inductive Reachable (start : Crowd) : Crowd → Prop where
  | refl : Reachable start start
  | tail {w w' : Crowd} (h : Reachable start w) (hs : Step w w') : Reachable start w'

end Crowd

/-- The check waits for the answer of the backend. -/
def Call.isAsking (c : Call) : Bool :=
  match c.progress with
  | .handling (.perform _ _) _ => true
  | _ => false

/-- The check waits for the answer of the backend, or is about to take the flag down. -/
def Call.isUnderWay (c : Call) : Bool :=
  match c.progress with
  | .handling (.perform _ _) _ | .handling (.setReady false _) _ => true
  | _ => false

/-- The check is over, and the backend is ready. -/
def Call.cameOutWell (c : Call) : Bool :=
  match c.result with
  | some (.finished (.ok ())) => true
  | _ => false

namespace CheckStage

/-- A check that may yet take the flag down. -/
def isUnderWay : CheckStage → Bool
  | asking | heard (.error _) => true
  | _ => false

/-- A check that has asked nothing, and has not failed. -/
def isSpared : CheckStage → Bool
  | made | looking | telling (.ok ()) | done (.finished (.ok ())) => true
  | _ => false

variable {stage stage' : CheckStage} {ready : Bool} {c : Call}

/-- A check is at one stage only. -/
theorem At.isUnderWay_eq (hat : stage.At c) : c.isUnderWay = stage.isUnderWay := by
  rw [Call.isUnderWay]
  cases stage with
  | made | looking => rw [show c.progress = _ from hat]; rfl
  | asking =>
    obtain ⟨due, hp⟩ := hat
    rw [hp]
    rfl
  | heard o =>
    rw [show c.progress = _ from hat]
    cases o with
    | _ => rfl
  | telling o =>
    obtain hp | ⟨e, hp⟩ := hat
    · rw [hp]
      cases o with
      | _ => rfl
    · rw [hp]
      rfl
  | done r =>
    rw [hat.1]
    rfl

/-- A check that has asked nothing comes out well. -/
theorem At.of_isSpared (hat : stage.At c) (h : stage.isSpared = true) :
    c.isAsking = false ∧ (c.isOver = true → c.cameOutWell = true) := by
  rw [Call.isAsking, Call.isOver]
  cases stage with
  | made | looking =>
    rw [show c.progress = _ from hat]
    exact ⟨rfl, nofun⟩
  | asking | heard o => cases h
  | telling o =>
    cases o with
    | ok u =>
      obtain hp | ⟨e, hp⟩ := hat
      all_goals
        rw [hp]
        exact ⟨rfl, nofun⟩
    | error e => cases h
  | done r =>
    rw [hat.1, Call.cameOutWell, hat.2]
    refine ⟨rfl, fun _ => ?_⟩
    cases r with
    | panicked words => cases h
    | finished o =>
      cases o with
      | ok u => rfl
      | error e => cases h

/-- While the flag is up, a check that may not take it down leaves it up, and will not. -/
theorem Next.harmless (h : Next true ready stage stage') (hharmless : stage.isUnderWay = false) :
    ready = true ∧ stage'.isUnderWay = false := by
  cases h with
  | begins | sticks | admits | tells | ends => exact ⟨rfl, rfl⟩
  | waits | breaks | hears | refuses => cases hharmless

/-- While the flag is up, a check that has asked nothing asks nothing. -/
theorem Next.spared (h : Next true ready stage stage') (hspared : stage.isSpared = true) :
    stage'.isSpared = true := by
  cases h with
  | begins | sticks => rfl
  | tells ready o => exact hspared
  | ends ready o =>
    cases o with
    | ok u => rfl
    | error e => cases hspared
  | waits | breaks | hears | refuses | admits => cases hspared

end CheckStage

/-! ## The flag that is up -/

namespace Crowd

variable {w w' : Crowd} {s : Surroundings} {first : Nat}

theorem isCheck_ofCheck : Call.ofCheck.IsCheck := ⟨rfl, rfl, rfl, rfl, rfl⟩

/-- Every check of a crowd has come so far. -/
def Kept (w : Crowd) : Prop := ∀ c ∈ w.checks, c.IsCheck ∧ ∃ stage : CheckStage, stage.At c

theorem Kept.step (h : w.Kept) (hs : Step w w') : w'.Kept := by
  cases hs with
  | start =>
    simp only [Kept, List.forall_mem_append, List.forall_mem_singleton]
    exact ⟨h, isCheck_ofCheck, .made, rfl⟩
  | move i hi hm =>
    intro c hc
    obtain hc | rfl := List.mem_or_eq_of_mem_set hc
    · exact h c hc
    · obtain ⟨hcheck, stage, hat⟩ := h _ (List.mem_of_getElem? hi)
      obtain ⟨hcheck', stage', -, hat'⟩ := hcheck.next hat hm
      exact ⟨hcheck', stage', hat'⟩
  | others hready hnow => exact h

theorem Kept.of_reachable (h : w.Kept) (hw : Reachable w w') : w'.Kept := by
  induction hw with
  | refl => exact h
  | tail _ hs ih => exact ih.step hs

/-- **The flag is settled**: it is up, no check may take it down any more, and the checks from some
one on have asked nothing. -/
structure Settled (first : Nat) (w : Crowd) : Prop where
  ready : w.shared.ready = true
  checks : ∀ i c, w.checks[i]? = some c → c.IsCheck ∧
    ∃ stage : CheckStage, stage.At c ∧ stage.isUnderWay = false ∧
      (first ≤ i → stage.isSpared = true)

theorem Kept.settled (h : w.Kept) (hready : w.shared.ready = true)
    (hnone : ∀ c ∈ w.checks, c.isUnderWay = false) : w.Settled w.checks.length where
  ready := hready
  checks i c hi := by
    have hc := List.mem_of_getElem? hi
    obtain ⟨hcheck, stage, hat⟩ := h c hc
    refine ⟨hcheck, stage, hat, hat.isUnderWay_eq ▸ hnone c hc, fun hlate => ?_⟩
    have hlt := (List.getElem?_eq_some_iff.1 hi).1
    omega

theorem Settled.step (h : w.Settled first) (hs : Step w w') : w'.Settled first := by
  cases hs with
  | start =>
    refine ⟨h.ready, fun i c hi => ?_⟩
    by_cases hlt : i < w.checks.length
    · rw [List.getElem?_append_left hlt] at hi
      exact h.checks i c hi
    · rw [List.getElem?_append_right (Nat.not_lt.1 hlt), List.getElem?_singleton] at hi
      split at hi
      · cases hi
        exact ⟨isCheck_ofCheck, .made, rfl, rfl, fun _ => rfl⟩
      · cases hi
  | @move i c c' s hi hm =>
    obtain ⟨hcheck, stage, hat, hharmless, hspared⟩ := h.checks i c hi
    obtain ⟨hcheck', stage', hnext, hat'⟩ := hcheck.next hat hm
    rw [h.ready] at hnext
    obtain ⟨hready, hharmless'⟩ := hnext.harmless hharmless
    refine ⟨hready, fun j d hj => ?_⟩
    by_cases hji : i = j
    · subst hji
      rw [List.getElem?_set_self (List.getElem?_eq_some_iff.1 hi).1] at hj
      cases hj
      exact ⟨hcheck', stage', hat', hharmless', fun hlate => hnext.spared (hspared hlate)⟩
    · rw [List.getElem?_set_ne hji] at hj
      exact h.checks j d hj
  | others hready hnow => exact ⟨hready.trans h.ready, h.checks⟩

theorem Settled.of_reachable (h : w.Settled first) (hw : Reachable w w') : w'.Settled first := by
  induction hw with
  | refl => exact h
  | tail _ hs ih => exact ih.step hs

/-- **A check that is under way may take the flag down**: the backend goes down, and it is
refused. -/
theorem Kept.exists_down (h : w.Kept) {c : Call} (hc : c ∈ w.checks)
    (hunderway : c.isUnderWay = true) : ∃ w', Reachable w w' ∧ w'.shared.ready = false := by
  obtain ⟨-, stage, hat⟩ := h c hc
  obtain ⟨i, hi⟩ := List.getElem?_of_mem hc
  rw [hat.isUnderWay_eq] at hunderway
  -- Once the backend has refused a check, its next move takes the flag down.
  have hrefused : ∀ {w' : Crowd} {d : Call} {e : BackendError}, Reachable w w' →
      w'.checks[i]? = some d → (CheckStage.heard (.error e)).At d →
        ∃ w'', Reachable w w'' ∧ w''.shared.ready = false := by
    intro w' d e hw' hd hat'
    have hmove : Crowd.Step _ _ :=
      .move i hd (by rw [Call.taskMove, show d.progress = _ from hat']; rfl)
    exact ⟨_, hw'.tail hmove, rfl⟩
  cases stage with
  | heard o =>
    cases o with
    | ok u => cases hunderway
    | error e => exact hrefused .refl hi hat
  | asking =>
    obtain ⟨due, hp⟩ := hat
    let down : Surroundings :=
      { w.shared with
        now := w.shared.now + due.getD 0
        backend := { w.shared.backend with isAvailable := false, disturbance := fun _ => {} } }
    obtain ⟨d, s, hm, hat'⟩ : ∃ d s, c.taskMove down = some (d, s) ∧
        ∃ e, (CheckStage.heard (.error e)).At d := by
      rw [Call.taskMove, hp]
      cases due with
      | none => exact ⟨_, _, rfl, _, rfl⟩
      | some moment => exact ⟨_, _, if_pos (Nat.le_add_left moment _), _, rfl⟩
    obtain ⟨e, hat'⟩ := hat'
    have hset : (w.checks.set i d)[i]? = some d :=
      List.getElem?_set_self (List.getElem?_eq_some_iff.1 hi).1
    have hdown : Step w { w with shared := down } := .others rfl (Nat.le_add_right _ _)
    exact hrefused ((Reachable.refl.tail hdown).tail (.move i hi hm)) hset hat'
  | _ => cases hunderway

end Crowd

/-! ## The flag among many checks -/

namespace Crowd

/-- The crowd after a move of a check, if it can make one. -/
def moving (w : Crowd) (i : Nat) : Crowd :=
  match w.checks[i]? with
  | none => w
  | some c =>
    match c.taskMove w.shared with
    | none => w
    | some (c', s) => ⟨s, w.checks.set i c'⟩

/-- Checks that move in some order. -/
theorem Reachable.moves {start w : Crowd} (h : Reachable start w) (order : List Nat) :
    Reachable start (order.foldl moving w) := by
  induction order generalizing w with
  | nil => exact h
  | cons i order ih =>
    refine ih ?_
    rw [moving]
    split
    · exact h
    next c hi =>
      split
      · exact h
      next c' s hm => exact h.tail (.move i hi hm)

/-- The crowd after some time, with another backend. -/
def switch (w : Crowd) (ms : Nat) (backend : Backend) : Crowd :=
  { w with shared := { w.shared with now := w.shared.now + ms, backend } }

theorem Reachable.switch {start w : Crowd} (h : Reachable start w) (ms : Nat) (backend : Backend) :
    Reachable start (w.switch ms backend) :=
  h.tail (.others rfl (Nat.le_add_right _ _))

end Crowd

/-- **How long a sticky readiness lasts.** However many checks overlap, with whatever the backend
answers: a flag that is up stays up for ever exactly if no check is under way that the backend may
still refuse. In that case every check that starts later asks nothing, and comes out well. -/
theorem readiness_lasts_iff {s : Surroundings} {w : Crowd} (h : Crowd.Reachable { shared := s } w)
    (hready : w.shared.ready = true) :
    ((∀ w', Crowd.Reachable w w' → w'.shared.ready = true) ↔
        ∀ c ∈ w.checks, c.isUnderWay = false) ∧
      ((∀ c ∈ w.checks, c.isUnderWay = false) → ∀ w', Crowd.Reachable w w' →
        ∀ i c, w.checks.length ≤ i → w'.checks[i]? = some c →
          c.isAsking = false ∧ (c.isOver = true → c.cameOutWell = true)) := by
  have hkept : w.Kept := Crowd.Kept.of_reachable (fun c hc => (List.not_mem_nil hc).elim) h
  refine ⟨⟨fun hup c hc => ?_, fun hnone w' hw' => ?_⟩, fun hnone w' hw' i c hlate hi => ?_⟩
  · by_contra hunderway
    rw [Bool.not_eq_false] at hunderway
    obtain ⟨w', hw', hdown⟩ := hkept.exists_down hc hunderway
    exact Bool.false_ne_true (hdown.symm.trans (hup w' hw'))
  · exact ((hkept.settled hready hnone).of_reachable hw').ready
  · obtain ⟨-, stage, hat, -, hspared⟩ :=
      ((hkept.settled hready hnone).of_reachable hw').checks i c hi
    exact hat.of_isSpared (hspared hlate)

/-- A check that is alone puts the flag up for ever. -/
theorem readiness_lasts_iff_alone :
    let s : Surroundings :=
      { unixTime := 0, backend := { mint := fun n => ⟨toString n⟩ }, traceIds := fun _ => "trace" }
    ∃ w, Crowd.Reachable { shared := s } w ∧ w.shared.ready = true ∧
      ∀ w', Crowd.Reachable w w' → w'.shared.ready = true := by
  intro s
  let w := [0, 0, 0, 0, 0, 0].foldl Crowd.moving { shared := s, checks := [.ofCheck] }
  have hstart : Crowd.Reachable { shared := s } { shared := s, checks := [.ofCheck] } :=
    Crowd.Reachable.refl.tail .start
  have h : Crowd.Reachable { shared := s } w := hstart.moves _
  have hready : w.shared.ready = true := by decide +kernel
  have hnone : w.checks.all (!·.isUnderWay) = true := by decide +kernel
  obtain ⟨hlasts, -⟩ := readiness_lasts_iff h hready
  refine ⟨w, h, hready, hlasts.2 fun c hc => ?_⟩
  simpa using List.all_eq_true.1 hnone c hc

/-- A check has come out well, the backend goes down, and a slower check, which was made before, is
refused: the next check asks again. -/
theorem not_readiness_lasts :
    ¬ ∀ (s : Surroundings) (w w' : Crowd), Crowd.Reachable { shared := s } w →
      (∃ c ∈ w.checks, c.cameOutWell = true) → Crowd.Reachable w w' →
        ∀ i c, w.checks.length ≤ i → w'.checks[i]? = some c →
          c.isAsking = false ∧ (c.isOver = true → c.cameOutWell = true) := by
  intro hlasts
  let supply : Nat → LockToken := fun n => ⟨toString n⟩
  let slow : Surroundings :=
    { unixTime := 0, traceIds := fun _ => "trace"
      backend := { mint := supply, disturbance := fun _ => { delay := 10 } } }
  -- The first check waits for a slow answer, and the second one gets a fast one.
  let waiting := [0, 0, 0].foldl Crowd.moving { shared := slow, checks := [.ofCheck, .ofCheck] }
  let w := [1, 1, 1, 1, 1, 1].foldl Crowd.moving (waiting.switch 0 { mint := supply })
  let refused :=
    [0, 0].foldl Crowd.moving (w.switch 10 { mint := supply, isAvailable := false })
  let w' := [2, 2].foldl Crowd.moving { refused with checks := refused.checks ++ [.ofCheck] }
  have hwell : w.checks[1]?.map Call.cameOutWell = some true := by decide +kernel
  have hlength : w.checks.length = 2 := by decide +kernel
  have hasks : w'.checks[2]?.map Call.isAsking = some true := by decide +kernel
  have hstart : Crowd.Reachable { shared := slow }
      { shared := slow, checks := [.ofCheck, .ofCheck] } :=
    Crowd.Reachable.refl.tail .start |>.tail .start
  have hw : Crowd.Reachable { shared := slow } w := ((hstart.moves [0, 0, 0]).switch 0 _).moves _
  have hrefused : Crowd.Reachable w refused := (Crowd.Reachable.refl.switch 10 _).moves _
  have hw' : Crowd.Reachable w w' := (hrefused.tail .start).moves [2, 2]
  obtain ⟨c, hc, hresult⟩ := Option.map_eq_some_iff.1 hwell
  obtain ⟨d, hd, hd'⟩ := Option.map_eq_some_iff.1 hasks
  obtain ⟨hnot, -⟩ := hlasts slow w w' hw ⟨c, List.mem_of_getElem? hc, hresult⟩ hw' 2 d
    (Nat.le_of_eq hlength) hd
  exact Bool.false_ne_true (hnot.symm.trans hd')

end RelationGate
