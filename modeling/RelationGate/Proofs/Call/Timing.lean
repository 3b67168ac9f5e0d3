import RelationGate.Proofs.Call.Audit
import RelationGate.Proofs.Call.Handling

/-!
# The clock and the deadline

The deadline of a call acts in one place, where the handler is given up. Everything else that a call
does is the same with a deadline and without one, and takes no time on the clock.

* `Scene.Timely`: the runs in which the clock does not go past the deadline of a handler that is
  still at work. Only the others move the clock (`Scene.OwnStep.now`), and the clock of the gateway
  keeps to this: its moves and its ticks are steps of such a run (`World.move_timely`,
  `World.tick_timely`).
* `Call.untimed`: a call without its deadline. `Scene.OwnStep.untimed`: a step of a call is one that
  it can make without a deadline, unless its handler is given up.
-/

namespace RelationGate

/-! ## The clock -/

namespace Stage

theorem enter_now (stage : Stage) (s : Surroundings) (c : Conversation) :
    (stage.enter s c).2.1.now = s.now := by
  cases stage with
  | auth settings =>
    rw [enter]
    split
    · rfl
    · rfl
  | checkpoint p =>
    rw [enter]
    split
    · rfl
    · rfl
  | _ => rfl

theorem enterAll_now (stages entered : List Stage) (s : Surroundings) (c : Conversation) :
    (enterAll stages entered s c).2.2.1.now = s.now := by
  induction stages generalizing entered s c with
  | nil => rfl
  | cons stage rest ih =>
    have hs := stage.enter_now s c
    rw [enterAll]
    split
    next s₁ c₁ henter =>
      rw [henter] at hs
      exact (ih _ s₁ c₁).trans hs
    next e s₁ c₁ henter =>
      rw [henter] at hs
      exact hs

theorem leave_now (stage : Stage) (began : Nat) (outcome : Outcome) (s : Surroundings)
    (c : Conversation) : (stage.leave began outcome s c).2.1.now = s.now := by
  cases outcome with
  | panicked words => cases stage <;> rfl
  | finished x => cases stage <;> rfl

theorem leaveAll_now (began : Nat) (entered : List Stage) (outcome : Outcome) (s : Surroundings)
    (c : Conversation) : (leaveAll began entered outcome s c).2.1.now = s.now := by
  induction entered generalizing outcome s c with
  | nil => rfl
  | cons stage rest ih =>
    rw [leaveAll]
    exact (ih _ _ _).trans (stage.leave_now began outcome s c)

end Stage

namespace Call

variable {c c' : Call} {s s' : Surroundings}

theorem finish_now (c : Call) (outcome : Outcome) (s : Surroundings) :
    (c.finish outcome s).2.now = s.now :=
  Stage.leaveAll_now c.began c.entered outcome s c.conversation

theorem begin_now (c : Call) (s : Surroundings) : (c.begin s).2.now = s.now := by
  have henter := Stage.enterAll_now c.stages [] s c.conversation
  rw [begin]
  split
  next admission entered s₁ conversation heq =>
  rw [heq] at henter
  cases admission with
  | ok u => exact henter
  | error e => exact (finish_now _ _ s₁).trans henter

theorem handle_now {p : Program} {due : Option Nat} (hm : c.handle s p due = some (c', s')) :
    s'.now = s.now := by
  have hmove := handle_move hm
  generalize hr : (c', s') = r at hmove
  cases hmove with
  | ends hends =>
    obtain rfl : s' = _ := congrArg Prod.snd hr
    exact finish_now _ _ _
  | heldUp | relays =>
    cases hr
    rfl
  | proceeds hproceeds =>
    obtain ⟨acts, events, ready, hshared, -⟩ := hproceeds.shared
    cases hr
    rw [hshared]

/-- **No move of the task takes time.** -/
theorem taskMove_now (hm : c.taskMove s = some (c', s')) : s'.now = s.now := by
  cases hp : c.progress with
  | waiting =>
    simp only [taskMove, hp] at hm
    have hnow := c.begin_now s
    rwa [Option.some.inj hm] at hnow
  | handling p due =>
    simp only [taskMove, hp] at hm
    exact handle_now hm
  | relaying inHand =>
    simp only [taskMove, hp] at hm
    obtain ⟨conversation, lookup, -, ⟨x, heq⟩ | ⟨inHand', heq⟩⟩ := relay_cases hm
    · cases heq
      exact finish_now _ _ s
    · cases heq
      rfl
  | reporting e =>
    simp only [taskMove, hp] at hm
    obtain ⟨c'', -, heq⟩ := Option.map_eq_some_iff.1 hm
    cases heq
    rfl
  | ended => simp [taskMove, hp] at hm

theorem expire_now (hm : c.expire s = some (c', s')) : s'.now = s.now := by
  obtain ⟨ms, -, -, -, -, heq⟩ := expire_cases hm
  cases heq
  exact finish_now _ _ s

end Call

namespace Scene

variable {start sc sc' : Scene} {s : Surroundings}

theorem OwnStep.now (hs : OwnStep sc sc') : sc'.shared.now = sc.shared.now := by
  cases hs with
  | task hm => exact Call.taskMove_now hm
  | expire hm => exact Call.expire_now hm
  | _ => rfl

/-- The time of a handler that is at work is not up, or only just. -/
def InTime (sc : Scene) : Prop :=
  sc.call.isHandling = true → ∀ ms, sc.call.timeout = some ms → sc.shared.now ≤ sc.call.began + ms

/-- What the acts can lead to as long as the clock does not go past the deadline of a handler at
work. -/
inductive Timely (start : Scene) : Scene → Prop where
  | refl : Timely start start
  | own {sc sc' : Scene} (h : Timely start sc) (hs : OwnStep sc sc') : Timely start sc'
  | others {sc : Scene} {s : Surroundings} (h : Timely start sc) (hs : sc.shared.Evolves s)
      (hintime : InTime { sc with shared := s }) : Timely start { sc with shared := s }

theorem Timely.trans (h : Timely start sc) (h' : Timely sc sc') : Timely start sc' := by
  induction h' with
  | refl => exact h
  | own _ hs ih => exact ih.own hs
  | others _ hs hintime ih => exact ih.others hs hintime

/-- **What every step keeps holds of every timely run.** -/
theorem Timely.induct {P : Scene → Prop} (hown : ∀ sc sc', P sc → OwnStep sc sc' → P sc')
    (hothers : ∀ sc s, P sc → sc.shared.Evolves s → InTime { sc with shared := s } →
      P { sc with shared := s }) (hstart : P start) (h : Timely start sc) : P sc := by
  induction h with
  | refl => exact hstart
  | own _ hs ih => exact hown _ _ ih hs
  | others _ hs hintime ih => exact hothers _ _ ih hs hintime

end Scene

/-! ## The clock of the gateway -/

theorem exists_earlier_left (t : Nat) (b : Option Nat) :
    ∃ t', earlier (some t) b = some t' ∧ t' ≤ t := by
  cases b with
  | none => exact ⟨t, rfl, Nat.le_refl _⟩
  | some b => exact ⟨min t b, rfl, Nat.min_le_left _ _⟩

theorem exists_earlier_right (a : Option Nat) (t : Nat) :
    ∃ t', earlier a (some t) = some t' ∧ t' ≤ t := by
  cases a with
  | none => exact ⟨t, rfl, Nat.le_refl _⟩
  | some a => exact ⟨min a t, rfl, Nat.min_le_right _ _⟩

namespace Call

theorem lookupMove_now {c c' : Call} {s s' : Surroundings} (hm : c.lookupMove s = some (c', s')) :
    s'.now = s.now := by
  unfold lookupMove at hm
  split at hm
  · cases hm
  · obtain ⟨r, -, heq⟩ := Option.map_eq_some_iff.1 hm
    cases heq
    rfl

theorem move_now {c c' : Call} {s s' : Surroundings} (hm : c.move s = some (c', s')) :
    s'.now = s.now := by
  unfold move at hm
  split at hm
  next r hr =>
    cases hm
    exact lookupMove_now hr
  · exact taskMove_now hm

/-- A handler at work is due at its deadline, if not before. -/
theorem due_le_deadline {c : Call} {now ms : Nat} (hhandling : c.isHandling = true)
    (htimeout : c.timeout = some ms) : ∃ t, c.due now = some t ∧ t ≤ c.began + ms := by
  have hdeadline : c.deadline = some (c.began + ms) := by rw [deadline, htimeout]; rfl
  obtain ⟨t₁, h₁, hle₁⟩ := exists_earlier_right (c.lookup.bind (·.due now)) (c.began + ms)
  have hdue : ∃ ofTask, c.due now = earlier ofTask (some t₁) := by
    refine ⟨_, congrArg (earlier _) ?_⟩
    rw [if_pos hhandling, hdeadline, h₁]
  obtain ⟨ofTask, hdue⟩ := hdue
  rw [hdue]
  obtain ⟨t₂, h₂, hle₂⟩ := exists_earlier_right ofTask t₁
  exact ⟨t₂, h₂, Nat.le_trans hle₂ hle₁⟩

end Call

namespace World

variable {w w' : World} {sc : Scene} {i : Nat}

/-- **A move of the gateway** is a step of a timely run of each of its calls. -/
theorem move_timely (hm : w.move = some w') (hi : w.calls[i]? = some sc.call)
    (hs : w.surroundings = sc.shared) (hintime : sc.InTime) :
    ∃ sc', Scene.Timely sc sc' ∧ w'.calls[i]? = some sc'.call ∧ w'.surroundings = sc'.shared := by
  obtain ⟨sc', hstep, hcall, hshared⟩ | ⟨hcall, c, c', hmoved⟩ := move_own_or_other hm hi hs
  · exact ⟨sc', .own .refl hstep, hcall, hshared⟩
  · have hothers : sc.shared.Evolves w'.surroundings ∧ w'.surroundings.now = sc.shared.now := by
      rcases hmoved with hexpire | hmove
      · exact ⟨Call.expire_evolves hexpire, Call.expire_now hexpire⟩
      · exact ⟨Call.move_evolves hmove, Call.move_now hmove⟩
    refine ⟨_, .others .refl hothers.1 fun hhandling ms htimeout => ?_, hcall, rfl⟩
    rw [hothers.2]
    exact hintime hhandling ms htimeout

theorem foldl_due_le (now : Nat) (calls : List Call) (t₀ : Option Nat) {t : Nat}
    (h : calls.foldl (fun t c => earlier t (c.due now)) t₀ = some t) :
    (∀ t', t₀ = some t' → t ≤ t') ∧ ∀ c ∈ calls, ∀ t', c.due now = some t' → t ≤ t' := by
  induction calls generalizing t₀ with
  | nil =>
    refine ⟨fun t' ht' => ?_, fun c hc => by cases hc⟩
    have heq : t' = t := Option.some.inj (ht'.symm.trans h)
    exact Nat.le_of_eq heq.symm
  | cons c rest ih =>
    obtain ⟨hfirst, hrest⟩ := ih _ h
    have hleft : ∀ t', t₀ = some t' → t ≤ t' := by
      rintro t' rfl
      obtain ⟨t₁, h₁, hle⟩ := exists_earlier_left t' (c.due now)
      exact Nat.le_trans (hfirst t₁ h₁) hle
    have hright : ∀ t', c.due now = some t' → t ≤ t' := by
      intro t' hdue
      obtain ⟨t₁, h₁, hle⟩ := exists_earlier_right t₀ t'
      rw [← hdue] at h₁
      exact Nat.le_trans (hfirst t₁ h₁) hle
    refine ⟨hleft, fun c' hc' => ?_⟩
    rcases List.mem_cons.1 hc' with rfl | hc'
    · exact hright
    · exact hrest c' hc'

/-- **A tick of the gateway** is a step of a timely run of each of its calls: the clock goes on to
the next moment at which a call is due, and no further. -/
theorem tick_timely {t : Nat} (hdue : w.due = some t) (hforward : w.surroundings.now ≤ t)
    (hi : w.calls[i]? = some sc.call) (hs : w.surroundings = sc.shared) :
    ∃ sc', Scene.Timely sc sc' ∧ (machine.setNow w t).calls[i]? = some sc'.call ∧
      (machine.setNow w t).surroundings = sc'.shared := by
  have hevolves : sc.shared.Evolves { sc.shared with now := t } :=
    ⟨hs ▸ hforward, List.prefix_rfl, rfl, rfl, rfl⟩
  refine ⟨_, .others .refl hevolves fun hhandling ms htimeout => ?_, hi, by rw [← hs]; rfl⟩
  obtain ⟨t', ht', hle⟩ :
      ∃ t', sc.call.due w.surroundings.now = some t' ∧ t' ≤ sc.call.began + ms :=
    Call.due_le_deadline hhandling htimeout
  have hmem : sc.call ∈ w.calls := List.mem_of_getElem? hi
  exact Nat.le_trans ((foldl_due_le _ _ _ hdue).2 sc.call hmem t' ht') hle

end World

/-! ## A call without its deadline -/

namespace Call

/-- A call without its deadline. -/
def untimed (c : Call) : Call := { c with timeout := none }

variable {c c' : Call} {s s' : Surroundings}

theorem conclude_untimed (c : Call) (outcome : Outcome) :
    c.untimed.conclude outcome = (c.conclude outcome).untimed := by
  cases hguarded : c.guarded with
  | false => simp [conclude, untimed, hguarded]
  | true =>
    obtain (e | u) | words := outcome
    · cases houtbound : c.conversation.outbound with
      | buffer sent | channel frames =>
        simp [conclude, untimed, hguarded, Conversation.cancel, houtbound]
    · simp [conclude, untimed, hguarded]
    · simp [conclude, untimed, hguarded]

theorem finish_untimed (c : Call) (outcome : Outcome) (s : Surroundings) :
    c.untimed.finish outcome s = ((c.finish outcome s).1.untimed, (c.finish outcome s).2) := by
  refine Prod.ext ?_ rfl
  show (c.untimed.finish outcome s).1 = (c.finish outcome s).1.untimed
  rw [finish_eq, finish_eq]
  exact conclude_untimed { c with
    conversation := (Stage.leaveAll c.began c.entered outcome s c.conversation).2.2 } _

theorem begin_untimed (c : Call) (s : Surroundings) :
    c.untimed.begin s = ((c.begin s).1.untimed, (c.begin s).2) := by
  have hstages : c.untimed.stages = c.stages := rfl
  have hconversation : c.untimed.conversation = c.conversation := rfl
  unfold begin
  rw [hstages, hconversation]
  generalize Stage.enterAll c.stages [] s c.conversation = r
  obtain ⟨admission, entered, s₁, conversation⟩ := r
  cases admission with
  | ok u => rfl
  | error e => exact finish_untimed { c with entered, conversation, began := s₁.now } _ s₁

theorem handle_untimed {p : Program} {due : Option Nat} (hm : c.handle s p due = some (c', s')) :
    c.untimed.handle s p due = some (c'.untimed, s') := by
  rw [handle_iff] at hm ⊢
  generalize hr : (c', s') = r at hm
  cases hm with
  | @ends outcome b hends =>
    have hfinish := finish_untimed c outcome { s with backend := b }
    rw [← hr] at hfinish
    exact hfinish ▸ .ends hends
  | heldUp hdue hheld =>
    cases hr
    exact .heldUp hdue hheld
  | proceeds hproceeds =>
    cases hr
    exact .proceeds hproceeds
  | relays hrelays hstart =>
    cases hr
    exact .relays hrelays hstart

theorem relay_untimed {inHand : Option Json} (hm : c.relay s inHand = some (c', s')) :
    c.untimed.relay s inHand = some (c'.untimed, s') := by
  have hback : ∀ {d : Call} {x}, (c', s') = d.finishWith x s →
      d.untimed.finishWith x s = (c'.untimed, s') := fun {d x} heq =>
    (finish_untimed d (.finished x) s).trans (congrArg (fun r => (r.1.untimed, r.2)) heq.symm)
  rw [relay_iff] at hm ⊢
  generalize hr : (c', s') = r at hm
  cases hm with
  | passed hsend =>
    cases hr
    exact .passed hsend
  | took hlookup hx =>
    cases hr
    exact .took hlookup hx
  | stopped hsend => exact hback hr ▸ .stopped hsend
  | idle hlookup => exact hback hr ▸ .idle hlookup
  | failed hlookup hx => exact hback hr ▸ .failed hlookup hx
  | ended hlookup hx => exact hback hr ▸ .ended hlookup hx

theorem report_untimed {e : CallError} (hm : c.report e = some c') :
    c.untimed.report e = some c'.untimed := by
  rw [report_iff] at hm ⊢
  cases hm with
  | kept houtbound => exact .kept houtbound
  | told houtbound hpresent hroom => exact .told houtbound hpresent hroom
  | left houtbound hleft => exact .left houtbound hleft

/-- **The task does not look at the deadline.** -/
theorem taskMove_untimed (hm : c.taskMove s = some (c', s')) :
    c.untimed.taskMove s = some (c'.untimed, s') := by
  cases hp : c.progress with
  | waiting =>
    simp only [taskMove, hp] at hm
    simp only [taskMove, untimed, hp]
    have hbegin := c.begin_untimed s
    rw [Option.some.inj hm] at hbegin
    exact congrArg some hbegin
  | handling p due =>
    simp only [taskMove, hp] at hm
    simp only [taskMove, untimed, hp]
    exact handle_untimed hm
  | relaying inHand =>
    simp only [taskMove, hp] at hm
    simp only [taskMove, untimed, hp]
    exact relay_untimed hm
  | reporting e =>
    simp only [taskMove, hp] at hm
    obtain ⟨c'', hreport, heq⟩ := Option.map_eq_some_iff.1 hm
    cases heq
    simp only [taskMove, untimed, hp]
    exact Option.map_eq_some_iff.2 ⟨_, report_untimed hreport, rfl⟩
  | ended => simp [taskMove, hp] at hm

end Call

namespace Scene

variable {start sc sc' : Scene}

/-- The scene of a call without its deadline. -/
def untimed (sc : Scene) : Scene := { sc with call := sc.call.untimed }

/-- The handler is given up. -/
def GivenUp (sc sc' : Scene) : Prop :=
  ∃ c s, sc.call.expire sc.shared = some (c, s) ∧
    sc' = { sc with call := c, shared := s, undisturbed := false }

/-- **A step of a call** is one that it can make without a deadline, unless its handler is given
up. -/
theorem OwnStep.untimed (hs : OwnStep sc sc') :
    OwnStep sc.untimed sc'.untimed ∨ sc.GivenUp sc' := by
  cases hs with
  | task hm => exact .inl (.task (Call.taskMove_untimed hm))
  | expire hm => exact .inr ⟨_, _, hm, rfl⟩
  | produce hl hm => exact .inl (.produce hl hm)
  | stream noticed hl hnoticed hm => exact .inl (.stream noticed hl hnoticed hm)
  | breakdown words hl hm => exact .inl (.breakdown words hl hm)
  | cancel => exact .inl .cancel
  | read hframes hpresent hr => exact .inl (.read hframes hpresent hr)
  | readEnd hframes hpresent hr => exact .inl (.readEnd hframes hpresent hr)
  | leave hframes => exact .inl (.leave hframes)

/-- What the others do, they can do beside a call without a deadline. -/
theorem Timely.others_untimed {s : Surroundings} (h : Timely start sc.untimed)
    (hs : sc.shared.Evolves s) : Timely start (Scene.untimed { sc with shared := s }) :=
  h.others hs fun _ _ => nofun

end Scene

end RelationGate
