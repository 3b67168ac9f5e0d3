import Mathlib.Data.List.Basic
import RelationGate.Call.Stage

/-!
# What the stages do to a call

`Surroundings.Evolves` bounds what anything that runs in the gateway does to what calls share. The
stages of the gateway are plain: on the way in they change no message of a call (`enterAll_admits`),
and on the way out they pass an outcome on as it is (`leaveAll_finished`), but for recovery, which
turns a breakdown into one fixed failure and records it (`leaveAll_panicked`).
-/

namespace RelationGate

/-! ## What calls share -/

namespace Surroundings

/-- What may become of the shared state: time goes on, events are only added, and neither the
settings nor the make of the backend change. -/
structure Evolves (s s' : Surroundings) : Prop where
  now : s.now ≤ s'.now
  events : s.events <+: s'.events
  settings : s'.settings = s.settings
  script : s'.backend.script = s.backend.script
  buffer : s'.backend.buffer = s.backend.buffer

namespace Evolves

variable {s s' s'' : Surroundings}

@[refl] theorem refl (s : Surroundings) : s.Evolves s :=
  ⟨Nat.le_refl _, List.prefix_rfl, rfl, rfl, rfl⟩

theorem trans (h : s.Evolves s') (h' : s'.Evolves s'') : s.Evolves s'' :=
  ⟨Nat.le_trans h.now h'.now, h.events.trans h'.events, h'.settings.trans h.settings,
    h'.script.trans h.script, h'.buffer.trans h.buffer⟩

theorem emit (s : Surroundings) (e : Event) : s.Evolves (s.emit e) :=
  ⟨Nat.le_refl _, List.prefix_append _ _, rfl, rfl, rfl⟩

theorem endSpans (s : Surroundings) (spans : List Span) : s.Evolves (s.endSpans spans) :=
  ⟨Nat.le_refl _, List.prefix_rfl, rfl, rfl, rfl⟩

/-- Only the backend changes, and not its make. -/
theorem of_backend {b : Backend} (hscript : b.script = s.backend.script)
    (hbuffer : b.buffer = s.backend.buffer) : s.Evolves { s with backend := b } :=
  ⟨Nat.le_refl _, List.prefix_rfl, rfl, hscript, hbuffer⟩

end Evolves

end Surroundings

namespace Stage

variable {stage : Stage} {stages entered : List Stage}

/-- A stage of the gateway: it keeps no notes. -/
def IsPlain : Stage → Prop
  | checkpoint _ => False
  | _ => True

theorem isPlain_of_mem_standard {metrics : Bool} {auth : Option AuthSettings}
    (hstages : stages = standard metrics auth) (h : stage ∈ stages) : stage.IsPlain := by
  rw [hstages] at h
  cases stage with
  | checkpoint p => cases metrics <;> simp [standard] at h
  | _ => trivial

/-! ## The way in -/

/-- What the way in changes of a call is what is found out about it. -/
structure Admits (c c' : Conversation) : Prop where
  inbound : c'.inbound = c.inbound
  outbound : c'.outbound = c.outbound
  canceled : c'.context.canceled = c.context.canceled

theorem Admits.refl (c : Conversation) : Admits c c := ⟨rfl, rfl, rfl⟩

/-- Every stage only adds to the log on the way in. -/
theorem enter_evolves (stage : Stage) (s : Surroundings) (c : Conversation) :
    s.Evolves (stage.enter s c).2.1 := by
  cases stage with
  | recovery | logging | metrics | validation => exact .refl s
  | tracing => exact ⟨Nat.le_refl _, List.prefix_rfl, rfl, rfl, rfl⟩
  | auth settings =>
    rw [enter]
    split
    · exact .refl s
    · exact .emit s _
  | checkpoint p =>
    rw [enter]
    split
    · exact .refl s
    · exact .refl s

theorem enterAll_evolves (stages entered : List Stage) (s : Surroundings) (c : Conversation) :
    s.Evolves (enterAll stages entered s c).2.2.1 := by
  induction stages generalizing entered s c with
  | nil => exact .refl s
  | cons stage rest ih =>
    have hs := stage.enter_evolves s c
    rw [enterAll]
    split
    next s₁ c₁ henter =>
      rw [henter] at hs
      exact hs.trans (ih _ s₁ c₁)
    next e s₁ c₁ henter =>
      rw [henter] at hs
      exact hs

/-- No stage asks the backend anything on the way in, and the clock is not touched. -/
theorem enter_shared (stage : Stage) (s : Surroundings) (c : Conversation) :
    (stage.enter s c).2.1.backend = s.backend ∧ (stage.enter s c).2.1.unixTime = s.unixTime := by
  cases stage with
  | recovery | logging | metrics | validation | tracing => exact ⟨rfl, rfl⟩
  | auth settings =>
    rw [enter]
    split
    · exact ⟨rfl, rfl⟩
    · exact ⟨rfl, rfl⟩
  | checkpoint p =>
    rw [enter]
    split
    · exact ⟨rfl, rfl⟩
    · exact ⟨rfl, rfl⟩

theorem enterAll_shared (stages entered : List Stage) (s : Surroundings) (c : Conversation) :
    (enterAll stages entered s c).2.2.1.backend = s.backend ∧
      (enterAll stages entered s c).2.2.1.unixTime = s.unixTime := by
  induction stages generalizing entered s c with
  | nil => exact ⟨rfl, rfl⟩
  | cons stage rest ih =>
    have hs := stage.enter_shared s c
    rw [enterAll]
    split
    next s₁ c₁ henter =>
      rw [henter] at hs
      obtain ⟨hbackend, hclock⟩ := ih (stage :: entered) s₁ c₁
      exact ⟨hbackend.trans hs.1, hclock.trans hs.2⟩
    next e s₁ c₁ henter =>
      rw [henter] at hs
      exact hs

theorem enter_admits (h : stage.IsPlain) (s : Surroundings) (c : Conversation) :
    Admits c (stage.enter s c).2.2 := by
  cases stage with
  | checkpoint p => exact h.elim
  | recovery | logging | metrics => exact .refl c
  | validation | tracing => exact ⟨rfl, rfl, rfl⟩
  | auth settings =>
    rw [enter]
    split
    · exact ⟨rfl, rfl, rfl⟩
    · exact .refl c

/-- **The way in.** The messages of the call stay as they are, and the stages that it has been let
into are among those it came through. -/
theorem enterAll_admits (h : ∀ stage ∈ stages, stage.IsPlain) (entered : List Stage)
    (s : Surroundings)
    (c : Conversation) :
    Admits c (enterAll stages entered s c).2.2.2 ∧ entered ⊆ (enterAll stages entered s c).2.1 ∧
      (enterAll stages entered s c).2.1 ⊆ stages ++ entered := by
  induction stages generalizing entered s c with
  | nil => exact ⟨.refl c, List.Subset.refl _, List.Subset.refl _⟩
  | cons stage rest ih =>
    rw [List.forall_mem_cons] at h
    have hc := enter_admits h.1 s c
    rw [enterAll]
    split
    next s₁ c₁ henter =>
      rw [henter] at hc
      obtain ⟨hc', hsub, hsup⟩ := ih h.2 (stage :: entered) s₁ c₁
      refine ⟨⟨hc'.inbound.trans hc.inbound, hc'.outbound.trans hc.outbound,
        hc'.canceled.trans hc.canceled⟩, List.Subset.trans (List.subset_cons_self _ _) hsub,
        List.Subset.trans hsup fun x hx => ?_⟩
      simp only [List.mem_append, List.mem_cons] at hx ⊢
      tauto
    next e s₁ c₁ henter =>
      rw [henter] at hc
      exact ⟨hc, List.Subset.refl _, List.subset_append_right _ _⟩

/-- A call that comes through has been let into every stage. -/
theorem enterAll_entered {s : Surroundings} {c : Conversation}
    (h : (enterAll stages entered s c).1 = .ok ()) :
    (enterAll stages entered s c).2.1 = stages.reverse ++ entered := by
  induction stages generalizing entered s c with
  | nil => rfl
  | cons stage rest ih =>
    rw [enterAll] at h ⊢
    split at h
    next s₁ c₁ henter => rw [ih h, List.reverse_cons, List.append_assoc, List.singleton_append]
    next e s₁ c₁ henter => cases h

/-! ## The way out -/

/-- Every stage only adds to the log on the way out. -/
theorem leave_evolves (stage : Stage) (began : Nat) (outcome : Outcome) (s : Surroundings)
    (c : Conversation) : s.Evolves (stage.leave began outcome s c).2.1 := by
  cases outcome with
  | panicked words =>
    cases stage with
    | recovery => exact .emit s _
    | _ => exact .refl s
  | finished x =>
    cases stage with
    | logging => exact .emit s _
    | metrics => exact ⟨Nat.le_refl _, List.prefix_rfl, rfl, rfl, rfl⟩
    | _ => exact .refl s

theorem leaveAll_evolves (began : Nat) (entered : List Stage) (outcome : Outcome) (s : Surroundings)
    (c : Conversation) : s.Evolves (leaveAll began entered outcome s c).2.1 := by
  induction entered generalizing outcome s c with
  | nil => exact .refl s
  | cons stage rest ih => exact (stage.leave_evolves began outcome s c).trans (ih _ _ _)

/-- No stage asks the backend anything on the way out, and what is known of the call stays. -/
theorem leave_shared (stage : Stage) (began : Nat) (outcome : Outcome) (s : Surroundings)
    (c : Conversation) : (stage.leave began outcome s c).2.1.backend = s.backend ∧
      (stage.leave began outcome s c).2.2.context = c.context := by
  cases outcome with
  | panicked words =>
    cases stage with
    | _ => exact ⟨rfl, rfl⟩
  | finished x =>
    cases stage with
    | checkpoint p =>
      refine ⟨rfl, ?_⟩
      simp only [leave]
      split
      · rfl
      · rfl
    | _ => exact ⟨rfl, rfl⟩

theorem leaveAll_shared (began : Nat) (entered : List Stage) (outcome : Outcome) (s : Surroundings)
    (c : Conversation) : (leaveAll began entered outcome s c).2.1.backend = s.backend ∧
      (leaveAll began entered outcome s c).2.2.context = c.context := by
  induction entered generalizing outcome s c with
  | nil => exact ⟨rfl, rfl⟩
  | cons stage rest ih =>
    obtain ⟨hbackend, hcontext⟩ := stage.leave_shared began outcome s c
    obtain ⟨hbackend', hcontext'⟩ := ih (stage.leave began outcome s c).1
      (stage.leave began outcome s c).2.1 (stage.leave began outcome s c).2.2
    exact ⟨hbackend'.trans hbackend, hcontext'.trans hcontext⟩

theorem leave_outcome (stage : Stage) (began : Nat) (x : Except CallError Unit) (s : Surroundings)
    (c : Conversation) : (stage.leave began (.finished x) s c).1 = .finished x := by
  cases stage <;> rfl

/-- **The outcome of a handler that is done** passes every stage as it is. -/
theorem leaveAll_outcome (began : Nat) (entered : List Stage) (x : Except CallError Unit)
    (s : Surroundings) (c : Conversation) :
    (leaveAll began entered (.finished x) s c).1 = .finished x := by
  induction entered generalizing s c with
  | nil => rfl
  | cons stage rest ih =>
    rw [leaveAll]
    simp only [leave_outcome]
    exact ih _ _

theorem leave_conversation (h : stage.IsPlain) (began : Nat) (x : Except CallError Unit)
    (s : Surroundings) (c : Conversation) : (stage.leave began (.finished x) s c).2.2 = c := by
  cases stage with
  | checkpoint p => exact h.elim
  | _ => rfl

/-- **The way out** of a handler that is done: every stage passes its outcome on. -/
theorem leaveAll_finished (h : ∀ stage ∈ entered, stage.IsPlain) (began : Nat)
    (x : Except CallError Unit) (s : Surroundings) (c : Conversation) :
    (leaveAll began entered (.finished x) s c).1 = .finished x ∧
      (leaveAll began entered (.finished x) s c).2.2 = c := by
  refine ⟨leaveAll_outcome began entered x s c, ?_⟩
  induction entered generalizing s with
  | nil => rfl
  | cons stage rest ih =>
    rw [List.forall_mem_cons] at h
    rw [leaveAll]
    simp only [leave_outcome, leave_conversation h.1]
    exact ih h.2 _

/-- The failure that recovery makes of a breakdown. -/
def breakdownError : CallError := .internal "panic" "internal error"

/-- **The way out** of a handler that breaks down: recovery records it and makes a failure of it. -/
theorem leaveAll_panicked (h : ∀ stage ∈ entered, stage.IsPlain) (hrecovery : recovery ∈ entered)
    (began : Nat) (words : Option String) (s : Surroundings) (c : Conversation) :
    (leaveAll began entered (.panicked words) s c).1 = .finished (.error breakdownError) ∧
      (leaveAll began entered (.panicked words) s c).2.2 = c ∧
      recoveredEvent c words ∈ (leaveAll began entered (.panicked words) s c).2.1.events := by
  induction entered with
  | nil => cases hrecovery
  | cons stage rest ih =>
    rw [List.forall_mem_cons] at h
    cases stage with
    | recovery =>
      obtain ⟨houtcome, hc⟩ := leaveAll_finished h.2 began (.error breakdownError)
        (s.emit (recoveredEvent c words)) c
      have hevents := (leaveAll_evolves began rest (.finished (.error breakdownError))
        (s.emit (recoveredEvent c words)) c).events
      exact ⟨houtcome, hc, hevents.subset (List.mem_append_right _ List.mem_cons_self)⟩
    | checkpoint p => exact h.1.elim
    | _ => exact ih h.2 (by simpa using hrecovery)

end Stage

end RelationGate
