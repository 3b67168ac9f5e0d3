import RelationGate.Proofs.Call.Scene
import RelationGate.Proofs.Store.History

/-!
# What a call does itself

An audit watches one call among everything else and keeps apart what the call does from what others
do: for each step of the call it notes the backend before and after (`Audit.Step`). A call touches
the backend by acts of the backend only (`Call.taskMove_acts`), so what others may do to it is
bounded in the same way (`Surroundings.Continues`).

A handler is given up only where it has to wait. Every move of the gateway is a step of the audit of
each of its calls (`World.move_audit`).
-/

namespace RelationGate

/-! ## What a call does to the backend -/

namespace Call

variable {c c' : Call} {s s' : Surroundings}

theorem begin_backend (c : Call) (s : Surroundings) : (c.begin s).2.backend = s.backend := by
  obtain ⟨henter, -⟩ := Stage.enterAll_shared c.stages [] s c.conversation
  rw [begin]
  split
  next admission entered s₁ conversation heq =>
  rw [heq] at henter
  cases admission with
  | ok u => exact henter
  | error e => exact (finish_backend _ _ s₁).trans henter

/-- A handler that performs no operation leaves the backend alone. -/
theorem handle_backend {p : Program} {due : Option Nat} (hp : p.performs = false)
    (hm : c.handle s p due = some (c', s')) : s'.backend = s.backend := by
  obtain ⟨acts, hgoes, hnone⟩ := handle_goes hm
  have hbackend := hgoes.backend
  rwa [hnone hp] at hbackend

theorem relay_backend {inHand : Option Json} (hm : c.relay s inHand = some (c', s')) :
    s'.backend = s.backend :=
  (relay_goes hm).backend

/-- **A move of the task** does to the backend what some acts do. -/
theorem taskMove_acts (hm : c.taskMove s = some (c', s')) :
    ∃ acts, s'.backend = s.backend.after acts := by
  rw [taskMove] at hm
  split at hm
  · have h := c.begin_backend s
    rw [Option.some.inj hm] at h
    exact ⟨[], h⟩
  · obtain ⟨acts, hgoes, -⟩ := handle_goes hm
    exact ⟨acts, hgoes.backend⟩
  · exact ⟨[], relay_backend hm⟩
  · obtain ⟨c'', -, heq⟩ := Option.map_eq_some_iff.1 hm
    cases heq
    exact ⟨[], rfl⟩
  · cases hm

/-- A handler that is given up leaves the backend alone. -/
theorem expire_backend (hm : c.expire s = some (c', s')) : s'.backend = s.backend := by
  obtain ⟨ms, -, -, -, -, heq⟩ := expire_cases hm
  cases heq
  exact finish_backend _ _ s

theorem produce_acts {l l' : Lookup} {b : Backend} {canceled : Bool}
    (hm : l.produce s.now canceled s.backend = some (l', b)) :
    ∃ acts, b = s.backend.after acts := by
  obtain ⟨rfl | ⟨issued, rfl⟩, -⟩ := Lookup.produce_cases hm
  · exact ⟨[], rfl⟩
  · exact ⟨[.note issued], rfl⟩

theorem lookupMove_acts (hm : c.lookupMove s = some (c', s')) :
    ∃ acts, s'.backend = s.backend.after acts := by
  rw [lookupMove] at hm
  split at hm
  · cases hm
  next l hl =>
    obtain ⟨⟨l', b⟩, hmove, heq⟩ := Option.map_eq_some_iff.1 hm
    cases heq
    rw [Lookup.move] at hmove
    split at hmove
    · cases hmove
      exact ⟨[], rfl⟩
    · exact produce_acts hmove

theorem move_acts (hm : c.move s = some (c', s')) : ∃ acts, s'.backend = s.backend.after acts := by
  rw [move] at hm
  split at hm
  next r hr =>
    cases hm
    exact lookupMove_acts hr
  next => exact taskMove_acts hm

/-- The call has come to its stages. -/
def hasBegun (c : Call) : Bool :=
  match c.progress with
  | .waiting => false
  | _ => true

theorem hasBegun_of_isHandling (h : c.isHandling = true) : c.hasBegun = true := by
  rw [hasBegun]
  cases hp : c.progress with
  | waiting =>
    rw [isHandling, hp] at h
    cases h
  | _ => rfl

end Call

/-! ## What others may do -/

/-- What may become of the shared state while a call stands still: it evolves, and lock tokens are
only taken from their supply. -/
structure Surroundings.Continues (s s' : Surroundings) : Prop where
  evolves : s.Evolves s'
  mint : s'.backend.mint = s.backend.mint
  minted : s.backend.minted ≤ s'.backend.minted

namespace Surroundings.Continues

variable {s s' : Surroundings}

theorem of_acts (hevolves : s.Evolves s') (hacts : ∃ acts, s'.backend = s.backend.after acts) :
    s.Continues s' := by
  obtain ⟨acts, hacts⟩ := hacts
  obtain ⟨hmint, hminted⟩ := s.backend.after_supply acts
  exact ⟨hevolves, by rw [hacts, hmint], by rw [hacts]; exact hminted⟩

end Surroundings.Continues

/-! ## Audits -/

/-- The change from a store to another one, if it is a change. -/
def Store.changeTo (s s' : Store) : Option (Store × Store) := if s = s' then none else some (s, s')

/-- A call among everything else, and what it has done itself. -/
structure Audit where
  scene : Scene
  /-- The backend before and after each step of the call. -/
  acts : List (Backend × Backend) := []
  /-- The clock when the call came to its stages. -/
  begunAt : Option UInt64 := none

namespace Audit

/-- A call of a gateway that has just been made. -/
def start (g : Gateway) (route : Route) (params : Json) (headers : Headers) (capacity : Nat)
    (shared : Surroundings) : Audit :=
  { scene := .start g route params headers capacity shared }

/-- What the call has changed in the store, in its order. -/
def changes (a : Audit) : List (Store × Store) :=
  a.acts.filterMap fun act => act.1.store.changeTo act.2.store

/-- The audit after a step of the call. -/
def noting (a : Audit) (sc : Scene) : Audit where
  scene := sc
  acts := a.acts ++ [(a.scene.shared.backend, sc.shared.backend)]
  begunAt :=
    if !a.scene.call.hasBegun && sc.call.hasBegun then some a.scene.shared.unixTime else a.begunAt

/-- One step of somebody. -/
inductive Step : Audit → Audit → Prop where
  | own {a : Audit} {sc : Scene} (hs : Scene.OwnStep a.scene sc) : Step a (a.noting sc)
  | others {a : Audit} {s : Surroundings} (hs : a.scene.shared.Continues s) :
      Step a { a with scene := { a.scene with shared := s } }

/-- What the steps can lead to. -/
inductive Reachable (start : Audit) : Audit → Prop where
  | refl : Reachable start start
  | tail {a a' : Audit} (h : Reachable start a) (hs : Step a a') : Reachable start a'

end Audit

/-! ## An audited call is one among the others -/

namespace Scene

variable {sc sc' : Scene}

/-- A step of a call lets the shared state go on. -/
theorem OwnStep.continues (hs : OwnStep sc sc') : sc.shared.Continues sc'.shared := by
  cases hs with
  | task hm => exact .of_acts (Call.taskMove_evolves hm) (Call.taskMove_acts hm)
  | expire hm => exact .of_acts (Call.expire_evolves hm) ⟨[], Call.expire_backend hm⟩
  | produce hl hm => exact .of_acts (Call.produce_evolves hm) (Call.produce_acts hm)
  | _ => exact .of_acts (.refl _) ⟨[], rfl⟩

end Scene

namespace Audit

variable {a a' start : Audit}

theorem changes_noting (a : Audit) (sc : Scene) : (a.noting sc).changes =
    a.changes ++ (a.scene.shared.backend.store.changeTo sc.shared.backend.store).toList := by
  rw [changes, noting, List.filterMap_append, changes]
  congr 1

/-- What the call has done stays on record. -/
theorem Step.acts_subset (hs : Step a a') : a.acts ⊆ a'.acts := by
  cases hs with
  | own hs => exact List.subset_append_left _ _
  | others hs => exact List.Subset.refl _

theorem Step.scene (hs : Step a a') : Scene.Step a.scene a'.scene := by
  cases hs with
  | own hs => exact hs.step
  | others hs => exact .others hs.evolves

/-- What an audit reaches, its scene reaches. -/
theorem Reachable.scene (h : Reachable start a) : Scene.Reachable start.scene a.scene := by
  induction h with
  | refl => exact .refl
  | tail h hs ih => exact ih.tail hs.scene

theorem Step.continues (hs : Step a a') : a.scene.shared.Continues a'.scene.shared := by
  cases hs with
  | own hs => exact hs.continues
  | others hs => exact hs

end Audit

/-- **Every move of the gateway is a step of the audit of each of its calls.** -/
theorem World.move_audit {w w' : World} (hm : w.move = some w') {i : Nat} {a : Audit}
    (hi : w.calls[i]? = some a.scene.call) (hs : w.surroundings = a.scene.shared) :
    ∃ a', Audit.Step a a' ∧ w'.calls[i]? = some a'.scene.call ∧
      w'.surroundings = a'.scene.shared := by
  obtain ⟨sc', hstep, hcall, hshared⟩ | ⟨hcall, c, c', hmoved⟩ := move_own_or_other hm hi hs
  · exact ⟨_, .own hstep, hcall, hshared⟩
  · have hcontinues : a.scene.shared.Continues w'.surroundings := by
      rcases hmoved with hexpire | hmove
      · exact .of_acts (Call.expire_evolves hexpire) ⟨[], Call.expire_backend hexpire⟩
      · exact .of_acts (Call.move_evolves hmove) (Call.move_acts hmove)
    exact ⟨_, .others hcontinues, hcall, rfl⟩

end RelationGate
