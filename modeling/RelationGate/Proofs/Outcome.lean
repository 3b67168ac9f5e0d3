import Mathlib.Logic.Basic

/-!
# Outcomes of computations that may fail

When a computation in steps succeeds, and with what it fails: all of its steps succeed, or the first
one that does not decides the failure.
-/

namespace RelationGate

variable {ε ε' α β : Type} {x : Except ε α} {f : α → Except ε β} {b : β} {e : ε}

theorem ok_bind {a : α} : (.ok a >>= f : Except ε β) = f a := rfl

theorem error_bind : (.error e >>= f : Except ε β) = .error e := rfl

theorem bind_eq_ok_iff : x >>= f = .ok b ↔ ∃ a, x = .ok a ∧ f a = .ok b := by
  cases x with
  | error e => simp [bind, Except.bind]
  | ok a => simp [bind, Except.bind]

/-- **The first step that fails** decides the failure. -/
theorem bind_eq_error_iff :
    x >>= f = .error e ↔ x = .error e ∨ ∃ a, x = .ok a ∧ f a = .error e := by
  cases x with
  | error e => simp [bind, Except.bind]
  | ok a => simp [bind, Except.bind]

theorem exists_ok_of_toOption_map {g : α → β} (h : x.toOption.map g = some b) :
    ∃ a, x = .ok a ∧ g a = b := by
  cases x with
  | error e => cases h
  | ok a => exact ⟨a, rfl, Option.some.inj h⟩

theorem mapError_ok {g : ε → ε'} {a : α} : (.ok a : Except ε α).mapError g = .ok a := rfl

theorem mapError_eq_ok_iff {g : ε → ε'} {a : α} : x.mapError g = .ok a ↔ x = .ok a := by
  cases x with
  | error e => exact iff_of_false nofun nofun
  | ok a' => exact ⟨fun h => congrArg _ (Except.ok.inj h), fun h => congrArg _ (Except.ok.inj h)⟩

end RelationGate
