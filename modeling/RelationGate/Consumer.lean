import RelationGate.Machine
import RelationGate.Pipe

/-!
# Consumers

A consumer reads a pipe that the tasks of a system fill, and lets the system run while it waits.
-/

namespace RelationGate

/-- A system with a pipe whose consuming end is outside. -/
structure Consumer (σ α : Type) where
  machine : Machine σ
  pipe : σ → Pipe α
  setPipe : σ → Pipe α → σ

/-- What a consumer has read. -/
structure Reading (α : Type) where
  items : List α := []
  error : Option BackendError := none
  /-- The stream is over, or nothing more will ever come. -/
  finished : Bool := false

namespace Consumer

variable {σ α : Type}

/-- There is an item, a failure or the end. -/
def hasNext (c : Consumer σ α) (s : σ) : Bool :=
  match (c.pipe s).next with
  | .pending => false
  | _ => true

/-- Reads at most so many items, waiting for each. -/
def read (c : Consumer σ α) : Nat → σ → Reading α → σ × Reading α
  | 0, s, r => (s, r)
  | n + 1, s, r =>
    if r.finished then (s, r)
    else
      match c.machine.runUntil c.hasNext Machine.enoughRounds s with
      | none => (c.machine.runOut Machine.enoughRounds s, { r with finished := true })
      | some s =>
        match (c.pipe s).next with
        | .item a pipe => c.read n (c.setPipe s pipe) { r with items := r.items ++ [a] }
        | .failure e pipe => (c.setPipe s pipe, { r with error := some e, finished := true })
        | .ended pipe => (c.setPipe s pipe, { r with finished := true })
        | .pending => (s, r)

/-- Reads to the end. -/
def readAll (c : Consumer σ α) (s : σ) (r : Reading α) : σ × Reading α :=
  c.read Machine.enoughRounds s r

end Consumer

end RelationGate
