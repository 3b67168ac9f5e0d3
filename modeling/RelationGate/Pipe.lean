import RelationGate.Channel
import RelationGate.Error

/-!
# Result pipes

A pipe is a channel of items with at most one failure at its end. The consumer sees the items and
then the failure, if the producer reported one before it left, and then the end.
-/

namespace RelationGate

/-- A pipe from a producer to a consumer. -/
structure Pipe (α : Type) where
  channel : Channel α
  failure : Option BackendError := none
  /-- The consumer has seen the end. -/
  finished : Bool := false

namespace Pipe

variable {α : Type}

/-- An empty pipe. -/
def ofCapacity (n : Nat) : Pipe α := { channel := .ofCapacity n }

/-- What comes of an attempt to deliver an item. -/
inductive PushOutcome (α : Type) where
  | taken (pipe : Pipe α)
  | full
  | refused

/-- Delivers an item. -/
def push (p : Pipe α) (a : α) : PushOutcome α :=
  match p.channel.send a with
  | .taken channel => .taken { p with channel }
  | .full => .full
  | .refused => .refused

/-- The producer leaves. -/
def close (p : Pipe α) : Pipe α := { p with channel := p.channel.closeSender }

/-- The producer reports a failure and leaves. -/
def fail (p : Pipe α) (e : BackendError) : Pipe α := { p.close with failure := some e }

/-- The consumer leaves. -/
def abandon (p : Pipe α) : Pipe α := { p with channel := p.channel.closeReceiver }

/-- A pipe that fails at once. -/
def failed (e : BackendError) : Pipe α := (ofCapacity 1).fail e

/-- What the consumer sees next. -/
inductive NextOutcome (α : Type) where
  | item (a : α) (pipe : Pipe α)
  | failure (e : BackendError) (pipe : Pipe α)
  | ended (pipe : Pipe α)
  | pending

/-- Takes what comes next. -/
def next (p : Pipe α) : NextOutcome α :=
  if p.finished then .ended p
  else
    match p.channel.receive with
    | .got a channel => .item a { p with channel }
    | .pending => .pending
    | .ended =>
      match p.failure with
      | some e => .failure e { p with finished := true }
      | none => .ended { p with finished := true }

/-- What comes of draining a pipe without waiting. -/
inductive Drained (α : Type) where
  | items (as : List α)
  | failure (e : BackendError)
  | pending

/-- Takes everything that is there, up to the end. -/
def drain (p : Pipe α) : Drained α :=
  if p.finished then .items []
  else if p.channel.senderGone then
    match p.failure with
    | some e => .failure e
    | none => .items p.channel.queue
  else .pending

end Pipe

end RelationGate
