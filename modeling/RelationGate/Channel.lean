/-!
# Bounded channels

A channel carries items in order from one sender to one receiver and holds at most its capacity.
When the sender is gone the receiver still gets what is held; when the receiver is gone nothing
more is taken. A channel beyond `maxCapacity` cannot be made; the attempt brings the caller down.
-/

namespace RelationGate

/-- A channel: what it may hold and holds, and which of its ends are gone. -/
structure Channel (α : Type) where
  capacity : Nat
  positive : 0 < capacity
  queue : List α := []
  senderGone : Bool := false
  receiverGone : Bool := false

namespace Channel

variable {α : Type}

/-- The largest capacity that a channel can be made with: the top three bits of a word are kept for
other uses. -/
def maxCapacity : Nat := UInt64.size / 8 - 1

/-- The words of the fault that an attempt to make a larger channel is. -/
def overflowWords : String :=
  "a semaphore may not have more than MAX_PERMITS permits (" ++ toString maxCapacity ++ ")"

/-- An empty channel; a capacity of zero counts as one. -/
def ofCapacity (n : Nat) : Channel α := { capacity := max n 1, positive := by omega }

/-- What comes of an attempt to send. -/
inductive SendOutcome (α : Type) where
  | taken (channel : Channel α)
  /-- There is no room now. -/
  | full
  /-- The receiver is gone. -/
  | refused

/-- Sends an item. -/
def send (c : Channel α) (a : α) : SendOutcome α :=
  if c.receiverGone then .refused
  else if c.queue.length < c.capacity then .taken { c with queue := c.queue ++ [a] }
  else .full

/-- What comes of an attempt to receive. -/
inductive ReceiveOutcome (α : Type) where
  | got (item : α) (channel : Channel α)
  /-- There is nothing now. -/
  | pending
  /-- There will be nothing more. -/
  | ended

/-- Receives the oldest item. -/
def receive (c : Channel α) : ReceiveOutcome α :=
  match c.queue with
  | a :: rest => .got a { c with queue := rest }
  | [] => if c.senderGone then .ended else .pending

/-- The sender leaves. -/
def closeSender (c : Channel α) : Channel α := { c with senderGone := true }

/-- The receiver leaves; what was held is lost. -/
def closeReceiver (c : Channel α) : Channel α := { c with receiverGone := true, queue := [] }

end Channel

end RelationGate
