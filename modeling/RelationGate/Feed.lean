import RelationGate.Consumer
import RelationGate.Query

/-!
# Feeds

A feed is the producing side of a stream that the backend has opened: it sends its items through
a pipe, at its own pace, until it has no more, the consumer has left or it is canceled. At the end
of its items it closes the pipe, fails, or stays open.
-/

namespace RelationGate

/-- What a feed does after its last item. -/
inductive FeedEnding where
  | close
  | fail (e : BackendError)
  /-- It stays open until it is canceled. -/
  | hang
  deriving DecidableEq

/-- A feed and the pipe that it fills. -/
structure Feed where
  /-- The items by position; the first missing one ends them. -/
  items : Nat → Option Item
  /-- How many items the pipe has taken. -/
  sent : Nat := 0
  /-- How long each item takes. -/
  pace : Nat := 0
  /-- When the next item is there. -/
  ready : Nat := 0
  ending : FeedEnding := .close
  pipe : Pipe Item
  running : Bool := true

namespace Feed

/-- A feed of given items, without delay. -/
def ofItems (capacity : Nat) (items : List Item) : Feed :=
  { items := fun n => items[n]?, pipe := .ofCapacity capacity }

/-- A feed that fails before its first item. -/
def failed (e : BackendError) : Feed :=
  { items := fun _ => none, ending := .fail e, pipe := .failed e, running := false }

/-- The feed stops and closes its pipe. -/
def stop (f : Feed) : Feed := { f with running := false, pipe := f.pipe.close }

/-- The next move of a feed. -/
def move (f : Feed) (now : Nat) (canceled : Bool) : Option Feed :=
  if !f.running then none
  else if canceled then some f.stop
  else
    match f.items f.sent with
    | some item =>
      if now < f.ready then none
      else
        match f.pipe.push item with
        | .taken pipe => some { f with pipe, sent := f.sent + 1, ready := now + f.pace }
        | .full => none
        | .refused => some f.stop
    | none =>
      match f.ending with
      | .close => some f.stop
      | .fail e => some { f with running := false, pipe := f.pipe.fail e }
      | .hang => none

/-- A fault brings a running feed down; its consumer sees the pipe closed. -/
def breakDown (f : Feed) : Option Feed := if f.running then some f.stop else none

/-- The moment at which the next item is there, if the feed waits for it. -/
def due (f : Feed) (now : Nat) : Option Nat :=
  if f.running && (f.items f.sent).isSome && now < f.ready then some f.ready else none

/-- The consumer leaves. -/
def abandon (f : Feed) : Feed := { f with pipe := f.pipe.abandon }

end Feed

/-! ## A feed on its own -/

/-- A feed beside a clock. -/
structure FeedSession where
  now : Nat := 0
  canceled : Bool := false
  feed : Feed

namespace FeedSession

/-- The task of a session. -/
def machine : Machine FeedSession where
  move s := (s.feed.move s.now s.canceled).map fun feed => { s with feed }
  due s := s.feed.due s.now
  now s := s.now
  setNow s t := { s with now := t }

/-- The consumer of a session. -/
def consumer : Consumer FeedSession Item where
  machine := machine
  pipe s := s.feed.pipe
  setPipe s pipe := { s with feed := { s.feed with pipe } }

/-- The caller cancels. -/
def cancel (s : FeedSession) : FeedSession := { s with canceled := true }

end FeedSession

end RelationGate
