import RelationGate.Backend
import RelationGate.Limit
import RelationGate.Consumer

/-!
# Lookups

A lookup relays the items of a backend stream to its consumer. Its limit is fixed when it starts.
Its producer opens the stream and passes items on until the stream ends or the limit is reached
(`completed`), the backend fails, which is reported once (`failed`), or the caller cancels or the
consumer leaves (`canceled`). Cancellation is looked at before everything else that the producer
could wait for. When the producer stops, the results are closed and the backend stream is dropped.
-/

namespace RelationGate

/-- The stages in the life of a lookup. -/
inductive LookupState where
  | created
  | producing
  | completed
  | failed
  | canceled
  deriving DecidableEq, Repr

namespace LookupState

/-- Every stage. -/
def all : List LookupState := [created, producing, completed, failed, canceled]

/-- The lookup is over. -/
def isTerminal : LookupState → Bool
  | created | producing => false
  | completed | failed | canceled => true

/-- The name of a stage. -/
def text : LookupState → String
  | created => "Created"
  | producing => "Producing"
  | completed => "Completed"
  | failed => "Failed"
  | canceled => "Canceled"

end LookupState

/-- What the producer of a lookup is at. -/
inductive Producing where
  /-- It has not begun. -/
  | created
  /-- The opening of the stream is held up until a moment. -/
  | opening (due : Nat)
  /-- It waits for the next item. -/
  | pulling (feed : Feed)
  /-- It has an item that the consumer has no room for yet. -/
  | offering (feed : Feed) (item : Item)
  /-- It has stopped. -/
  | settled (state : LookupState)
  /-- A fault of the backend has brought it down. -/
  | panicked

/-- A running lookup. -/
structure Lookup where
  query : StreamQuery
  limit : Limit
  producing : Producing := .created
  /-- How many items the results have taken. -/
  delivered : Nat := 0
  results : Pipe Item

namespace Lookup

/-- A lookup whose producer has not begun. -/
def fresh (query : StreamQuery) (limit : Limit) (buffer : Nat) : Lookup :=
  { query, limit, results := .ofCapacity buffer }

/-- Starts a lookup; a query that breaks a rule is refused at once. -/
def start (settings : LookupSettings) (query : StreamQuery) : Reaction Lookup :=
  match query.validate with
  | .error e => .answered (.error (e.within query.activity))
  | .ok () =>
    if Channel.maxCapacity < settings.buffer then .panicked Channel.overflowWords
    else .answered (.ok (fresh query (settings.limits.resolve query) settings.buffer))

/-- The stage that the lookup is in; a lookup that was brought down has none. -/
def state? (l : Lookup) : Option LookupState :=
  match l.producing with
  | .created => some .created
  | .opening _ | .pulling _ | .offering _ _ => some .producing
  | .settled s => some s
  | .panicked => none

/-- The producer stops without a failure. -/
def settle (l : Lookup) (s : LookupState) : Lookup :=
  { l with producing := .settled s, results := l.results.close }

/-- The producer reports a failure of the backend and stops. -/
def fail (l : Lookup) (e : BackendError) : Lookup :=
  { l with producing := .settled .failed, results := l.results.fail (e.within l.query.activity) }

/-- The producer is brought down; its end of the results is closed. -/
def collapse (l : Lookup) : Lookup := { l with producing := .panicked, results := l.results.close }

/-- What comes of opening the stream. -/
def opening (l : Lookup) (now : Nat) (b : Backend) : Reaction Feed :=
  b.reactStream l.query l.limit.word l.query.place now

/-- The stream has been opened, or could not be. -/
def opened (l : Lookup) : Reaction Feed → Lookup
  | .panicked _ => l.collapse
  | .answered (.error e) => l.fail e
  | .answered (.ok feed) => { l with producing := .pulling feed }

/-- The next move of the producer over its stream. As long as there is no stream, `came` is what has
come of opening it, if anything has. -/
def advance (l : Lookup) (canceled : Bool) (came : Option (Reaction Feed)) : Option Lookup :=
  match l.producing with
  | .settled _ | .panicked => none
  | .created | .opening _ => if canceled then some (l.settle .canceled) else came.map l.opened
  | .pulling feed =>
    if !l.limit.allows l.delivered then some (l.settle .completed)
    else if canceled then some (l.settle .canceled)
    else
      match feed.pipe.next with
      | .item a pipe => some { l with producing := .offering { feed with pipe } a }
      | .failure e _ => some (l.fail e)
      | .ended _ => some (l.settle .completed)
      | .pending => none
  | .offering feed item =>
    if canceled then some (l.settle .canceled)
    else
      match l.results.push item with
      | .taken results =>
        some { l with results, producing := .pulling feed, delivered := l.delivered + 1 }
      | .full => none
      | .refused => some (l.settle .canceled)

/-- The next move of the producer over a backend, which may hold the opening up. -/
def produce (l : Lookup) (now : Nat) (canceled : Bool) (b : Backend) : Option (Lookup × Backend) :=
  match l.producing with
  | .created =>
    if canceled then some (l.settle .canceled, b)
    else
      let b := b.note (.stream l.query l.limit.word l.query.place)
      let delay := b.delayOf l.query.operation
      if delay = 0 then some (l.opened (l.opening now b), b)
      else some ({ l with producing := .opening (now + delay) }, b)
  | .opening due =>
    (l.advance canceled (if due ≤ now then some (l.opening now b) else none)).map (·, b)
  | _ => (l.advance canceled none).map (·, b)

/-- Lets the open backend stream act, if there is one. -/
def onStream (l : Lookup) (act : Feed → Option Feed) : Option Lookup :=
  match l.producing with
  | .pulling feed => (act feed).map fun f => { l with producing := .pulling f }
  | .offering feed item => (act feed).map fun f => { l with producing := .offering f item }
  | _ => none

/-- The next move of the backend stream that the producer has open. -/
def feedMove (l : Lookup) (now : Nat) (canceled : Bool) : Option Lookup :=
  l.onStream (·.move now canceled)

/-- A fault of the backend brings its open stream down. -/
def breakStream (l : Lookup) : Option Lookup := l.onStream Feed.breakDown

/-- The next move of the lookup: of its stream if it has one, else of its producer. -/
def move (l : Lookup) (now : Nat) (canceled : Bool) (b : Backend) : Option (Lookup × Backend) :=
  match l.feedMove now canceled with
  | some l => some (l, b)
  | none => l.produce now canceled b

/-- The next moment at which the lookup is due. -/
def due (l : Lookup) (now : Nat) : Option Nat :=
  match l.producing with
  | .opening due => some due
  | .pulling feed | .offering feed _ => feed.due now
  | _ => none

/-- The consumer leaves. -/
def abandon (l : Lookup) : Lookup := { l with results := l.results.abandon }

end Lookup

/-! ## A lookup on its own -/

/-- A lookup beside its backend and a clock. -/
structure LookupSession where
  now : Nat := 0
  backend : Backend
  /-- The caller has canceled. -/
  canceled : Bool := false
  lookup : Lookup

namespace LookupSession

/-- The tasks of a session. -/
def machine : Machine LookupSession where
  move s := (s.lookup.move s.now s.canceled s.backend).map fun (lookup, backend) =>
    { s with lookup, backend }
  due s := s.lookup.due s.now
  now s := s.now
  setNow s t := { s with now := t }

/-- The consumer of a session. -/
def consumer : Consumer LookupSession Item where
  machine := machine
  pipe s := s.lookup.results
  setPipe s results := { s with lookup := { s.lookup with results } }

/-- The caller cancels. -/
def cancel (s : LookupSession) : LookupSession := { s with canceled := true }

/-- The consumer leaves. -/
def leave (s : LookupSession) : LookupSession := { s with lookup := s.lookup.abandon }

end LookupSession

end RelationGate
