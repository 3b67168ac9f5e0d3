import RelationGate.Call.Machine

/-!
# The world of the gateway

The calls of a gateway and what they share. The tasks of all calls are interleaved; here they take
turns in the order in which the calls were started. A handler whose time is up is given up as soon
as it has to wait, before any other task goes on. A client takes its turn when every task waits.
-/

namespace RelationGate

/-- The calls of a gateway in the order in which they were started, and what they share. -/
structure World where
  surroundings : Surroundings
  calls : List Call := []

namespace World

/-- The first call that can make a move makes it. -/
def moveFirst (step : Call → Surroundings → Option (Call × Surroundings)) (s : Surroundings) :
    List Call → Option (List Call × Surroundings)
  | [] => none
  | c :: rest =>
    match step c s with
    | some (c, s) => some (c :: rest, s)
    | none => (moveFirst step s rest).map fun (rest, s) => (c :: rest, s)

/-- One move of one task. -/
def move (w : World) : Option World :=
  ((moveFirst Call.expire w.surroundings w.calls) <|>
      (moveFirst Call.move w.surroundings w.calls)).map
    fun (calls, surroundings) => { surroundings, calls }

/-- The next moment at which a task is due. -/
def due (w : World) : Option Nat :=
  w.calls.foldl (fun t c => earlier t (c.due w.surroundings.now)) none

/-- The tasks of a world. -/
def machine : Machine World where
  move := move
  due := due
  now w := w.surroundings.now
  setNow w t := { w with surroundings := { w.surroundings with now := t } }

/-- Starts a call; gives its place among the calls. -/
def start (w : World) (c : Call) : World × Nat := ({ w with calls := w.calls ++ [c] }, w.calls.length)

/-- A call is over. -/
def isOver (w : World) (i : Nat) : Bool := (w.calls[i]?).all (·.isOver)

/-- The frames of a call. -/
def frames? (w : World) (i : Nat) : Option (Channel Frame) :=
  match w.calls[i]? with
  | some c =>
    match c.conversation.outbound with
    | .channel frames => some frames
    | .buffer _ => none
  | none => none

/-- Puts the frames of a call in place. -/
def setFrames (w : World) (i : Nat) (frames : Channel Frame) : World :=
  { w with calls := w.calls.modify i fun c =>
      { c with conversation := { c.conversation with outbound := .channel frames } } }

/-- The client of a call can go on: there is a frame, or the end. -/
def hasFrame (w : World) (i : Nat) : Bool :=
  match w.frames? i with
  | none => true
  | some frames =>
    match frames.receive with
    | .pending => false
    | _ => true

/-- The client of a call leaves. -/
def dropClient (w : World) (i : Nat) : World :=
  match w.frames? i with
  | none => w
  | some frames => w.setFrames i frames.closeReceiver

/-- It is the turn of the client of a call, and it can go on. -/
def servesClient (w : World) (i : Nat) : Bool := w.hasFrame i && w.move.isNone

/-- Reads at most so many frames of a call, waiting for each. -/
def readFrames (i : Nat) : Nat → World → List Frame → World × List Frame
  | 0, w, read => (w, read)
  | n + 1, w, read =>
    match machine.runUntil (·.servesClient i) Machine.enoughRounds w with
    | none => (w, read)
    | some w =>
      match w.frames? i with
      | none => (w, read)
      | some frames =>
        match frames.receive with
        | .got frame frames => readFrames i n (w.setFrames i frames) (read ++ [frame])
        | _ => (w, read)

/-- Runs a call until it is over. -/
def complete (w : World) (i : Nat) : Option World :=
  machine.runUntil (·.isOver i) Machine.enoughRounds w

/-- Lets every task come to rest. -/
def settle (w : World) : World := machine.settle w

end World

end RelationGate
