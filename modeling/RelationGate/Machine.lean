/-!
# Running a system of tasks

A system is a state with moves of its own and a clock. Its moves are made as long as there are
any; only when every task waits does the clock go on, to the next moment at which one of them is
due. Time is counted in milliseconds.
-/

namespace RelationGate

/-- A system of tasks over a state. -/
structure Machine (σ : Type) where
  /-- The next move, or `none` if every task waits. -/
  move : σ → Option σ
  /-- The next moment at which a waiting task is due. -/
  due : σ → Option Nat
  now : σ → Nat
  setNow : σ → Nat → σ

namespace Machine

variable {σ : Type}

/-- Runs until a condition holds; gives `none` if it never will, because every task waits for
good or the rounds are used up. -/
def runUntil (m : Machine σ) (holds : σ → Bool) : Nat → σ → Option σ
  | 0, _ => none
  | rounds + 1, s =>
    if holds s then some s
    else
      match m.move s with
      | some s => m.runUntil holds rounds s
      | none =>
        match m.due s with
        | some t => m.runUntil holds rounds (m.setNow s t)
        | none => none

/-- Runs until every task waits past a moment; the clock then stands at it. -/
def runThrough (m : Machine σ) (moment : Nat) : Nat → σ → σ
  | 0, s => s
  | rounds + 1, s =>
    match m.move s with
    | some s => m.runThrough moment rounds s
    | none =>
      match m.due s with
      | some t =>
        if t ≤ moment then m.runThrough moment rounds (m.setNow s t) else m.setNow s moment
      | none => m.setNow s moment

/-- Runs until no task will ever move again. -/
def runOut (m : Machine σ) : Nat → σ → σ
  | 0, s => s
  | rounds + 1, s =>
    match m.move s with
    | some s => m.runOut rounds s
    | none =>
      match m.due s with
      | some t => m.runOut rounds (m.setNow s t)
      | none => s

/-- How many rounds a run may take. -/
def enoughRounds : Nat := 10000000

/-- How long tasks are given to come to rest. -/
def settlingTime : Nat := 1

/-- Lets every task come to rest. -/
def settle (m : Machine σ) (s : σ) : σ := m.runThrough (m.now s + settlingTime) enoughRounds s

end Machine

/-- The earlier of two moments. -/
def earlier : Option Nat → Option Nat → Option Nat
  | none, t => t
  | t, none => t
  | some a, some b => some (min a b)

end RelationGate
