/-!
# Similarity of words

The Jaro measure of two words counts the characters that they share within a window, and how many
of those stand in another order. It lies between zero and one and is given as a fraction.
-/

namespace RelationGate.Text.Similarity

/-- A fraction; the denominator is positive. -/
structure Fraction where
  num : Nat
  den : Nat
  positive : 0 < den := by decide

namespace Fraction

/-- One fraction is less than another one. -/
def less (x y : Fraction) : Bool := x.num * y.den < y.num * x.den

end Fraction

/-- Takes the first free character of a word that equals a given one and stands in a window. Taken
characters are marked. -/
def claim (c : Char) (low high : Nat) : Nat → List (Char × Bool) → Option (List (Char × Bool))
  | _, [] => none
  | place, (d, taken) :: rest =>
    if high ≤ place then none
    else if low ≤ place ∧ c = d ∧ !taken then some ((d, true) :: rest)
    else (claim c low high (place + 1) rest).map ((d, taken) :: ·)

/-- The characters of one word that the other one shares, in the order of the first, and the second
word with its shared characters marked. -/
def shared (window : Nat) :
    Nat → List Char → List (Char × Bool) → List Char × List (Char × Bool)
  | _, [], b => ([], b)
  | place, c :: rest, b =>
    match claim c (place - window) (place + window + 1) 0 b with
    | some b =>
      let (cs, b) := shared window (place + 1) rest b
      (c :: cs, b)
    | none => shared window (place + 1) rest b

/-- The Jaro measure of two words. -/
def jaro (a b : List Char) : Fraction :=
  let window := max a.length b.length / 2 - 1
  let (inA, marked) := shared window 0 a (b.map fun c => (c, false))
  let inB := (marked.filter (·.2)).map (·.1)
  let m := inA.length
  let t := ((inA.zip inB).filter fun (x, y) => x ≠ y).length / 2
  if h : 0 < 3 * a.length * b.length * m then
    ⟨m * b.length * m + m * a.length * m + (m - t) * a.length * b.length,
      3 * a.length * b.length * m, h⟩
  else if a.isEmpty && b.isEmpty then ⟨1, 1, by decide⟩
  else ⟨0, 1, by decide⟩

/-- The most similar of some words to a given one, if it is more similar than a bound; of two
equally similar ones the later. -/
def closest (bound : Fraction) (word : String) (words : List String) : Option String :=
  let step (best : Option (Fraction × String)) (w : String) : Option (Fraction × String) :=
    let x := jaro word.toList w.toList
    if !bound.less x then best
    else
      match best with
      | some (y, v) => if x.less y then some (y, v) else some (x, w)
      | none => some (x, w)
  (words.foldl step none).map (·.2)

end RelationGate.Text.Similarity
