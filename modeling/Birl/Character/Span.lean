/-!
# Sets of characters as ascending spans

A property of characters is a list of spans of code points in ascending order. Looking a
character up stops at the first span that lies above it.
-/

namespace Birl.Character

/-- The code points from `first` to `last`, both included. -/
structure Span where
  first : Nat
  last : Nat
  deriving DecidableEq, Repr

def covers : List Span → Nat → Bool
  | [], _ => false
  | s :: rest, n => if n < s.first then false else if n ≤ s.last then true else covers rest n

/-- A span with the number that its code points carry. -/
structure Weighted where
  first : Nat
  last : Nat
  weight : Nat
  deriving DecidableEq, Repr

/-- The number that ascending spans give a code point, and 0 outside them. -/
def weightOf : List Weighted → Nat → Nat
  | [], _ => 0
  | s :: rest, n => if n < s.first then 0 else if n ≤ s.last then s.weight else weightOf rest n

/-- Code points from `first` to `last` in steps of `step`, each `shift` away from its image. -/
structure Shifted where
  first : Nat
  last : Nat
  step : Nat
  shift : Int
  deriving DecidableEq, Repr

/-- The image of a code point under ascending shifted spans, itself outside them. -/
def shiftOf : List Shifted → Nat → Nat
  | [], n => n
  | s :: rest, n =>
    if n < s.first then n
    else if n ≤ s.last ∧ (n - s.first) % s.step = 0 then ((n : Int) + s.shift).toNat
    else shiftOf rest n

end Birl.Character
