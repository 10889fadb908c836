/-!
# Shortest decimals

The decimal with the fewest digits that reads back as a given binary number, and of those the one
nearest to it.
-/

namespace Birl.Shortest

/-- The reals that round to a number, and the number itself, on a common scale: in units of the
grid under test the number is `value / unit`. The ends belong to the interval when `closed`. -/
structure Interval where
  low : Nat
  value : Nat
  high : Nat
  unit : Nat
  closed : Bool

def Interval.holds (i : Interval) (n : Nat) : Bool :=
  let x := n * i.unit
  (i.low < x && x < i.high) || (i.closed && (x == i.low || x == i.high))

/-- The multiple of the grid unit in the interval that is nearest to the number; of two equally near
ones the even one. Only the two multiples next to the number can be it. -/
def Interval.nearest? (i : Interval) : Option Nat :=
  let below := i.value / i.unit
  let rest := i.value % i.unit
  let above := below + 1
  match i.holds below, rest != 0 && i.holds above with
  | true, true =>
    if 2 * rest < i.unit || (2 * rest == i.unit && below % 2 == 0) then some below else some above
  | true, false => some below
  | false, true => some above
  | false, false => none

/-- The interval of `significand * 2 ^ scale` on the grid of multiples of `10 ^ power`. With `tight`
the next smaller number is only half as far away as the next larger one. -/
def interval (significand : Nat) (scale : Int) (tight : Bool) (power : Int) : Interval :=
  let up := Nat.pow 2 (scale - 2).toNat * Nat.pow 10 (-power).toNat
  { low := (4 * significand - if tight then 1 else 2) * up
    value := 4 * significand * up
    high := (4 * significand + 2) * up
    unit := Nat.pow 2 (2 - scale).toNat * Nat.pow 10 power.toNat
    closed := significand % 2 == 0 }

/-- Tries finer and finer grids. -/
def search (significand : Nat) (scale : Int) (tight : Bool) : (tries : Nat) → Int → Nat × Int
  | 0, power => (0, power)
  | tries + 1, power =>
    match (interval significand scale tight power).nearest? with
    | some digits => (digits, power)
    | none => search significand scale tight tries (power - 1)

/-- Digits and power of ten of the shortest decimal of `significand * 2 ^ scale`, which is positive.
The first grid is coarser than the number; seventeen digits always suffice. -/
def decimal (significand : Nat) (scale : Int) (tight : Bool) : Nat × Int :=
  let bits : Int := (Nat.log2 significand : Int) + 1 + scale
  search significand scale tight 24 (bits * 30103 / 100000 + 2)

end Birl.Shortest
