import Birl.Number
import Birl.Number.Shortest
import Birl.Text

/-!
# Texts of numbers

A number is written with the fewest digits that read back. `text` writes it without exponent,
`briefText` with an exponent where that is customary.
-/

namespace Birl.Number

def shortest (x : Number) : Nat × Int :=
  if x.significand = 0 then (0, 0)
  else Shortest.decimal x.significand x.scale (x.fractionBits == 0 && x.exponentBits > 1)

/-- The significant digits of a decimal and the place of its point, counted from their left: zeros
at the right end carry no information. -/
def digitsAndPoint (digits : Nat) (power : Int) : List Char × Int :=
  if digits = 0 then ([], 0)
  else
    let cs := Nat.toDigits 10 digits
    ((cs.reverse.dropWhile (· == '0')).reverse, cs.length + power)

def positional (digits : List Char) (point : Int) : List Char :=
  let whole := digits.take point.toNat
  let whole := if whole.isEmpty then ['0'] else whole ++ List.replicate (point.toNat - whole.length) '0'
  let fraction := List.replicate (-point).toNat '0' ++ digits.drop point.toNat
  if digits.length ≤ point.toNat then whole else whole ++ '.' :: fraction

def scientific (digits : List Char) (point : Int) : List Char :=
  let exponent := point - 1
  let mantissa := match digits with
    | [] => ['0']
    | [d] => [d]
    | d :: rest => d :: '.' :: rest
  let size := Nat.toDigits 10 exponent.natAbs
  mantissa ++ 'e' :: (if exponent < 0 then '-' else '+') ::
    (List.replicate (2 - size.length) '0' ++ size)

def textWith (write : List Char → Int → List Char) (x : Number) : Text :=
  if x.isNaN then "NaN"
  else if x.isInfinite then if x.isNegative then "-Inf" else "+Inf"
  else
    let (digits, power) := x.shortest
    let (cs, point) := digitsAndPoint digits power
    Text.ofChars ((if x.isNegative then ['-'] else []) ++ write cs point)

def text (x : Number) : Text := x.textWith positional

/-- Exponents from which on, and below which, `briefText` writes an exponent. -/
def briefRange : Int × Int := (-4, 6)

def briefText (x : Number) : Text := x.textWith fun digits point =>
  if !digits.isEmpty && (point - 1 < briefRange.1 || briefRange.2 ≤ point - 1) then
    scientific digits point
  else positional digits point

end Birl.Number
