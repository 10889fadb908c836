import Birl.Number
import Birl.Text

/-!
# Reading numbers

Decimal integers, and floating-point numbers in decimal or hexadecimal notation. A number that is
not exactly representable reads as the nearest one, a tie as the one with the even significand.
-/

namespace Birl

namespace Number

def bitLength (n : Nat) : Nat := if n = 0 then 0 else Nat.log2 n + 1

/-- The quotient rounded to the nearest integer, a tie to the even one. -/
def roundQuotient (num den : Nat) : Nat :=
  let quotient := num / den
  let rest := num % den
  if 2 * rest < den || (2 * rest == den && quotient % 2 == 0) then quotient else quotient + 1

/-- `num / den` in units of `2 ^ scale`, rounded. -/
def scaled (num den : Nat) (scale : Int) : Nat :=
  roundQuotient (num * Nat.pow 2 (-scale).toNat) (den * Nat.pow 2 scale.toNat)

def ofRatio? (num den : Nat) : Option Number :=
  if num = 0 then some zero
  else
    let near : Int := (bitLength num : Int) - bitLength den - 53
    let wide : Bool :=
      num * Nat.pow 2 (-near).toNat ≥ den * Nat.pow 2 near.toNat * (2 * fractionEnd)
    let scale := max (if wide then near + 1 else near) (-1074)
    let bits := scaled num den scale + (scale + 1074).toNat * fractionEnd
    if bits ≥ 2047 * fractionEnd then none else some ⟨bits.toUInt64⟩

/-- The parts of a number as written, before rounding: `digits * base ^ power`, or for base 16
`digits * 2 ^ power`. -/
structure Written where
  negative : Bool := false
  hexadecimal : Bool := false
  digits : Nat
  power : Int

/-- Rounds a number as written. Powers beyond these bounds decide by themselves. -/
def Written.round? (w : Written) : Option Number :=
  let magnitude :=
    if w.digits = 0 then some zero
    else if w.hexadecimal then
      let size : Int := bitLength w.digits + w.power
      if size > 1100 then none
      else if size < -1200 then some zero
      else ofRatio? (w.digits * Nat.pow 2 w.power.toNat) (Nat.pow 2 (-w.power).toNat)
    else
      let size : Int := (Nat.toDigits 10 w.digits).length + w.power
      if size > 320 then none
      else if size < -400 then some zero
      else ofRatio? (w.digits * Nat.pow 10 w.power.toNat) (Nat.pow 10 (-w.power).toNat)
  magnitude.map fun x => if w.negative then x.negate else x

end Number

namespace Reading

def digitValue? (b : UInt8) : Option Nat :=
  if 48 ≤ b && b ≤ 57 then some (b.toNat - 48)
  else if 97 ≤ b && b ≤ 102 then some (b.toNat - 87)
  else if 65 ≤ b && b ≤ 70 then some (b.toNat - 55)
  else none

def isDecimal (b : UInt8) : Bool := 48 ≤ b && b ≤ 57

def decimalValue (digits : List UInt8) : Nat :=
  digits.foldl (fun n b => 10 * n + (b.toNat - 48)) 0

def splitSign : List UInt8 → Bool × List UInt8
  | 43 :: rest => (false, rest)
  | 45 :: rest => (true, rest)
  | bs => (false, bs)

/-- A decimal integer with an optional sign, if it fits in 64 bits. -/
def int64? (bs : List UInt8) : Option Int64 :=
  let (negative, digits) := splitSign bs
  if digits.isEmpty || !digits.all isDecimal then none
  else
    let n := decimalValue digits
    if negative then if n ≤ integerEnd then some (Int64.ofInt (-(n : Int))) else none
    else if n < integerEnd then some (Int64.ofInt n) else none

def digitsIn? (base : Nat) (digits : List UInt8) : Option Nat :=
  let values := digits.map digitValue?
  if values.isEmpty || values.any (fun d => d.all (base ≤ ·)) then none
  else some (values.foldl (fun n d => base * n + d.getD 0) 0)

def markedBase? (mark : UInt8) : Option Nat :=
  if mark == 120 then some 16 else if mark == 111 then some 8 else if mark == 98 then some 2 else none

/-- The digits before an exponent: their value, how many stand after the point, whether there was a
digit and a point, and the rest. Underscores are passed over; their places are checked apart. -/
structure Mantissa where
  value : Nat := 0
  afterPoint : Nat := 0
  sawDigit : Bool := false
  sawPoint : Bool := false

def mantissa (base : Nat) (m : Mantissa) : List UInt8 → Mantissa × List UInt8
  | [] => (m, [])
  | b :: rest =>
    if b == 95 then mantissa base m rest
    else if b == 46 && !m.sawPoint then mantissa base { m with sawPoint := true } rest
    else match digitValue? b with
      | some d =>
        if d < base then
          mantissa base
            { m with
              value := base * m.value + d
              afterPoint := if m.sawPoint then m.afterPoint + 1 else m.afterPoint
              sawDigit := true } rest
        else (m, b :: rest)
      | none => (m, b :: rest)

/-- The digits of an exponent; beyond five of them the rest no longer matters. -/
def exponentDigits (e : Nat) : List UInt8 → Nat × List UInt8
  | [] => (e, [])
  | b :: rest =>
    if b == 95 then exponentDigits e rest
    else if isDecimal b then
      exponentDigits (if e < 10000 then 10 * e + (b.toNat - 48) else e) rest
    else (e, b :: rest)

/-- An exponent after its letter, which must have a digit right after the optional sign. -/
def exponent? (bs : List UInt8) : Option (Int × List UInt8) :=
  let (negative, rest) := splitSign bs
  match rest with
  | b :: _ =>
    if isDecimal b then
      let (e, rest) := exponentDigits 0 rest
      some (if negative then -(e : Int) else e, rest)
    else none
  | [] => none

/-- Underscores must stand between digits; the mark of the base counts as a digit. -/
def underscoresFit (hexadecimal : Bool) : (afterDigit afterUnderscore : Bool) → List UInt8 → Bool
  | _, afterUnderscore, [] => !afterUnderscore
  | afterDigit, afterUnderscore, b :: rest =>
    if isDecimal b || (hexadecimal && (digitValue? b).isSome) then
      underscoresFit hexadecimal true false rest
    else if b == 95 then afterDigit && underscoresFit hexadecimal false true rest
    else !afterUnderscore && underscoresFit hexadecimal false false rest

def lowerByte (b : UInt8) : UInt8 := if 65 ≤ b && b ≤ 90 then b + 32 else b

/-- A number in decimal or hexadecimal notation, as written. A hexadecimal one needs a binary
exponent. -/
def written? (bs : List UInt8) : Option Number.Written :=
  let (negative, body) := splitSign bs
  let hexadecimal := match body with
    | 48 :: x :: _ :: _ => lowerByte x == 120
    | _ => false
  let digits := if hexadecimal then body.drop 2 else body
  let (m, rest) := mantissa (if hexadecimal then 16 else 10) {} digits
  let places : Int := if hexadecimal then 4 * m.afterPoint else m.afterPoint
  let fits := !bs.contains 95 || underscoresFit hexadecimal hexadecimal false digits
  if !m.sawDigit || !fits then none
  else match rest with
    | [] => if hexadecimal then none else some { negative, digits := m.value, power := -places }
    | letter :: rest =>
      if lowerByte letter == (if hexadecimal then 112 else 101) then
        match exponent? rest with
        | some (e, []) => some { negative, hexadecimal, digits := m.value, power := e - places }
        | _ => none
      else none

/-- The names of the numbers that are not finite, in any case. -/
def named? (bs : List UInt8) : Option Number :=
  let (negative, body) := splitSign bs
  let word := body.map lowerByte
  if word = (Text.ofString "inf").bytes || word = (Text.ofString "infinity").bytes then
    some ⟨if negative then 0xFFF0000000000000 else 0x7FF0000000000000⟩
  else if bs.map lowerByte = (Text.ofString "nan").bytes then some ⟨0x7FF8000000000001⟩
  else none

inductive NumberFailure where
  | malformed
  | outOfRange
  deriving DecidableEq, Repr

def number (bs : List UInt8) : Except NumberFailure Number :=
  match named? bs with
  | some x => .ok x
  | none =>
    match written? bs with
    | none => .error .malformed
    | some w =>
      match w.round? with
      | some x => .ok x
      | none => .error .outOfRange

end Reading

def Text.toInt64? (t : Text) : Option Int64 := Reading.int64? t.bytes

end Birl
