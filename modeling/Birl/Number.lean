/-!
# Numbers

A Number is a binary64 floating-point number, held as its 64 bits so that numbers can be told
apart: the two zeros differ, and a NaN equals itself. Arithmetic and order are those of the
floating-point standard.
-/

namespace Birl

/-- The first number above the 64-bit integers. -/
abbrev integerEnd : Nat := 0x8000000000000000

/-- A binary64 number by its bits. -/
structure Number where
  bits : UInt64
  deriving DecidableEq, Repr, Inhabited

namespace Number

def toFloat (x : Number) : Float := Float.ofBits x.bits

def ofFloat (f : Float) : Number := ⟨f.toBits⟩

def ofInt64 (n : Int64) : Number := ofFloat n.toFloat

def zero : Number := ⟨0⟩

def isNegative (x : Number) : Bool := x.bits.toNat ≥ 0x8000000000000000

/-- The number of different fractions, which is also the digit that a normal significand has in front
of its fraction. -/
abbrev fractionEnd : Nat := 0x10000000000000

def exponentBits (x : Number) : Nat := x.bits.toNat / fractionEnd % 2048

def fractionBits (x : Number) : Nat := x.bits.toNat % fractionEnd

def isNaN (x : Number) : Bool := x.exponentBits == 2047 && x.fractionBits != 0

def isInfinite (x : Number) : Bool := x.exponentBits == 2047 && x.fractionBits == 0

/-- The magnitude of a finite number is `significand * 2 ^ scale`. -/
def significand (x : Number) : Nat :=
  if x.exponentBits = 0 then x.fractionBits else fractionEnd + x.fractionBits

def scale (x : Number) : Int := (max x.exponentBits 1 : Nat) - 1075

def negate (x : Number) : Number := ⟨x.bits ^^^ 0x8000000000000000⟩

def add (x y : Number) : Number := ofFloat (x.toFloat + y.toFloat)
def sub (x y : Number) : Number := ofFloat (x.toFloat - y.toFloat)
def mul (x y : Number) : Number := ofFloat (x.toFloat * y.toFloat)
def div (x y : Number) : Number := ofFloat (x.toFloat / y.toFloat)

instance : Add Number := ⟨add⟩
instance : Sub Number := ⟨sub⟩
instance : Mul Number := ⟨mul⟩
instance : Div Number := ⟨div⟩

/-- Less in the order of the standard: false when a NaN takes part. -/
def less (x y : Number) : Bool := x.toFloat < y.toFloat

/-- The nearest whole number, a half going away from zero. -/
def rounded (x : Number) : Number := ofFloat x.toFloat.round

def half (x : Number) : Number := ofFloat (x.toFloat / 2)

def toSingle (x : Number) : Number := ofFloat x.toFloat.toFloat32.toFloat

/-- The integer part, if it lies in the range of 64-bit integers. -/
def toInt64? (x : Number) : Option Int64 :=
  if x.isNaN || x.isInfinite then none
  else
    let f := x.toFloat
    if f ≥ 9223372036854775808.0 || f < -9223372036854775808.0 then none else some f.toInt64

end Number
end Birl
