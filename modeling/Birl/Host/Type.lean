import Birl.Fault

/-!
# Types of the host

The types that values of a host program can have, as far as they matter at the border between the
host and the language.
-/

namespace Birl

inductive Width where
  | bits8
  | bits16
  | bits32
  | bits64
  | word
  deriving DecidableEq, Repr, Inhabited

def Width.signedEnd : Width → Nat
  | bits8 => 0x80
  | bits16 => 0x8000
  | bits32 => 0x80000000
  | bits64 | word => 0x8000000000000000

def Width.suffix : Width → Text
  | bits8 => "8"
  | bits16 => "16"
  | bits32 => "32"
  | bits64 => "64"
  | word => .empty

inductive IntegerType where
  | signed (w : Width)
  | unsigned (w : Width)
  /-- An unsigned integer as wide as an address. -/
  | address
  deriving DecidableEq, Repr, Inhabited

namespace IntegerType

def name : IntegerType → Text
  | signed w => "int" ++ w.suffix
  | unsigned w => "uint" ++ w.suffix
  | address => "uintptr"

def least : IntegerType → Int
  | signed w => -(w.signedEnd : Int)
  | unsigned _ | address => 0

def greatest : IntegerType → Int
  | signed w => w.signedEnd - 1
  | unsigned w => 2 * w.signedEnd - 1
  | address => 2 * Width.word.signedEnd - 1

def Holds (t : IntegerType) (n : Int) : Prop := t.least ≤ n ∧ n ≤ t.greatest

instance (t : IntegerType) (n : Int) : Decidable (t.Holds n) :=
  inferInstanceAs (Decidable (_ ∧ _))

theorem holds_zero (t : IntegerType) : t.Holds 0 := by
  cases t with
  | signed w => cases w <;> decide
  | unsigned w => cases w <;> decide
  | address => decide

end IntegerType

inductive HostType where
  | integer (t : IntegerType)
  /-- Floating-point numbers of single and double precision. -/
  | single
  | double
  | truth
  | string
  /-- Values of the language itself. -/
  | value
  /-- Values of any type. -/
  | any
  /-- Reasons for a failure. -/
  | failure
  | pointer (target : HostType)
  | list (item : HostType)
  | table (key item : HostType)
  | record
  | complex
  deriving DecidableEq, Repr, Inhabited

namespace HostType

def name : HostType → Text
  | integer t => t.name
  | single => "float32"
  | double => "float64"
  | truth => "bool"
  | string => "string"
  | value => "vm.Value"
  | any => "interface \x7b\x7d"
  | failure => "error"
  | pointer target => "*" ++ target.name
  | list item => "[]" ++ item.name
  | table key item => "map[" ++ key.name ++ "]" ++ item.name
  | record => "struct \x7b\x7d"
  | complex => "complex128"

def kind? : HostType → Option Kind
  | integer _ | truth => some .integer
  | single | double => some .number
  | string => some .text
  | _ => none

def kind (t : HostType) : Except Fault Kind :=
  match t.kind? with
  | some kind => .ok kind
  | none => .error (.unsupportedParameter t.name)

end HostType
end Birl
