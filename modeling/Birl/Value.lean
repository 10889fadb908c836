import Birl.Number.Writing
import Birl.Text.Quoted

/-!
# Values

A value is Null, an Integer, a Number or a Text. A Text value is only the id of an entry in a text
store, so what it stands for depends on the store it belongs to: the registers of the machine hold
ids of the machine's store, the slots of a frame ids of the frame's own store.
-/

namespace Birl

inductive Value where
  | null
  | int (n : Int64)
  | number (x : Number)
  | text (id : Nat)
  deriving DecidableEq, Repr, Inhabited

inductive ValueType where
  | null
  | int
  | number
  | text
  deriving DecidableEq, Repr, Inhabited

namespace ValueType

def name : ValueType → Text
  | null => "Null"
  | int => "Integer"
  | number => "Number"
  | text => "Text"

/-- The type with a given number; numbers without a type stand for Null. -/
def ofCode : UInt8 → ValueType
  | 1 => int
  | 2 => number
  | 3 => text
  | _ => null

end ValueType

namespace Value

def type : Value → ValueType
  | null => .null
  | int _ => .int
  | number _ => .number
  | text _ => .text

def numeric? : Value → Option Number
  | int n => some (.ofInt64 n)
  | number x => some x
  | _ => none

end Value

/-- How Null is printed and converted to a Text. -/
def nullText : Text := "<Null>"

/-- The types that a parameter, an input or a conversion can ask for. -/
inductive Kind where
  | integer
  | number
  | text
  deriving DecidableEq, Repr, Inhabited

namespace Kind

def name : Kind → Text
  | integer => "Integer"
  | number => "Number"
  | text => "Text"

def keyword : Kind → Text
  | integer => "MONSTRO"
  | number => "TRAPEZIO"
  | text => "FRANGO"

def ofKeyword? (word : Text) : Option Kind := [integer, number, text].find? (·.keyword = word)

end Kind

/-- The kind of a parameter. A host may register a parameter of a kind that no value has. -/
inductive ParameterKind where
  | known (kind : Kind)
  | unknown (code : UInt8)
  deriving DecidableEq, Repr, Inhabited

namespace ParameterKind

def ofCode : UInt8 → ParameterKind
  | 0 => known .integer
  | 1 => known .number
  | 2 => known .text
  | code => unknown code

def name : ParameterKind → Text
  | known kind => kind.name
  | unknown code => "TypeKind(" ++ Text.ofNat code.toNat ++ ")"

end ParameterKind

/-- A constant in code. A Text constant carries its text, which is put into the machine's store when
the constant is loaded. -/
inductive Constant where
  | null
  | int (n : Int64)
  | number (x : Number)
  | text (t : Text)
  deriving DecidableEq, Repr, Inhabited

def Constant.describe : Constant → Text
  | null => "Null"
  | int n => "Integer(" ++ Text.ofInt n.toInt ++ ")"
  | number x => "Number(" ++ x.text ++ ")"
  | text t => "Text(" ++ t.quoted ++ ")"

end Birl
