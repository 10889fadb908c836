import Birl.Host.Type
import Birl.TextStore

/-!
# Values of the host

How values cross the border between a host program and the language. Integers of every width and
truth values are Integers, floating-point numbers are Numbers, strings are Texts, and the absence of
a value is Null.
-/

namespace Birl

structure HostInteger where
  type : IntegerType
  value : Int
  holds : type.Holds value
  deriving DecidableEq, Repr

namespace HostInteger

def ofInt? (t : IntegerType) (n : Int) : Option HostInteger :=
  if h : t.Holds n then some ⟨t, n, h⟩ else none

def zero (t : IntegerType) : HostInteger := ⟨t, 0, t.holds_zero⟩

/-- An Integer of the language as a host integer of the same width. -/
def ofInt64 (n : Int64) : HostInteger :=
  ⟨.signed .bits64, n.toInt, n.le_toInt, Int.le_sub_one_of_lt n.toInt_lt⟩

instance : Inhabited HostInteger := ⟨zero .address⟩

def toInt64? (n : HostInteger) : Option Int64 :=
  if n.value < integerEnd then some (Int64.ofInt n.value) else none

end HostInteger

inductive HostValue where
  /-- No value, of no type. -/
  | nothing
  | integer (n : HostInteger)
  /-- A number of single precision, widened. -/
  | single (x : Number)
  | double (x : Number)
  | truth (b : Bool)
  | string (t : Text)
  /-- A value of the language, which stays what it is. -/
  | value (v : Value)
  | pointer (target : HostValue)
  /-- No value, of a type that allows for it. -/
  | none (t : HostType)
  /-- A value of a type that the language knows nothing of. -/
  | foreign (t : HostType)
  deriving DecidableEq, Repr, Inhabited

namespace HostValue

/-- The value at the end of a chain of pointers. -/
def target : HostValue → HostValue
  | pointer v => v.target
  | v => v

/-- Brings a value that is no pointer into the language. A string becomes a new text of the store. -/
def toValueDirect (texts : TextStore) : HostValue → Except Fault Value × TextStore
  | nothing => (.ok .null, texts)
  | integer n =>
    match n.toInt64? with
    | some i => (.ok (.int i), texts)
    | .none => (.error (.beyondIntegers n.value.toNat), texts)
  | single x | double x => (.ok (.number x), texts)
  | truth b => (.ok (.int (if b then 1 else 0)), texts)
  | string t =>
    let (v, texts) := texts.intern (.text t)
    (.ok v, texts)
  | none (.pointer _) | none .any | none .failure => (.ok .null, texts)
  | none t | foreign t => (.error (.unconvertible t.name), texts)
  | value _ => (.error (.unconvertible HostType.value.name), texts)
  | pointer _ => (.ok .null, texts)

/-- Brings a value into the language. Pointers stand for what they point to. -/
def toValue (texts : TextStore) : HostValue → Except Fault Value × TextStore
  | value v => (.ok v, texts)
  | v => v.target.toValueDirect texts

def zero : HostType → HostValue
  | .integer t => integer (.zero t)
  | .single => single .zero
  | .double => double .zero
  | .truth => truth false
  | .string => string .empty
  | .value => value .null
  | .record => foreign .record
  | .complex => foreign .complex
  | t => none t

/-- The host value of the type closest to a value of the language. -/
def natural (texts : TextStore) : Value → Except Fault HostValue
  | .null => .ok nothing
  | .int n => .ok (integer (.ofInt64 n))
  | .number x => .ok (double x)
  | .text id => (texts.get id).map string

/-- A value of the language, other than Null, as a host value of a given type. -/
def ofValueAs (v : Value) (text : Text) (t : HostType) : Except Fault HostValue :=
  match t, v with
  | .integer t, .int n =>
    match HostInteger.ofInt? t n.toInt with
    | some n => .ok (integer n)
    | .none => .error (.outsideType n t.name)
  | .single, .int n => .ok (single (Number.ofInt64 n).toSingle)
  | .single, .number x => .ok (single x.toSingle)
  | .double, .int n => .ok (double (.ofInt64 n))
  | .double, .number x => .ok (double x)
  | .truth, .int n => .ok (truth (n != 0))
  | .string, .text _ => .ok (string text)
  | t, v => .error (.unusable v.type t.name)

/-- Takes a value of the language out to the host, as a value of the type asked for, or of the
closest type if none is. Null is the zero of every type. -/
def ofValue (texts : TextStore) (v : Value) (t? : Option HostType) : Except Fault HostValue :=
  if t? = some .value then .ok (value v)
  else do
    let closest ← natural texts v
    match t?, closest with
    | .none, closest => return closest
    | some t, nothing => return zero t
    | some .any, closest => return closest
    | some t, string text => ofValueAs v text t
    | some t, _ => ofValueAs v .empty t

end HostValue
end Birl
