import Birl.Number.Reading
import Birl.Program
import Birl.TextStore

/-!
# Operations on values

Arithmetic, comparison, conversion and printing of values. Texts are read from the machine's store;
an operation that consumes a text takes it out of the store, also when it fails afterwards.
-/

namespace Birl

def Arithmetic.operator : Arithmetic → Operator
  | add => .plus
  | sub => .minus
  | mul => .times
  | div => .divide

/-- Integer arithmetic wraps around at 64 bits and division goes toward zero. -/
def Arithmetic.onInt64 (op : Arithmetic) (x y : Int64) : Except Fault Int64 :=
  match op with
  | add => .ok (x + y)
  | sub => .ok (x - y)
  | mul => .ok (x * y)
  | div => if y = 0 then .error .divisionByZero else .ok (x / y)

def Arithmetic.onNumbers (op : Arithmetic) (x y : Number) : Number :=
  match op with
  | add => x + y
  | sub => x - y
  | mul => x * y
  | div => x / y

/-- The result of an operation that may change the store on the way. -/
abbrev StoreResult := Except Fault Value × TextStore

namespace TextStore

/-- Joins two texts: the right one is taken out of the store and appended to the left one, which
keeps its id. -/
def concat (s : TextStore) (left right : Nat) : StoreResult :=
  match s.take right with
  | .error fault => (.error fault, s)
  | .ok (t, taken) =>
    match taken.append left t with
    | .error fault => (.error fault, taken)
    | .ok joined => (.ok (.text left), joined)

/-- An arithmetic operation. Null spreads, texts can only be joined, two Integers give an Integer,
and a Number on either side makes the result a Number. -/
def arithmetic (s : TextStore) (op : Arithmetic) (a b : Value) : StoreResult :=
  match a, b with
  | .null, _ => (.ok .null, s)
  | _, .null => (.ok .null, s)
  | .text left, .text right =>
    if op = .add then s.concat left right
    else (.error (.cannotApply op.operator .text .text), s)
  | .text _, b => (.error (.cannotApply op.operator .text b.type), s)
  | a, .text _ => (.error (.cannotApply op.operator a.type .text), s)
  | .int x, .int y => ((op.onInt64 x y).map .int, s)
  | .int x, .number y => (.ok (.number (op.onNumbers (.ofInt64 x) y)), s)
  | .number x, .int y => (.ok (.number (op.onNumbers x (.ofInt64 y))), s)
  | .number x, .number y => (.ok (.number (op.onNumbers x y)), s)

/-- Orders two Numbers; a NaN only differs from everything. -/
def compareNumbers (x y : Number) : Comparison :=
  if x.isNaN || y.isNaN then .notEqual
  else if x.less y then .less
  else if y.less x then .more
  else .equal

def compareInt64 (x y : Int64) : Comparison :=
  if x < y then .less else if y < x then .more else .equal

/-- Orders two texts by length; texts of one length are only equal or not. -/
def compareTexts (x y : Text) : Comparison :=
  if x.length < y.length then .less
  else if y.length < x.length then .more
  else if x = y then .equal
  else .notEqual

/-- Compares two values; values of different types, numbers aside, only differ. -/
def compare (s : TextStore) (a b : Value) : Except Fault Comparison :=
  match a, b with
  | .null, .null => .ok .equal
  | .int x, .int y => .ok (compareInt64 x y)
  | .int x, .number y => .ok (compareNumbers (.ofInt64 x) y)
  | .number x, .int y => .ok (compareNumbers x (.ofInt64 y))
  | .number x, .number y => .ok (compareNumbers x y)
  | .text i, .text j => do
    let x ← s.get i
    let y ← s.get j
    return compareTexts x y
  | _, _ => .ok .notEqual

/-- The value as an Integer. A Number loses its fraction; a Text is taken out of the store and must be
a decimal integer, blanks around it aside. -/
def toInteger (s : TextStore) : Value → StoreResult
  | .int n => (.ok (.int n), s)
  | .number x =>
    match x.toInt64? with
    | some n => (.ok (.int n), s)
    | none => (.error (.doesNotFit x), s)
  | .text id =>
    match s.take id with
    | .error fault => (.error fault, s)
    | .ok (t, taken) =>
      match t.trim.toInt64? with
      | some n => (.ok (.int n), taken)
      | none => (.error (.notInteger t), taken)
  | .null => (.error (.nullConversion .integer), s)

/-- The value as a Number. A Text is taken out of the store and must be a number, blanks around it
aside. -/
def toNumber (s : TextStore) : Value → StoreResult
  | .int n => (.ok (.number (.ofInt64 n)), s)
  | .number x => (.ok (.number x), s)
  | .text id =>
    match s.take id with
    | .error fault => (.error fault, s)
    | .ok (t, taken) =>
      match Reading.number t.trim.bytes with
      | .ok x => (.ok (.number x), taken)
      | .error _ => (.error (.notNumber t), taken)
  | .null => (.error (.nullConversion .number), s)

def display (s : TextStore) : Value → Except Fault Text
  | .int n => .ok (.ofInt n.toInt)
  | .number x => .ok x.text
  | .text id => s.get id
  | .null => .ok nullText

def inspect (s : TextStore) : Value → Except Fault Text
  | .int n => .ok (Constant.describe (.int n))
  | .number x => .ok (Constant.describe (.number x))
  | .text id => (s.get id).map fun t => Constant.describe (.text t)
  | .null => .ok (Constant.describe .null)

/-- The value as a Text; a Text stays what it is. -/
def toText (s : TextStore) : Value → StoreResult
  | .text id => (.ok (.text id), s)
  | v =>
    match s.display v with
    | .ok t =>
      let (v, s) := s.intern (.text t)
      (.ok v, s)
    | .error fault => (.error fault, s)

end TextStore

/-- Checks an argument against the kind of its parameter; an Integer becomes a Number where a Number
is expected. -/
def Value.assertKind (v : Value) (kind : ParameterKind) : Except Fault Value :=
  match kind, v with
  | .known .integer, .int n => .ok (.int n)
  | .known .number, .int n => .ok (.number (.ofInt64 n))
  | .known .number, .number x => .ok (.number x)
  | .known .text, .text id => .ok (.text id)
  | kind, v => .error (.incompatible kind v.type)

end Birl
