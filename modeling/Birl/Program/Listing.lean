import Birl.Program

/-!
# Listings of code

A readable listing of a program: each segment with a heading, each instruction with its index, its
source line where that changes, and its operand.
-/

namespace Birl

namespace Listing

def nameWidth : Nat := 22

def operand? : Operation → Option Text
  | .loadA k | .loadB k => some k.describe
  | .executeIf requirement => some requirement.name
  | .assertKind kind => some kind.name
  | .readLocal n | .writeLocal n | .readGlobal n | .writeGlobal n | .writeArgument n
  | .newFrame n | .callPlugin n => some (.ofInt n)
  | _ => none

def operation (op : Operation) : Text :=
  match operand? op with
  | some operand => op.name.padRight nameWidth ++ " " ++ operand
  | none => op.name

/-- The lines of instructions, the first of which has the given index; `previous` is the source line
of the instruction before. -/
def instructions (index : Nat) (previous : Option Int) : List Instruction → Text
  | [] => .empty
  | ins :: rest =>
    let line : Text :=
      if previous = some ins.line then "   | " else (Text.ofInt ins.line).padLeft ' ' 4 ++ " "
    (Text.ofNat index).padLeft '0' 4 ++ " " ++ line ++ operation ins.op ++ "\n"
      ++ instructions (index + 1) (some ins.line) rest

def segment (id : Nat) (s : Segment) : Text :=
  if s.code.isEmpty then .empty
  else
    "== " ++ s.name ++ " (" ++ Text.ofNat id ++ ") ==\n" ++ instructions 0 none s.code.toList

def segments (id : Nat) : List Segment → Text
  | [] => .empty
  | s :: rest => segment id s ++ segments (id + 1) rest

end Listing

/-- The listing of every segment that has code. -/
def Program.listing (p : Program) : Text := Listing.segments 0 p.segments.toList

end Birl
