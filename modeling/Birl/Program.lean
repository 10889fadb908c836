import Birl.Comparison
import Birl.Value

/-!
# Programs

A program is a list of code segments, one a function. Segment 0 is the global code and segment 1 the
entry point. Segments only ever grow. There are no jumps: control moves forward, into calls and back
out of them.
-/

namespace Birl

inductive Arithmetic where
  | add
  | sub
  | mul
  | div
  deriving DecidableEq, Repr, Inhabited

/-- What an instruction does. The machine has two registers for operands, `a` and `b`, of which `b`
also takes results, and one register that holds a value on its way from a slot. -/
inductive Operation where
  | loadA (constant : Constant)
  | loadB (constant : Constant)
  | heldToA
  | heldToB
  | swap
  | clear
  | arith (op : Arithmetic)
  | compare
  | executeIf (requirement : Requirement)
  | endIf
  | readLocal (address : Int)
  | writeLocal (address : Int)
  | readGlobal (address : Int)
  | writeGlobal (address : Int)
  /-- Writes a slot of the frame under construction. -/
  | writeArgument (address : Int)
  /-- Starts the construction of a frame; -1 asks for a plugin's. -/
  | newFrame (code : Int)
  | assertKind (kind : ParameterKind)
  /-- The frame under construction may run. -/
  | startFrame
  | callPlugin (index : Int)
  | returnValue
  | readInput
  | toInteger
  | toNumber
  | toText
  | print
  | printDebug
  | newLine
  | flush
  | quit
  | unknown (code : UInt8)
  deriving DecidableEq, Repr, Inhabited

namespace Operation

def names : List Text :=
  ["PushValA", "PushValB", "PushIntermediateToA", "PushIntermediateToB", "SwapMath", "ClearMath",
    "Add", "Sub", "Mul", "Div", "Compare", "ExecuteIf", "EndExecuteIf", "ReadVarFrom", "WriteVarTo",
    "ReadGlobalVarFrom", "WriteGlobalVarTo", "WriteVarToLast", "MakeNewFrame",
    "AssertMathBCompatible", "SetLastFrameReady", "CallPlugin", "Return", "ReadInput",
    "ConvertToInt", "ConvertToNum", "ConvertToString", "PrintMathB", "PrintMathBDebug",
    "PrintNewLine", "FlushStdout", "Quit"]

def nameOfCode (code : UInt8) : Text :=
  names[code.toNat]?.getD ("Opcode(" ++ Text.ofNat code.toNat ++ ")")

def codeOfName? (name : Text) : Option UInt8 := (names.findIdx? (· = name)).map Nat.toUInt8

def code : Operation → UInt8
  | loadA _ => 0
  | loadB _ => 1
  | heldToA => 2
  | heldToB => 3
  | swap => 4
  | clear => 5
  | arith .add => 6
  | arith .sub => 7
  | arith .mul => 8
  | arith .div => 9
  | compare => 10
  | executeIf _ => 11
  | endIf => 12
  | readLocal _ => 13
  | writeLocal _ => 14
  | readGlobal _ => 15
  | writeGlobal _ => 16
  | writeArgument _ => 17
  | newFrame _ => 18
  | assertKind _ => 19
  | startFrame => 20
  | callPlugin _ => 21
  | returnValue => 22
  | readInput => 23
  | toInteger => 24
  | toNumber => 25
  | toText => 26
  | print => 27
  | printDebug => 28
  | newLine => 29
  | flush => 30
  | quit => 31
  | unknown code => code

def name (op : Operation) : Text := nameOfCode op.code

/-- The operation with a given code, operand and constant. Conditions and kinds take the low byte of
the operand. -/
def decode (code : UInt8) (operand : Int) (constant : Constant) : Operation :=
  match code with
  | 0 => loadA constant
  | 1 => loadB constant
  | 2 => heldToA
  | 3 => heldToB
  | 4 => swap
  | 5 => clear
  | 6 => arith .add
  | 7 => arith .sub
  | 8 => arith .mul
  | 9 => arith .div
  | 10 => compare
  | 11 => executeIf (.ofCode (operand % 256).toNat.toUInt8)
  | 12 => endIf
  | 13 => readLocal operand
  | 14 => writeLocal operand
  | 15 => readGlobal operand
  | 16 => writeGlobal operand
  | 17 => writeArgument operand
  | 18 => newFrame operand
  | 19 => assertKind (.ofCode (operand % 256).toNat.toUInt8)
  | 20 => startFrame
  | 21 => callPlugin operand
  | 22 => returnValue
  | 23 => readInput
  | 24 => toInteger
  | 25 => toNumber
  | 26 => toText
  | 27 => print
  | 28 => printDebug
  | 29 => newLine
  | 30 => flush
  | 31 => quit
  | code => unknown code

end Operation

structure Instruction where
  op : Operation
  line : Int
  deriving DecidableEq, Repr, Inhabited

structure Segment where
  name : Text
  code : Array Instruction := #[]
  deriving DecidableEq, Repr, Inhabited

def globalCode : Nat := 0

def entryCode : Nat := 1

/-- Code segments by id. -/
structure Program where
  segments : Array Segment
  deriving DecidableEq, Repr, Inhabited

namespace Program

/-- A program whose global code and entry point are empty. -/
def empty : Program := ⟨#[{ name := "<global>" }, { name := "SHOW" }]⟩

def segment? (p : Program) (id : Nat) : Option Segment := p.segments[id]?

def hasCode (p : Program) (id : Int) : Bool := 0 ≤ id && id < p.segments.size

def addSegment (p : Program) (name : Text) : Nat × Program :=
  (p.segments.size, ⟨p.segments.push { name }⟩)

def append (p : Program) (id : Nat) (code : List Instruction) : Program :=
  ⟨p.segments.modify id fun s => { s with code := s.code ++ code }⟩

def globalLength (p : Program) : Nat := (p.segment? globalCode).elim 0 fun s => s.code.size

end Program
end Birl
