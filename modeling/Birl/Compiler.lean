import Birl.Fault
import Birl.Machine
import Birl.Program

/-!
# The state of the compiler

Lines are compiled one at a time. Between lines the compiler knows the names that are visible, the
functions that can be called, and the next free slot of the function it is in. A function can only
be opened at top level, and conditional blocks lie inside the innermost function, so the open scopes
are: the global one, at most one function, and the blocks in it.
-/

namespace Birl

/-- Where a variable lives. -/
structure Symbol where
  address : Nat
  /-- Whether the slot belongs to the global frame. -/
  global : Bool := false
  readOnly : Bool := false
  deriving DecidableEq, Repr, Inhabited

abbrev Bindings := List (Text × Symbol)

namespace Bindings

def find? (vars : Bindings) (name : Text) : Option Symbol := vars.lookup name

def put (name : Text) (symbol : Symbol) : Bindings → Bindings
  | [] => [(name, symbol)]
  | (n, s) :: rest => if n = name then (n, symbol) :: rest else (n, s) :: put name symbol rest

end Bindings

structure Block where
  vars : Bindings := []
  /-- The next free slot when the block was opened. -/
  savedNext : Nat
  deriving DecidableEq, Repr, Inhabited

structure OpenFunction where
  code : Nat
  vars : Bindings
  /-- The next free slot of the global frame, for when the function ends. -/
  globalNext : Nat
  deriving DecidableEq, Repr, Inhabited

/-- What a function name stands for: compiled code, or a plugin of the host by its index. -/
inductive Callee where
  | code (id : Nat)
  | plugin (index : Int)
  deriving DecidableEq, Repr, Inhabited

namespace Callee

def frameOperand : Callee → Int
  | code id => id
  | plugin _ => -1

def pluginIndex : Callee → Int
  | code _ => -1
  | plugin index => index

def isPlugin (c : Callee) : Bool := 0 ≤ c.pluginIndex

end Callee

structure FunctionInfo where
  name : Text
  callee : Callee
  params : List ParameterKind
  deriving DecidableEq, Repr, Inhabited

/-- What the compiler knows between lines. -/
structure Compiler where
  frameSize : Nat
  program : Program := .empty
  globals : Bindings := [(returnName, { address := 0, global := true })]
  function : Option OpenFunction := none
  /-- The open blocks of the current function, the innermost first. -/
  blocks : List Block := []
  functions : List (Text × FunctionInfo) := []
  /-- The next free slot of the current function. -/
  next : Nat := 1
  deriving DecidableEq, Repr, Inhabited

inductive ScopeTag where
  | function
  | regular
  | forLoop
  | whileLoop
  | executeIf
  | unknown (code : Int)
  deriving DecidableEq, Repr, Inhabited

namespace ScopeTag

def ofCode : Int → ScopeTag
  | 0 => function
  | 1 => regular
  | 2 => forLoop
  | 3 => whileLoop
  | 4 => executeIf
  | code => unknown code

def name : ScopeTag → Text
  | function => "Function"
  | regular => "Regular"
  | forLoop => "ForLoop"
  | whileLoop => "WhileLoop"
  | executeIf => "ExecuteIf"
  | unknown code => "ScopeTag(" ++ Text.ofInt code ++ ")"

end ScopeTag

inductive ScopeHint where
  | none
  | opened
  | closed
  deriving DecidableEq, Repr, Inhabited

def ScopeHint.name : ScopeHint → Text
  | none => "None"
  | opened => "ScopeStart"
  | closed => "ScopeEnd"

namespace Compiler

def new (requestedFrameSize : Int) : Compiler := { frameSize := frameSizeFor requestedFrameSize }

/-- Number of open blocks, functions included. -/
def depth (c : Compiler) : Nat := c.blocks.length + if c.function.isSome then 1 else 0

/-- The segment that takes the instructions of the next line. -/
def currentCode (c : Compiler) : Nat := c.function.elim globalCode OpenFunction.code

/-- Whether the global function is being compiled, so that its slots are global. -/
def inGlobal (c : Compiler) : Bool := c.function.isNone

def scopes (c : Compiler) : List Bindings :=
  c.blocks.map Block.vars ++ (c.function.map OpenFunction.vars).toList ++ [c.globals]

def resolve (c : Compiler) (name : Text) : Option Symbol :=
  c.scopes.findSome? fun vars => vars.find? name

def global? (c : Compiler) (name : Text) : Option Symbol := c.globals.find? name

def function? (c : Compiler) (name : Text) : Option FunctionInfo := c.functions.lookup name

def hasEntryPoint (c : Compiler) : Bool :=
  (c.function? entryName).any fun f => f.callee = .code entryCode

def allocate (c : Compiler) (address : Nat) : Except Fault Nat :=
  if c.frameSize ≤ address then .error (.frameFull (c.frameSize - 1)) else .ok address

def innermost (c : Compiler) : Bindings :=
  match c.blocks, c.function with
  | block :: _, _ => block.vars
  | [], some function => function.vars
  | [], none => c.globals

def setInnermost (c : Compiler) (vars : Bindings) : Compiler :=
  match c.blocks, c.function with
  | block :: rest, _ => { c with blocks := { block with vars } :: rest }
  | [], some function => { c with function := some { function with vars } }
  | [], none => { c with globals := vars }

/-- Declares a variable in the innermost scope. A second declaration of a name keeps the slot of the
first, unless that one is read-only. -/
def declare (c : Compiler) (name : Text) (readOnly : Bool) : Except Fault (Symbol × Compiler) :=
  let fresh : Except Fault (Symbol × Compiler) := do
    let address ← c.allocate c.next
    let symbol := { address, global := c.inGlobal, readOnly }
    return (symbol, { c.setInnermost (c.innermost.put name symbol) with next := address + 1 })
  match c.innermost.find? name with
  | some previous =>
    if previous.readOnly then fresh
    else
      let symbol := { previous with readOnly }
      .ok (symbol, c.setInnermost (c.innermost.put name symbol))
  | none => fresh

def declareGlobal (c : Compiler) (name : Text) (readOnly : Bool) :
    Except Fault (Nat × Compiler) := do
  if c.depth > 0 then throw .globalInsideBlock
  let (symbol, c) ← c.declare name readOnly
  return (symbol.address, c)

def registerPlugin (c : Compiler) (name : Text) (params : List ParameterKind) (index : Int) :
    Except Fault Compiler := do
  if (c.function? name).isSome then throw (.redeclaredFunction name)
  if params.length + 1 > c.frameSize then throw (.tooManyParameters name params.length)
  return { c with functions := (name, { name, callee := .plugin index, params }) :: c.functions }

def appendEntryCall (c : Compiler) (line : Int) : Compiler :=
  { c with
    program := c.program.append globalCode [⟨.newFrame entryCode, line⟩, ⟨.startFrame, line⟩] }

end Compiler
end Birl
