import Birl.Compiler.Expression

/-!
# Compiling commands

A command becomes instructions at the end of the segment that is open, and may open or close a scope.
A command that cannot be compiled changes nothing.
-/

namespace Birl.Compiler

structure Compiled where
  code : List Operation := []
  compiler : Compiler
  hint : ScopeHint := .none

def arity (cmd : Command) (least most : Nat) : Except Fault Unit :=
  let given := cmd.args.length
  if given < least || most < given then .error (.commandArity cmd.kind least most given) else .ok ()

def printArguments (c : Compiler) (operation : Operation) :
    List Expression → Except Fault (List Operation)
  | [] => .ok []
  | e :: rest => do
    let code ← c.expression c.next e
    let more ← c.printArguments operation rest
    return code ++ operation :: more

def compilePrint (c : Compiler) (cmd : Command) : Except Fault Compiled := do
  let code ← c.printArguments (if cmd.kind = .printDebug then .printDebug else .print) cmd.args
  let newLine := if cmd.kind = .print then [] else [.newLine]
  return { code := code ++ newLine ++ [.flush], compiler := c }

def optionalValue (c : Compiler) (cmd : Command) : Except Fault (List Operation) := do
  arity cmd 0 1
  match cmd.args with
  | e :: _ => c.expression c.next e
  | [] => return [.loadB .null]

/-- The name is declared after its value is compiled, so that the value may refer to an outer
variable of the same name. -/
def compileDeclare (c : Compiler) (cmd : Command) : Except Fault Compiled := do
  let code ← c.optionalValue cmd
  let (symbol, c) ← c.declare cmd.name false
  return { code := code ++ [symbol.write], compiler := c }

def writable (c : Compiler) (name : Text) : Except Fault Symbol :=
  match c.resolve name with
  | none => .error (.unknownVariable name)
  | some symbol => if symbol.readOnly then .error (.readOnlyVariable name) else .ok symbol

def compileSet (c : Compiler) (cmd : Command) : Except Fault Compiled := do
  arity cmd 1 1
  let symbol ← c.writable cmd.name
  let code ← c.expression c.next (cmd.args.headD [])
  return { code := code ++ [symbol.write], compiler := c }

def compileReturn (c : Compiler) (cmd : Command) : Except Fault Compiled := do
  let code ← c.optionalValue cmd
  return { code := code ++ [.returnValue], compiler := c }

/-- Leaves the left value in register `a` and the right one in register `b`. A literal on the left is
loaded last; a single operand on the right needs no slot; otherwise the left value waits in one. -/
def comparison (c : Compiler) (left right : Expression) : Except Fault (List Operation) :=
  match left, right with
  | [.value literal], right => do
    let code ← c.expression c.next right
    return code ++ [.loadA literal]
  | left, [node] =>
    if node.isOperator then between c left [node]
    else do
      let code ← c.expression c.next left
      let load ← c.operand node
      return code ++ .swap :: load
  | left, right => between c left right
where
  /-- Both sides computed, the left one kept in a hidden slot. -/
  between (c : Compiler) (left right : Expression) : Except Fault (List Operation) := do
    let first ← c.expression c.next left
    let slot ← c.allocate c.next
    let second ← c.expression (slot + 1) right
    return first ++ (c.hidden slot).write :: second ++ [(c.hidden slot).read, .heldToA]

def compileCompare (c : Compiler) (cmd : Command) : Except Fault Compiled := do
  arity cmd 2 2
  let code ← c.comparison (cmd.args.headD []) ((cmd.args.drop 1).headD [])
  return { code := code ++ [.compare], compiler := c }

def compileExecuteIf (c : Compiler) (condition : Condition) : Compiled :=
  { code := [.executeIf (.known condition)]
    compiler := { c with blocks := { savedNext := c.next } :: c.blocks }
    hint := .opened }

def compileEndBlock (c : Compiler) : Except Fault Compiled :=
  match c.blocks with
  | [] => .error .noOpenBlock
  | block :: rest =>
    .ok { code := [.endIf], compiler := { c with blocks := rest, next := block.savedNext },
          hint := .closed }

/-- The code that evaluates arguments, checks them and writes them into the slots of the frame under
construction from `address` on. -/
def arguments (c : Compiler) (address : Nat) :
    List Expression → List ParameterKind → Except Fault (List Operation)
  | e :: args, kind :: kinds => do
    let code ← c.expression c.next e
    let more ← c.arguments (address + 1) args kinds
    return code ++ .assertKind kind :: .writeArgument address :: more
  | _, _ => .ok []

/-- Arguments go to the slots from 1 on; slot 0 will take the result. -/
def compileCall (c : Compiler) (cmd : Command) : Except Fault Compiled := do
  match c.function? cmd.name with
  | none => throw (.unknownFunction cmd.name)
  | some f =>
    if cmd.args.length ≠ f.params.length then
      throw (.callArity f.name f.params.length cmd.args.length)
    let code ← c.arguments 1 cmd.args f.params
    let start : Operation :=
      if f.callee.isPlugin then .callPlugin f.callee.pluginIndex else .startFrame
    return { code := .newFrame f.callee.frameOperand :: code ++ [start], compiler := c }

def bindParameters (address : Nat) (vars : Bindings) :
    List Parameter → Except Fault (Bindings × List ParameterKind)
  | [] => .ok (vars, [])
  | p :: rest =>
    match Kind.ofKeyword? p.kind with
    | none => .error (.unknownParameterType p.kind)
    | some kind =>
      if (vars.find? p.name).isSome then .error (.redeclaredParameter p.name)
      else do
        let (vars, kinds) ← bindParameters (address + 1) (vars.put p.name { address }) rest
        return (vars, .known kind :: kinds)

def compileFunctionStart (c : Compiler) (cmd : Command) : Except Fault Compiled := do
  if c.depth > 0 then throw (.functionInsideBlock cmd.name)
  if (c.function? cmd.name).isSome then throw (.redeclaredFunction cmd.name)
  let isEntry : Bool := cmd.name = entryName
  if isEntry && !cmd.params.isEmpty then throw (.entryParameters cmd.name)
  if cmd.params.length + 1 > c.frameSize then
    throw (.tooManyParameters cmd.name cmd.params.length)
  let (vars, kinds) ← bindParameters 1 [(returnName, { address := 0 })] cmd.params
  let (code, program) :=
    if isEntry then (entryCode, c.program) else c.program.addSegment cmd.name
  return {
    compiler :=
      { c with
        program
        function := some { code, vars, globalNext := c.next }
        functions := (cmd.name, { name := cmd.name, callee := .code code, params := kinds })
          :: c.functions
        next := cmd.params.length + 1 }
    hint := .opened }

def compileFunctionEnd (c : Compiler) : Except Fault Compiled :=
  match c.function with
  | none => .error .noOpenFunction
  | some function =>
    if c.blocks.isEmpty then
      .ok { compiler := { c with function := none, next := function.globalNext }, hint := .closed }
    else .error .blockInsideFunction

/-- Converts register `b`, or leaves a Text that was read as it is. -/
def conversion : Kind → Operation
  | .integer => .toInteger
  | .number => .toNumber
  | .text => .toText

/-- Reads a line into a variable, which is declared if it is not visible. -/
def compileInput (c : Compiler) (cmd : Command) (kind : Kind) : Except Fault Compiled := do
  arity cmd 0 0
  let code := [.readInput, .heldToB] ++ if kind = .text then [] else [conversion kind]
  match c.resolve cmd.name with
  | some symbol =>
    if symbol.readOnly then throw (.readOnlyVariable cmd.name)
    return { code := code ++ [symbol.write], compiler := c }
  | none =>
    let (symbol, c) ← c.declare cmd.name false
    return { code := code ++ [symbol.write], compiler := c }

def compileConversion (c : Compiler) (cmd : Command) (kind : Kind) : Except Fault Compiled := do
  arity cmd 0 0
  let symbol ← c.writable cmd.name
  return { code := [symbol.read, .heldToB, conversion kind, symbol.write], compiler := c }

def compileCommand (c : Compiler) (cmd : Command) : Except Fault Compiled :=
  match cmd.kind with
  | .print | .printLine | .printDebug => c.compilePrint cmd
  | .declare => c.compileDeclare cmd
  | .set => c.compileSet cmd
  | .returnValue => c.compileReturn cmd
  | .compare => c.compileCompare cmd
  | .executeIf condition => .ok (c.compileExecuteIf condition)
  | .endBlock => c.compileEndBlock
  | .call => c.compileCall cmd
  | .functionStart => c.compileFunctionStart cmd
  | .functionEnd => c.compileFunctionEnd
  | .quit => .ok { code := [.flush, .quit], compiler := c }
  | .input kind => c.compileInput cmd kind
  | .convert kind => c.compileConversion cmd kind
  | .unknown _ => .error (.unknownCommand cmd.kind)

/-- Compiles a command of a numbered line: its instructions are added to the segment that was open
before the line. -/
def compile (c : Compiler) (line : Int) (cmd : Command) : Except Error (ScopeHint × Compiler) :=
  match c.compileCommand cmd with
  | .error fault => .error (.compile line fault)
  | .ok compiled =>
    let code := compiled.code.map fun op => { op, line }
    .ok (compiled.hint,
      { compiled.compiler with program := compiled.compiler.program.append c.currentCode code })

end Birl.Compiler
