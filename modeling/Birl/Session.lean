import Birl.Command.Parse
import Birl.Compiler.Statement
import Birl.Library
import Birl.Machine.Run
import Birl.Program.Listing

/-!
# Sessions

A session takes source lines, compiles them and runs them. In batch everything is compiled first and
run as one program. Interactively each line runs as soon as no block is open, and a failure leaves
the session ready for the next line.
-/

namespace Birl

structure SessionOptions where
  frameSize : Int := 0
  /-- Run code as soon as every block is closed. -/
  interactive : Bool := false
  /-- Register the standard library. -/
  library : Bool := true
  /-- The name of the source in log events. -/
  file : Text := .empty
  input : Input := {}
  output : Output := {}
  logLevel : LogLevel := .disabled
  /-- Where the library gets identities from. -/
  identities : Nat → Text := fun _ => Library.blankIdentity

/-- A compiler, the machine that runs its program, and what happened so far. -/
structure Session where
  interactive : Bool
  file : Text
  compiler : Compiler
  machine : Machine
  /-- Number of lines fed. -/
  line : Nat := 0
  /-- Number of open blocks. -/
  depth : Nat := 0
  /-- Whether the program has quit. -/
  quit : Bool := false
  /-- Whether the entry point was called. -/
  entryRun : Bool := false
  log : Log := {}

namespace Session

/-- The session after an operation and what the operation gave. -/
abbrev Result (α : Type) := Session × Except Error α

def program (s : Session) : Program := s.compiler.program

def frameSize (s : Session) : Nat := s.machine.frameSize

def logged (s : Session) (level : LogLevel) (message : Text) (fields : List (Text × LogField)) :
    Session :=
  { s with log := s.log.add { level, message, fields } }

def registerGlobal (s : Session) (name : Text) (v : Value) (readOnly : Bool) : Result Unit :=
  match s.compiler.declareGlobal name readOnly with
  | .error fault => (s, .error (.plain fault))
  | .ok (address, compiler) =>
    let s := { s with compiler }
    match s.machine.setGlobal address v with
    | .error fault => (s, .error (.plain fault))
    | .ok machine => ({ s with machine }, .ok ())

/-- Assigns a global variable on behalf of the host, read-only ones included. -/
def setGlobal (s : Session) (name : Text) (v : Value) : Result Unit :=
  match s.compiler.global? name with
  | none => (s, .error (.plain (.unknownVariable name)))
  | some symbol =>
    match s.machine.setGlobal symbol.address v with
    | .error fault => (s, .error (.plain fault))
    | .ok machine => ({ s with machine }, .ok ())

/-- Reads a global variable; a text is copied into the machine's store. -/
def getGlobal (s : Session) (name : Text) : Result Value :=
  match s.compiler.global? name with
  | none => (s, .error (.plain (.unknownVariable name)))
  | some symbol =>
    match s.machine.getGlobal symbol.address with
    | .error fault => (s, .error (.plain fault))
    | .ok (v, machine) => ({ s with machine }, .ok v)

/-- Makes a host function callable; `call` is missing where the host gave none. -/
def registerPlugin (s : Session) (name : Text) (params : List ParameterKind)
    (call : Option Callback) : Result Unit :=
  match call with
  | none => (s, .error (.plain (.pluginWithoutFunction name)))
  | some call =>
    if (s.compiler.function? name).isSome then (s, .error (.plain (.pluginRegistered name)))
    else
      let (index, machine) := s.machine.addPlugin { name, params, call }
      let s := { s with machine }
      match s.compiler.registerPlugin name params index with
      | .error fault => (s, .error (.plain fault))
      | .ok compiler => ({ s with compiler }, .ok ())

/-- Adds what an operation was done for to its failure. -/
def naming {α : Type} (context : Text) : Result α → Result α
  | (s, .error (.plain fault)) => (s, .error (.plain (.within context fault)))
  | result => result

def registerGlobals (s : Session) : List (Text × Text) → Result Unit
  | [] => (s, .ok ())
  | (name, t) :: rest =>
    let (v, machine) := s.machine.intern (.text t)
    let s := { s with machine }
    match naming ("stdlib global " ++ name) (s.registerGlobal name v true) with
    | (s, .ok ()) => s.registerGlobals rest
    | failed => failed

def registerPlugins (s : Session) : List Plugin → Result Unit
  | [] => (s, .ok ())
  | p :: rest =>
    match naming ("stdlib plugin " ++ p.name) (s.registerPlugin p.name p.params (some p.call)) with
    | (s, .ok ()) => s.registerPlugins rest
    | failed => failed

/-- A session that has read nothing yet. It fails if the library does not fit into a frame. -/
def new (options : SessionOptions) : Except Error Session :=
  let s : Session :=
    { interactive := options.interactive
      file := options.file
      compiler := .new options.frameSize
      machine :=
        { Machine.new options.frameSize with input := options.input, output := options.output }
      log := { level := options.logLevel } }
  if options.library then
    match s.registerGlobals Library.globals with
    | (_, .error e) => .error e
    | (s, .ok ()) =>
      match s.registerPlugins (Library.plugins options.identities) with
      | (_, .error e) => .error e
      | (s, .ok ()) => .ok s
  else .ok s

/-- Runs the program from where the machine stands. -/
def runMachine (s : Session) : Result Status :=
  let log := s.machine.logRun s.program s.log
  let (machine, result) := s.machine.run s.program
  let s := { s with machine, log }
  match result with
  | .ok status => ({ s with quit := s.quit || status = .quit }, .ok status)
  | .error e => (s, .error e)

def recover (s : Session) : Session := { s with machine := s.machine.recover s.program }

def runAndRecover (s : Session) : Result Unit :=
  match s.runMachine with
  | (s, .ok _) => (s, .ok ())
  | (s, .error e) => (s.recover, .error e)

def logFunction (s : Session) (cmd : Command) : Session :=
  match cmd.kind, s.compiler.function with
  | .functionStart, some function =>
    s.logged .debug "function declared"
      [("function", .text cmd.name), ("code", .int function.code),
        ("params", .int cmd.params.length)]
  | _, _ => s

def accept (s : Session) (cmd : Command) (hint : ScopeHint) (compiler : Compiler) : Session :=
  let s := { s with compiler }.logFunction cmd
  let depth := match hint with
    | .none => s.depth
    | .opened => s.depth + 1
    | .closed => s.depth - 1
  { s with depth }.logged .debug "compiled"
    [("line", .int s.line), ("command", .text cmd.kind.name), ("depth", .int depth)]

def feed (s : Session) (source : Text) : Result Unit :=
  let s := { s with line := s.line + 1 }
  match Command.ofLine s.line source with
  | .error e => (s, .error (.malformed e))
  | .ok none => (s, .ok ())
  | .ok (some cmd) =>
    match s.compiler.compile s.line cmd with
    | .error e => (s, .error e)
    | .ok (hint, compiler) =>
      let s := s.accept cmd hint compiler
      if !s.interactive || s.depth > 0 then (s, .ok ()) else s.runAndRecover

def feedLines (s : Session) : List Text → Result Unit
  | [] => (s, .ok ())
  | line :: rest =>
    match s.feed line with
    | (s, .error e) => (s, .error e)
    | (s, .ok ()) => if s.quit then (s, .ok ()) else s.feedLines rest

def feedSource (s : Session) (source : Text) : Result Unit := s.feedLines source.lines

/-- Runs a batch program: no block may be open, and the entry point is called after the global
code. -/
def runProgram (s : Session) : Result Status :=
  if s.depth > 0 then (s, .error (.compile s.line (.blocksLeftOpen s.depth)))
  else
    let s :=
      if s.compiler.hasEntryPoint && !s.entryRun then
        { s with compiler := s.compiler.appendEntryCall s.line, entryRun := true }
      else s
    let s := s.logged .debug "running program"
      [("file", .text s.file), ("segments", .int s.program.segments.size)]
    s.runMachine

/-- Calls the entry point of an interactive session, once, if it is declared and nothing is left
open. -/
def runEntryPoint (s : Session) : Result Unit :=
  if !s.interactive || s.entryRun || s.quit || s.depth > 0 || !s.compiler.hasEntryPoint then
    (s, .ok ())
  else
    let s := { s with entryRun := true, compiler := s.compiler.appendEntryCall s.line }
    let s := s.logged .debug "calling entry point" [("line", .int s.line)]
    s.runAndRecover

def listing (s : Session) : Text := s.program.listing

def setInput (s : Session) (input : Input) : Session :=
  { s with machine := { s.machine with input } }

def takeOutput (s : Session) : Text × Session :=
  let machine := s.machine.flush.1
  (machine.output.text, { s with machine := { machine with output := machine.output.reset } })

def takeLog (s : Session) : List LogEvent × Session :=
  (s.log.toList, { s with log := { s.log with events := [] } })

end Session
end Birl
