import Birl.Machine
import Birl.Machine.Arithmetic

/-!
# Steps of the machine

One step runs one instruction of the current frame, or leaves a function whose code is at its end.
While a frame skips a block its instructions only count the blocks opened and closed.
-/

namespace Birl.Machine

/-- The machine after an operation and how the operation ended. -/
abbrev Outcome := Machine × Except Fault Status

def fail (m : Machine) (fault : Fault) : Outcome := (m, .error fault)

def done (m : Machine) : Outcome := (m, .ok .normal)

def setB (m : Machine) : StoreResult → Outcome
  | (.ok v, texts) => done { m with b := v, texts }
  | (.error fault, texts) => fail { m with texts } fault

def readSlot (m : Machine) (frame : Frame) (operand : Int) : Outcome :=
  match frame.address operand with
  | .error fault => fail m fault
  | .ok address =>
    match frame.load address m.texts with
    | .error fault => fail m fault
    | .ok (v, texts) => done { m with held := v, texts }

def writeSlot (m : Machine) (frame : Frame) (operand : Int) : Except Fault Frame := do
  let address ← frame.address operand
  frame.store address m.b m.texts

def leave (m : Machine) : Machine × Except Fault Unit :=
  match m.calls with
  | [] => (m, .ok ())
  | frame :: rest =>
    if frame.ready then
      let m := { m with calls := rest }
      match m.current.store 0 m.b m.texts with
      | .ok caller => (m.modifyCurrent fun _ => caller, .ok ())
      | .error fault => (m, .error fault)
    else (m, .error .returnUnderConstruction)

/-- The values of the first slots of a frame after slot 0, copied into a store. -/
def loadArguments (frame : Frame) (texts : TextStore) (address : Nat) :
    (count : Nat) → Except Fault (List Value) × TextStore
  | 0 => (.ok [], texts)
  | count + 1 =>
    match frame.load address texts with
    | .error fault => (.error fault, texts)
    | .ok (v, texts) =>
      let (rest, texts) := loadArguments frame texts (address + 1) count
      (rest.map (v :: ·), texts)

def plugin? (m : Machine) (index : Int) : Option Plugin :=
  if 0 ≤ index then m.plugins[index.toNat]? else none

/-- Hands the arguments in the plugin frame on top to a plugin and stores its result in slot 0 of the
current frame. -/
def callPlugin (m : Machine) (index : Int) : Outcome :=
  match m.plugin? index with
  | none => fail m (.unknownPlugin index)
  | some plugin =>
    match m.calls with
    | [] => fail m .pluginWithoutFrame
    | frame :: rest =>
      if frame.owner ≠ .plugin || frame.ready then fail m .pluginWithoutFrame
      else
        let m := { m with calls := rest }
        match loadArguments frame m.texts 1 plugin.params.length with
        | (.error fault, texts) => fail { m with texts } fault
        | (.ok args, texts) =>
          match plugin.call texts args with
          | (.error fault, texts) => fail { m with texts } (.within plugin.name fault)
          | (.ok v, texts) =>
            let m := { m with texts }
            match m.current.store 0 v m.texts with
            | .ok caller => done (m.modifyCurrent fun _ => caller)
            | .error fault => fail m fault

def pushFrame (p : Program) (m : Machine) (code : Int) : Outcome :=
  if maxCallDepth ≤ m.depth then fail m .callStackOverflow
  else if code = -1 then
    done { m with calls := Frame.new .plugin m.frameSize :: m.calls }
  else if p.hasCode code then
    done { m with calls := Frame.new (.code code.toNat) m.frameSize :: m.calls }
  else fail m (.noCode code)

/-- Lets the frame under construction run. -/
def startFrame (m : Machine) : Outcome :=
  match m.calls with
  | [] => fail m .noFrameUnderConstruction
  | frame :: rest =>
    if frame.ready || frame.owner = .plugin then fail m .noFrameUnderConstruction
    else done { m with calls := { frame with ready := true } :: rest }

def writeArgument (m : Machine) (operand : Int) : Outcome :=
  match m.calls with
  | [] => fail m .noFrameUnderConstruction
  | frame :: rest =>
    if frame.ready then fail m .noFrameUnderConstruction
    else
      match m.writeSlot frame operand with
      | .ok frame => done { m with calls := frame :: rest }
      | .error fault => fail m fault

/-- Reads a line of input, without its end, into the held register. What was printed is shown first. -/
def readInput (m : Machine) : Outcome :=
  let (line, input) := m.input.readLine
  let m := { m with output := m.output.flush.1, input }
  match line with
  | .failed _ => fail m (.readingInput inputBroken)
  | .full t | .last t =>
    let (v, m) := m.intern (.text t.chomp)
    done { m with held := v }

def emit (m : Machine) : Except Fault Text → Outcome
  | .ok t => done { m with output := m.output.write t }
  | .error fault => fail m fault

def execute (p : Program) (m : Machine) : Operation → Outcome
  | .loadA k =>
    let (v, m) := m.intern k
    done { m with a := v }
  | .loadB k =>
    let (v, m) := m.intern k
    done { m with b := v }
  | .heldToA => done { m with a := m.held }
  | .heldToB => done { m with b := m.held }
  | .swap => done { m with a := m.b, b := m.a }
  | .clear => done { m with a := .null, b := .null, held := .null }
  | .arith op => m.setB (m.texts.arithmetic op m.a m.b)
  | .compare =>
    match m.texts.compare m.a m.b with
    | .ok comparison => done (m.modifyCurrent fun frame => { frame with comparison })
    | .error fault => fail m fault
  | .executeIf requirement =>
    if requirement.holds m.current.comparison then done m
    else done (m.modifyCurrent fun frame => { frame with skip := 1 })
  | .endIf => done m
  | .readLocal operand => m.readSlot m.current operand
  | .writeLocal operand =>
    match m.writeSlot m.current operand with
    | .ok frame => done (m.modifyCurrent fun _ => frame)
    | .error fault => fail m fault
  | .readGlobal operand => m.readSlot m.global operand
  | .writeGlobal operand =>
    match m.writeSlot m.global operand with
    | .ok global => done { m with global }
    | .error fault => fail m fault
  | .writeArgument operand => m.writeArgument operand
  | .newFrame code => pushFrame p m code
  | .assertKind kind =>
    match m.b.assertKind kind with
    | .ok v => done { m with b := v }
    | .error fault => fail m fault
  | .startFrame => m.startFrame
  | .callPlugin index => m.callPlugin index
  | .returnValue =>
    if m.calls.isEmpty then (m, .ok .halt)
    else
      match m.leave with
      | (m, .ok ()) => (m, .ok .returned)
      | (m, .error fault) => fail m fault
  | .readInput => m.readInput
  | .toInteger => m.setB (m.texts.toInteger m.b)
  | .toNumber => m.setB (m.texts.toNumber m.b)
  | .toText => m.setB (m.texts.toText m.b)
  | .print => m.emit (m.texts.display m.b)
  | .printDebug => m.emit (m.texts.inspect m.b)
  | .newLine => done { m with output := m.output.write "\n" }
  | .flush =>
    let (m, ok) := m.flush
    if ok then done m else fail m (.writingOutput outputBroken)
  | .quit => (m, .ok .quit)
  | .unknown code => fail m (.unknownOpcode code)

/-- The number of skipped blocks after an instruction that is skipped. -/
def skipAfter (skip : Nat) : Operation → Nat
  | .executeIf _ => skip + 1
  | .endIf => skip - 1
  | _ => skip

/-- The id of the code of a frame; a plugin frame has none. -/
def codeId (frame : Frame) : Int :=
  match frame.owner with
  | .code id => id
  | .plugin => -1

def segment? (p : Program) (m : Machine) : Option Segment :=
  match m.current.owner with
  | .code id => p.segment? id
  | .plugin => none

/-- One step. A function whose code is at its end returns Null; the global code halts there. -/
def step (p : Program) (m : Machine) : Machine × Except Error Status :=
  match m.segment? p with
  | none => (m, .error (.plain (.noCode (codeId m.current))))
  | some segment =>
    match segment.code[m.current.pc]? with
    | none =>
      if m.calls.isEmpty then (m, .ok .halt)
      else
        match { m with b := .null }.leave with
        | (m, .ok ()) => (m, .ok .returned)
        | (m, .error fault) => (m, .error (.runtime 0 segment.name fault))
    | some instruction =>
      let skip := m.current.skip
      let m := m.modifyCurrent fun frame => { frame with pc := frame.pc + 1 }
      if skip > 0 then
        (m.modifyCurrent fun frame => { frame with skip := skipAfter skip instruction.op },
          .ok .normal)
      else
        match execute p m instruction.op with
        | (m, .ok status) => (m, .ok status)
        | (m, .error fault) => (m, .error (.runtime instruction.line segment.name fault))

end Birl.Machine
