import Birl.Frame
import Birl.Program
import Birl.Stream

/-!
# The machine

The state of a running program: a stack of frames, three registers, the texts the registers refer
to, the plugins of the host, and the streams. The frame of the global code is always there and can
always run; the frames of calls lie above it.
-/

namespace Birl

def maxCallDepth : Nat := 4096

def defaultFrameSize : Nat := 256

/-- The number of slots for a requested number: a frame needs two at least. -/
def frameSizeFor (requested : Int) : Nat :=
  if requested < 2 then defaultFrameSize else requested.toNat

/-- A host function. It sees the machine's texts and the arguments in order; a Text it returns must
be in the store it leaves behind. -/
abbrev Callback := TextStore → List Value → Except Fault Value × TextStore

structure Plugin where
  name : Text
  params : List ParameterKind := []
  call : Callback

inductive Status where
  | normal
  | returned
  | halt
  | quit
  deriving DecidableEq, Repr, Inhabited

namespace Status

def name : Status → Text
  | normal => "Normal"
  | returned => "Returned"
  | halt => "Halt"
  | quit => "Quit"

def ofCode : Int → Status
  | 1 => returned
  | 2 => halt
  | 3 => quit
  | _ => normal

def isFinal : Status → Bool
  | halt | quit => true
  | _ => false

end Status

structure Machine where
  frameSize : Nat
  /-- The frame of the global code. -/
  global : Frame
  /-- The frames above it, the last one first. -/
  calls : List Frame := []
  a : Value := .null
  b : Value := .null
  held : Value := .null
  texts : TextStore := {}
  plugins : Array Plugin := #[]
  input : Input := {}
  output : Output := {}

namespace Machine

def new (requestedFrameSize : Int) : Machine :=
  let size := frameSizeFor requestedFrameSize
  { frameSize := size, global := { Frame.new (.code globalCode) size with ready := true } }

def depth (m : Machine) : Nat := m.calls.length + 1

/-- The last frame of a stack that can run; those above it are under construction. -/
def lastReady? (calls : List Frame) : Option Frame := calls.find? Frame.ready

/-- The frame whose code runs. -/
def current (m : Machine) : Frame := (lastReady? m.calls).getD m.global

def modifyLastReady (f : Frame → Frame) : List Frame → Option (List Frame)
  | [] => none
  | frame :: rest =>
    if frame.ready then some (f frame :: rest) else (modifyLastReady f rest).map (frame :: ·)

def modifyCurrent (m : Machine) (f : Frame → Frame) : Machine :=
  match modifyLastReady f m.calls with
  | some calls => { m with calls }
  | none => { m with global := f m.global }

def top (m : Machine) : Frame := m.calls.head?.getD m.global

def addPlugin (m : Machine) (p : Plugin) : Nat × Machine :=
  (m.plugins.size, { m with plugins := m.plugins.push p })

def intern (m : Machine) (k : Constant) : Value × Machine :=
  let (v, texts) := m.texts.intern k
  (v, { m with texts })

def globalAddress (m : Machine) (address : Int) : Except Fault Nat :=
  if 0 ≤ address ∧ address < m.frameSize then .ok address.toNat
  else .error (.badGlobalAddress address)

def setGlobal (m : Machine) (address : Int) (v : Value) : Except Fault Machine := do
  let address ← m.globalAddress address
  let global ← m.global.store address v m.texts
  return { m with global }

/-- Reads a slot of the global frame; a text is copied into the machine's store. -/
def getGlobal (m : Machine) (address : Int) : Except Fault (Value × Machine) := do
  let address ← m.globalAddress address
  let (v, texts) ← m.global.load address m.texts
  return (v, { m with texts })

/-- Empties the output buffer, and tells whether the sink took it. -/
def flush (m : Machine) : Machine × Bool :=
  let (output, ok) := m.output.flush
  ({ m with output }, ok)

/-- Makes the machine runnable again after a failure: calls are dropped, registers cleared, and the
global code goes on after its last instruction. Globals keep their values. -/
def recover (p : Program) (m : Machine) : Machine :=
  { m with
    global := { m.global with pc := p.globalLength, skip := 0 }
    calls := []
    a := .null
    b := .null
    held := .null
    output := m.output.flush.1 }

end Machine
end Birl
