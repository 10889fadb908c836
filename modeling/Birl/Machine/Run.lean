import Birl.Log
import Birl.Machine.Step

/-!
# Runs of the machine

A run steps until the global code halts, the program quits or a step fails. There are no backward
jumps and the depth of calls is bounded, so the number of steps of any run is bounded, if only by a
power of the length of the code.
-/

namespace Birl.Machine

/-- A bound on the number of steps of a run: lists of at most `maxCallDepth` positions in the code,
the deepest call least significant, only ever go down. -/
def stepBound (p : Program) : Nat :=
  let longest := p.segments.foldl (fun n s => max n s.code.size) 0
  Nat.pow (longest + 2) maxCallDepth

/-- At most so many steps, up to a final status or a failure. -/
def runFor (p : Program) : (steps : Nat) → Machine → Machine × Except Error Status
  | 0, m => (m, .ok .normal)
  | steps + 1, m =>
    match step p m with
    | (m, .ok status) => if status.isFinal then (m, .ok status) else runFor p steps m
    | (m, .error e) => (m, .error e)

/-- Runs to the end and shows what was printed. -/
def run (p : Program) (m : Machine) : Machine × Except Error Status :=
  let (m, result) := runFor p (stepBound p) m
  (m.flush.1, result)

def stepEvent (segment : Segment) (instruction : Instruction) (m : Machine) : LogEvent :=
  { level := .trace
    message := "step"
    fields :=
      [("func", .text segment.name), ("pc", .int m.current.pc),
        ("op", .text instruction.op.name), ("depth", .int m.depth),
        ("skip", .int m.current.skip)] }

def pluginEvents (m : Machine) : Operation → List LogEvent
  | .callPlugin index =>
    match m.plugin? index, m.calls with
    | some plugin, frame :: _ =>
      let count := plugin.params.length
      match frame.owner, frame.ready, (loadArguments frame m.texts 1 count).1 with
      | .plugin, false, .ok _ =>
        [{ level := .debug
           message := "calling plugin"
           fields := [("plugin", .text plugin.name), ("args", .int count)] }]
      | _, _, _ => []
    | _, _ => []
  | _ => []

def announce (p : Program) (m : Machine) : List LogEvent :=
  match m.segment? p with
  | none => []
  | some segment =>
    match segment.code[m.current.pc]? with
    | none => []
    | some instruction =>
      stepEvent segment instruction m ::
        if m.current.skip > 0 then [] else m.pluginEvents instruction.op

def logFor (p : Program) : (steps : Nat) → Machine → Log → Log
  | 0, _, log => log
  | steps + 1, m, log =>
    let log := log.addAll (m.announce p)
    match step p m with
    | (m, .ok status) => if status.isFinal then log else logFor p steps m log
    | (_, .error _) => log

/-- Adds what is told of a run to a log; a log that admits none of it stays as it is. -/
def logRun (p : Program) (m : Machine) (log : Log) : Log :=
  if log.level.admits .debug then logFor p (stepBound p) m log else log

end Birl.Machine
