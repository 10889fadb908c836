import Birl.CommandLine.Options
import Birl.CommandLine.Report
import Birl.Session
import Birl.Settings.Search
import Birl.Source.Extension
import Birl.Source.Format

/-!
# The command

What the `birl` command does with its arguments, its standard input and the files around it: run
sources as one program, run them line by line and go on with standard input, or write them in
canonical form.
-/

namespace Birl.CommandLine

structure Surroundings where
  files : Files
  /-- The working directory and those above it, the nearest first. -/
  directories : List Text
  input : Input
  identities : Nat → Text := fun _ => Library.blankIdentity

inductive ExitCode where
  | ok
  | failure
  | usage
  deriving DecidableEq, Repr

def ExitCode.toNat : ExitCode → Nat
  | ok => 0
  | failure => 1
  | usage => 2

inductive Notice where
  | message (t : Text)
  | event (e : LogEvent)
  deriving DecidableEq, Repr

structure Outcome where
  code : ExitCode
  /-- Standard output. -/
  out : Text := .empty
  /-- Standard error. -/
  notices : List Notice := []
  /-- Whether log events are written as JSON rather than for a reader. -/
  jsonLog : Bool := false
  deriving DecidableEq, Repr

def noticesOf (log : Log) : List Notice := log.toList.map .event

def override (o : Options) (s : Settings) : Settings :=
  let s := if o.noLibrary then { s with library? := some false } else s
  let s := if o.trace then { s with trace := true } else s
  if s.trace then { s with logLevel := "trace" }
  else if o.verbose then { s with logLevel := "debug" }
  else s

/-! ## Sources -/

def readSource (files : Files) (input : Input) (log : Log) (source : Source) :
    Except Text Text × Input × Log :=
  match source.origin with
  | .given text => (.ok text, input, log)
  | .standardInput =>
    let (text, input) := input.drain
    (text.mapError ("reading stdin: " ++ ·), input, log)
  | .file path =>
    let log :=
      if Source.hasExtension path then log
      else log.add
        { level := .warn
          message := "unrecognized source file extension"
          fields := [("file", .text path)] }
    ((files path).mapError (·.message path), input, log)

inductive Failure where
  | unreadable (message : Text)
  | failed (e : Error)
  deriving DecidableEq, Repr

def Failure.report (spans : List Span) : Failure → Text
  | unreadable message => unplaced message
  | failed e => CommandLine.report spans e

structure Feeding where
  session : Session
  /-- In the order in which the sources were fed. -/
  spans : List Span := []

namespace Feeding

def feedAll (files : Files) (f : Feeding) : List Source → Feeding × Option Failure
  | [] => (f, none)
  | source :: rest =>
    let s := f.session
    let (read, input, log) := readSource files s.machine.input s.log source
    let s := { s.setInput input with log }
    match read with
    | .error message => ({ f with session := s }, some (.unreadable message))
    | .ok text =>
      let first := s.line + 1
      let (s, result) := s.feedSource text
      let f : Feeding := { session := s, spans := f.spans ++ [⟨source.name, first, s.line⟩] }
      match result with
      | .error e => (f, some (.failed e))
      | .ok () => if s.quit then (f, none) else feedAll files f rest

end Feeding

/-! ## Ways to run -/

structure Run where
  options : Options
  settings : Settings
  surroundings : Surroundings

namespace Run

def log (r : Run) : Log :=
  ({ level := .ofName r.settings.logLevel } : Log).add
    { level := .debug
      message := "settings resolved"
      fields :=
        [("config", .text r.settings.path), ("frame_size", .int r.settings.frameSize),
          ("stdlib", .bool r.settings.libraryEnabled)] }

def newSession (r : Run) (interactive : Bool) (file : Text) : Except Error Session := do
  let s ← Session.new
    { frameSize := r.settings.frameSize
      interactive
      library := r.settings.libraryEnabled
      file
      input := r.surroundings.input
      logLevel := .ofName r.settings.logLevel
      identities := r.surroundings.identities }
  return { s with log := r.log }

def unstarted (r : Run) (e : Error) : Outcome :=
  { code := .failure, notices := noticesOf r.log ++ [.message (unplaced e.message)] }

def finish (s : Session) (out : Text) (notices : List Notice) (message : Option Text)
    (code : ExitCode) : Outcome :=
  { code
    out := out ++ s.takeOutput.1
    notices := notices ++ noticesOf s.log ++ (message.map Notice.message).toList }

/-- Compiles the sources as one program and runs it. Input commands of a program that comes from
standard input find it empty. -/
def batch (r : Run) (sources : List Source) : Outcome :=
  match r.newSession false ((sources.head?.map (·.origin.path)).getD .empty) with
  | .error e => r.unstarted e
  | .ok s =>
    let (f, failure) := Feeding.feedAll r.surroundings.files { session := s } sources
    match failure with
    | some failure => finish f.session .empty [] (some (failure.report f.spans)) .failure
    | none =>
      let listing := if r.options.dump then f.session.listing else .empty
      match f.session.runProgram with
      | (s, .error e) => finish s listing [] (some (report f.spans e)) .failure
      | (s, .ok _) => finish s listing [] none .ok

structure Reading where
  session : Session
  notices : List Notice
  code : ExitCode

/-- Reads lines from standard input and runs them one by one, until the input ends or the program
quits. A line takes at least its line feed from the input, so `fuel` bounds their number. -/
def readLines (spans : List Span) : (fuel : Nat) → Reading → Reading
  | 0, r => r
  | fuel + 1, r =>
    if r.session.quit then r
    else
      let (line, input) := r.session.machine.input.readLine
      let s := r.session.setInput input
      let feed (text : Text) : Reading :=
        match s.feed text.chomp with
        | (s, .ok ()) => { r with session := s }
        | (s, .error e) =>
          let (events, s) := s.takeLog
          { session := s
            notices := r.notices ++ events.map .event ++ [.message (report spans e)]
            code := .failure }
      match line with
      | .full text => readLines spans fuel (feed text)
      | .last text => if text.isEmpty then { r with session := s } else feed text
      | .failed text =>
        let r := if text.isEmpty then { r with session := s } else feed text
        let (events, s) := r.session.takeLog
        { session := s
          notices := r.notices ++ events.map .event ++ [.message (unplaced inputBroken)]
          code := .failure }

/-- Runs the sources line by line, calls the entry point if they declare it, and goes on with the
lines of standard input. An entry point that those declare is called when the input ends. -/
def interactive (r : Run) : Outcome :=
  match r.newSession true .empty with
  | .error e => r.unstarted e
  | .ok s =>
    let (f, failure) := Feeding.feedAll r.surroundings.files { session := s } r.options.sources
    match failure with
    | some failure => finish f.session .empty [] (some (failure.report f.spans)) .failure
    | none =>
      match f.session.runEntryPoint with
      | (s, .error e) => finish s .empty [] (some (report f.spans e)) .failure
      | (s, .ok ()) =>
        if s.quit then finish s .empty [] none .ok
        else
          let left := s.machine.input
          let fuel := left.buffered.length + left.source.length + 1
          let reading := readLines f.spans fuel ⟨s, [], .ok⟩
          match reading.session.runEntryPoint with
          | (s, .error e) => finish s .empty reading.notices (some (report f.spans e)) .failure
          | (s, .ok ()) => finish s .empty reading.notices none reading.code

def format (r : Run) (input : Input) (log : Log) (out : List Text) : List Source → Outcome
  | [] => { code := .ok, out := .concat out.reverse, notices := noticesOf log }
  | source :: rest =>
    let (read, input, log) := readSource r.surroundings.files input log source
    let fail (message : Text) : Outcome :=
      { code := .failure
        out := .concat out.reverse
        notices := noticesOf log ++ [.message message] }
    match read with
    | .error message => fail (unplaced message)
    | .ok text =>
      match Birl.format text with
      | .error e => fail (atLine source.name e.line e.description)
      | .ok formatted => r.format input log (formatted :: out) rest

end Run

def run (around : Surroundings) (args : List Text) : Outcome :=
  match Options.parse args with
  | .error e =>
    { code := .usage, notices := [.message ("birl: " ++ e.message ++ "\n\n" ++ usage)] }
  | .ok options =>
    if options.help then { code := .ok, out := usage }
    else if options.version then { code := .ok, out := "birl " ++ version ++ "\n" }
    else
      match Settings.resolve around.files options.settingsPath around.directories with
      | .error message => { code := .failure, notices := [.message (unplaced message)] }
      | .ok settings =>
        let r : Run := ⟨options, override options settings, around⟩
        let sources := if options.sources.isEmpty then [.standardInput] else options.sources
        let outcome :=
          if options.format then r.format around.input r.log [] sources
          else if options.interactive then r.interactive
          else r.batch sources
        { outcome with jsonLog := settings.logFormat.lower = "json" }

end Birl.CommandLine
