import Birl.Text

/-!
# Options of the command

The arguments of the `birl` command. Whatever is no option names a source file, and so does
everything after `--`.
-/

namespace Birl.CommandLine

def usageLines : List String :=
  ["Usage: birl [options] [file.birl ...]",
    "",
    "Options:",
    "  -h, --help             show this help",
    "  -v, --version          print the version",
    "  -i, --interactive      read lines interactively after running the given sources",
    "  -e, --eval <source>    run source text (may be repeated)",
    "  -f, --file <path>      run a source file (may be repeated)",
    "      --no-stdlib        do not register the standard library",
    "      --dump             print the compiled code before running it",
    "      --fmt              print the sources in canonical form instead of running them",
    "      --trace            log every executed instruction",
    "      --verbose          log at debug level",
    "      --config <path>    read settings from this file instead of searching for birl.yaml",
    "",
    "With no sources, birl starts an interactive shell when stdin is a terminal",
    "and otherwise reads the program from stdin."]

def usage : Text := Text.concat (usageLines.map fun line => Text.ofString line ++ "\n")

inductive Origin where
  | given (text : Text)
  | standardInput
  | file (path : Text)
  deriving DecidableEq, Repr

namespace Origin

/-- The origin that a path on the command line names; no path names no text. -/
def ofPath (path : Text) : Origin :=
  if path.isEmpty then given .empty else if path = "-" then standardInput else file path

def path : Origin → Text
  | given _ => .empty
  | standardInput => "-"
  | file path => path

end Origin

structure Source where
  name : Text
  origin : Origin
  deriving DecidableEq, Repr

/-- The program on standard input, where no source is named. -/
def Source.standardInput : Source := ⟨"<stdin>", .standardInput⟩

def Source.ofPath (path : Text) : Source := ⟨path, .ofPath path⟩

def Source.ofText (n : Nat) (text : Text) : Source :=
  ⟨"<eval " ++ Text.ofNat n ++ ">", .given text⟩

structure Options where
  help : Bool := false
  version : Bool := false
  interactive : Bool := false
  noLibrary : Bool := false
  dump : Bool := false
  format : Bool := false
  trace : Bool := false
  verbose : Bool := false
  /-- The settings file; empty for none named. -/
  settingsPath : Text := .empty
  /-- In the order in which they were named. -/
  sources : List Source := []
  deriving DecidableEq, Repr

inductive UsageError where
  | missingValue (flag : Text)
  | unknownFlag (flag : Text)
  deriving DecidableEq, Repr

def UsageError.message : UsageError → Text
  | missingValue flag => "flag " ++ flag ++ " needs a value"
  | unknownFlag flag => "unknown flag " ++ flag

namespace Options

def addSource (o : Options) (source : Source) : Options :=
  { o with sources := o.sources ++ [source] }

def addPath (o : Options) (path : Text) : Options := o.addSource (.ofPath path)

def switch? (o : Options) (flag : Text) : Option Options :=
  if flag = "-h" ∨ flag = "-help" ∨ flag = "--help" then some { o with help := true }
  else if flag = "-v" ∨ flag = "-version" ∨ flag = "--version" then
    some { o with version := true }
  else if flag = "-i" ∨ flag = "--interactive" then some { o with interactive := true }
  else if flag = "--no-stdlib" then some { o with noLibrary := true }
  else if flag = "--dump" then some { o with dump := true }
  else if flag = "--fmt" then some { o with format := true }
  else if flag = "--trace" then some { o with trace := true }
  else if flag = "--verbose" then some { o with verbose := true }
  else none

/-- What an option with a value sets; `texts` texts were given before. -/
def setting? (o : Options) (texts : Nat) (flag : Text) : Option (Text → Options × Nat) :=
  if flag = "--config" then some fun value => ({ o with settingsPath := value }, texts)
  else if flag = "-e" ∨ flag = "--eval" then
    some fun value => (o.addSource (.ofText (texts + 1) value), texts + 1)
  else if flag = "-f" ∨ flag = "--file" then some fun value => (o.addPath value, texts)
  else none

def isFlag (arg : Text) : Bool := arg.startsWith "-" && arg ≠ "-"

/-- Reads arguments after some that gave `o`, `texts` texts among them. -/
def parseFrom (o : Options) (texts : Nat) : List Text → Except UsageError Options
  | [] => .ok o
  | arg :: rest =>
    match o.switch? arg with
    | some o => o.parseFrom texts rest
    | none =>
      match o.setting? texts arg with
      | some assign =>
        match rest with
        | [] => .error (.missingValue arg)
        | value :: rest => (assign value).1.parseFrom (assign value).2 rest
      | none =>
        if arg = "--" then .ok (rest.foldl addPath o)
        else if isFlag arg then .error (.unknownFlag arg)
        else (o.addPath arg).parseFrom texts rest

def parse (args : List Text) : Except UsageError Options := parseFrom {} 0 args

end Options
end Birl.CommandLine
