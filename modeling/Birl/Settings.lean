import Birl.Log
import Birl.Settings.Toml
import Birl.Settings.Yaml
import Birl.Text.Case
import Birl.Text.Quoted

/-!
# Settings

What a settings file can change, its defaults, and what is refused. The ending of the file's name
chooses the notation.
-/

namespace Birl

structure Settings where
  /-- Number of slots of a frame. -/
  frameSize : Int := 256
  /-- Whether to register the standard library; not said means yes. -/
  library? : Option Bool := none
  /-- What an interactive shell shows when no block is open. -/
  prompt : Text := "birl> "
  /-- What it shows for every open block. -/
  continuationPrompt : Text := "..   "
  /-- Where it keeps the lines it has read; empty for nowhere. -/
  historyFile : Text := .empty
  /-- Whether to log every instruction. -/
  trace : Bool := false
  logLevel : Text := "warn"
  logFormat : Text := "console"
  /-- The file that the settings come from; empty for the defaults. -/
  path : Text := .empty
  deriving DecidableEq, Repr, Inhabited

inductive SettingsError where
  /-- The file is malformed, or a key has a value of the wrong type. -/
  | unreadable
  | negativeFrame
  | smallFrame
  | unknownLevel (name : Text)
  | unknownFormat (name : Text)
  deriving DecidableEq, Repr

def SettingsError.message (path : Text) : SettingsError → Text
  | unreadable => "parsing " ++ path ++ ": malformed settings"
  | negativeFrame => path ++ ": frame_size must not be negative"
  | smallFrame => path ++ ": frame_size must leave room for the return slot"
  | unknownLevel name => path ++ ": log.level " ++ name.quoted ++ " is not a known level"
  | unknownFormat name => path ++ ": log.format " ++ name.quoted ++ " must be console or json"

namespace Settings

def libraryEnabled (s : Settings) : Bool := s.library?.getD true

/-! ## Reading entries

A field that a file does not set is zero, false or empty, and so is one that it sets to null. -/

structure Fields where
  frameSize : Int := 0
  library? : Option Bool := none
  prompt : Text := .empty
  continuationPrompt : Text := .empty
  historyFile : Text := .empty
  trace : Bool := false
  logLevel : Text := .empty
  logFormat : Text := .empty

/-- The value of a field of a single type, which keeps its old value under a null. -/
def read {α : Type} (old : α) (take : Scalar → Option α) : Entry → Except SettingsError α
  | .null => .ok old
  | .scalar s => match take s with
    | some a => .ok a
    | none => .error .unreadable
  | _ => .error .unreadable

/-- How a notation finds the field that a key means. -/
abbrev KeyMatch := Text → Text → Bool

def exactKey : KeyMatch := fun key field => key = field

/-- The letters that differ only by case from a small letter of the Latin alphabet, as that
letter. -/
def foldLetter (c : Char) : Char :=
  if c == '\u017F' then 's' else if c == '\u212A' then 'k' else c.toLower

def anyCaseKey : KeyMatch := fun key field => key.mapChars foldLetter = field

def readLog (keyMatch : KeyMatch) (f : Fields) (key : Text) (e : Entry) :
    Except SettingsError Fields := do
  if keyMatch key "level" then return { f with logLevel := ← read f.logLevel (·.text?) e }
  else if keyMatch key "format" then return { f with logFormat := ← read f.logFormat (·.text?) e }
  else return f

/-- Whether no key stands twice in a table. -/
def distinctKeys (entries : List (Text × Entry)) : Bool := decide (entries.map Prod.fst).Nodup

/-- Reads every entry of a table; unknown keys are passed over. -/
def readTable (field : Fields → Text → Entry → Except SettingsError Fields) (f : Fields) :
    Entry → Except SettingsError Fields
  | .null => .ok f
  | .table entries =>
    if distinctKeys entries then entries.foldlM (fun f (key, e) => field f key e) f
    else .error .unreadable
  | _ => .error .unreadable

def readField (keyMatch : KeyMatch) (f : Fields) (key : Text) (e : Entry) :
    Except SettingsError Fields := do
  if keyMatch key "frame_size" then
    return { f with frameSize := ← read f.frameSize (·.integer?) e }
  else if keyMatch key "stdlib" then
    return { f with library? := ← read none (·.truth?.map some) e }
  else if keyMatch key "prompt" then return { f with prompt := ← read f.prompt (·.text?) e }
  else if keyMatch key "continuation_prompt" then
    return { f with continuationPrompt := ← read f.continuationPrompt (·.text?) e }
  else if keyMatch key "history_file" then
    return { f with historyFile := ← read f.historyFile (·.text?) e }
  else if keyMatch key "trace" then return { f with trace := ← read f.trace (·.truth?) e }
  else if keyMatch key "log" then readTable (readLog keyMatch) f e
  else return f

/-! ## Checks and defaults -/

/-- The names of log levels that a file may use; empty stands for the default. -/
def levelNames : List Text := ["", "trace", "debug", "info", "warn", "error", "disabled"]

def formatNames : List Text := ["", "console", "json"]

def Fields.check (f : Fields) : Except SettingsError Unit :=
  if f.frameSize < 0 then .error .negativeFrame
  else if f.frameSize ≠ 0 ∧ f.frameSize < 2 then .error .smallFrame
  else if !levelNames.contains f.logLevel.lower then .error (.unknownLevel f.logLevel)
  else if !formatNames.contains f.logFormat.lower then .error (.unknownFormat f.logFormat)
  else .ok ()

/-- The settings of a file: what it leaves empty is the default. -/
def ofFields (path : Text) (f : Fields) : Settings :=
  let defaults : Settings := {}
  let orElse (t default : Text) : Text := if t.isEmpty then default else t
  { frameSize := if f.frameSize = 0 then defaults.frameSize else f.frameSize
    library? := f.library?
    prompt := orElse f.prompt defaults.prompt
    continuationPrompt := orElse f.continuationPrompt defaults.continuationPrompt
    historyFile := f.historyFile
    trace := f.trace
    logLevel := orElse f.logLevel defaults.logLevel
    logFormat := orElse f.logFormat defaults.logFormat
    path }

/-- The ending of a file name: from the last point of its last part, the point included. -/
def extension (path : Text) : Text :=
  let slash : UInt8 := 47
  let point : UInt8 := 46
  let name := (path.bytes.reverse.takeWhile (· != slash)).reverse
  if name.contains point then ⟨point :: (name.reverse.takeWhile (· != point)).reverse⟩ else .empty

def isToml (path : Text) : Bool := (extension path).mapChars Char.toLower = ".toml"

def parse (path content : Text) : Except SettingsError Settings := do
  let (document, keyMatch) :=
    if isToml path then (Toml.document? content, anyCaseKey)
    else (Yaml.document? content, exactKey)
  match document with
  | none => .error .unreadable
  | some e =>
    let f ← readTable (readField keyMatch) {} e
    f.check
    return ofFields path f

end Settings
end Birl
