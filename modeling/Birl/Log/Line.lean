import Birl.Log
import Birl.Text.Quoted

/-!
# Lines of a log

How a log event is written: as a JSON object for programs, or as words for a reader.
-/

namespace Birl

namespace Json

def escape (c : Char) : List Char :=
  match c with
  | '"' => ['\\', '"']
  | '\\' => ['\\', '\\']
  | '\n' => ['\\', 'n']
  | '\r' => ['\\', 'r']
  | '\t' => ['\\', 't']
  | c => if c.toNat < 0x20 then '\\' :: 'u' :: Quoted.hex 4 c.toNat else [c]

def string (t : Text) : Text := .ofChars ('"' :: t.chars.flatMap escape ++ ['"'])

def object (members : List (Text × Text)) : Text :=
  "\x7b" ++ Text.join "," (members.map fun (key, member) => string key ++ ":" ++ member) ++ "\x7d"

end Json

def LogField.json : LogField → Text
  | text t => Json.string t
  | int n => Text.ofInt n
  | bool b => if b then "true" else "false"

def LogField.plain : LogField → Text
  | text t => t
  | field => field.json

namespace LogEvent

def jsonLine (e : LogEvent) : Text :=
  let level : Text × Text := ("level", Json.string e.level.name)
  let message : Text × Text := ("message", Json.string e.message)
  let fields := e.fields.map fun (key, field) => (key, field.json)
  Json.object (level :: fields ++ [message]) ++ "\n"

def plainLine (e : LogEvent) : Text :=
  Text.join " " (e.level.name :: e.message ::
    e.fields.map fun (key, field) => key ++ "=" ++ field.plain) ++ "\n"

end LogEvent
end Birl
