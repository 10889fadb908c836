import Birl.Fault

/-!
# Reports of errors

A session numbers the lines of all its sources in one row. A report names the source that a line
came from and the line within that source.
-/

namespace Birl.CommandLine

/-- The lines of a session that came from one source. -/
structure Span where
  name : Text
  first : Nat
  last : Nat
  deriving DecidableEq, Repr

def Span.holds (s : Span) (line : Int) : Bool := s.first ≤ line && line ≤ s.last

/-- The source that a line came from and the number of the line in it. -/
def locate (spans : List Span) (line : Int) : Option (Text × Int) :=
  (spans.find? (·.holds line)).map fun s => (s.name, line - s.first + 1)

/-- The line that an error belongs to, if there is one, and its message without the line. -/
def describe : Error → Option Int × Text
  | .malformed e => (some e.line, e.description)
  | .compile line fault => (some line, fault.message)
  | .runtime line function fault =>
    (some line, "runtime error in " ++ function ++ ": " ++ fault.message)
  | .plain fault => (none, fault.message)

def atLine (name : Text) (line : Int) (message : Text) : Text :=
  name ++ ":" ++ Text.ofInt line ++ ": " ++ message ++ "\n"

def unplaced (message : Text) : Text := "Error: " ++ message ++ "\n"

/-- The report of an error, with the place of its line if that came from a source with a name. -/
def report (spans : List Span) (e : Error) : Text :=
  let (line, message) := describe e
  match line.bind (locate spans) with
  | some (name, line) => if name.isEmpty then unplaced message else atLine name line message
  | none => unplaced message

end Birl.CommandLine
