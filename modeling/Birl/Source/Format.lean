import Birl.Command.Parse
import Birl.Command.Render

/-!
# Formatting of sources

A source is written back line by line in canonical form, indented by the depth of its blocks.
Comments are kept, and runs of blank lines become one.
-/

namespace Birl.Format

/-- Splits a line at the `#` that starts its comment. A `#` inside a string starts none; inside a
string a backslash hides the byte after it. -/
def splitComment : (inString : Bool) → List UInt8 → List UInt8 × Option (List UInt8)
  | _, [] => ([], none)
  | inString, b :: rest =>
    if b == '\\'.toUInt8 && inString then
      match rest with
      | [] => ([b], none)
      | hidden :: rest =>
        let (code, comment) := splitComment inString rest
        (b :: hidden :: code, comment)
    else if b == '#'.toUInt8 && !inString then ([], some (b :: rest))
    else
      let (code, comment) := splitComment (if b == '"'.toUInt8 then !inString else inString) rest
      (b :: code, comment)

/-- The code of a line and its comment without blanks around it, empty if there is none. -/
def codeAndComment (line : Text) : Text × Text :=
  let (code, comment) := splitComment false line.bytes
  (⟨code⟩, match comment with
    | some bytes => (Text.mk bytes).trim
    | none => .empty)

inductive Item where
  | blank
  | comment (text : Text)
  | command (c : Command) (comment : Text)
  /-- A line with code that says nothing. -/
  | nothing
  deriving DecidableEq, Repr

def item (line : Text) : Except Complaint Item :=
  let (code, comment) := codeAndComment line
  if code.trim.isEmpty then .ok (if comment.isEmpty then .blank else .comment comment)
  else
    match ParsedCommand.ofLine code with
    | .ok (some parsed) => .ok (.command parsed.command comment)
    | .ok none => .ok .nothing
    | .error complaint => .error complaint

/-- Reads the lines of a source, the first of them with number `line`. -/
def items (line : Int) : List Text → Except SyntaxError (List Item)
  | [] => .ok []
  | source :: rest =>
    match item source with
    | .error complaint => .error (.ofComplaint line complaint)
    | .ok i => (items (line + 1) rest).map (i :: ·)

/-- The depth of the blocks around what is written, and whether the last line written was blank. -/
structure Layout where
  depth : Nat := 0
  afterBlank : Bool := true

def indentation : Text := "    "

def written (depth : Nat) (line : Text) : Text := Text.replicate depth indentation ++ line

def lines (layout : Layout) : List Item → List Text
  | [] => []
  | .blank :: rest =>
    if layout.afterBlank then lines layout rest
    else .empty :: lines { layout with afterBlank := true } rest
  | .comment text :: rest =>
    written layout.depth text :: lines { layout with afterBlank := false } rest
  | .command c comment :: rest =>
    let depth := match c.kind with
      | .endBlock | .functionEnd => layout.depth - 1
      | _ => layout.depth
    let inner := match c.kind with
      | .functionStart | .executeIf _ => depth + 1
      | _ => depth
    let line := if comment.isEmpty then c.render else c.render ++ " " ++ comment
    written depth line :: lines { depth := inner, afterBlank := false } rest
  | .nothing :: rest => lines layout rest

/-- Lines as a source that ends with exactly one line feed. -/
def assemble (ls : List Text) : Text :=
  (Text.concat (ls.map fun l => l ++ "\n")).dropRightWhile (· == 10) ++ "\n"

end Birl.Format

namespace Birl

/-- The canonical form of a source, or the first line that is malformed. -/
def format (source : Text) : Except SyntaxError Text :=
  (Format.items 1 source.lines).map fun items => Format.assemble (Format.lines {} items)

end Birl
