import Birl.Command

/-!
# Canonical source of commands

The one way a command is written when a source is formatted: the phrase with its accents, a colon,
blanks around operators and none inside parentheses.
-/

namespace Birl

namespace Render

/-- A character of a string literal, with the escapes that reading knows. -/
def stringChar : Char → List Char
  | '"' => ['\\', '"']
  | '\\' => ['\\', '\\']
  | '\n' => ['\\', 'n']
  | '\t' => ['\\', 't']
  | '\r' => ['\\', 'r']
  | c => if c == Char.ofNat 0 then ['\\', '0'] else [c]

def string (t : Text) : Text := .ofChars ('"' :: t.chars.flatMap stringChar ++ ['"'])

/-- A number literal has a point even where its shortest text has none. -/
def number (x : Number) : Text :=
  if x.text.bytes.contains '.'.toUInt8 then x.text else x.text ++ ".0"

def literal : Constant → Text
  | .number x => number x
  | .text t => string t
  | k => k.literalText

def node : Node → Text
  | .value k => literal k
  | n => n.text

def blankBetween : Node → Node → Bool
  | .operator .openParen, _ => false
  | _, .operator .closeParen => false
  | _, _ => true

def expressionAfter (previous : Node) : List Node → Text
  | [] => .empty
  | n :: rest =>
    (if blankBetween previous n then " " ++ node n else node n) ++ expressionAfter n rest

def expression : Expression → Text
  | [] => .empty
  | n :: rest => node n ++ expressionAfter n rest

/-- The spelling of a parameter kind; a word that is no kind has none. -/
def parameterKind (keyword : Text) : Text :=
  match Kind.ofKeyword? keyword with
  | some .integer => "MONSTRO"
  | some .number => "TRAPÉZIO DESCENDENTE"
  | some .text => "FRANGO"
  | none => .empty

def parameters (ps : List Parameter) : Text :=
  if ps.isEmpty then .empty
  else " (" ++ Text.join ", " (ps.map fun p => parameterKind p.kind ++ " " ++ p.name) ++ ")"

end Render

def Command.render (c : Command) : Text :=
  let phrase := Text.join " " c.kind.phrase
  match c.kind with
  | .functionStart => phrase ++ " " ++ c.name ++ Render.parameters c.params
  | .declare | .set | .call | .input _ | .convert _ =>
    phrase ++ ": " ++ c.name ++ Text.concat (c.args.map fun e => ", " ++ Render.expression e)
  | _ =>
    if c.args.isEmpty then phrase
    else phrase ++ ": " ++ Text.join ", " (c.args.map Render.expression)

end Birl
