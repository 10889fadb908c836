import Birl.Comparison
import Birl.Expression

/-!
# Commands

A command is what one source line says. The keyword phrase of a command is written with its
accents; it is recognised in its folded form.
-/

namespace Birl

inductive CommandKind where
  | print
  | printLine
  | printDebug
  | declare
  | set
  | returnValue
  | compare
  | executeIf (condition : Condition)
  | endBlock
  | call
  | functionStart
  | functionEnd
  | quit
  | input (kind : Kind)
  | convert (kind : Kind)
  /-- A code that stands for no command, which only a command made by hand can hold. -/
  | unknown (code : Int)
  deriving DecidableEq, Repr, Inhabited

namespace CommandKind

def all : List CommandKind :=
  [print, printLine, printDebug, declare, set, returnValue, compare,
    executeIf .equal, executeIf .notEqual, executeIf .less, executeIf .lessOrEqual,
    executeIf .more, executeIf .moreOrEqual, endBlock, call, functionStart, functionEnd, quit,
    input .text, input .integer, input .number,
    convert .integer, convert .number, convert .text]

def ofCode (code : Int) : CommandKind :=
  if code < 0 then unknown code else all[code.toNat]?.getD (unknown code)

def name : CommandKind → Text
  | print => "Print"
  | printLine => "PrintLine"
  | printDebug => "PrintDebug"
  | declare => "Declare"
  | set => "Set"
  | returnValue => "Return"
  | compare => "Compare"
  | executeIf .equal => "ExecuteIfEqual"
  | executeIf .notEqual => "ExecuteIfNotEqual"
  | executeIf .less => "ExecuteIfLess"
  | executeIf .lessOrEqual => "ExecuteIfLessOrEqual"
  | executeIf .more => "ExecuteIfGreater"
  | executeIf .moreOrEqual => "ExecuteIfGreaterOrEqual"
  | endBlock => "EndSubScope"
  | call => "Call"
  | functionStart => "FunctionStart"
  | functionEnd => "FunctionEnd"
  | quit => "Quit"
  | input .text => "GetTextInput"
  | input .integer => "GetIntegerInput"
  | input .number => "GetNumberInput"
  | convert .integer => "ConvertToInteger"
  | convert .number => "ConvertToNumber"
  | convert .text => "ConvertToText"
  | unknown code => "CommandKind(" ++ Text.ofInt code ++ ")"

def ofName? (name : Text) : Option CommandKind := all.find? (·.name = name)

def isExecuteIf : CommandKind → Bool
  | executeIf _ => true
  | _ => false

def phrase : CommandKind → List Text
  | print => ["CE", "QUER", "VER", "ISSO"]
  | printLine => ["CE", "QUER", "VER", "ESSA", "PORRA"]
  | printDebug => ["CE", "QUER", "VER", "ISSO", "DIREITO"]
  | declare => ["VEM"]
  | set => ["BORA"]
  | returnValue => ["BIRL"]
  | compare => ["É", "ELE", "QUE", "A", "GENTE", "QUER"]
  | executeIf .equal => ["É", "ELE", "MEMO"]
  | executeIf .notEqual => ["NUM", "É", "ELE"]
  | executeIf .less => ["É", "MENOR"]
  | executeIf .lessOrEqual => ["MENOR", "OU", "É", "MEMO"]
  | executeIf .more => ["É", "MAIOR"]
  | executeIf .moreOrEqual => ["MAIOR", "OU", "É", "MEMO"]
  | endBlock => ["FIM"]
  | call => ["É", "HORA", "DO"]
  | functionStart => ["JAULA"]
  | functionEnd => ["SAINDO", "DA", "JAULA"]
  | quit => ["NUM", "VAI", "DÁ", "NÃO"]
  | input .text => ["QUE", "QUE", "CE", "QUER"]
  | input .integer => ["QUE", "QUE", "CE", "QUER", "MONSTRÃO"]
  | input .number => ["QUE", "QUE", "CE", "QUER", "MONSTRINHO"]
  | convert .integer => ["MUDA", "PRA", "MONSTRO"]
  | convert .number => ["MUDA", "PRA", "TRAPÉZIO"]
  | convert .text => ["MUDA", "PRA", "FRANGO"]
  | unknown _ => []

end CommandKind

/-- A parameter of a function header. The kind is the folded keyword; a header made by hand may hold
any word there. -/
structure Parameter where
  name : Text
  kind : Text
  deriving DecidableEq, Repr, Inhabited

/-- One command: its target or function name, the expressions it is given and, for a function
header, the parameters. -/
structure Command where
  kind : CommandKind
  name : Text := .empty
  args : List Expression := []
  params : List Parameter := []
  deriving DecidableEq, Repr, Inhabited

def Command.text (c : Command) : Text :=
  let name : Text := if c.name.isEmpty then .empty else " " ++ c.name
  let params : Text :=
    if c.params.isEmpty then .empty
    else "(" ++ Text.join ", " (c.params.map fun p => p.kind ++ " " ++ p.name) ++ ")"
  c.kind.name ++ name ++ params ++ Text.concat (c.args.map fun e => " [" ++ e.text ++ "]")

/-- The name bound to slot 0 of every frame, where the value of the last call arrives. -/
def returnName : Text := "TREZE"

/-- The function that runs after the global code. -/
def entryName : Text := "SHOW"

end Birl
