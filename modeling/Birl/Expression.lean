import Birl.Value

/-!
# Expressions

An expression is the flat list of its operands, operators and parentheses in source order. Which
operator binds tighter is decided when the expression is compiled.
-/

namespace Birl

inductive Operator where
  | plus
  | minus
  | times
  | divide
  | openParen
  | closeParen
  /-- An operator without meaning, which only a node made by hand can hold. -/
  | unknown
  deriving DecidableEq, Repr, Inhabited

namespace Operator

def ofCode : Int → Operator
  | 0 => plus
  | 1 => minus
  | 2 => times
  | 3 => divide
  | 4 => openParen
  | 5 => closeParen
  | _ => unknown

def symbol : Operator → Text
  | plus => "+"
  | minus => "-"
  | times => "*"
  | divide => "/"
  | openParen => "("
  | closeParen => ")"
  | unknown => "?"

def isHigh : Operator → Bool
  | times | divide => true
  | _ => false

def isLow : Operator → Bool
  | plus | minus => true
  | _ => false

end Operator

inductive Node where
  | value (literal : Constant)
  | symbol (name : Text)
  | operator (op : Operator)
  /-- A node of no known kind, which only an expression made by hand can hold. -/
  | unknown (op : Operator)
  deriving DecidableEq, Repr, Inhabited

abbrev Expression := List Node

def Constant.literalText : Constant → Text
  | null => nullText
  | int n => Text.ofInt n.toInt
  | number x => x.text
  | text t => t.quoted

namespace Node

def ofCodes (kind op literal : Int) : Node :=
  match kind with
  | 0 =>
    match literal with
    | 0 => value (.int 0)
    | 1 => value (.number .zero)
    | 2 => value (.text .empty)
    | _ => value .null
  | 1 => symbol .empty
  | 2 => operator (.ofCode op)
  | _ => unknown (.ofCode op)

def text : Node → Text
  | value literal => literal.literalText
  | symbol name => name
  | operator op => op.symbol
  | unknown op => op.symbol

def isOperator : Node → Bool
  | operator _ => true
  | _ => false

def isOperand : Node → Bool
  | value _ | symbol _ => true
  | _ => false

end Node

def Expression.text (e : Expression) : Text := Text.join " " (e.map Node.text)

end Birl
