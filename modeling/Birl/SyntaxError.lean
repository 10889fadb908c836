import Birl.Expression

/-!
# Syntax errors

What can be wrong with a source line before it is compiled, and where.
-/

namespace Birl

inductive SyntaxProblem where
  | unterminatedString
  | unknownEscape (c : Char)
  | unexpectedCharacter (c : Char)
  | integerRange (lexeme : Text)
  | numberRange (lexeme : Text)
  | unknownCommand (lexeme : Text)
  | unexpectedAfter (lexeme : Text)
  /-- Something is expected where the line ends. -/
  | expected (what : Text)
  | expectedInstead (what lexeme : Text)
  | openParameterList
  | parameterListInstead (lexeme : Text)
  | unknownParameterType (lexeme : Text)
  | singleExpression
  | operandAfterMinus
  | operandAfterMinusInstead (lexeme : Text)
  | unbalanced
  | missingOperator (lexeme : Text)
  | missingOperatorBeforeOpen
  | operandBeforeClose
  | operandBefore (op : Operator)
  | unexpectedInExpression (lexeme : Text)
  | endsWithOperator
  deriving DecidableEq, Repr

def SyntaxProblem.message : SyntaxProblem → Text
  | unterminatedString => "unterminated string literal"
  | unknownEscape c => "unknown escape sequence \\" ++ Text.ofChar c
  | unexpectedCharacter c => "unexpected character " ++ Text.quotedChar c
  | integerRange lexeme => "integer literal " ++ lexeme ++ " out of range"
  | numberRange lexeme => "strconv.ParseFloat: parsing " ++ lexeme.quoted ++ ": value out of range"
  | unknownCommand lexeme => "unknown command " ++ lexeme.quoted
  | unexpectedAfter lexeme => "unexpected " ++ lexeme.quoted ++ " after command"
  | expected what => "expected " ++ what
  | expectedInstead what lexeme => "expected " ++ what ++ ", got " ++ lexeme.quoted
  | openParameterList => "expected ',' or ')' in parameter list"
  | parameterListInstead lexeme =>
    "expected ',' or ')' in parameter list, got " ++ lexeme.quoted
  | unknownParameterType lexeme => "unknown parameter type " ++ lexeme.quoted
  | singleExpression => "expected a single expression"
  | operandAfterMinus => "expected an operand after '-'"
  | operandAfterMinusInstead lexeme => "expected an operand after '-', got " ++ lexeme.quoted
  | unbalanced => "unbalanced parentheses"
  | missingOperator lexeme => "missing operator before " ++ lexeme.quoted
  | missingOperatorBeforeOpen => "missing operator before '('"
  | operandBeforeClose => "expected an operand before ')'"
  | operandBefore op => "expected an operand before " ++ op.symbol.quoted
  | unexpectedInExpression lexeme => "unexpected " ++ lexeme.quoted ++ " in expression"
  | endsWithOperator => "expression ends with an operator"

/-- A problem at a column of its line; column 0 is the end of the line. -/
structure Complaint where
  column : Nat
  problem : SyntaxProblem
  deriving DecidableEq, Repr

/-- A complaint about a numbered line. -/
structure SyntaxError where
  line : Int
  column : Nat
  problem : SyntaxProblem
  deriving DecidableEq, Repr

namespace SyntaxError

def ofComplaint (line : Int) (c : Complaint) : SyntaxError := ⟨line, c.column, c.problem⟩

def description (e : SyntaxError) : Text :=
  let place : Text :=
    if e.column > 0 then "column " ++ Text.ofNat e.column ++ ": " else .empty
  place ++ "parse error: " ++ e.problem.message

def message (e : SyntaxError) : Text :=
  if e.column > 0 then "line " ++ Text.ofInt e.line ++ ", " ++ e.description
  else "line " ++ Text.ofInt e.line ++ ": " ++ e.description

end SyntaxError
end Birl
