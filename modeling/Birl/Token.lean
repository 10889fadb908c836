import Birl.Character.Letter
import Birl.Character.Mark
import Birl.Number.Reading
import Birl.SyntaxError

/-!
# Tokens

A source line is read from the left into tokens. Blanks separate tokens, `#` starts a comment, and a
NUL character ends the line. Whether a word is a keyword, a name or a type is decided later, from
its place in the line.
-/

namespace Birl

inductive TokenKind where
  | word
  | integer (n : Int64)
  | number (x : Number)
  | string (content : Text)
  | plus
  | minus
  | times
  | divide
  | assign
  | colon
  | comma
  | openParen
  | closeParen
  deriving DecidableEq, Repr, Inhabited

/-- A token with the exact bytes it was read from and the column of its first character. -/
structure Token where
  kind : TokenKind
  lexeme : Text
  column : Nat
  deriving DecidableEq, Repr, Inhabited

inductive Scanned where
  | token (t : Token)
  | illegal (problem : SyntaxProblem) (lexeme : Text) (column : Nat)
  | finish (column : Nat)
  deriving DecidableEq, Repr

namespace TokenKind

def typeName : TokenKind → Text
  | word => "WORD"
  | integer _ => "INT"
  | number _ => "FLOAT"
  | string _ => "STRING"
  | plus => "+"
  | minus => "-"
  | times => "*"
  | divide => "/"
  | assign => "="
  | colon => ":"
  | comma => ","
  | openParen => "("
  | closeParen => ")"

def ofChar? : Char → Option TokenKind
  | '+' => some plus
  | '-' => some minus
  | '*' => some times
  | '/' => some divide
  | '=' => some assign
  | ':' => some colon
  | ',' => some comma
  | '(' => some openParen
  | ')' => some closeParen
  | _ => none

def isWord : TokenKind → Bool
  | word => true
  | _ => false

end TokenKind

namespace Scan

/-- The character that ends a line wherever it stands. -/
def nul : Char := Char.ofNat 0

def isBlank (c : Char) : Bool := c == ' ' || c == '\t' || c == '\r' || c == '\n'

def isDigit (c : Char) : Bool := '0' ≤ c && c ≤ '9'

def isWordStart (c : Char) : Bool := Character.isLetter c || c == '_'

def isWordPart (c : Char) : Bool :=
  Character.isLetter c || Character.isDigit c || c == '_' || c == '?' || Character.isNonspacing c

def escape? : Char → Option Char
  | 'n' => some '\n'
  | 't' => some '\t'
  | 'r' => some '\r'
  | '0' => some nul
  | '\\' => some '\\'
  | '"' => some '"'
  | _ => none

/-- A problem inside a string, found after so many runes. -/
structure StringFailure where
  problem : SyntaxProblem
  after : Nat

/-- The characters of a string after its opening quote, and the number of runes up to and including
the closing one. -/
def stringBody : List Rune → Except StringFailure (List Char × Nat)
  | [] => .error ⟨.unterminatedString, 0⟩
  | r :: rest =>
    if r.char == nul then .error ⟨.unterminatedString, 0⟩
    else if r.char == '"' then .ok ([], 1)
    else if r.char == '\\' then
      match rest with
      | [] => .error ⟨.unterminatedString, 1⟩
      | e :: rest =>
        match escape? e.char with
        | some c =>
          match stringBody rest with
          | .ok (cs, n) => .ok (c :: cs, n + 2)
          | .error f => .error { f with after := f.after + 2 }
        | none =>
          if e.char == nul then .error ⟨.unterminatedString, 1⟩
          else .error ⟨.unknownEscape e.char, 1⟩
    else
      match stringBody rest with
      | .ok (cs, n) => .ok (r.char :: cs, n + 1)
      | .error f => .error { f with after := f.after + 1 }

/-- A token or a problem, and the number of runes it takes after its first one. -/
structure Step where
  result : Scanned
  extra : Nat

/-- A string; `opening` is its quote. After a problem reading goes on at the offending rune. -/
def string (column : Nat) (opening : Rune) (rest : List Rune) : Step :=
  match stringBody rest with
  | .ok (cs, n) =>
    ⟨.token ⟨.string (.ofChars cs), .ofRunes (opening :: rest.take n), column⟩, n⟩
  | .error f => ⟨.illegal f.problem (.ofRunes (opening :: rest)) column, f.after⟩

/-- The number of runes of a number, and whether it has a fraction: a point belongs to it only if a
digit follows. -/
def numberExtent (runes : List Rune) : Nat × Bool :=
  let whole := (runes.takeWhile fun r => isDigit r.char).length
  match runes.drop whole with
  | point :: rest =>
    let fraction := (rest.takeWhile fun r => isDigit r.char).length
    if point.char == '.' && fraction != 0 then (whole + 1 + fraction, true) else (whole, false)
  | [] => (whole, false)

def number (column : Nat) (runes : List Rune) : Step :=
  let (extent, fractional) := numberExtent runes
  let lexeme := Text.ofRunes (runes.take extent)
  let result : Scanned :=
    if fractional then
      match Reading.number lexeme.bytes with
      | .ok x => .token ⟨.number x, lexeme, column⟩
      | .error _ => .illegal (.numberRange lexeme) lexeme column
    else
      match lexeme.toInt64? with
      | some n => .token ⟨.integer n, lexeme, column⟩
      | none => .illegal (.integerRange lexeme) lexeme column
  ⟨result, extent - 1⟩

def word (column : Nat) (r : Rune) (rest : List Rune) : Step :=
  let more := rest.takeWhile fun r => isWordPart r.char
  ⟨.token ⟨.word, .ofRunes (r :: more), column⟩, more.length⟩

/-- The token that starts at `r`, which is neither blank nor the start of a comment. -/
def token (column : Nat) (r : Rune) (rest : List Rune) : Step :=
  match TokenKind.ofChar? r.char with
  | some kind => ⟨.token ⟨kind, .ofChar r.char, column⟩, 0⟩
  | none =>
    if r.char == '"' then string column r rest
    else if isDigit r.char then number column (r :: rest)
    else if isWordStart r.char then word column r rest
    else ⟨.illegal (.unexpectedCharacter r.char) (.ofChar r.char) column, 0⟩

/-- Everything read from `runes`, whose first one stands at `column`; the first `skip` runes belong
to the token before. The last result is always `finish`. -/
def scanFrom (column : Nat) : (skip : Nat) → List Rune → List Scanned
  | _, [] => [.finish column]
  | skip + 1, _ :: rest => scanFrom (column + 1) skip rest
  | 0, r :: rest =>
    if r.char == nul then [.finish column]
    else if isBlank r.char then scanFrom (column + 1) 0 rest
    else if r.char == '#' then
      [.finish (column + 1 + (rest.takeWhile fun r => r.char != nul).length)]
    else
      let step := token column r rest
      step.result :: scanFrom (column + 1) step.extra rest

end Scan

namespace Token

/-- Everything read from a line, problems included; the last result is always `finish`. -/
def scan (source : Text) : List Scanned := Scan.scanFrom 1 0 source.runes

/-- The tokens before the first problem, and that problem. -/
def collect : List Scanned → List Token × Option Complaint
  | [] => ([], none)
  | .finish _ :: _ => ([], none)
  | .illegal problem _ column :: _ => ([], some ⟨column, problem⟩)
  | .token t :: rest =>
    let (ts, complaint) := collect rest
    (t :: ts, complaint)

def tokenize (source : Text) : Except Complaint (List Token) :=
  match collect (scan source) with
  | (ts, none) => .ok ts
  | (_, some complaint) => .error complaint

end Token

/-- A token, its place and its bytes in one line of text. -/
def describeToken (typeName lexeme : Text) (line : Int) (column : Nat) : Text :=
  typeName ++ "(" ++ lexeme.quoted ++ ") at " ++ Text.ofInt line ++ ":" ++ Text.ofNat column

namespace Scanned

def typeName : Scanned → Text
  | token t => t.kind.typeName
  | illegal .. => "ILLEGAL"
  | finish _ => "EOF"

def lexeme : Scanned → Text
  | token t => t.lexeme
  | illegal _ lexeme _ => lexeme
  | finish _ => .empty

def column : Scanned → Nat
  | token t => t.column
  | illegal _ _ column => column
  | finish column => column

/-- What the token stands for: a number, the content of a string, the text of anything else. -/
def literal : Scanned → Constant
  | token ⟨.integer n, _, _⟩ => .int n
  | token ⟨.number x, _, _⟩ => .number x
  | token ⟨.string content, _, _⟩ => .text content
  | token t => .text t.lexeme
  | illegal problem _ _ => .text problem.message
  | finish _ => .null

def describe (line : Int) (s : Scanned) : Text := describeToken s.typeName s.lexeme line s.column

end Scanned

def Token.describe (line : Int) (t : Token) : Text :=
  describeToken t.kind.typeName t.lexeme line t.column

end Birl
