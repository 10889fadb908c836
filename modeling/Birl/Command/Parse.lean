import Birl.Command.Phrase

/-!
# Parsing of lines

The tokens of a line become a command. Expressions are checked here for the alternation of operands
and operators and for balanced parentheses; a minus in front of an operand is written out as a
negative literal or as a difference from zero.
-/

namespace Birl

/-- A node of an expression together with the token it came from. -/
structure PlacedNode where
  node : Node
  token : Token
  deriving DecidableEq, Repr

/-- A command together with the columns of the nodes of its expressions. -/
structure ParsedCommand where
  command : Command
  columns : List (List Nat)
  deriving DecidableEq, Repr

namespace Parse

def failAt {α : Type} (t : Token) (problem : SyntaxProblem) : Except Complaint α :=
  .error ⟨t.column, problem⟩

def failAtEnd {α : Type} (problem : SyntaxProblem) : Except Complaint α := .error ⟨0, problem⟩

def expectEnd : List Token → Except Complaint Unit
  | [] => .ok ()
  | t :: _ => failAt t (.unexpectedAfter t.lexeme)

/-- The next token must satisfy `p`, of which `what` is the name. -/
def expect (p : TokenKind → Bool) (what : Text) : List Token → Except Complaint (Token × List Token)
  | [] => failAtEnd (.expected what)
  | t :: rest => if p t.kind then .ok (t, rest) else failAt t (.expectedInstead what t.lexeme)

def expectKind (kind : TokenKind) (what : Text) (tokens : List Token) :
    Except Complaint (List Token) :=
  (expect (· = kind) what tokens).map Prod.snd

def expectName (tokens : List Token) : Except Complaint (Text × List Token) :=
  (expect TokenKind.isWord "a name" tokens).map fun (t, rest) => (t.lexeme, rest)

/-! ## Expressions -/

/-- Splits tokens at the commas outside of parentheses; `depth` counts the open ones and may go below
zero. -/
def splitArguments (depth : Int) : List Token → List (List Token)
  | [] => [[]]
  | t :: rest =>
    if t.kind = .comma ∧ depth = 0 then [] :: splitArguments 0 rest
    else
      let depth := match t.kind with
        | .openParen => depth + 1
        | .closeParen => depth - 1
        | _ => depth
      match splitArguments depth rest with
      | [] => [[t]]
      | piece :: pieces => (t :: piece) :: pieces

/-- The number of tokens up to the parenthesis that closes `depth` open ones. -/
def closingExtent? (depth : Nat) : List Token → Option Nat
  | [] => none
  | t :: rest =>
    match t.kind with
    | .openParen => (closingExtent? (depth + 1) rest).map (· + 1)
    | .closeParen => if depth ≤ 1 then some 1 else (closingExtent? (depth - 1) rest).map (· + 1)
    | _ => (closingExtent? depth rest).map (· + 1)

/-- The number of tokens of the operand after `sign`: one token, a group, or a further minus with its
operand. -/
def operandExtent (sign : Token) : List Token → Except Complaint Nat
  | [] => failAt sign .operandAfterMinus
  | t :: rest =>
    match t.kind with
    | .word | .integer _ | .number _ | .string _ => .ok 1
    | .minus => (operandExtent t rest).map (· + 1)
    | .openParen =>
      match closingExtent? 1 rest with
      | some n => .ok (n + 1)
      | none => failAt t .unbalanced
    | _ => failAt t (.operandAfterMinusInstead t.lexeme)

/-- The node of a token and whether an operand is expected after it. -/
def nodeOf? (t : Token) : Option (Node × Bool) :=
  match t.kind with
  | .integer n => some (.value (.int n), false)
  | .number x => some (.value (.number x), false)
  | .string content => some (.value (.text content), false)
  | .word => some (.symbol t.lexeme, false)
  | .plus => some (.operator .plus, true)
  | .minus => some (.operator .minus, true)
  | .times => some (.operator .times, true)
  | .divide => some (.operator .divide, true)
  | .openParen => some (.operator .openParen, true)
  | .closeParen => some (.operator .closeParen, false)
  | .assign | .colon | .comma => none

/-- The literal of a number token with the sign changed. -/
def negated? (t : Token) : Option Node :=
  match t.kind with
  | .integer n => some (.value (.int (-n)))
  | .number x => some (.value (.number x.negate))
  | _ => none

/-- The nodes of an expression. A minus where an operand is expected negates a number token, and
turns any other operand into the difference of zero and it. -/
def nodes (expectOperand : Bool) (tokens : List Token) : Except Complaint (List PlacedNode) :=
  match tokens with
  | [] => .ok []
  | t :: rest =>
    if t.kind = .minus ∧ expectOperand = true then
      match rest with
      | [] => failAt t .operandAfterMinus
      | next :: after =>
        match negated? next with
        | some literal => do
          let more ← nodes false after
          return ⟨literal, next⟩ :: more
        | none => do
          let extent ← operandExtent t (next :: after)
          let inner ← nodes true ((next :: after).take extent)
          let more ← nodes false ((next :: after).drop extent)
          return ⟨.operator .openParen, t⟩ :: ⟨.value (.int 0), t⟩ :: ⟨.operator .minus, t⟩ ::
            (inner ++ ⟨.operator .closeParen, t⟩ :: more)
    else
      match nodeOf? t with
      | some (node, expectNext) => do
        let more ← nodes expectNext rest
        return ⟨node, t⟩ :: more
      | none => failAt t (.unexpectedInExpression t.lexeme)
termination_by tokens.length
decreasing_by
  all_goals
    simp only [List.length_take, List.length_drop, List.length_cons]
    omega

/-- Operands and operators must alternate and parentheses must balance. `first` is the column of the
first node, `depth` the number of open parentheses. -/
def validateFrom (first : Nat) (depth : Nat) (expectOperand : Bool) :
    List PlacedNode → Except Complaint Unit
  | [] =>
    if depth ≠ 0 then .error ⟨first, .unbalanced⟩
    else if expectOperand then failAtEnd .endsWithOperator
    else .ok ()
  | ⟨node, t⟩ :: rest =>
    match node with
    | .operator .openParen =>
      if expectOperand then validateFrom first (depth + 1) true rest
      else failAt t .missingOperatorBeforeOpen
    | .operator .closeParen =>
      if expectOperand then failAt t .operandBeforeClose
      else if depth = 0 then failAt t .unbalanced
      else validateFrom first (depth - 1) false rest
    | .operator op =>
      if expectOperand then failAt t (.operandBefore op) else validateFrom first depth true rest
    | _ =>
      if expectOperand then validateFrom first depth false rest
      else failAt t (.missingOperator t.lexeme)

def validate (nodes : List PlacedNode) : Except Complaint Unit :=
  validateFrom (nodes.head?.elim 0 fun n => n.token.column) 0 true nodes

def expression (tokens : List Token) : Except Complaint (List PlacedNode) :=
  if tokens.isEmpty then failAtEnd (.expected "an expression")
  else do
    let placed ← nodes true tokens
    validate placed
    return placed

def expressions (tokens : List Token) : Except Complaint (List (List PlacedNode)) :=
  (splitArguments 0 tokens).mapM expression

/-! ## Commands -/

/-- What may follow the keyword phrase. -/
structure Tail where
  name : Text := .empty
  args : List (List PlacedNode) := []
  params : List Parameter := []

def optionalArguments (tokens : List Token) : Except Complaint Tail :=
  if tokens.isEmpty then .ok {}
  else do
    let rest ← expectKind .colon "':'" tokens
    return { args := ← expressions rest }

def namedArguments (tokens : List Token) : Except Complaint Tail := do
  let (name, rest) ← expectName tokens
  if rest.isEmpty then return { name }
  let rest ← expectKind .comma "','" rest
  return { name, args := ← expressions rest }

/-- `: name, value` or `name = value`, the value optional; `first` is the first token of the line. -/
def assignment (first : Token) (tokens : List Token) : Except Complaint Tail :=
  match tokens with
  | ⟨.word, name, _⟩ :: rest =>
    if rest.isEmpty then .ok { name }
    else do
      let rest ← expectKind .assign "'='" rest
      let args ← expressions rest
      if args.length ≠ 1 then failAt first .singleExpression
      return { name, args }
  | _ => do
    let rest ← expectKind .colon "':' or a name" tokens
    namedArguments rest

def invocation (tokens : List Token) : Except Complaint Tail := do
  let rest ← expectKind .colon "':'" tokens
  namedArguments rest

def target (tokens : List Token) : Except Complaint Tail := do
  let rest ← expectKind .colon "':'" tokens
  let (name, rest) ← expectName rest
  expectEnd rest
  return { name }

/-- The long spelling of the Number keyword has a second word, which counts only if a name follows. -/
def dropLongSpelling : List Token → List Token
  | ⟨.word, long, c⟩ :: ⟨.word, name, d⟩ :: rest =>
    if Keyword.fold long = "DESCENDENTE" then ⟨.word, name, d⟩ :: rest
    else ⟨.word, long, c⟩ :: ⟨.word, name, d⟩ :: rest
  | tokens => tokens

def parameter (tokens : List Token) : Except Complaint (Parameter × List Token) := do
  let (t, rest) ← expect TokenKind.isWord "a parameter type" tokens
  match Kind.ofKeyword? (Keyword.fold t.lexeme) with
  | none => failAt t (.unknownParameterType t.lexeme)
  | some kind =>
    let rest := if kind = .number then dropLongSpelling rest else rest
    let (name, rest) ← expectName rest
    return (⟨name, kind.keyword⟩, rest)

/-- Parameters up to the closing parenthesis, at most `limit` of them. -/
def parameters : (limit : Nat) → List Token → Except Complaint (List Parameter × List Token)
  | 0, _ => failAtEnd .openParameterList
  | limit + 1, tokens => do
    let (p, rest) ← parameter tokens
    match rest with
    | [] => failAtEnd .openParameterList
    | t :: rest =>
      match t.kind with
      | .closeParen => return ([p], rest)
      | .comma =>
        let (ps, rest) ← parameters limit rest
        return (p :: ps, rest)
      | _ => failAt t (.parameterListInstead t.lexeme)

/-- `NAME` or `NAME (KIND name, ...)`, with an optional colon in front. -/
def functionHeader (tokens : List Token) : Except Complaint Tail := do
  let tokens := match tokens with
    | ⟨.colon, _, _⟩ :: rest => rest
    | _ => tokens
  let (name, rest) ← expectName tokens
  if rest.isEmpty then return { name }
  let rest ← expectKind .openParen "'('" rest
  match rest with
  | ⟨.closeParen, _, _⟩ :: rest =>
    expectEnd rest
    return { name }
  | _ =>
    -- Every parameter takes more than one token, so their number is no limit.
    let (params, rest) ← parameters (rest.length + 1) rest
    expectEnd rest
    return { name, params }

def tail (kind : CommandKind) (first : Token) (tokens : List Token) : Except Complaint Tail :=
  match kind with
  | .executeIf _ | .endBlock | .functionEnd | .quit => do
    expectEnd tokens
    return {}
  | .print | .printLine | .printDebug | .returnValue | .compare => optionalArguments tokens
  | .declare | .set => assignment first tokens
  | .call => invocation tokens
  | .functionStart => functionHeader tokens
  | _ => target tokens

end Parse

/-- The command that the tokens of a line say; a line without tokens says nothing. -/
def ParsedCommand.ofTokens (tokens : List Token) : Except Complaint (Option ParsedCommand) :=
  match tokens with
  | [] => .ok none
  | first :: _ =>
    match Phrase.match? tokens with
    | none => Parse.failAt first (.unknownCommand first.lexeme)
    | some (kind, extent) => do
      let tail ← Parse.tail kind first (tokens.drop extent)
      return some
        { command :=
            { kind
              name := tail.name
              args := tail.args.map fun nodes => nodes.map PlacedNode.node
              params := tail.params }
          columns := tail.args.map fun nodes => nodes.map fun n => n.token.column }

def ParsedCommand.ofLine (source : Text) : Except Complaint (Option ParsedCommand) := do
  ParsedCommand.ofTokens (← Token.tokenize source)

/-- The command of a numbered source line, its place in the line left out. -/
def Command.ofLine (line : Int) (source : Text) : Except SyntaxError (Option Command) :=
  match ParsedCommand.ofLine source with
  | .ok parsed => .ok (parsed.map ParsedCommand.command)
  | .error complaint => .error (.ofComplaint line complaint)

end Birl
