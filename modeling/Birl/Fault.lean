import Birl.Command
import Birl.Files
import Birl.SyntaxError

/-!
# Faults and errors

A fault is the cause of a failure in the compiler, the machine, a session or a host function. An
error is a fault with the place where it was met, or a syntax error.
-/

namespace Birl

inductive ErrorKind where
  | parse
  | unknownIdentifier
  | arity
  | type
  | parseValue
  | scopeMismatch
  | storageMiss
  | divisionByZero
  | redeclared
  | readOnly
  | frameOverflow
  | internal
  | other
  deriving DecidableEq, Repr, Inhabited

def ErrorKind.label : ErrorKind → Text
  | parse => "parse error"
  | unknownIdentifier => "unknown identifier"
  | arity => "wrong number of arguments"
  | type => "type error"
  | parseValue => "invalid number"
  | scopeMismatch => "scope mismatch"
  | storageMiss => "text storage miss"
  | divisionByZero => "division by zero"
  | redeclared => "already declared"
  | readOnly => "read-only variable"
  | frameOverflow => "internal error: frame is full"
  | internal => "internal error"
  | other => .empty

inductive Fault where
  -- Expressions
  | emptyExpression
  | missingOperator (node : Node)
  | unbalanced
  | noLeftOperand (op : Operator)
  | endsWithoutOperand
  | notOperand (node : Node)
  -- Names
  | unknownVariable (name : Text)
  | unknownFunction (name : Text)
  | readOnlyVariable (name : Text)
  | redeclaredFunction (name : Text)
  | redeclaredParameter (name : Text)
  -- Numbers of arguments
  | commandArity (kind : CommandKind) (least most given : Nat)
  | callArity (name : Text) (expected given : Nat)
  | entryParameters (name : Text)
  -- Blocks
  | noOpenBlock
  | functionInsideBlock (name : Text)
  | noOpenFunction
  | blockInsideFunction
  | globalInsideBlock
  | blocksLeftOpen (count : Nat)
  -- Frames
  | frameFull (most : Nat)
  | tooManyParameters (name : Text) (count : Nat)
  | badAddress (address : Int)
  | badGlobalAddress (address : Int)
  -- Types
  | unknownParameterType (keyword : Text)
  | cannotApply (op : Operator) (left right : ValueType)
  | expectedText (given : ValueType)
  | incompatible (expected : ParameterKind) (given : ValueType)
  | nullConversion (kind : Kind)
  -- Values
  | notInteger (text : Text)
  | notNumber (text : Text)
  | doesNotFit (x : Number)
  | cannotRound (x : Number)
  | divisionByZero
  | missingText (id : Nat)
  -- Broken invariants
  | unknownCommand (kind : CommandKind)
  | noCode (id : Int)
  | callStackOverflow
  | noFrameUnderConstruction
  | returnUnderConstruction
  | unknownPlugin (index : Int)
  | pluginWithoutFrame
  | unknownOpcode (code : UInt8)
  -- The world outside
  | readingInput (reason : Text)
  | writingOutput (reason : Text)
  | unreadableFile (path : Text) (e : FileError)
  | programHasQuit
  -- Host values and functions
  | beyondIntegers (n : Nat)
  | unconvertible (typeName : Text)
  | unusable (given : ValueType) (typeName : Text)
  | outsideType (n : Int64) (typeName : Text)
  | unsupportedParameter (typeName : Text)
  | pluginWithoutFunction (name : Text)
  | pluginRegistered (name : Text)
  | notFunction (name typeName : Text)
  | variadicFunction (name : Text)
  | severalResults (name : Text)
  | host (message : Text)
  | hostType (message : Text)
  /-- A fault met on behalf of something that is named in front of it. -/
  | within (context : Text) (cause : Fault)
  deriving DecidableEq, Repr

namespace Fault

def kind : Fault → ErrorKind
  | emptyExpression | missingOperator _ | unbalanced | noLeftOperand _
  | endsWithoutOperand | notOperand _ => .parse
  | unknownVariable _ | unknownFunction _ => .unknownIdentifier
  | readOnlyVariable _ => .readOnly
  | redeclaredFunction _ | redeclaredParameter _ => .redeclared
  | commandArity .. | callArity .. | entryParameters _ => .arity
  | noOpenBlock | functionInsideBlock _ | noOpenFunction | blockInsideFunction | globalInsideBlock
  | blocksLeftOpen _ => .scopeMismatch
  | frameFull _ | tooManyParameters .. | badAddress _ | badGlobalAddress _ => .frameOverflow
  | unknownParameterType _ | cannotApply .. | expectedText _ | incompatible .. | nullConversion _
  | beyondIntegers _ | unconvertible _ | unusable .. | outsideType .. | unsupportedParameter _
  | hostType _ => .type
  | notInteger _ | notNumber _ | doesNotFit _ | cannotRound _ => .parseValue
  | divisionByZero => .divisionByZero
  | missingText _ => .storageMiss
  | unknownCommand _ | noCode _ | callStackOverflow | noFrameUnderConstruction
  | returnUnderConstruction | unknownPlugin _ | pluginWithoutFrame | unknownOpcode _ => .internal
  | readingInput _ | writingOutput _ | unreadableFile .. | programHasQuit | pluginWithoutFunction _
  | pluginRegistered _ | notFunction .. | variadicFunction _ | severalResults _ | host _ => .other
  | within _ cause => cause.kind

/-- What a message says after the words for its class. -/
def detail : Fault → Text
  | emptyExpression => "empty expression"
  | missingOperator node => "missing operator before " ++ node.text
  | unbalanced => "unbalanced parentheses"
  | noLeftOperand op => "operator " ++ op.symbol ++ " without a left operand"
  | endsWithoutOperand => "expression ends without an operand"
  | notOperand node => node.text ++ " is not an operand"
  | unknownVariable name => name
  | unknownFunction name => "function " ++ name
  | readOnlyVariable name => name
  | redeclaredFunction name => "function " ++ name
  | redeclaredParameter name => "parameter " ++ name
  | commandArity kind least most given =>
    let range : Text :=
      if least = most then Text.ofNat least
      else Text.ofNat least ++ " to " ++ Text.ofNat most
    kind.name ++ " takes " ++ range ++ " argument(s), got " ++ Text.ofNat given
  | callArity name expected given =>
    name ++ " takes " ++ Text.ofNat expected ++ " argument(s), got " ++ Text.ofNat given
  | entryParameters name => name ++ " takes no parameters"
  | noOpenBlock => "no open block to end"
  | functionInsideBlock name => "function " ++ name ++ " declared inside a block"
  | noOpenFunction => "no function to end"
  | blockInsideFunction => "function ended with an open block"
  | globalInsideBlock => "globals must be declared at top level"
  | blocksLeftOpen count => Text.ofNat count ++ " block(s) left open at end of input"
  | frameFull most => "more than " ++ Text.ofNat most ++ " variables"
  | tooManyParameters name count => name ++ " takes " ++ Text.ofNat count ++ " parameters"
  | badAddress address => "address " ++ Text.ofInt address
  | badGlobalAddress address => "global address " ++ Text.ofInt address
  | unknownParameterType keyword => "unknown parameter type " ++ keyword
  | cannotApply op left right =>
    "cannot apply " ++ op.symbol ++ " to " ++ left.name ++ " and " ++ right.name
  | expectedText given => "expected Text, got " ++ given.name
  | incompatible expected given => "expected " ++ expected.name ++ " argument, got " ++ given.name
  | nullConversion kind => "cannot convert Null to " ++ kind.name
  | notInteger text => text.quoted ++ " is not an Integer"
  | notNumber text => text.quoted ++ " is not a Number"
  | doesNotFit x => x.text ++ " does not fit an Integer"
  | cannotRound x => "cannot round " ++ x.briefText ++ " to an Integer"
  | divisionByZero => .empty
  | missingText id => "text id " ++ Text.ofNat id
  | unknownCommand kind => "unknown command " ++ kind.name
  | noCode id => "no code for function id " ++ Text.ofInt id
  | callStackOverflow => "call stack overflow"
  | noFrameUnderConstruction => "no frame under construction"
  | returnUnderConstruction => "return with a frame under construction"
  | unknownPlugin index => "unknown plugin " ++ Text.ofInt index
  | pluginWithoutFrame => "plugin called without an argument frame"
  | unknownOpcode code => "unknown opcode " ++ Text.ofNat code.toNat
  | readingInput reason => "reading input: " ++ reason
  | writingOutput reason => "writing output: " ++ reason
  | unreadableFile path e => e.message path
  | programHasQuit => "program has quit"
  | beyondIntegers n => Text.ofNat n ++ " does not fit an Integer"
  | unconvertible typeName => "cannot convert " ++ typeName ++ " to a BIRL value"
  | unusable given typeName => "cannot use " ++ given.name ++ " as " ++ typeName
  | outsideType n typeName => Text.ofInt n.toInt ++ " overflows " ++ typeName
  | unsupportedParameter typeName => "unsupported parameter type " ++ typeName
  | pluginWithoutFunction name => "plugin " ++ name ++ " has no function"
  | pluginRegistered name => "plugin " ++ name ++ " is already registered"
  | notFunction name typeName => name ++ ": expected a function, got " ++ typeName
  | variadicFunction name => name ++ ": variadic functions are not supported"
  | severalResults name => name ++ ": functions may return at most one value"
  | host message => message
  | hostType message => message
  | within _ _ => .empty

/-- The message of a fault: the words for its class and the detail, or the context it was met in and
the message of its cause. -/
def message : Fault → Text
  | within context cause => context ++ ": " ++ message cause
  | fault =>
    match fault.kind with
    | .other => fault.detail
    | .divisionByZero => ErrorKind.divisionByZero.label
    | kind => kind.label ++ ": " ++ fault.detail

end Fault

inductive Error where
  | malformed (e : SyntaxError)
  /-- A line that does not compile. -/
  | compile (line : Int) (fault : Fault)
  /-- An instruction that fails. -/
  | runtime (line : Int) (function : Text) (fault : Fault)
  /-- A failure that belongs to no line. -/
  | plain (fault : Fault)
  deriving DecidableEq, Repr

namespace Error

def kind : Error → ErrorKind
  | malformed _ => .parse
  | compile _ fault => fault.kind
  | runtime _ _ fault => fault.kind
  | plain fault => fault.kind

def message : Error → Text
  | malformed e => e.message
  | compile line fault => "line " ++ Text.ofInt line ++ ": " ++ fault.message
  | runtime line function fault =>
    "runtime error in " ++ function ++ " at line " ++ Text.ofInt line ++ ": " ++ fault.message
  | plain fault => fault.message

end Error
end Birl
