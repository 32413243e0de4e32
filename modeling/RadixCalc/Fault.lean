import RadixCalc.Text.ShownInt
import RadixCalc.Token

/-!
Everything that can be wrong with an expression, as causes. Each cause has a
kind, and the kinds form a tree: a report can be told apart by the exact kind
or by any kind above it. The wording and the code of a fault are read off its
cause here and nowhere else. A cause holds no number that its wording could not
show.
-/

namespace RadixCalc

/-- The kinds of fault, from the root `calculation` down. -/
inductive FaultKind where
  | calculation
  | validation
  | conversion
  | unsupportedBase
  | invalidDigit
  | repeatedPoint
  | reading
  | unmatchedBracket
  | unknownToken
  | evaluation
  | operatorArity
  | targetNotSymbol
  | undefinedName
  | argument
  | unsupportedFunction
  | missingOperator
  | tokenValue
  | unknownOperator
deriving DecidableEq, Repr

namespace FaultKind

/-- The code a report carries when it was given none. -/
def defaultCode : FaultKind → String
  | calculation => "CALC_ERROR"
  | validation => "VALIDATION_ERROR"
  | conversion => "CONVERSION_ERROR"
  | unsupportedBase => "UNSUPPORTED_BASE"
  | invalidDigit => "INVALID_DIGIT"
  | repeatedPoint => "MULTIPLE_DECIMAL_POINTS"
  | reading => "PARSE_ERROR"
  | unmatchedBracket => "UNMATCHED_BRACKET"
  | unknownToken => "UNKNOWN_TOKEN"
  | evaluation => "EVALUATION_ERROR"
  | operatorArity => "OPERATOR_ARITY"
  | targetNotSymbol => "LHS_NOT_SYMBOL"
  | undefinedName => "NAME_ERROR"
  | argument => "ARGUMENT_ERROR"
  | unsupportedFunction => "UNSUPPORTED"
  | missingOperator => "MISSING_OPERATOR"
  | tokenValue => "VALUE_ERROR"
  | unknownOperator => "UNKNOWN_OPERATOR"

/-- The kinds above a kind, the nearest first. -/
def above : FaultKind → List FaultKind
  | calculation => []
  | validation | conversion | reading | evaluation => [calculation]
  | unsupportedBase | invalidDigit | repeatedPoint => [conversion, calculation]
  | unmatchedBracket | unknownToken => [reading, calculation]
  | operatorArity | targetNotSymbol | undefinedName | argument | unsupportedFunction
  | missingOperator | tokenValue | unknownOperator => [evaluation, calculation]

/-- A kind and all kinds above it. -/
def lineage (kind : FaultKind) : List FaultKind :=
  kind :: kind.above

end FaultKind

/-- A fault as it is reported. -/
structure FaultReport where
  kind : FaultKind
  message : String
  givenCode : Option String := none

namespace FaultReport

/-- The code given, or that of the kind where none or an empty one was given. -/
def code (report : FaultReport) : String :=
  match report.givenCode with
  | some code => if code.isEmpty then report.kind.defaultCode else code
  | none => report.kind.defaultCode

end FaultReport

/-- The causes of failure. -/
inductive Fault where
  | unsupportedBase (base : ShownInt)
  | invalidDigit (base : Nat) (char : Char)
  | repeatedPoint
  | tooLong (limit : ShownInt)
  | tooDeep (limit : ShownInt)
  | unmatchedBracket
  | unknownToken (char : Char)
  | operatorArity (operator : Operator) (found : Nat)
  | targetNotSymbol (found : TokenKind)
  | undefinedName (name : String)
  | argumentCount (name : String) (expected : ShownInt) (found : Nat)
  /-- What a function has against its arguments, in its own words and under a code of its own if it
  gives one. -/
  | argument (message : String) (givenCode : Option String)
  | unsupportedFunction (name : String)
  | missingOperator
  | notOperand (found : TokenKind)
  | unknownOperator (operator : Operator)
deriving DecidableEq, Repr

namespace Fault

def report : Fault → FaultReport
  | unsupportedBase base =>
      { kind := .unsupportedBase
        message := s!"Unsupported base: {base}. Must be between 2 and 61" }
  | invalidDigit base char =>
      { kind := .invalidDigit, message := s!"Invalid character for base {base}: {char}" }
  | repeatedPoint =>
      { kind := .repeatedPoint, message := "Number may only contain one decimal point" }
  | tooLong limit =>
      { kind := .validation
        message := s!"Input too long (max {limit} characters)"
        givenCode := some "TOO_LONG" }
  | tooDeep limit =>
      { kind := .validation
        message := s!"Expression too deeply nested (max {limit} function calls)"
        givenCode := some "TOO_DEEP" }
  | unmatchedBracket =>
      { kind := .unmatchedBracket, message := "Syntax Error: unmatched bracket '('" }
  | unknownToken char => { kind := .unknownToken, message := s!"Unknown token '{char}'" }
  | operatorArity operator found =>
      { kind := .operatorArity
        message := s!"Operator {operator.symbol} requires two operands, found {found} only" }
  | targetNotSymbol found =>
      { kind := .targetNotSymbol
        message := s!"Syntax Error: expected symbol on lhs of '=', got {found.word}" }
  | undefinedName name => { kind := .undefinedName, message := s!"Name Error: '{name}'" }
  | argumentCount name expected found =>
      { kind := .argument
        message := s!"Argument Error: {name} expects {expected} argument(s), got {found}" }
  | argument message givenCode => { kind := .argument, message, givenCode }
  | unsupportedFunction name =>
      { kind := .unsupportedFunction
        message :=
          s!"Unsupported Error: non-builtin functions (namely, '{name}') are not supported" }
  | missingOperator => { kind := .missingOperator, message := "Syntax Error: expected operator" }
  | notOperand found =>
      { kind := .tokenValue
        message := s!"Value Error: expected literal or symbol, got {found.word}" }
  | unknownOperator operator =>
      { kind := .unknownOperator, message := s!"Unknown operator '{operator.symbol}'" }

def kind (fault : Fault) : FaultKind :=
  fault.report.kind

def message (fault : Fault) : String :=
  fault.report.message

def code (fault : Fault) : String :=
  fault.report.code

end Fault

end RadixCalc
