/-
**Why a source is no scene.**

* `ParseError.message` words each cause, and `ParseError.toProblem` puts it into the common form.
-/

import TurtleScene.Problem
import TurtleScene.Token.Stream

namespace TurtleScene

/-- What the grammar asks for where something else was found. -/
inductive Expectation
  | exactly (kind : TokenKind)
  | declaration
  | identifier
  | color
  | instruction
  | expression
  | numberAfterMinus
  deriving DecidableEq

/-- The words by which an error message names an expectation. -/
def Expectation.describe : Expectation → String
  | .exactly kind => kind.describe
  | .declaration => "'shape' or 'draw'"
  | .identifier => "identifier"
  | .color => "color"
  | .instruction => "instruction"
  | .expression => "expression"
  | .numberAfterMinus => "number after '-'"

/-- The causes for which a source is refused. -/
inductive ParseError
  /-- The next token cannot be read. -/
  | lexical (error : LexicalError)
  | unexpected (expected : Expectation) (found : Token)
  | integerOutOfRange (text : String) (span : Span)
  | malformedDecimal (text : String) (span : Span)
  /-- A second shape of a name, with the place of its definition. -/
  | duplicateShape (name : String) (span : Span)
  /-- A drawn shape that is defined nowhere, with the place of its name. -/
  | unknownShape (name : String) (span : Span)
  deriving DecidableEq

namespace ParseError

/-- The wording of a cause. -/
def message : ParseError → String
  | .lexical error => error.message
  | .unexpected expected found =>
    "expected " ++ expected.describe ++ ", found " ++ found.kind.describe
  | .integerOutOfRange text _ => "integer literal '" ++ text ++ "' out of range"
  | .malformedDecimal text _ => "invalid float literal '" ++ text ++ "'"
  | .duplicateShape name _ => "shape '" ++ name ++ "' is already defined"
  | .unknownShape name _ => "unknown shape '" ++ name ++ "'"

/-- The place of a cause. -/
def span : ParseError → Span
  | .lexical error => error.span
  | .unexpected _ found => found.span
  | .integerOutOfRange _ span | .malformedDecimal _ span | .duplicateShape _ span
  | .unknownShape _ span => span

/-- The stage that finds a cause. -/
def stage : ParseError → Stage
  | .lexical _ => .lexing
  | .unexpected .. | .integerOutOfRange .. | .malformedDecimal .. | .duplicateShape ..
  | .unknownShape .. => .parsing

/-- A cause in the common form of problems. -/
def toProblem (error : ParseError) : Problem := .found error.stage error.message error.span

end ParseError

end TurtleScene
