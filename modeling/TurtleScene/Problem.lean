/-
**Problems with a source.**

Whatever stage finds a problem, it is told in one form: the stage, a message and the place. A source
that cannot be read at all has no place.

* `Problem.describe` is the one-line description, and `Problem.heading` the title of a report.
-/

import TurtleScene.Span

namespace TurtleScene

/-- The stages that look at a source. -/
inductive Stage
  | lexing
  | parsing
  | checking
  deriving DecidableEq

/-- A problem in its common form. -/
inductive Problem
  | found (stage : Stage) (message : String) (span : Span)
  /-- The source could not be read. -/
  | unreadable (message : String)
  deriving DecidableEq

/-- The opening words of a description. -/
def Stage.opening : Stage → String
  | .lexing => "Lexer error at "
  | .parsing => "Parser error at "
  | .checking => "Semantic error at "

/-- The title of a report. -/
def Stage.heading : Stage → String
  | .lexing => "Lexer error"
  | .parsing => "Syntax error"
  | .checking => "Semantic error"

namespace Problem

/-- What is wrong. -/
def message : Problem → String
  | .found _ message _ => message
  | .unreadable message => message

/-- Where it is wrong. -/
def span? : Problem → Option Span
  | .found _ _ span => some span
  | .unreadable _ => none

/-- The problem on one line. -/
def describe : Problem → String
  | .found stage message span => stage.opening ++ span.describe ++ ": " ++ message
  | .unreadable message => "IO error: " ++ message

/-- The title under which the problem is reported. A problem without a place has its message there,
as there is no line to put it under. -/
def heading : Problem → String
  | .found stage _ _ => stage.heading
  | .unreadable message => "IO error: " ++ message

end Problem

end TurtleScene
