/-
**Reported problems and the files they are in.**

* A diagnostic is a problem made ready for display: a heading, and a label that points into a file
  unless the problem has no place (`Problem.toDiagnostic`).
* A reporter numbers the files in the order in which they are added, and counts what is reported.
-/

import TurtleScene.Problem

namespace TurtleScene

/-- A message at a place in a file. -/
structure Label where
  file : Nat
  span : Span
  message : String
  deriving DecidableEq

/-- A problem made ready for display. -/
structure Diagnostic where
  heading : String
  label : Option Label
  deriving DecidableEq

/-- The displayed form of a problem with a file. -/
def Problem.toDiagnostic (file : Nat) (problem : Problem) : Diagnostic where
  heading := problem.heading
  label := problem.span?.map fun span => ⟨file, span, problem.message⟩

/-- A file by its name and text. -/
structure SourceFile where
  name : String
  text : String
  deriving DecidableEq

/-- The files that problems are reported in, and the number of problems reported. -/
structure Reporter where
  files : List SourceFile
  reported : Nat
  deriving DecidableEq

namespace Reporter

/-- A reporter before its first file. -/
def empty : Reporter := ⟨[], 0⟩

/-- The number that the next file gets. -/
def nextFile (reporter : Reporter) : Nat := reporter.files.length

/-- The reporter with one more file. -/
def addFile (reporter : Reporter) (file : SourceFile) : Reporter :=
  { reporter with files := reporter.files ++ [file] }

/-- The reporter after a number of problems. -/
def report (reporter : Reporter) (count : Nat) : Reporter :=
  { reporter with reported := reporter.reported + count }

end Reporter

end TurtleScene
