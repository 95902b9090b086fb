/-
**A diagnostic in front of its source.**

A diagnostic is shown below its heading with the lines that its label covers, numbered in a gutter.
A label on one line is underlined with carets, one over several lines has a bracket beside them.
Columns are counted as a terminal shows them.

* `Reporter.render` gives the lines to show.
-/

import TurtleScene.Report.Diagnostic
import TurtleScene.Text.Underline

namespace TurtleScene

open Text

/-- The gutter of the shown lines: the number of columns for line numbers. -/
structure Gutter where
  width : Nat

namespace Gutter

/-- The gutter that holds the numbers up to a line number. -/
def upTo (number : Nat) : Gutter := ⟨number.repr.length⟩

/-- The gutter beside a line without a number. -/
def blank (gutter : Gutter) : String := repeated gutter.width " "

/-- The gutter beside a line with a number. -/
def numbered (gutter : Gutter) (number : Nat) : String :=
  repeated (gutter.width - number.repr.length) " " ++ number.repr

end Gutter

/-- The lines below the heading for a label on one line. -/
def renderSingle (gutter : Gutter) (index : Nat) (line : TextLine) (label : Label) :
    List String :=
  let start := label.span.start - line.start
  let stop := max (label.span.stop - line.start) (start + 1)
  [gutter.blank ++ " │",
    gutter.numbered (index + 1) ++ " │ " ++ line.shownText,
    gutter.blank ++ " │ " ++ line.underline start stop ++ " " ++ label.message]

/-- Whether a line inside a label is shown: the three lines after its first one are, and the one
before its last. -/
def isNearEnd (first last index : Nat) : Bool := index ≤ first + 3 || last ≤ index + 1

/-- The lines inside a label. Where a single line would be hidden it is shown, and a longer stretch
of hidden lines is marked by a dot. -/
def renderInside (gutter : Gutter) (first last : Nat) (lines : List TextLine) : List String :=
  let inside := (List.range (last - first - 1)).map fun distance => first + 1 + distance
  let hidden := inside.filter fun index => !isNearEnd first last index
  inside.flatMap fun index =>
    if hidden.length ≤ 1 || isNearEnd first last index then
      match lines[index]? with
      | some line => [gutter.numbered (index + 1) ++ " │ │ " ++ line.shownText]
      | none => []
    else if hidden.head? = some index then [gutter.blank ++ " · │"]
    else []

/-- The lines below the heading for a label over several lines. -/
def renderSeveral (gutter : Gutter) (first last : Nat) (lines : List TextLine)
    (firstLine lastLine : TextLine) (label : Label) : List String :=
  let start := label.span.start - firstLine.start
  let stop := label.span.stop - lastLine.start
  let opening :=
    if start ≤ firstLine.indentation then
      [gutter.numbered (first + 1) ++ " │ ╭ " ++ firstLine.shownText]
    else
      [gutter.numbered (first + 1) ++ " │   " ++ firstLine.shownText,
        gutter.blank ++ " │ ╭" ++ repeated (firstLine.widthBefore (start + 1)) "─" ++ "^"]
  let closing :=
    [gutter.numbered (last + 1) ++ " │ │ " ++ lastLine.shownText,
      gutter.blank ++ " │ ╰" ++ repeated (lastLine.widthBefore stop) "─" ++ "^ " ++ label.message]
  (gutter.blank ++ " │  ") :: opening ++ renderInside gutter first last lines ++ closing

/-- The lines below the heading for a label in a file. -/
def Label.render (file : SourceFile) (label : Label) : List String :=
  let lines := placedLines file.text.toList
  let first := lineIndex lines label.span.start
  let last := lineIndex lines label.span.stop
  match lines[first]?, lines[last]? with
  | some firstLine, some lastLine =>
    let gutter := Gutter.upTo (max first last + 1)
    let place := file.name ++ ":" ++ (first + 1).repr ++ ":" ++
      (firstLine.column label.span.start).repr
    (gutter.blank ++ " ┌─ " ++ place) ::
      if first = last then renderSingle gutter first firstLine label
      else renderSeveral gutter first last lines firstLine lastLine label
  | _, _ => []

/-- The lines of a diagnostic among the files of a reporter, an empty one at the end. -/
def Reporter.render (reporter : Reporter) (diagnostic : Diagnostic) : List String :=
  let shown := match diagnostic.label with
    | some label =>
      match reporter.files[label.file]? with
      | some file => label.render file
      | none => []
    | none => []
  ("error: " ++ diagnostic.heading) :: shown ++ [""]

end TurtleScene
