/-
**Lines as a terminal shows them.**

* `TextLine.shownText` is a line with its tabs as spaces.
* `TextLine.underline` is the line of carets below a stretch of it, and `TextLine.widthBefore` the
  number of columns before an offset.
-/

import TurtleScene.Text.Lines
import TurtleScene.Text.Width

namespace TurtleScene.Text

/-- A text a number of times. -/
def repeated (count : Nat) (text : String) : String := String.join (List.replicate count text)

/-- A character of a shown line: its offset in the line, its size in bytes and its width. -/
structure Cell where
  offset : Nat
  size : Nat
  width : Nat

/-- The characters of a shown line. -/
def TextLine.cells (line : TextLine) : List Cell :=
  ((charOffsets 0 line.shown).zip (columns line.shown)).map fun (offset, character, width) =>
    ⟨offset, character.utf8Size, width⟩

/-- A shown line as text, its tabs as spaces. -/
def TextLine.shownText (line : TextLine) : String := String.ofList (expandTabs line.shown)

/-- The number of columns of the characters of a shown line that start before an offset in it. -/
def TextLine.widthBefore (offset : Nat) (line : TextLine) : Nat :=
  let before := line.cells.filter fun cell => cell.offset < offset
  before.foldl (fun total cell => total + cell.width) 0

/-- The place behind a shown line, which an underline may reach. -/
def TextLine.endCell (line : TextLine) : Cell := ⟨byteLength line.shown, 1, 1⟩

/-- What stands below a character for a label on its line: carets if the label covers it, spaces if
it stands before the label's end, and else nothing. -/
def Cell.underline (start stop : Nat) (cell : Cell) : String :=
  if cell.offset < stop ∧ start < cell.offset + cell.size then repeated cell.width "^"
  else if cell.offset < stop then repeated cell.width " "
  else ""

/-- The carets below a label on one line. -/
def TextLine.underline (start stop : Nat) (line : TextLine) : String :=
  String.join ((line.cells ++ [line.endCell]).map (Cell.underline start stop))

end TurtleScene.Text
