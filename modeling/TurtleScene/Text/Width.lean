/-
**How many columns a text takes on a terminal.**

* `charWidth` is 0 for controls and marks, 2 for East Asian wide characters and emoji, and else 1,
  but for a few characters that are written like several others.
* A tab goes on to the next multiple of `tabStop` columns, so the width of a character depends on
  the column it stands in: `columns` walks a text and pairs each character with its width.
-/

import TurtleScene.Text.GraphemeExtend
import TurtleScene.Text.Ignorable
import TurtleScene.Text.Wide

namespace TurtleScene.Text

/-- Whether a character is a control, which a terminal does not draw. -/
def isControl (character : Char) : Bool :=
  character.toNat < 0x20 || (0x7F ≤ character.toNat && character.toNat ≤ 0x9F)

/-- The number of columns that a character takes wherever it stands. The leading filler of Hangul
keeps the place of a wide letter, and the Tifinagh joiner that of a narrow one. The Khmer vowel QAA
is written as two letters, and the Khmer sign BEYYAL as three. -/
def charWidth (character : Char) : Nat :=
  if isControl character then 0
  else if character = '\u115F' ∨ character = '\u17A4' then 2
  else if character = '\u17D8' then 3
  else if character = '\u2D7F' then 1
  else if defaultIgnorable.contains character || graphemeExtend.contains character ||
      joiningMarks.contains character then 0
  else if wide.contains character then 2
  else 1

/-- Tabs go on to the next multiple of this number of columns. -/
def tabStop : Nat := 4

/-- The number of columns that a character takes when it begins in a column. -/
def widthAt (column : Nat) (character : Char) : Nat :=
  if character = '\t' then tabStop - column % tabStop else charWidth character

/-- The characters of a text, the first of which begins in `column`, with their widths. -/
def columnsFrom (column : Nat) : List Char → List (Char × Nat)
  | [] => []
  | head :: tail =>
    let width := widthAt column head
    (head, width) :: columnsFrom (column + width) tail

/-- The characters of a line with their widths. -/
def columns (line : List Char) : List (Char × Nat) := columnsFrom 0 line

/-- Each tab as the spaces that it stands for. -/
def expandTabs (line : List Char) : List Char :=
  (columns line).flatMap fun (character, width) =>
    if character = '\t' then List.replicate width ' ' else [character]

end TurtleScene.Text
