/-
**The colours that a pencil may have.**

* A palette lists named colours; `Palette.allow` adds one at the end unless it is there.
* `Palette.accepts` takes the named colours and all hexadecimal colour codes (`isHexColor`).
-/

import TurtleScene.Text.Bytes

namespace TurtleScene

/-- Whether a character is a hexadecimal digit, in either case. -/
def isHexDigit (character : Char) : Bool :=
  character.isDigit || ('a' ≤ character && character ≤ 'f') ||
    ('A' ≤ character && character ≤ 'F')

/-- Whether a text is a `#` and hexadecimal digits, four or seven bytes in all. -/
def isHexColor (text : String) : Bool :=
  match text.toList with
  | '#' :: digits =>
    (Text.byteLength ('#' :: digits) == 4 || Text.byteLength ('#' :: digits) == 7) &&
      digits.all isHexDigit
  | _ => false

/-- The named colours that a pencil may have, in the order in which they were listed. -/
structure Palette where
  names : List String
  deriving DecidableEq

namespace Palette

/-- The colours that are accepted without being asked for. -/
def standard : Palette := ⟨["blue", "green", "purple", "black"]⟩

/-- Whether a colour is named, in exactly this spelling. -/
def contains (palette : Palette) (color : String) : Bool := palette.names.contains color

/-- The palette with one more named colour. -/
def allow (palette : Palette) (color : String) : Palette :=
  if palette.contains color then palette else ⟨palette.names ++ [color]⟩

/-- The palette with more named colours, added one by one. -/
def allowAll (palette : Palette) (colors : List String) : Palette := colors.foldl allow palette

/-- Whether a pencil may have a colour. -/
def accepts (palette : Palette) (color : String) : Bool :=
  palette.contains color || isHexColor color

theorem contains_iff {palette : Palette} {color : String} :
    palette.contains color = true ↔ color ∈ palette.names := by
  simp [contains]

theorem contains_allow (palette : Palette) (color other : String) :
    (palette.allow color).contains other = (palette.contains other || other == color) := by
  unfold allow
  split
  · rename_i present
    by_cases same : other = color
    · simp [same, present]
    · simp [same]
  · by_cases same : other = color <;> simp [contains, same]

end Palette

end TurtleScene
