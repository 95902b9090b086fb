/-
**The lines of a text.**

A line ends behind its line break, and the last one where the text ends; a text that ends in a line
break has an empty last line.

* `splitLines` cuts a text into lines and loses nothing (`splitLines_flatten`). Lines that are put
  together are cut apart again (`splitLines_flatMap`), so they are told by their text
  (`lines_eq_of_flatMap`).
* `placedLines` gives each line its byte offset, and `lineIndex` finds the line of an offset.
-/

import TurtleScene.Text.Bytes
import TurtleScene.Text.CharSet

namespace TurtleScene.Text

/-- The characters with the property `White_Space`. -/
def whitespace : CharSet where
  ranges := [
    (0x9, 0xD), (0x20, 0x20), (0x85, 0x85), (0xA0, 0xA0), (0x1680, 0x1680), (0x2000, 0x200A),
    (0x2028, 0x2029), (0x202F, 0x202F), (0x205F, 0x205F), (0x3000, 0x3000)]

/-- The lines of a text, each with its line break. -/
def splitLines : List Char → List (List Char)
  | [] => [[]]
  | head :: tail =>
    if head = '\n' then [head] :: splitLines tail
    else
      match splitLines tail with
      | [] => [[head]]
      | line :: others => (head :: line) :: others

theorem splitLines_ne_nil (text : List Char) : splitLines text ≠ [] := by
  unfold splitLines
  split
  · simp
  · split
    · simp
    · split <;> simp

theorem splitLines_flatten (text : List Char) : (splitLines text).flatten = text := by
  induction text with
  | nil => rfl
  | cons head tail ih =>
    unfold splitLines
    split
    · simp [ih]
    · split
      · rename_i nothing
        exact absurd nothing (splitLines_ne_nil tail)
      · rename_i line others found
        rw [found] at ih
        simpa using ih

theorem splitLines_append_newline {line : List Char} (inLine : '\n' ∉ line) (rest : List Char) :
    splitLines (line ++ '\n' :: rest) = (line ++ ['\n']) :: splitLines rest := by
  induction line with
  | nil => rw [List.nil_append, splitLines, if_pos rfl, List.nil_append]
  | cons head tail ih =>
    obtain ⟨noBreak, inTail⟩ := not_or.mp (mt List.mem_cons.mpr inLine)
    rw [List.cons_append, splitLines, if_neg (Ne.symm noBreak), ih inTail]
    rfl

/-- **Lines that are put together** are the lines of the text, and an empty one behind them. -/
theorem splitLines_flatMap {lines : List (List Char)} (each : ∀ line ∈ lines, '\n' ∉ line) :
    splitLines (lines.flatMap (· ++ ['\n'])) = lines.map (· ++ ['\n']) ++ [[]] := by
  induction lines with
  | nil => rfl
  | cons line others ih =>
    obtain ⟨inLine, each⟩ := List.forall_mem_cons.mp each
    rw [List.flatMap_cons, List.append_assoc, List.singleton_append,
      splitLines_append_newline inLine, ih each]
    rfl

/-- Lines are told by the text that they make. -/
theorem lines_eq_of_flatMap {lines others : List (List Char)} (each : ∀ line ∈ lines, '\n' ∉ line)
    (otherEach : ∀ line ∈ others, '\n' ∉ line)
    (same : lines.flatMap (· ++ ['\n']) = others.flatMap (· ++ ['\n'])) : lines = others := by
  have split := congrArg splitLines same
  rw [splitLines_flatMap each, splitLines_flatMap otherEach, List.append_left_inj] at split
  exact List.map_inj_right (fun _ _ ends => List.append_cancel_right ends) |>.mp split

/-- A line and the offset of its first byte. -/
structure TextLine where
  start : Nat
  content : List Char

/-- Lines one behind the other, the first of them at an offset. -/
def placeLines (start : Nat) : List (List Char) → List TextLine
  | [] => []
  | content :: others => ⟨start, content⟩ :: placeLines (start + byteLength content) others

/-- The lines of a text with their offsets. -/
def placedLines (text : List Char) : List TextLine := placeLines 0 (splitLines text)

/-- The index of the last line that starts at or before an offset. -/
def lineIndex (lines : List TextLine) (offset : Nat) : Nat :=
  (lines.countP fun line => line.start ≤ offset) - 1

/-- Whether a character is left out at the end of a shown line. -/
def isTrimmed (character : Char) : Bool :=
  character == '\n' || character == '\r' || character == '\x00'

namespace TextLine

/-- The line as it is shown. -/
def shown (line : TextLine) : List Char :=
  (line.content.reverse.dropWhile isTrimmed).reverse

/-- The column of an offset in the line: one more than the number of characters before it. -/
def column (line : TextLine) (offset : Nat) : Nat :=
  (splitAtByte (offset - line.start) line.content).1.length + 1

/-- The number of bytes before the first character that is not whitespace. -/
def indentation (line : TextLine) : Nat :=
  byteLength (line.content.takeWhile whitespace.contains)

end TextLine

end TurtleScene.Text
