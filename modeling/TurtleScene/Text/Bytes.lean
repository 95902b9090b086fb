/-
**Byte lengths of texts.**

Texts are handled as lists of characters, but places in them are byte offsets of their UTF-8 form.

* `byteLength` is additive over concatenation (`byteLength_append`).
* `splitAtByte` cuts a text at a byte offset; `slice` is the text under a range of offsets.
* `charOffsets` gives the offset of each character.
-/

namespace TurtleScene.Text

/-- The number of bytes of the UTF-8 form of a text. -/
def byteLength : List Char → Nat
  | [] => 0
  | head :: tail => head.utf8Size + byteLength tail

@[simp] theorem byteLength_nil : byteLength [] = 0 := rfl

@[simp] theorem byteLength_cons (head : Char) (tail : List Char) :
    byteLength (head :: tail) = head.utf8Size + byteLength tail := rfl

@[simp] theorem byteLength_append (first second : List Char) :
    byteLength (first ++ second) = byteLength first + byteLength second := by
  induction first with
  | nil => simp
  | cons head tail ih => simp [ih, Nat.add_assoc]

/-- The characters that start before a byte offset, and the others. -/
def splitAtByte : Nat → List Char → List Char × List Char
  | 0, text => ([], text)
  | _, [] => ([], [])
  | offset, head :: tail =>
    let (before, after) := splitAtByte (offset - head.utf8Size) tail
    (head :: before, after)

/-- The text between two byte offsets. -/
def slice (start stop : Nat) (text : List Char) : List Char :=
  (splitAtByte (stop - start) (splitAtByte start text).2).1

/-- The offset of each character of a text that begins at an offset. -/
def charOffsets (offset : Nat) : List Char → List Nat
  | [] => []
  | head :: tail => offset :: charOffsets (offset + head.utf8Size) tail

end TurtleScene.Text
