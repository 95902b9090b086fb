/-
**Sets of characters.**

A set is given by ranges of code points in ascending order, as the tables of the Unicode standard
are.

* `CharSet.contains` looks for the first range that ends at or behind a character; only that one can
  hold it.
-/

namespace TurtleScene.Text

/-- A set of characters: ranges of code points in ascending order, both ends included. -/
structure CharSet where
  ranges : List (Nat × Nat)

/-- Whether a code point lies in one of some ascending ranges. -/
def inRanges (code : Nat) : List (Nat × Nat) → Bool
  | [] => false
  | (first, last) :: others => if code ≤ last then first ≤ code else inRanges code others

/-- Whether a character lies in one of the ranges. -/
def CharSet.contains (set : CharSet) (character : Char) : Bool :=
  inRanges character.toNat set.ranges

end TurtleScene.Text
