/-
**The shortest decimal of a floating-point number.**

Decimals lie on nested grids, each ten times finer than the one before. The shortest decimal of a
number lies on the coarsest grid with a point that reads back as the number; of two such points the
nearer one is taken, and of two equally near ones the greater.

* `Binary64.shortest` searches the grids from coarse to fine, and `Binary64.write` is the text of a
  number.
-/

import TurtleScene.Number.Rounding

namespace TurtleScene.Binary64

/-- The decimals that are a multiple of `step / powerOfTen places`. -/
structure Grid where
  step : Nat
  places : Nat

namespace Grid

/-- The grids of whole numbers from the one whose step has `digits` zeros downwards, and then those
of fractions up to the grid that holds every finite value. -/
def descending (digits : Nat) : List Grid :=
  ((List.range (digits + 1)).reverse.map fun zeros => ⟨powerOfTen zeros, 0⟩) ++
    (List.range 1074).map fun places => ⟨1, places + 1⟩

/-- A multiple of the step. -/
def point (grid : Grid) (index : Nat) : Decimal := ⟨grid.step * index, grid.places⟩

/-- The index of the greatest point up to the value of a magnitude. -/
def floorIndex (grid : Grid) (magnitude : Nat) : Nat :=
  unitsOf magnitude * powerOfTen grid.places / (unitsPerOne * grid.step)

/-- The point of a grid next to the value of a magnitude that reads back as it, if there is one:
the nearer one of two, and the upper one if both are as near. -/
def hit? (grid : Grid) (magnitude : Nat) : Option Decimal :=
  let lower := grid.point (grid.floorIndex magnitude)
  let upper := grid.point (grid.floorIndex magnitude + 1)
  let value := unitsOf magnitude * powerOfTen grid.places
  let lowerIsNearer := 2 * value < (lower.coefficient + upper.coefficient) * unitsPerOne
  match nearestDecimal lower == magnitude, nearestDecimal upper == magnitude with
  | true, true => some (if lowerIsNearer then lower else upper)
  | true, false => some lower
  | false, true => some upper
  | false, false => none

end Grid

/-- The decimal with all digits of a finite magnitude. -/
def exact (magnitude : Nat) : Decimal :=
  ⟨unitsOf magnitude * powerOfTen 1074 / unitsPerOne, 1074⟩

/-- The shortest decimal that reads back as a finite magnitude. -/
def shortest (magnitude : Nat) : Decimal :=
  let digits := (Numeral.write (unitsOf magnitude / unitsPerOne)).length
  ((Grid.descending digits).findSome? fun grid => grid.hit? magnitude).getD (exact magnitude)

/-- The text of a number: its shortest decimal behind the sign. -/
def write (number : Binary64) : List Char :=
  if number.isNotANumber then ['N', 'a', 'N']
  else
    let size := if number.isFinite then (shortest number.magnitude).write else ['i', 'n', 'f']
    if number.isNegative then '-' :: size else size

end TurtleScene.Binary64
