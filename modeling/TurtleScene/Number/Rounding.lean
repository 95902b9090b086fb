/-
**Rounding a fraction to the nearest floating-point number.**

* `Binary64.nearest` gives the magnitude nearest to a fraction. A fraction half-way between two
  magnitudes goes to the even one, and one that passes the largest finite value by half a step or
  more goes to infinity.
* `Binary64.add` and `Binary64.divide` are rounded in this way, and `Binary64.read?` reads a decimal
  text so.
-/

import TurtleScene.Number.Binary64
import TurtleScene.Number.Decimal

namespace TurtleScene.Binary64

/-- The magnitude nearest to `numerator / denominator`, of two equally near ones the even one. -/
def nearest (numerator denominator : Nat) : Nat :=
  let scaled := numerator * unitsPerOne
  let below := floorOfUnits (scaled / denominator)
  if infinity ≤ below then infinity
  else
    let middle := (unitsOf below + unitsOf (below + 1)) * denominator
    if 2 * scaled < middle then below
    else if middle < 2 * scaled then below + 1
    else below + below % 2

/-- The sum of two magnitudes, rounded. -/
def add (first second : Nat) : Nat := nearest (unitsOf first + unitsOf second) unitsPerOne

/-- The quotient of two magnitudes, rounded. -/
def divide (first second : Nat) : Nat := nearest (unitsOf first) (unitsOf second)

/-- The magnitude nearest to a decimal. -/
def nearestDecimal (decimal : Decimal) : Nat :=
  nearest decimal.coefficient (powerOfTen decimal.places)

/-- The number nearest to the decimal that a text denotes. -/
def read? (text : List Char) : Option Binary64 :=
  (Decimal.read? text).map fun decimal => ofParts false (nearestDecimal decimal)

end TurtleScene.Binary64
