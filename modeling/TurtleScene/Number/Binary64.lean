/-
**Binary floating-point numbers of 64 bits.**

A number is its bit pattern: a sign, eleven bits of exponent, and 52 bits of fraction. The 63 bits
below the sign, read as a natural number, order the magnitudes, so a magnitude is handled as that
number, and its value as a natural number of units of `2 ^ -1074`, the smallest positive value.

* `unitsOf` gives the value of a magnitude, and `floorOfUnits` the greatest magnitude up to a value.
* `Binary64.ieeeEq` is the comparison of the number format: a number that is none differs from
  itself, and the two zeros are equal.
-/

namespace TurtleScene

/-- A floating-point number by its bit pattern. -/
structure Binary64 where
  bits : UInt64
  deriving DecidableEq

namespace Binary64

/-- The weight of the lowest exponent bit, and the number of fractions: the 52nd power of two. -/
def fractionCount : Nat := 0x10000000000000

/-- The weight of the sign bit: the 63rd power of two. -/
def signWeight : Nat := 0x8000000000000000

/-- The magnitude of infinity; the ones above it are no numbers. -/
def infinity : Nat := 2047 * fractionCount

/-- The number of units of `2 ^ -1074` in one. -/
def unitsPerOne : Nat := 1 <<< 1074

/-- The value of a magnitude in units of `2 ^ -1074`. Infinity counts as the power of two that
would follow the largest finite value. -/
def unitsOf (magnitude : Nat) : Nat :=
  if magnitude < fractionCount then magnitude
  else (magnitude % fractionCount + fractionCount) <<< (magnitude / fractionCount - 1)

/-- The greatest magnitude whose value is at most a number of units. -/
def floorOfUnits (units : Nat) : Nat :=
  let shift := units.log2 - 52
  shift * fractionCount + units >>> shift

/-- The bits below the sign. -/
def magnitude (number : Binary64) : Nat := number.bits.toNat % signWeight

/-- Whether the sign bit is set. -/
def isNegative (number : Binary64) : Bool := signWeight ≤ number.bits.toNat

/-- Whether the pattern stands for no number. -/
def isNotANumber (number : Binary64) : Bool := infinity < number.magnitude

/-- Whether the pattern stands for a real number. -/
def isFinite (number : Binary64) : Bool := number.magnitude < infinity

/-- The number with a sign and a magnitude. -/
def ofParts (negative : Bool) (magnitude : Nat) : Binary64 :=
  ⟨UInt64.ofNat ((if negative then signWeight else 0) + magnitude)⟩

/-- The number with the other sign. -/
def negate (number : Binary64) : Binary64 := ofParts (!number.isNegative) number.magnitude

/-- Equality of the numbers denoted: none equals a pattern that stands for no number, and zero has
two patterns. -/
def ieeeEq (first second : Binary64) : Bool :=
  !first.isNotANumber && !second.isNotANumber &&
    (first.bits == second.bits || (first.magnitude == 0 && second.magnitude == 0))

end Binary64

end TurtleScene
