/-
**Decimal fractions.**

A decimal is a natural number divided by a power of ten. It is read from digits, a point and digits,
and written without an exponent, a point only where a fraction follows.

* `Decimal.read?` and `Decimal.write`.
-/

import TurtleScene.Number.Numeral

namespace TurtleScene

/-- A power of ten. -/
def powerOfTen (exponent : Nat) : Nat := Nat.pow 10 exponent

/-- The number `coefficient / powerOfTen places`. -/
structure Decimal where
  coefficient : Nat
  places : Nat
  deriving DecidableEq

namespace Decimal

/-- The decimal that digits with a point between them denote. -/
def read? (text : List Char) : Option Decimal :=
  match text.dropWhile Char.isDigit with
  | '.' :: fraction =>
    let whole := text.takeWhile Char.isDigit
    if !whole.isEmpty && !fraction.isEmpty && fraction.all Char.isDigit then
      some ⟨Numeral.value (whole ++ fraction), fraction.length⟩
    else none
  | _ => none

/-- The digits of a decimal, at least one of them before the point. -/
def paddedDigits (decimal : Decimal) : List Char :=
  let digits := Numeral.write decimal.coefficient
  List.replicate (decimal.places + 1 - digits.length) '0' ++ digits

/-- The digits before the point. -/
def wholeDigits (decimal : Decimal) : List Char :=
  decimal.paddedDigits.take (decimal.paddedDigits.length - decimal.places)

/-- The digits behind the point up to the last that is not zero. -/
def fractionDigits (decimal : Decimal) : List Char :=
  ((decimal.paddedDigits.drop (decimal.paddedDigits.length - decimal.places)).reverse.dropWhile
    (· == '0')).reverse

/-- The positional text of a decimal, without a point if it is a whole number. -/
def write (decimal : Decimal) : List Char :=
  if decimal.fractionDigits.isEmpty then decimal.wholeDigits
  else decimal.wholeDigits ++ '.' :: decimal.fractionDigits

end Decimal

end TurtleScene
