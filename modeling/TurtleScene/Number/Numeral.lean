/-
**Numerals.**

* `Numeral.write` writes a natural number in decimal digits and `Numeral.read?` reads digits, with
  any number of leading zeros. What is written denotes the number (`value_write`).
* `Integer.read?` reads a numeral with an optional sign as a 64-bit integer and refuses what lies
  outside the range. The sign belongs to the text, so the smallest integer can be read.
-/

namespace TurtleScene

namespace Numeral

/-- The decimal digits of a number, without leading zeros. -/
def write (value : Nat) : List Char := Nat.toDigits 10 value

/-- The number that a list of decimal digits denotes. -/
def value (digits : List Char) : Nat := Nat.ofDigitChars 10 digits 0

/-- The number that a text of one or more digits denotes. -/
def read? (text : List Char) : Option Nat :=
  if !text.isEmpty && text.all Char.isDigit then some (value text) else none

theorem isDigit_of_mem_write {number : Nat} {digit : Char} (found : digit ∈ write number) :
    digit.isDigit = true :=
  Nat.isDigit_of_mem_toDigits (by decide) (by decide) found

@[simp] theorem value_write (number : Nat) : value (write number) = number :=
  Nat.ofDigitChars_toDigits (by decide) (by decide)

end Numeral

namespace Integer

/-- Whether an integer is a signed number of 64 bits. -/
def inRange (value : Int) : Bool :=
  -9223372036854775808 ≤ value && value ≤ 9223372036854775807

/-- The integer that digits denote behind an optional minus sign, if it has 64 bits. -/
def read? (text : List Char) : Option Int64 := do
  let value ← match text with
    | '-' :: digits => (Numeral.read? digits).map fun size => -(size : Int)
    | digits => (Numeral.read? digits).map fun size => (size : Int)
  if inRange value then some (Int64.ofInt value) else none

/-- The decimal digits of an integer behind its sign if it is negative. -/
def write (value : Int64) : List Char :=
  if value.toInt < 0 then '-' :: Numeral.write value.toInt.natAbs
  else Numeral.write value.toInt.natAbs

end Integer

end TurtleScene
