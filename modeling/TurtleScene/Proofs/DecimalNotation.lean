/-
**The numbers that decimal texts denote.**

Digits denote a natural number, and digits behind a point a fraction of a power of ten. What is read
from such a text, and what is written for a decimal, denotes the decimal; a decimal is written
without zeros at the end of its fraction. The decimal of a finite floating-point number reads back
as that number, so its text does.

* `Decimal.Denotes` — **a text and the number that it denotes.**
* `Decimal.Denotes.eq_ofText` — what is read from digits, a point and digits.
* `Decimal.denotes_write`, `Decimal.getLast?_write_ne` — what is written for a decimal.
* **`Binary64.rounds_shortest`** — the shortest decimal of a finite magnitude is rounded to it.
* `Binary64.toList_print` — the text of a finite number is the one of its shortest decimal behind
  its sign.
-/

import Mathlib.Data.List.DropRight
import TurtleScene.Number.Shortest
import TurtleScene.Proofs.Derivation
import TurtleScene.Proofs.Lists
import TurtleScene.Proofs.Nearest
import TurtleScene.Proofs.OperandLines
import TurtleScene.Proofs.Pattern
import TurtleScene.Scene.Outline

namespace TurtleScene

/-! ### Digits -/

namespace Numeral

/-- Digits weigh more in front of other digits. -/
theorem value_append (front behind : List Char) :
    value (front ++ behind) = value front * 10 ^ behind.length + value behind := by
  rw [value, Nat.ofDigitChars_append, Nat.ofDigitChars_eq_ofDigitChars_zero, Nat.mul_comm]
  rfl

theorem value_zeros (count : Nat) : value (List.replicate count '0') = 0 := by
  induction count with
  | zero => rfl
  | succ count ih =>
    rw [List.replicate_succ', value_append, ih]
    rfl

end Numeral

/-! ### Decimal texts -/

namespace Decimal

/-- The value of a decimal. -/
def toRat (decimal : Decimal) : ℚ := decimal.coefficient / 10 ^ decimal.places

/-- **The number that a text denotes**: digits, or digits with a point between them. -/
inductive Denotes : List Char → ℚ → Prop
  | whole {digits : List Char} : digits ∈ Pattern.integer.language →
      Denotes digits (Numeral.value digits)
  | fraction {whole fraction : List Char} : whole ∈ Pattern.integer.language →
      fraction ∈ Pattern.integer.language →
      Denotes (whole ++ '.' :: fraction)
        (Numeral.value whole + Numeral.value fraction / 10 ^ fraction.length)

/-- Digits in front of a point and behind it, as one number of smaller parts. -/
theorem value_fraction (whole fraction : List Char) :
    (Numeral.value whole : ℚ) + Numeral.value fraction / 10 ^ fraction.length =
      Numeral.value (whole ++ fraction) / 10 ^ fraction.length := by
  have nonzero : (10 : ℚ) ^ fraction.length ≠ 0 := pow_ne_zero _ (by norm_num)
  rw [Numeral.value_append, Nat.cast_add, Nat.cast_mul, Nat.cast_pow, Nat.cast_ofNat, add_div,
    mul_div_cancel_right₀ _ nonzero]

/-- A text with a point denotes the decimal that is read from it. -/
theorem Denotes.eq_ofText {text : List Char} {value : ℚ} (denotes : Denotes text value)
    (isDecimal : text ∈ Pattern.decimal.language) : value = (ofText text).toRat := by
  cases denotes with
  | whole isInteger =>
    obtain ⟨whole, fraction, _, _, rfl⟩ := Pattern.mem_decimal.mp isDecimal
    have point := (Pattern.mem_integer.mp isInteger).2 '.' (by simp)
    exact absurd point (by decide)
  | @fraction whole fraction inWhole inFraction =>
    have digits := (Pattern.mem_integer.mp inWhole).2
    rw [value_fraction, toRat, ofText, takeWhile_append_stop fraction digits (by decide),
      dropWhile_append_stop fraction digits (by decide), List.tail_cons]

/-- A text with a point that denotes a number is digits on both sides of the point. -/
theorem Denotes.isDecimal {text : List Char} {value : ℚ} (denotes : Denotes text value)
    (hasPoint : '.' ∈ text) : text ∈ Pattern.decimal.language := by
  cases denotes with
  | whole isInteger => exact absurd ((Pattern.mem_integer.mp isInteger).2 '.' hasPoint) (by decide)
  | fraction inWhole inFraction =>
    exact Pattern.mem_decimal.mpr
      ⟨_, _, Pattern.mem_integer.mp inWhole, Pattern.mem_integer.mp inFraction, rfl⟩

theorem exists_denotes {text : List Char} (isDecimal : text ∈ Pattern.decimal.language) :
    ∃ value, Denotes text value := by
  obtain ⟨whole, fraction, inWhole, inFraction, rfl⟩ := Pattern.mem_decimal.mp isDecimal
  exact ⟨_, .fraction (Pattern.mem_integer.mpr inWhole) (Pattern.mem_integer.mpr inFraction)⟩

/-! ### What is written for a decimal -/

theorem value_paddedDigits (decimal : Decimal) :
    Numeral.value decimal.paddedDigits = decimal.coefficient := by
  rw [paddedDigits, Numeral.value_append, Numeral.value_zeros, Nat.zero_mul, Nat.zero_add,
    Numeral.value_write]

theorem places_lt_length_paddedDigits (decimal : Decimal) :
    decimal.places < decimal.paddedDigits.length := by
  rw [paddedDigits, List.length_append, List.length_replicate]
  omega

/-- The digits behind the point, with the zeros at their end that are not written. -/
theorem exists_zeros (decimal : Decimal) : ∃ count,
    decimal.paddedDigits =
        decimal.wholeDigits ++ (decimal.fractionDigits ++ List.replicate count '0') ∧
      decimal.fractionDigits.length + count = decimal.places := by
  let behind := decimal.paddedDigits.drop (decimal.paddedDigits.length - decimal.places)
  have split : decimal.fractionDigits ++ behind.rtakeWhile (· == '0') = behind :=
    List.rdropWhile_append_rtakeWhile
  have zeros : behind.rtakeWhile (· == '0') =
      List.replicate (behind.rtakeWhile (· == '0')).length '0' :=
    List.eq_replicate_of_mem fun digit member =>
      beq_iff_eq.mp (List.mem_rtakeWhile_imp (p := (· == '0')) member)
  have places : behind.length = decimal.places := by
    have := decimal.places_lt_length_paddedDigits
    rw [List.length_drop]
    omega
  refine ⟨(behind.rtakeWhile (· == '0')).length, ?_, ?_⟩
  · rw [← zeros, split]
    exact (List.take_append_drop _ _).symm
  · rw [← List.length_append, split, places]

/-- **What is written for a decimal denotes it.** -/
theorem denotes_write (decimal : Decimal) : Denotes decimal.write decimal.toRat := by
  obtain ⟨count, form, places⟩ := decimal.exists_zeros
  have inWhole : decimal.wholeDigits ∈ Pattern.integer.language := by
    refine Pattern.mem_integer.mpr ⟨fun isEmpty => ?_, fun digit member =>
      isDigit_of_mem_paddedDigits (List.mem_of_mem_take member)⟩
    have := decimal.places_lt_length_paddedDigits
    rw [form, isEmpty, List.nil_append, List.length_append, List.length_replicate] at this
    omega
  have value : decimal.toRat = Numeral.value decimal.wholeDigits +
      Numeral.value decimal.fractionDigits / 10 ^ decimal.fractionDigits.length := by
    have nonzero : (10 : ℚ) ^ count ≠ 0 := pow_ne_zero _ (by norm_num)
    rw [toRat, ← value_paddedDigits, form, ← places, ← List.append_assoc, Numeral.value_append,
      Numeral.value_zeros, Nat.add_zero, List.length_replicate, Nat.cast_mul, Nat.cast_pow,
      Nat.cast_ofNat, pow_add, mul_div_mul_right _ _ nonzero, value_fraction]
  rw [write, value]
  split
  · rename_i noFraction
    rw [List.isEmpty_iff.mp noFraction, show Numeral.value [] = 0 from rfl, Nat.cast_zero, zero_div,
      add_zero]
    exact .whole inWhole
  · rename_i hasFraction
    refine .fraction inWhole (Pattern.mem_integer.mpr ⟨?_, fun digit member => ?_⟩)
    · rintro isEmpty
      exact hasFraction (List.isEmpty_iff.mpr isEmpty)
    · have inPadded : digit ∈ decimal.paddedDigits := by
        rw [form]
        exact List.mem_append_right _ (List.mem_append_left _ member)
      exact isDigit_of_mem_paddedDigits inPadded

/-- **What is written behind a point does not end in a zero.** -/
theorem getLast?_write_ne {decimal : Decimal} (hasPoint : '.' ∈ decimal.write) :
    decimal.write.getLast? ≠ some '0' := by
  unfold write at hasPoint ⊢
  split at hasPoint
  · have isDigit := isDigit_of_mem_paddedDigits (List.mem_of_mem_take hasPoint)
    exact absurd isDigit (by decide)
  · rename_i hasFraction
    have nonempty : decimal.fractionDigits ≠ [] := fun isEmpty =>
      hasFraction (List.isEmpty_iff.mpr isEmpty)
    rw [if_neg hasFraction, List.getLast?_append, List.getLast?_cons_of_ne_nil nonempty,
      List.getLast?_eq_getLast_of_ne_nil nonempty, Option.some_or]
    have notZero := List.rdropWhile_last_not (· == '0') _ nonempty
    intro isZero
    exact notZero (beq_iff_eq.mpr (Option.some.inj isZero))

end Decimal

/-! ### Finite numbers -/

namespace Binary64

/-- What is computed for a decimal is the number to which its value is rounded. -/
theorem rounds_nearestDecimal (decimal : Decimal) :
    Rounds decimal.toRat (ofParts false (nearestDecimal decimal)) := by
  have positive : 0 < powerOfTen decimal.places := Nat.pow_pos (by decide)
  have rounds := rounds_nearest decimal.coefficient positive
  have power : ((powerOfTen decimal.places : ℕ) : ℚ) = 10 ^ decimal.places := by
    rw [powerOfTen]
    exact Nat.cast_pow 10 decimal.places
  rw [power] at rounds
  exact rounds

/-- A point of a grid that is taken reads back as the magnitude. -/
theorem Grid.nearestDecimal_of_hit {grid : Grid} {magnitude : ℕ} {decimal : Decimal}
    (hit : grid.hit? magnitude = some decimal) : nearestDecimal decimal = magnitude := by
  -- unfolded at these arguments, the search is run by the kernel on numbers that it does not know,
  -- so the function is unfolded without them
  obtain ⟨search, isSearch⟩ : ∃ search, search = Grid.hit? := ⟨_, rfl⟩
  rw [← isSearch] at hit
  delta Grid.hit? at isSearch
  rw [isSearch] at hit
  dsimp only at hit
  rcases Bool.eq_false_or_eq_true
    (nearestDecimal (grid.point (grid.floorIndex magnitude)) == magnitude) with lower | lower <;>
  rcases Bool.eq_false_or_eq_true
    (nearestDecimal (grid.point (grid.floorIndex magnitude + 1)) == magnitude)
    with upper | upper <;>
  rw [lower, upper] at hit
  · have chosen := Option.some.inj hit
    split at chosen <;> rw [← chosen]
    · exact beq_iff_eq.mp lower
    · exact beq_iff_eq.mp upper
  · rw [← Option.some.inj hit]
    exact beq_iff_eq.mp lower
  · rw [← Option.some.inj hit]
    exact beq_iff_eq.mp upper
  · cases hit

/-- A number of halved units has as many decimal places as it is halved. -/
theorem toRat_halved (units places : ℕ) :
    (⟨units * powerOfTen places / 2 ^ places, places⟩ : Decimal).toRat = units / 2 ^ places := by
  have power : powerOfTen places = 5 ^ places * 2 ^ places := by
    rw [← Nat.mul_pow]
    rfl
  have nonzero : (5 : ℚ) ^ places ≠ 0 := pow_ne_zero _ (by norm_num)
  have parts : (10 : ℚ) ^ places = 5 ^ places * 2 ^ places := by
    rw [← mul_pow]
    norm_num
  rw [Decimal.toRat, power, ← Nat.mul_assoc, Nat.mul_div_cancel _ (Nat.pow_pos (by decide)), parts,
    Nat.cast_mul, Nat.cast_pow, Nat.cast_ofNat, mul_comm, mul_div_mul_left _ _ nonzero]

/-- The decimal with all digits has the value of the magnitude. -/
theorem toRat_exact (magnitude : ℕ) : (exact magnitude).toRat = magnitudeValue magnitude := by
  rw [exact, unitsPerOne_eq]
  exact toRat_halved _ _

/-- **The shortest decimal of a finite magnitude is rounded to it.** -/
theorem rounds_shortest {magnitude : ℕ} (inside : magnitude < infinity) :
    Rounds (shortest magnitude).toRat (ofParts false magnitude) := by
  let grids := Grid.descending (Numeral.write (unitsOf magnitude / unitsPerOne)).length
  have form : shortest magnitude =
      (grids.findSome? fun grid => grid.hit? magnitude).getD (exact magnitude) := rfl
  rw [form]
  cases found : grids.findSome? fun grid => grid.hit? magnitude with
  | none =>
    rw [Option.getD_none, toRat_exact]
    exact rounds_magnitudeValue inside
  | some decimal =>
    obtain ⟨grid, _, hit⟩ := List.exists_of_findSome?_eq_some found
    have rounds := rounds_nearestDecimal decimal
    rw [Grid.nearestDecimal_of_hit hit] at rounds
    exact rounds

/-- **The text of a finite number** is the one of its shortest decimal behind its sign. -/
theorem toList_print {number : Binary64} (finite : number.isFinite = true) :
    (Literal.real number).print.toList =
      (if number.isNegative then ['-'] else []) ++ (shortest number.magnitude).write := by
  have isNumber : number.isNotANumber = false :=
    decide_eq_false (isFinite_iff.mp finite).not_gt
  rw [Literal.print, String.toList_ofList, write, isNumber, finite, if_neg Bool.false_ne_true,
    if_pos rfl]
  generalize (shortest number.magnitude).write = digits
  cases number.isNegative <;> rfl

end Binary64

end TurtleScene
