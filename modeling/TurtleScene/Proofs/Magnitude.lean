/-
**What a bit pattern stands for.**

A finite pattern stands for a rational number, which its three fields give: the sign, the exponent
and the fraction. A magnitude is the pattern below the sign. It is a mantissa of 53 bits at most and
a shift, and its value in units of `2 ^ -1074` is the mantissa shifted; so the next magnitude is the
next mantissa, and the values grow with the magnitudes.

* `Binary64.toRat` — the number of a finite pattern.
* `unitsOf_mantissa`, `unitsOf_mantissa_succ` — the values of a magnitude and of the next one.
* **`unitsOf_strictMono`** — the values grow with the magnitudes.
* **`unitsOf_floorOfUnits`** — the greatest magnitude up to a value.
* `Binary64.ofParts_parts`, `Binary64.withSign_ofParts` — a pattern is its sign and its magnitude.
* **`Binary64.toRat_eq`** — the number of a pattern, by its sign and its magnitude.
-/

import Mathlib.Algebra.Order.Field.Rat
import Mathlib.Order.Monotone.Basic
import Mathlib.Tactic.FieldSimp
import Mathlib.Tactic.Ring
import TurtleScene.Number.Binary64

namespace TurtleScene

namespace Binary64

/-! ### Values in units -/

theorem fractionCount_eq : fractionCount = 2 ^ 52 := by decide

theorem signWeight_eq : signWeight = 2 ^ 63 := by decide

theorem fractionCount_pos : 0 < fractionCount := by decide

theorem unitsPerOne_eq : unitsPerOne = 2 ^ 1074 := by decide +kernel

/-- The value of a magnitude is its mantissa, shifted. A mantissa without its highest bit is not
shifted. -/
theorem unitsOf_mantissa {shift mantissa : Nat} (bounded : mantissa < 2 * fractionCount)
    (normal : shift = 0 ∨ fractionCount ≤ mantissa) :
    unitsOf (shift * fractionCount + mantissa) = mantissa * 2 ^ shift := by
  rcases Nat.lt_or_ge mantissa fractionCount with small | large
  · obtain rfl : shift = 0 := normal.resolve_right (Nat.not_le.mpr small)
    rw [Nat.zero_mul, Nat.zero_add, unitsOf, if_pos small, Nat.pow_zero, Nat.mul_one]
  · obtain ⟨fraction, rfl⟩ := Nat.exists_eq_add_of_le large
    have isFraction : fraction < fractionCount := by omega
    have form : shift * fractionCount + (fractionCount + fraction) =
        fraction + (shift + 1) * fractionCount := by ring
    have notSmall : ¬ fraction + (shift + 1) * fractionCount < fractionCount := by
      rw [Nat.succ_mul]
      omega
    rw [form, unitsOf, if_neg notSmall, Nat.add_mul_mod_self_right, Nat.mod_eq_of_lt isFraction,
      Nat.add_mul_div_right _ _ fractionCount_pos, Nat.div_eq_of_lt isFraction, Nat.zero_add,
      Nat.add_sub_cancel, Nat.shiftLeft_eq, Nat.add_comm fraction]

/-- The next magnitude has the next mantissa. -/
theorem unitsOf_mantissa_succ {shift mantissa : Nat} (bounded : mantissa < 2 * fractionCount)
    (normal : shift = 0 ∨ fractionCount ≤ mantissa) :
    unitsOf (shift * fractionCount + mantissa + 1) = (mantissa + 1) * 2 ^ shift := by
  rcases Nat.lt_or_ge (mantissa + 1) (2 * fractionCount) with inside | carried
  · rw [Nat.add_assoc]
    exact unitsOf_mantissa inside (normal.imp_right fun large => Nat.le_add_right_of_le large)
  · -- the mantissa is full: the next one has one more bit, and goes on with the next shift
    have full : mantissa + 1 = 2 * fractionCount := by omega
    have carry : shift * fractionCount + mantissa + 1 =
        (shift + 1) * fractionCount + fractionCount := by
      rw [Nat.add_assoc, full]
      ring
    have half : fractionCount < 2 * fractionCount := by
      have := fractionCount_pos
      omega
    rw [carry, unitsOf_mantissa half (.inr (Nat.le_refl _)), full, Nat.pow_succ]
    ring

/-- Every magnitude is a mantissa and a shift. -/
theorem exists_mantissa (magnitude : Nat) : ∃ shift mantissa,
    magnitude = shift * fractionCount + mantissa ∧ mantissa < 2 * fractionCount ∧
      (shift = 0 ∨ fractionCount ≤ mantissa) := by
  have isFraction := Nat.mod_lt magnitude fractionCount_pos
  have split := Nat.div_add_mod' magnitude fractionCount
  cases exponent : magnitude / fractionCount with
  | zero =>
    rw [exponent] at split
    exact ⟨0, magnitude, by omega, by omega, .inl rfl⟩
  | succ shift =>
    rw [exponent, Nat.succ_mul] at split
    exact ⟨shift, fractionCount + magnitude % fractionCount, by omega, by omega,
      .inr (Nat.le_add_right _ _)⟩

/-- **The values grow with the magnitudes.** -/
theorem unitsOf_strictMono : StrictMono unitsOf := by
  refine strictMono_nat_of_lt_succ fun magnitude => ?_
  obtain ⟨shift, mantissa, rfl, bounded, normal⟩ := exists_mantissa magnitude
  rw [unitsOf_mantissa bounded normal, unitsOf_mantissa_succ bounded normal]
  exact Nat.mul_lt_mul_of_pos_right (Nat.lt_succ_self mantissa) (Nat.two_pow_pos shift)

/-- **The greatest magnitude up to a value**: the next one is above it. -/
theorem unitsOf_floorOfUnits (units : Nat) :
    unitsOf (floorOfUnits units) ≤ units ∧ units < unitsOf (floorOfUnits units + 1) := by
  let shift := units.log2 - 52
  let mantissa := units / 2 ^ shift
  have form : floorOfUnits units = shift * fractionCount + mantissa := by
    show shift * fractionCount + units >>> shift = _
    rw [Nat.shiftRight_eq_div_pow]
  have positive : 0 < 2 ^ shift := Nat.two_pow_pos shift
  have bounded : mantissa < 2 * fractionCount := by
    rw [fractionCount_eq, ← Nat.pow_succ']
    refine (Nat.div_lt_iff_lt_mul positive).mpr ?_
    rw [← Nat.pow_add]
    exact Nat.lt_of_lt_of_le Nat.lt_log2_self (Nat.pow_le_pow_right (by decide) (by omega))
  have normal : shift = 0 ∨ fractionCount ≤ mantissa := by
    rcases Nat.eq_zero_or_pos shift with unshifted | shifted
    · exact .inl unshifted
    · have nonzero : units ≠ 0 := by
        rintro rfl
        simp [shift] at shifted
      rw [fractionCount_eq]
      refine .inr ((Nat.le_div_iff_mul_le positive).mpr ?_)
      rw [← Nat.pow_add]
      have highest : 52 + shift = units.log2 := by omega
      rw [highest]
      exact Nat.log2_self_le nonzero
  rw [form, unitsOf_mantissa bounded normal, unitsOf_mantissa_succ bounded normal]
  exact ⟨Nat.div_mul_le_self units _, Nat.lt_mul_of_div_lt (Nat.lt_succ_self _) positive⟩

/-! ### Signs and magnitudes -/

/-- The same bits, with the sign bit set where a number is negative. -/
def withSign (negative : Bool) (number : Binary64) : Binary64 :=
  if negative then ⟨number.bits ||| 0x8000000000000000⟩ else number

theorem magnitude_lt (number : Binary64) : number.magnitude < signWeight :=
  Nat.mod_lt _ (by decide)

/-- The bits of a sign and a magnitude. -/
theorem toNat_bits_ofParts (negative : Bool) {magnitude : Nat} (bounded : magnitude < signWeight) :
    (ofParts negative magnitude).bits.toNat = (if negative then signWeight else 0) + magnitude := by
  have twice : signWeight + signWeight = UInt64.size := by decide
  refine UInt64.toNat_ofNat_of_lt' ?_
  split <;> omega

theorem magnitude_ofParts (negative : Bool) {magnitude : Nat} (bounded : magnitude < signWeight) :
    (ofParts negative magnitude).magnitude = magnitude := by
  rw [Binary64.magnitude, toNat_bits_ofParts negative bounded]
  split
  · rw [Nat.add_mod_left, Nat.mod_eq_of_lt bounded]
  · rw [Nat.zero_add, Nat.mod_eq_of_lt bounded]

theorem isNegative_ofParts (negative : Bool) {magnitude : Nat} (bounded : magnitude < signWeight) :
    (ofParts negative magnitude).isNegative = negative := by
  rw [isNegative, toNat_bits_ofParts negative bounded]
  cases negative with
  | true => exact decide_eq_true (Nat.le_add_right _ _)
  | false => exact decide_eq_false (by simpa using bounded)

/-- The bits of a number, by its sign and its magnitude. -/
theorem toNat_bits_eq (number : Binary64) :
    number.bits.toNat = (if number.isNegative then signWeight else 0) + number.magnitude := by
  have twice : signWeight + signWeight = UInt64.size := by decide
  have bounded : number.bits.toNat < UInt64.size := number.bits.toNat_lt
  rw [magnitude, isNegative]
  by_cases negative : signWeight ≤ number.bits.toNat
  · rw [decide_eq_true negative, if_pos rfl, Nat.mod_eq_sub_mod negative,
      Nat.mod_eq_of_lt (by omega)]
    omega
  · rw [decide_eq_false negative, if_neg Bool.false_ne_true, Nat.mod_eq_of_lt (by omega),
      Nat.zero_add]

/-- A pattern is its sign and its magnitude. -/
theorem ofParts_parts (number : Binary64) :
    ofParts number.isNegative number.magnitude = number := by
  rw [ofParts, ← toNat_bits_eq, UInt64.ofNat_toNat]

/-- A sign is one bit above the magnitude. -/
theorem withSign_ofParts (negative : Bool) {magnitude : Nat} (bounded : magnitude < signWeight) :
    withSign negative (ofParts false magnitude) = ofParts negative magnitude := by
  cases negative with
  | false => rfl
  | true =>
    have bits : (ofParts true magnitude).bits =
        (ofParts false magnitude).bits ||| 0x8000000000000000 := by
      rw [← UInt64.toNat_inj, UInt64.toNat_or, toNat_bits_ofParts _ bounded,
        toNat_bits_ofParts _ bounded, if_pos rfl, if_neg Bool.false_ne_true, Nat.zero_add,
        Nat.or_comm, signWeight_eq]
      rw [signWeight_eq] at bounded
      simpa using Nat.two_pow_add_eq_or_of_lt bounded 1
    rw [withSign, if_pos rfl, ← bits]

theorem negate_ofParts {magnitude : Nat} (bounded : magnitude < signWeight) :
    (ofParts false magnitude).negate = withSign true (ofParts false magnitude) := by
  rw [negate, isNegative_ofParts _ bounded, magnitude_ofParts _ bounded,
    withSign_ofParts _ bounded]
  rfl

/-! ### Numbers -/

/-- The value of a magnitude. -/
def magnitudeValue (magnitude : Nat) : ℚ := unitsOf magnitude / 2 ^ 1074

theorem magnitudeValue_strictMono : StrictMono magnitudeValue := by
  intro first second less
  have positive : (0 : ℚ) < 2 ^ 1074 := pow_pos two_pos _
  exact div_lt_div_of_pos_right (Nat.cast_lt.mpr (unitsOf_strictMono less)) positive

theorem magnitudeValue_nonneg (magnitude : Nat) : 0 ≤ magnitudeValue magnitude :=
  div_nonneg (Nat.cast_nonneg _) (pow_nonneg zero_le_two _)

/-- **The number of a finite pattern.** From the highest bit on, it has the sign, eleven bits of
exponent and 52 bits of fraction. The exponent of zero marks the numbers without a leading one. -/
def toRat (number : Binary64) : ℚ :=
  let bits := number.bits.toNat
  let sign : ℚ := (-1) ^ (bits / 2 ^ 63)
  let exponent : ℕ := bits / 2 ^ 52 % 2 ^ 11
  let fraction : ℚ := (bits % 2 ^ 52 : ℕ) / 2 ^ 52
  if exponent = 0 then sign * fraction * 2 ^ (-1022 : ℤ)
  else sign * (1 + fraction) * 2 ^ ((exponent : ℤ) - 1023)

/-- The value of a magnitude, by its exponent and its fraction. -/
theorem magnitudeValue_eq (magnitude : Nat) :
    magnitudeValue magnitude =
      if magnitude / 2 ^ 52 = 0 then ((magnitude % 2 ^ 52 : ℕ) / 2 ^ 52 : ℚ) * 2 ^ (-1022 : ℤ)
      else (1 + (magnitude % 2 ^ 52 : ℕ) / 2 ^ 52 : ℚ) *
        2 ^ ((magnitude / 2 ^ 52 : ℕ) - 1023 : ℤ) := by
  have scale : (2 : ℚ) ^ 1074 = 2 ^ 52 * 2 ^ 1022 := by rw [← pow_add]
  have nonzero : ∀ exponent : ℕ, (2 : ℚ) ^ exponent ≠ 0 := fun _ => pow_ne_zero _ two_ne_zero
  rw [magnitudeValue, unitsOf, fractionCount_eq, scale]
  split_ifs with small isZero isZero
  · rw [Nat.mod_eq_of_lt small, zpow_neg, ← div_eq_mul_inv, div_div]
    rfl
  · exact (isZero (Nat.div_eq_of_lt small)).elim
  · exact (small ((Nat.div_eq_zero_iff_lt (by decide)).mp isZero)).elim
  · obtain ⟨shift, exponent⟩ := Nat.exists_eq_add_one_of_ne_zero isZero
    have power : (2 : ℚ) ^ (((shift + 1 : ℕ) : ℤ) - 1023) = 2 ^ shift / 2 ^ 1022 := by
      have difference : ((shift + 1 : ℕ) : ℤ) - 1023 = (shift : ℤ) - (1022 : ℕ) := by
        push_cast
        ring
      rw [difference, zpow_sub₀ two_ne_zero, zpow_natCast, zpow_natCast]
    rw [exponent, power, Nat.add_sub_cancel, Nat.shiftLeft_eq]
    push_cast
    field_simp
    ring

/-- **The number of a pattern**, by its sign and its magnitude. -/
theorem toRat_eq (number : Binary64) :
    number.toRat = (if number.isNegative then -1 else 1) * magnitudeValue number.magnitude := by
  have size : UInt64.size = 2 ^ 64 := by decide
  have bounded : number.bits.toNat < 2 ^ 64 := size ▸ number.bits.toNat_lt
  have sign : ((-1) ^ (number.bits.toNat / 2 ^ 63) : ℚ) = if number.isNegative then -1 else 1 := by
    rw [isNegative, signWeight_eq]
    by_cases negative : 2 ^ 63 ≤ number.bits.toNat
    · have one : number.bits.toNat / 2 ^ 63 = 1 := by omega
      rw [one, pow_one, decide_eq_true negative, if_pos rfl]
    · have zero : number.bits.toNat / 2 ^ 63 = 0 := by omega
      rw [zero, pow_zero, decide_eq_false negative, if_neg Bool.false_ne_true]
  have exponent : number.magnitude / 2 ^ 52 = number.bits.toNat / 2 ^ 52 % 2 ^ 11 := by
    rw [magnitude, signWeight_eq]
    omega
  have fraction : number.magnitude % 2 ^ 52 = number.bits.toNat % 2 ^ 52 := by
    rw [magnitude, signWeight_eq]
    omega
  rw [toRat, magnitudeValue_eq, exponent, fraction, ← sign]
  split_ifs <;> ring

end Binary64

end TurtleScene
