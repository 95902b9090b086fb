/-
**The number nearest to a value.**

A value between two neighbours of a grid is rounded to the nearer one, and half-way between them to
the one of even index. The magnitudes are such a grid. A value that is half a step or more above the
greatest finite magnitude has no finite number nearest to it in this sense, and goes to infinity.

* `Nearest`, `Nearest.eq` — the nearest point of a grid, which is only one.
* `Halves`, `halves_of_between`, `Halves.nearest` — a point whose middles with the other points are
  on the right sides of a value is the nearest one.
* `Binary64.Rounds` — **the number to which a value is rounded**, among all finite patterns.
* `Binary64.Rounds.eq`, `Binary64.existsUnique_rounds` — there is one such number, and only one.
* **`Binary64.rounds_nearest`** — what is computed for a fraction is the number it is rounded to.
* `Binary64.rounds_magnitudeValue` — the value of a finite magnitude is rounded to it.
-/

import Mathlib.Algebra.Order.Group.Abs
import Mathlib.Data.Rat.Lemmas
import Mathlib.Tactic.Linarith
import TurtleScene.Number.Rounding
import TurtleScene.Proofs.Magnitude

namespace TurtleScene

/-! ### Grids -/

section Grids

variable {grid : ℕ → ℚ} {limit index other : ℕ} {value : ℚ}

/-- **The point of a grid nearest to a value**, by its index below a limit. Of two points as near it
is the one of even index. -/
structure Nearest (grid : ℕ → ℚ) (limit : ℕ) (value : ℚ) (index : ℕ) : Prop where
  inside : index < limit
  closest : ∀ other < limit, |value - grid index| ≤ |value - grid other|
  even : ∀ other < limit, other ≠ index → |value - grid index| = |value - grid other| →
    index % 2 = 0

/-- Two points that are as near to a value have it in their middle. -/
theorem add_eq_of_as_near {first second : ℚ} (apart : first ≠ second)
    (same : |value - first| = |value - second|) : first + second = 2 * value := by
  rcases abs_eq_abs.mp same with same | opposite
  · exact (apart (by linarith)).elim
  · linarith

/-- Of two points of even index, none is nearest if they are as near. -/
theorem Nearest.not_lt (grows : StrictMono grid) (first : Nearest grid limit value index)
    (second : Nearest grid limit value other) : ¬ index < other := by
  intro less
  have below := grows less
  have same := le_antisymm (first.closest other second.inside) (second.closest index first.inside)
  have middle := add_eq_of_as_near below.ne same
  have evenFirst := first.even other second.inside less.ne' same
  have evenSecond := second.even index first.inside less.ne same.symm
  -- the point behind the first one is nearer than both
  have between : index + 1 < other := by omega
  have above := grows (Nat.lt_succ_self index)
  have inside := grows between
  have nearer : |value - grid (index + 1)| < value - grid index := by
    rw [abs_lt]
    constructor <;> linarith
  have notNearer := first.closest (index + 1) (between.trans second.inside)
  rw [abs_of_pos (by linarith : 0 < value - grid index)] at notNearer
  linarith

/-- **There is one nearest point only.** -/
theorem Nearest.eq (grows : StrictMono grid) (first : Nearest grid limit value index)
    (second : Nearest grid limit value other) : index = other :=
  Nat.le_antisymm (Nat.not_lt.mp (second.not_lt grows first))
    (Nat.not_lt.mp (first.not_lt grows second))

/-- **The middles of a point with the other points**: those with lower points are not above the
value, and those with higher ones not below it. Only those of a point of even index may be the
value. -/
structure Halves (grid : ℕ → ℚ) (value : ℚ) (index : ℕ) : Prop where
  lower : ∀ other < index, grid other + grid index ≤ 2 * value
  higher : ∀ other, index < other → 2 * value ≤ grid index + grid other
  even : ∀ other ≠ index, grid index + grid other = 2 * value → index % 2 = 0

theorem Halves.nearest (halves : Halves grid value index) (grows : StrictMono grid)
    (inside : index < limit) : Nearest grid limit value index where
  inside := inside
  closest := by
    intro other _
    rcases lt_trichotomy other index with less | rfl | greater
    · have below := grows less
      have middle := halves.lower other less
      refine le_trans (abs_le.mpr ⟨?_, ?_⟩) (le_abs_self (value - grid other)) <;> linarith
    · exact le_refl _
    · have above := grows greater
      have middle := halves.higher other greater
      refine le_trans (abs_le.mpr ⟨?_, ?_⟩) (neg_le_abs (value - grid other)) <;> linarith
  even := fun other _ differs same =>
    halves.even other differs (add_eq_of_as_near (grows.injective.ne differs.symm) same)

/-- **A value between two neighbours is rounded by their middle.** -/
theorem halves_of_between {below : ℕ} (grows : StrictMono grid) (low : grid below ≤ value)
    (high : value < grid (below + 1))
    (chosen : index = below ∧ 2 * value ≤ grid below + grid (below + 1) ∨
      index = below + 1 ∧ grid below + grid (below + 1) ≤ 2 * value)
    (even : grid below + grid (below + 1) = 2 * value → index % 2 = 0) :
    Halves grid value index := by
  rcases chosen with ⟨rfl, middle⟩ | ⟨rfl, middle⟩
  · have lower : ∀ other < index, grid other + grid index < 2 * value := by
      intro other less
      have := grows less
      linarith
    have higher : ∀ other, index < other → grid (index + 1) ≤ grid other :=
      fun other greater => grows.monotone greater
    refine ⟨fun other less => (lower other less).le, fun other greater => ?_,
      fun other differs same => even ?_⟩
    · have := higher other greater
      linarith
    · rcases differs.lt_or_gt with less | greater
      · have := lower other less
        linarith
      · have := higher other greater
        linarith
  · have lower : ∀ other < below + 1, grid other ≤ grid below :=
      fun other less => grows.monotone (Nat.le_of_lt_succ less)
    have higher : ∀ other, below + 1 < other → 2 * value < grid (below + 1) + grid other := by
      intro other greater
      have := grows greater
      linarith
    refine ⟨fun other less => ?_, fun other greater => (higher other greater).le,
      fun other differs same => even ?_⟩
    · have := lower other less
      linarith
    · rcases differs.lt_or_gt with less | greater
      · have := lower other less
        linarith
      · have := higher other greater
        linarith

end Grids

namespace Binary64

/-! ### Rounding -/

/-- The middle between the greatest finite number and the power of two that would be the next. -/
def overflow : ℚ := 2 ^ 1024 - 2 ^ 970

/-- **A finite number is closest to a value** among all finite patterns, and not negative. Of two
numbers as close it is the one whose last bit is zero. -/
structure IsClosest (value : ℚ) (number : Binary64) : Prop where
  finite : number.isFinite = true
  positive : number.isNegative = false
  closest : ∀ other : Binary64, other.isFinite = true →
    |value - number.toRat| ≤ |value - other.toRat|
  even : ∀ other : Binary64, other.isFinite = true → other.toRat ≠ number.toRat →
    |value - number.toRat| = |value - other.toRat| → number.bits.toNat % 2 = 0

/-- **The number to which a value is rounded**: the closest finite one, or infinity from half a step
above the greatest of these on. -/
inductive Rounds (value : ℚ) : Binary64 → Prop
  | finite {number : Binary64} : value < overflow → IsClosest value number → Rounds value number
  | infinite : overflow ≤ value → Rounds value ⟨0x7FF0000000000000⟩

section Closest

variable {value : ℚ} {number other : Binary64} {index : ℕ}

theorem lt_signWeight_of_le_infinity (inside : index ≤ infinity) : index < signWeight :=
  Nat.lt_of_le_of_lt inside (by decide)

theorem isFinite_iff : number.isFinite = true ↔ number.magnitude < infinity := decide_eq_true_iff

theorem toRat_ofParts (inside : index ≤ infinity) :
    (ofParts false index).toRat = magnitudeValue index := by
  have bounded := lt_signWeight_of_le_infinity inside
  rw [toRat_eq, isNegative_ofParts _ bounded, magnitude_ofParts _ bounded,
    if_neg Bool.false_ne_true, one_mul]

theorem isFinite_ofParts (inside : index < infinity) : (ofParts false index).isFinite = true := by
  rw [isFinite_iff, magnitude_ofParts _ (lt_signWeight_of_le_infinity inside.le)]
  exact inside

/-- The closest number has the nearest magnitude. -/
theorem IsClosest.nearest (closest : IsClosest value number) :
    Nearest magnitudeValue infinity value number.magnitude := by
  have isValue : number.toRat = magnitudeValue number.magnitude := by
    rw [toRat_eq, closest.positive, if_neg Bool.false_ne_true, one_mul]
  have parity : number.bits.toNat = number.magnitude := by
    rw [toNat_bits_eq, closest.positive, if_neg Bool.false_ne_true, Nat.zero_add]
  refine ⟨isFinite_iff.mp closest.finite, fun other inside => ?_,
    fun other inside differs same => ?_⟩
  · rw [← isValue, ← toRat_ofParts inside.le]
    exact closest.closest _ (isFinite_ofParts inside)
  · rw [← isValue, ← toRat_ofParts inside.le] at same
    rw [← parity]
    refine closest.even _ (isFinite_ofParts inside) ?_ same
    rw [isValue, toRat_ofParts inside.le]
    exact magnitudeValue_strictMono.injective.ne differs

/-- A value that is not negative is at least as near to a magnitude as to its opposite. -/
theorem abs_sub_magnitudeValue_le (nonneg : 0 ≤ value) (number : Binary64) :
    |value - magnitudeValue number.magnitude| ≤ |value - number.toRat| := by
  have positive := magnitudeValue_nonneg number.magnitude
  rw [toRat_eq]
  split_ifs
  · refine le_trans (abs_le.mpr ⟨?_, ?_⟩) (le_abs_self _) <;> linarith
  · rw [one_mul]

/-- The number of the nearest magnitude is the closest one. -/
theorem isClosest_of_nearest (nonneg : 0 ≤ value)
    (nearest : Nearest magnitudeValue infinity value index) :
    IsClosest value (ofParts false index) := by
  have inside := nearest.inside
  have bounded := lt_signWeight_of_le_infinity inside.le
  refine ⟨isFinite_ofParts inside, isNegative_ofParts _ bounded, fun other finite => ?_,
    fun other finite differs same => ?_⟩ <;> rw [toRat_ofParts inside.le] at *
  · exact (nearest.closest _ (isFinite_iff.mp finite)).trans
      (abs_sub_magnitudeValue_le nonneg other)
  · rw [toNat_bits_ofParts _ bounded, if_neg Bool.false_ne_true, Nat.zero_add]
    have atMost := abs_sub_magnitudeValue_le nonneg other
    have asNear := nearest.closest _ (isFinite_iff.mp finite)
    by_cases isIndex : other.magnitude = index
    · -- the opposite of the nearest magnitude is as near to zero only, and to zero none but zero is
      have opposite : other.toRat = -magnitudeValue index := by
        rw [toRat_eq, isIndex] at differs ⊢
        split_ifs at differs ⊢ with negative
        · exact neg_one_mul _
        · exact (differs (one_mul _)).elim
      have middle := add_eq_of_as_near differs.symm same
      have isZero : value = 0 := by
        rw [opposite] at middle
        linarith
      have zero : magnitudeValue 0 = 0 := by
        rw [magnitudeValue, show unitsOf 0 = 0 from rfl, Nat.cast_zero, zero_div]
      have atZero := nearest.closest 0 (by decide)
      rw [isZero, zero, sub_zero, abs_zero, zero_sub, abs_neg, abs_nonpos_iff] at atZero
      rw [opposite, atZero, neg_zero] at differs
      exact (differs rfl).elim
    · exact nearest.even _ (isFinite_iff.mp finite) isIndex (le_antisymm asNear (same ▸ atMost))

/-- **A value is rounded to one number only.** -/
theorem Rounds.eq (first : Rounds value number) (second : Rounds value other) : number = other := by
  cases first with
  | finite below closest =>
    cases second with
    | finite _ otherClosest =>
      have same := closest.nearest.eq magnitudeValue_strictMono otherClosest.nearest
      rw [← ofParts_parts number, ← ofParts_parts other, closest.positive, otherClosest.positive,
        same]
    | infinite above => exact (not_lt_of_ge above below).elim
  | infinite above =>
    cases second with
    | finite below _ => exact (not_lt_of_ge above below).elim
    | infinite _ => rfl

end Closest

/-! ### Overflow -/

/-- Infinity has the place of the next power of two. -/
theorem magnitudeValue_infinity : magnitudeValue infinity = 2 ^ 1024 := by
  have normal : fractionCount < 2 * fractionCount := by decide
  have form : infinity = 2046 * fractionCount + fractionCount := by decide
  have power : (2 : ℚ) ^ 52 * 2 ^ 2046 = 2 ^ 1024 * 2 ^ 1074 := by rw [← pow_add, ← pow_add]
  rw [magnitudeValue, form, unitsOf_mantissa normal (.inr (Nat.le_refl _)), fractionCount_eq,
    div_eq_iff (pow_ne_zero _ two_ne_zero), Nat.cast_mul, Nat.cast_pow, Nat.cast_pow]
  exact power

/-- The greatest finite magnitude has a full mantissa. -/
theorem magnitudeValue_greatest : magnitudeValue (infinity - 1) = 2 ^ 1024 - 2 ^ 971 := by
  have form : infinity - 1 = 2045 * fractionCount + (2 * fractionCount - 1) := by decide
  have mantissa : 2 * fractionCount - 1 = 9007199254740991 := by decide
  have full : (9007199254740991 : ℚ) = 2 ^ 53 - 1 := by norm_num
  have power : (2 : ℚ) ^ 1024 = 2 ^ 53 * 2 ^ 971 := by rw [← pow_add]
  have units : (2 : ℚ) ^ 2045 = 2 ^ 971 * 2 ^ 1074 := by rw [← pow_add]
  rw [magnitudeValue, form, unitsOf_mantissa (by decide) (.inr (by decide)), mantissa,
    div_eq_iff (pow_ne_zero _ two_ne_zero), Nat.cast_mul, Nat.cast_pow, Nat.cast_ofNat,
    Nat.cast_ofNat, full, power, units, ← mul_assoc, sub_mul, one_mul]

/-- The overflow is half-way between the two. -/
theorem magnitudeValue_add_infinity :
    magnitudeValue (infinity - 1) + magnitudeValue infinity = 2 * overflow := by
  rw [magnitudeValue_greatest, magnitudeValue_infinity, overflow, pow_succ _ 970]
  generalize (2 : ℚ) ^ 1024 = power
  generalize (2 : ℚ) ^ 970 = halfStep
  ring

/-! ### The computed number -/

section Computed

variable {numerator denominator units : ℕ}

/-- Units are compared with a fraction by its numerator in units. -/
theorem units_lt_fraction_iff (positive : 0 < denominator) :
    (units : ℚ) / 2 ^ 1074 < numerator / denominator ↔
      units * denominator < numerator * unitsPerOne := by
  have isPositive : (0 : ℚ) < denominator := Nat.cast_pos.mpr positive
  rw [div_lt_div_iff₀ (pow_pos two_pos _) isPositive, unitsPerOne_eq]
  exact_mod_cast Iff.rfl

theorem fraction_lt_units_iff (positive : 0 < denominator) :
    (numerator : ℚ) / denominator < units / 2 ^ 1074 ↔
      numerator * unitsPerOne < units * denominator := by
  have isPositive : (0 : ℚ) < denominator := Nat.cast_pos.mpr positive
  rw [div_lt_div_iff₀ isPositive (pow_pos two_pos _), unitsPerOne_eq]
  exact_mod_cast Iff.rfl

/-- The middle of two magnitudes, in units. -/
theorem magnitudeValue_add (first second : ℕ) :
    magnitudeValue first + magnitudeValue second =
      (unitsOf first + unitsOf second : ℕ) / 2 ^ 1074 := by
  rw [magnitudeValue, magnitudeValue, ← add_div, Nat.cast_add]

/-- **The magnitude of a fraction**: infinity from the value that this counts as on, and below it
the one that the middles with the other magnitudes single out. -/
theorem nearest_cases (numerator : ℕ) (positive : 0 < denominator) :
    nearest numerator denominator = infinity ∧
        magnitudeValue infinity ≤ (numerator : ℚ) / denominator ∨
      nearest numerator denominator ≤ infinity ∧
        Halves magnitudeValue ((numerator : ℚ) / denominator) (nearest numerator denominator) := by
  let scaled := numerator * unitsPerOne
  let below := floorOfUnits (scaled / denominator)
  let middle := (unitsOf below + unitsOf (below + 1)) * denominator
  have form : nearest numerator denominator =
      if infinity ≤ below then infinity
      else if 2 * scaled < middle then below
      else if middle < 2 * scaled then below + 1
      else below + below % 2 := rfl
  obtain ⟨atMost, above⟩ := unitsOf_floorOfUnits (scaled / denominator)
  have low : magnitudeValue below ≤ (numerator : ℚ) / denominator := by
    have inUnits := (Nat.le_div_iff_mul_le positive).mp atMost
    exact not_lt.mp fun less => inUnits.not_gt ((fraction_lt_units_iff positive).mp less)
  have high : (numerator : ℚ) / denominator < magnitudeValue (below + 1) :=
    (fraction_lt_units_iff positive).mpr ((Nat.div_lt_iff_lt_mul positive).mp above)
  have twice : (2 : ℚ) * (numerator / denominator) = (2 * numerator : ℕ) / denominator := by
    rw [Nat.cast_mul, mul_div_assoc, Nat.cast_ofNat]
  have isLess : 2 * ((numerator : ℚ) / denominator) <
      magnitudeValue below + magnitudeValue (below + 1) ↔ 2 * scaled < middle := by
    rw [magnitudeValue_add, twice, fraction_lt_units_iff positive, Nat.mul_assoc]
  have isMore : magnitudeValue below + magnitudeValue (below + 1) <
      2 * ((numerator : ℚ) / denominator) ↔ middle < 2 * scaled := by
    rw [magnitudeValue_add, twice, units_lt_fraction_iff positive, Nat.mul_assoc]
  rw [form]
  split_ifs with beyond less more
  · exact .inl ⟨rfl, (magnitudeValue_strictMono.monotone beyond).trans low⟩
  · have less := isLess.mpr less
    refine .inr ⟨(Nat.not_le.mp beyond).le, ?_⟩
    exact halves_of_between magnitudeValue_strictMono low high (.inl ⟨rfl, less.le⟩)
      fun same => absurd same less.ne'
  · have more := isMore.mpr more
    refine .inr ⟨Nat.not_le.mp beyond, ?_⟩
    exact halves_of_between magnitudeValue_strictMono low high (.inr ⟨rfl, more.le⟩)
      fun same => absurd same more.ne
  · have atMiddle := le_antisymm (not_lt.mp (less ∘ isLess.mp)) (not_lt.mp (more ∘ isMore.mp))
    -- of two neighbours, the even one is chosen
    have chosen : below + below % 2 = below ∨ below + below % 2 = below + 1 := by omega
    refine .inr ⟨by omega, ?_⟩
    exact halves_of_between magnitudeValue_strictMono low high
      (chosen.imp (⟨·, atMiddle.ge⟩) (⟨·, atMiddle.le⟩)) fun _ => by omega

/-- **What is computed for a fraction is the number to which it is rounded.** -/
theorem rounds_nearest (numerator : ℕ) (positive : 0 < denominator) :
    Rounds ((numerator : ℚ) / denominator) (ofParts false (nearest numerator denominator)) := by
  have nonneg : (0 : ℚ) ≤ numerator / denominator :=
    div_nonneg (Nat.cast_nonneg _) (Nat.cast_nonneg _)
  have full := magnitudeValue_add_infinity
  have next : magnitudeValue (infinity - 1) < magnitudeValue infinity :=
    magnitudeValue_strictMono (by decide)
  rcases nearest_cases numerator positive with ⟨isInfinite, beyond⟩ | ⟨atMost, halves⟩
  · rw [isInfinite]
    exact .infinite (by linarith)
  · rcases atMost.lt_or_eq with inside | isInfinite
    · have closest :=
        isClosest_of_nearest nonneg (halves.nearest magnitudeValue_strictMono inside)
      refine .finite ?_ closest
      by_contra notBelow
      -- a finite magnitude would be half-way to infinity, and the greatest one is odd
      have high := halves.higher infinity inside
      have atMost := magnitudeValue_strictMono.monotone (Nat.le_sub_one_of_lt inside)
      have same : magnitudeValue (nearest numerator denominator) =
          magnitudeValue (infinity - 1) := by
        linarith
      have isGreatest := magnitudeValue_strictMono.injective same
      have even := halves.even infinity inside.ne' (by linarith)
      rw [isGreatest] at even
      exact absurd even (by decide)
    · rw [isInfinite] at halves ⊢
      have above := halves.lower (infinity - 1) (by decide)
      exact .infinite (by linarith)

end Computed

/-- **A value that is not negative is rounded to one number.** -/
theorem existsUnique_rounds {value : ℚ} (nonneg : 0 ≤ value) : ∃! number, Rounds value number := by
  have fraction : ((value.num.toNat : ℕ) : ℚ) / value.den = value := by
    rw [← Int.cast_natCast, Int.toNat_of_nonneg (Rat.num_nonneg.mpr nonneg), Rat.num_div_den]
  have rounds := rounds_nearest value.num.toNat value.den_pos
  rw [fraction] at rounds
  exact ⟨_, rounds, fun other otherRounds => otherRounds.eq rounds⟩

/-- The value of a finite magnitude is rounded to it. -/
theorem rounds_magnitudeValue {magnitude : ℕ} (inside : magnitude < infinity) :
    Rounds (magnitudeValue magnitude) (ofParts false magnitude) := by
  have atMost := magnitudeValue_strictMono.monotone (Nat.le_sub_one_of_lt inside)
  have next : magnitudeValue (infinity - 1) < magnitudeValue infinity :=
    magnitudeValue_strictMono (by decide)
  have full := magnitudeValue_add_infinity
  refine .finite (by linarith) (isClosest_of_nearest (magnitudeValue_nonneg _) ⟨inside, ?_, ?_⟩)
  · intro other _
    rw [sub_self, abs_zero]
    exact abs_nonneg _
  · intro other _ differs same
    rw [sub_self, abs_zero, eq_comm, abs_eq_zero, sub_eq_zero] at same
    exact (differs (magnitudeValue_strictMono.injective same).symm).elim

end Binary64

end TurtleScene
