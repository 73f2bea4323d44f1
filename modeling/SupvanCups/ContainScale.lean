import Mathlib.Algebra.Order.Round
import Mathlib.Tactic.Linarith

/-!
# Fitting one rectangle into another

The scale at which a rectangle just fits into another one is the smaller of
the two ratios of their sides: neither side comes out longer, and one of them
comes out equal.  Sides in whole pixels are scaled and rounded to the nearest
number, and a half away from zero.  Rounding moves a side by half a pixel at
most and never past a whole bound.
-/

namespace SupvanCups

/-! ### The scale -/

section Scale

variable {K : Type*} [Field K] [LinearOrder K] [IsStrictOrderedRing K]
variable {width height sideW sideH : K}

/-- The largest scale at which a rectangle of two sides fits into one of a
width and a height. -/
def containScale (width height sideW sideH : K) : K :=
  min (width / sideW) (height / sideH)

theorem mul_containScale_le_width (positive : 0 < sideW) :
    sideW * containScale width height sideW sideH ≤ width := by
  calc
    sideW * containScale width height sideW sideH
        ≤ sideW * (width / sideW) :=
      mul_le_mul_of_nonneg_left (min_le_left _ _) positive.le
    _ = width := mul_div_cancel₀ width positive.ne'

theorem mul_containScale_le_height (positive : 0 < sideH) :
    sideH * containScale width height sideW sideH ≤ height := by
  calc
    sideH * containScale width height sideW sideH
        ≤ sideH * (height / sideH) :=
      mul_le_mul_of_nonneg_left (min_le_right _ _) positive.le
    _ = height := mul_div_cancel₀ height positive.ne'

theorem containScale_nonneg (wide : 0 ≤ width) (tall : 0 ≤ height)
    (positiveW : 0 ≤ sideW) (positiveH : 0 ≤ sideH) :
    0 ≤ containScale width height sideW sideH :=
  le_min (div_nonneg wide positiveW) (div_nonneg tall positiveH)

omit [IsStrictOrderedRing K] in
/-- At its scale the rectangle reaches from side to side in one direction. -/
theorem containScale_touches (positiveW : 0 < sideW) (positiveH : 0 < sideH) :
    sideW * containScale width height sideW sideH = width ∨
      sideH * containScale width height sideW sideH = height := by
  rcases min_choice (width / sideW) (height / sideH) with byWidth | byHeight
  · left
    rw [containScale, byWidth, mul_div_cancel₀ width positiveW.ne']
  · right
    rw [containScale, byHeight, mul_div_cancel₀ height positiveH.ne']

end Scale

/-! ### Rounding -/

section Rounding

variable {K : Type*} [Field K] [LinearOrder K] [IsStrictOrderedRing K]
  [FloorRing K]

/-- The nearest integer, and of two the one away from zero. -/
def roundAway (value : K) : ℤ :=
  if value < 0 then -⌊-value + 1 / 2⌋ else ⌊value + 1 / 2⌋

theorem roundAway_of_nonneg {value : K} (nonneg : 0 ≤ value) :
    roundAway value = round value := by
  rw [roundAway, if_neg nonneg.not_gt, round_eq]

theorem roundAway_nonneg {value : K} (nonneg : 0 ≤ value) :
    0 ≤ roundAway value := by
  rw [roundAway, if_neg nonneg.not_gt]
  exact Int.floor_nonneg.mpr (by linarith)

theorem roundAway_le {value : K} {bound : ℤ} (nonneg : 0 ≤ value)
    (bounded : value ≤ bound) : roundAway value ≤ bound := by
  rw [roundAway, if_neg nonneg.not_gt, ← Int.lt_add_one_iff, Int.floor_lt,
    Int.cast_add, Int.cast_one]
  linarith

theorem roundAway_intCast {value : ℤ} (nonneg : 0 ≤ value) :
    roundAway (value : K) = value := by
  rw [roundAway_of_nonneg (Int.cast_nonneg nonneg), round_intCast]

theorem abs_roundAway_sub_le {value : K} (nonneg : 0 ≤ value) :
    |(roundAway value : K) - value| ≤ 1 / 2 := by
  rw [roundAway_of_nonneg nonneg, abs_sub_comm]
  exact abs_sub_round value

theorem roundAway_eq_zero_iff {value : K} (nonneg : 0 ≤ value) :
    roundAway value = 0 ↔ value < 1 / 2 := by
  rw [roundAway_of_nonneg nonneg, round_eq_zero_iff, Set.mem_Ico]
  exact and_iff_right (by linarith)

end Rounding

end SupvanCups
