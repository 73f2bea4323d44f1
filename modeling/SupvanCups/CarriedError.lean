import SupvanCups.ErrorPlane
import Mathlib.Algebra.BigOperators.Fin
import Mathlib.Algebra.BigOperators.Intervals
import Mathlib.Algebra.Order.BigOperators.Group.Finset
import Mathlib.Algebra.Order.Ring.Abs
import Mathlib.Algebra.Order.Ring.Rat
import Mathlib.Tactic.FinCases
import Mathlib.Tactic.Linarith
import Mathlib.Tactic.NormNum
import Mathlib.Tactic.Ring

/-!
# What Floyd-Steinberg carries

In exact arithmetic the weights of the Floyd-Steinberg kernel add up to one.  A
cell of the error rows holds at most 128 times the weight that the pixels
before it gave it, and that weight never exceeds one.  A line is as dark as its
source but for the change of the error still carried and for what leaves the
page at its edges.
-/

namespace SupvanCups

open DitherFloat (asF32)
open Finset (range)

/-! ### Shares in exact arithmetic -/

/-- The part of a pixel's error that some neighbours carry to a place. -/
def weightAt (given : Kernel Rat) (x : Nat) (below : Fin errorRows) (i : Nat) :
    Rat :=
  (given.map fun n => if reaches x n below i then n.weight else 0).sum

theorem shareAt_eq (given : Kernel Rat) (x : Nat) (error : Rat)
    (below : Fin errorRows) (i : Nat) (start : Rat) :
    shareAt given x error below i start =
      start + error * weightAt given x below i := by
  induction given generalizing start with
  | nil => simp [shareAt, weightAt]
  | cons n given ih =>
      rw [shareAt, List.foldl_cons, ← shareAt, ih]
      simp only [weightAt, List.map_cons, List.sum_cons]
      split
      · ring
      · ring

theorem weightAt_append (first second : Kernel Rat) (x : Nat)
    (below : Fin errorRows) (i : Nat) :
    weightAt (first ++ second) x below i =
      weightAt first x below i + weightAt second x below i := by
  simp [weightAt]

theorem weightAt_nonneg {given : Kernel Rat}
    (positive : ∀ n ∈ given, 0 ≤ n.weight) (x : Nat) (below : Fin errorRows)
    (i : Nat) : 0 ≤ weightAt given x below i := by
  apply List.sum_nonneg
  intro share member
  obtain ⟨n, inKernel, rfl⟩ := List.mem_map.mp member
  split
  · exact positive n inKernel
  · exact le_rfl

theorem floydSteinberg_near :
    ∀ n ∈ (floydSteinberg : Kernel Rat), n.Near := by
  have chosen : DitherMode.floydSteinberg.kernel =
      some ((floydSteinberg : Kernel Rat), false) :=
    rfl
  exact DitherMode.kernel_near chosen

theorem floydSteinberg_positive :
    ∀ n ∈ (floydSteinberg : Kernel Rat), 0 ≤ n.weight := by
  decide +kernel

/-- On a narrow page a neighbour reaches the place its offsets say. -/
theorem reaches_iff {width x i : Nat} (narrow : width ≤ 2 ^ 31)
    (xBound : x < width) (iBound : i < width) {n : Neighbour Rat}
    (near : n.Near) (below : Fin errorRows) :
    reaches x n below i = true ↔ (x : Int) + n.dx = i ∧ n.dy = below := by
  obtain ⟨back, ahead, down⟩ := near
  rw [reaches, decide_eq_true_eq, column_toInt, Int.bmod_def,
    Nat.mod_eq_of_lt down]
  refine and_congr_left fun _ => ?_
  split <;> omega

/-- The weights of the kernel by row: to the right, and below. -/
theorem weightAt_floydSteinberg {width x i : Nat} (narrow : width ≤ 2 ^ 31)
    (xBound : x < width) (iBound : i < width) (below : Fin errorRows) :
    weightAt floydSteinberg x below i =
      if below = 0 then (if i = x + 1 then 7 / 16 else 0)
      else if below = 1 then
        (if i + 1 = x then 3 / 16 else 0) + (if i = x then 5 / 16 else 0) +
          (if i = x + 1 then 1 / 16 else 0)
      else 0 := by
  have column : ∀ n ∈ (floydSteinberg : Kernel Rat),
      reaches x n below i = true ↔ (x : Int) + n.dx = i ∧ n.dy = below :=
    fun n member => reaches_iff narrow xBound iBound
      (floydSteinberg_near n member) below
  simp only [floydSteinberg, List.forall_mem_cons] at column
  obtain ⟨right, back, under, ahead, -⟩ := column
  have beside : (x : Int) + 1 = i ↔ i = x + 1 := by omega
  have before : (x : Int) + -1 = i ↔ i + 1 = x := by omega
  have same : (x : Int) + 0 = i ↔ i = x := by omega
  simp only [weightAt, floydSteinberg, List.map_cons, List.map_nil,
    List.sum_cons, List.sum_nil, right, back, under, ahead, beside, before,
    same]
  fin_cases below
  · simp [asF32]
  · simp [asF32]
    ring
  · simp

/-! ### What a cell can hold -/

/-- The weight that a place was given when a line has come to pixel `x`. -/
def weightBefore (x : Nat) (below : Fin errorRows) (i : Nat) : Rat :=
  if below = 0 then (if i ≤ x then 1 else 9 / 16)
  else if below = 1 then
    if i + 1 < x then 9 / 16
    else if i + 1 = x then 6 / 16
    else if i = x ∧ 0 < x then 1 / 16
    else 0
  else 0

@[simp]
theorem weightBefore_here (x i : Nat) :
    weightBefore x 0 i = if i ≤ x then 1 else 9 / 16 :=
  rfl

@[simp]
theorem weightBefore_far (x i : Nat) : weightBefore x 2 i = 0 :=
  rfl

@[simp]
theorem weightBefore_next (x i : Nat) :
    weightBefore x 1 i =
      if i + 1 < x then 9 / 16
      else if i + 1 = x then 6 / 16
      else if i = x ∧ 0 < x then 1 / 16
      else 0 :=
  rfl

theorem weightBefore_next_le (x i : Nat) : weightBefore x 1 i ≤ 9 / 16 := by
  rw [weightBefore_next]
  split_ifs <;> norm_num

theorem below_cases (below : Fin errorRows) :
    below = 0 ∨ below = 1 ∨ below = 2 := by
  revert below
  decide

theorem weightBefore_le_one (x : Nat) (below : Fin errorRows) (i : Nat) :
    weightBefore x below i ≤ 1 := by
  unfold weightBefore
  split_ifs <;> norm_num

/-- A pixel gives every place no more than it may have afterwards. -/
theorem weightBefore_succ {width x i : Nat} (narrow : width ≤ 2 ^ 31)
    (xBound : x < width) (iBound : i < width) (below : Fin errorRows) :
    weightBefore x below i + weightAt floydSteinberg x below i ≤
      weightBefore (x + 1) below i := by
  rw [weightAt_floydSteinberg narrow xBound iBound]
  rcases below_cases below with rfl | rfl | rfl
  · rw [if_pos rfl, weightBefore_here, weightBefore_here]
    split_ifs <;> first | omega | norm_num
  · rw [if_neg (by decide), if_pos rfl, weightBefore_next, weightBefore_next]
    split_ifs <;> first | omega | norm_num
  · rw [if_neg (by decide), if_neg (by decide), weightBefore_far,
      weightBefore_far, add_zero]

/-- When a line has come to pixel `x`, every cell holds at most 128 times the
weight it was given. -/
def Carried {width : Nat} (ring : ErrorRing Rat width) (row : Fin errorRows)
    (x : Nat) : Prop :=
  ∀ below i, |ring (row + below) i| ≤ 128 * weightBefore x below i.val

/-- The error of a pixel in Floyd-Steinberg mode. -/
def pixelError {width : Nat} (ring : ErrorRing Rat width)
    (row : Fin errorRows) (line : Bytes) (x : Fin width) : Rat :=
  let value := asF32 (sourceValue false (line.getD x 0#8)) + ring row x
  value - (quantise false value).1

theorem sourceValue_le (pixel : U8) : sourceValue false pixel ≤ 255 := by
  have table : ∀ level ∈ srgbToLinear, level ≤ 255 := by decide +kernel
  have read : sourceValue false pixel = srgbToLinear.getD pixel.toNat 0 := rfl
  rw [read]
  by_cases inside : pixel.toNat < srgbToLinear.length
  · rw [List.getD_eq_getElem _ _ inside]
    exact table _ (List.getElem_mem inside)
  · rw [List.getD_eq_default _ _ (Nat.not_lt.mp inside)]
    exact Nat.zero_le 255

/-- A value that is off the scale by at most 128 is quantised by at most
128. -/
theorem quantise_error {value : Rat} (low : -128 ≤ value)
    (high : value ≤ 255 + 128) : |value - (quantise false value).1| ≤ 128 := by
  have threshold : (asF32 128 : Rat) = 128 := rfl
  have white : (asF32 255 : Rat) = 255 := rfl
  have black : (asF32 0 : Rat) = 0 := rfl
  rw [quantise, if_neg Bool.false_ne_true, threshold]
  split
  · rw [black, abs_le]
    constructor <;> linarith
  · rw [white, abs_le]
    constructor <;> linarith

section Line

variable {width : Nat} {ring : ErrorRing Rat width} {row : Fin errorRows}

theorem Carried.cell_le {x : Nat} (carried : Carried ring row x)
    (r : Fin errorRows) (i : Fin width) : |ring r i| ≤ 128 := by
  have bound := carried (r - row) i
  rw [add_sub_cancel] at bound
  have weight := weightBefore_le_one x (r - row) i
  linarith

theorem Carried.error_le {x : Nat} (carried : Carried ring row x)
    (line : Bytes) (pixel : Fin width) :
    |pixelError ring row line pixel| ≤ 128 := by
  have cell := abs_le.mp (carried.cell_le row pixel)
  have source : ((sourceValue false (line.getD pixel 0#8) : Nat) : Rat) ≤ 255 :=
    by exact_mod_cast sourceValue_le _
  have positive : (0 : Rat) ≤ (sourceValue false (line.getD pixel 0#8) : Nat) :=
    Nat.cast_nonneg _
  have value : asF32 (sourceValue false (line.getD pixel 0#8)) +
      ring row pixel =
        ((sourceValue false (line.getD pixel 0#8) : Nat) : Rat) +
          ring row pixel :=
    rfl
  apply quantise_error
  · rw [value]
    linarith
  · rw [value]
    linarith

/-- While a pixel spreads its error, no cell holds more than 128. -/
theorem Carried.given_le {x : Fin width}
    (carried : Carried ring row x.val) (line : Bytes) {given : Kernel Rat}
    (isPrefix : given <+: floydSteinberg) (below : Fin errorRows)
    (i : Fin width) :
    |given.foldl (spread row x (pixelError ring row line x)) ring
      (row + below) i| ≤
        128 * (weightBefore x.val below i.val +
          weightAt floydSteinberg x.val below i.val) := by
  obtain ⟨rest, split⟩ := isPrefix
  have positive := floydSteinberg_positive
  rw [← split] at positive
  have restWeight := weightAt_nonneg
    (fun n member => positive n (List.mem_append_right given member)) x below i
  have givenWeight := weightAt_nonneg
    (fun n member => positive n (List.mem_append_left rest member)) x below i
  have error := carried.error_le line x
  have cell := carried below i
  rw [foldl_spread_apply, shareAt_eq, ← split, weightAt_append]
  calc |ring (row + below) i + pixelError ring row line x *
        weightAt given x.val below i.val|
      ≤ |ring (row + below) i| + |pixelError ring row line x| *
          weightAt given x.val below i.val := by
        refine (abs_add_le _ _).trans ?_
        rw [abs_mul, abs_of_nonneg givenWeight]
    _ ≤ 128 * weightBefore x.val below i.val +
          128 * weightAt given x.val below i.val :=
        add_le_add cell (mul_le_mul_of_nonneg_right error givenWeight)
    _ ≤ _ := by
        linarith

/-- A pixel keeps the bound. -/
theorem Carried.step {x : Fin width} (narrow : width ≤ 2 ^ 31)
    (carried : Carried ring row x.val) (line : Bytes) :
    Carried (ringStep floydSteinberg false row line ring x) row
      (x.val + 1) := by
  intro below i
  have given := carried.given_le line List.prefix_rfl below i
  have weight := weightBefore_succ narrow x.isLt i.isLt below
  refine given.trans ?_
  linarith

end Line

/-! ### What a line keeps -/

section Conservation

variable {width : Nat} {row : Fin errorRows} {line : Bytes}

/-- The error that is still to be used: in the line from pixel `x` on, and in
the next line. -/
def pending (ring : ErrorRing Rat width) (row : Fin errorRows) (x : Nat) :
    Rat :=
  ∑ i : Fin width, ((if x ≤ i.val then ring row i else 0) + ring (row + 1) i)

/-- The part of a pixel's error that stays on the page. -/
def keptWeight (width x : Nat) : Rat :=
  (if x + 1 < width then 7 / 16 + 1 / 16 else 0) +
    (if 0 < x then 3 / 16 else 0) + 5 / 16

/-- How much darker a pixel is printed than its source. -/
def toneShift (line : Bytes) (x : Nat) (inked : Bool) : Rat :=
  (sourceValue false (line.getD x 0#8) : Nat) - (if inked then 0 else 255)

theorem toneShift_inks (ring : ErrorRing Rat width) (row : Fin errorRows)
    (line : Bytes) (x : Fin width) :
    toneShift line x (inks false row line ring x) =
      pixelError ring row line x - ring row x := by
  have level : ∀ value : Rat, (quantise false value).1 =
      if (quantise false value).2 then 0 else 255 := by
    intro value
    rw [quantise, if_neg Bool.false_ne_true]
    split
    · rfl
    · rfl
  rw [toneShift, inks, ← level, pixelError]
  have value : asF32 (sourceValue false (line.getD x 0#8)) + ring row x =
      ((sourceValue false (line.getD x 0#8) : Nat) : Rat) + ring row x :=
    rfl
  rw [value]
  ring

theorem sum_ite_val (j : Nat) (share : Rat) :
    ∑ i : Fin width, (if i.val = j then share else 0) =
      if j < width then share else 0 := by
  split
  · next inside =>
      have column : ∀ i : Fin width, i.val = j ↔ i = ⟨j, inside⟩ :=
        fun i => (Fin.ext_iff (b := ⟨j, inside⟩)).symm
      simp [column]
  · next outside =>
      refine Finset.sum_eq_zero fun i _ => if_neg ?_
      have bound := i.isLt
      omega

theorem sum_ite_succ (x : Fin width) (share : Rat) :
    ∑ i : Fin width, (if i.val + 1 = x.val then share else 0) =
      if 0 < x.val then share else 0 := by
  cases column : x.val with
  | zero => simp
  | succ before =>
      have inside : before < width := by
        have bound := x.isLt
        omega
      simp only [Nat.add_right_cancel_iff, sum_ite_val, if_pos inside,
        Nat.zero_lt_succ, if_true]

/-- The kernel keeps all of an error but what leaves the page. -/
theorem sum_weightAt (narrow : width ≤ 2 ^ 31) (x : Fin width) :
    ∑ i : Fin width, (weightAt floydSteinberg x.val 0 i.val +
      weightAt floydSteinberg x.val 1 i.val) = keptWeight width x.val := by
  have shares : ∀ i : Fin width, weightAt floydSteinberg x.val 0 i.val +
      weightAt floydSteinberg x.val 1 i.val =
        (if i.val = x.val + 1 then 7 / 16 else 0) +
          ((if i.val + 1 = x.val then 3 / 16 else 0) +
            (if i.val = x.val then 5 / 16 else 0) +
            (if i.val = x.val + 1 then 1 / 16 else 0)) := by
    intro i
    simp [weightAt_floydSteinberg narrow x.isLt i.isLt]
  simp only [shares, Finset.sum_add_distrib, sum_ite_val, sum_ite_succ,
    if_pos x.isLt, keptWeight]
  split <;> ring

/-- What a pixel takes from the pending error and gives back. -/
theorem pending_step (narrow : width ≤ 2 ^ 31) (ring : ErrorRing Rat width)
    (row : Fin errorRows) (line : Bytes) (x : Fin width) :
    pending (ringStep floydSteinberg false row line ring x) row (x.val + 1) =
      pending ring row x.val - ring row x +
        pixelError ring row line x * keptWeight width x.val := by
  have stepped : ∀ below i,
      ringStep floydSteinberg false row line ring x (row + below) i =
        ring (row + below) i + pixelError ring row line x *
          weightAt floydSteinberg x.val below i.val := by
    intro below i
    exact (foldl_spread_apply _ row x _ ring below i).trans
      (shareAt_eq _ _ _ _ _ _)
  have taken : ring row x =
      ∑ i : Fin width, (if i.val = x.val then ring row x else 0) := by
    rw [sum_ite_val, if_pos x.isLt]
  rw [← sum_weightAt narrow x, Finset.mul_sum, pending, pending, taken,
    ← Finset.sum_sub_distrib, ← Finset.sum_add_distrib]
  refine Finset.sum_congr rfl fun i _ => ?_
  have here := stepped 0 i
  rw [add_zero] at here
  have ahead := weightAt_floydSteinberg narrow x.isLt i.isLt 0
  rw [if_pos rfl] at ahead
  rw [here, stepped 1 i, ahead]
  rcases lt_trichotomy i.val x.val with before | same | after
  · rw [if_neg (by omega : ¬ x.val + 1 ≤ i.val),
      if_neg (by omega : ¬ x.val ≤ i.val), if_neg before.ne,
      if_neg (by omega : ¬ i.val = x.val + 1)]
    ring
  · obtain rfl : i = x := Fin.ext same
    rw [if_neg (by omega : ¬ i.val + 1 ≤ i.val), if_pos le_rfl, if_pos rfl,
      if_neg (by omega : ¬ i.val = i.val + 1)]
    ring
  · rw [if_pos (by omega : x.val + 1 ≤ i.val),
      if_pos (by omega : x.val ≤ i.val), if_neg after.ne']
    ring

/-- The error rows when a line has come to pixel `x`. -/
def ringAt (ring : ErrorRing Rat width) (row : Fin errorRows) (line : Bytes)
    (x : Nat) : ErrorRing Rat width :=
  (scanRing floydSteinberg false row line ((List.finRange width).take x)
    ring).1

theorem ringAt_width (ring : ErrorRing Rat width) (row : Fin errorRows)
    (line : Bytes) :
    ringAt ring row line width =
      (scanRing floydSteinberg false row line (List.finRange width)
        ring).1 := by
  rw [ringAt, List.take_of_length_le (by rw [List.length_finRange])]

theorem ringAt_succ (ring : ErrorRing Rat width) {x : Nat}
    (inside : x < width) :
    ringAt ring row line (x + 1) =
      ringStep floydSteinberg false row line (ringAt ring row line x)
        ⟨x, inside⟩ := by
  have listed : x < (List.finRange width).length := by
    rwa [List.length_finRange]
  have pixel : (List.finRange width)[x] = ⟨x, inside⟩ := by
    rw [List.getElem_finRange]
    rfl
  rw [ringAt, List.take_succ_eq_append_getElem listed, pixel, scanRing_append]
  rfl

theorem Carried.at {ring : ErrorRing Rat width} (narrow : width ≤ 2 ^ 31)
    (carried : Carried ring row 0) (line : Bytes) {x : Nat}
    (reached : x ≤ width) :
    Carried (ringAt ring row line x) row x := by
  induction x with
  | zero => exact carried
  | succ x ih =>
      have here : Carried (ringAt ring row line x) row
          (⟨x, reached⟩ : Fin width).val :=
        ih (Nat.le_of_succ_le reached)
      rw [ringAt_succ ring reached]
      exact here.step narrow line

/-- How much error may have left the page when a line has come to pixel `x`:
at the left edge with the first pixel, at the right edge with the last one. -/
def lossBefore (width x : Nat) : Rat :=
  (if 0 < x then 24 else 0) + (if 0 < x ∧ x = width then 64 else 0)

theorem lossBefore_succ {x : Nat} (inside : x < width) :
    lossBefore width x + 128 * (1 - keptWeight width x) =
      lossBefore width (x + 1) := by
  unfold lossBefore keptWeight
  split_ifs <;> first | omega | norm_num

theorem keptWeight_le_one (width x : Nat) : keptWeight width x ≤ 1 := by
  unfold keptWeight
  split_ifs <;> norm_num

/-- The dots of a line. -/
def lineDots (ring : ErrorRing Rat width) (row : Fin errorRows)
    (line : Bytes) : List Bool :=
  (scanRing floydSteinberg false row line (List.finRange width) ring).2

/-- Each dot of a line is inked when the line has come to it. -/
theorem lineDots_getD (ring : ErrorRing Rat width) {x : Nat}
    (inside : x < width) :
    (lineDots ring row line).getD x false =
      inks false row line (ringAt ring row line x) ⟨x, inside⟩ := by
  have listed : x < (List.finRange width).length := by
    rwa [List.length_finRange]
  rw [lineDots, scanRing_getD ring listed, List.getElem_finRange]
  rfl

/-- Up to any pixel of a line, the tone has shifted by what was pending and by
what has left the page. -/
theorem Carried.tone {ring : ErrorRing Rat width} (narrow : width ≤ 2 ^ 31)
    (carried : Carried ring row 0) (line : Bytes) {x : Nat}
    (reached : x ≤ width) :
    |∑ i ∈ range x, toneShift line i ((lineDots ring row line).getD i false) -
      (pending (ringAt ring row line x) row x - pending ring row 0)| ≤
        lossBefore width x := by
  induction x with
  | zero =>
      have start : ringAt ring row line 0 = ring := rfl
      simp [start, lossBefore]
  | succ x ih =>
      have here := carried.at narrow line (Nat.le_of_succ_le reached)
      let pixel : Fin width := ⟨x, reached⟩
      have dot : (lineDots ring row line).getD x false =
          inks false row line (ringAt ring row line x) pixel :=
        lineDots_getD ring reached
      have error := here.error_le line pixel
      have kept := keptWeight_le_one width x
      have step := pending_step narrow (ringAt ring row line x) row line pixel
      rw [Finset.sum_range_succ, dot, toneShift_inks _ _ _ pixel,
        ringAt_succ ring reached, step, ← lossBefore_succ reached]
      generalize pixelError (ringAt ring row line x) row line pixel = e at *
      generalize pending (ringAt ring row line x) row x = now at *
      have left : |e * (1 - keptWeight width x)| ≤
          128 * (1 - keptWeight width x) := by
        rw [abs_mul, abs_of_nonneg (sub_nonneg.mpr kept)]
        exact mul_le_mul_of_nonneg_right error (sub_nonneg.mpr kept)
      refine le_trans (le_of_eq ?_) ((abs_add_le _ _).trans
        (add_le_add (ih (Nat.le_of_succ_le reached)) left))
      congr 1
      ring

/-! ### From line to line -/

/-- The error rows at the start of a line: three of the four shares have
arrived, and nothing lies further down. -/
structure Begins (ring : ErrorRing Rat width) (row : Fin errorRows) : Prop where
  here : ∀ i, |ring row i| ≤ 72
  next : ∀ i, ring (row + 1) i = 0
  far : ∀ i, ring (row + 2) i = 0

theorem Begins.carried {ring : ErrorRing Rat width}
    (begins : Begins ring row) : Carried ring row 0 := by
  intro below i
  rcases below_cases below with rfl | rfl | rfl
  · have cell := begins.here i
    have weight : 9 / 16 ≤ weightBefore 0 0 i.val := by
      rw [weightBefore_here]
      split <;> norm_num
    rw [add_zero]
    linarith
  · simp [begins.next]
  · simp [begins.far]

/-- The error rows of the next line, with the spent row blanked. -/
def spent (ring : ErrorRing Rat width) (row : Fin errorRows) :
    ErrorRing Rat width :=
  fun r i => if r = row then (asF32 0 : Rat) else ring r i

theorem spent_next (ring : ErrorRing Rat width) (row : Fin errorRows)
    (i : Fin width) : spent ring row (row + 1) i = ring (row + 1) i := by
  have other : row + 1 ≠ row := by
    rw [ne_eq, add_eq_left]
    decide
  exact if_neg other

/-- Floyd-Steinberg carries nothing two rows down. -/
theorem Carried.spent_far {ring : ErrorRing Rat width} {x : Nat}
    (carried : Carried ring row x) (i : Fin width) :
    spent ring row (row + 1 + 1) i = 0 := by
  have bound := carried 2 i
  rw [weightBefore_far, mul_zero] at bound
  have two : row + 1 + 1 = row + 2 := by
    rw [add_assoc]
    rfl
  have other : row + 2 ≠ row := by
    rw [ne_eq, add_eq_left]
    decide
  rw [two, spent, if_neg other]
  exact abs_nonpos_iff.mp bound

/-- A spent line leaves the error rows of a new one. -/
theorem Carried.spend {ring : ErrorRing Rat width}
    (carried : Carried ring row width) :
    Begins (spent ring row) (row + 1) where
  here := by
    intro i
    have cell := carried 1 i
    have weight := weightBefore_next_le width i.val
    rw [spent_next]
    linarith
  next := carried.spent_far
  far := by
    intro i
    have around : row + 1 + 2 = row := by
      rw [add_assoc, add_eq_left]
      decide
    rw [around]
    exact if_pos rfl

theorem Carried.pending_spend {ring : ErrorRing Rat width}
    (carried : Carried ring row width) :
    pending (spent ring row) (row + 1) 0 = pending ring row width := by
  refine Finset.sum_congr rfl fun i _ => ?_
  have before := i.isLt
  rw [if_pos (Nat.zero_le _), if_neg (Nat.not_le.mpr before), spent_next,
    carried.spent_far, add_zero, zero_add]

/-- What is pending at the start of a line. -/
theorem Begins.pending_le {ring : ErrorRing Rat width}
    (begins : Begins ring row) : |pending ring row 0| ≤ 72 * width := by
  have cells : ∀ i ∈ (Finset.univ : Finset (Fin width)),
      |(if 0 ≤ i.val then ring row i else 0) + ring (row + 1) i| ≤ 72 := by
    intro i _
    rw [if_pos (Nat.zero_le _), begins.next, add_zero]
    exact begins.here i
  refine (Finset.abs_sum_le_sum_abs _ _).trans
    ((Finset.sum_le_card_nsmul _ _ _ cells).trans (le_of_eq ?_))
  rw [Finset.card_univ, Fintype.card_fin, nsmul_eq_mul, mul_comm]

/-- How much darker a line is printed than its source. -/
def lineShift (width : Nat) (line : Bytes) (dots : List Bool) : Rat :=
  ∑ x ∈ range width, toneShift line x (dots.getD x false)

/-- A line shifts the tone by what becomes of the pending error, and by 88 at
most beyond that. -/
theorem Begins.lineShift_le {ring : ErrorRing Rat width}
    (narrow : width ≤ 2 ^ 31) (begins : Begins ring row) (line : Bytes) :
    |lineShift width line (lineDots ring row line) -
      (pending (spent (ringAt ring row line width) row) (row + 1) 0 -
        pending ring row 0)| ≤ 88 := by
  have finished := begins.carried.at narrow line le_rfl
  have shift := begins.carried.tone narrow line le_rfl
  have loss : lossBefore width width ≤ 88 := by
    unfold lossBefore
    split_ifs <;> norm_num
  rw [finished.pending_spend]
  exact shift.trans loss

end Conservation

end SupvanCups
