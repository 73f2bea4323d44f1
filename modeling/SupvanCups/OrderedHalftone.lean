import Mathlib.Algebra.BigOperators.Intervals
import Mathlib.Data.Nat.Periodic

/-!
# Ordered halftones

A halftone sets a dot where its source is below a threshold.  If the thresholds
repeat with the sides of a window, the window meets each of them once, wherever
it lies.  So it has at least the dots that its highest level sets and at most
those that its lowest level sets.
-/

namespace OrderedHalftone

open Finset

/-- The dots set in a window of the plane. -/
def dotCount (dots : Nat → Nat → Bool) (top left rows cols : Nat) : Nat :=
  ∑ y ∈ Ico top (top + rows),
    ((Ico left (left + cols)).filter fun x => dots y x = true).card

theorem dotCount_mono {fewer more : Nat → Nat → Bool}
    {top left rows cols : Nat}
    (set : ∀ y ∈ Ico top (top + rows), ∀ x ∈ Ico left (left + cols),
      fewer y x = true → more y x = true) :
    dotCount fewer top left rows cols ≤ dotCount more top left rows cols := by
  refine sum_le_sum fun y inRows => card_le_card fun x member => ?_
  obtain ⟨inCols, dot⟩ := mem_filter.mp member
  exact mem_filter.mpr ⟨inCols, set y inRows x inCols dot⟩

/-! ### Patterns that repeat -/

structure Repeats {α : Type*} (rows cols : Nat) (pattern : Nat → Nat → α) :
    Prop where
  down : ∀ x, Function.Periodic (fun y => pattern y x) rows
  across : ∀ y, Function.Periodic (pattern y) cols

theorem sum_Ico_of_periodic {period : Nat} {f : Nat → Nat}
    (periodic : Function.Periodic f period) (start : Nat) :
    ∑ y ∈ Ico start (start + period), f y = ∑ y ∈ Ico 0 (0 + period), f y := by
  have folded (first : Nat) : ∑ y ∈ Ico first (first + period), f y =
      ∑ y ∈ range period, f y := by
    rw [← Nat.image_Ico_mod first period,
      sum_image (Nat.mod_injOn_Ico first period)]
    exact sum_congr rfl fun y _ => (periodic.map_mod_nat y).symm
  rw [folded, folded]

/-- A window of the size of the pattern has the same dots everywhere. -/
theorem Repeats.dotCount_eq {rows cols : Nat} {dots : Nat → Nat → Bool}
    (repeats : Repeats rows cols dots) (top left : Nat) :
    dotCount dots top left rows cols = dotCount dots 0 0 rows cols := by
  have inRow (y first : Nat) :
      ((Ico first (first + cols)).filter fun x => dots y x = true).card =
        cols.count fun x => dots y x = true :=
    Nat.filter_Ico_card_eq_of_periodic first cols _
      ((repeats.across y).comp fun dot => dot = true)
  simp only [dotCount, inRow]
  refine sum_Ico_of_periodic (fun y => ?_) top
  have same (x : Nat) : dots (y + rows) x = dots y x := repeats.down x y
  simp only [same]

/-! ### Thresholds -/

section Thresholds

variable {α : Type*} [Preorder α] [DecidableLT α]
variable {threshold source : Nat → Nat → α} {rows cols : Nat}

def halftone (threshold source : Nat → Nat → α) (y x : Nat) : Bool :=
  decide (source y x < threshold y x)

/-- The dots of an even tone in a window of the size of the thresholds. -/
def levelDots (threshold : Nat → Nat → α) (rows cols : Nat) (level : α) :
    Nat :=
  dotCount (halftone threshold fun _ _ => level) 0 0 rows cols

theorem halftone_of_le {darker : Nat → Nat → α} {y x : Nat}
    (le : darker y x ≤ source y x)
    (dot : halftone threshold source y x = true) :
    halftone threshold darker y x = true :=
  decide_eq_true (le.trans_lt (of_decide_eq_true dot))

theorem Repeats.level (repeats : Repeats rows cols threshold) (level : α) :
    Repeats rows cols (halftone threshold fun _ _ => level) where
  down x y := congrArg (fun t => decide (level < t)) (repeats.down x y)
  across y x := congrArg (fun t => decide (level < t)) (repeats.across y x)

/-- The dots of a window lie between those of its highest and its lowest
level. -/
theorem Repeats.dotCount_between (repeats : Repeats rows cols threshold)
    {top left : Nat} {low high : α}
    (between : ∀ y ∈ Ico top (top + rows), ∀ x ∈ Ico left (left + cols),
      low ≤ source y x ∧ source y x ≤ high) :
    levelDots threshold rows cols high ≤
        dotCount (halftone threshold source) top left rows cols ∧
      dotCount (halftone threshold source) top left rows cols ≤
        levelDots threshold rows cols low := by
  constructor
  · rw [levelDots, ← (repeats.level high).dotCount_eq top left]
    exact dotCount_mono fun y inRows x inCols =>
      halftone_of_le (between y inRows x inCols).2
  · rw [levelDots, ← (repeats.level low).dotCount_eq top left]
    exact dotCount_mono fun y inRows x inCols =>
      halftone_of_le (between y inRows x inCols).1

end Thresholds

end OrderedHalftone
