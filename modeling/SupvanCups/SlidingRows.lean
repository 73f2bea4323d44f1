import Mathlib.Algebra.Group.Fin.Basic
import Mathlib.Algebra.GroupWithZero.Nat

/-!
# Rows that slide over a plane

A ring of a few rows shows a window of a plane that is unbounded below: one of
its rows stands for the top row of the window, the ones after it for the rows
below, around the ring.  Below the window the plane is still blank.  Writing
through the window and moving it down by one row keep the two in step, as long
as the spent row is blanked when it comes to stand for the newest one.
-/

namespace SlidingRows

variable {rows : Nat} {Column Place Value : Type}

/-- Replace one cell. -/
def setCell [DecidableEq Column] {Row : Type} [DecidableEq Row]
    (cells : Row → Column → Value) (row : Row) (column : Column)
    (change : Value → Value) : Row → Column → Value :=
  fun r c => if r = row ∧ c = column then change (cells r c) else cells r c

/-- Blank one row. -/
def blankRow {Row : Type} [DecidableEq Row] (blank : Value)
    (cells : Row → Column → Value) (row : Row) : Row → Column → Value :=
  fun r c => if r = row then blank else cells r c

/-- The ring shows the rows of the plane from `top` on, its row `first` the
topmost.  A column of the ring lies at some place of the plane. -/
structure Window (place : Column → Place) (blank : Value)
    (ring : Fin rows → Column → Value) (first : Fin rows)
    (plane : Nat → Place → Value) (top : Nat) : Prop where
  shows : ∀ (k : Fin rows) column,
    ring (first + k) column = plane (top + k) (place column)
  fresh : ∀ y, top + rows ≤ y → ∀ column, plane y (place column) = blank

variable {place : Column → Place} {blank : Value}
  {ring : Fin rows → Column → Value} {first : Fin rows}
  {plane : Nat → Place → Value} {top : Nat}

/-- A blank ring shows a blank plane. -/
theorem Window.of_blank (place : Column → Place) (blank : Value)
    (first : Fin rows) (top : Nat) :
    Window place blank (fun _ _ => blank) first (fun _ _ => blank) top :=
  ⟨fun _ _ => rfl, fun _ _ _ => rfl⟩

/-- The row of the ring that stands for the top row. -/
theorem Window.shows_first [NeZero rows]
    (window : Window place blank ring first plane top) (column : Column) :
    ring first column = plane top (place column) := by
  simpa using window.shows 0 column

section Cells

variable [DecidableEq Place]

/-- A cell in the window may be changed on both sides. -/
theorem Window.setCell [DecidableEq Column]
    (window : Window place blank ring first plane top)
    (injective : Function.Injective place) (below : Fin rows)
    (column : Column) (change : Value → Value) :
    Window place blank
      (SlidingRows.setCell ring (first + below) column change) first
      (SlidingRows.setCell plane (top + below) (place column) change) top where
  shows := by
    intro k c
    have sameRow :
        first + k = first + below ↔ top + k.val = top + below.val := by
      rw [add_right_inj, Fin.ext_iff, Nat.add_left_cancel_iff]
    simp only [SlidingRows.setCell, sameRow, injective.eq_iff, window.shows]
  fresh := by
    intro y isBelow c
    have outside : y ≠ top + below := by
      have bound := below.isLt
      omega
    rw [SlidingRows.setCell, if_neg fun same => outside same.1]
    exact window.fresh y isBelow c

end Cells

/-- The spent row, blanked, comes to show the row that enters the window. -/
theorem Window.slide [NeZero rows]
    (window : Window place blank ring first plane top) :
    Window place blank (blankRow blank ring first) (first + 1) plane
      (top + 1) where
  shows := by
    intro k column
    rw [add_assoc]
    rcases Nat.lt_or_ge (k.val + 1) rows with inside | atEnd
    · have next : (1 + k : Fin rows) = ⟨k.val + 1, inside⟩ := by
        apply Fin.ext
        rw [Fin.val_add, Fin.val_one', Nat.mod_add_mod, Nat.add_comm]
        exact Nat.mod_eq_of_lt inside
      have other : first + (1 + k) ≠ first := by
        rw [next, ne_eq, add_eq_left, Fin.ext_iff]
        exact Nat.succ_ne_zero k
      rw [blankRow, if_neg other, next, window.shows]
      congr 1
      exact (Nat.add_right_comm top k 1).trans rfl
    · have around : (1 + k : Fin rows) = 0 := by
        have bound := k.isLt
        apply Fin.ext
        rw [Fin.val_add, Fin.val_one', Nat.mod_add_mod, Fin.val_zero]
        have full : 1 + k.val = rows := by omega
        rw [full, Nat.mod_self]
      rw [around, add_zero, blankRow, if_pos rfl]
      exact (window.fresh _ (by omega) column).symm
  fresh := fun y isBelow => window.fresh y (by omega)

end SlidingRows
