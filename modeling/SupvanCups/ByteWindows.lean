import SupvanCups.BitPacking
import Mathlib.Data.List.Infix

/-!
# Windows of a byte string

A window is a run of consecutive bytes read at given indices, where bytes past
the end of the string read as zero.  Adjacent windows concatenate, which is
what makes cutting a bitmap into pieces lossless.
-/

namespace SupvanCups

/-- The `count` bytes from index `start` on, reading zero past the end. -/
def window (bytes : Bytes) (start count : Nat) : Bytes :=
  (List.range' start count).map fun index => bytes.getD index 0#8

/-- The checked slice `bytes[start..stop]`. -/
def getRange (bytes : Bytes) (start stop : Nat) : Option Bytes :=
  if start ≤ stop ∧ stop ≤ bytes.length then
    some ((bytes.drop start).take (stop - start))
  else
    none

/-- The pieces of `slice::chunks`: all of the given size but the last. -/
def chunks (bytes : Bytes) (size : Nat) : List Bytes :=
  (List.range (divCeil bytes.length size)).map fun index =>
    (bytes.drop (index * size)).take size

/-- Bytes copied into a zeroed array of fixed size. -/
def padTo (size : Nat) (bytes : Bytes) : Bytes :=
  bytes.take size ++ List.replicate (size - (bytes.take size).length) 0#8

@[simp]
theorem padTo_length (size : Nat) (bytes : Bytes) :
    (padTo size bytes).length = size := by
  simp only [padTo, List.length_append, List.length_replicate]
  have := List.length_take_le size bytes
  omega

@[simp]
theorem window_length (bytes : Bytes) (start count : Nat) :
    (window bytes start count).length = count := by
  simp [window]

@[simp]
theorem window_zero_count (bytes : Bytes) (start : Nat) :
    window bytes start 0 = [] :=
  rfl

theorem getElem_window {bytes : Bytes} {start count index : Nat}
    (bounded : index < (window bytes start count).length) :
    (window bytes start count)[index] = bytes.getD (start + index) 0#8 := by
  simp [window]

theorem window_append (bytes : Bytes) (start first second : Nat) :
    window bytes start first ++ window bytes (start + first) second =
      window bytes start (first + second) := by
  simp only [window, ← List.map_append]
  rw [← List.range'_append_1]

theorem window_self (bytes : Bytes) :
    window bytes 0 bytes.length = bytes := by
  apply List.ext_getElem (window_length _ _ _)
  intro index windowBound bound
  rw [getElem_window windowBound, Nat.zero_add,
    List.getD_eq_getElem _ _ bound]

theorem getD_window {bytes : Bytes} {start count index : Nat}
    (bounded : index < count) :
    (window bytes start count).getD index 0#8 =
      bytes.getD (start + index) 0#8 := by
  rw [List.getD_eq_getElem _ _ (by simpa using bounded), getElem_window]

/-- A slice cut off at the end of the string, then filled up with zeros, reads
as the window it was cut from. -/
theorem take_getRange_append_zeros (bytes : Bytes) (start count fill : Nat)
    (filled : count ≤ fill) :
    ((getRange bytes start (min (start + count) bytes.length)).getD [] ++
        List.replicate fill 0#8).take count =
      window bytes start count := by
  apply List.ext_getElem
  · simp
    omega
  intro index leftBound rightBound
  have indexBound : index < count := by simpa using rightBound
  rw [getElem_window rightBound, List.getElem_take]
  unfold getRange
  split_ifs with inside
  · simp only [Option.getD_some]
    by_cases present : start + index < bytes.length
    · rw [List.getElem_append_left (by simp; omega)]
      simp [present]
    · rw [List.getElem_append_right (by simp; omega)]
      simp [present]
  · have absent : ¬ start + index < bytes.length := by omega
    simp [absent]

theorem padTo_take_drop (bytes : Bytes) (start size : Nat) :
    padTo size ((bytes.drop start).take size) = window bytes start size := by
  apply List.ext_getElem (by simp)
  intro index _ windowBound
  rw [getElem_window windowBound]
  simp only [padTo, List.take_take, min_self]
  by_cases present : start + index < bytes.length
  · rw [List.getElem_append_left (by simp_all; omega)]
    simp [present]
  · rw [List.getElem_append_right (by simp; omega)]
    simp [present]

theorem flatMap_window (bytes : Bytes) (size count : Nat) :
    (List.range count).flatMap (fun index => window bytes (index * size) size) =
      window bytes 0 (count * size) := by
  induction count with
  | zero => simp
  | succ count ih =>
      rw [List.range_succ, List.flatMap_append, ih, Nat.succ_mul,
        ← window_append, Nat.zero_add]
      simp

theorem take_window (bytes : Bytes) (start : Nat) {count total : Nat}
    (fits : count ≤ total) :
    (window bytes start total).take count = window bytes start count := by
  obtain ⟨rest, rfl⟩ := Nat.exists_eq_add_of_le fits
  rw [← window_append, List.take_append_of_le_length (by simp),
    List.take_of_length_le (by simp)]

/-- Past the end of the string a window holds zeros. -/
theorem eq_zero_of_mem_drop_window (bytes : Bytes) (total : Nat) :
    ∀ byte ∈ (window bytes 0 total).drop bytes.length, byte = 0#8 := by
  intro byte member
  obtain ⟨index, bounded, rfl⟩ := List.mem_iff_getElem.mp member
  rw [List.getElem_drop, getElem_window]
  simp

theorem le_divCeil_mul_size (length : Nat) {size : Nat} (positive : 0 < size) :
    length ≤ divCeil length size * size := by
  have quotient := Nat.div_add_mod (length + size - 1) size
  have remainder := Nat.mod_lt (length + size - 1) positive
  rw [divCeil, Nat.mul_comm]
  omega

/-- The pieces of a string, each filled up with zeros, start with the
string. -/
theorem take_flatMap_window (bytes : Bytes) {size : Nat}
    (positive : 0 < size) :
    ((List.range (divCeil bytes.length size)).flatMap fun index =>
        window bytes (index * size) size).take bytes.length = bytes := by
  rw [flatMap_window,
    take_window _ _ (le_divCeil_mul_size bytes.length positive), window_self]

/-- A row of an image of whole rows. -/
theorem getRange_row {bytes : Bytes} {stride rows y : Nat} (yBound : y < rows)
    (long : rows * stride ≤ bytes.length) :
    getRange bytes (y * stride) ((y + 1) * stride) =
      some ((bytes.drop (y * stride)).take stride) := by
  have inside := rowEnd_le yBound stride
  rw [Nat.succ_mul, getRange, if_pos (by omega), Nat.add_sub_cancel_left]

theorem length_row {bytes : Bytes} {stride rows y : Nat} (yBound : y < rows)
    (long : rows * stride ≤ bytes.length) :
    ((bytes.drop (y * stride)).take stride).length = stride := by
  have inside := rowEnd_le yBound stride
  rw [List.length_take, List.length_drop]
  omega

theorem length_getRange_le (bytes : Bytes) (start count : Nat) :
    ((getRange bytes start (min (start + count) bytes.length)).getD []).length ≤
      count := by
  unfold getRange
  split_ifs with inside
  · simp
    omega
  · simp

end SupvanCups
