import SupvanCups.PageRuns

/-!
# Rows of a page buffer

A page buffer is allocated for `h` rows of `ceil(w / 8)` bytes, and a line is
copied to the row it is numbered for.  Both the size and the offset of a row
are products of two `u32` values that a raster header names.  Below `2 ^ 32`
bytes the products are exact and no line ever reaches another row.  From there
on the buffer has only what its size leaves modulo `2 ^ 32`.
-/

namespace SupvanCups

section Rows

variable {F : Type}

namespace KsJob

/-- A job that lines were put on, in any order, from a first one on. -/
inductive Appended (first : KsJob F) : KsJob F → Prop
  | start : Appended first first
  | line {job next : KsJob F} {y : Nat} {line : Bytes} {inside : Bool}
      (before : Appended first job)
      (run : job.appendLine y line = some (inside, next)) :
      Appended first next

/-- `next` is the job after one more line, with the bytes of no other row
than `y` changed. -/
structure RowReplaced (stride y : Nat) (job next : KsJob F) : Prop where
  rest : ∃ rasterData, next = { job with
    rasterData := rasterData
    linesReceived := job.linesReceived + 1 }
  length_eq : next.rasterData.length = job.rasterData.length
  elsewhere : ∀ index, index < y * stride ∨ (y + 1) * stride ≤ index →
    next.rasterData[index]? = job.rasterData[index]?

/-- The buffer of the job has exactly the rows of a page, and a line is either
below the page or put on its own row. -/
structure RowsApart (width height : Nat) (job : KsJob F) : Prop where
  size : job.rasterData.length = height * divCeil width 8
  below : ∀ y line, height ≤ y →
    job.appendLine y line = some (false, job)
  onPage : ∀ y line, y < height →
    ∃ next, job.appendLine y line = some (true, next) ∧
      RowReplaced (divCeil width 8) y job next

/-! ### Pages that 32 bits can address -/

/-- The job is one for pages of a width and a height, with room for them. -/
structure ForPages (width height : Nat) (job : KsJob F) : Prop
    extends job.Fits where
  height_eq : job.height = height
  stride_eq : job.bytesPerLine = divCeil width 8

theorem ForPages.appendLine {width height : Nat} {job next : KsJob F}
    (pages : ForPages width height job) {y : Nat} {line : Bytes}
    {inside : Bool} (run : job.appendLine y line = some (inside, next)) :
    ForPages width height next := by
  rcases inside with _ | _
  · rw [appendLine_take] at run
    split at run
    · cases run
      exact pages
    · obtain ⟨_, _, differs⟩ := Option.map_eq_some_iff.mp run
      cases differs
  · obtain ⟨_, _, copied, rfl⟩ := appendLine_true run
    exact
      { size := (copyInto_length copied).trans pages.size
        small := pages.small
        height_eq := pages.height_eq
        stride_eq := pages.stride_eq }

theorem ForPages.appended {width height : Nat} {first job : KsJob F}
    (pages : ForPages width height first) (appended : Appended first job) :
    ForPages width height job := by
  induction appended with
  | start => exact pages
  | line _ run ih => exact ih.appendLine run

theorem ForPages.rowsApart {width height : Nat} {job : KsJob F}
    (pages : ForPages width height job) : RowsApart width height job where
  size := by rw [pages.size, pages.height_eq, pages.stride_eq]
  below y line belowPage := by
    rw [appendLine_take, if_pos (by rwa [pages.height_eq])]
  onPage y line inside := by
    rw [← pages.height_eq] at inside
    obtain ⟨offset, copied, copies, length⟩ := pages.copyInto inside line
    refine ⟨_, by
      rw [appendLine_take, if_neg (Nat.not_le.mpr inside), offset, copies]
      rfl, ⟨copied, rfl⟩, length, fun index outside => ?_⟩
    have pieceBound := List.length_take_le job.bytesPerLine line
    rw [← pages.stride_eq, Nat.succ_mul] at outside
    exact copyInto_elsewhere copies (outside.imp_right fun after => by omega)

/-! ### Every page a header can ask for -/

variable [DitherFloat F]

theorem start_forPages {options : JobOptions} (density : U8) (dots : Nat)
    (dither : DitherMode)
    (small : options.height.toNat * divCeil options.width.toNat 8 < 2 ^ 32) :
    ForPages options.width.toNat options.height.toNat
      (KsJob.start options density dots dither : KsJob F) where
  size := by
    simp only [KsJob.start, List.length_replicate]
    exact Nat.mod_eq_of_lt small
  small := small
  height_eq := rfl
  stride_eq := rfl

/-- No line of a page started with these sizes ever touches another row. -/
def RowsNeverAlias (F : Type) [DitherFloat F] (width height : U32) : Prop :=
  ∀ (bitsPerPixel : Nat) (density : U8) (dots : Nat) (dither : DitherMode)
    (job : KsJob F),
    Appended (.start ⟨width, height, bitsPerPixel⟩ density dots dither) job →
    RowsApart width.toNat height.toNat job

theorem RowsNeverAlias.small {width height : U32}
    (apart : RowsNeverAlias F width height) :
    height.toNat * divCeil width.toNat 8 < 2 ^ 32 := by
  have size := (apart 1 0#8 0 .bayer _ .start).size
  simp only [KsJob.start, List.length_replicate] at size
  rw [← size]
  exact Nat.mod_lt _ (by decide)

/-- Rows never alias exactly in pages of less than `2 ^ 32` bytes. -/
theorem rowsNeverAlias_iff (width height : U32) :
    RowsNeverAlias F width height ↔
      height.toNat * divCeil width.toNat 8 < 2 ^ 32 := by
  constructor
  · exact RowsNeverAlias.small
  · intro small bitsPerPixel density dots dither job appended
    exact ((start_forPages density dots dither small).appended
      appended).rowsApart

/-- A page of 65,536 rows of 65,536 bytes has no buffer at all. -/
theorem rowsNeverAlias_wraps :
    ¬ RowsNeverAlias Rat 524288#32 65536#32 := by
  intro apart
  exact absurd apart.small (by decide)

end KsJob

end Rows

end SupvanCups
