import SupvanCups.RasterJob

/-!
# Grey in one channel and in three

A page of grey comes as one byte for each pixel or as three equal ones.  Both
are flattened to the same line before anything is dithered: padding after the
last pixel is dropped, and pixels that a line was cut short of are white.  The
job cannot tell one from the other, whatever it was sent before.
-/

namespace SupvanCups

/-! ### A row in two formats -/

/-- A row of grey pixels as it is sent.  It is either whole, with any padding
after it, or cut short within its width; a line of three bytes for each pixel
can be cut within a pixel. -/
structure SentRow (width : Nat) where
  greys : Bytes
  greyRest : Bytes
  rgbRest : Bytes
  ends : greys.length = width ∨
    greys.length < width ∧ greyRest = [] ∧ rgbRest.length < 3

namespace SentRow

variable {width : Nat}

def rgbPixel (grey : U8) : Bytes :=
  [grey, grey, grey]

/-- The line of eight bits for each pixel. -/
def line8 (row : SentRow width) : Bytes :=
  row.greys ++ row.greyRest

/-- The line of 24 bits for each pixel. -/
def line24 (row : SentRow width) : Bytes :=
  row.greys.flatMap rgbPixel ++ row.rgbRest

/-- The pixels of the row, white where they are missing. -/
def pixels (row : SentRow width) : Bytes :=
  row.greys ++ List.replicate (width - row.greys.length) 0xFF#8

theorem length_le (row : SentRow width) : row.greys.length ≤ width :=
  row.ends.elim Nat.le_of_eq fun cut => cut.1.le

theorem pixels_length (row : SentRow width) : row.pixels.length = width := by
  rw [pixels, List.length_append, List.length_replicate]
  exact Nat.add_sub_cancel' row.length_le

theorem pixels_of_whole {row : SentRow width}
    (whole : row.greys.length = width) : row.pixels = row.greys := by
  rw [pixels, whole, Nat.sub_self, List.replicate_zero, List.append_nil]

/-- The row with each missing pixel sent as white. -/
def whitened (row : SentRow width) : SentRow width where
  greys := row.pixels
  greyRest := []
  rgbRest := []
  ends := .inl row.pixels_length

theorem whitened_pixels (row : SentRow width) :
    row.whitened.pixels = row.pixels :=
  pixels_of_whole row.pixels_length

/-! ### One grey line -/

theorem toGrayLine_line8 (row : SentRow width) :
    toGrayLine 8 row.line8 width = some row.pixels := by
  rw [line8, toGrayLine, List.length_append]
  rcases row.ends with whole | ⟨cut, unpadded, -⟩
  · rw [if_pos (by omega), List.take_left' whole, pixels_of_whole whole]
  · rw [unpadded, List.length_nil, Nat.add_zero, if_neg (Nat.not_le.mpr cut),
      List.append_nil, pixels]

/-- A line that ends within its first pixel is white. -/
theorem toGrayLine_rgbCut {rest : Bytes} (short : rest.length < 3)
    (width : Nat) :
    toGrayLine 24 rest width = some (List.replicate width 0xFF#8) := by
  refine congrArg some (List.eq_replicate_iff.mpr ⟨by simp, ?_⟩)
  intro pixel member
  obtain ⟨x, -, rfl⟩ := List.mem_map.mp member
  have left : (rest.drop (x * 3)).length < 3 := by
    rw [List.length_drop]
    omega
  generalize rest.drop (x * 3) = bytes at left ⊢
  match bytes, left with
  | [], _ => rfl
  | [_], _ => rfl
  | [_, _], _ => rfl

/-- White bytes make white pixels, whole or cut. -/
theorem toGrayLine_white (count width : Nat) :
    toGrayLine 24 (List.replicate count 0xFF#8) width =
      some (List.replicate width 0xFF#8) := by
  refine congrArg some (List.eq_replicate_iff.mpr ⟨by simp, ?_⟩)
  intro pixel member
  obtain ⟨x, -, rfl⟩ := List.mem_map.mp member
  rw [List.drop_replicate]
  rcases count - x * 3 with _ | _ | _ | left
  · rfl
  · rfl
  · rfl
  · exact luma_grey 0xFF#8

/-- The first pixel of a line is flattened by itself. -/
theorem toGrayLine_rgbPixel (grey : U8) (line : Bytes) (width : Nat) :
    toGrayLine 24 (rgbPixel grey ++ line) (width + 1) =
      (toGrayLine 24 line width).map (grey :: ·) := by
  have step (x : Nat) :
      (rgbPixel grey ++ line).drop ((x + 1) * 3) = line.drop (x * 3) := by
    rw [Nat.succ_mul, Nat.add_comm, ← List.drop_drop]
    rfl
  simp only [toGrayLine, List.range_succ_eq_map, List.map_cons, List.map_map,
    Function.comp_def, Nat.succ_eq_add_one, step, Option.map_some]
  congr 2
  exact luma_grey grey

/-- Pixels of three equal bytes read as their greys, and as white from where
no whole pixel is left. -/
theorem toGrayLine_rgbPixels {greys rest : Bytes} {width : Nat}
    (fits : greys.length ≤ width)
    (ends : greys.length = width ∨ rest.length < 3) :
    toGrayLine 24 (greys.flatMap rgbPixel ++ rest) width =
      some (greys ++ List.replicate (width - greys.length) 0xFF#8) := by
  induction greys generalizing width with
  | nil =>
      rcases ends with none | short
      · subst none
        rfl
      · exact toGrayLine_rgbCut short width
  | cons grey greys ih =>
      obtain ⟨more, rfl⟩ : ∃ more, width = more + 1 :=
        ⟨width - 1, by rw [List.length_cons] at fits; omega⟩
      rw [List.length_cons, Nat.add_left_inj] at ends
      rw [List.flatMap_cons, List.append_assoc, toGrayLine_rgbPixel,
        ih (Nat.le_of_succ_le_succ fits) ends, List.length_cons,
        Nat.add_sub_add_right]
      rfl

theorem toGrayLine_line24 (row : SentRow width) :
    toGrayLine 24 row.line24 width = some row.pixels :=
  toGrayLine_rgbPixels row.length_le (row.ends.imp_right fun cut => cut.2.2)

end SentRow

/-! ### A page in two formats -/

section Page

variable {F : Type} [DitherFloat F] [DecidableLT F]

namespace KsJob

/-- Send lines to a job, each to its row, whether the ones before were taken or
not.  What comes back is what each line was answered, and the job. -/
def sendLines (options : JobOptions) :
    List (Nat × Bytes) → KsJob F → Option (List (Except String Unit) × KsJob F)
  | [], job => some ([], job)
  | (y, line) :: lines, job => do
      let (answer, job) ← job.writeLine options y line
      let (answers, job) ← sendLines options lines job
      pure (answer :: answers, job)

/-- A job sees of a contone line what it is flattened to. -/
theorem writeLine_of_toGrayLine {first second : JobOptions}
    {line other input : Bytes} (width : first.width = second.width)
    (grey : toGrayLine first.bitsPerPixel line first.width.toNat = some input)
    (same : toGrayLine second.bitsPerPixel other second.width.toNat =
      some input) (job : KsJob F) (y : Nat) :
    job.writeLine first y line = job.writeLine second y other := by
  unfold writeLine
  rw [grey, same]
  simp only [width]

/-- Rows that are answered alike one by one are answered alike, from any job
on. -/
theorem sendLines_congr {first second : JobOptions} {Row : Type*}
    {line other : Row → Bytes}
    (alike : ∀ (row : Row) (job : KsJob F) (y : Nat),
      job.writeLine first y (line row) = job.writeLine second y (other row))
    (rows : List (Nat × Row)) (job : KsJob F) :
    sendLines first (rows.map fun sent => (sent.1, line sent.2)) job =
      sendLines second (rows.map fun sent => (sent.1, other sent.2)) job := by
  induction rows generalizing job with
  | nil => rfl
  | cons sent rows ih =>
      simp only [List.map_cons, sendLines, alike, ih]

end KsJob

/-- The rows of a page on a new job, in lines of a depth. -/
def sendRows (F : Type) [DitherFloat F] [DecidableLT F] (width height : U32)
    (bitsPerPixel : Nat) (density : U8) (dots : Nat) (dither : DitherMode)
    (line : SentRow width.toNat → Bytes)
    (rows : List (Nat × SentRow width.toNat)) :
    Option (List (Except String Unit) × KsJob F) :=
  KsJob.sendLines ⟨width, height, bitsPerPixel⟩
    (rows.map fun sent => (sent.1, line sent.2))
    (.start ⟨width, height, bitsPerPixel⟩ density dots dither)

/-- Two formats of a page come out alike where each row is flattened to the
same line. -/
theorem sendRows_congr {width height : U32} {bits others : Nat}
    {line other : SentRow width.toNat → Bytes}
    (flat : ∀ row, toGrayLine bits (line row) width.toNat = some row.pixels)
    (same : ∀ row, toGrayLine others (other row) width.toNat =
      some row.pixels)
    (density : U8) (dots : Nat) (dither : DitherMode)
    (rows : List (Nat × SentRow width.toNat)) :
    sendRows F width height bits density dots dither line rows =
      sendRows F width height others density dots dither other rows := by
  let first : JobOptions := ⟨width, height, bits⟩
  let second : JobOptions := ⟨width, height, others⟩
  have sameWidth : first.width = second.width := rfl
  apply KsJob.sendLines_congr
  intro row job y
  exact KsJob.writeLine_of_toGrayLine sameWidth (flat row) (same row) job y

/-- A page of grey comes out alike in one byte for each pixel and in three, and
as if every pixel that a line was cut short of had been sent as white. -/
theorem sendRows_alike (width height : U32) (density : U8) (dots : Nat)
    (dither : DitherMode) (rows : List (Nat × SentRow width.toNat)) :
    sendRows F width height 24 density dots dither SentRow.line24 rows =
        sendRows F width height 8 density dots dither SentRow.line8 rows ∧
      sendRows F width height 8 density dots dither
          (fun row => row.whitened.line8) rows =
        sendRows F width height 8 density dots dither SentRow.line8 rows ∧
      sendRows F width height 24 density dots dither
          (fun row => row.whitened.line24) rows =
        sendRows F width height 24 density dots dither SentRow.line24 rows := by
  have grey (row : SentRow width.toNat) := row.toGrayLine_line8
  have rgb (row : SentRow width.toNat) := row.toGrayLine_line24
  refine ⟨?_, ?_, ?_⟩
  · exact sendRows_congr rgb grey density dots dither rows
  · refine sendRows_congr (fun row => ?_) grey density dots dither rows
    rw [row.whitened.toGrayLine_line8, row.whitened_pixels]
  · refine sendRows_congr (fun row => ?_) rgb density dots dither rows
    rw [row.whitened.toGrayLine_line24, row.whitened_pixels]

end Page

end SupvanCups
