import SupvanCups.CheckedLoops
import SupvanCups.DitherCarry
import SupvanCups.PrintSpeed
import SupvanCups.RasterJob
import SupvanCups.TestPattern
import SupvanCups.TwoColourPage

/-!
# Labels shorter than their margins

Two print paths take the margins from the rows of a label without looking
whether there are that many.  Below 16 rows the 16-bit difference wraps, and
the buffers ask for some 65,000 columns of paper.  A grey image is also cut
into rows by a 32-bit product, which ends in a panic for an image of 4 GiB.
-/

namespace SupvanCups

/-- What a print path hands to `print_compressed`, with the buffers it was made
from. -/
structure ReadyPage where
  buffers : List PrintBuffer
  blocks : List Bytes
  speed : U16

/-- Compress the buffers of a page and choose its speed.  `none` is a loop that
does not end. -/
def readyPage (encoder : Codec) :
    Except ProtoError (List PrintBuffer) →
      Option (Except ProtoError ReadyPage)
  | .error error => some (.error error)
  | .ok buffers => (compressBuffers encoder buffers).map fun packed =>
      packed.map fun (blocks, avg) => ⟨buffers, blocks, calcSpeed avg⟩

def sendPage (transport : Transport) :
    Except ProtoError ReadyPage → Operation Unit
  | .error error => throw error
  | .ok page => transport.printCompressed page.blocks page.speed

section Grayscale

variable {F : Type} [DitherFloat F] [DecidableLT F]

/-- Dither one row of a grey image into its place in the bitmap.  The ends of
the row are `u32` products; `none` is a panic. -/
def halftoneRow (gray : Bytes) (width bpl : Nat)
    (state : Ditherer F × Bytes) (y : Nat) : Option (Ditherer F × Bytes) := do
  let row ← getRange gray (y * width % 2 ^ 32) ((y + 1) * width % 2 ^ 32)
  let out ← getRange state.2 (y * bpl) ((y + 1) * bpl)
  let (ditherer, out) ← state.1.line row y out
  let mono ← copyInto state.2 (y * bpl) out
  pure (ditherer, mono)

/-- The buffers `print_grayscale` builds. -/
def grayscaleBuffers (F : Type) [DitherFloat F] [DecidableLT F] (gray : Bytes)
    (width height : U32) (density : Density) (dither : DitherMode) :
    Option (Except ProtoError (List PrintBuffer)) :=
  let w := width.toNat
  let h := height.toNat
  let expected := w * h
  if gray.length < expected then
    some (.error (.invalidParam
      s!"grayscale buffer too small: {gray.length} < {expected}"))
  else do
    let bpl := divCeil w 8
    let (_, mono) ← (List.range h).foldlM (halftoneRow gray w bpl)
      ((.new dither w : Ditherer F), List.replicate (bpl * h) 0#8)
    let (colData, numCols, _) ← rasterToColumnMajor mono w h
    let (canvas, canvasBpl) ←
      centerInPrinthead colData numCols w printheadWidthDots
    (splitIntoBuffers canvas (BitVec.ofNat 8 canvasBpl)
      (BitVec.ofNat 16 numCols) defaultMarginDots defaultMarginDots density
      {}).map .ok

/-- `print_grayscale` up to its first exchange with the printer. -/
def grayscalePage (F : Type) [DitherFloat F] [DecidableLT F] (encoder : Codec)
    (gray : Bytes) (width height : U32) (density : Density)
    (dither : DitherMode) : Option (Except ProtoError ReadyPage) :=
  (grayscaleBuffers F gray width height density dither).bind
    (readyPage encoder)

end Grayscale

/-- The buffers `test_print` builds. -/
def testBuffers (mat : MaterialInfo) (density : Density) (page : PageOptions) :
    Option (List PrintBuffer) := do
  let (imageData, _, h, bpl) ← createTestPattern (testLabel mat)
  splitIntoBuffers imageData (BitVec.ofNat 8 bpl) (BitVec.ofNat 16 h) 8#16
    8#16 density page

/-- `test_print` up to its first exchange with the printer. -/
def testPage (encoder : Codec) (mat : MaterialInfo) (density : Density)
    (page : PageOptions) : Option (Except ProtoError ReadyPage) :=
  (testBuffers mat density page).bind fun buffers =>
    readyPage encoder (.ok buffers)

/-- A page of the given rows is refused before anything is sent, or all its
rows but the 16 of the margins are advertised, once for each colour plane. -/
inductive RefusedOrWhole (transport : Transport) (planes rows : Nat) :
    Option (Except ProtoError ReadyPage) → Prop
  | refused {error : ProtoError}
      (unsent : ∀ device, Session.runOn device
        (sendPage transport (.error error)) = (.error error, [])) :
      RefusedOrWhole transport planes rows (some (.error error))
  | whole {page : ReadyPage}
      (columns : (page.buffers.map PrintBuffer.columnCount).sum +
        planes * 16 = planes * rows) :
      RefusedOrWhole transport planes rows (some (.ok page))

/-! ### A grey image becomes a bitmap -/

section Halftone

variable {F : Type} [DitherFloat F] [DecidableLT F]
variable {gray : Bytes} {width height : Nat}

/-- The ditherer is that of the width, and the bitmap that of the image. -/
structure HalftoneSized (width height : Nat) (state : Ditherer F × Bytes) :
    Prop where
  width_eq : state.1.width = width
  length_eq : state.2.length = height * divCeil width 8

theorem halftoneRow_keeps (long : height * width ≤ gray.length)
    (small : height * width < 2 ^ 32) {y : Nat} (yBound : y < height)
    (state : Ditherer F × Bytes) (sized : HalftoneSized width height state) :
    ∃ next, halftoneRow gray width (divCeil width 8) state y = some next ∧
      HalftoneSized width height next := by
  obtain ⟨ditherer, mono⟩ := state
  have widthEq : ditherer.width = width := sized.width_eq
  have monoLength : mono.length = height * divCeil width 8 := sized.length_eq
  have rowEnd := rowEnd_le yBound width
  have outEnd := rowEnd_le yBound (divCeil width 8)
  have row := getRange_row yBound long
  have out := getRange_row yBound monoLength.ge
  have inside : ∀ x < min ditherer.width
      ((gray.drop (y * width)).take width).length,
      (ditherer.width - 1 - x) / 8 <
        ((mono.drop (y * divCeil width 8)).take (divCeil width 8)).length := by
    intro x xBound
    rw [length_row yBound monoLength.ge, widthEq]
    simp only [divCeil]
    omega
  obtain ⟨next, out', dithered, outLength⟩ := ditherer.line_total _ y inside
  obtain ⟨-, err, errRow, carried, -⟩ := Ditherer.line_some dithered
  have fits : y * divCeil width 8 + out'.length ≤ mono.length := by
    rw [outLength, List.length_take, List.length_drop]
    omega
  obtain ⟨mono', copied, copiedLength⟩ := copyInto_of_fits fits
  refine ⟨(next, mono'), ?_, ?_, ?_⟩
  · rw [halftoneRow, Nat.mod_eq_of_lt (by omega),
      Nat.mod_eq_of_lt (by rw [Nat.succ_mul]; omega), row, out]
    simp only [Option.bind_eq_bind, Option.bind_some, dithered, copied]
    rfl
  · rw [carried]
    exact widthEq
  · rw [copiedLength, monoLength]

/-- Every row of an image of less than 4 GiB is dithered. -/
theorem halftone_isSome (long : height * width ≤ gray.length)
    (small : height * width < 2 ^ 32) (dither : DitherMode) :
    ∃ final, (List.range height).foldlM
        (halftoneRow gray width (divCeil width 8))
        ((.new dither width : Ditherer F),
          List.replicate (divCeil width 8 * height) 0#8) = some final := by
  obtain ⟨final, run, _⟩ := foldlM_isSome_of_keeps
    (fun y member => halftoneRow_keeps (F := F) long small
      (List.mem_range.mp member))
    (⟨rfl, by rw [List.length_replicate, Nat.mul_comm]⟩ :
      HalftoneSized width height
        ((.new dither width : Ditherer F),
          List.replicate (divCeil width 8 * height) 0#8))
  exact ⟨final, run⟩

/-- In a larger image the end of some row wraps before its start, which is a
panic. -/
theorem halftone_eq_none (narrow : width < 2 ^ 32)
    (large : 2 ^ 32 ≤ height * width) (dither : DitherMode) :
    (List.range height).foldlM (halftoneRow gray width (divCeil width 8))
        ((.new dither width : Ditherer F),
          List.replicate (divCeil width 8 * height) 0#8) = none := by
  have positive : 0 < width := by
    rcases Nat.eq_zero_or_pos width with rfl | positive
    · simp at large
    · exact positive
  -- The row that the last address below 2^32 lies in
  obtain ⟨y, before, after⟩ : ∃ y, y * width < 2 ^ 32 ∧
      2 ^ 32 ≤ y * width + width := by
    have starts := Nat.div_mul_le_self (2 ^ 32 - 1) width
    have ends := Nat.lt_div_mul_add positive (a := 2 ^ 32 - 1)
    exact ⟨(2 ^ 32 - 1) / width, by omega, by omega⟩
  have inside : y < height := by
    by_contra outside
    have := Nat.mul_le_mul_right width (Nat.le_of_not_lt outside)
    omega
  apply foldlM_eq_none_of_mem (List.mem_range.mpr inside)
  intro state
  have stop : (y + 1) * width % 2 ^ 32 = y * width + width - 2 ^ 32 := by
    rw [Nat.succ_mul, Nat.mod_eq_sub_mod after, Nat.mod_eq_of_lt]
    omega
  have slice : getRange gray (y * width % 2 ^ 32)
      ((y + 1) * width % 2 ^ 32) = none := by
    rw [stop, Nat.mod_eq_of_lt before, getRange, if_neg]
    omega
  rw [halftoneRow, slice]
  rfl

end Halftone

/-! ### The columns that are advertised -/

/-- Rows less their margins, in 16 bits. -/
theorem toNat_sub_margins (rows : U16) :
    (rows - 8#16 - 8#16).toNat = (rows.toNat + 65520) % 65536 := by
  rw [BitVec.toNat_sub, BitVec.toNat_sub]
  simp only [BitVec.toNat_ofNat]
  omega

/-- A page cut with margins of 8 advertises its rows less 16, where the
difference wraps. -/
theorem exists_margined_split (imageData : Bytes) (perLineByte : U8)
    (linePositive : 1 ≤ perLineByte.toNat) {rows : Nat} (few : rows ≤ 65535)
    (density : Density) (page : PageOptions) :
    ∃ buffers,
      splitIntoBuffers imageData perLineByte (BitVec.ofNat 16 rows) 8#16 8#16
        density page = some buffers ∧
      (buffers.map PrintBuffer.columnCount).sum =
        page.colour.planes.toNat * ((rows + 65520) % 65536) := by
  have rowsEq : (BitVec.ofNat 16 rows).toNat = rows := by
    rw [BitVec.toNat_ofNat]
    omega
  obtain ⟨_, _, run, _⟩ := splitIntoBandedBuffers_cut imageData perLineByte
    [⟨BitVec.ofNat 16 rows - 8#16 - 8#16, density⟩] 8#16 8#16 page linePositive
  refine ⟨_, run, ?_⟩
  rw [columnCount_sum_of_split run, toNat_sub_margins, rowsEq]

theorem exists_grayscaleBuffers (F : Type) [DitherFloat F] [DecidableLT F]
    {gray : Bytes} {width height : U32} (few : height.toNat ≤ 65535)
    (passes : width.toNat * height.toNat ≤ gray.length)
    (small : width.toNat * height.toNat < 2 ^ 32) (density : Density)
    (dither : DitherMode) :
    ∃ buffers,
      grayscaleBuffers F gray width height density dither =
        some (.ok buffers) ∧
      (buffers.map PrintBuffer.columnCount).sum =
        (height.toNat + 65520) % 65536 := by
  rw [Nat.mul_comm] at small
  obtain ⟨⟨_, mono⟩, run⟩ := halftone_isSome (F := F)
    (Nat.mul_comm _ _ ▸ passes) small dither
  obtain ⟨rotated, rotate, _⟩ :=
    rasterToColumnMajor_spec mono width.toNat height.toNat
  obtain ⟨canvas, centre, _⟩ := centerInPrinthead_spec rotated height.toNat
    width.toNat printheadWidthDots
  obtain ⟨buffers, split, columns⟩ := exists_margined_split canvas
    (BitVec.ofNat 8 (printheadWidthDots / 8)) (by decide) few density {}
  refine ⟨buffers, ?_, ?_⟩
  · simp only [grayscaleBuffers, if_neg (Nat.not_lt.mpr passes), run, rotate,
      centre, defaultMarginDots, split, Option.bind_eq_bind, Option.bind_some,
      Option.map_some]
  · rw [columns]
    exact Nat.one_mul _

theorem testLabel_heightDots_le (mat : MaterialInfo) :
    (testLabel mat).heightDots ≤ 65535 := by
  have short := mat.heightMm.isLt
  simp only [TestLabel.heightDots, testLabel, dotsPerMm, defaultLabelHeightMm]
  split <;> omega

theorem exists_testBuffers (mat : MaterialInfo) (density : Density)
    (page : PageOptions) :
    ∃ buffers, testBuffers mat density page = some buffers ∧
      (buffers.map PrintBuffer.columnCount).sum = page.colour.planes.toNat *
        (((testLabel mat).heightDots + 65520) % 65536) := by
  obtain ⟨image, drawn⟩ := createTestPattern_isSome (testLabel mat)
  obtain ⟨buffers, split, columns⟩ := exists_margined_split image
    (BitVec.ofNat 8 printheadBytesPerLine) (by decide)
    (testLabel_heightDots_le mat) density page
  refine ⟨buffers, ?_, columns⟩
  simp only [testBuffers, drawn, Option.bind_eq_bind, Option.bind_some, split]

/-! ### Refused or whole -/

/-- Whatever the compressor, buffers are refused or whole exactly when there
are none or they advertise all rows but the margins. -/
theorem forall_readyPage_iff (transport : Transport) (planes rows : Nat)
    (buffers : List PrintBuffer) :
    (∀ encoder, RefusedOrWhole transport planes rows
        (readyPage encoder (.ok buffers))) ↔
      buffers = [] ∨ (buffers.map PrintBuffer.columnCount).sum +
        planes * 16 = planes * rows := by
  constructor
  · intro always
    rw [or_iff_not_imp_left]
    intro nonempty
    obtain ⟨blocks, avg, packs⟩ := compressBuffers_storingEncoder nonempty
    have kept := always storingEncoder
    rw [readyPage, packs] at kept
    cases kept with
    | whole columns => exact columns
  · intro fine encoder
    obtain ⟨outcome, packs⟩ := compressBuffers_ends encoder buffers
    rw [readyPage, packs]
    rcases outcome with error | ⟨blocks, avg⟩
    · exact .refused fun _ => rfl
    · refine .whole ?_
      rcases fine with rfl | columns
      · cases packs
      · exact columns

/-- The wrapped columns of a page are its rows less the margins exactly when it
has that many rows. -/
theorem forall_readyPage_margined_iff (transport : Transport)
    {planes rows : Nat} (positive : 0 < planes) (few : rows ≤ 65535)
    {buffers : List PrintBuffer}
    (columns : (buffers.map PrintBuffer.columnCount).sum =
      planes * ((rows + 65520) % 65536)) :
    (∀ encoder, RefusedOrWhole transport planes rows
        (readyPage encoder (.ok buffers))) ↔ 16 ≤ rows := by
  rw [forall_readyPage_iff, columns, ← Nat.mul_add,
    Nat.mul_right_inj positive.ne']
  constructor
  · rintro (rfl | whole)
    · have nothing : (rows + 65520) % 65536 = 0 := by
        simpa [positive.ne'] using columns.symm
      omega
    · omega
  · intro enough
    right
    omega

theorem grayscalePage_refusedOrWhole_iff (F : Type) [DitherFloat F]
    [DecidableLT F] (transport : Transport) {gray : Bytes} {width height : U32}
    (few : height.toNat ≤ 65535)
    (passes : width.toNat * height.toNat ≤ gray.length) (density : Density)
    (dither : DitherMode) :
    (∀ encoder, RefusedOrWhole transport 1 height.toNat
        (grayscalePage F encoder gray width height density dither)) ↔
      16 ≤ height.toNat ∧ width.toNat * height.toNat < 2 ^ 32 := by
  by_cases small : width.toNat * height.toNat < 2 ^ 32
  · obtain ⟨buffers, built, columns⟩ :=
      exists_grayscaleBuffers F few passes small density dither
    simp only [grayscalePage, built, Option.bind_some]
    rw [forall_readyPage_margined_iff transport Nat.one_pos few (by omega)]
    exact (and_iff_left small).symm
  · have panics : grayscaleBuffers F gray width height density dither =
        none := by
      rw [grayscaleBuffers, if_neg (Nat.not_lt.mpr passes)]
      simp only [halftone_eq_none (F := F) width.isLt
        (Nat.mul_comm _ _ ▸ Nat.le_of_not_lt small) dither]
      rfl
    simp only [grayscalePage, panics, Option.bind_none, small, and_false,
      iff_false]
    intro always
    cases always storingEncoder

theorem testPage_refusedOrWhole_iff (transport : Transport)
    (mat : MaterialInfo) (density : Density) (page : PageOptions) :
    (∀ encoder, RefusedOrWhole transport page.colour.planes.toNat
        (testLabel mat).heightDots
        (testPage encoder mat density page)) ↔ mat.heightMm ≠ 1#8 := by
  obtain ⟨buffers, built, columns⟩ := exists_testBuffers mat density page
  simp only [testPage, built, Option.bind_some]
  rw [forall_readyPage_margined_iff transport page.colour.planes_pos
    (testLabel_heightDots_le mat) columns]
  simp only [TestLabel.heightDots, testLabel, dotsPerMm, defaultLabelHeightMm,
    ne_eq, ← BitVec.toNat_inj, BitVec.toNat_ofNat]
  split <;> omega

/-- A grey image is refused or printed whole exactly when it has 16 rows and
less than 4 GiB, a test label exactly when it is not one millimetre high. -/
theorem shortLabels_refusedOrWhole_iff (F : Type) [DitherFloat F]
    [DecidableLT F] (transport : Transport) {gray : Bytes} {width height : U32}
    (few : height.toNat ≤ 65535)
    (passes : width.toNat * height.toNat ≤ gray.length) (density : Density)
    (dither : DitherMode) (mat : MaterialInfo) (page : PageOptions) :
    ((∀ encoder, RefusedOrWhole transport 1 height.toNat
        (grayscalePage F encoder gray width height density dither)) ↔
      16 ≤ height.toNat ∧ width.toNat * height.toNat < 2 ^ 32) ∧
    ((∀ encoder, RefusedOrWhole transport page.colour.planes.toNat
        (testLabel mat).heightDots
        (testPage encoder mat density page)) ↔ mat.heightMm ≠ 1#8) :=
  ⟨grayscalePage_refusedOrWhole_iff F transport few passes density dither,
    testPage_refusedOrWhole_iff transport mat density page⟩

/-- A material report with nothing in it but a size. -/
def plainMaterial (widthMm heightMm : U8) : MaterialInfo where
  uuid := ""
  code := ""
  sn := 0#16
  labelType := 0#8
  widthMm := widthMm
  heightMm := heightMm
  gapMm := 0#8
  remaining := none
  deviceSn := none

/-- A white strip of 20 rows, and a label of 40 by 30 mm. -/
theorem shortLabels_refusedOrWhole_strip :
    ((∀ encoder, RefusedOrWhole sppCodec 1 (20#32 : U32).toNat
        (grayscalePage Rat encoder (List.replicate 20 0xFF#8) 1#32 20#32
          (.uniform 4#8) .atkinson)) ↔
      16 ≤ (20#32 : U32).toNat ∧
        (1#32 : U32).toNat * (20#32 : U32).toNat < 2 ^ 32) ∧
    ((∀ encoder, RefusedOrWhole sppCodec
        ({} : PageOptions).colour.planes.toNat
        (testLabel (plainMaterial 40#8 30#8)).heightDots
        (testPage encoder (plainMaterial 40#8 30#8) (.uniform 4#8) {})) ↔
      (plainMaterial 40#8 30#8).heightMm ≠ 1#8) :=
  shortLabels_refusedOrWhole_iff Rat sppCodec (by decide) (by decide) _ _ _ _

/-- A white strip of eight rows asks for 65,528 columns, and so does the test
pattern of a label one millimetre high. -/
theorem shortLabels_wrap :
    ¬ (∀ encoder, RefusedOrWhole sppCodec 1 (8#32 : U32).toNat
        (grayscalePage Rat encoder (List.replicate 8 0xFF#8) 1#32 8#32
          (.uniform 4#8) .atkinson)) ∧
    ¬ (∀ encoder, RefusedOrWhole sppCodec
        ({} : PageOptions).colour.planes.toNat
        (testLabel (plainMaterial 40#8 1#8)).heightDots
        (testPage encoder (plainMaterial 40#8 1#8) (.uniform 4#8) {})) := by
  constructor
  · rw [grayscalePage_refusedOrWhole_iff Rat sppCodec (by decide) (by decide)]
    decide
  · rw [testPage_refusedOrWhole_iff]
    decide

end SupvanCups
