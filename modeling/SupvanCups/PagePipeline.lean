import SupvanCups.BandedBuffers
import SupvanCups.PageBitmap

/-!
# From page raster to print buffers

The chain a job runs for every page it transfers: rotate the raster, centre it
under the printhead and split it into buffers without margins.  Read back, the
buffers hold the page dot for dot.
-/

namespace SupvanCups

/-- The print buffers `transfer_page` builds for a page.  The canvas stride and
the column count are narrowed to the tiler's `u8` and `u16`. -/
def pageBuffers (rasterData : Bytes) (width height : Nat) (density : U8)
    (printheadWidthDots : Nat) : Option (List PrintBuffer) := do
  let (colData, numCols, _) ← rasterToColumnMajor rasterData width height
  let (canvas, canvasBpl) ←
    centerInPrinthead colData numCols width printheadWidthDots
  splitIntoBuffers canvas (BitVec.ofNat 8 canvasBpl) (BitVec.ofNat 16 numCols)
    0#16 0#16 (.uniform density) {}

/-- Print buffers that read back as a page printed on a head of `usable`
dots. -/
structure PrintsPage (page : Bytes) (width height usable : Nat)
    (buffers : List PrintBuffer) : Prop where
  /-- The buffers advertise one line per page row. -/
  columns : (buffers.map PrintBuffer.columnCount).sum = height
  line_dots : ∀ buffer ∈ buffers, 8 * buffer.bytesPerLine = usable
  image_length : 8 * (buffers.flatMap PrintBuffer.imageBytes).length =
    height * usable
  /-- A dot is set exactly when the page has a set pixel in its row, at the
  column the centring puts under that dot. -/
  dots : ∀ row < height, ∀ dot < usable,
    lsbDot (buffers.flatMap PrintBuffer.imageBytes) (usable / 8) row dot =
        true ↔
      ∃ x < width, (x : Int) = pageColumn width usable dot ∧
        msbDot page (divCeil width 8) row x = true
  /-- Nothing is set after the advertised lines. -/
  padding : ∀ buffer ∈ buffers,
    ∀ byte ∈ buffer.payload.drop (buffer.columnCount * buffer.bytesPerLine),
      byte = 0#8
  /-- A page wider than the head loses the same number of columns on both
  sides, up to one. -/
  crop : usable ≤ width →
    let lostBefore := pageColumn width usable 0
    let lostAfter := (width : Int) - pageColumn width usable usable
    lostBefore ≤ lostAfter ∧ lostAfter ≤ lostBefore + 1

/-- A single band is printed by all the buffers. -/
theorem CarriesBands.columnCount_sum {imageData : Bytes} {perLineByte : U8}
    {band : DensityBand} {marginTop : U16} {page : PageOptions}
    {buffers : List PrintBuffer}
    (carries : CarriesBands imageData perLineByte [band] marginTop page buffers)
    (mono : page.colour = .mono) :
    (buffers.map PrintBuffer.columnCount).sum = band.cols.toNat := by
  obtain ⟨groups, rfl, related⟩ := carries.bands_split
  cases related with
  | cons first rest =>
      cases rest
      have onePlane : page.colour.planes.toNat = 1 := by
        rw [mono]
        rfl
      simpa [onePlane] using first.1

/-- Whatever the raster, the pipeline yields buffers that each advertise some
columns, and as many in all as 16 bits keep of the rows.  A head of no bytes a
line is a division by zero. -/
theorem exists_pageBuffers (page : Bytes) (width height : Nat) (density : U8)
    {printheadWidthDots : Nat} (head : printheadWidthDots / 8 % 256 ≠ 0) :
    ∃ buffers,
      pageBuffers page width height density printheadWidthDots =
        some buffers ∧
      (buffers.map PrintBuffer.columnCount).sum = height % 65536 ∧
      ∀ buffer ∈ buffers, 0 < buffer.columnCount := by
  obtain ⟨rotated, rotate, _⟩ := rasterToColumnMajor_spec page width height
  obtain ⟨canvas, centre, _⟩ :=
    centerInPrinthead_spec rotated height width printheadWidthDots
  have linePositive :
      1 ≤ (BitVec.ofNat 8 (printheadWidthDots / 8)).toNat := by
    rw [BitVec.toNat_ofNat]
    omega
  obtain ⟨buffers, run⟩ : ∃ buffers, splitIntoBandedBuffers canvas
      (BitVec.ofNat 8 (printheadWidthDots / 8))
      [⟨BitVec.ofNat 16 height - 0#16 - 0#16, .uniform density⟩] 0#16 0#16 {} =
        some buffers := by
    obtain ⟨_, _, run, _⟩ := splitIntoBandedBuffers_cut canvas
      (BitVec.ofNat 8 (printheadWidthDots / 8))
      [⟨BitVec.ofNat 16 height - 0#16 - 0#16, .uniform density⟩] 0#16 0#16 {}
      linePositive
    exact ⟨_, run⟩
  refine ⟨buffers, ?_, ?_, columnCount_pos_of_split run⟩
  · simp only [pageBuffers, rotate, centre, splitIntoBuffers,
      Option.bind_eq_bind, Option.bind_some, run]
  · rw [columnCount_sum_of_split run, BitVec.sub_zero, BitVec.sub_zero,
      BitVec.toNat_ofNat]
    exact Nat.one_mul _

/-- The pipeline never leaves its buffers, whatever the raster. -/
theorem pageBuffers_total (page : Bytes) (width height : Nat) (density : U8)
    {printheadWidthDots : Nat} (head : printheadWidthDots / 8 % 256 ≠ 0) :
    ∃ buffers,
      pageBuffers page width height density printheadWidthDots =
        some buffers :=
  (exists_pageBuffers page width height density head).imp
    fun _ built => built.1

/-- The pipeline always yields buffers, and they print the page.  A page shorter
than its rows prints as if filled up with zeros. -/
theorem pageBuffers_printsPage (page : Bytes) (width height : Nat)
    (density : U8) (printheadWidthDots : Nat) (heightBound : height ≤ 65535)
    (headBound : 8 ≤ printheadWidthDots ∧ printheadWidthDots ≤ 2047) :
    ∃ buffers,
      pageBuffers page width height density printheadWidthDots =
        some buffers ∧
      PrintsPage page width height (8 * (printheadWidthDots / 8)) buffers := by
  obtain ⟨rotated, rotate, _, rotatedDots⟩ :=
    rasterToColumnMajor_spec page width height
  obtain ⟨canvas, centre, canvasLength, canvasDots⟩ :=
    centerInPrinthead_spec rotated height width printheadWidthDots
  have lineEq : (BitVec.ofNat 8 (printheadWidthDots / 8)).toNat =
      printheadWidthDots / 8 := by
    rw [BitVec.toNat_ofNat]
    omega
  have colsEq : (BitVec.ofNat 16 height - 0#16 - 0#16).toNat = height := by
    rw [BitVec.sub_zero, BitVec.sub_zero, BitVec.toNat_ofNat]
    omega
  obtain ⟨groups, buffers, split, tiled⟩ := splitIntoBandedBuffers_tiledBy
    canvas (BitVec.ofNat 8 (printheadWidthDots / 8))
    [⟨BitVec.ofNat 16 height - 0#16 - 0#16, .uniform density⟩] 0#16 0#16 {}
    (by rw [lineEq]; omega)
    (by simp only [List.map_cons, colsEq]; simp; omega)
  have carries := tiled.carriesBands (by rw [lineEq]; omega)
  have image : buffers.flatMap PrintBuffer.imageBytes = canvas := by
    rw [carries.image_eq]
    simp only [List.map_cons, colsEq, lineEq, ColourMode.planes]
    simpa [canvasLength] using window_self canvas
  refine ⟨buffers, ?_, ?_, ?_, ?_, ?_, carries.padding, ?_⟩
  · simp only [pageBuffers, rotate, centre, splitIntoBuffers,
      Option.bind_eq_bind, Option.bind_some]
    exact split
  · rw [carries.columnCount_sum rfl, colsEq]
  · intro buffer member
    rw [carries.bytesPerLine_eq buffer member, lineEq]
  · rw [image, canvasLength]
    ring
  · intro row rowBound dot dotBound
    rw [image, Nat.mul_div_cancel_left _ (by decide : 0 < 8),
      canvasDots row rowBound dot dotBound]
    constructor
    · rintro ⟨x, xBound, place, set⟩
      have inPage := rotatedDots row rowBound x
        (xBound.trans_le (le_divCeil_mul width))
      exact ⟨x, xBound, place, (inPage.mp set).2⟩
    · rintro ⟨x, xBound, place, set⟩
      have inPage := rotatedDots row rowBound x
        (xBound.trans_le (le_divCeil_mul width))
      exact ⟨x, xBound, place, inPage.mpr ⟨xBound, set⟩⟩
  · intro wider
    have notNarrow : ¬ width < 8 * (printheadWidthDots / 8) := by omega
    simp only [pageColumn, if_neg notNarrow]
    omega

/-- An 11-dot page on a 17-dot head, and the same page cropped to an 8-dot
head. -/
theorem pageBuffers_printsPage_narrow :
    (∃ buffers,
      pageBuffers [0x80#8, 0xE0#8, 0x01#8, 0x5F#8] 11 2 4#8 17 =
        some buffers ∧
      PrintsPage [0x80#8, 0xE0#8, 0x01#8, 0x5F#8] 11 2 16 buffers) ∧
    ∃ buffers,
      pageBuffers [0x80#8, 0xE0#8, 0x01#8, 0x5F#8] 11 2 4#8 8 =
        some buffers ∧
      PrintsPage [0x80#8, 0xE0#8, 0x01#8, 0x5F#8] 11 2 8 buffers :=
  ⟨pageBuffers_printsPage _ 11 2 4#8 17 (by decide) (by decide),
    pageBuffers_printsPage _ 11 2 4#8 8 (by decide) (by decide)⟩

end SupvanCups
