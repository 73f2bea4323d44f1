import SupvanCups.BandedBuffers
import SupvanCups.ColourPlanes
import SupvanCups.Transport

/-!
# Two-colour pages

A two-colour page is its interleaved planes cut into print buffers, without the
margin rows at both ends.  Read back, the buffers hold two lines for every
printed row: the red dots of the row and then its black dots.
-/

namespace SupvanCups

/-- Rows left blank before and after a page. -/
def defaultMarginDots : U16 := 8#16

/-- `saturating_sub`. -/
def saturatingSub (value amount : U16) : U16 :=
  if value < amount then 0#16 else value - amount

/-- The buffers `print_two_colour` builds, before they are compressed.  `none`
is a panic or a loop that does not end.  The expected length is the product
itself: that a `usize` cannot hold it for sizes close to `2 ^ 32` is left
out. -/
def twoColourBuffers (luma : Luma) (rgb : Bytes) (width height : U32)
    (density : Density) : Option (Except ProtoError (List PrintBuffer)) :=
  let expected := width.toNat * height.toNat * 3
  if rgb.length < expected then
    some (.error (.invalidParam
      s!"RGB buffer too small: {rgb.length} < {expected}"))
  else do
    let (red, black, cols, bpl) ← rgbToPlanes luma rgb width height
    match interleavePlanes red black bpl.toNat cols.toNat with
    | none => some (.error (.invalidParam "plane interleave failed"))
    | some interleaved =>
        let margin := defaultMarginDots
        let printable := saturatingSub (cols.setWidth 16) (2#16 * margin)
        if printable = 0#16 then
          some (.error (.invalidParam
            s!"{height.toNat} rows leaves nothing after margins"))
        else
          (splitIntoBandedBuffers interleaved (bpl.setWidth 8)
            [⟨printable, density⟩] margin margin
            { colour := .twoColour }).map .ok

/-- Line `2 j` holds the red dots of row `firstRow + j`, line `2 j + 1` the
black ones. -/
def PairsRows (luma : Luma) (rgb : Bytes) (width firstRow rows : Nat)
    (image : Bytes) : Prop :=
  ∀ j < rows, ∀ x < 8 * divCeil width 8,
    (lsbDot image (divCeil width 8) (2 * j) x = true ↔
      x < width ∧ pixelPlane luma rgb width (firstRow + j) x = some .red) ∧
    (lsbDot image (divCeil width 8) (2 * j + 1) x = true ↔
      x < width ∧ pixelPlane luma rgb width (firstRow + j) x = some .black)

/-- Print buffers that read back as the printed rows of a two-colour page. -/
structure PrintsTwoColours (luma : Luma) (rgb : Bytes) (width height : Nat)
    (buffers : List PrintBuffer) : Prop where
  lines : (buffers.map PrintBuffer.columnCount).sum = 2 * (height - 16)
  line_bytes : ∀ buffer ∈ buffers, buffer.bytesPerLine = divCeil width 8
  image_length : (buffers.flatMap PrintBuffer.imageBytes).length =
    2 * (height - 16) * divCeil width 8
  dots : PairsRows luma rgb width 8 (height - 16)
    (buffers.flatMap PrintBuffer.imageBytes)
  /-- No dot is in both planes. -/
  disjoint : ∀ j < height - 16, ∀ x < 8 * divCeil width 8,
    ¬ (lsbDot (buffers.flatMap PrintBuffer.imageBytes) (divCeil width 8)
          (2 * j) x = true ∧
        lsbDot (buffers.flatMap PrintBuffer.imageBytes) (divCeil width 8)
          (2 * j + 1) x = true)
  /-- Every buffer starts with the red line of a row and pairs it with the
  black line of the same row, and so on to its end. -/
  paired : ∀ before buffer after, buffers = before ++ buffer :: after →
    ∃ row, (before.map PrintBuffer.columnCount).sum = 2 * row ∧
      PairsRows luma rgb width (8 + row) (buffer.columnCount / 2)
        buffer.imageBytes
  even : ∀ buffer ∈ buffers, 2 ∣ buffer.columnCount
  first_cut : ∀ buffer ∈ buffers, buffer.firstCut = 2#8

theorem lsbDot_window (bytes : Bytes) (stride first : Nat)
    {lines line x : Nat} (lineBound : line < lines)
    (xBound : x < 8 * stride) :
    lsbDot (window bytes (first * stride) (lines * stride)) stride line x =
      lsbDot bytes stride (first + line) x := by
  have lineEnd := rowEnd_le lineBound stride
  rw [lsbDot, bitAt, getD_window (by omega), ← Nat.add_assoc,
    ← Nat.add_mul]
  rfl

/-- The image bytes of a buffer within its capacity are all there. -/
theorem imageBytes_length {buffer : PrintBuffer}
    (capacity : buffer.columnCount * buffer.bytesPerLine ≤ maxBufData) :
    buffer.imageBytes.length = buffer.columnCount * buffer.bytesPerLine := by
  have room : maxBufData ≤ printBufSize - printBufHeader := by decide
  rw [PrintBuffer.imageBytes, PrintBuffer.payload, List.length_take,
    List.length_drop, buffer.length_eq]
  omega

section Lines

variable {stride : Nat}

theorem flatMap_imageBytes_length {buffers : List PrintBuffer}
    (full : ∀ buffer ∈ buffers,
      buffer.imageBytes.length = buffer.columnCount * stride) :
    (buffers.flatMap PrintBuffer.imageBytes).length =
      (buffers.map PrintBuffer.columnCount).sum * stride := by
  induction buffers with
  | nil => simp
  | cons buffer buffers ih =>
      obtain ⟨here, later⟩ := List.forall_mem_cons.mp full
      rw [List.flatMap_cons, List.length_append, here, ih later,
        List.map_cons, List.sum_cons, Nat.add_mul]

/-- A line of a buffer is the line of the whole image at its place. -/
theorem lsbDot_imageBytes {before after : List PrintBuffer}
    {buffer : PrintBuffer}
    (full : ∀ other ∈ before ++ buffer :: after,
      other.imageBytes.length = other.columnCount * stride)
    {line x : Nat} (lineBound : line < buffer.columnCount)
    (xBound : x < 8 * stride) :
    lsbDot buffer.imageBytes stride line x =
      lsbDot ((before ++ buffer :: after).flatMap PrintBuffer.imageBytes)
        stride ((before.map PrintBuffer.columnCount).sum + line) x := by
  obtain ⟨fullBefore, fullRest⟩ := List.forall_mem_append.mp full
  obtain ⟨fullHere, -⟩ := List.forall_mem_cons.mp fullRest
  have lineEnd := rowEnd_le lineBound stride
  rw [lsbDot, lsbDot, bitAt, bitAt, List.flatMap_append, List.flatMap_cons,
    Nat.add_mul, Nat.add_assoc,
    List.getD_append_right _ _ _ _
      (by rw [flatMap_imageBytes_length fullBefore]; omega),
    flatMap_imageBytes_length fullBefore, Nat.add_sub_cancel_left,
    List.getD_append _ _ _ _ (by rw [fullHere]; omega)]

end Lines

theorem even_sum {values : List Nat} (even : ∀ value ∈ values, 2 ∣ value) :
    (values.sum : Nat) = 2 * (values.map (· / 2)).sum := by
  induction values with
  | nil => rfl
  | cons value values ih =>
      obtain ⟨here, later⟩ := List.forall_mem_cons.mp even
      rw [List.sum_cons, List.map_cons, List.sum_cons, ih later]
      omega

/-- Whole buffers of a whole page pair its rows: a boundary between buffers
never separates the two lines of a row. -/
theorem PairsRows.of_buffers {luma : Luma} {rgb : Bytes}
    {width firstRow rows : Nat} {before after : List PrintBuffer}
    {buffer : PrintBuffer}
    (page : PairsRows luma rgb width firstRow rows
      ((before ++ buffer :: after).flatMap PrintBuffer.imageBytes))
    (full : ∀ other ∈ before ++ buffer :: after,
      other.imageBytes.length = other.columnCount * divCeil width 8)
    (even : ∀ other ∈ before ++ buffer :: after, 2 ∣ other.columnCount)
    (total : ((before ++ buffer :: after).map
      PrintBuffer.columnCount).sum = 2 * rows) :
    ∃ row, (before.map PrintBuffer.columnCount).sum = 2 * row ∧
      PairsRows luma rgb width (firstRow + row) (buffer.columnCount / 2)
        buffer.imageBytes := by
  obtain ⟨evenBefore, evenRest⟩ := List.forall_mem_append.mp even
  obtain ⟨evenHere, -⟩ := List.forall_mem_cons.mp evenRest
  have rowStart := even_sum (List.forall_mem_map.mpr evenBefore)
  refine ⟨_, rowStart, ?_⟩
  intro j jBound x xBound
  simp only [List.map_append, List.map_cons, List.sum_append,
    List.sum_cons] at total
  have here := page
    (((before.map PrintBuffer.columnCount).map (· / 2)).sum + j)
    (by omega) x xBound
  have red := lsbDot_imageBytes full
    (by omega : 2 * j < buffer.columnCount) xBound
  have black := lsbDot_imageBytes full
    (by omega : 2 * j + 1 < buffer.columnCount) xBound
  rw [rowStart, ← Nat.mul_add] at red
  rw [rowStart, ← Nat.add_assoc, ← Nat.mul_add] at black
  rw [red, black, Nat.add_assoc]
  exact here

theorem TiledBy.firstCut_eq {imageData : Bytes} {perLineByte : U8}
    {bands : List DensityBand} {marginTop marginBottom : U16}
    {page : PageOptions} {groups : List (List Chunk)}
    {buffers : List PrintBuffer}
    (tiled : TiledBy imageData perLineByte bands marginTop marginBottom page
      groups buffers) :
    ∀ buffer ∈ buffers, buffer.firstCut = page.colour.firstCut := by
  intro buffer member
  rw [tiled.buffers_eq] at member
  obtain ⟨index, bound, rfl⟩ := List.mem_mapIdx.mp member
  exact firstCut_buildPrintBuffer _

theorem CarriesBands.twoLines {imageData : Bytes} {perLineByte : U8}
    {band : DensityBand} {marginTop : U16} {page : PageOptions}
    {buffers : List PrintBuffer}
    (carries : CarriesBands imageData perLineByte [band] marginTop page buffers)
    (twoColour : page.colour = .twoColour) :
    (∀ buffer ∈ buffers, 2 ∣ buffer.columnCount) ∧
      (buffers.map PrintBuffer.columnCount).sum = 2 * band.cols.toNat := by
  have planesEq : page.colour.planes.toNat = 2 := by
    rw [twoColour]
    rfl
  obtain ⟨groups, rfl, related⟩ := carries.bands_split
  cases related with
  | @cons _ group _ _ first rest =>
      cases rest
      rw [planesEq] at first
      obtain ⟨halved, whole⟩ := first
      have even : ∀ buffer ∈ group, 2 ∣ buffer.columnCount :=
        fun buffer member => (whole buffer member).1
      simp only [List.flatten_cons, List.flatten_nil, List.append_nil]
      refine ⟨even, ?_⟩
      rw [even_sum (List.forall_mem_map.mpr even), List.map_map, ← halved]
      rfl

/-- The buffers of a two-colour page print it: the doubled column count, the
halved capacity and the margins all count the same columns. -/
theorem splitIntoBandedBuffers_printsTwoColours {luma : Luma} {rgb : Bytes}
    {width height : Nat} {red black interleaved : Bytes} {bpl : U8}
    {printable : U16} (density : Density)
    (linePositive : 1 ≤ bpl.toNat) (bplEq : bpl.toNat = divCeil width 8)
    (printableEq : printable.toNat = height - 16)
    (heightBound : 16 < height ∧ height ≤ 65535)
    (redHolds : PlaneHolds luma rgb width height .red red)
    (blackHolds : PlaneHolds luma rgb width height .black black)
    (paired : ∀ col < height, ∀ x < 8 * divCeil width 8,
      lsbDot interleaved (divCeil width 8) (2 * col) x =
          lsbDot red (divCeil width 8) col x ∧
        lsbDot interleaved (divCeil width 8) (2 * col + 1) x =
          lsbDot black (divCeil width 8) col x) :
    ∃ buffers,
      splitIntoBandedBuffers interleaved bpl [⟨printable, density⟩]
        defaultMarginDots defaultMarginDots { colour := .twoColour } =
          some buffers ∧
      PrintsTwoColours luma rgb width height buffers := by
  have marginEq : defaultMarginDots.toNat = 8 := rfl
  obtain ⟨groups, buffers, split, tiled⟩ := splitIntoBandedBuffers_tiledBy
    interleaved bpl [⟨printable, density⟩] defaultMarginDots defaultMarginDots
    { colour := .twoColour } linePositive (by
      simp only [List.map_cons, List.map_nil, List.sum_cons, List.sum_nil,
        marginEq, printableEq]
      omega)
  have carries := tiled.carriesBands linePositive
  have planesEq : ColourMode.twoColour.planes.toNat = 2 := rfl
  have image : buffers.flatMap PrintBuffer.imageBytes =
      window interleaved (16 * divCeil width 8)
        (2 * (height - 16) * divCeil width 8) := by
    rw [carries.image_eq]
    simp only [List.map_cons, List.map_nil, List.sum_cons, List.sum_nil,
      planesEq, bplEq, marginEq, printableEq]
    congr 1 <;> ring
  have full : ∀ buffer ∈ buffers,
      buffer.imageBytes.length = buffer.columnCount * divCeil width 8 := by
    intro buffer member
    rw [imageBytes_length (carries.capacity buffer member).2,
      carries.bytesPerLine_eq buffer member, bplEq]
  obtain ⟨even, total⟩ := carries.twoLines rfl
  rw [printableEq] at total
  have dots : PairsRows luma rgb width 8 (height - 16)
      (buffers.flatMap PrintBuffer.imageBytes) := by
    intro j jBound x xBound
    obtain ⟨redLine, blackLine⟩ := paired (8 + j) (by omega) x xBound
    have redRow : 16 + 2 * j = 2 * (8 + j) := by ring
    have blackRow : 16 + (2 * j + 1) = 2 * (8 + j) + 1 := by ring
    rw [image, lsbDot_window _ _ _ (by omega) xBound,
      lsbDot_window _ _ _ (by omega) xBound, redRow, blackRow, redLine,
      blackLine]
    exact ⟨redHolds.dots (8 + j) (by omega) x xBound,
      blackHolds.dots (8 + j) (by omega) x xBound⟩
  refine ⟨buffers, split, total, ?_, ?_, dots, ?_, ?_, even,
    tiled.firstCut_eq⟩
  · intro buffer member
    rw [carries.bytesPerLine_eq buffer member, bplEq]
  · rw [image, window_length]
  · rintro j jBound x xBound ⟨redSet, blackSet⟩
    have red := ((dots j jBound x xBound).1.mp redSet).2
    have black := ((dots j jBound x xBound).2.mp blackSet).2
    rw [red] at black
    cases black
  · rintro before buffer after rfl
    exact dots.of_buffers full even total

/-- Two-colour pages print exactly. -/
theorem twoColourBuffers_printsTwoColours (luma : Luma) (rgb : Bytes)
    (width height : U32) (density : Density)
    (widthBound : 1 ≤ width.toNat ∧ width.toNat ≤ 2040)
    (heightBound : 16 < height.toNat ∧ height.toNat ≤ 65535)
    (small : 3 * (width.toNat * height.toNat) < 2 ^ 32)
    (whole : 3 * (width.toNat * height.toNat) ≤ rgb.length) :
    ∃ buffers,
      twoColourBuffers luma rgb width height density = some (.ok buffers) ∧
      PrintsTwoColours luma rgb width.toNat height.toNat buffers := by
  have strideBound : 1 ≤ divCeil width.toNat 8 ∧
      divCeil width.toNat 8 ≤ 255 := by
    simp only [divCeil]
    omega
  obtain ⟨red, black, planes, redHolds, blackHolds⟩ :=
    rgbToPlanes_spec luma whole small
  have bplEq : (BitVec.ofNat 32 (divCeil width.toNat 8)).toNat =
      divCeil width.toNat 8 := by
    rw [BitVec.toNat_ofNat, Nat.mod_eq_of_lt (by omega)]
  have addressable : height.toNat * divCeil width.toNat 8 < 2 ^ 64 := by
    calc
      height.toNat * divCeil width.toNat 8 ≤ 65535 * 255 :=
        Nat.mul_le_mul heightBound.2 strideBound.2
      _ < 2 ^ 64 := by decide
  obtain ⟨interleaved, interleave, paired⟩ := interleavePlanes_spec
    redHolds.length_eq blackHolds.length_eq addressable
  have narrowed : (height.setWidth 16).toNat = height.toNat := by
    rw [BitVec.toNat_setWidth]
    omega
  have printableEq : (saturatingSub (height.setWidth 16)
      (2#16 * defaultMarginDots)).toNat = height.toNat - 16 := by
    have margins : (2#16 * defaultMarginDots).toNat = 16 := rfl
    rw [saturatingSub, if_neg (by rw [BitVec.lt_def, margins, narrowed]; omega),
      BitVec.toNat_sub, margins, narrowed]
    omega
  have lineEq : ((BitVec.ofNat 32 (divCeil width.toNat 8)).setWidth 8).toNat =
      divCeil width.toNat 8 := by
    rw [BitVec.toNat_setWidth, bplEq]
    omega
  obtain ⟨buffers, split, prints⟩ := splitIntoBandedBuffers_printsTwoColours
    density (by rw [lineEq]; exact strideBound.1) lineEq printableEq
    heightBound redHolds blackHolds paired
  refine ⟨buffers, ?_, prints⟩
  have enough : ¬ rgb.length < width.toNat * height.toNat * 3 := by omega
  have printed : saturatingSub (height.setWidth 16)
      (2#16 * defaultMarginDots) ≠ 0#16 := by
    intro nothing
    rw [nothing] at printableEq
    simp at printableEq
    omega
  simp only [twoColourBuffers, if_neg enough, planes, Option.bind_eq_bind,
    Option.bind_some, bplEq, interleave, if_neg printed, split,
    Option.map_some]

/-- A page of seventeen rows of a black dot, a red one and a blank one. -/
theorem twoColourBuffers_printsTwoColours_narrow :
    ∃ buffers,
      twoColourBuffers (fun r _ _ => r)
        (List.replicate 17
          [0#8, 0#8, 0#8, 76#8, 0#8, 0#8, 255#8, 255#8, 255#8]).flatten
        3#32 17#32 ⟨4#8, 6#8⟩ = some (.ok buffers) ∧
      PrintsTwoColours (fun r _ _ => r)
        (List.replicate 17
          [0#8, 0#8, 0#8, 76#8, 0#8, 0#8, 255#8, 255#8, 255#8]).flatten
        3 17 buffers :=
  twoColourBuffers_printsTwoColours _ _ 3#32 17#32 _ (by decide) (by decide)
    (by decide) (by simp)

end SupvanCups
