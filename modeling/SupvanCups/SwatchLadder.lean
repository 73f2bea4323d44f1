import SupvanCups.TestPattern
import SupvanCups.TiledPieces
import SupvanCups.TwoColourPage

/-!
# Calibration strips

A calibration strip has one solid swatch for each density, laid down the feed
direction.  The picture and the print buffers place the swatches separately:
the picture divides the label into bands, and the buffers are cut from bands
of the same width, one for each density.  Every swatch burns at its own
density as long as both count the same bands.
-/

namespace SupvanCups

/-! ### The picture -/

/-- Unprinted trailing columns of each band. -/
def swatchSeparatorDots : Nat := 4

/-- A strip of `steps` swatches on a label of the given size. -/
structure SwatchLadder where
  labelWidthMm : U32
  heightMm : U32
  steps : U32

namespace SwatchLadder

def heightDots (ladder : SwatchLadder) : Nat :=
  dotsOfMm ladder.heightMm

def labelWidthDots (ladder : SwatchLadder) : Nat :=
  centredWidthDots ladder.labelWidthMm

def xOffset (ladder : SwatchLadder) : Nat :=
  centredOffset ladder.labelWidthMm

def margin : Nat := defaultMarginDots.toNat

def printable (ladder : SwatchLadder) : Nat :=
  ladder.heightDots - 2 * margin

def bandCols (ladder : SwatchLadder) : Nat :=
  ladder.printable / max ladder.steps.toNat 1

def inkCols (ladder : SwatchLadder) : Nat :=
  ladder.bandCols - swatchSeparatorDots

/-- The first column of a swatch.  The bands lie within the label, so that no
column number wraps. -/
def start (ladder : SwatchLadder) (step : Nat) : Nat :=
  margin + step * ladder.bandCols

/-- The dots that the picture inks for one swatch. -/
def Inked (ladder : SwatchLadder) (step col dot : Nat) : Prop :=
  step < ladder.steps.toNat ∧
    ladder.start step ≤ col ∧ col < ladder.start step + ladder.inkCols ∧
    ladder.xOffset ≤ dot ∧ dot < ladder.xOffset + ladder.labelWidthDots

/-- Nothing is inked: no swatches, bands no wider than their separators, or no
label width. -/
def Blank (ladder : SwatchLadder) : Prop :=
  ladder.steps = 0#32 ∨ ladder.inkCols = 0 ∨ ladder.labelWidthDots = 0

end SwatchLadder

/-- Draw the strip.  Returns the image with its height, its bytes per line and
the width of its bands; `none` is a write outside the image. -/
def createSwatchLadder (labelWidthMm heightMm steps : U32) :
    Option (Bytes × Nat × Nat × Nat) :=
  let ladder : SwatchLadder := ⟨labelWidthMm, heightMm, steps⟩
  let bytesPerLine := printheadBytesPerLine
  let buf := List.replicate (bytesPerLine * ladder.heightDots) 0#8
  (paint (List.range steps.toNat ×ˢ
      (List.range ladder.inkCols ×ˢ List.range ladder.labelWidthDots))
    (fun (step, inkCol, inkDot) =>
      let col := ladder.start step + inkCol
      let dot := ladder.xOffset + inkDot
      some (col * bytesPerLine + dot / 8, 1#8 <<< (dot % 8)))
    buf).map fun painted =>
      (painted, ladder.heightDots, bytesPerLine, ladder.bandCols)

namespace SwatchLadder

/-- All bands lie within the printable columns. -/
theorem bands_le (ladder : SwatchLadder) :
    ladder.steps.toNat * ladder.bandCols ≤ ladder.printable :=
  calc
    ladder.steps.toNat * ladder.bandCols ≤
        max ladder.steps.toNat 1 * ladder.bandCols :=
      Nat.mul_le_mul_right _ (Nat.le_max_left _ _)
    _ ≤ ladder.printable := Nat.mul_div_le _ _

theorem Inked.col_lt {ladder : SwatchLadder} {step col dot : Nat}
    (inked : ladder.Inked step col dot) :
    col < ladder.start step + ladder.bandCols :=
  inked.2.2.1.trans_le (Nat.add_le_add_left (Nat.sub_le _ _) _)

theorem Inked.band_le {ladder : SwatchLadder} {step col dot : Nat}
    (inked : ladder.Inked step col dot) :
    ladder.start step + ladder.bandCols ≤ margin + ladder.printable := by
  have last := rowEnd_le inked.1 ladder.bandCols
  have within := ladder.bands_le
  rw [start]
  omega

/-- An inked dot lies between the margins of the label. -/
theorem Inked.col_lt_height {ladder : SwatchLadder} {step col dot : Nat}
    (inked : ladder.Inked step col dot) : col < ladder.heightDots := by
  have first : ladder.start step ≤ col := inked.2.1
  have inBand := inked.col_lt
  have bandEnd := inked.band_le
  rw [start] at first
  rw [printable] at bandEnd
  omega

theorem Inked.dot_lt {ladder : SwatchLadder} {step col dot : Nat}
    (inked : ladder.Inked step col dot) : dot < printheadWidthDots :=
  inked.2.2.2.2.trans_le (centredOffset_add_le ladder.labelWidthMm)

/-- The swatches of a strip are inked in list order. -/
theorem Inked.col_lt_of_lt {ladder : SwatchLadder}
    {first second firstCol secondCol firstDot secondDot : Nat}
    (before : first < second)
    (firstInked : ladder.Inked first firstCol firstDot)
    (secondInked : ladder.Inked second secondCol secondDot) :
    firstCol < secondCol := by
  have firstLast := firstInked.col_lt
  have secondStart : ladder.start second ≤ secondCol := secondInked.2.1
  have bandEnd := rowEnd_le before ladder.bandCols
  rw [start] at firstLast secondStart
  omega

/-- A strip that is not blank inks the first dot of its first swatch. -/
theorem inked_first {ladder : SwatchLadder} (inks : ¬ ladder.Blank) :
    ladder.Inked 0 margin ladder.xOffset := by
  rw [Blank, not_or, not_or] at inks
  obtain ⟨someSteps, someInk, someWidth⟩ := inks
  have stepsPositive : 0 < ladder.steps.toNat :=
    Nat.pos_of_ne_zero fun zero => someSteps (BitVec.eq_of_toNat_eq zero)
  have startEq : ladder.start 0 = margin := by
    rw [start, Nat.zero_mul, Nat.add_zero]
  rw [Inked, startEq]
  refine ⟨stepsPositive, le_rfl, ?_, le_rfl, ?_⟩ <;> omega

theorem not_inked_of_blank {ladder : SwatchLadder} (blank : ladder.Blank)
    (step col dot : Nat) : ¬ ladder.Inked step col dot := by
  rintro ⟨stepBound, first, last, left, right⟩
  rcases blank with none | noInk | noWidth
  · rw [none] at stepBound
    exact absurd stepBound (Nat.not_lt_zero _)
  · omega
  · omega

end SwatchLadder

/-- Drawing stays inside the image and inks the dots of the swatches. -/
theorem createSwatchLadder_spec (ladder : SwatchLadder) :
    ∃ image,
      createSwatchLadder ladder.labelWidthMm ladder.heightMm ladder.steps =
        some (image, ladder.heightDots, printheadBytesPerLine,
          ladder.bandCols) ∧
      image.length = printheadBytesPerLine * ladder.heightDots ∧
      ∀ col dot, dot < printheadWidthDots →
        (lsbDot image printheadBytesPerLine col dot = true ↔
          ∃ step, ladder.Inked step col dot) := by
  have inside (step inkCol inkDot : Nat)
      (stepBound : step < ladder.steps.toNat)
      (colBound : inkCol < ladder.inkCols)
      (dotBound : inkDot < ladder.labelWidthDots) :
      ladder.Inked step (ladder.start step + inkCol)
        (ladder.xOffset + inkDot) := by
    refine ⟨stepBound, ?_, ?_, ?_, ?_⟩ <;> omega
  obtain ⟨image, run, lengthEq, bits⟩ := paint_spec
    (List.range ladder.steps.toNat ×ˢ
      (List.range ladder.inkCols ×ˢ List.range ladder.labelWidthDots))
    (fun (step, inkCol, inkDot) =>
      some ((ladder.start step + inkCol) * printheadBytesPerLine +
          (ladder.xOffset + inkDot) / 8,
        1#8 <<< ((ladder.xOffset + inkDot) % 8)))
    (List.replicate (printheadBytesPerLine * ladder.heightDots) 0#8) (by
      rintro ⟨step, inkCol, inkDot⟩ member index mask stroke
      simp only [List.mem_product, List.mem_range] at member
      obtain ⟨rfl, -⟩ := Prod.mk.inj (Option.some.inj stroke)
      have inked := inside step inkCol inkDot member.1 member.2.1 member.2.2
      have colBound := inked.col_lt_height
      have dotBound := inked.dot_lt
      simp only [List.length_replicate, printheadBytesPerLine,
        printheadWidthDots_eq] at dotBound ⊢
      omega)
  refine ⟨image, ?_, by simpa using lengthEq, ?_⟩
  · rw [createSwatchLadder]
    exact congrArg (Option.map fun painted =>
      (painted, ladder.heightDots, printheadBytesPerLine, ladder.bandCols)) run
  · intro col dot dotBound
    rw [lsbDot, bits]
    simp only [bitAt_replicate_zero, Bool.false_eq_true, false_or]
    constructor
    · rintro ⟨⟨step, inkCol, inkDot⟩, member, mask, stroke, inMask⟩
      simp only [List.mem_product, List.mem_range] at member
      obtain ⟨indexEq, rfl⟩ := Prod.mk.inj (Option.some.inj stroke)
      obtain ⟨bitEq, -⟩ := (getLsbD_one_shiftLeft _ _).mp inMask
      have inked := inside step inkCol inkDot member.1 member.2.1 member.2.2
      have inkBound := inked.dot_lt
      simp only [printheadBytesPerLine, printheadWidthDots_eq]
        at bitEq indexEq dotBound inkBound
      obtain rfl : ladder.start step + inkCol = col := by omega
      obtain rfl : ladder.xOffset + inkDot = dot := by omega
      exact ⟨step, inked⟩
    · rintro ⟨step, stepBound, first, last, left, right⟩
      refine ⟨(step, col - ladder.start step, dot - ladder.xOffset), ?_,
        1#8 <<< (dot % 8), ?_, ?_⟩
      · simp only [List.mem_product, List.mem_range]
        exact ⟨stepBound, by omega, by omega⟩
      · simp only [Nat.add_sub_cancel' first, Nat.add_sub_cancel' left]
      · exact (getLsbD_one_shiftLeft _ _).mpr ⟨rfl, by omega⟩

/-! ### The buffers -/

structure SwatchPrint where
  imageData : Bytes
  bands : List DensityBand
  buffers : List PrintBuffer

/-- The image and the buffers that `print_swatch_ladder` makes before it
compresses them.  `none` is a panic or a loop that does not end. -/
def swatchLadderBuffers (labelWidthMm heightMm : U32)
    (densities : List Density) : Option (Except ProtoError SwatchPrint) :=
  if densities.isEmpty then
    some (.error (.invalidParam "no densities to sweep"))
  else do
    -- `densities.len() as u32`
    let steps := BitVec.ofNat 32 densities.length
    let (imageData, _, bpl, bandCols) ←
      createSwatchLadder labelWidthMm heightMm steps
    if bandCols = 0 then
      some (.error (.invalidParam
        s!"{heightMm.toNat}mm label too short for {steps.toNat} bands"))
    else
      let bands := densities.map fun density =>
        ⟨BitVec.ofNat 16 bandCols, density⟩
      let margin := defaultMarginDots
      (splitIntoBandedBuffers imageData (BitVec.ofNat 8 bpl) bands margin
        margin {}).map fun buffers => .ok ⟨imageData, bands, buffers⟩

/-- The ladder that is drawn for a list of densities. -/
def swatchLadder (labelWidthMm heightMm : U32) (densities : List Density) :
    SwatchLadder :=
  ⟨labelWidthMm, heightMm, BitVec.ofNat 32 densities.length⟩

/-- The column of the image that the first line of a piece comes from. -/
def Chunk.firstColumn (chunk : Chunk) : Nat :=
  (defaultMarginDots + chunk.startCol).toNat

namespace SwatchPrint

/-- The pieces that the bands are cut into, one for each buffer. -/
def pieces (print : SwatchPrint) : Option (List Chunk) :=
  (tileBands (BitVec.ofNat 16 (maxBufData / printheadBytesPerLine))
    print.bands ⟨[], 0#16⟩).map TileState.chunks

/-- Buffer `index` carries a dot of the image: its piece holds the column, and
the dot is set in the line of that column. -/
def Carries (print : SwatchPrint) (pieces : List Chunk)
    (index col dot : Nat) : Prop :=
  ∃ piece buffer, pieces[index]? = some piece ∧
    print.buffers[index]? = some buffer ∧
    piece.firstColumn ≤ col ∧
    col < piece.firstColumn + piece.colsInBuf.toNat ∧
    lsbDot buffer.imageBytes printheadBytesPerLine
      (col - piece.firstColumn) dot = true

/-- The header of buffer `index` has the trims of a density. -/
def BurnsAt (print : SwatchPrint) (index : Nat) (density : Density) : Prop :=
  ∃ buffer, print.buffers[index]? = some buffer ∧
    buffer.trims = density.encode

end SwatchPrint

/-- Every swatch burns at its own density. -/
structure BurnsOwnDensities (ladder : SwatchLadder) (densities : List Density)
    (print : SwatchPrint) (pieces : List Chunk) : Prop where
  /-- The dots of the image are those of the swatches. -/
  ink : ∀ col dot, dot < printheadWidthDots →
    (lsbDot print.imageData printheadBytesPerLine col dot = true ↔
      ∃ step, ladder.Inked step col dot)
  /-- A dot of a swatch is in exactly one buffer, one of its own density. -/
  own : ∀ step col dot, ladder.Inked step col dot →
    ∃ index density, print.Carries pieces index col dot ∧
      densities[step]? = some density ∧ print.BurnsAt index density ∧
      ∀ other, print.Carries pieces other col dot → other = index
  /-- The swatches are in list order. -/
  ordered : ∀ first second, first < second →
    ∀ firstCol firstDot secondCol secondDot firstIndex secondIndex,
      ladder.Inked first firstCol firstDot →
      ladder.Inked second secondCol secondDot →
      print.Carries pieces firstIndex firstCol firstDot →
      print.Carries pieces secondIndex secondCol secondDot →
      firstIndex < secondIndex
  /-- No dot lies outside the centred label. -/
  centred : ∀ col dot, dot < printheadWidthDots →
    lsbDot print.imageData printheadBytesPerLine col dot = true →
    (printheadWidthDots - ladder.labelWidthDots) / 2 ≤ dot ∧
      dot < (printheadWidthDots - ladder.labelWidthDots) / 2 +
        ladder.labelWidthDots

/-- `print_swatch_ladder` does not refuse the label. -/
def SwatchesAccepted (labelWidthMm heightMm : U32)
    (densities : List Density) : Prop :=
  ∀ error, swatchLadderBuffers labelWidthMm heightMm densities ≠
    some (.error error)

/-- A strip is drawn inside its image and cut into buffers that burn every
swatch at its own density. -/
def SwatchesBurnOwn (labelWidthMm heightMm : U32)
    (densities : List Density) : Prop :=
  ∃ print pieces,
    swatchLadderBuffers labelWidthMm heightMm densities = some (.ok print) ∧
    print.pieces = some pieces ∧
    BurnsOwnDensities (swatchLadder labelWidthMm heightMm densities) densities
      print pieces

section Print

variable {labelWidthMm heightMm : U32} {densities : List Density}

/-- How the buffers of a strip are cut. -/
structure SwatchCut (ladder : SwatchLadder) (densities : List Density)
    (print : SwatchPrint) (groups : List (List Chunk)) : Prop where
  bands_eq : print.bands = densities.map fun density =>
    ⟨BitVec.ofNat 16 ladder.bandCols, density⟩
  pieces_eq : print.pieces = some groups.flatten
  buffers_eq : print.buffers = groups.flatten.mapIdx
    (chunkBuffer print.imageData 48#8 defaultMarginDots defaultMarginDots {}
      (groups.flatten.length - 1))
  follow : ∃ finalCol, ChunksFollow 0#16 groups.flatten finalCol
  fit : List.Forall₂ (CutInto (BitVec.ofNat 16
    (maxBufData / printheadBytesPerLine))) print.bands groups
  ink : ∀ col dot, dot < printheadWidthDots →
    (lsbDot print.imageData printheadBytesPerLine col dot = true ↔
      ∃ step, ladder.Inked step col dot)

/-- A label with room for the bands is drawn and cut, however many there
are. -/
theorem swatchLadderBuffers_cut (nonempty : densities ≠ [])
    (room : (swatchLadder labelWidthMm heightMm densities).bandCols ≠ 0) :
    ∃ print groups,
      swatchLadderBuffers labelWidthMm heightMm densities =
        some (.ok print) ∧
      SwatchCut (swatchLadder labelWidthMm heightMm densities) densities
        print groups := by
  obtain ⟨image, drawn, -, ink⟩ :=
    createSwatchLadder_spec (swatchLadder labelWidthMm heightMm densities)
  obtain ⟨groups, finalCol, tiled, follow, fit⟩ := tileBands_cut
    (maxCols_bounds 48#8 .mono (by decide)).1
    (densities.map fun density => (⟨BitVec.ofNat 16
      (swatchLadder labelWidthMm heightMm densities).bandCols, density⟩ :
        DensityBand)) ⟨[], 0#16⟩
  refine ⟨⟨image, densities.map fun density => ⟨BitVec.ofNat 16
    (swatchLadder labelWidthMm heightMm densities).bandCols, density⟩,
    groups.flatten.mapIdx (chunkBuffer image 48#8 defaultMarginDots
      defaultMarginDots {} (groups.flatten.length - 1))⟩, groups, ?_, ?_⟩
  · have notEmpty : densities.isEmpty = false :=
      Bool.eq_false_iff.mpr fun empty => nonempty (List.isEmpty_iff.mp empty)
    have split : splitIntoBandedBuffers image 48#8
        (densities.map fun density => ⟨BitVec.ofNat 16
          (swatchLadder labelWidthMm heightMm densities).bandCols, density⟩)
        defaultMarginDots defaultMarginDots {} =
          some (groups.flatten.mapIdx (chunkBuffer image 48#8
            defaultMarginDots defaultMarginDots {}
            (groups.flatten.length - 1))) :=
      congrArg (Option.map fun state : TileState =>
        state.chunks.mapIdx (chunkBuffer image 48#8 defaultMarginDots
          defaultMarginDots {} (state.chunks.length - 1))) tiled
    have drawnHere : createSwatchLadder labelWidthMm heightMm
        (BitVec.ofNat 32 densities.length) = _ := drawn
    simp only [swatchLadderBuffers, notEmpty, Bool.false_eq_true, if_false,
      drawnHere, Option.bind_eq_bind, Option.bind_some, if_neg room]
    exact congrArg (Option.map _) split
  · exact ⟨rfl, congrArg (Option.map TileState.chunks) tiled, rfl,
      ⟨finalCol, follow⟩, fit, ink⟩

namespace SwatchCut

variable {ladder : SwatchLadder} {print : SwatchPrint}
  {groups : List (List Chunk)} {index col dot : Nat} {piece : Chunk}

/-- The bands of the buffers are as wide as those of the picture. -/
theorem width_eq (cut : SwatchCut ladder densities print groups)
    (fits : ladder.bandCols < 65536) :
    ∀ band ∈ print.bands, band.cols.toNat = ladder.bandCols := by
  intro band member
  rw [cut.bands_eq] at member
  obtain ⟨density, -, rfl⟩ := List.mem_map.mp member
  rw [BitVec.toNat_ofNat, Nat.mod_eq_of_lt fits]

theorem piece_bounds (cut : SwatchCut ladder densities print groups)
    (pieceAt : groups.flatten[index]? = some piece) :
    0 < piece.colsInBuf.toNat ∧
      piece.colsInBuf.toNat * printheadBytesPerLine ≤ maxBufData := by
  have someLine : 1 ≤ (48#8).toNat := by decide
  have fit : List.Forall₂ (CutInto (BitVec.ofNat 16 (maxBufData /
      ((48#8).toNat * ({} : PageOptions).colour.planes.toNat))))
      print.bands groups := cut.fit
  exact chunk_bounds_of_fit someLine fit piece (List.mem_of_getElem? pieceAt)

theorem bufferAt (cut : SwatchCut ladder densities print groups)
    (pieceAt : groups.flatten[index]? = some piece) :
    print.buffers[index]? = some (chunkBuffer print.imageData 48#8
      defaultMarginDots defaultMarginDots {} (groups.flatten.length - 1) index
      piece) := by
  rw [cut.buffers_eq, List.getElem?_mapIdx, pieceAt, Option.map_some]

theorem burnsAt (cut : SwatchCut ladder densities print groups)
    (pieceAt : groups.flatten[index]? = some piece) :
    print.BurnsAt index piece.density := by
  have someLine : 1 ≤ (48#8).toNat := by decide
  have advertised : BufferAdvertises 48#8 {} piece (chunkBuffer
      print.imageData 48#8 defaultMarginDots defaultMarginDots {}
      (groups.flatten.length - 1) index piece) :=
    chunkBuffer_advertises print.imageData defaultMarginDots
      defaultMarginDots _ index someLine (cut.piece_bounds pieceAt).2
  exact ⟨_, cut.bufferAt pieceAt, advertised.trims_eq⟩

/-- A piece whose column number has not wrapped carries the dots of its
columns. -/
theorem carries (cut : SwatchCut ladder densities print groups)
    (pieceAt : groups.flatten[index]? = some piece)
    (startFits : SwatchLadder.margin + piece.startCol.toNat < 65536)
    (starts : SwatchLadder.margin + piece.startCol.toNat ≤ col)
    (ends : col < SwatchLadder.margin + piece.startCol.toNat +
      piece.colsInBuf.toNat)
    (dotBound : dot < printheadWidthDots)
    (set : lsbDot print.imageData printheadBytesPerLine col dot = true) :
    print.Carries groups.flatten index col dot := by
  have firstEq : piece.firstColumn =
      SwatchLadder.margin + piece.startCol.toNat := by
    rw [Chunk.firstColumn, BitVec.toNat_add]
    exact Nat.mod_eq_of_lt startFits
  have someLine : 1 ≤ (48#8).toNat := by decide
  have carried : BufferCarries print.imageData 48#8 defaultMarginDots {} piece
      (chunkBuffer print.imageData 48#8 defaultMarginDots defaultMarginDots {}
        (groups.flatten.length - 1) index piece) :=
    chunkBuffer_carries defaultMarginDots _ index someLine
      (cut.piece_bounds pieceAt).2 startFits
  refine ⟨piece, _, pieceAt, cut.bufferAt pieceAt, ?_, ?_, ?_⟩
  · rwa [firstEq]
  · rwa [firstEq]
  · rw [carried.imageBytes_eq, firstEq]
    have inPiece : col - (SwatchLadder.margin + piece.startCol.toNat) <
        piece.colsInBuf.toNat := by omega
    have shifted := lsbDot_window print.imageData printheadBytesPerLine
      (SwatchLadder.margin + piece.startCol.toNat) inPiece dotBound
    rw [Nat.add_sub_cancel' starts, set] at shifted
    exact shifted

/-- As long as the bands end within 16 bits, the pieces tile them. -/
theorem tile (cut : SwatchCut ladder densities print groups)
    (narrow : ladder.bandCols < 65536)
    (fits : SwatchLadder.margin + densities.length * ladder.bandCols <
      65536) :
    ChunksTile 0 groups.flatten (densities.length * ladder.bandCols) := by
  have total : (groups.flatten.map fun chunk => chunk.colsInBuf.toNat).sum =
      densities.length * ladder.bandCols := by
    rw [sum_colsInBuf_of_cutInto cut.fit,
      List.map_congr_left (cut.width_eq narrow), List.map_const',
      List.sum_replicate_nat, cut.bands_eq, List.length_map]
  obtain ⟨finalCol, follow⟩ := cut.follow
  have tiled := follow.tile (by rw [total, BitVec.toNat_zero]; omega)
  rwa [tiled.stop_eq, total, BitVec.toNat_zero, Nat.zero_add] at tiled

/-- A piece with an inked column lies in the band of that swatch. -/
theorem piece_of_inked (cut : SwatchCut ladder densities print groups)
    (narrow : ladder.bandCols < 65536) {stop step : Nat}
    (tiled : ChunksTile 0 groups.flatten stop)
    (pieceAt : groups.flatten[index]? = some piece)
    (inked : ladder.Inked step col dot)
    (starts : SwatchLadder.margin + piece.startCol.toNat ≤ col)
    (ends : col < SwatchLadder.margin + piece.startCol.toNat +
      piece.colsInBuf.toNat) :
    densities[step]? = some piece.density ∧
      SwatchLadder.margin + piece.startCol.toNat + piece.colsInBuf.toNat ≤
        ladder.start step + ladder.bandCols := by
  obtain ⟨bandIndex, band, bandAt, densityEq, first, last⟩ :=
    tiled.exists_band cut.fit (cut.width_eq narrow) piece
      (List.mem_of_getElem? pieceAt)
  have colFirst : ladder.start step ≤ col := inked.2.1
  have colLast := inked.col_lt
  rw [SwatchLadder.start] at colFirst colLast ⊢
  rw [Nat.succ_mul] at last
  have sameBand : bandIndex = step := by
    rcases Nat.lt_trichotomy bandIndex step with before | same | after
    · have bandEnd := rowEnd_le before ladder.bandCols
      omega
    · exact same
    · have bandEnd := rowEnd_le after ladder.bandCols
      omega
  subst sameBand
  refine ⟨?_, by omega⟩
  rw [cut.bands_eq, List.getElem?_map, Option.map_eq_some_iff] at bandAt
  obtain ⟨density, densityAt, rfl⟩ := bandAt
  rw [densityAt, densityEq]

theorem firstColumn_eq {stop : Nat}
    (tiled : ChunksTile 0 groups.flatten stop)
    (fits : SwatchLadder.margin + stop < 65536)
    (pieceAt : groups.flatten[index]? = some piece) :
    piece.firstColumn = SwatchLadder.margin + piece.startCol.toNat := by
  have pieceEnd := tiled.end_le piece (List.mem_of_getElem? pieceAt)
  rw [Chunk.firstColumn, BitVec.toNat_add]
  refine Nat.mod_eq_of_lt ?_
  change SwatchLadder.margin + piece.startCol.toNat < 65536
  omega

/-- A dot of a swatch is in exactly one buffer, one of its own density. -/
theorem exists_own (cut : SwatchCut ladder densities print groups)
    (narrow : ladder.bandCols < 65536)
    (fits : SwatchLadder.margin + densities.length * ladder.bandCols < 65536)
    (counted : ladder.steps.toNat = densities.length) {step : Nat}
    (inked : ladder.Inked step col dot) :
    ∃ index density, print.Carries groups.flatten index col dot ∧
      densities[step]? = some density ∧ print.BurnsAt index density ∧
      ∀ other, print.Carries groups.flatten other col dot →
        other = index := by
  have tiled := cut.tile narrow fits
  have colFirst : ladder.start step ≤ col := inked.2.1
  have colLast := inked.col_lt
  have bandEnd := rowEnd_le inked.1 ladder.bandCols
  rw [counted] at bandEnd
  rw [SwatchLadder.start] at colFirst colLast
  have columns : 0 ≤ col - SwatchLadder.margin ∧
      col - SwatchLadder.margin < densities.length * ladder.bandCols := by
    omega
  obtain ⟨index, piece, pieceAt, starts, ends⟩ :=
    tiled.exists_holding columns.1 columns.2
  have pieceEnd := tiled.end_le piece (List.mem_of_getElem? pieceAt)
  refine ⟨index, piece.density, ?_, ?_, cut.burnsAt pieceAt, ?_⟩
  · exact cut.carries pieceAt (by omega) (by omega) (by omega) inked.dot_lt
      ((cut.ink col dot inked.dot_lt).mpr ⟨step, inked⟩)
  · exact (cut.piece_of_inked narrow tiled pieceAt inked (by omega)
      (by omega)).1
  · rintro other ⟨otherPiece, _, otherAt, _, otherStarts, otherEnds, _⟩
    rw [firstColumn_eq tiled fits otherAt] at otherStarts otherEnds
    have otherFirst :
        otherPiece.startCol.toNat ≤ col - SwatchLadder.margin := by omega
    have otherLast : col - SwatchLadder.margin <
        otherPiece.startCol.toNat + otherPiece.colsInBuf.toNat := by omega
    exact Nat.le_antisymm
      (tiled.index_le otherAt pieceAt otherFirst le_rfl ends)
      (tiled.index_le pieceAt otherAt starts le_rfl otherLast)

/-- The buffers of a swatch come before those of a later one. -/
theorem index_lt (cut : SwatchCut ladder densities print groups)
    (narrow : ladder.bandCols < 65536)
    (fits : SwatchLadder.margin + densities.length * ladder.bandCols < 65536)
    {first second firstCol firstDot secondCol secondDot : Nat}
    {firstIndex secondIndex : Nat} (before : first < second)
    (firstInked : ladder.Inked first firstCol firstDot)
    (secondInked : ladder.Inked second secondCol secondDot)
    (firstCarried : print.Carries groups.flatten firstIndex firstCol firstDot)
    (secondCarried :
      print.Carries groups.flatten secondIndex secondCol secondDot) :
    firstIndex < secondIndex := by
  have tiled := cut.tile narrow fits
  obtain ⟨firstPiece, _, firstAt, _, firstStarts, firstEnds, _⟩ := firstCarried
  obtain ⟨secondPiece, _, secondAt, _, secondStarts, secondEnds, _⟩ :=
    secondCarried
  rw [firstColumn_eq tiled fits firstAt] at firstStarts firstEnds
  rw [firstColumn_eq tiled fits secondAt] at secondStarts secondEnds
  have colsInOrder := firstInked.col_lt_of_lt before secondInked
  have inOrder : firstIndex ≤ secondIndex := tiled.index_le firstAt secondAt
    (by omega : _ ≤ firstCol - SwatchLadder.margin)
    (by omega : _ ≤ secondCol - SwatchLadder.margin) (by omega)
  refine Nat.lt_of_le_of_ne inOrder fun same => ?_
  -- One piece would reach from one band into a later one.
  subst same
  obtain rfl : firstPiece = secondPiece :=
    Option.some.inj (firstAt.symm.trans secondAt)
  have pieceEnd := (cut.piece_of_inked narrow tiled firstAt firstInked
    firstStarts firstEnds).2
  have secondFirst : ladder.start second ≤ secondCol := secondInked.2.1
  have bandEnd := rowEnd_le before ladder.bandCols
  rw [SwatchLadder.start] at pieceEnd secondFirst
  omega

/-- A strip whose bands are counted and numbered without wrapping burns every
swatch at its own density. -/
theorem burnsOwnDensities (cut : SwatchCut ladder densities print groups)
    (narrow : ladder.bandCols < 65536)
    (fits : SwatchLadder.margin + densities.length * ladder.bandCols < 65536)
    (counted : ladder.steps.toNat = densities.length) :
    BurnsOwnDensities ladder densities print groups.flatten where
  ink := cut.ink
  own _ _ _ inked := cut.exists_own narrow fits counted inked
  ordered _ _ before _ _ _ _ _ _ firstInked secondInked firstCarried
      secondCarried :=
    cut.index_lt narrow fits before firstInked secondInked firstCarried
      secondCarried
  centred col dot dotBound set := by
    obtain ⟨step, inked⟩ := (cut.ink col dot dotBound).mp set
    exact inked.2.2.2

/-- A strip without ink burns nothing at a wrong density. -/
theorem burnsOwnDensities_of_blank
    (cut : SwatchCut ladder densities print groups) (blank : ladder.Blank) :
    BurnsOwnDensities ladder densities print groups.flatten where
  ink := cut.ink
  own step col dot inked :=
    absurd inked (SwatchLadder.not_inked_of_blank blank step col dot)
  ordered first _ _ firstCol firstDot _ _ _ _ firstInked :=
    absurd firstInked
      (SwatchLadder.not_inked_of_blank blank first firstCol firstDot)
  centred col dot dotBound set := by
    obtain ⟨step, inked⟩ := (cut.ink col dot dotBound).mp set
    exact absurd inked (SwatchLadder.not_inked_of_blank blank step col dot)

/-- The first piece of every band whose number is a multiple of 65,536 starts
at the first column again. -/
theorem exists_carries_first (cut : SwatchCut ladder densities print groups)
    (narrow : ladder.bandCols < 65536) (positive : 0 < ladder.bandCols)
    (inks : ¬ ladder.Blank) (lap : Nat)
    (lapBound : lap * 65536 < densities.length) :
    print.Carries groups.flatten
        (groups.take (lap * 65536)).flatten.length SwatchLadder.margin
        ladder.xOffset ∧
      lap * 65536 ≤ (groups.take (lap * 65536)).flatten.length := by
  have inked := SwatchLadder.inked_first inks
  obtain ⟨finalCol, follow⟩ := cut.follow
  obtain ⟨piece, pieceAt, after, starts, some⟩ :=
    follow.exists_bandStart cut.fit (cut.width_eq narrow) positive
      (by rwa [cut.bands_eq, List.length_map] : lap * 65536 < _)
  have startsFirst : piece.startCol.toNat = 0 := by
    rw [starts, BitVec.zero_add, BitVec.toNat_ofNat, Nat.mul_right_comm]
    exact Nat.mul_mod_left _ _
  refine ⟨cut.carries pieceAt ?_ ?_ ?_ inked.dot_lt
    ((cut.ink _ _ inked.dot_lt).mpr ⟨0, inked⟩), after⟩
  · rw [startsFirst]
    decide
  · rw [startsFirst, Nat.add_zero]
  · rw [startsFirst, Nat.add_zero]
    exact Nat.lt_add_of_pos_right some

/-- Beyond 65,536 bands the column numbers wrap, and a later band prints the
first swatch again. -/
theorem not_burnsOwnDensities (cut : SwatchCut ladder densities print groups)
    (narrow : ladder.bandCols < 65536) (positive : 0 < ladder.bandCols)
    (inks : ¬ ladder.Blank) (many : 65536 < densities.length) :
    ¬ BurnsOwnDensities ladder densities print groups.flatten := by
  intro burns
  obtain ⟨index, _, _, _, _, unique⟩ :=
    burns.own 0 _ _ (SwatchLadder.inked_first inks)
  have firstLap : 0 * 65536 < densities.length := by
    rw [Nat.zero_mul]
    exact Nat.zero_lt_of_lt many
  have secondLap : 1 * 65536 < densities.length := by rwa [Nat.one_mul]
  obtain ⟨firstCarried, _⟩ :=
    cut.exists_carries_first narrow positive inks 0 firstLap
  obtain ⟨laterCarried, later⟩ :=
    cut.exists_carries_first narrow positive inks 1 secondLap
  have atZero : (groups.take (0 * 65536)).flatten.length = 0 := by
    rw [Nat.zero_mul, List.take_zero, List.flatten_nil, List.length_nil]
  have same := (unique _ firstCarried).trans (unique _ laterCarried).symm
  rw [← same, atZero, Nat.one_mul] at later
  exact absurd later (by decide)

end SwatchCut

/-! ### Each swatch at its own density -/

theorem ne_nil_of_accepted
    (accepted : SwatchesAccepted labelWidthMm heightMm densities) :
    densities ≠ [] := by
  rintro rfl
  exact accepted _ rfl

/-- A label without a column for every band is refused. -/
theorem bandCols_ne_zero_of_accepted
    (accepted : SwatchesAccepted labelWidthMm heightMm densities) :
    (swatchLadder labelWidthMm heightMm densities).bandCols ≠ 0 := by
  intro noColumns
  have notEmpty : densities.isEmpty = false :=
    Bool.eq_false_iff.mpr fun empty =>
      ne_nil_of_accepted accepted (List.isEmpty_iff.mp empty)
  obtain ⟨image, drawn, -, -⟩ :=
    createSwatchLadder_spec (swatchLadder labelWidthMm heightMm densities)
  have drawnHere : createSwatchLadder labelWidthMm heightMm
      (BitVec.ofNat 32 densities.length) = _ := drawn
  apply accepted
  simp only [swatchLadderBuffers, notEmpty, Bool.false_eq_true, if_false,
    drawnHere, Option.bind_eq_bind, Option.bind_some, if_pos noColumns]
  rfl

theorem SwatchLadder.printable_le {ladder : SwatchLadder}
    (heightFits : ladder.heightMm.toNat * 8 < 65536) :
    margin + ladder.printable < 65536 := by
  have height : ladder.heightDots ≤ ladder.heightMm.toNat * 8 := by
    rw [heightDots, dotsOfMm, BitVec.toNat_mul]
    exact Nat.mod_le _ _
  have marginEq : margin = 8 := rfl
  rw [printable]
  omega

theorem swatchesAccepted_of_room (nonempty : densities ≠ [])
    (room : (swatchLadder labelWidthMm heightMm densities).bandCols ≠ 0) :
    SwatchesAccepted labelWidthMm heightMm densities := by
  obtain ⟨print, groups, run, -⟩ := swatchLadderBuffers_cut nonempty room
  intro error refused
  cases run.symm.trans refused

/-- A strip that is cut burns every swatch at its own density exactly when its
densities are counted in 32 bits or nothing is inked. -/
theorem swatchesBurnOwn_iff_of_room
    (heightFits : heightMm.toNat * 8 < 65536) (nonempty : densities ≠ [])
    (room : (swatchLadder labelWidthMm heightMm densities).bandCols ≠ 0) :
    SwatchesBurnOwn labelWidthMm heightMm densities ↔
      densities.length < 2 ^ 32 ∨
        (swatchLadder labelWidthMm heightMm densities).Blank := by
  obtain ⟨print, groups, run, cut⟩ := swatchLadderBuffers_cut nonempty room
  rw [SwatchesBurnOwn]
  generalize ladderEq : swatchLadder labelWidthMm heightMm densities = ladder
    at room cut ⊢
  have heightEq : ladder.heightMm = heightMm := by rw [← ladderEq]; rfl
  have within := SwatchLadder.printable_le (heightEq ▸ heightFits)
  have narrow : ladder.bandCols < 65536 := by
    have atMost : ladder.bandCols ≤ ladder.printable := Nat.div_le_self _ _
    omega
  constructor
  · rintro ⟨other, pieces, otherRun, piecesEq, burns⟩
    obtain rfl : print = other := by
      rw [run, Option.some.injEq, Except.ok.injEq] at otherRun
      exact otherRun
    obtain rfl : groups.flatten = pieces :=
      Option.some.inj (cut.pieces_eq.symm.trans piecesEq)
    by_contra neither
    rw [not_or] at neither
    exact cut.not_burnsOwnDensities narrow (Nat.pos_of_ne_zero room)
      neither.2 (by omega) burns
  · rintro (few | blank)
    · have counted : ladder.steps.toNat = densities.length := by
        rw [← ladderEq]
        exact Nat.mod_eq_of_lt few
      have bandsEnd := ladder.bands_le
      rw [counted] at bandsEnd
      exact ⟨print, groups.flatten, run, cut.pieces_eq,
        cut.burnsOwnDensities narrow (by omega) counted⟩
    · exact ⟨print, groups.flatten, run, cut.pieces_eq,
        cut.burnsOwnDensities_of_blank blank⟩

end Print

/-- On a label that is not refused every swatch burns at its own density
exactly when its densities are counted in 32 bits or nothing is inked. -/
theorem swatchesBurnOwn_iff (labelWidthMm heightMm : U32)
    (densities : List Density) (heightFits : heightMm.toNat * 8 < 65536)
    (accepted : SwatchesAccepted labelWidthMm heightMm densities) :
    SwatchesBurnOwn labelWidthMm heightMm densities ↔
      densities.length < 2 ^ 32 ∨
        (swatchLadder labelWidthMm heightMm densities).Blank :=
  swatchesBurnOwn_iff_of_room heightFits (ne_nil_of_accepted accepted)
    (bandCols_ne_zero_of_accepted accepted)

/-- Two swatches on a label of 40 by 30 mm. -/
theorem swatchesBurnOwn_two :
    SwatchesBurnOwn 40#32 30#32 [.uniform 4#8, .uniform 9#8] :=
  (swatchesBurnOwn_iff 40#32 30#32 [.uniform 4#8, .uniform 9#8] (by decide)
    (swatchesAccepted_of_room (by decide) (by decide))).mpr
      (Or.inl (by decide))

/-- The count of 2^32 + 1 densities is cut to one, a label of 4 mm passes for
long enough, and its one swatch is printed again and again. -/
theorem swatchesBurnOwn_wraps :
    SwatchesAccepted 10#32 4#32 (List.replicate (2 ^ 32 + 1) (.uniform 4#8)) ∧
      ¬ SwatchesBurnOwn 10#32 4#32
        (List.replicate (2 ^ 32 + 1) (.uniform 4#8)) := by
  generalize densitiesEq :
    List.replicate (2 ^ 32 + 1) (Density.uniform 4#8) = densities
  have count : densities.length = 2 ^ 32 + 1 := by
    rw [← densitiesEq, List.length_replicate]
  have ladderEq : swatchLadder 10#32 4#32 densities = ⟨10#32, 4#32, 1#32⟩ := by
    rw [swatchLadder, count]
    rfl
  have nonempty : densities ≠ [] := by
    rintro rfl
    cases count
  have room : (swatchLadder 10#32 4#32 densities).bandCols ≠ 0 := by
    rw [ladderEq]
    decide
  refine ⟨swatchesAccepted_of_room nonempty room, ?_⟩
  rw [swatchesBurnOwn_iff_of_room (by decide) nonempty room, ladderEq, count]
  rintro (few | none | noInk | noWidth)
  · exact absurd few (by decide)
  · exact absurd none (by decide)
  · exact absurd noInk (by decide)
  · exact absurd noWidth (by decide)

end SupvanCups
