import SupvanCups.BandTiling

/-!
# Banded buffers carry the image

Each chunk of columns becomes one buffer that carries exactly the image bytes
of those columns.  Chained along the tiling, the buffers of a page carry the
image without loss, each band in buffers of its own, with the page flags on
the first and the last buffer only.
-/

namespace SupvanCups

theorem imageField_of_length_le {image : Bytes} {used : Nat}
    (fits : image.length ≤ used)
    (room : used ≤ printBufSize - printBufHeader) :
    (imageField image).take used =
        (image ++ List.replicate used 0#8).take used ∧
      ∀ byte ∈ (imageField image).drop used, byte = 0#8 := by
  have whole : image.take (printBufSize - printBufHeader) = image :=
    List.take_of_length_le (by omega)
  simp only [imageField, whole]
  constructor
  · rw [List.take_append, List.take_append, List.take_replicate,
      List.take_replicate]
    congr 2
    omega
  · intro byte member
    rw [List.drop_append, List.drop_of_length_le fits,
      List.nil_append] at member
    exact List.eq_of_mem_replicate (List.mem_of_mem_drop member)

/-- What the header of a buffer says about its chunk. -/
structure BufferAdvertises (perLineByte : U8) (page : PageOptions)
    (chunk : Chunk) (buffer : PrintBuffer) : Prop where
  columnCount_eq : buffer.columnCount =
    chunk.colsInBuf.toNat * page.colour.planes.toNat
  bytesPerLine_eq : buffer.bytesPerLine = perLineByte.toNat
  trims_eq : buffer.trims = chunk.density.encode

structure BufferCarries (imageData : Bytes) (perLineByte : U8)
    (marginTop : U16) (page : PageOptions) (chunk : Chunk)
    (buffer : PrintBuffer) : Prop where
  columnCount_eq : buffer.columnCount =
    chunk.colsInBuf.toNat * page.colour.planes.toNat
  bytesPerLine_eq : buffer.bytesPerLine = perLineByte.toNat
  imageBytes_eq : buffer.imageBytes =
    window imageData
      ((marginTop.toNat + chunk.startCol.toNat) *
        (perLineByte.toNat * page.colour.planes.toNat))
      (chunk.colsInBuf.toNat * (perLineByte.toNat * page.colour.planes.toNat))
  padding : ∀ byte ∈ buffer.payload.drop
    (buffer.columnCount * buffer.bytesPerLine), byte = 0#8
  trims_eq : buffer.trims = chunk.density.encode

section Page

variable {imageData : Bytes} {perLineByte : U8} {page : PageOptions}
  {marginTop : U16}

theorem BufferCarries.advertises {chunk : Chunk} {buffer : PrintBuffer}
    (carries : BufferCarries imageData perLineByte marginTop page chunk
      buffer) : BufferAdvertises perLineByte page chunk buffer :=
  ⟨carries.columnCount_eq, carries.bytesPerLine_eq, carries.trims_eq⟩

/-- A chunk within the capacity is advertised in full, wherever it starts. -/
theorem chunkBuffer_advertises (imageData : Bytes)
    (marginTop marginBottom : U16) (last index : Nat) {chunk : Chunk}
    (linePositive : 1 ≤ perLineByte.toNat)
    (capacity : chunk.colsInBuf.toNat *
      (perLineByte.toNat * page.colour.planes.toNat) ≤ maxBufData) :
    BufferAdvertises perLineByte page chunk
      (chunkBuffer imageData perLineByte marginTop marginBottom page
        last index chunk) := by
  have columnsBound : chunk.colsInBuf.toNat * page.colour.planes.toNat ≤
      chunk.colsInBuf.toNat *
        (perLineByte.toNat * page.colour.planes.toNat) :=
    Nat.mul_le_mul_left _ (Nat.le_mul_of_pos_left _ linePositive)
  have columnsEq : (chunk.colsInBuf * page.colour.planes).toNat =
      chunk.colsInBuf.toNat * page.colour.planes.toNat := by
    rw [BitVec.toNat_mul, Nat.mod_eq_of_lt]
    exact lt_of_le_of_lt (columnsBound.trans capacity) (by decide)
  refine ⟨?_, ?_, ?_⟩
  · simp only [chunkBuffer, columnCount_buildPrintBuffer, columnsEq]
  · simp only [chunkBuffer, bytesPerLine_buildPrintBuffer]
  · simp only [chunkBuffer, trims_buildPrintBuffer]

theorem chunkBuffer_carries (marginBottom : U16) (last index : Nat)
    {chunk : Chunk} (linePositive : 1 ≤ perLineByte.toNat)
    (capacity : chunk.colsInBuf.toNat *
      (perLineByte.toNat * page.colour.planes.toNat) ≤ maxBufData)
    (startFits : marginTop.toNat + chunk.startCol.toNat < 65536) :
    BufferCarries imageData perLineByte marginTop page chunk
      (chunkBuffer imageData perLineByte marginTop marginBottom page
        last index chunk) := by
  have advertised := chunkBuffer_advertises imageData marginTop marginBottom
    last index linePositive capacity
  set stride := perLineByte.toNat * page.colour.planes.toNat with strideEq
  have startEq : (marginTop + chunk.startCol).toNat =
      marginTop.toNat + chunk.startCol.toNat := by
    rw [BitVec.toNat_add]
    omega
  have usedEq : chunk.colsInBuf.toNat * page.colour.planes.toNat *
      perLineByte.toNat = chunk.colsInBuf.toNat * stride := by
    rw [strideEq]
    ring
  have sliceLength := length_getRange_le imageData
    ((marginTop.toNat + chunk.startCol.toNat) * stride)
    (chunk.colsInBuf.toNat * stride)
  obtain ⟨carried, zeros⟩ := imageField_of_length_le sliceLength
    (le_trans capacity (by decide))
  refine ⟨advertised.columnCount_eq, advertised.bytesPerLine_eq, ?_, ?_,
    advertised.trims_eq⟩
  · rw [PrintBuffer.imageBytes, advertised.columnCount_eq,
      advertised.bytesPerLine_eq, usedEq]
    simp only [chunkBuffer, payload_buildPrintBuffer, startEq, ← strideEq]
    rw [carried, take_getRange_append_zeros _ _ _ _ le_rfl]
  · rw [advertised.columnCount_eq, advertised.bytesPerLine_eq, usedEq]
    simpa only [chunkBuffer, payload_buildPrintBuffer, startEq,
      ← strideEq] using zeros

/-- Buffers that carry a tiling of the columns carry the image bytes of all
those columns, in order. -/
theorem flatMap_imageBytes_of_tile {chunks : List Chunk}
    {buffers : List PrintBuffer} {start stop : Nat}
    (tile : ChunksTile start chunks stop)
    (carried : List.Forall₂ (BufferCarries imageData perLineByte marginTop page)
      chunks buffers) :
    buffers.flatMap PrintBuffer.imageBytes =
      window imageData
        ((marginTop.toNat + start) *
          (perLineByte.toNat * page.colour.planes.toNat))
        ((stop - start) *
          (perLineByte.toNat * page.colour.planes.toNat)) := by
  set stride := perLineByte.toNat * page.colour.planes.toNat
  induction carried generalizing start with
  | nil =>
      obtain rfl : start = stop := tile
      simp
  | @cons chunk buffer chunks buffers headCarried tailCarried ih =>
      have total := tile.2.stop_eq
      have headStart := tile.1
      rw [List.flatMap_cons, headCarried.imageBytes_eq, ih tile.2, headStart]
      have nextStart :
          (marginTop.toNat + (start + chunk.colsInBuf.toNat)) * stride =
            (marginTop.toNat + start) * stride +
              chunk.colsInBuf.toNat * stride := by
        ring
      have splitCount : (stop - start) * stride =
          chunk.colsInBuf.toNat * stride +
            (stop - (start + chunk.colsInBuf.toNat)) * stride := by
        rw [← Nat.add_mul]
        congr 1
        omega
      rw [nextStart, window_append, splitCount]

/-- A list related elementwise to a concatenation splits the same way. -/
theorem forall₂_flatten_split {α β : Type*} {relation : α → β → Prop}
    {groups : List (List α)} {values : List β}
    (related : List.Forall₂ relation groups.flatten values) :
    ∃ valueGroups : List (List β), valueGroups.flatten = values ∧
      List.Forall₂ (List.Forall₂ relation) groups valueGroups := by
  induction groups generalizing values with
  | nil =>
      cases related
      exact ⟨[], rfl, List.Forall₂.nil⟩
  | cons group groups ih =>
      rw [List.flatten_cons] at related
      have headRelated := List.forall₂_take_append _ _ _ related.flip
      have tailRelated := List.forall₂_drop_append _ _ _ related.flip
      obtain ⟨valueGroups, flattened, groupsRelated⟩ := ih tailRelated.flip
      exact ⟨values.take group.length :: valueGroups,
        by rw [List.flatten_cons, flattened, List.take_append_drop],
        List.Forall₂.cons headRelated.flip groupsRelated⟩

/-- Print buffers that carry the given bands of an image without loss. -/
structure CarriesBands (imageData : Bytes) (perLineByte : U8)
    (bands : List DensityBand) (marginTop : U16) (page : PageOptions)
    (buffers : List PrintBuffer) : Prop where
  /-- The advertised image bytes are the printed part of the image. -/
  image_eq : buffers.flatMap PrintBuffer.imageBytes =
    window imageData
      (marginTop.toNat * (perLineByte.toNat * page.colour.planes.toNat))
      ((bands.map fun band => band.cols.toNat).sum *
        (perLineByte.toNat * page.colour.planes.toNat))
  bytesPerLine_eq : ∀ buffer ∈ buffers,
    buffer.bytesPerLine = perLineByte.toNat
  /-- At least one printed column, and no more than the capacity. -/
  capacity : ∀ buffer ∈ buffers,
    page.colour.planes.toNat ≤ buffer.columnCount ∧
      buffer.columnCount * buffer.bytesPerLine ≤ maxBufData
  /-- Zeros after the advertised image bytes. -/
  padding : ∀ buffer ∈ buffers,
    ∀ byte ∈ buffer.payload.drop (buffer.columnCount * buffer.bytesPerLine),
      byte = 0#8
  /-- Each band is split into whole buffers of its own density; a buffer
  advertises one line per colour plane of its printed columns. -/
  bands_split : ∃ groups : List (List PrintBuffer),
    groups.flatten = buffers ∧
      List.Forall₂ (fun band group =>
        (group.map fun buffer =>
          buffer.columnCount / page.colour.planes.toNat).sum =
            band.cols.toNat ∧
        ∀ buffer ∈ group,
          page.colour.planes.toNat ∣ buffer.columnCount ∧
            buffer.trims = band.density.encode)
        bands groups
  page_flags : ∀ index (bound : index < buffers.length),
    buffers[index].pageSt = decide (index = 0) ∧
      buffers[index].pageEnd = decide (index + 1 = buffers.length) ∧
      buffers[index].prtEnd = decide (index + 1 = buffers.length)

theorem ColourMode.planes_pos (colour : ColourMode) :
    0 < colour.planes.toNat := by
  cases colour <;> decide

theorem ColourMode.planes_le_two (colour : ColourMode) :
    colour.planes.toNat ≤ 2 := by
  cases colour <;> decide

/-- A buffer always has room for a column, and a full buffer stays within the
capacity. -/
theorem maxCols_bounds (perLineByte : U8) (colour : ColourMode)
    (linePositive : 1 ≤ perLineByte.toNat) :
    let colStride := perLineByte.toNat * colour.planes.toNat
    let maxCols := BitVec.ofNat 16 (maxBufData / colStride)
    0 < maxCols.toNat ∧ maxCols.toNat * colStride ≤ maxBufData := by
  intro colStride maxCols
  have lineBound := perLineByte.isLt
  have planesPositive := colour.planes_pos
  have planesBound := colour.planes_le_two
  have stridePositive : 0 < colStride := Nat.mul_pos linePositive planesPositive
  have strideBound : colStride ≤ 510 := by
    calc
      colStride ≤ 255 * 2 := Nat.mul_le_mul (by omega) planesBound
      _ = 510 := rfl
  have quotientBound : maxBufData / colStride ≤ maxBufData :=
    Nat.div_le_self _ _
  have maxColsEq : maxCols.toNat = maxBufData / colStride := by
    rw [BitVec.toNat_ofNat, Nat.mod_eq_of_lt]
    exact lt_of_le_of_lt quotientBound (by decide)
  rw [maxColsEq]
  exact ⟨Nat.div_pos (strideBound.trans (by decide)) stridePositive,
    Nat.div_mul_le_self _ _⟩

theorem ChunksTile.end_le {start stop : Nat} {chunks : List Chunk}
    (tile : ChunksTile start chunks stop) :
    ∀ chunk ∈ chunks,
      chunk.startCol.toNat + chunk.colsInBuf.toNat ≤ stop := by
  induction chunks generalizing start with
  | nil => simp
  | cons head chunks ih =>
      intro chunk member
      rcases List.mem_cons.mp member with rfl | later
      · have total := tile.2.stop_eq
        have starts := tile.1
        omega
      · exact ih tile.2 chunk later

theorem forall₂_mapIdx {α β : Type*} {relation : α → β → Prop}
    (values : List α) (build : Nat → α → β)
    (built : ∀ index, ∀ value ∈ values, relation value (build index value)) :
    List.Forall₂ relation values (values.mapIdx build) := by
  rw [List.forall₂_iff_get]
  refine ⟨by simp, ?_⟩
  intro index bound _
  simpa using built index _ (List.getElem_mem bound)

theorem exists_left_of_forall₂ {α β : Type*} {relation : α → β → Prop}
    {lefts : List α} {rights : List β}
    (related : List.Forall₂ relation lefts rights) :
    ∀ right ∈ rights, ∃ left ∈ lefts, relation left right := by
  induction related with
  | nil => simp
  | @cons left right lefts rights headRelated _ ih =>
      intro other member
      rcases List.mem_cons.mp member with rfl | later
      · exact ⟨left, List.mem_cons_self, headRelated⟩
      · obtain ⟨partner, partnerMember, partnerRelated⟩ := ih other later
        exact ⟨partner, List.mem_cons_of_mem _ partnerMember, partnerRelated⟩

theorem printedColumns_of_advertised {chunks : List Chunk}
    {buffers : List PrintBuffer}
    (advertised : List.Forall₂ (BufferAdvertises perLineByte page)
      chunks buffers) :
    (buffers.map fun buffer =>
        buffer.columnCount / page.colour.planes.toNat) =
      chunks.map fun chunk => chunk.colsInBuf.toNat := by
  induction advertised with
  | nil => rfl
  | cons headAdvertised _ ih =>
      rw [List.map_cons, List.map_cons, ih, headAdvertised.columnCount_eq,
        Nat.mul_div_cancel _ page.colour.planes_pos]

theorem columnCount_sum_of_advertised {chunks : List Chunk}
    {buffers : List PrintBuffer}
    (advertised : List.Forall₂ (BufferAdvertises perLineByte page)
      chunks buffers) :
    (buffers.map PrintBuffer.columnCount).sum =
      page.colour.planes.toNat *
        (chunks.map fun chunk => chunk.colsInBuf.toNat).sum := by
  induction advertised with
  | nil => rfl
  | cons headAdvertised _ ih =>
      rw [List.map_cons, List.sum_cons, ih, headAdvertised.columnCount_eq,
        List.map_cons, List.sum_cons, Nat.mul_add, Nat.mul_comm]

theorem bands_split_of_advertised {maxCols : U16} {bands : List DensityBand}
    {groups : List (List Chunk)} {bufferGroups : List (List PrintBuffer)}
    (fit : List.Forall₂ (CutInto maxCols) bands groups)
    (advertised : List.Forall₂
      (List.Forall₂ (BufferAdvertises perLineByte page))
      groups bufferGroups) :
    List.Forall₂ (fun band group =>
        (group.map fun buffer =>
          buffer.columnCount / page.colour.planes.toNat).sum =
            band.cols.toNat ∧
        ∀ buffer ∈ group,
          page.colour.planes.toNat ∣ buffer.columnCount ∧
            buffer.trims = band.density.encode)
        bands bufferGroups := by
  induction fit generalizing bufferGroups with
  | nil =>
      cases advertised
      exact List.Forall₂.nil
  | @cons band group bands groups groupFit _ ih =>
      cases advertised with
      | @cons _ bufferGroup _ bufferGroups groupAdvertised restAdvertised =>
          refine List.Forall₂.cons ⟨?_, ?_⟩ (ih restAdvertised)
          · rw [printedColumns_of_advertised groupAdvertised, groupFit.1]
          · intro buffer member
            obtain ⟨chunk, chunkMember, advertises⟩ :=
              exists_left_of_forall₂ groupAdvertised buffer member
            refine ⟨⟨chunk.colsInBuf.toNat, ?_⟩, ?_⟩
            · rw [advertises.columnCount_eq, Nat.mul_comm]
            · rw [advertises.trims_eq,
                (groupFit.2 chunk chunkMember).density_eq]

/-- The page starts on the first buffer and ends on the last one. -/
theorem pageFlags_mapIdx_chunkBuffer (marginBottom : U16)
    (chunks : List Chunk) :
    let buffers := chunks.mapIdx
      (chunkBuffer imageData perLineByte marginTop marginBottom page
        (chunks.length - 1))
    ∀ index (bound : index < buffers.length),
      buffers[index].pageSt = decide (index = 0) ∧
        buffers[index].pageEnd = decide (index + 1 = buffers.length) ∧
        buffers[index].prtEnd = decide (index + 1 = buffers.length) := by
  intro buffers index bound
  have chunkBound : index < chunks.length := by
    simpa [buffers] using bound
  have lastIff : index + 1 = chunks.length ↔ index = chunks.length - 1 := by
    omega
  simp [buffers, chunkBuffer, lastIff, beq_eq_decide]

theorem chunk_bounds_of_fit {bands : List DensityBand}
    {groups : List (List Chunk)} (linePositive : 1 ≤ perLineByte.toNat)
    (fit : List.Forall₂ (CutInto (BitVec.ofNat 16
      (maxBufData / (perLineByte.toNat * page.colour.planes.toNat))))
      bands groups) :
    ∀ chunk ∈ groups.flatten, 0 < chunk.colsInBuf.toNat ∧
      chunk.colsInBuf.toNat *
        (perLineByte.toNat * page.colour.planes.toNat) ≤ maxBufData := by
  obtain ⟨_, maxFits⟩ :=
    maxCols_bounds perLineByte page.colour linePositive
  intro chunk member
  obtain ⟨group, groupMember, chunkMember⟩ := List.mem_flatten.mp member
  obtain ⟨band, _, _, fits⟩ := exists_left_of_forall₂ fit group groupMember
  exact ⟨(fits chunk chunkMember).positive,
    (Nat.mul_le_mul_right _ (fits chunk chunkMember).fits).trans maxFits⟩

structure TiledBy (imageData : Bytes) (perLineByte : U8)
    (bands : List DensityBand) (marginTop marginBottom : U16)
    (page : PageOptions) (groups : List (List Chunk))
    (buffers : List PrintBuffer) : Prop where
  buffers_eq : buffers = groups.flatten.mapIdx
    (chunkBuffer imageData perLineByte marginTop marginBottom page
      (groups.flatten.length - 1))
  tile : ChunksTile 0 groups.flatten
    (bands.map fun band => band.cols.toNat).sum
  fit : List.Forall₂ (CutInto (BitVec.ofNat 16
    (maxBufData / (perLineByte.toNat * page.colour.planes.toNat))))
    bands groups
  carried : List.Forall₂
    (BufferCarries imageData perLineByte marginTop page)
    groups.flatten buffers

/-- Splitting always ends, and every band is cut into buffers of its own, also
where the column numbers wrap. -/
theorem splitIntoBandedBuffers_cut (imageData : Bytes) (perLineByte : U8)
    (bands : List DensityBand) (marginTop marginBottom : U16)
    (page : PageOptions) (linePositive : 1 ≤ perLineByte.toNat) :
    ∃ groups finalCol,
      splitIntoBandedBuffers imageData perLineByte bands marginTop
        marginBottom page =
          some (groups.flatten.mapIdx
            (chunkBuffer imageData perLineByte marginTop marginBottom page
              (groups.flatten.length - 1))) ∧
      ChunksFollow 0#16 groups.flatten finalCol ∧
      List.Forall₂ (CutInto (BitVec.ofNat 16
        (maxBufData / (perLineByte.toNat * page.colour.planes.toNat))))
        bands groups := by
  have stridePositive :
      perLineByte.toNat * page.colour.planes.toNat ≠ 0 :=
    (Nat.mul_pos linePositive page.colour.planes_pos).ne'
  obtain ⟨maxPositive, _⟩ :=
    maxCols_bounds perLineByte page.colour linePositive
  obtain ⟨groups, finalCol, run, follow, cut⟩ :=
    tileBands_cut maxPositive bands ⟨[], 0#16⟩
  rw [List.nil_append] at run
  refine ⟨groups, finalCol, ?_, follow, cut⟩
  simp only [splitIntoBandedBuffers, if_neg stridePositive, run,
    Option.map_some]

theorem linePositive_of_split {bands : List DensityBand}
    {marginBottom : U16} {buffers : List PrintBuffer}
    (run : splitIntoBandedBuffers imageData perLineByte bands marginTop
      marginBottom page = some buffers) : 1 ≤ perLineByte.toNat := by
  by_contra zero
  have noStride : perLineByte.toNat * page.colour.planes.toNat = 0 := by
    rw [Nat.lt_one_iff.mp (Nat.lt_of_not_le zero), Nat.zero_mul]
  rw [splitIntoBandedBuffers, if_pos noStride] at run
  cases run

/-- Every buffer of a split advertises its piece of a band. -/
theorem exists_advertised_of_split {bands : List DensityBand}
    {marginBottom : U16} {buffers : List PrintBuffer}
    (run : splitIntoBandedBuffers imageData perLineByte bands marginTop
      marginBottom page = some buffers) :
    ∃ groups,
      List.Forall₂ (CutInto (BitVec.ofNat 16
        (maxBufData / (perLineByte.toNat * page.colour.planes.toNat))))
        bands groups ∧
      List.Forall₂ (BufferAdvertises perLineByte page) groups.flatten
        buffers := by
  have linePositive := linePositive_of_split run
  obtain ⟨groups, _, ran, _, cut⟩ :=
    splitIntoBandedBuffers_cut imageData perLineByte bands marginTop
      marginBottom page linePositive
  rw [run, Option.some.injEq] at ran
  refine ⟨groups, cut, ?_⟩
  rw [ran]
  apply forall₂_mapIdx
  intro index chunk member
  exact chunkBuffer_advertises imageData marginTop marginBottom _ index
    linePositive (chunk_bounds_of_fit linePositive cut chunk member).2

/-- The buffers of a single band advertise its columns, once for each colour
plane, also where the column numbers wrap. -/
theorem columnCount_sum_of_split {band : DensityBand} {marginBottom : U16}
    {buffers : List PrintBuffer}
    (run : splitIntoBandedBuffers imageData perLineByte [band] marginTop
      marginBottom page = some buffers) :
    (buffers.map PrintBuffer.columnCount).sum =
      page.colour.planes.toNat * band.cols.toNat := by
  obtain ⟨groups, cut, advertised⟩ := exists_advertised_of_split run
  rw [columnCount_sum_of_advertised advertised, sum_colsInBuf_of_cutInto cut]
  simp

/-- Every buffer holds columns of each plane. -/
theorem planeColumns_pos_of_split {bands : List DensityBand}
    {marginBottom : U16} {buffers : List PrintBuffer}
    (run : splitIntoBandedBuffers imageData perLineByte bands marginTop
      marginBottom page = some buffers) :
    ∀ buffer ∈ buffers,
      0 < buffer.columnCount / page.colour.planes.toNat := by
  intro buffer member
  obtain ⟨groups, cut, advertised⟩ := exists_advertised_of_split run
  obtain ⟨chunk, chunkMember, advertises⟩ :=
    exists_left_of_forall₂ advertised buffer member
  rw [advertises.columnCount_eq, Nat.mul_div_cancel _ page.colour.planes_pos]
  exact (chunk_bounds_of_fit (linePositive_of_split run) cut chunk
    chunkMember).1

theorem columnCount_pos_of_split {bands : List DensityBand}
    {marginBottom : U16} {buffers : List PrintBuffer}
    (run : splitIntoBandedBuffers imageData perLineByte bands marginTop
      marginBottom page = some buffers) :
    ∀ buffer ∈ buffers, 0 < buffer.columnCount := by
  intro buffer member
  have positive := planeColumns_pos_of_split run buffer member
  exact positive.trans_le (Nat.div_le_self _ _)

/-- The buffers of few enough columns come from a tiling of the columns. -/
theorem splitIntoBandedBuffers_tiledBy (imageData : Bytes)
    (perLineByte : U8) (bands : List DensityBand)
    (marginTop marginBottom : U16) (page : PageOptions)
    (linePositive : 1 ≤ perLineByte.toNat)
    (columnsFit : marginTop.toNat +
      (bands.map fun band => band.cols.toNat).sum ≤ 65535) :
    ∃ groups buffers,
      splitIntoBandedBuffers imageData perLineByte bands marginTop
        marginBottom page = some buffers ∧
      TiledBy imageData perLineByte bands marginTop marginBottom page
        groups buffers := by
  obtain ⟨groups, finalCol, run, follow, cut⟩ :=
    splitIntoBandedBuffers_cut imageData perLineByte bands marginTop
      marginBottom page linePositive
  have total := sum_colsInBuf_of_cutInto cut
  have tile := follow.tile (by rw [total, BitVec.toNat_zero]; omega)
  have finalEq := tile.stop_eq
  rw [finalEq, total, BitVec.toNat_zero, Nat.zero_add] at tile
  refine ⟨groups, _, run, rfl, tile, cut, ?_⟩
  apply forall₂_mapIdx
  intro index chunk member
  have chunkEnd := tile.end_le chunk member
  exact chunkBuffer_carries marginBottom _ index linePositive
    (chunk_bounds_of_fit linePositive cut chunk member).2 (by omega)

theorem TiledBy.carriesBands {marginBottom : U16} {bands : List DensityBand}
    {groups : List (List Chunk)} {buffers : List PrintBuffer}
    (tiled : TiledBy imageData perLineByte bands marginTop marginBottom page
      groups buffers)
    (linePositive : 1 ≤ perLineByte.toNat) :
    CarriesBands imageData perLineByte bands marginTop page buffers := by
  obtain ⟨bufferGroups, flattened, groupsCarried⟩ :=
    forall₂_flatten_split tiled.carried
  refine ⟨?_, ?_, ?_, ?_, ?_, ?_⟩
  · simpa using flatMap_imageBytes_of_tile tiled.tile tiled.carried
  · intro buffer member
    obtain ⟨chunk, _, carries⟩ :=
      exists_left_of_forall₂ tiled.carried buffer member
    exact carries.bytesPerLine_eq
  · intro buffer member
    obtain ⟨chunk, chunkMember, carries⟩ :=
      exists_left_of_forall₂ tiled.carried buffer member
    obtain ⟨positive, fits⟩ :=
      chunk_bounds_of_fit linePositive tiled.fit chunk chunkMember
    rw [carries.columnCount_eq, carries.bytesPerLine_eq]
    constructor
    · exact Nat.le_mul_of_pos_left _ positive
    · calc
        chunk.colsInBuf.toNat * page.colour.planes.toNat * perLineByte.toNat =
            chunk.colsInBuf.toNat *
              (perLineByte.toNat * page.colour.planes.toNat) := by ring
        _ ≤ maxBufData := fits
  · intro buffer member
    obtain ⟨chunk, _, carries⟩ :=
      exists_left_of_forall₂ tiled.carried buffer member
    exact carries.padding
  · exact ⟨bufferGroups, flattened,
      bands_split_of_advertised tiled.fit
        (groupsCarried.imp fun _ _ carried =>
          carried.imp fun _ _ carries => carries.advertises)⟩
  · rw [tiled.buffers_eq]
    exact pageFlags_mapIdx_chunkBuffer marginBottom groups.flatten

/-- Banded tiling is lossless. -/
theorem splitIntoBandedBuffers_carriesBands (imageData : Bytes)
    (perLineByte : U8) (bands : List DensityBand)
    (marginTop marginBottom : U16) (page : PageOptions)
    (linePositive : 1 ≤ perLineByte.toNat)
    (columnsFit : marginTop.toNat +
      (bands.map fun band => band.cols.toNat).sum ≤ 65535) :
    ∃ buffers,
      splitIntoBandedBuffers imageData perLineByte bands marginTop
        marginBottom page = some buffers ∧
      CarriesBands imageData perLineByte bands marginTop page buffers := by
  obtain ⟨groups, buffers, run, tiled⟩ :=
    splitIntoBandedBuffers_tiledBy imageData perLineByte bands marginTop
      marginBottom page linePositive columnsFit
  exact ⟨buffers, run, tiled.carriesBands linePositive⟩

/-- Two bands of a two-colour page, the first of them empty. -/
theorem splitIntoBandedBuffers_carriesBands_twoColour :
    1 ≤ (3#8 : U8).toNat ∧
      (1#16 : U16).toNat +
        ([⟨0#16, .uniform 4#8⟩, ⟨700#16, ⟨5#8, 9#8⟩⟩].map
          fun band : DensityBand => band.cols.toNat).sum ≤ 65535 ∧
      ∃ buffers,
        splitIntoBandedBuffers [0xFF#8] 3#8
          [⟨0#16, .uniform 4#8⟩, ⟨700#16, ⟨5#8, 9#8⟩⟩] 1#16 8#16
          { colour := .twoColour } = some buffers ∧
        CarriesBands [0xFF#8] 3#8
          [⟨0#16, .uniform 4#8⟩, ⟨700#16, ⟨5#8, 9#8⟩⟩] 1#16
          { colour := .twoColour } buffers :=
  ⟨by decide, by decide,
    splitIntoBandedBuffers_carriesBands _ _ _ _ _ _ (by decide) (by decide)⟩

end Page

end SupvanCups
