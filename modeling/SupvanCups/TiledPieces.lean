import SupvanCups.BandedBuffers

/-!
# Which piece holds a column

The pieces of a tiling lie one after the other, so that every column is in
exactly one of them, and bands of one width have their pieces between multiples
of that width.  Where the column numbers wrap, a later band starts at the same
column again.
-/

namespace SupvanCups

/-! ### Places in a tiling -/

namespace ChunksTile

theorem start_le {start stop : Nat} {chunks : List Chunk}
    (tile : ChunksTile start chunks stop) :
    ∀ chunk ∈ chunks, start ≤ chunk.startCol.toNat := by
  induction chunks generalizing start with
  | nil => simp
  | cons head chunks ih =>
      intro chunk member
      rcases List.mem_cons.mp member with rfl | later
      · exact tile.1.ge
      · exact (Nat.le_add_right _ _).trans (ih tile.2 chunk later)

/-- Each piece ends before the next one starts. -/
theorem pairwise {start stop : Nat} {chunks : List Chunk}
    (tile : ChunksTile start chunks stop) :
    chunks.Pairwise fun first second =>
      first.startCol.toNat + first.colsInBuf.toNat ≤
        second.startCol.toNat := by
  induction chunks generalizing start with
  | nil => exact List.Pairwise.nil
  | cons head chunks ih =>
      refine List.pairwise_cons.mpr ⟨?_, ih tile.2⟩
      intro later member
      rw [tile.1]
      exact start_le tile.2 later member

theorem exists_holding {start stop col : Nat} {chunks : List Chunk}
    (tile : ChunksTile start chunks stop) (first : start ≤ col)
    (last : col < stop) :
    ∃ (index : Nat) (chunk : Chunk), chunks[index]? = some chunk ∧
      chunk.startCol.toNat ≤ col ∧
      col < chunk.startCol.toNat + chunk.colsInBuf.toNat := by
  induction chunks generalizing start with
  | nil =>
      obtain rfl : start = stop := tile
      omega
  | cons head chunks ih =>
      by_cases here : col < start + head.colsInBuf.toNat
      · refine ⟨0, head, rfl, ?_, ?_⟩
        · rwa [tile.1]
        · rwa [tile.1]
      · obtain ⟨index, chunk, found, holds⟩ :=
          ih tile.2 (Nat.le_of_not_lt here)
        exact ⟨index + 1, chunk, by rwa [List.getElem?_cons_succ], holds⟩

/-- Later columns are not in earlier pieces. -/
theorem index_le {start stop firstCol secondCol first second : Nat}
    {chunks : List Chunk} {firstChunk secondChunk : Chunk}
    (tile : ChunksTile start chunks stop)
    (firstAt : chunks[first]? = some firstChunk)
    (secondAt : chunks[second]? = some secondChunk)
    (starts : firstChunk.startCol.toNat ≤ firstCol)
    (inOrder : firstCol ≤ secondCol)
    (ends : secondCol <
      secondChunk.startCol.toNat + secondChunk.colsInBuf.toNat) :
    first ≤ second := by
  by_contra later
  obtain ⟨firstBound, rfl⟩ := List.getElem?_eq_some_iff.mp firstAt
  obtain ⟨secondBound, rfl⟩ := List.getElem?_eq_some_iff.mp secondAt
  have apart := List.pairwise_iff_getElem.mp tile.pairwise second first
    secondBound firstBound (Nat.lt_of_not_le later)
  omega

theorem append {start stop : Nat} {first second : List Chunk}
    (tile : ChunksTile start (first ++ second) stop) :
    ChunksTile start first
        (start + (first.map fun chunk => chunk.colsInBuf.toNat).sum) ∧
      ChunksTile (start + (first.map fun chunk => chunk.colsInBuf.toNat).sum)
        second stop := by
  induction first generalizing start with
  | nil => exact ⟨rfl, tile⟩
  | cons chunk chunks ih =>
      obtain ⟨headTile, restTile⟩ := ih tile.2
      rw [List.map_cons, List.sum_cons, ← Nat.add_assoc]
      exact ⟨⟨tile.1, headTile⟩, restTile⟩

/-- Each piece lies within a band of its density, when all bands have the same
width. -/
theorem exists_band {maxCols : U16} {width start stop : Nat}
    {bands : List DensityBand} {groups : List (List Chunk)}
    (tile : ChunksTile start groups.flatten stop)
    (cut : List.Forall₂ (CutInto maxCols) bands groups)
    (equalWidth : ∀ band ∈ bands, band.cols.toNat = width) :
    ∀ chunk ∈ groups.flatten, ∃ index band, bands[index]? = some band ∧
      chunk.density = band.density ∧
      start + index * width ≤ chunk.startCol.toNat ∧
      chunk.startCol.toNat + chunk.colsInBuf.toNat ≤
        start + (index + 1) * width := by
  induction cut generalizing start with
  | nil => simp
  | @cons band group bands groups groupCut _ ih =>
      obtain ⟨widthEq, laterWidths⟩ := List.forall_mem_cons.mp equalWidth
      obtain ⟨groupTile, laterTile⟩ := append tile
      rw [groupCut.1, widthEq] at groupTile laterTile
      intro chunk member
      rcases List.mem_append.mp member with here | later
      · have first := start_le groupTile chunk here
        have last := end_le groupTile chunk here
        exact ⟨0, band, rfl, (groupCut.2 chunk here).density_eq,
          by omega, by omega⟩
      · obtain ⟨index, found, bandAt, density, first, last⟩ :=
          ih laterTile laterWidths chunk later
        refine ⟨index + 1, found, by rwa [List.getElem?_cons_succ], density,
          ?_, ?_⟩
        · rw [Nat.succ_mul]
          omega
        · rw [Nat.succ_mul (index + 1)]
          omega

end ChunksTile

theorem ChunksFollow.drop_append {start stop : U16}
    {first second : List Chunk}
    (follow : ChunksFollow start (first ++ second) stop) :
    ChunksFollow (start + BitVec.ofNat 16
      (first.map fun chunk => chunk.colsInBuf.toNat).sum) second stop := by
  induction first generalizing start with
  | nil => simpa using follow
  | cons chunk chunks ih =>
      have columnsEq : BitVec.ofNat 16 chunk.colsInBuf.toNat =
          chunk.colsInBuf := by
        rw [BitVec.ofNat_toNat, BitVec.setWidth_eq]
      rw [List.map_cons, List.sum_cons, BitVec.ofNat_add, columnsEq,
        ← BitVec.add_assoc]
      exact ih follow.2

/-- The first piece of a band follows all pieces of the bands before it, and
its column number may have wrapped. -/
theorem ChunksFollow.exists_bandStart {maxCols start stop : U16} {width : Nat}
    {bands : List DensityBand} {groups : List (List Chunk)}
    (follow : ChunksFollow start groups.flatten stop)
    (cut : List.Forall₂ (CutInto maxCols) bands groups)
    (equalWidth : ∀ band ∈ bands, band.cols.toNat = width)
    (positive : 0 < width) {index : Nat} (indexBound : index < bands.length) :
    ∃ chunk, groups.flatten[(groups.take index).flatten.length]? = some chunk ∧
      index ≤ (groups.take index).flatten.length ∧
      chunk.startCol = start + BitVec.ofNat 16 (index * width) ∧
      0 < chunk.colsInBuf.toNat := by
  induction cut generalizing start index with
  | nil => exact absurd indexBound (Nat.not_lt_zero _)
  | @cons band group bands groups groupCut _ ih =>
      obtain ⟨widthEq, laterWidths⟩ := List.forall_mem_cons.mp equalWidth
      cases group with
      | nil =>
          have noColumns : 0 = band.cols.toNat := groupCut.1
          omega
      | cons chunk chunks =>
          cases index with
          | zero =>
              refine ⟨chunk, rfl, le_rfl, ?_,
                (groupCut.2 chunk List.mem_cons_self).positive⟩
              simpa using follow.1
          | succ index =>
              have later := drop_append follow
              rw [groupCut.1, widthEq] at later
              obtain ⟨found, foundAt, after, starts, positive⟩ :=
                ih later laterWidths (Nat.lt_of_succ_lt_succ indexBound)
              rw [List.take_succ_cons, List.flatten_cons, List.flatten_cons,
                List.length_append]
              refine ⟨found, ?_, ?_, ?_, positive⟩
              · rwa [List.getElem?_append_right (Nat.le_add_right _ _),
                  Nat.add_sub_cancel_left]
              · rw [List.length_cons]
                omega
              · rw [starts, BitVec.add_assoc, ← BitVec.ofNat_add,
                  Nat.succ_mul, Nat.add_comm width]

end SupvanCups
