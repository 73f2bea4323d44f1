import SupvanCups.PrintBuffer
import Mathlib.Data.List.Forall2

/-!
# Cutting a page into print buffers

Bands of columns are laid down the feed direction in order, and each band is
cut into pieces no larger than a buffer.  The pieces tile the columns: each one
starts where the one before it stopped.  From this chain the image bytes, the
densities and the page flags of the resulting buffers all follow.
-/

namespace SupvanCups

/-- A run of feed-direction columns printed at its own density. -/
structure DensityBand where
  cols : U16
  density : Density

/-- The part of a band that goes into one buffer. -/
structure Chunk where
  startCol : U16
  colsInBuf : U16
  density : Density

structure TileState where
  chunks : List Chunk
  currentCol : U16

/-- The `while cols_remaining > 0` loop over one band.  `none` means that the
loop needs more than the given number of passes. -/
def tileBand (maxCols : U16) (density : Density) :
    Nat → U16 → TileState → Option TileState
  | 0, _, _ => none
  | passes + 1, colsRemaining, state =>
      if colsRemaining = 0#16 then
        some state
      else
        let colsInBuf :=
          if colsRemaining < maxCols then colsRemaining else maxCols
        tileBand maxCols density passes (colsRemaining - colsInBuf)
          { chunks := state.chunks ++ [⟨state.currentCol, colsInBuf, density⟩]
            currentCol := state.currentCol + colsInBuf }

/-- Cut every band.  A band of `n` columns gets `n + 1` passes, which is one
more than it has columns to hand out. -/
def tileBands (maxCols : U16) (bands : List DensityBand)
    (state : TileState) : Option TileState :=
  bands.foldlM (fun state band =>
    tileBand maxCols band.density (band.cols.toNat + 1) band.cols state) state

def chunkBuffer (imageData : Bytes) (perLineByte : U8)
    (marginTop marginBottom : U16) (page : PageOptions)
    (last index : Nat) (chunk : Chunk) : PrintBuffer :=
  let planes := page.colour.planes
  let colStride := perLineByte.toNat * planes.toNat
  let imgStart := (marginTop + chunk.startCol).toNat * colStride
  let imgEnd := imgStart + chunk.colsInBuf.toNat * colStride
  let imgChunk :=
    (getRange imageData imgStart (min imgEnd imageData.length)).getD []
  buildPrintBuffer
    { imageData := imgChunk
      perLineByte := perLineByte
      colsInBuf := chunk.colsInBuf * planes
      pageSt := index == 0
      pageEnd := index == last
      prtEnd := index == last
      marginTop := marginTop
      marginBottom := marginBottom
      density := chunk.density
      page := page }

/-- Split column-major image data into print buffers, each band at its own
density.  `none` is a division by a zero column stride or a loop that does not
end. -/
def splitIntoBandedBuffers (imageData : Bytes) (perLineByte : U8)
    (bands : List DensityBand) (marginTop marginBottom : U16)
    (page : PageOptions) : Option (List PrintBuffer) :=
  let colStride := perLineByte.toNat * page.colour.planes.toNat
  if colStride = 0 then
    none
  else
    let maxCols := BitVec.ofNat 16 (maxBufData / colStride)
    (tileBands maxCols bands ⟨[], 0#16⟩).map fun state =>
      state.chunks.mapIdx
        (chunkBuffer imageData perLineByte marginTop marginBottom page
          (state.chunks.length - 1))

def splitIntoBuffers (imageData : Bytes) (perLineByte : U8) (totalCols : U16)
    (marginTop marginBottom : U16) (density : Density) (page : PageOptions) :
    Option (List PrintBuffer) :=
  let cols := totalCols - marginTop - marginBottom
  splitIntoBandedBuffers imageData perLineByte [⟨cols, density⟩]
    marginTop marginBottom page

/-! ### The pieces tile the columns -/

/-- Consecutive chunks covering the columns from `start` to `stop`. -/
def ChunksTile : Nat → List Chunk → Nat → Prop
  | start, [], stop => start = stop
  | start, chunk :: chunks, stop =>
      chunk.startCol.toNat = start ∧
        ChunksTile (start + chunk.colsInBuf.toNat) chunks stop

/-- Consecutive chunks from a column on, where column numbers wrap as the
tiler's 16-bit cursor does. -/
def ChunksFollow : U16 → List Chunk → U16 → Prop
  | start, [], stop => start = stop
  | start, chunk :: chunks, stop =>
      chunk.startCol = start ∧
        ChunksFollow (start + chunk.colsInBuf) chunks stop

theorem ChunksFollow.append {start middle stop : U16}
    {first second : List Chunk} (firstFollow : ChunksFollow start first middle)
    (secondFollow : ChunksFollow middle second stop) :
    ChunksFollow start (first ++ second) stop := by
  induction first generalizing start with
  | nil =>
      obtain rfl : start = middle := firstFollow
      exact secondFollow
  | cons chunk chunks ih =>
      exact ⟨firstFollow.1, ih firstFollow.2⟩

/-- Chunks whose column numbers do not wrap tile the columns. -/
theorem ChunksFollow.tile {start stop : U16} {chunks : List Chunk}
    (follow : ChunksFollow start chunks stop)
    (fits : start.toNat +
      (chunks.map fun chunk => chunk.colsInBuf.toNat).sum < 65536) :
    ChunksTile start.toNat chunks stop.toNat := by
  induction chunks generalizing start with
  | nil => exact congrArg BitVec.toNat follow
  | cons chunk chunks ih =>
      rw [List.map_cons, List.sum_cons] at fits
      have next : (start + chunk.colsInBuf).toNat =
          start.toNat + chunk.colsInBuf.toNat := by
        rw [BitVec.toNat_add]
        omega
      have later := ih follow.2 (by omega)
      rw [next] at later
      exact ⟨congrArg BitVec.toNat follow.1, later⟩

theorem ChunksTile.stop_eq {start stop : Nat} {chunks : List Chunk}
    (tile : ChunksTile start chunks stop) :
    stop = start + (chunks.map fun chunk => chunk.colsInBuf.toNat).sum := by
  induction chunks generalizing start with
  | nil => exact Eq.symm tile
  | cons chunk chunks ih =>
      rw [ih tile.2, List.map_cons, List.sum_cons, Nat.add_assoc]

/-- A chunk of the given density that fits a buffer. -/
structure Chunk.FitsBand (maxCols : U16) (density : Density)
    (chunk : Chunk) : Prop where
  density_eq : chunk.density = density
  positive : 0 < chunk.colsInBuf.toNat
  fits : chunk.colsInBuf.toNat ≤ maxCols.toNat

def CutInto (maxCols : U16) (band : DensityBand) (group : List Chunk) : Prop :=
  (group.map fun chunk => chunk.colsInBuf.toNat).sum = band.cols.toNat ∧
    ∀ chunk ∈ group, chunk.FitsBand maxCols band.density

theorem colsInBuf_bounds {maxCols colsRemaining : U16}
    (maxPositive : 0 < maxCols.toNat) (remaining : colsRemaining ≠ 0#16) :
    let colsInBuf := if colsRemaining < maxCols then colsRemaining else maxCols
    0 < colsInBuf.toNat ∧ colsInBuf.toNat ≤ maxCols.toNat ∧
      colsInBuf.toNat ≤ colsRemaining.toNat := by
  have remainingPositive : 0 < colsRemaining.toNat := by
    apply Nat.pos_of_ne_zero
    intro isZero
    exact remaining (BitVec.eq_of_toNat_eq isZero)
  simp only [BitVec.lt_def]
  split_ifs with less <;> omega

/-- Cutting a band ends, whatever column it starts at. -/
theorem tileBand_cuts {maxCols : U16} (maxPositive : 0 < maxCols.toNat)
    (density : Density) {passes : Nat} (colsRemaining : U16)
    (state : TileState) (enough : colsRemaining.toNat < passes) :
    ∃ pieces finalCol,
      tileBand maxCols density passes colsRemaining state =
        some ⟨state.chunks ++ pieces, finalCol⟩ ∧
      ChunksFollow state.currentCol pieces finalCol ∧
      CutInto maxCols ⟨colsRemaining, density⟩ pieces := by
  induction passes generalizing colsRemaining state with
  | zero => exact absurd enough (Nat.not_lt_zero _)
  | succ passes ih =>
      by_cases done : colsRemaining = 0#16
      · refine ⟨[], state.currentCol, ?_, rfl, by simp [done], by simp⟩
        simp [tileBand, done]
      · obtain ⟨positive, atMost, within⟩ :=
          colsInBuf_bounds maxPositive done
        rw [tileBand, if_neg done]
        generalize (if colsRemaining < maxCols then colsRemaining
          else maxCols) = colsInBuf at positive atMost within ⊢
        have nextRemaining : (colsRemaining - colsInBuf).toNat =
            colsRemaining.toNat - colsInBuf.toNat := by
          rw [BitVec.toNat_sub]
          omega
        obtain ⟨pieces, finalCol, run, follow, total, piecesFit⟩ := ih
          (colsRemaining - colsInBuf)
          ⟨state.chunks ++ [⟨state.currentCol, colsInBuf, density⟩],
            state.currentCol + colsInBuf⟩ (by omega)
        refine ⟨⟨state.currentCol, colsInBuf, density⟩ :: pieces, finalCol,
          ?_, ⟨rfl, follow⟩, ?_, ?_⟩
        · simpa using run
        · simp only [List.map_cons, List.sum_cons, total, nextRemaining]
          omega
        · intro chunk member
          rcases List.mem_cons.mp member with rfl | later
          · exact ⟨rfl, positive, atMost⟩
          · exact piecesFit chunk later

/-- All bands are cut in order. -/
theorem tileBands_cut {maxCols : U16} (maxPositive : 0 < maxCols.toNat)
    (bands : List DensityBand) (state : TileState) :
    ∃ groups finalCol,
      tileBands maxCols bands state =
        some ⟨state.chunks ++ groups.flatten, finalCol⟩ ∧
      ChunksFollow state.currentCol groups.flatten finalCol ∧
      List.Forall₂ (CutInto maxCols) bands groups := by
  induction bands generalizing state with
  | nil =>
      exact ⟨[], state.currentCol, by simp [tileBands], rfl, List.Forall₂.nil⟩
  | cons band bands ih =>
      obtain ⟨pieces, middleCol, run, follow, cut⟩ :=
        tileBand_cuts maxPositive band.density band.cols state
          (Nat.lt_succ_self _)
      obtain ⟨groups, finalCol, laterRun, laterFollow, laterCut⟩ :=
        ih ⟨state.chunks ++ pieces, middleCol⟩
      refine ⟨pieces :: groups, finalCol, ?_, ?_,
        List.Forall₂.cons cut laterCut⟩
      · rw [tileBands, List.foldlM_cons, run]
        simpa [tileBands] using laterRun
      · simpa only [List.flatten_cons] using follow.append laterFollow

theorem sum_colsInBuf_of_cutInto {maxCols : U16} {bands : List DensityBand}
    {groups : List (List Chunk)}
    (cut : List.Forall₂ (CutInto maxCols) bands groups) :
    (groups.flatten.map fun chunk => chunk.colsInBuf.toNat).sum =
      (bands.map fun band => band.cols.toNat).sum := by
  induction cut with
  | nil => rfl
  | cons groupCut _ ih =>
      rw [List.flatten_cons, List.map_append, List.sum_append, ih, groupCut.1,
        List.map_cons, List.sum_cons]

end SupvanCups
