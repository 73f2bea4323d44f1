import SupvanCups.BandedBuffers
import Mathlib.Algebra.Order.BigOperators.Group.List

/-!
# Buffers that validate against their header

The printer checks a buffer with nothing but the buffer: it adds up the header
bytes and the byte before every 256-byte boundary of the data whose length the
header advertises, and drops the buffer when the sum is not the one in bytes 0
and 1.  Every buffer that a page is split into passes that check.
-/

namespace SupvanCups

namespace PrintBuffer

/-- How many 256-byte boundaries the advertised data reaches. -/
def strideCount (buffer : PrintBuffer) : Nat :=
  (buffer.columnCount * buffer.bytesPerLine + printBufHeader) / checksumStride

/-- Sum of bytes 2 to 13 and of the byte before each boundary, as the printer
takes it from the buffer itself. -/
def validationSum (buffer : PrintBuffer) : Nat :=
  ((List.range' 2 12).map fun index => (buffer.byteAt index).toNat).sum +
    ((List.range' 1 buffer.strideCount).map fun stride =>
      (buffer.byteAt (checksumStride * stride - 1)).toNat).sum

/-- The buffer passes the printer's check, which reads no byte outside it and
adds up to less than the 16-bit field holds. -/
structure Validates (buffer : PrintBuffer) : Prop where
  inside : ∀ stride, 1 ≤ stride → stride ≤ buffer.strideCount →
    checksumStride * stride - 1 < buffer.bytes.length
  untruncated : buffer.validationSum < 65536
  checksum_eq : buffer.checksum = buffer.validationSum

end PrintBuffer

/-! ### One buffer -/

theorem sum_toNat_le (bytes : Bytes) :
    (bytes.map BitVec.toNat).sum ≤ bytes.length * 255 := by
  induction bytes with
  | nil => simp
  | cons byte bytes ih =>
      have bounded := byte.isLt
      simp only [List.map_cons, List.sum_cons, List.length_cons]
      omega

section Built

variable (p : PrintBufferParams)

/-- Past the checksum a buffer holds its fields and its image. -/
theorem byteAt_buildPrintBuffer (index : Nat) (past : 2 ≤ index) :
    (buildPrintBuffer p).byteAt index =
      (headerFields p ++ imageField p.imageData).getD (index - 2) 0#8 := by
  obtain ⟨later, rfl⟩ := Nat.exists_eq_add_of_le' past
  rfl

theorem strideCount_buildPrintBuffer :
    (buildPrintBuffer p).strideCount =
      (p.colsInBuf.toNat * p.perLineByte.toNat + printBufHeader) /
        checksumStride := by
  simp [PrintBuffer.strideCount]

/-- The sum the builder takes is the one the printer takes, when the data the
header advertises ends inside the buffer. -/
theorem bufferChecksum_eq_validationSum
    (fits : p.colsInBuf.toNat * p.perLineByte.toNat + printBufHeader ≤
      printBufSize) :
    bufferChecksum (headerFields p ++ imageField p.imageData)
        (p.colsInBuf.toNat * p.perLineByte.toNat + printBufHeader) =
      (buildPrintBuffer p).validationSum := by
  have header : ((headerFields p ++ imageField p.imageData).take 12).map
      BitVec.toNat = (List.range' 2 12).map fun index =>
        ((buildPrintBuffer p).byteAt index).toNat := rfl
  rw [bufferChecksum, PrintBuffer.validationSum, header,
    strideCount_buildPrintBuffer]
  congr 2
  apply List.map_congr_left
  intro stride member
  have bounded := List.mem_range'_1.mp member
  have inside : 2 ≤ checksumStride * stride - 1 ∧
      checksumStride * stride - 1 < printBufSize := by
    simp only [checksumStride, printBufSize] at bounded fits ⊢
    omega
  rw [Nat.mul_comm stride, if_pos inside.2,
    byteAt_buildPrintBuffer p _ inside.1]

theorem validationSum_le (buffer : PrintBuffer) :
    buffer.validationSum ≤ (12 + buffer.strideCount) * 255 := by
  have header := sum_toNat_le ((List.range' 2 12).map buffer.byteAt)
  have strided := sum_toNat_le ((List.range' 1 buffer.strideCount).map
    fun stride => buffer.byteAt (checksumStride * stride - 1))
  simp only [List.map_map, List.length_map,
    List.length_range'] at header strided
  rw [Nat.add_mul]
  exact Nat.add_le_add header strided

/-- A buffer whose advertised data fits validates. -/
theorem buildPrintBuffer_validates
    (fits : p.colsInBuf.toNat * p.perLineByte.toNat ≤ maxBufData) :
    (buildPrintBuffer p).Validates := by
  have dataEnd : p.colsInBuf.toNat * p.perLineByte.toNat + printBufHeader ≤
      printBufSize := by
    simp only [maxBufData, printBufHeader, printBufSize] at fits ⊢
    omega
  have few : (buildPrintBuffer p).strideCount ≤ 15 := by
    rw [strideCount_buildPrintBuffer]
    simp only [maxBufData, printBufHeader, checksumStride] at fits ⊢
    omega
  have untruncated : (buildPrintBuffer p).validationSum < 65536 := by
    have bounded := validationSum_le (buildPrintBuffer p)
    omega
  refine ⟨?_, untruncated, ?_⟩
  · intro stride _ last
    rw [(buildPrintBuffer p).length_eq]
    simp only [checksumStride, printBufSize]
    omega
  · have written : (buildPrintBuffer p).checksum =
        (BitVec.ofNat 16 (bufferChecksum
          (headerFields p ++ imageField p.imageData)
          (p.colsInBuf.toNat * p.perLineByte.toNat + printBufHeader))).toNat :=
      fromLeBytes_toLeBytes _
    rw [written, bufferChecksum_eq_validationSum p dataEnd,
      BitVec.toNat_ofNat, Nat.mod_eq_of_lt untruncated]

end Built

/-! ### The buffers of a page -/

/-- Every buffer that a page is split into validates against its own header,
in both colour modes, for any bands and margins. -/
theorem splitIntoBandedBuffers_validates (imageData : Bytes)
    (perLineByte : U8) (bands : List DensityBand)
    (marginTop marginBottom : U16) (page : PageOptions)
    (linePositive : 1 ≤ perLineByte.toNat) :
    ∃ buffers,
      splitIntoBandedBuffers imageData perLineByte bands marginTop
        marginBottom page = some buffers ∧
      ∀ buffer ∈ buffers, buffer.Validates := by
  obtain ⟨groups, _, run, _, cut⟩ :=
    splitIntoBandedBuffers_cut imageData perLineByte bands marginTop
      marginBottom page linePositive
  refine ⟨_, run, ?_⟩
  intro buffer member
  obtain ⟨index, bound, rfl⟩ := List.mem_mapIdx.mp member
  have capacity := (chunk_bounds_of_fit linePositive cut _
    (List.getElem_mem bound)).2
  have advertised := chunkBuffer_advertises imageData marginTop marginBottom
    (groups.flatten.length - 1) index linePositive capacity
  have columns := advertised.columnCount_eq
  simp only [chunkBuffer, columnCount_buildPrintBuffer] at columns
  apply buildPrintBuffer_validates
  rw [columns]
  calc
    _ = groups.flatten[index].colsInBuf.toNat *
        (perLineByte.toNat * page.colour.planes.toNat) := by ring
    _ ≤ maxBufData := capacity

/-- A two-colour page with an odd stride, cut where the capacity ends. -/
theorem splitIntoBandedBuffers_validates_twoColour :
    1 ≤ (3#8 : U8).toNat ∧
      ∃ buffers,
        splitIntoBandedBuffers [0xFF#8] 3#8
          [⟨0#16, .uniform 4#8⟩, ⟨700#16, ⟨5#8, 9#8⟩⟩] 1#16 8#16
          { colour := .twoColour } = some buffers ∧
        ∀ buffer ∈ buffers, buffer.Validates :=
  ⟨by decide, splitIntoBandedBuffers_validates _ _ _ _ _ _ (by decide)⟩

end SupvanCups
