import SupvanCups.BitPacking

/-!
# From page raster to printhead canvas

A page arrives row by row, most significant bit first.  The printer takes it
column by column, least significant bit first, centred under a printhead of
fixed width.  Both conversions are loops over lines and dots that copy set
dots; `paintDots_spec` is the one statement about such loops.
-/

namespace SupvanCups

/-- The mask to paint when a source bit is set.  Source bytes past the end are
skipped. -/
def copyBit (input : Bytes) (index bit : Nat) (stroke : Nat × U8) :
    Option (Nat × U8) :=
  match input[index]? with
  | none => none
  | some byte =>
      if (byte >>> bit) &&& 1#8 ≠ 0#8 then some stroke else none

/-- Convert a row-major MSB-first bitmap to column-major LSB-first.  Returns
the output with its columns and bytes per line; `none` is a write outside the
output. -/
def rasterToColumnMajor (input : Bytes) (width height : Nat) :
    Option (Bytes × Nat × Nat) :=
  let inBytesPerRow := divCeil width 8
  let outBytesPerLine := divCeil width 8
  let outCols := height
  let output := List.replicate (outCols * outBytesPerLine) 0#8
  (paint (List.range height ×ˢ List.range width)
    (fun (y, x) =>
      copyBit input (y * inBytesPerRow + x / 8) (7 - x % 8)
        (y * outBytesPerLine + x / 8, 1#8 <<< (x % 8)))
    output).map fun painted => (painted, outCols, outBytesPerLine)

/-- Centre image data in a full-width printhead canvas, cropping a page wider
than the head on both sides.  Returns the canvas and its bytes per line. -/
def centerInPrinthead (input : Bytes)
    (numCols inputWidthDots canvasWidthDots : Nat) : Option (Bytes × Nat) :=
  let canvasBytesPerLine := canvasWidthDots / 8
  let inputBytesPerLine := divCeil inputWidthDots 8
  -- A head that is no whole number of bytes carries only the whole bytes.
  let usableWidthDots := canvasBytesPerLine * 8
  let output := List.replicate (numCols * canvasBytesPerLine) 0#8
  if usableWidthDots ≤ inputWidthDots then
    let lost := inputWidthDots - usableWidthDots
    let xOffsetDots := lost / 2
    (paint (List.range numCols ×ˢ List.range usableWidthDots)
      (fun (col, dot) =>
        let srcDot := xOffsetDots + dot
        copyBit input (col * inputBytesPerLine + srcDot / 8) (srcDot % 8)
          (col * canvasBytesPerLine + dot / 8, 1#8 <<< (dot % 8)))
      output).map fun painted => (painted, canvasBytesPerLine)
  else
    let xOffsetDots := (usableWidthDots - inputWidthDots) / 2
    (paint (List.range numCols ×ˢ List.range inputWidthDots)
      (fun (col, dot) =>
        let outDot := xOffsetDots + dot
        let outByte := col * canvasBytesPerLine + outDot / 8
        if outByte < output.length then
          copyBit input (col * inputBytesPerLine + dot / 8) (dot % 8)
            (outByte, 1#8 <<< (outDot % 8))
        else
          none)
      output).map fun painted => (painted, canvasBytesPerLine)

theorem le_divCeil_mul (count : Nat) : count ≤ 8 * divCeil count 8 := by
  simp only [divCeil]
  omega

theorem copyBit_eq (input : Bytes) (index bit : Nat) (stroke : Nat × U8) :
    copyBit input index bit stroke =
      if bitAt input index bit = true then some stroke else none := by
  simp only [copyBit, bitAt, List.getD_eq_getElem?_getD]
  cases input[index]? with
  | none => simp
  | some byte => simp only [and_one_ne_zero_iff, Option.getD_some]

/-- A loop over lines and dots that paints, for each set source dot, the dot
`target` puts it at, leaves exactly those dots set. -/
theorem paintDots_spec (lines dots stride : Nat)
    (source : Nat → Nat → Bool) (target : Nat → Nat)
    (targetBound : ∀ dot < dots, target dot < 8 * stride) :
    ∃ painted,
      paint (List.range lines ×ˢ List.range dots)
        (fun step =>
          if source step.1 step.2 = true then
            some (step.1 * stride + target step.2 / 8,
              1#8 <<< (target step.2 % 8))
          else
            none)
        (List.replicate (lines * stride) 0#8) = some painted ∧
      painted.length = lines * stride ∧
      ∀ line < lines, ∀ dot < 8 * stride,
        lsbDot painted stride line dot = true ↔
          ∃ copied < dots, target copied = dot ∧
            source line copied = true := by
  have byteBound : ∀ dot < dots, target dot / 8 < stride := by
    intro dot bound
    have := targetBound dot bound
    omega
  obtain ⟨painted, run, lengthEq, bits⟩ := paint_spec
    (List.range lines ×ˢ List.range dots)
    (fun step =>
      if source step.1 step.2 = true then
        some (step.1 * stride + target step.2 / 8,
          1#8 <<< (target step.2 % 8))
      else
        none)
    (List.replicate (lines * stride) 0#8) (by
      rintro ⟨line, dot⟩ member index mask stroke
      obtain ⟨lineMember, dotMember⟩ := List.mem_product.mp member
      have lineBound := List.mem_range.mp lineMember
      have dotBound := byteBound dot (List.mem_range.mp dotMember)
      split_ifs at stroke
      obtain ⟨rfl, -⟩ := Prod.mk.inj (Option.some.inj stroke)
      calc
        line * stride + target dot / 8 < line * stride + stride := by omega
        _ ≤ lines * stride := rowEnd_le lineBound stride
        _ = (List.replicate (lines * stride) 0#8).length := by simp)
  refine ⟨painted, run, by simpa using lengthEq, ?_⟩
  intro line lineBound dot dotBound
  rw [lsbDot, bits]
  simp only [bitAt_replicate_zero, Bool.false_eq_true, false_or]
  constructor
  · rintro ⟨⟨otherLine, copied⟩, member, mask, stroke, inMask⟩
    obtain ⟨_, copiedMember⟩ := List.mem_product.mp member
    have copiedBound := List.mem_range.mp copiedMember
    split_ifs at stroke with set
    obtain ⟨indexEq, rfl⟩ := Prod.mk.inj (Option.some.inj stroke)
    obtain ⟨bitEq, -⟩ := (getLsbD_one_shiftLeft _ _).mp inMask
    have copiedByte := byteBound copied copiedBound
    -- Equal byte positions at one stride have equal line and byte.
    have lineEq : otherLine = line := by
      have divided := congrArg (· / stride) indexEq
      simpa only [Nat.mul_comm _ stride,
        Nat.mul_add_div (by omega : 0 < stride),
        Nat.div_eq_of_lt copiedByte,
        Nat.div_eq_of_lt (by omega : dot / 8 < stride), Nat.add_zero]
        using divided
    subst otherLine
    dsimp only at indexEq bitEq
    exact ⟨copied, copiedBound, by omega, set⟩
  · rintro ⟨copied, copiedBound, rfl, set⟩
    refine ⟨(line, copied), List.mem_product.mpr
      ⟨List.mem_range.mpr lineBound, List.mem_range.mpr copiedBound⟩,
      1#8 <<< (target copied % 8), ?_, ?_⟩
    · simp [set]
    · exact (getLsbD_one_shiftLeft _ _).mpr
        ⟨rfl, Nat.mod_lt _ (by decide)⟩

/-- Rotating a page keeps every dot: row and column become column and line. -/
theorem rasterToColumnMajor_spec (input : Bytes) (width height : Nat) :
    ∃ output,
      rasterToColumnMajor input width height =
        some (output, height, divCeil width 8) ∧
      output.length = height * divCeil width 8 ∧
      ∀ y < height, ∀ x < 8 * divCeil width 8,
        lsbDot output (divCeil width 8) y x = true ↔
          x < width ∧ msbDot input (divCeil width 8) y x = true := by
  have widthBound := le_divCeil_mul width
  obtain ⟨output, run, lengthEq, dots⟩ := paintDots_spec height width
    (divCeil width 8) (msbDot input (divCeil width 8)) id
    (fun dot bound => by simp only [id]; omega)
  refine ⟨output, ?_, lengthEq, ?_⟩
  · simp only [rasterToColumnMajor, copyBit_eq]
    simp only [msbDot, id] at run
    exact congrArg
      (Option.map fun painted => (painted, height, divCeil width 8)) run
  · intro y yBound x xBound
    rw [dots y yBound x xBound]
    simp only [id]
    constructor
    · rintro ⟨copied, bound, rfl, set⟩
      exact ⟨bound, set⟩
    · rintro ⟨bound, set⟩
      exact ⟨x, bound, rfl, set⟩

/-- The page column printed at a dot of the head: the page is centred, or
cropped around its middle when it is wider than the head. -/
def pageColumn (width usable dot : Nat) : Int :=
  if width < usable then (dot : Int) - ((usable - width) / 2 : Nat)
  else (dot : Int) + ((width - usable) / 2 : Nat)

/-- Centring moves every dot by the same distance, and crops what falls off
the head. -/
theorem centerInPrinthead_spec (input : Bytes)
    (numCols inputWidthDots canvasWidthDots : Nat) :
    ∃ canvas,
      centerInPrinthead input numCols inputWidthDots canvasWidthDots =
        some (canvas, canvasWidthDots / 8) ∧
      canvas.length = numCols * (canvasWidthDots / 8) ∧
      ∀ col < numCols, ∀ dot < 8 * (canvasWidthDots / 8),
        lsbDot canvas (canvasWidthDots / 8) col dot = true ↔
          ∃ x < inputWidthDots,
            (x : Int) = pageColumn inputWidthDots (8 * (canvasWidthDots / 8)) dot ∧
            lsbDot input (divCeil inputWidthDots 8) col x = true := by
  by_cases wide : canvasWidthDots / 8 * 8 ≤ inputWidthDots
  · obtain ⟨canvas, run, lengthEq, dots⟩ := paintDots_spec numCols
      (canvasWidthDots / 8 * 8) (canvasWidthDots / 8)
      (fun col dot => lsbDot input (divCeil inputWidthDots 8) col
        ((inputWidthDots - canvasWidthDots / 8 * 8) / 2 + dot)) id
      (fun dot bound => by simp only [id]; omega)
    refine ⟨canvas, ?_, lengthEq, ?_⟩
    · simp only [centerInPrinthead, if_pos wide, copyBit_eq]
      simp only [lsbDot, id] at run
      exact congrArg
        (Option.map fun painted => (painted, canvasWidthDots / 8)) run
    · intro col colBound dot dotBound
      rw [dots col colBound dot dotBound]
      simp only [id, pageColumn,
        if_neg (by omega : ¬ inputWidthDots < 8 * (canvasWidthDots / 8))]
      constructor
      · rintro ⟨copied, bound, rfl, set⟩
        exact ⟨_, by omega, by push_cast; omega, set⟩
      · rintro ⟨x, bound, place, set⟩
        refine ⟨dot, by omega, rfl, ?_⟩
        have xEq : x =
            (inputWidthDots - canvasWidthDots / 8 * 8) / 2 + dot := by
          omega
        rwa [xEq] at set
  · obtain ⟨canvas, run, lengthEq, dots⟩ := paintDots_spec numCols
      inputWidthDots (canvasWidthDots / 8)
      (lsbDot input (divCeil inputWidthDots 8))
      (fun dot => (canvasWidthDots / 8 * 8 - inputWidthDots) / 2 + dot)
      (fun dot bound => by omega)
    refine ⟨canvas, ?_, lengthEq, ?_⟩
    · simp only [centerInPrinthead, if_neg wide, copyBit_eq]
      simp only [lsbDot] at run
      rw [paint_congr, run]
      · rfl
      · rintro ⟨col, dot⟩ member
        obtain ⟨colMember, dotMember⟩ := List.mem_product.mp member
        have colBound := List.mem_range.mp colMember
        have dotBound := List.mem_range.mp dotMember
        refine if_pos ?_
        calc
          col * (canvasWidthDots / 8) +
              ((canvasWidthDots / 8 * 8 - inputWidthDots) / 2 + dot) / 8 <
              col * (canvasWidthDots / 8) + canvasWidthDots / 8 := by omega
          _ ≤ numCols * (canvasWidthDots / 8) := rowEnd_le colBound _
          _ = _ := by simp
    · intro col colBound dot dotBound
      rw [dots col colBound dot dotBound]
      simp only [pageColumn,
        if_pos (by omega : inputWidthDots < 8 * (canvasWidthDots / 8))]
      constructor
      · rintro ⟨copied, bound, place, set⟩
        exact ⟨copied, bound, by omega, set⟩
      · rintro ⟨x, bound, place, set⟩
        exact ⟨x, bound, by omega, set⟩

end SupvanCups
