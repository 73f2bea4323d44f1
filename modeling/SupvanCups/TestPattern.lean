import SupvanCups.PageBitmap
import SupvanCups.PrintBuffer
import SupvanCups.PrinterStatus

/-!
# The test pattern

The bitmap of a test print: a border, and in each region of the label that one
print buffer holds a frame, a cross and the number of the region in dots.  A
test label carries the bounds that keep the pattern's unsigned arithmetic from
wrapping, whatever material the printer reports.
-/

namespace SupvanCups

def dotsPerMm : Nat := 8
def printheadWidthMm : Nat := 48
def printheadWidthDots : Nat := printheadWidthMm * dotsPerMm
def printheadBytesPerLine : Nat := printheadWidthDots / 8
def testMargin : Nat := 8
def defaultLabelHeightMm : Nat := 25

/-- `mm * DOTS_PER_MM`, in 32 bits. -/
def dotsOfMm (mm : U32) : Nat :=
  (mm * 8#32).toNat

/-- The width of a label, as far as the head covers it. -/
def centredWidthDots (labelWidthMm : U32) : Nat :=
  min (dotsOfMm labelWidthMm) printheadWidthDots

/-- The blank dots before a label that is centred under the head. -/
def centredOffset (labelWidthMm : U32) : Nat :=
  (printheadWidthDots - centredWidthDots labelWidthMm) / 2

theorem printheadWidthDots_eq : printheadWidthDots = 384 :=
  rfl

theorem centredOffset_add_le (labelWidthMm : U32) :
    centredOffset labelWidthMm + centredWidthDots labelWidthMm ≤
      printheadWidthDots := by
  have narrow : centredWidthDots labelWidthMm ≤ printheadWidthDots :=
    Nat.min_le_right _ _
  rw [centredOffset]
  omega

/-- The size of a label to test on, in millimetres: no wider than the head, and
of some height. -/
structure TestLabel where
  widthMm : Nat
  heightMm : Nat
  width_le : widthMm ≤ printheadWidthMm
  height_pos : 0 < heightMm

/-- The label that `test_print` takes a material for. -/
def testLabel (mat : MaterialInfo) : TestLabel where
  widthMm := min mat.widthMm.toNat printheadWidthMm
  heightMm :=
    if mat.heightMm = 0#8 then defaultLabelHeightMm else mat.heightMm.toNat
  width_le := Nat.min_le_right _ _
  height_pos := by
    split
    · decide
    · next nonzero =>
        exact Nat.pos_of_ne_zero fun zero =>
          nonzero (BitVec.eq_of_toNat_eq zero)

namespace TestLabel

def widthDots (label : TestLabel) : Nat :=
  label.widthMm * dotsPerMm

def heightDots (label : TestLabel) : Nat :=
  label.heightMm * dotsPerMm

/-- The `while col < height_dots - margin_bottom` loop: the columns of each
print buffer.  `none` means that it needs more than the given number of
passes. -/
def bufRegions (maxCols stop : Nat) : Nat → Nat → Option (List (Nat × Nat))
  | 0, _ => none
  | passes + 1, col =>
      if col < stop then
        let finish := min (col + maxCols) stop
        (bufRegions maxCols stop passes finish).map ((col, finish) :: ·)
      else
        some []

/-- The pattern inside region `index`, which covers the columns from `first` to
`finish`. -/
def regionPixel (bw first finish index localRow col : Nat) : Bool :=
  let bh := finish - first
  let localCol := col - first
  let expectedRow := localCol * bw / bh
  let near (expected : Nat) : Bool :=
    ((localRow : Int) - expected).natAbs < 2
  -- Frame at both ends of the region
  (localCol < 2 || bh - 2 ≤ localCol) ||
    -- Diagonals
    (bh ≠ 0 && (near expectedRow || near (bw - 1 - expectedRow))) ||
    -- As many dots as the number of the region
    (List.range (index + 1)).any fun d =>
      let dx := 10 + d * 12
      let dy := 10
      dx ≤ localRow && localRow < dx + 8 && dy ≤ localCol &&
        localCol < dy + 8

/-- The dot at a column and a row of the canvas.  Only the first region that
contains the column is drawn. -/
def pixel (label : TestLabel) (regions : List (Nat × Nat)) (col row : Nat) :
    Bool :=
  let xOffset := (printheadWidthDots - label.widthDots) / 2
  let labelRow : Int := row - xOffset
  if 0 ≤ labelRow ∧ labelRow.toNat < label.widthDots then
    let lr := labelRow.toNat
    (lr < 2 || label.widthDots - 2 ≤ lr || col < 2 ||
        label.heightDots - 2 ≤ col) ||
      match regions.zipIdx.find? fun region =>
          decide (region.1.1 ≤ col ∧ col < region.1.2) with
      | none => false
      | some ((first, finish), index) =>
          regionPixel label.widthDots first finish index lr col
  else
    false

end TestLabel

/-- Draw the pattern.  Returns the bitmap with its width, its height and its
bytes per line; `none` is a write outside the bitmap, or a region loop that does
not end. -/
def createTestPattern (label : TestLabel) :
    Option (Bytes × Nat × Nat × Nat) := do
  let maxCols := maxBufData / printheadBytesPerLine
  let regions ← TestLabel.bufRegions maxCols (label.heightDots - testMargin)
    (label.heightDots + 1) testMargin
  let buf := List.replicate (printheadBytesPerLine * label.heightDots) 0#8
  let buf ← paint (List.range label.heightDots ×ˢ List.range printheadWidthDots)
    (fun (col, row) =>
      if label.pixel regions col row then
        some (col * printheadBytesPerLine + row / 8, 1#8 <<< (row % 8))
      else
        none)
    buf
  pure (buf, printheadWidthDots, label.heightDots, printheadBytesPerLine)

theorem bufRegions_isSome {maxCols : Nat} (positive : 0 < maxCols)
    (stop passes col : Nat) (enough : stop - col < passes) :
    ∃ regions, TestLabel.bufRegions maxCols stop passes col = some regions := by
  induction passes generalizing col with
  | zero => omega
  | succ passes ih =>
      rw [TestLabel.bufRegions]
      split
      · obtain ⟨regions, run⟩ := ih (min (col + maxCols) stop) (by omega)
        exact ⟨_, congrArg (Option.map _) run⟩
      · exact ⟨[], rfl⟩

/-- The pattern of every label is drawn, eight columns for each millimetre. -/
theorem createTestPattern_isSome (label : TestLabel) :
    ∃ buf, createTestPattern label = some
      (buf, printheadWidthDots, label.heightDots, printheadBytesPerLine) := by
  obtain ⟨regions, cut⟩ := bufRegions_isSome
    (by decide : 0 < maxBufData / printheadBytesPerLine)
    (label.heightDots - testMargin) (label.heightDots + 1) testMargin (by omega)
  obtain ⟨buf, drawn, _⟩ := paint_spec
    (List.range label.heightDots ×ˢ List.range printheadWidthDots)
    (fun step =>
      if label.pixel regions step.1 step.2 then
        some (step.1 * printheadBytesPerLine + step.2 / 8, 1#8 <<< (step.2 % 8))
      else
        none)
    (List.replicate (printheadBytesPerLine * label.heightDots) 0#8) (by
      rintro ⟨col, row⟩ member index mask stroke
      obtain ⟨colMember, rowMember⟩ := List.mem_product.mp member
      have colBound := List.mem_range.mp colMember
      have rowBound := List.mem_range.mp rowMember
      obtain ⟨-, stroke⟩ := Option.ite_none_right_eq_some.mp stroke
      obtain ⟨rfl, -⟩ := Prod.mk.inj (Option.some.inj stroke)
      have dots : printheadWidthDots = 384 := rfl
      have stride : printheadBytesPerLine = 48 := rfl
      simp only [stride, List.length_replicate]
      omega)
  refine ⟨buf, ?_⟩
  simp only [createTestPattern, cut, Option.bind_eq_bind, Option.bind_some,
    drawn]
  rfl

end SupvanCups
