import SupvanCups.CheckedLoops
import SupvanCups.ContainScale
import SupvanCups.RasterJob
import SupvanCups.TestPattern
import Mathlib.Data.Rat.Floor

/-!
# An image on its label

An image is scaled to fit inside its label with its sides in proportion, and
the resized picture is copied row by row onto the middle of a white canvas.
The scale is taken in rational numbers here, and resizing is a parameter that
returns as many pixels as it was asked for.
-/

namespace SupvanCups

/-- A decoded image, one byte of grey for each pixel. -/
structure GrayImage where
  width : U32
  height : U32
  pixels : Bytes
  full : pixels.length = width.toNat * height.toNat

/-- An image of one black pixel. -/
def blackDot : GrayImage :=
  ⟨1#32, 1#32, [0#8], rfl⟩

/-- What resizing a black image gives. -/
def blackPicture (_ : GrayImage) (width height : Nat) : Bytes :=
  List.replicate (width * height) 0#8

theorem blackPicture_length (img : GrayImage) (width height : Nat) :
    (blackPicture img width height).length = width * height :=
  List.length_replicate

/-- The dots of a length in hundredths of a millimetre. -/
def labelDots (hmm : I32) : U32 :=
  BitVec.ofInt 32 (max hmm.toInt 0 / 100 * dotsPerMm)

def labelWidth (media : I32 × I32) (dots : U32) : U32 :=
  if labelDots media.1 ≤ dots then labelDots media.1 else dots

def labelHeight (media : I32 × I32) : U32 :=
  labelDots media.2

/-- The `as u32` of a number without a fraction. -/
def asU32 (value : ℤ) : Nat :=
  min value.toNat (2 ^ 32 - 1)

/-- A side of the resized picture, between one pixel and the label's. -/
def fittedSide (side label : U32) (scale : ℚ) : Nat :=
  max 1 (min (asU32 (roundAway (side.toNat * scale))) label.toNat)

/-- Copy a row of a picture to its place on the canvas. -/
def blitRow (labelW ox oy rw : Nat) (src canvas : Bytes) (y : Nat) :
    Option Bytes := do
  let row ← getRange src (y * rw) (y * rw + rw)
  copyInto canvas ((oy + y) * labelW + ox) row

/-- The canvas of a label and its size in dots.  `none` is a slice outside the
canvas or the picture. -/
def fitLuma (resize : GrayImage → Nat → Nat → Bytes) (img : GrayImage)
    (media : I32 × I32) (dots : U32) : Option (Bytes × U32 × U32) :=
  let labelW := labelWidth media dots
  let labelH := labelHeight media
  if labelW = 0#32 ∨ labelH = 0#32 then some ([], 0#32, 0#32)
  else
    let canvas := List.replicate (labelW * labelH).toNat 255#8
    if img.width = 0#32 ∨ img.height = 0#32 then some (canvas, labelW, labelH)
    else
      let scale : ℚ := containScale labelW.toNat labelH.toNat
        img.width.toNat img.height.toNat
      let rw := fittedSide img.width labelW scale
      let rh := fittedSide img.height labelH scale
      let ox := (labelW.toNat - rw) / 2
      let oy := (labelH.toNat - rh) / 2
      let src := resize img rw rh
      ((List.range rh).foldlM (blitRow labelW.toNat ox oy rw src) canvas).map
        fun canvas => (canvas, labelW, labelH)

/-! ### Sizes -/

theorem labelDots_toNat (hmm : I32) :
    (labelDots hmm).toNat = hmm.toInt.toNat / 100 * 8 := by
  have upper : hmm.toInt < 2 ^ 31 := BitVec.toInt_lt
  rw [labelDots, BitVec.toNat_ofInt, dotsPerMm]
  omega

/-- The side of a picture that reaches across its label is the label's. -/
theorem fittedSide_eq {side label : U32} {scale : ℚ}
    (touches : (side.toNat : ℚ) * scale = label.toNat)
    (positive : label ≠ 0#32) : fittedSide side label scale = label.toNat := by
  have bound := label.isLt
  have dots : label.toNat ≠ 0 := fun zero =>
    positive (BitVec.eq_of_toNat_eq zero)
  have rounded : roundAway ((label.toNat : ℤ) : ℚ) = label.toNat :=
    roundAway_intCast (Int.natCast_nonneg _)
  rw [fittedSide, touches, ← Int.cast_natCast, rounded, asU32]
  omega

/-- A side of a picture is rounded, or raised to one pixel from less than half
of one. -/
def NearSide (fitted : Nat) (scaled : ℚ) : Prop :=
  |(fitted : ℚ) - scaled| ≤ 1 / 2 ∨ fitted = 1 ∧ scaled < 1 / 2

theorem fittedSide_bounds {label : U32} (side : U32) (scale : ℚ)
    (positive : label ≠ 0#32) :
    1 ≤ fittedSide side label scale ∧
      fittedSide side label scale ≤ label.toNat := by
  have dots : label.toNat ≠ 0 := fun zero =>
    positive (BitVec.eq_of_toNat_eq zero)
  rw [fittedSide]
  omega

theorem fittedSide_near {side label : U32} {scale : ℚ} (nonneg : 0 ≤ scale)
    (inside : (side.toNat : ℚ) * scale ≤ label.toNat) :
    NearSide (fittedSide side label scale) (side.toNat * scale) := by
  have scaledNonneg : (0 : ℚ) ≤ side.toNat * scale :=
    mul_nonneg (Nat.cast_nonneg _) nonneg
  have bound := label.isLt
  have rounded := roundAway_nonneg scaledNonneg
  have below : roundAway ((side.toNat : ℚ) * scale) ≤ (label.toNat : ℤ) :=
    roundAway_le scaledNonneg (by simpa using inside)
  by_cases zero : roundAway ((side.toNat : ℚ) * scale) = 0
  · right
    refine ⟨?_, (roundAway_eq_zero_iff scaledNonneg).mp zero⟩
    rw [fittedSide, zero, asU32]
    rfl
  · left
    have whole : ((fittedSide side label scale : ℕ) : ℤ) =
        roundAway ((side.toNat : ℚ) * scale) := by
      rw [fittedSide, asU32]
      omega
    rw [← Int.cast_natCast, whole]
    exact abs_roundAway_sub_le scaledNonneg

/-! ### Rows on a canvas -/

/-- In rows of one width, a pixel outside a piece of a row is before its first
byte or after its last. -/
theorem rowMajor_outside {width x y start count row : Nat}
    (xBound : x < width) (piece : start + count ≤ width)
    (outside : y = row → x < start ∨ start + count ≤ x) :
    y * width + x < row * width + start ∨
      row * width + start + count ≤ y * width + x := by
  rcases Nat.lt_trichotomy y row with above | same | below
  · left
    have rows := rowEnd_le above width
    omega
  · subst same
    have sides := outside rfl
    omega
  · right
    have rows := rowEnd_le below width
    omega

/-- A canvas that shows the first rows of a picture, white elsewhere. -/
structure RowsShown (labelW labelH ox oy rw rows : Nat)
    (src canvas : Bytes) : Prop where
  length_eq : canvas.length = labelH * labelW
  pixel : ∀ x < labelW, ∀ y < labelH,
    canvas[y * labelW + x]? =
      if (ox ≤ x ∧ x < ox + rw) ∧ oy ≤ y ∧ y < oy + rows then
        src[(y - oy) * rw + (x - ox)]?
      else
        some 255#8

section Blit

variable {labelW labelH ox oy rw rh : Nat} {src canvas : Bytes}

/-- A white canvas shows no row yet. -/
theorem rowsShown_white (src : Bytes) :
    RowsShown labelW labelH ox oy rw 0 src
      (List.replicate (labelH * labelW) 255#8) where
  length_eq := List.length_replicate
  pixel x xBound y yBound := by
    have rowEnd := rowEnd_le yBound labelW
    have inside : y * labelW + x < labelH * labelW := by omega
    rw [List.getElem?_replicate, if_pos inside, if_neg (by omega)]

/-- The next row of a picture that fits is copied to its place. -/
theorem RowsShown.blitRow {row : Nat}
    (shown : RowsShown labelW labelH ox oy rw row src canvas)
    (rowBound : row < rh) (full : src.length = rw * rh)
    (fitsW : ox + rw ≤ labelW) (fitsH : oy + rh ≤ labelH) :
    ∃ next, SupvanCups.blitRow labelW ox oy rw src canvas row = some next ∧
      RowsShown labelW labelH ox oy rw (row + 1) src next := by
  rw [Nat.mul_comm] at full
  have read := getRange_row rowBound full.ge
  rw [Nat.succ_mul] at read
  have pieceLength := length_row rowBound full.ge
  have onCanvas : oy + row < labelH := by omega
  have rowEnd := rowEnd_le onCanvas labelW
  have fits : (oy + row) * labelW + ox +
      ((src.drop (row * rw)).take rw).length ≤ canvas.length := by
    rw [pieceLength, shown.length_eq]
    omega
  obtain ⟨next, copies, length⟩ := copyInto_of_fits fits
  refine ⟨next, by rw [SupvanCups.blitRow, read]; exact copies,
    length.trans shown.length_eq, fun x xBound y yBound => ?_⟩
  by_cases here : y = oy + row ∧ ox ≤ x ∧ x < ox + rw
  · obtain ⟨rfl, left, right⟩ := here
    have column : x - ox < ((src.drop (row * rw)).take rw).length := by omega
    have place : (oy + row) * labelW + x =
        (oy + row) * labelW + ox + (x - ox) := by omega
    rw [place, copyInto_inside copies column,
      List.getElem?_take_of_lt (by omega), List.getElem?_drop,
      if_pos (by omega), Nat.add_sub_cancel_left]
  · have elsewhere : y = oy + row → x < ox ∨ ox + rw ≤ x := by omega
    have outside := rowMajor_outside xBound fitsW elsewhere
    rw [← pieceLength] at outside
    rw [copyInto_elsewhere copies outside, shown.pixel x xBound y yBound]
    have same : ((ox ≤ x ∧ x < ox + rw) ∧ oy ≤ y ∧ y < oy + row) ↔
        ((ox ≤ x ∧ x < ox + rw) ∧ oy ≤ y ∧ y < oy + (row + 1)) := by omega
    simp only [same]

/-- All rows of a picture that fits are copied to their places. -/
theorem exists_blit (full : src.length = rw * rh)
    (fitsW : ox + rw ≤ labelW) (fitsH : oy + rh ≤ labelH) :
    ∃ canvas, (List.range rh).foldlM
        (SupvanCups.blitRow labelW ox oy rw src)
        (List.replicate (labelH * labelW) 255#8) = some canvas ∧
      RowsShown labelW labelH ox oy rw rh src canvas := by
  apply foldlM_range_of_keeps _ (rowsShown_white src)
  intro row rowBound canvas shown
  exact shown.blitRow rowBound full fitsW fitsH

end Blit

/-! ### The canvas -/

/-- A box in a canvas whose borders on opposite sides differ by one dot at
most. -/
structure CentredBox (canvasW canvasH : Nat) where
  width : Nat
  height : Nat
  left : Nat
  right : Nat
  top : Nat
  bottom : Nat
  across : left + width + right = canvasW
  down : top + height + bottom = canvasH
  left_right : left ≤ right + 1 ∧ right ≤ left + 1
  top_bottom : top ≤ bottom + 1 ∧ bottom ≤ top + 1

/-- The box that integer halving puts in the middle. -/
def centredBox {canvasW canvasH width height : Nat}
    (fitsW : width ≤ canvasW) (fitsH : height ≤ canvasH) :
    CentredBox canvasW canvasH where
  width := width
  height := height
  left := (canvasW - width) / 2
  right := canvasW - width - (canvasW - width) / 2
  top := (canvasH - height) / 2
  bottom := canvasH - height - (canvasH - height) / 2
  across := by omega
  down := by omega
  left_right := by omega
  top_bottom := by omega

/-- The scale of an image on a label. -/
def labelScale (labelW labelH : Nat) (img : GrayImage) : ℚ :=
  containScale labelW labelH img.width.toNat img.height.toNat

/-- A canvas that shows an image whole in a box, and white around it.  The
picture in the box is the image at the scale of the label, rounded, and
reaches across the label in one direction. -/
structure ShowsIn {labelW labelH : Nat} (box : CentredBox labelW labelH)
    (resize : GrayImage → Nat → Nat → Bytes) (img : GrayImage)
    (canvas : Bytes) : Prop where
  length_eq : canvas.length = labelW * labelH
  pixel : ∀ x < labelW, ∀ y < labelH,
    canvas[y * labelW + x]? =
      if (box.left ≤ x ∧ x < box.left + box.width) ∧
          box.top ≤ y ∧ y < box.top + box.height then
        (resize img box.width box.height)[
          (y - box.top) * box.width + (x - box.left)]?
      else
        some 255#8
  touches : box.width = labelW ∨ box.height = labelH
  width_near :
    NearSide box.width (img.width.toNat * labelScale labelW labelH img)
  height_near :
    NearSide box.height (img.height.toNat * labelScale labelW labelH img)

/-! ### The picture of an image -/

section Picture

variable {img : GrayImage} {labelW labelH : U32}

theorem toNat_pos_of_ne_zero {side : U32} (positive : side ≠ 0#32) :
    0 < side.toNat :=
  Nat.pos_of_ne_zero fun zero => positive (BitVec.eq_of_toNat_eq zero)

/-- Where the picture of an image is on a label. -/
def pictureBox (img : GrayImage) (labelWide : labelW ≠ 0#32)
    (labelTall : labelH ≠ 0#32) : CentredBox labelW.toNat labelH.toNat :=
  centredBox
    (fittedSide_bounds img.width (labelScale labelW.toNat labelH.toNat img)
      labelWide).2
    (fittedSide_bounds img.height (labelScale labelW.toNat labelH.toNat img)
      labelTall).2

theorem pictureBox_touches (wide : img.width ≠ 0#32) (tall : img.height ≠ 0#32)
    (labelWide : labelW ≠ 0#32) (labelTall : labelH ≠ 0#32) :
    (pictureBox img labelWide labelTall).width = labelW.toNat ∨
      (pictureBox img labelWide labelTall).height = labelH.toNat := by
  have sideW : (0 : ℚ) < img.width.toNat :=
    Nat.cast_pos.mpr (toNat_pos_of_ne_zero wide)
  have sideH : (0 : ℚ) < img.height.toNat :=
    Nat.cast_pos.mpr (toNat_pos_of_ne_zero tall)
  rcases containScale_touches sideW sideH with across | down
  · exact .inl (fittedSide_eq across labelWide)
  · exact .inr (fittedSide_eq down labelTall)

theorem pictureBox_near (wide : img.width ≠ 0#32) (tall : img.height ≠ 0#32)
    (labelWide : labelW ≠ 0#32) (labelTall : labelH ≠ 0#32) :
    NearSide (pictureBox img labelWide labelTall).width
        (img.width.toNat * labelScale labelW.toNat labelH.toNat img) ∧
      NearSide (pictureBox img labelWide labelTall).height
        (img.height.toNat * labelScale labelW.toNat labelH.toNat img) := by
  have sideW : (0 : ℚ) < img.width.toNat :=
    Nat.cast_pos.mpr (toNat_pos_of_ne_zero wide)
  have sideH : (0 : ℚ) < img.height.toNat :=
    Nat.cast_pos.mpr (toNat_pos_of_ne_zero tall)
  have nonneg : 0 ≤ labelScale labelW.toNat labelH.toNat img :=
    containScale_nonneg (Nat.cast_nonneg _) (Nat.cast_nonneg _) sideW.le
      sideH.le
  exact ⟨fittedSide_near nonneg (mul_containScale_le_width sideW),
    fittedSide_near nonneg (mul_containScale_le_height sideH)⟩

end Picture

section Fit

variable {resize : GrayImage → Nat → Nat → Bytes} {img : GrayImage}
variable {media : I32 × I32} {dots : U32}

/-- An image with pixels is copied to its box on a white canvas, whose size is
a `u32` product. -/
theorem fitLuma_eq (wide : img.width ≠ 0#32) (tall : img.height ≠ 0#32)
    (labelWide : labelWidth media dots ≠ 0#32)
    (labelTall : labelHeight media ≠ 0#32) :
    fitLuma resize img media dots =
      let box := pictureBox img labelWide labelTall
      ((List.range box.height).foldlM
        (blitRow (labelWidth media dots).toNat box.left box.top box.width
          (resize img box.width box.height))
        (List.replicate (labelWidth media dots * labelHeight media).toNat
          255#8)).map
        fun canvas => (canvas, labelWidth media dots, labelHeight media) := by
  have label : ¬ (labelWidth media dots = 0#32 ∨ labelHeight media = 0#32) :=
    not_or.mpr ⟨labelWide, labelTall⟩
  have image : ¬ (img.width = 0#32 ∨ img.height = 0#32) :=
    not_or.mpr ⟨wide, tall⟩
  simp only [fitLuma, if_neg label, if_neg image]
  rfl

/-- Where the size of a label fits 32 bits, the whole picture is copied. -/
theorem exists_fitLuma
    (resizes : ∀ img w h, (resize img w h).length = w * h)
    (wide : img.width ≠ 0#32) (tall : img.height ≠ 0#32)
    (labelWide : labelWidth media dots ≠ 0#32)
    (labelTall : labelHeight media ≠ 0#32)
    (small : (labelWidth media dots).toNat * (labelHeight media).toNat <
      2 ^ 32) :
    let box := pictureBox img labelWide labelTall
    ∃ canvas, fitLuma resize img media dots =
        some (canvas, labelWidth media dots, labelHeight media) ∧
      RowsShown (labelWidth media dots).toNat (labelHeight media).toNat
        box.left box.top box.width box.height
        (resize img box.width box.height) canvas := by
  intro box
  have across := box.across
  have down := box.down
  obtain ⟨canvas, drawn, shown⟩ :=
    exists_blit (resizes img box.width box.height)
      (Nat.le_of_add_right_le across.le) (Nat.le_of_add_right_le down.le)
  have size : (labelWidth media dots * labelHeight media).toNat =
      (labelHeight media).toNat * (labelWidth media dots).toNat := by
    rw [BitVec.toNat_mul, Nat.mod_eq_of_lt small, Nat.mul_comm]
  refine ⟨canvas, ?_, shown⟩
  rw [fitLuma_eq wide tall labelWide labelTall, size]
  exact congrArg (Option.map _) drawn

/-- On a label whose dots 32 bits can count, an image is fitted exactly. -/
theorem fitLuma_contains
    (resizes : ∀ img w h, (resize img w h).length = w * h)
    (wide : img.width ≠ 0#32) (tall : img.height ≠ 0#32)
    (labelWide : labelWidth media dots ≠ 0#32)
    (labelTall : labelHeight media ≠ 0#32)
    (small : (labelWidth media dots).toNat * (labelHeight media).toNat <
      2 ^ 32) :
    ∃ canvas, fitLuma resize img media dots =
        some (canvas, labelWidth media dots, labelHeight media) ∧
      ∃ box : CentredBox (labelWidth media dots).toNat
          (labelHeight media).toNat,
        ShowsIn box resize img canvas := by
  obtain ⟨canvas, fitted, shown⟩ :=
    exists_fitLuma resizes wide tall labelWide labelTall small
  have near := pictureBox_near wide tall labelWide labelTall
  exact ⟨canvas, fitted, pictureBox img labelWide labelTall,
    { length_eq := shown.length_eq.trans (Nat.mul_comm _ _)
      pixel := shown.pixel
      touches := pictureBox_touches wide tall labelWide labelTall
      width_near := near.1
      height_near := near.2 }⟩

theorem length_of_blitRow {labelW ox oy rw y : Nat} {src canvas next : Bytes}
    (run : blitRow labelW ox oy rw src canvas y = some next) :
    next.length = canvas.length := by
  obtain ⟨row, _, copies⟩ := Option.bind_eq_some_iff.mp run
  exact copyInto_length copies

/-- What is fitted to a label with dots has the label's size, and as many
bytes as the `u32` product of its sides. -/
theorem fitLuma_size {canvas : Bytes} {labelW labelH : U32}
    (fitted : fitLuma resize img media dots = some (canvas, labelW, labelH))
    (wide : labelW ≠ 0#32) :
    labelW = labelWidth media dots ∧ labelH = labelHeight media ∧
      labelHeight media ≠ 0#32 ∧
      canvas.length = labelW.toNat * labelH.toNat % 2 ^ 32 := by
  by_cases label : labelWidth media dots = 0#32 ∨ labelHeight media = 0#32
  · simp only [fitLuma, if_pos label] at fitted
    cases fitted
    exact absurd rfl wide
  obtain ⟨labelWide, labelTall⟩ := not_or.mp label
  by_cases image : img.width = 0#32 ∨ img.height = 0#32
  · simp only [fitLuma, if_neg label, if_pos image] at fitted
    cases fitted
    exact ⟨rfl, rfl, labelTall,
      by rw [List.length_replicate, BitVec.toNat_mul]⟩
  · rw [fitLuma_eq (not_or.mp image).1 (not_or.mp image).2 labelWide
      labelTall] at fitted
    obtain ⟨drawn, run, same⟩ := Option.map_eq_some_iff.mp fitted
    cases same
    refine ⟨rfl, rfl, labelTall, ?_⟩
    rw [← BitVec.toNat_mul]
    apply foldlM_keeps (fun drawn : Bytes => drawn.length = _) _ run
      List.length_replicate
    intro y before next copied length
    exact (length_of_blitRow copied).trans length

end Fit

/-- A black dot fills the middle of a label of ten by twenty millimetres. -/
theorem fitLuma_contains_dot :
    ∃ canvas, fitLuma blackPicture blackDot (1000#32, 2000#32) 384#32 =
        some (canvas, 80#32, 160#32) ∧
      ∃ box : CentredBox 80 160, ShowsIn box blackPicture blackDot canvas :=
  fitLuma_contains blackPicture_length (by decide) (by decide) (by decide)
    (by decide) (by decide)

end SupvanCups
