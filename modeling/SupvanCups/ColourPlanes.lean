import SupvanCups.ByteWindows
import SupvanCups.PageBitmap

/-!
# Red and black planes

On two-colour stock every dot belongs to one of two bitplanes, chosen by the
luminance of its pixel.  The planes are rotated like a mono page and then
interleaved: each printed column is a red line followed by a black line.

Arithmetic on the source's `u32` values wraps, as in a release build.  The
luminance is a parameter: the source computes it in floating point.
-/

namespace SupvanCups

/-- Luminance at or above which a pixel is blank. -/
def blankThreshold : U8 := 125#8

/-- Luminance at or below which an inked pixel burns black. -/
def blackThreshold : U8 := 48#8

inductive Plane
  | red
  | black
  deriving DecidableEq

def classify (luma : U8) : Option Plane :=
  if blankThreshold ≤ luma then none
  else if blackThreshold < luma then some .red
  else some .black

abbrev Luma := U8 → U8 → U8 → U8

/-- Interleave two column-major planes, red before black in every column. -/
def interleavePlanes (red black : Bytes) (perLineByte cols : Nat) :
    Option Bytes :=
  let expected := cols * perLineByte
  -- `checked_mul` on a 64-bit `usize`.
  if 2 ^ 64 ≤ expected then none
  else if red.length ≠ expected ∨ black.length ≠ expected then none
  else
    some ((List.range cols).flatMap fun col =>
      (red.drop (col * perLineByte)).take perLineByte ++
        (black.drop (col * perLineByte)).take perLineByte)

/-- One pass of the loop over pixels; `none` is a write outside a plane. -/
def inkPixel (luma : Luma) (rgb : Bytes) (width perLineByte : U32)
    (planes : Bytes × Bytes) (pixel : Nat × Nat) : Option (Bytes × Bytes) :=
  let y : U32 := BitVec.ofNat 32 pixel.1
  let x : U32 := BitVec.ofNat 32 pixel.2
  let px := ((y * width + x) * 3#32).toNat
  match getRange rgb px (px + 3) with
  | some [r, g, b] =>
      match classify (luma r g b) with
      | none => some planes
      | some plane =>
          let idx := (y * perLineByte + x / 8#32).toNat
          let bit := 1#8 <<< (x % 8#32).toNat
          match plane with
          | .red => (orMask planes.1 idx bit).map fun red => (red, planes.2)
          | .black =>
              (orMask planes.2 idx bit).map fun black => (planes.1, black)
  | _ => some planes

/-- Split an RGB image into its red and black planes.  Returns them with their
columns and bytes per line. -/
def rgbToPlanes (luma : Luma) (rgb : Bytes) (width height : U32) :
    Option (Bytes × Bytes × U32 × U32) :=
  let perLineByte : U32 := BitVec.ofNat 32 (divCeil width.toNat 8)
  let planeLen := (height * perLineByte).toNat
  ((List.range height.toNat ×ˢ List.range width.toNat).foldlM
    (inkPixel luma rgb width perLineByte)
    (List.replicate planeLen 0#8, List.replicate planeLen 0#8)).map
      fun (red, black) => (red, black, height, perLineByte)

/-! ### What the planes hold -/

/-- The ink of the pixel in row `y` and column `x`. -/
def pixelPlane (luma : Luma) (rgb : Bytes) (width y x : Nat) :
    Option Plane :=
  let px := (y * width + x) * 3
  classify (luma (rgb.getD px 0#8) (rgb.getD (px + 1) 0#8)
    (rgb.getD (px + 2) 0#8))

/-- A plane whose dot `x` in column `y` is set exactly where the pixel has its
ink. -/
structure PlaneHolds (luma : Luma) (rgb : Bytes) (width height : Nat)
    (ink : Plane) (plane : Bytes) : Prop where
  length_eq : plane.length = height * divCeil width 8
  dots : ∀ y < height, ∀ x < 8 * divCeil width 8,
    lsbDot plane (divCeil width 8) y x = true ↔
      x < width ∧ pixelPlane luma rgb width y x = some ink

theorem getRange_three (bytes : Bytes) (start : Nat)
    (inside : start + 3 ≤ bytes.length) :
    getRange bytes start (start + 3) =
      some [bytes.getD start 0#8, bytes.getD (start + 1) 0#8,
        bytes.getD (start + 2) 0#8] := by
  have bounds : start ≤ start + 3 ∧ start + 3 ≤ bytes.length :=
    ⟨by omega, inside⟩
  have first : start < bytes.length := by omega
  have second : start + 1 < bytes.length := by omega
  have third : start + 2 < bytes.length := by omega
  rw [getRange, if_pos bounds, Nat.add_sub_cancel_left,
    List.drop_eq_getElem_cons first, List.drop_eq_getElem_cons second,
    List.drop_eq_getElem_cons third, List.getD_eq_getElem _ _ first,
    List.getD_eq_getElem _ _ second, List.getD_eq_getElem _ _ third]
  rfl

/-- Where a pixel of an ink puts its dot in the plane of that ink. -/
def planeBrush (luma : Luma) (rgb : Bytes) (width : Nat) (ink : Plane)
    (pixel : Nat × Nat) : Option (Nat × U8) :=
  if decide (pixelPlane luma rgb width pixel.1 pixel.2 = some ink) = true then
    some (pixel.1 * divCeil width 8 + pixel.2 / 8, 1#8 <<< (pixel.2 % 8))
  else
    none

theorem paint_planeBrush (luma : Luma) (rgb : Bytes) (width : Nat)
    (ink : Plane) (y x : Nat) (plane : Bytes) :
    paint [(y, x)] (planeBrush luma rgb width ink) plane =
      if pixelPlane luma rgb width y x = some ink then
        orMask plane (y * divCeil width 8 + x / 8) (1#8 <<< (x % 8))
      else
        some plane := by
  simp only [paint, planeBrush, decide_eq_true_eq, List.foldlM_cons,
    List.foldlM_nil, bind_pure]
  split_ifs <;> rfl

/-- With no wrapping a pixel paints its dot into the plane of its ink. -/
theorem inkPixel_eq (luma : Luma) {rgb : Bytes} {width height : U32}
    (whole : 3 * (width.toNat * height.toNat) ≤ rgb.length)
    (small : 3 * (width.toNat * height.toNat) < 2 ^ 32)
    {y x : Nat} (yBound : y < height.toNat) (xBound : x < width.toNat)
    (planes : Bytes × Bytes) :
    inkPixel luma rgb width (BitVec.ofNat 32 (divCeil width.toNat 8)) planes
        (y, x) =
      (paint [(y, x)] (planeBrush luma rgb width.toNat .red) planes.1).bind
        fun red =>
          (paint [(y, x)] (planeBrush luma rgb width.toNat .black)
            planes.2).map fun black => (red, black) := by
  have rowEnd := rowEnd_le yBound width.toNat
  have pixelBound : y * width.toNat + x + 1 ≤ width.toNat * height.toNat := by
    rw [Nat.mul_comm width.toNat]
    omega
  have strideBound : divCeil width.toNat 8 ≤ width.toNat := by
    simp only [divCeil]
    omega
  have dotBound : y * divCeil width.toNat 8 + x / 8 ≤
      y * width.toNat + x := by
    have := Nat.mul_le_mul_left y strideBound
    omega
  have yEq : (BitVec.ofNat 32 y).toNat = y := by
    have := height.isLt
    rw [BitVec.toNat_ofNat, Nat.mod_eq_of_lt (by omega)]
  have xEq : (BitVec.ofNat 32 x).toNat = x := by
    have := width.isLt
    rw [BitVec.toNat_ofNat, Nat.mod_eq_of_lt (by omega)]
  have strideEq : (BitVec.ofNat 32 (divCeil width.toNat 8)).toNat =
      divCeil width.toNat 8 := by
    have := width.isLt
    rw [BitVec.toNat_ofNat, Nat.mod_eq_of_lt (by omega)]
  have pxEq : ((BitVec.ofNat 32 y * width + BitVec.ofNat 32 x) *
      3#32).toNat = (y * width.toNat + x) * 3 := by
    rw [BitVec.toNat_mul, BitVec.toNat_add, BitVec.toNat_mul, yEq, xEq,
      Nat.mod_eq_of_lt (by omega : y * width.toNat < 2 ^ 32),
      Nat.mod_eq_of_lt (by omega : y * width.toNat + x < 2 ^ 32)]
    exact Nat.mod_eq_of_lt (by simp; omega)
  have idxEq : (BitVec.ofNat 32 y *
        BitVec.ofNat 32 (divCeil width.toNat 8) +
      BitVec.ofNat 32 x / 8#32).toNat =
      y * divCeil width.toNat 8 + x / 8 := by
    rw [BitVec.toNat_add, BitVec.toNat_mul, BitVec.toNat_udiv, yEq, xEq,
      strideEq, Nat.mod_eq_of_lt
        (by omega : y * divCeil width.toNat 8 < 2 ^ 32)]
    exact Nat.mod_eq_of_lt (by simp; omega)
  have bitEq : (BitVec.ofNat 32 x % 8#32).toNat = x % 8 := by
    rw [BitVec.toNat_umod, xEq]
    rfl
  have read := getRange_three rgb ((y * width.toNat + x) * 3) (by omega)
  have inkEq : classify (luma (rgb.getD ((y * width.toNat + x) * 3) 0#8)
      (rgb.getD ((y * width.toNat + x) * 3 + 1) 0#8)
      (rgb.getD ((y * width.toNat + x) * 3 + 2) 0#8)) =
      pixelPlane luma rgb width.toNat y x :=
    rfl
  simp only [inkPixel, pxEq, idxEq, bitEq, read, inkEq, paint_planeBrush]
  cases pixelPlane luma rgb width.toNat y x with
  | none => rfl
  | some plane =>
      cases plane with
      | red => simp [Option.map_eq_bind]
      | black => simp

/-- A loop that paints two planes side by side paints each of them. -/
theorem foldlM_paint_pair {Step : Type*} (steps : List Step)
    (pass : Bytes × Bytes → Step → Option (Bytes × Bytes))
    (first second : Step → Option (Nat × U8))
    (paints : ∀ step ∈ steps, ∀ planes, pass planes step =
      (paint [step] first planes.1).bind fun left =>
        (paint [step] second planes.2).map fun right => (left, right))
    (planes : Bytes × Bytes) :
    steps.foldlM pass planes =
      (paint steps first planes.1).bind fun left =>
        (paint steps second planes.2).map fun right => (left, right) := by
  induction steps generalizing planes with
  | nil => rfl
  | cons step steps ih =>
      obtain ⟨here, later⟩ := List.forall_mem_cons.mp paints
      rw [List.foldlM_cons, here, paint_cons step steps first,
        paint_cons step steps second]
      cases paint [step] first planes.1 with
      | none => rfl
      | some left =>
          cases paint [step] second planes.2 with
          | none => simp
          | some right => exact ih later (left, right)

/-- Both planes come out exact, and no write leaves them. -/
theorem rgbToPlanes_spec (luma : Luma) {rgb : Bytes} {width height : U32}
    (whole : 3 * (width.toNat * height.toNat) ≤ rgb.length)
    (small : 3 * (width.toNat * height.toNat) < 2 ^ 32) :
    ∃ red black,
      rgbToPlanes luma rgb width height =
        some (red, black, height,
          BitVec.ofNat 32 (divCeil width.toNat 8)) ∧
      PlaneHolds luma rgb width.toNat height.toNat .red red ∧
      PlaneHolds luma rgb width.toNat height.toNat .black black := by
  have widthBound := le_divCeil_mul width.toNat
  have strideBound : divCeil width.toNat 8 ≤ width.toNat := by
    simp only [divCeil]
    omega
  have planeBound : height.toNat * divCeil width.toNat 8 ≤
      width.toNat * height.toNat := by
    rw [Nat.mul_comm width.toNat]
    exact Nat.mul_le_mul_left _ strideBound
  have planeLen : (height * BitVec.ofNat 32 (divCeil width.toNat 8)).toNat =
      height.toNat * divCeil width.toNat 8 := by
    have := width.isLt
    rw [BitVec.toNat_mul, BitVec.toNat_ofNat,
      Nat.mod_eq_of_lt (by omega : divCeil width.toNat 8 < 2 ^ 32)]
    exact Nat.mod_eq_of_lt (by omega)
  have painted : ∀ ink, ∃ plane,
      paint (List.range height.toNat ×ˢ List.range width.toNat)
        (planeBrush luma rgb width.toNat ink)
        (List.replicate (height.toNat * divCeil width.toNat 8) 0#8) =
          some plane ∧
      PlaneHolds luma rgb width.toNat height.toNat ink plane := by
    intro ink
    obtain ⟨plane, run, lengthEq, dots⟩ := paintDots_spec height.toNat
      width.toNat (divCeil width.toNat 8)
      (fun y x => decide (pixelPlane luma rgb width.toNat y x = some ink)) id
      (fun x bound => by simp only [id]; omega)
    refine ⟨plane, run, lengthEq, ?_⟩
    intro y yBound x xBound
    simp only [dots y yBound x xBound, id, decide_eq_true_eq]
    constructor
    · rintro ⟨copied, bound, rfl, set⟩
      exact ⟨bound, set⟩
    · rintro ⟨bound, set⟩
      exact ⟨x, bound, rfl, set⟩
  obtain ⟨red, redRun, redHolds⟩ := painted .red
  obtain ⟨black, blackRun, blackHolds⟩ := painted .black
  refine ⟨red, black, ?_, redHolds, blackHolds⟩
  have passes := foldlM_paint_pair
    (List.range height.toNat ×ˢ List.range width.toNat)
    (inkPixel luma rgb width (BitVec.ofNat 32 (divCeil width.toNat 8)))
    (planeBrush luma rgb width.toNat .red)
    (planeBrush luma rgb width.toNat .black)
    (by
      rintro ⟨y, x⟩ member planes
      obtain ⟨yMember, xMember⟩ := List.mem_product.mp member
      exact inkPixel_eq luma whole small (List.mem_range.mp yMember)
        (List.mem_range.mp xMember) planes)
  simp only [rgbToPlanes, planeLen]
  rw [passes, redRun, blackRun]
  rfl

/-! ### Interleaving -/

/-- Bytes of a concatenation of pieces of one size. -/
theorem getD_flatMap_range {size count : Nat} {piece : Nat → Bytes}
    (full : ∀ index < count, (piece index).length = size)
    {index offset : Nat} (inside : index < count) (bounded : offset < size) :
    ((List.range count).flatMap piece).getD (index * size + offset) 0#8 =
      (piece index).getD offset 0#8 := by
  induction count with
  | zero => exact absurd inside (Nat.not_lt_zero _)
  | succ count ih =>
      have fullBefore : ∀ index < count, (piece index).length = size :=
        fun index bound => full index (Nat.lt_succ_of_lt bound)
      have done : ((List.range count).flatMap piece).length = count * size := by
        rw [List.length_flatMap, List.map_congr_left (by
          intro index member
          exact fullBefore index (List.mem_range.mp member))]
        simp
      rw [List.range_succ, List.flatMap_append]
      rcases Nat.lt_succ_iff_lt_or_eq.mp inside with earlier | rfl
      · rw [List.getD_append _ _ _ _ (by
          rw [done]
          calc
            index * size + offset < index * size + size := by omega
            _ ≤ count * size := rowEnd_le earlier size)]
        exact ih fullBefore earlier
      · rw [List.getD_append_right _ _ _ _ (by omega), done,
          Nat.add_sub_cancel_left]
        simp

theorem getD_take_drop (bytes : Bytes) {start size offset : Nat}
    (bounded : offset < size) :
    ((bytes.drop start).take size).getD offset 0#8 =
      bytes.getD (start + offset) 0#8 := by
  simp [List.getD_eq_getElem?_getD, bounded]

/-- Equal planes interleave to two lines a column, red before black. -/
theorem interleavePlanes_spec {red black : Bytes} {perLineByte cols : Nat}
    (redLength : red.length = cols * perLineByte)
    (blackLength : black.length = cols * perLineByte)
    (addressable : cols * perLineByte < 2 ^ 64) :
    ∃ interleaved,
      interleavePlanes red black perLineByte cols = some interleaved ∧
      ∀ col < cols, ∀ x < 8 * perLineByte,
        lsbDot interleaved perLineByte (2 * col) x =
            lsbDot red perLineByte col x ∧
          lsbDot interleaved perLineByte (2 * col + 1) x =
            lsbDot black perLineByte col x := by
  refine ⟨_, by
    rw [interleavePlanes, if_neg (Nat.not_le.mpr addressable), if_neg (by
      simp [redLength, blackLength])], ?_⟩
  intro col colBound x xBound
  have lineFull : ∀ plane : Bytes, plane.length = cols * perLineByte →
      ∀ index < cols, ((plane.drop (index * perLineByte)).take
        perLineByte).length = perLineByte := by
    intro plane length index bound
    exact length_row bound length.ge
  have columnFull : ∀ index < cols,
      ((red.drop (index * perLineByte)).take perLineByte ++
        (black.drop (index * perLineByte)).take perLineByte).length =
          2 * perLineByte := by
    intro index bound
    rw [List.length_append, lineFull red redLength index bound,
      lineFull black blackLength index bound, Nat.two_mul]
  have redFull := lineFull red redLength col colBound
  have byteBound : x / 8 < perLineByte := by omega
  have redIndex : 2 * col * perLineByte + x / 8 =
      col * (2 * perLineByte) + x / 8 := by
    ring
  have blackIndex : (2 * col + 1) * perLineByte + x / 8 =
      col * (2 * perLineByte) + (perLineByte + x / 8) := by
    ring
  constructor
  · rw [lsbDot, bitAt, redIndex, getD_flatMap_range columnFull colBound
      (by omega), List.getD_append _ _ _ _ (by rw [redFull]; exact byteBound),
      getD_take_drop _ byteBound]
    rfl
  · rw [lsbDot, bitAt, blackIndex, getD_flatMap_range columnFull colBound
      (by omega), List.getD_append_right _ _ _ _ (by rw [redFull]; omega),
      redFull, Nat.add_sub_cancel_left, getD_take_drop _ byteBound]
    rfl

end SupvanCups
