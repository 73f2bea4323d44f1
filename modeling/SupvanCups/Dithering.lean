import SupvanCups.BitPacking
import Mathlib.Data.List.FinRange

/-!
# Halftoning grey lines

The printhead has no grey, so every line deeper than one bit is dithered: by
an ordered 4x4 matrix, or by a diffusion kernel that carries the error of each
dot to its neighbours in a ring of three rows.  The output is mirrored: dot 0
of the line ends up last.

The diffusion arithmetic is a parameter.  What is proved about it needs only
that black and white are exact.
-/

namespace SupvanCups

/-! ### Tables -/

/-- Thermal-compensated linearization of a grey value. -/
def srgbToLinear : List Nat :=
  [0, 50, 58, 63, 67, 70, 72, 74, 76, 78, 80, 82, 83, 85, 86, 88, 89, 90, 92,
   93, 95, 96, 97, 98, 100, 101, 102, 103, 105, 106, 107, 108, 109, 110, 112,
   113, 114, 115, 116, 117, 118, 119, 120, 121, 122, 123, 124, 125, 126, 127,
   128, 129, 130, 131, 132, 133, 134, 135, 135, 136, 137, 138, 139, 140, 141,
   142, 142, 143, 144, 145, 146, 147, 148, 148, 149, 150, 151, 152, 152, 153,
   154, 155, 156, 156, 157, 158, 159, 159, 160, 161, 162, 162, 163, 164, 165,
   165, 166, 167, 167, 168, 169, 170, 170, 171, 172, 172, 173, 174, 174, 175,
   176, 177, 177, 178, 179, 179, 180, 181, 181, 182, 183, 183, 184, 184, 185,
   186, 186, 187, 188, 188, 189, 190, 190, 191, 191, 192, 193, 193, 194, 195,
   195, 196, 196, 197, 198, 198, 199, 199, 200, 201, 201, 202, 202, 203, 203,
   204, 205, 205, 206, 206, 207, 207, 208, 209, 209, 210, 210, 211, 211, 212,
   213, 213, 214, 214, 215, 215, 216, 216, 217, 217, 218, 219, 219, 220, 220,
   221, 221, 222, 222, 223, 223, 224, 224, 225, 225, 226, 226, 227, 227, 228,
   228, 229, 230, 230, 231, 231, 232, 232, 233, 233, 234, 234, 235, 235, 236,
   236, 237, 237, 238, 238, 238, 239, 239, 240, 240, 241, 241, 242, 242, 243,
   243, 244, 244, 245, 245, 246, 246, 247, 247, 248, 248, 249, 249, 249, 250,
   250, 251, 251, 252, 252, 253, 253, 254, 254, 255, 255]

/-- The 4x4 ordered dither thresholds. -/
def bayer4 : List (List Nat) :=
  [[8, 136, 40, 168],
   [200, 72, 232, 104],
   [56, 184, 24, 152],
   [248, 120, 216, 88]]

inductive DitherMode
  | bayer
  | floydSteinberg
  | atkinson
  | vendor16

/-! ### Arithmetic -/

/-- The operations of `f32` that the diffusion uses. -/
class DitherFloat (F : Type) extends
    Add F, Sub F, Mul F, Div F, OfScientific F, LT F where
  /-- An integer as a float. -/
  asF32 : Nat → F
  /-- Round half away from zero. -/
  round : F → F

open DitherFloat (asF32)

section Arithmetic

variable {F : Type} [DitherFloat F] [DecidableLT F]

/-- `f32::clamp`. -/
def clampTo (low high value : F) : F :=
  if value < low then low else if high < value then high else value

structure Neighbour (F : Type) where
  dx : Int
  dy : Nat
  weight : F

abbrev Kernel (F : Type) := List (Neighbour F)

def floydSteinberg : Kernel F :=
  [⟨1, 0, asF32 7 / asF32 16⟩,
   ⟨-1, 1, asF32 3 / asF32 16⟩,
   ⟨0, 1, asF32 5 / asF32 16⟩,
   ⟨1, 1, asF32 1 / asF32 16⟩]

def atkinson : Kernel F :=
  [⟨1, 0, 0.125⟩, ⟨2, 0, 0.125⟩, ⟨-1, 1, 0.125⟩, ⟨0, 1, 0.125⟩,
   ⟨1, 1, 0.125⟩, ⟨0, 2, 0.125⟩]

def vendor : Kernel F :=
  [⟨1, 0, 0.3125⟩, ⟨-1, 1, 0.1875⟩, ⟨0, 1, 0.375⟩, ⟨1, 1, 0.0625⟩]

def vendorLevels : Nat := 16

def vendorInkThreshold : F := asF32 125

/-! ### The ditherer -/

/-- Rows of carried error the widest kernel needs. -/
abbrev errorRows : Nat := 3

/-- A ring of error rows. -/
abbrev ErrorRing (F : Type) (width : Nat) :=
  Fin errorRows → Fin width → F

/-- Halftones 8bpp lines to 1bpp, carrying error between rows. -/
structure Ditherer (F : Type) where
  mode : DitherMode
  width : Nat
  err : ErrorRing F width
  /-- The error row being consumed. -/
  row : Fin errorRows

def Ditherer.new (mode : DitherMode) (width : Nat) : Ditherer F where
  mode := mode
  width := width
  err := fun _ _ => asF32 0
  row := 0

/-- Where the dot for pixel `x` goes: byte and mask, mirrored. -/
def mirroredDot (width x : Nat) : Nat × U8 :=
  let mx := width - 1 - x
  (mx / 8, 0x80#8 >>> (mx % 8))

/-- Quantise to black or white, or to one of the vendor's grey levels, and
decide ink. -/
def quantise (isVendor : Bool) (value : F) : F × Bool :=
  if isVendor then
    let step : F := asF32 255 / asF32 (vendorLevels - 1)
    let level := clampTo (asF32 0) (asF32 (vendorLevels - 1))
      (DitherFloat.round (value / step))
    let grey := level * step
    (grey, decide (grey < vendorInkThreshold))
  else if value < (asF32 128 : F) then
    (asF32 0, true)
  else
    (asF32 255, false)

def ErrorRing.add {width : Nat} (ring : ErrorRing F width)
    (row : Fin errorRows) (x : Fin width) (error : F) : ErrorRing F width :=
  fun r i => if r = row ∧ i = x then ring r i + error else ring r i

/-- Give one neighbour its share of the error, if it lies on the page.  The
column is an `i32` sum. -/
def spread {width : Nat} (row : Fin errorRows) (x : Fin width) (error : F)
    (ring : ErrorRing F width) (n : Neighbour F) : ErrorRing F width :=
  let nx := (BitVec.ofNat 32 x + BitVec.ofInt 32 n.dx).toInt
  if nx < 0 then ring
  else if inside : nx.toNat < width then
    ring.add (row + Fin.ofNat errorRows n.dy) ⟨nx.toNat, inside⟩
      (error * n.weight)
  else ring

def sourceValue (isVendor : Bool) (pixel : U8) : Nat :=
  if isVendor then pixel.toNat else srgbToLinear.getD pixel.toNat 0

/-- Diffuse one pixel: place its dot and spread its error. -/
def diffusePixel {width : Nat} (kernel : Kernel F) (isVendor : Bool)
    (row : Fin errorRows) (line : Bytes) (state : ErrorRing F width × Bytes)
    (x : Fin width) : Option (ErrorRing F width × Bytes) := do
  let source := sourceValue isVendor (line.getD x 0#8)
  let value := asF32 source + state.1 row x
  let (quantised, inked) := quantise isVendor value
  let dot := mirroredDot width x
  let mono ← if inked then orMask state.2 dot.1 dot.2 else some state.2
  let error := value - quantised
  pure (kernel.foldl (spread row x error) state.1, mono)

def DitherMode.kernel : DitherMode → Option (Kernel F × Bool)
  | .bayer => none
  | .floydSteinberg => some (SupvanCups.floydSteinberg, false)
  | .atkinson => some (SupvanCups.atkinson, false)
  | .vendor16 => some (vendor, true)

/-- Dither one line to 1bpp, most significant bit first, mirrored.  `none` is a
dot outside `mono`. -/
def Ditherer.line (d : Ditherer F) (line : Bytes) (y : Nat) (mono : Bytes) :
    Option (Ditherer F × Bytes) :=
  let pixels := (List.finRange d.width).take line.length
  match (d.mode.kernel : Option (Kernel F × Bool)) with
  | none =>
      let bayerRow := bayer4.getD (y % 4) []
      (paint pixels (fun x =>
        if srgbToLinear.getD (line.getD x 0#8).toNat 0 <
            bayerRow.getD ((d.width - 1 - x) % 4) 0 then
          some (mirroredDot d.width x)
        else
          none) mono).map fun mono => (d, mono)
  | some (kernel, isVendor) =>
      (pixels.foldlM (diffusePixel kernel isVendor d.row line)
        (d.err, mono)).map fun (err, mono) =>
          -- This row is spent; it serves as the far future row.
          ({ d with
              err := fun r x => if r = d.row then (asF32 0 : F) else err r x
              row := d.row + 1 }, mono)

/-- Flatten a contone line to 8-bit grey of exactly `width` bytes. -/
def toGrayLine (bitsPerPixel : Nat) (line : Bytes) (width : Nat) :
    Option Bytes :=
  match bitsPerPixel with
  | 8 =>
      if width ≤ line.length then some (line.take width)
      else some (line ++ List.replicate (width - line.length) 0xFF#8)
  | 24 => some ((List.range width).map fun x =>
      match line.drop (x * 3) with
      | r :: g :: b :: _ =>
          BitVec.ofNat 8
            ((r.toNat * 2126 + g.toNat * 7152 + b.toNat * 722) / 10000)
      | _ => 0xFF#8)
  | _ => none

/-- Grey in all three channels is that grey. -/
theorem luma_grey (grey : U8) :
    BitVec.ofNat 8 ((grey.toNat * 2126 + grey.toNat * 7152 +
      grey.toNat * 722) / 10000) = grey := by
  have luma : (grey.toNat * 2126 + grey.toNat * 7152 + grey.toNat * 722) /
      10000 = grey.toNat := by
    omega
  rw [luma, BitVec.ofNat_toNat, BitVec.setWidth_eq]

/-! ### Black and white lines -/

/-- What the diffusion of black and white pixels computes is exact.  Every
number here is a small integer or a product with zero, so this holds of
`f32`. -/
class ExactOnBilevel (F : Type) [DitherFloat F] : Prop where
  black_add : (asF32 0 : F) + asF32 0 = asF32 0
  white_add : (asF32 255 : F) + asF32 0 = asF32 255
  black_sub : (asF32 0 : F) - asF32 0 = asF32 0
  white_sub : (asF32 255 : F) - asF32 255 = asF32 0
  black_below : (asF32 0 : F) < asF32 128
  white_above : ¬ (asF32 255 : F) < asF32 128
  step : (asF32 255 : F) / asF32 15 = asF32 17
  black_level : (asF32 0 : F) / asF32 17 = asF32 0
  white_level : (asF32 255 : F) / asF32 17 = asF32 15
  round_zero : DitherFloat.round (asF32 0 : F) = asF32 0
  round_fifteen : DitherFloat.round (asF32 15 : F) = asF32 15
  zero_not_lt : ¬ (asF32 0 : F) < asF32 0
  fifteen_not_lt : ¬ (asF32 15 : F) < asF32 15
  fifteen_not_neg : ¬ (asF32 15 : F) < asF32 0
  black_grey : (asF32 0 : F) * asF32 17 = asF32 0
  white_grey : (asF32 15 : F) * asF32 17 = asF32 255
  black_inked : (asF32 0 : F) < asF32 125
  white_blank : ¬ (asF32 255 : F) < asF32 125
  /-- No share of no error is an error. -/
  no_share : ∀ kernel ∈ [floydSteinberg, atkinson, vendor],
    ∀ n ∈ (kernel : Kernel F), (asF32 0 : F) * n.weight = (asF32 0 : F)

instance : DitherFloat Rat where
  asF32 n := n
  round q :=
    if q < 0 then -((-q + 1 / 2).floor : Rat) else ((q + 1 / 2).floor : Rat)

instance : ExactOnBilevel Rat where
  black_add := by decide +kernel
  white_add := by decide +kernel
  black_sub := by decide +kernel
  white_sub := by decide +kernel
  black_below := by decide +kernel
  white_above := by decide +kernel
  step := by decide +kernel
  black_level := by decide +kernel
  white_level := by decide +kernel
  round_zero := by decide +kernel
  round_fifteen := by decide +kernel
  zero_not_lt := by decide +kernel
  fifteen_not_lt := by decide +kernel
  fifteen_not_neg := by decide +kernel
  black_grey := by decide +kernel
  white_grey := by decide +kernel
  black_inked := by decide +kernel
  white_blank := by decide +kernel
  no_share := fun _ _ n _ => Rat.zero_mul n.weight

def bilevelPixel (ink : Bool) : U8 :=
  if ink then 0x00#8 else 0xFF#8

def cleanRing (width : Nat) : ErrorRing F width :=
  fun _ _ => (asF32 0 : F)

variable [ExactOnBilevel F]

open ExactOnBilevel

theorem sourceValue_bilevel (isVendor ink : Bool) :
    sourceValue isVendor (bilevelPixel ink) = if ink then 0 else 255 := by
  cases isVendor <;> cases ink <;> decide

theorem quantise_black (isVendor : Bool) :
    quantise isVendor (asF32 0 : F) = (asF32 0, true) := by
  cases isVendor with
  | false => simp [quantise, black_below]
  | true =>
      simp only [quantise, vendorLevels, Nat.reduceSub, step, black_level,
        ExactOnBilevel.round_zero, clampTo, zero_not_lt, fifteen_not_neg,
        if_false, if_true, black_grey, vendorInkThreshold, black_inked,
        decide_true]

theorem quantise_white (isVendor : Bool) :
    quantise isVendor (asF32 255 : F) = (asF32 255, false) := by
  cases isVendor with
  | false => simp [quantise, white_above]
  | true =>
      simp only [quantise, vendorLevels, Nat.reduceSub, step, white_level,
        round_fifteen, clampTo, fifteen_not_neg, fifteen_not_lt, if_false,
        if_true, white_grey, vendorInkThreshold, white_blank, decide_false]

omit [DecidableLT F] in
/-- Spreading no error leaves a ring without error. -/
theorem foldl_spread_clean {width : Nat} {kernel : Kernel F}
    (share : ∀ n ∈ kernel, (asF32 0 : F) * n.weight = (asF32 0 : F))
    (row : Fin errorRows) (x : Fin width) :
    kernel.foldl (spread row x (asF32 0 : F)) (cleanRing width) =
      cleanRing width := by
  induction kernel with
  | nil => rfl
  | cons n kernel ih =>
      obtain ⟨first, rest⟩ := List.forall_mem_cons.mp share
      have unchanged : spread row x (asF32 0 : F) (cleanRing width) n =
          cleanRing width := by
        simp only [spread]
        split
        · rfl
        split
        · funext r i
          simp [ErrorRing.add, cleanRing, first, black_add]
        · rfl
      rw [List.foldl_cons, unchanged, ih rest]

def inkBrush (width : Nat) (ink : Nat → Bool) (x : Fin width) :
    Option (Nat × U8) :=
  if ink x then some (mirroredDot width x) else none

/-- A black pixel places its dot, a white one does not, and neither leaves an
error. -/
theorem diffusePixel_bilevel {width : Nat} {kernel : Kernel F}
    (share : ∀ n ∈ kernel, (asF32 0 : F) * n.weight = asF32 0)
    (isVendor : Bool) (row : Fin errorRows) (line mono : Bytes)
    (x : Fin width) {ink : Nat → Bool}
    (pixel : line.getD x 0#8 = bilevelPixel (ink x)) :
    diffusePixel kernel isVendor row line (cleanRing width, mono) x =
      (paint [x] (inkBrush width ink) mono).map fun mono =>
        (cleanRing width, mono) := by
  have value : (asF32 (if ink x then 0 else 255) : F) + cleanRing width row x =
      asF32 (if ink x then 0 else 255) := by
    cases ink x
    · exact white_add
    · exact black_add
  unfold diffusePixel
  rw [pixel, sourceValue_bilevel]
  simp only [value]
  cases inked : ink x with
  | false =>
      simp [quantise_white, white_sub, foldl_spread_clean share, paint,
        inkBrush, inked]
  | true =>
      simp [quantise_black, black_sub, foldl_spread_clean share, paint,
        inkBrush, inked, Option.map_eq_bind]

theorem foldlM_diffusePixel_bilevel {width : Nat} {kernel : Kernel F}
    (share : ∀ n ∈ kernel, (asF32 0 : F) * n.weight = asF32 0)
    (isVendor : Bool) (row : Fin errorRows) {line : Bytes}
    {ink : Nat → Bool} {pixels : List (Fin width)}
    (bilevel : ∀ x ∈ pixels, line.getD x 0#8 = bilevelPixel (ink x))
    (mono : Bytes) :
    pixels.foldlM (diffusePixel kernel isVendor row line)
        (cleanRing width, mono) =
      (paint pixels (inkBrush width ink) mono).map fun mono =>
        (cleanRing width, mono) := by
  induction pixels generalizing mono with
  | nil => rfl
  | cons x pixels ih =>
      obtain ⟨here, later⟩ := List.forall_mem_cons.mp bilevel
      rw [List.foldlM_cons, diffusePixel_bilevel share _ _ _ _ _ here,
        paint_cons x pixels]
      cases paint [x] (inkBrush width ink) mono with
      | none => rfl
      | some mono => exact ih later mono

def Ditherer.Clean (d : Ditherer F) : Prop :=
  d.err = cleanRing d.width

omit [DecidableLT F] [ExactOnBilevel F] in
theorem Ditherer.new_clean (mode : DitherMode) (width : Nat) :
    (Ditherer.new mode width : Ditherer F).Clean :=
  rfl

/-- Black lies below every threshold of the matrix, and white above. -/
theorem bayer4_bilevel (y column : Nat) (ink : Bool) :
    srgbToLinear.getD (bilevelPixel ink).toNat 0 <
        (bayer4.getD (y % 4) []).getD (column % 4) 0 ↔ ink = true := by
  have rowBound : y % 4 < 4 := Nat.mod_lt _ (by decide)
  have columnBound : column % 4 < 4 := Nat.mod_lt _ (by decide)
  have checked : ∀ r < 4, ∀ c < 4, ∀ ink : Bool,
      srgbToLinear.getD (bilevelPixel ink).toNat 0 <
        (bayer4.getD r []).getD c 0 ↔ ink = true := by
    decide
  exact checked _ rowBound _ columnBound ink

omit [DecidableLT F] in
theorem DitherMode.kernel_share {mode : DitherMode} {kernel : Kernel F}
    {isVendor : Bool} (chosen : mode.kernel = some (kernel, isVendor)) :
    ∀ n ∈ kernel, (asF32 0 : F) * n.weight = asF32 0 := by
  apply no_share
  cases mode <;> simp [DitherMode.kernel] at chosen <;> simp [chosen]

/-- In every mode a black-and-white line puts down exactly its ink, mirrored,
and leaves no error for later lines. -/
theorem Ditherer.line_bilevel {d : Ditherer F} (clean : d.Clean)
    (line : Bytes) (full : d.width ≤ line.length) (ink : Nat → Bool)
    (bilevel : ∀ x < d.width, line.getD x 0#8 = bilevelPixel (ink x))
    (y : Nat) (mono : Bytes) :
    ∃ next : Ditherer F, next.Clean ∧ next.width = d.width ∧
      d.line line y mono =
        (paint (List.finRange d.width) (inkBrush d.width ink) mono).map
          fun mono => (next, mono) := by
  have allPixels : (List.finRange d.width).take line.length =
      List.finRange d.width :=
    List.take_of_length_le (by simpa using full)
  have pixels : ∀ x ∈ List.finRange d.width,
      line.getD x 0#8 = bilevelPixel (ink x) :=
    fun x _ => bilevel x x.isLt
  unfold Ditherer.line
  simp only [allPixels]
  split
  · refine ⟨d, clean, rfl, ?_⟩
    congr 1
    refine paint_congr (fun x member => ?_) mono
    simp only [pixels x member, bayer4_bilevel, inkBrush]
  · next kernel isVendor chosen =>
      refine ⟨⟨d.mode, d.width, cleanRing d.width, d.row + 1⟩, rfl, rfl, ?_⟩
      rw [clean, foldlM_diffusePixel_bilevel (DitherMode.kernel_share chosen)
        isVendor d.row pixels mono]
      have spent : (fun r x => if r = d.row then (asF32 0 : F) else
          cleanRing d.width r x) = cleanRing d.width := by
        funext r x
        simp [cleanRing]
      simp [Function.comp_def, spent]

end Arithmetic

end SupvanCups
