import SupvanCups.ContainFit
import SupvanCups.HeldJobs
import SupvanCups.MaterialRecords
import SupvanCups.TableLoading
import Mathlib.Tactic.FieldSimp
import Mathlib.Tactic.Ring

/-!
# One label, two paths

A raster page comes as large as the configuration of the printer makes it, at
the resolution of its family.  An image is put on a label at eight dots for
each millimetre, whatever the family.  The two pages have the same height, to
a millimetre, only where the resolution is close enough to 203.2 for the
length of the label.
-/

namespace SupvanCups

/-! ### The configuration of a printer -/

def minLabelMm : I32 := 10#32

structure PrinterConfig where
  name : String
  displayName : String
  driverName : String
  makeAndModel : String
  deviceId : String
  deviceUri : String
  dpi : I32
  printheadWidthDots : U32
  mediaNames : List String
  mediaSizes : List (I32 × I32)
  mediaSizeMin : I32 × I32
  mediaSizeMax : I32 × I32
  darkness : I32
  documentFormats : List String

def configFromFamily (families : List LoadedFamily)
    (name info driver uri deviceId : String) : Option PrinterConfig :=
  (families.find? fun f => f.driverName == driver).map fun family =>
    { name := name
      displayName := info
      driverName := driver
      makeAndModel := family.makeAndModel
      deviceId := deviceId
      deviceUri := uri
      dpi := family.dpi
      printheadWidthDots := family.printheadWidthDots
      mediaNames := family.mediaNames
      mediaSizes := family.mediaSizes
      mediaSizeMin := (minLabelMm * 100#32, minLabelMm * 100#32)
      mediaSizeMax :=
        (maxLabelWidthMm.setWidth 32 * 100#32,
          maxLabelLengthMm.setWidth 32 * 100#32)
      darkness := 50#32
      documentFormats :=
        ["image/pwg-raster", "application/vnd.cups-raster",
          "application/octet-stream", "image/jpeg"] }

/-! ### The page of an image -/

/-- The page of `run_jpeg_job`, for a decoded image.  `none` is a panic, at the
latest where a line of the page is outside the canvas. -/
def jpegCanvas (resize : GrayImage → Nat → Nat → Bytes) (img : GrayImage)
    (media : I32 × I32) (dots : U32) :
    Option (Except JobFailure LabelCanvas) := do
  let (canvas, labelW, labelH) ← fitLuma resize img media dots
  if labelW = 0#32 ∨ labelH = 0#32 then
    pure (.error (.other
      ("jpeg: empty label geometry from media_size [" ++
        toString media.1.toInt ++ ", " ++ toString media.2.toInt ++ "]")))
  else if full : canvas.length = labelW.toNat * labelH.toNat then
    pure (.ok ⟨labelW, labelH, canvas, full⟩)
  else
    none

/-- A label with dots, and with no more than 32 bits count. -/
structure PageFits (media : I32 × I32) (dots : U32) : Prop where
  wide : labelWidth media dots ≠ 0#32
  tall : labelHeight media ≠ 0#32
  small : (labelWidth media dots).toNat * (labelHeight media).toNat < 2 ^ 32

section Page

variable {resize : GrayImage → Nat → Nat → Bytes} {img : GrayImage}
variable {media : I32 × I32} {dots : U32}

theorem jpegCanvas_ok {canvas : LabelCanvas}
    (built : jpegCanvas resize img media dots = some (.ok canvas)) :
    canvas.height = labelHeight media ∧ PageFits media dots := by
  obtain ⟨⟨canvas', labelW, labelH⟩, fitted, rest⟩ :=
    Option.bind_eq_some_iff.mp built
  dsimp only at rest
  split at rest
  · cases rest
  · next label =>
      obtain ⟨wide, _⟩ := not_or.mp label
      obtain ⟨rfl, rfl, tall, length⟩ := fitLuma_size fitted wide
      split at rest
      · next full =>
          cases rest
          refine ⟨rfl, wide, tall, ?_⟩
          rw [← full, length]
          exact Nat.mod_lt _ (by decide)
      · cases rest

/-- An image with pixels gets a page on every label that fits. -/
theorem PageFits.exists_canvas (fits : PageFits media dots)
    (resizes : ∀ img w h, (resize img w h).length = w * h)
    (wide : img.width ≠ 0#32) (tall : img.height ≠ 0#32) :
    ∃ canvas, jpegCanvas resize img media dots = some (.ok canvas) := by
  obtain ⟨canvas, fitted, shown⟩ := exists_fitLuma resizes wide tall fits.wide
    fits.tall fits.small
  have label : ¬ (labelWidth media dots = 0#32 ∨ labelHeight media = 0#32) :=
    not_or.mpr ⟨fits.wide, fits.tall⟩
  have full := shown.length_eq.trans (Nat.mul_comm _ _)
  refine ⟨⟨_, _, canvas, full⟩, ?_⟩
  rw [jpegCanvas, fitted, Option.bind_eq_bind, Option.bind_some]
  simp only [if_neg label, dif_pos full]
  rfl

end Page

/-! ### Heights in dots -/

/-- The page of every image, on every label of a family, is within eight dots
of the label's height at the resolution that its printers advertise. -/
def HeightsMatch (resize : GrayImage → Nat → Nat → Bytes)
    (family : LoadedFamily) : Prop :=
  ∀ families name info uri deviceId config,
    families.find? (fun f : LoadedFamily => f.driverName == family.driverName) =
      some family →
    configFromFamily families name info family.driverName uri deviceId =
      some config →
    ∀ size ∈ config.mediaSizes, ∀ img canvas,
      jpegCanvas resize img size config.printheadWidthDots =
        some (.ok canvas) →
      |(canvas.page.header.height.toNat : ℚ) -
        size.2.toInt * config.dpi.toInt / 2540| ≤ 8

/-- A length of whole millimetres and hundredths comes out alike at eight dots
for each whole millimetre and at a resolution. -/
def HeightAgrees (dpi hmm : ℤ) : Prop :=
  |20 * (hmm / 100 * (1016 - 5 * dpi)) - hmm % 100 * dpi| ≤ 20320

/-- In whole millimetres a resolution takes lengths up to a bound. -/
theorem heightAgrees_whole_iff {dpi mm : ℤ} (positive : 0 ≤ mm) :
    HeightAgrees dpi (mm * 100) ↔ mm * |1016 - 5 * dpi| ≤ 1016 := by
  rw [HeightAgrees, Int.mul_ediv_cancel _ (by decide), Int.mul_emod_left,
    Int.zero_mul, Int.sub_zero, abs_mul, abs_mul, abs_of_nonneg positive]
  rw [abs_of_nonneg (by decide : (0 : ℤ) ≤ 20)]
  omega

theorem heightAgrees_iff {dpi hmm : ℤ} :
    HeightAgrees dpi hmm ↔
      |((hmm / 100 * 8 : ℤ) : ℚ) - hmm * dpi / 2540| ≤ 8 := by
  have parts : (hmm : ℚ) = 100 * (hmm / 100 : ℤ) + (hmm % 100 : ℤ) := by
    exact_mod_cast (Int.mul_ediv_add_emod hmm 100).symm
  have scaled : ((hmm / 100 * 8 : ℤ) : ℚ) - hmm * dpi / 2540 =
      ((20 * (hmm / 100 * (1016 - 5 * dpi)) - hmm % 100 * dpi : ℤ) : ℚ) /
        2540 := by
    rw [parts]
    push_cast
    ring
  rw [scaled, abs_div, abs_of_pos (by norm_num : (0 : ℚ) < 2540),
    div_le_iff₀ (by norm_num), HeightAgrees]
  norm_cast

section Match

variable {resize : GrayImage → Nat → Nat → Bytes}

theorem labelHeight_agrees_iff {media : I32 × I32}
    (tall : labelHeight media ≠ 0#32) (dpi : I32) :
    |((labelHeight media).toNat : ℚ) - media.2.toInt * dpi.toInt / 2540| ≤ 8 ↔
      HeightAgrees dpi.toInt media.2.toInt := by
  have dots : (labelHeight media).toNat = media.2.toInt.toNat / 100 * 8 :=
    labelDots_toNat media.2
  have positive := toNat_pos_of_ne_zero tall
  have whole : ((labelHeight media).toNat : ℤ) = media.2.toInt / 100 * 8 := by
    omega
  rw [heightAgrees_iff, ← whole, Int.cast_natCast]

/-- Where the heights match, every label with a page agrees with the
resolution: a black dot already shows it. -/
theorem HeightsMatch.agrees {family : LoadedFamily}
    (same : HeightsMatch resize family)
    (resizes : ∀ img w h, (resize img w h).length = w * h)
    {size : I32 × I32} (member : size ∈ family.mediaSizes)
    (fits : PageFits size family.printheadWidthDots) :
    HeightAgrees family.dpi.toInt size.2.toInt := by
  have page : ∃ canvas, jpegCanvas resize blackDot size
      family.printheadWidthDots = some (.ok canvas) :=
    fits.exists_canvas resizes (by decide) (by decide)
  obtain ⟨canvas, built⟩ := page
  have found : [family].find?
      (fun f => f.driverName == family.driverName) = some family := by
    simp
  have close := same [family] "" "" "" "" _ found
    (congrArg (Option.map _) found) size member blackDot canvas built
  rw [LabelCanvas.page, (jpegCanvas_ok built).1] at close
  exact (labelHeight_agrees_iff fits.tall _).mp close

/-- The pages of a family have the heights of its labels exactly when every
label with a page agrees with the resolution. -/
theorem heightsMatch_iff
    (resizes : ∀ img w h, (resize img w h).length = w * h)
    (family : LoadedFamily) :
    HeightsMatch resize family ↔
      ∀ size ∈ family.mediaSizes, PageFits size family.printheadWidthDots →
        HeightAgrees family.dpi.toInt size.2.toInt := by
  constructor
  · intro same size member fits
    exact same.agrees resizes member fits
  · intro agrees families name info uri deviceId config found configured
      size member img canvas built
    rw [configFromFamily, found] at configured
    cases configured
    obtain ⟨height, fits⟩ := jpegCanvas_ok built
    rw [LabelCanvas.page, height, labelHeight_agrees_iff fits.tall]
    exact agrees size member fits

end Match

/-! ### Two families -/

/-- A family of one media size, in whole millimetres. -/
def oneSizeFamily (driverName makeAndModel : String) (dpi : I32)
    (printheadDots : U32) (width height : I32) : LoadedFamily where
  driverName := driverName
  makeAndModel := makeAndModel
  dpi := dpi
  printheadWidthDots := printheadDots
  mediaNames := [mediaName (width, height)]
  mediaSizes := [(width * 100#32, height * 100#32)]

theorem heightsMatch_iff_t50 :
    HeightsMatch blackPicture
        (oneSizeFamily "supvan_t50" "Supvan T50 Series" 203#32 384#32 40#32
          30#32) ↔
      ∀ size ∈ [(4000#32, 3000#32)], PageFits size 384#32 →
        HeightAgrees (203#32).toInt size.2.toInt :=
  heightsMatch_iff blackPicture_length
    (oneSizeFamily "supvan_t50" "Supvan T50 Series" 203#32 384#32 40#32 30#32)

/-- At 305 dots per inch the page of a label of 30 millimetres is 240 dots
high, not 360. -/
theorem heightsMatch_tp76 :
    ¬ HeightsMatch blackPicture
      (oneSizeFamily "supvan_tp76" "Supvan TP76 Series" 305#32 912#32 76#32
        30#32) := by
  intro same
  have agrees := same.agrees blackPicture_length List.mem_cons_self
    ⟨by decide, by decide, by decide⟩
  have whole : (30#32 * 100#32 : I32).toInt = 30 * 100 := by decide
  rw [oneSizeFamily, whole, heightAgrees_whole_iff (by decide)] at agrees
  exact absurd agrees (by decide)

end SupvanCups
