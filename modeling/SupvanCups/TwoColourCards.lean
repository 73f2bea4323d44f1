import SupvanCups.ColourPlanes
import SupvanCups.GreyTestImages

/-!
# Two-colour test cards

One card has a thick red bar above a thin black one, the other red and black
stripes side by side across the head.  Only a printer that burns two planes can
print the stripes, because every printed line of them needs both colours; a
line of the bars never does.
-/

namespace SupvanCups

inductive CardPattern
  | bars
  | stripes
  deriving DecidableEq

abbrev Rgb := U8 × U8 × U8

def rgbRed : Rgb := (255#8, 0#8, 0#8)
def rgbBlack : Rgb := (0#8, 0#8, 0#8)
def rgbWhite : Rgb := (255#8, 255#8, 255#8)

/-- A pixel of a test card: its row, its column and its colour. -/
abbrev CardDot := (Nat × Nat) × Rgb

/-- `rgb[px..px + 3].copy_from_slice(&colour)`. -/
def copyPixel (rgb : Bytes) : CardDot → Option Bytes
  | ((y, x), (r, g, b)) =>
      copyInto rgb ((y * printheadWidthDots + x) * 3 % 2 ^ 32) [r, g, b]

/-- A white image of the given height, with some pixels copied into it. -/
def drawCard (height : Nat) (dots : List CardDot) :
    Option (Bytes × Nat × Nat) :=
  let width := printheadWidthDots
  (dots.foldlM copyPixel
    (List.replicate (width * height * 3 % 2 ^ 32) 255#8)).map
      fun rgb => (rgb, width, height)

/-! ### Bars -/

/-- The colour of a row: red in the upper third, black in the lower half. -/
def barsColour (height y : Nat) : Rgb :=
  if height / 10 ≤ y ∧ y < height * 4 % 2 ^ 32 / 10 then rgbRed
  else if height * 6 % 2 ^ 32 / 10 ≤ y ∧ y < height * 3 % 2 ^ 32 / 4 then
    rgbBlack
  else rgbWhite

def barsRow (labelWidthMm : U32) (height y : Nat) : List CardDot :=
  let colour := barsColour height y
  if colour = rgbWhite then []
  else
    (List.range' (centredOffset labelWidthMm)
      (centredWidthDots labelWidthMm)).map fun x => ((y, x), colour)

def createTwoColourCard (labelWidthMm heightMm : U32) :
    Option (Bytes × Nat × Nat) :=
  let height := dotsOfMm heightMm
  drawCard height ((List.range height).flatMap (barsRow labelWidthMm height))

/-! ### Stripes -/

def stripeCount : Nat := 4

/-- Unprinted dots after each stripe. -/
def alleyDots : Nat := 4

def stripeDots (labelWidthMm : U32) : Nat :=
  centredWidthDots labelWidthMm / stripeCount

def stripeStart (labelWidthMm : U32) (s : Nat) : Nat :=
  centredOffset labelWidthMm + s * stripeDots labelWidthMm

def stripeColour (s : Nat) : Rgb :=
  if s % 2 = 0 then rgbRed else rgbBlack

def stripeRow (labelWidthMm : U32) (y : Nat) : List CardDot :=
  (List.range stripeCount).flatMap fun s =>
    (List.range' (stripeStart labelWidthMm s)
      (stripeDots labelWidthMm - alleyDots)).map
        fun x => ((y, x), stripeColour s)

def stripeRows (height : Nat) : List Nat :=
  List.range' (height / 6) (height * 5 % 2 ^ 32 / 6 - height / 6)

def createTwoColourStripes (labelWidthMm heightMm : U32) :
    Option (Bytes × Nat × Nat) :=
  let height := dotsOfMm heightMm
  drawCard height ((stripeRows height).flatMap (stripeRow labelWidthMm))

def createTwoColourPattern (labelWidthMm heightMm : U32) :
    CardPattern → Option (Bytes × Nat × Nat)
  | .bars => createTwoColourCard labelWidthMm heightMm
  | .stripes => createTwoColourStripes labelWidthMm heightMm

/-! ### The pixels of a card -/

def pixelAt (rgb : Bytes) (y x : Nat) : Rgb :=
  let px := (y * printheadWidthDots + x) * 3
  (rgb.getD px 0#8, rgb.getD (px + 1) 0#8, rgb.getD (px + 2) 0#8)

theorem pixelPlane_eq (luma : Luma) (rgb : Bytes) (y x : Nat) :
    pixelPlane luma rgb printheadWidthDots y x =
      classify (luma (pixelAt rgb y x).1 (pixelAt rgb y x).2.1
        (pixelAt rgb y x).2.2) :=
  rfl

section Pixels

variable {height : Nat} {rgb painted : Bytes}

/-- The image has its size, and every pixel of it is in range of `u32`. -/
structure CardSized (height : Nat) (rgb : Bytes) : Prop where
  length_eq : rgb.length = printheadWidthDots * height * 3
  small : printheadWidthDots * height * 3 < 2 ^ 32

theorem pixel_end_le {y x : Nat} (yBound : y < height)
    (xBound : x < printheadWidthDots) :
    (y * printheadWidthDots + x) * 3 + 3 ≤ printheadWidthDots * height * 3 := by
  have rows : (y + 1) * printheadWidthDots ≤ height * printheadWidthDots :=
    Nat.mul_le_mul_right _ yBound
  have order := Nat.mul_comm height printheadWidthDots
  rw [Nat.succ_mul] at rows
  omega

theorem pixel_index_ne {y x otherY otherX : Nat}
    (xBound : x < printheadWidthDots) (otherBound : otherX < printheadWidthDots)
    (apart : (otherY, otherX) ≠ (y, x)) :
    otherY * printheadWidthDots + otherX ≠ y * printheadWidthDots + x := by
  intro same
  have positive : 0 < printheadWidthDots := by decide
  have row : otherY = y := by
    have quotient := congrArg (· / printheadWidthDots) same
    simpa [Nat.mul_add_div, Nat.mul_comm _ printheadWidthDots, positive,
      Nat.div_eq_of_lt xBound, Nat.div_eq_of_lt otherBound] using quotient
  subst row
  exact apart (by rw [Nat.add_left_cancel same])

/-- Copying a pixel changes it and no other. -/
theorem copyPixel_spec (sized : CardSized height rgb) {y x : Nat}
    (yBound : y < height) (xBound : x < printheadWidthDots) (colour : Rgb) :
    ∃ painted, copyPixel rgb ((y, x), colour) = some painted ∧
      CardSized height painted ∧ pixelAt painted y x = colour ∧
      ∀ otherY otherX, otherX < printheadWidthDots →
        (otherY, otherX) ≠ (y, x) →
          pixelAt painted otherY otherX = pixelAt rgb otherY otherX := by
  obtain ⟨r, g, b⟩ := colour
  have ends := pixel_end_le yBound xBound
  have small := sized.small
  have fits : (y * printheadWidthDots + x) * 3 + [r, g, b].length ≤
      rgb.length := by
    rw [sized.length_eq]
    exact ends
  obtain ⟨painted, copied, sameLength⟩ := copyInto_of_fits fits
  have run : copyPixel rgb ((y, x), (r, g, b)) = some painted := by
    rw [copyPixel, Nat.mod_eq_of_lt (by omega)]
    exact copied
  have inside (index : Nat) (bound : index < 3) :
      painted.getD ((y * printheadWidthDots + x) * 3 + index) 0#8 =
        [r, g, b].getD index 0#8 := by
    have same := copyInto_inside copied (show index < [r, g, b].length from
      bound)
    rw [List.getD_eq_getElem?_getD, List.getD_eq_getElem?_getD, same]
  refine ⟨painted, run, ⟨sameLength.trans sized.length_eq, small⟩, ?_, ?_⟩
  · exact Prod.ext (inside 0 (by decide))
      (Prod.ext (inside 1 (by decide)) (inside 2 (by decide)))
  · intro otherY otherX otherBound apart
    have differ := pixel_index_ne xBound otherBound apart
    have elsewhere (index : Nat) (bound : index < 3) :
        painted.getD ((otherY * printheadWidthDots + otherX) * 3 + index) 0#8 =
          rgb.getD ((otherY * printheadWidthDots + otherX) * 3 + index)
            0#8 := by
      rw [List.getD_eq_getElem?_getD, List.getD_eq_getElem?_getD,
        copyInto_elsewhere copied]
      simp only [List.length_cons, List.length_nil]
      omega
    exact Prod.ext (elsewhere 0 (by decide))
      (Prod.ext (elsewhere 1 (by decide)) (elsewhere 2 (by decide)))

/-- The dots of a card are on the head, and have the colour of their place. -/
structure DotsAgree (height : Nat) (colourOf : Nat → Nat → Rgb)
    (dots : List CardDot) : Prop where
  row : ∀ dot ∈ dots, dot.1.1 < height
  column : ∀ dot ∈ dots, dot.1.2 < printheadWidthDots
  colour : ∀ dot ∈ dots, dot.2 = colourOf dot.1.1 dot.1.2

/-- All dots of a card are copied, and nothing else changes. -/
theorem copyPixels_spec {colourOf : Nat → Nat → Rgb} {dots : List CardDot}
    (agree : DotsAgree height colourOf dots) (sized : CardSized height rgb) :
    ∃ painted, dots.foldlM copyPixel rgb = some painted ∧
      CardSized height painted ∧
      ∀ y x, x < printheadWidthDots →
        ((y, x) ∈ dots.map Prod.fst → pixelAt painted y x = colourOf y x) ∧
        ((y, x) ∉ dots.map Prod.fst →
          pixelAt painted y x = pixelAt rgb y x) := by
  induction dots generalizing rgb with
  | nil => exact ⟨rgb, rfl, sized, fun y x _ => by simp⟩
  | cons dot dots ih =>
      obtain ⟨⟨y, x⟩, colour⟩ := dot
      obtain ⟨rowHere, rows⟩ := List.forall_mem_cons.mp agree.row
      obtain ⟨columnHere, columns⟩ := List.forall_mem_cons.mp agree.column
      obtain ⟨colourHere, colours⟩ := List.forall_mem_cons.mp agree.colour
      obtain ⟨next, here, nextSized, copied, kept⟩ :=
        copyPixel_spec sized rowHere columnHere colour
      obtain ⟨painted, rest, paintedSized, spec⟩ :=
        ih ⟨rows, columns, colours⟩ nextSized
      refine ⟨painted, by rw [List.foldlM_cons, here]; exact rest,
        paintedSized, fun otherY otherX bound => ?_⟩
      obtain ⟨inRest, notInRest⟩ := spec otherY otherX bound
      by_cases later : (otherY, otherX) ∈ dots.map Prod.fst
      · simp [later, inRest later]
      · rw [List.map_cons, List.mem_cons, notInRest later]
        constructor
        · rintro (same | isLater)
          · obtain ⟨rfl, rfl⟩ := Prod.mk.inj same
            exact copied.trans colourHere
          · exact absurd isLater later
        · intro absent
          exact kept otherY otherX bound fun same => absent (.inl same)

/-- What a drawn card shows. -/
theorem drawCard_spec {colourOf : Nat → Nat → Rgb} {dots : List CardDot}
    (agree : DotsAgree height colourOf dots)
    (small : printheadWidthDots * height * 3 < 2 ^ 32) :
    ∃ rgb, drawCard height dots = some (rgb, printheadWidthDots, height) ∧
      CardSized height rgb ∧
      ∀ y < height, ∀ x < printheadWidthDots,
        ((y, x) ∈ dots.map Prod.fst → pixelAt rgb y x = colourOf y x) ∧
        ((y, x) ∉ dots.map Prod.fst → pixelAt rgb y x = rgbWhite) := by
  have sized : CardSized height (List.replicate
      (printheadWidthDots * height * 3 % 2 ^ 32) 255#8) :=
    ⟨by rw [List.length_replicate, Nat.mod_eq_of_lt small], small⟩
  obtain ⟨rgb, run, rgbSized, spec⟩ := copyPixels_spec agree sized
  refine ⟨rgb, by rw [drawCard, run]; rfl, rgbSized, ?_⟩
  intro y yBound x xBound
  refine ⟨(spec y x xBound).1, fun absent => ?_⟩
  rw [(spec y x xBound).2 absent]
  have ends := pixel_end_le yBound xBound
  have white (index : Nat) (bound : index < 3) : (List.replicate
      (printheadWidthDots * height * 3 % 2 ^ 32) 255#8).getD
        ((y * printheadWidthDots + x) * 3 + index) 0#8 = 255#8 := by
    rw [Nat.mod_eq_of_lt small, List.getD_replicate _ (by omega)]
  exact Prod.ext (white 0 (by decide))
    (Prod.ext (white 1 (by decide)) (white 2 (by decide)))

end Pixels

/-! ### The planes of a card -/

/-- The red and the black plane that a card is printed from. -/
def cardPlanes (luma : Luma) (labelWidthMm heightMm : U32)
    (pattern : CardPattern) : Option (Bytes × Bytes) := do
  let (rgb, width, height) ←
    createTwoColourPattern labelWidthMm heightMm pattern
  let (red, black, _, _) ←
    rgbToPlanes luma rgb (BitVec.ofNat 32 width) (BitVec.ofNat 32 height)
  some (red, black)

/-- Pure red, black and white fall into the three classes that they are
named after. -/
structure TellsColours (luma : Luma) : Prop where
  red : classify (luma 255#8 0#8 0#8) = some .red
  black : classify (luma 0#8 0#8 0#8) = some .black
  white : classify (luma 255#8 255#8 255#8) = none

/-- Dot `x` of printed line `y`. -/
def planeDot (plane : Bytes) (y x : Nat) : Prop :=
  lsbDot plane printheadBytesPerLine y x = true

section Planes

variable {luma : Luma} {labelWidthMm heightMm : U32} {pattern : CardPattern}

/-- A card drawn in the three colours has its red pixels in the red plane and
its black ones in the black plane. -/
theorem cardPlanes_spec (tells : TellsColours luma) {height : Nat} {rgb : Bytes}
    (drawn : createTwoColourPattern labelWidthMm heightMm pattern =
      some (rgb, printheadWidthDots, height))
    (sized : CardSized height rgb)
    (colours : ∀ y < height, ∀ x < printheadWidthDots,
      pixelAt rgb y x = rgbRed ∨ pixelAt rgb y x = rgbBlack ∨
        pixelAt rgb y x = rgbWhite) :
    ∃ red black, cardPlanes luma labelWidthMm heightMm pattern =
        some (red, black) ∧
      ∀ y < height, ∀ x < printheadWidthDots,
        (planeDot red y x ↔ pixelAt rgb y x = rgbRed) ∧
        (planeDot black y x ↔ pixelAt rgb y x = rgbBlack) := by
  have widthEq : (BitVec.ofNat 32 printheadWidthDots).toNat =
    printheadWidthDots := rfl
  have small := sized.small
  have positive : 0 < printheadWidthDots := by decide
  have heightEq : (BitVec.ofNat 32 height).toNat = height := by
    rw [BitVec.toNat_ofNat]
    apply Nat.mod_eq_of_lt
    have : height ≤ printheadWidthDots * height :=
      Nat.le_mul_of_pos_left height positive
    omega
  have whole : 3 * ((BitVec.ofNat 32 printheadWidthDots).toNat *
      (BitVec.ofNat 32 height).toNat) ≤ rgb.length := by
    rw [widthEq, heightEq, sized.length_eq, Nat.mul_comm 3]
  obtain ⟨red, black, split, redHolds, blackHolds⟩ :=
    rgbToPlanes_spec luma whole (by rw [widthEq, heightEq]; omega)
  refine ⟨red, black, by simp [cardPlanes, drawn, split], ?_⟩
  rw [widthEq, heightEq] at redHolds blackHolds
  have bytes : divCeil printheadWidthDots 8 = printheadBytesPerLine := by decide
  have bits : 8 * divCeil printheadWidthDots 8 = printheadWidthDots := by decide
  intro y yBound x xBound
  have redDot := redHolds.dots y yBound x (by rw [bits]; exact xBound)
  have blackDot := blackHolds.dots y yBound x (by rw [bits]; exact xBound)
  rw [bytes, pixelPlane_eq] at redDot blackDot
  rw [planeDot, planeDot, redDot, blackDot]
  rcases colours y yBound x xBound with same | same | same
  · simp [same, rgbRed, rgbBlack, tells.red, xBound]
  · simp [same, rgbRed, rgbBlack, tells.black, xBound]
  · simp [same, rgbRed, rgbBlack, rgbWhite, tells.white]

end Planes

/-! ### Bars -/

def OnLabel (labelWidthMm : U32) (x : Nat) : Prop :=
  centredOffset labelWidthMm ≤ x ∧
    x < centredOffset labelWidthMm + centredWidthDots labelWidthMm

/-- The bars are solid lines across the label, red above black with blank lines
between them. -/
structure BarsApart (labelWidthMm : U32) (height : Nat) (red black : Bytes) :
    Prop where
  red_iff : ∀ y < height, ∀ x < printheadWidthDots,
    planeDot red y x ↔ OnLabel labelWidthMm x ∧
      height / 10 ≤ y ∧ y < height * 4 / 10
  black_iff : ∀ y < height, ∀ x < printheadWidthDots,
    planeDot black y x ↔ OnLabel labelWidthMm x ∧
      height * 6 / 10 ≤ y ∧ y < height * 3 / 4
  /-- No line needs both colours. -/
  apart : ∀ redLine < height, ∀ blackLine < height,
    ∀ redX < printheadWidthDots, ∀ blackX < printheadWidthDots,
      planeDot red redLine redX → planeDot black blackLine blackX →
        redLine < blackLine

/-- Dot `x` is in a stripe of an even or of an odd number. -/
def InStripe (labelWidthMm : U32) (parity x : Nat) : Prop :=
  ∃ s < stripeCount, s % 2 = parity ∧ stripeStart labelWidthMm s ≤ x ∧
    x < stripeStart labelWidthMm s + (stripeDots labelWidthMm - alleyDots)

/-- The stripes are on the same lines, alternate across the label, and keep
blank dots between them. -/
structure StripesTogether (labelWidthMm : U32) (height : Nat)
    (red black : Bytes) : Prop where
  red_iff : ∀ y < height, ∀ x < printheadWidthDots,
    planeDot red y x ↔ (height / 6 ≤ y ∧ y < height * 5 / 6) ∧
      InStripe labelWidthMm 0 x
  black_iff : ∀ y < height, ∀ x < printheadWidthDots,
    planeDot black y x ↔ (height / 6 ≤ y ∧ y < height * 5 / 6) ∧
      InStripe labelWidthMm 1 x
  /-- Wherever there is ink on a line, both planes have some. -/
  together : ∀ y < height, ∀ x < printheadWidthDots,
    planeDot red y x ∨ planeDot black y x →
      (∃ redX < printheadWidthDots, planeDot red y redX) ∧
      ∃ blackX < printheadWidthDots, planeDot black y blackX
  alleys : ∀ y < height, ∀ redX < printheadWidthDots,
    ∀ blackX < printheadWidthDots,
      planeDot red y redX → planeDot black y blackX →
        redX + alleyDots < blackX ∨ blackX + alleyDots < redX

section Cards

variable {labelWidthMm : U32} {height : Nat}

theorem mem_barsDots {y x : Nat} :
    (y, x) ∈ ((List.range height).flatMap
        (barsRow labelWidthMm height)).map Prod.fst ↔
      y < height ∧ barsColour height y ≠ rgbWhite ∧
        OnLabel labelWidthMm x := by
  simp only [List.map_flatMap, List.mem_flatMap, List.mem_range]
  constructor
  · rintro ⟨line, bound, member⟩
    unfold barsRow at member
    dsimp only at member
    split at member
    · cases member
    · rename_i inked
      rw [List.map_map, List.mem_map] at member
      obtain ⟨column, inside, same⟩ := member
      obtain ⟨rfl, rfl⟩ := Prod.mk.inj same
      exact ⟨bound, inked, List.mem_range'_1.mp inside⟩
  · rintro ⟨bound, inked, inside⟩
    refine ⟨y, bound, ?_⟩
    unfold barsRow
    dsimp only
    rw [if_neg inked, List.map_map]
    exact List.mem_map.mpr ⟨x, List.mem_range'_1.mpr inside, rfl⟩

theorem onLabel_lt {x : Nat} (onLabel : OnLabel labelWidthMm x) :
    x < printheadWidthDots :=
  lt_of_lt_of_le onLabel.2 (centredOffset_add_le labelWidthMm)

theorem barsDots_agree :
    DotsAgree height (fun y _ => barsColour height y)
      ((List.range height).flatMap (barsRow labelWidthMm height)) := by
  have places (dot : CardDot) (member : dot ∈
      (List.range height).flatMap (barsRow labelWidthMm height)) :=
    mem_barsDots.mp (List.mem_map.mpr ⟨dot, member, rfl⟩)
  refine ⟨fun dot member => (places dot member).1,
    fun dot member => onLabel_lt (places dot member).2.2, ?_⟩
  intro dot member
  obtain ⟨line, -, here⟩ := List.mem_flatMap.mp member
  unfold barsRow at here
  dsimp only at here
  split at here
  · cases here
  · obtain ⟨column, -, rfl⟩ := List.mem_map.mp here
    rfl

theorem mem_stripeDots {y x : Nat} :
    (y, x) ∈ ((stripeRows height).flatMap
        (stripeRow labelWidthMm)).map Prod.fst ↔
      y ∈ stripeRows height ∧ ∃ s < stripeCount,
        stripeStart labelWidthMm s ≤ x ∧
        x < stripeStart labelWidthMm s +
          (stripeDots labelWidthMm - alleyDots) := by
  simp only [List.mem_map, List.mem_flatMap, stripeRow, List.mem_range,
    List.mem_range'_1]
  constructor
  · rintro ⟨-, ⟨line, row, s, few, column, inside, rfl⟩, same⟩
    obtain ⟨rfl, rfl⟩ := Prod.mk.inj same
    exact ⟨row, s, few, inside⟩
  · rintro ⟨row, s, few, inside⟩
    exact ⟨_, ⟨y, row, s, few, x, inside, rfl⟩, rfl⟩

theorem stripeStart_add_le (labelWidthMm : U32) {s : Nat} (few : s < stripeCount) :
    stripeStart labelWidthMm s + stripeDots labelWidthMm ≤
      printheadWidthDots := by
  have label := centredOffset_add_le labelWidthMm
  have quarters : stripeDots labelWidthMm * stripeCount ≤
      centredWidthDots labelWidthMm := Nat.div_mul_le_self _ _
  have upTo : (s + 1) * stripeDots labelWidthMm ≤
      stripeCount * stripeDots labelWidthMm :=
    Nat.mul_le_mul_right _ few
  rw [Nat.succ_mul, Nat.mul_comm stripeCount] at upTo
  rw [stripeStart]
  omega

/-- The stripe of a dot is the quarter of the label that it is in. -/
theorem stripe_eq {s x : Nat} (from_ : stripeStart labelWidthMm s ≤ x)
    (before : x < stripeStart labelWidthMm s +
      (stripeDots labelWidthMm - alleyDots)) :
    (x - centredOffset labelWidthMm) / stripeDots labelWidthMm = s := by
  rw [stripeStart] at from_ before
  obtain ⟨rest, rfl⟩ := Nat.exists_eq_add_of_le from_
  have inside : rest < stripeDots labelWidthMm := by omega
  rw [show centredOffset labelWidthMm + s * stripeDots labelWidthMm + rest -
      centredOffset labelWidthMm = stripeDots labelWidthMm * s + rest by
    rw [Nat.mul_comm s]
    omega, Nat.mul_add_div (by omega), Nat.div_eq_of_lt inside, Nat.add_zero]

theorem stripeDots_agree (rows : ∀ y ∈ stripeRows height, y < height) :
    DotsAgree height
      (fun _ x => stripeColour
        ((x - centredOffset labelWidthMm) / stripeDots labelWidthMm))
      ((stripeRows height).flatMap (stripeRow labelWidthMm)) := by
  refine ⟨fun dot member => ?_, fun dot member => ?_, fun dot member => ?_⟩
  · exact rows _ (mem_stripeDots.mp (List.mem_map.mpr ⟨dot, member, rfl⟩)).1
  · obtain ⟨-, s, few, -, before⟩ :=
      mem_stripeDots.mp (List.mem_map.mpr ⟨dot, member, rfl⟩)
    have ends := stripeStart_add_le labelWidthMm few
    exact lt_of_lt_of_le before (by omega)
  · simp only [List.mem_flatMap, stripeRow, List.mem_map, List.mem_range,
      List.mem_range'_1] at member
    obtain ⟨line, -, s, -, column, ⟨from_, before⟩, rfl⟩ := member
    simp only [stripe_eq from_ before]

end Cards

section Decide

variable {luma : Luma} {labelWidthMm heightMm : U32}

/-- On the label a pixel has the colour of its row. -/
theorem bars_pixels (labelWidthMm : U32)
    (small : printheadWidthDots * dotsOfMm heightMm * 3 < 2 ^ 32) :
    ∃ rgb, createTwoColourPattern labelWidthMm heightMm .bars =
        some (rgb, printheadWidthDots, dotsOfMm heightMm) ∧
      CardSized (dotsOfMm heightMm) rgb ∧
      ∀ y < dotsOfMm heightMm, ∀ x < printheadWidthDots,
        (OnLabel labelWidthMm x →
          pixelAt rgb y x = barsColour (dotsOfMm heightMm) y) ∧
        (¬ OnLabel labelWidthMm x → pixelAt rgb y x = rgbWhite) := by
  have agree : DotsAgree (dotsOfMm heightMm) _ ((List.range
    (dotsOfMm heightMm)).flatMap (barsRow labelWidthMm (dotsOfMm heightMm))) :=
    barsDots_agree
  obtain ⟨rgb, drawn, sized, spec⟩ := drawCard_spec agree small
  refine ⟨rgb, drawn, sized, fun y yBound x xBound => ?_⟩
  obtain ⟨inked, blank⟩ := spec y yBound x xBound
  rw [mem_barsDots] at inked blank
  constructor
  · intro onLabel
    by_cases white : barsColour (dotsOfMm heightMm) y = rgbWhite
    · rw [white]
      exact blank fun dot => dot.2.1 white
    · exact inked ⟨yBound, white, onLabel⟩
  · intro offLabel
    exact blank fun dot => offLabel dot.2.2

theorem barsColour_eq_red_iff {height y : Nat} (small : height * 10 < 2 ^ 32) :
    barsColour height y = rgbRed ↔ height / 10 ≤ y ∧ y < height * 4 / 10 := by
  rw [barsColour, Nat.mod_eq_of_lt (by omega), Nat.mod_eq_of_lt (by omega),
    Nat.mod_eq_of_lt (by omega)]
  split_ifs with redRow blackRow
  · simp [redRow]
  · simp [redRow, rgbBlack, rgbRed]
  · simp [redRow, rgbWhite, rgbRed]

theorem barsColour_eq_black_iff {height y : Nat}
    (small : height * 10 < 2 ^ 32) :
    barsColour height y = rgbBlack ↔
      height * 6 / 10 ≤ y ∧ y < height * 3 / 4 := by
  rw [barsColour, Nat.mod_eq_of_lt (by omega), Nat.mod_eq_of_lt (by omega),
    Nat.mod_eq_of_lt (by omega)]
  split_ifs with redRow blackRow
  · have above : y < height * 6 / 10 := by omega
    simp [rgbBlack, rgbRed, above]
  · simp [blackRow]
  · simp [blackRow, rgbWhite, rgbBlack]

theorem barsColour_cases (height y : Nat) :
    barsColour height y = rgbRed ∨ barsColour height y = rgbBlack ∨
      barsColour height y = rgbWhite := by
  unfold barsColour
  split_ifs <;> simp

theorem cardPlanes_bars (tells : TellsColours luma)
    (small : printheadWidthDots * dotsOfMm heightMm * 3 < 2 ^ 32) :
    ∃ red black,
      cardPlanes luma labelWidthMm heightMm .bars = some (red, black) ∧
      BarsApart labelWidthMm (dotsOfMm heightMm) red black := by
  obtain ⟨rgb, drawn, sized, pixels⟩ := bars_pixels labelWidthMm small
  have low : dotsOfMm heightMm * 10 < 2 ^ 32 := by
    rw [printheadWidthDots_eq] at small
    omega
  generalize dotsOfMm heightMm = height at *
  obtain ⟨red, black, planes, dots⟩ := cardPlanes_spec tells drawn sized
    fun y yBound x xBound => by
      by_cases onLabel : OnLabel labelWidthMm x
      · rw [(pixels y yBound x xBound).1 onLabel]
        exact barsColour_cases height y
      · exact .inr (.inr ((pixels y yBound x xBound).2 onLabel))
  have redDot : ∀ y < height, ∀ x < printheadWidthDots,
      planeDot red y x ↔ OnLabel labelWidthMm x ∧
        height / 10 ≤ y ∧ y < height * 4 / 10 := by
    intro y yBound x xBound
    rw [(dots y yBound x xBound).1]
    by_cases onLabel : OnLabel labelWidthMm x
    · rw [(pixels y yBound x xBound).1 onLabel, barsColour_eq_red_iff low]
      simp [onLabel]
    · rw [(pixels y yBound x xBound).2 onLabel]
      simp [onLabel, rgbWhite, rgbRed]
  have blackDot : ∀ y < height, ∀ x < printheadWidthDots,
      planeDot black y x ↔ OnLabel labelWidthMm x ∧
        height * 6 / 10 ≤ y ∧ y < height * 3 / 4 := by
    intro y yBound x xBound
    rw [(dots y yBound x xBound).2]
    by_cases onLabel : OnLabel labelWidthMm x
    · rw [(pixels y yBound x xBound).1 onLabel, barsColour_eq_black_iff low]
      simp [onLabel]
    · rw [(pixels y yBound x xBound).2 onLabel]
      simp [onLabel, rgbWhite, rgbBlack]
  refine ⟨red, black, planes, redDot, blackDot, ?_⟩
  intro redLine redBound blackLine blackBound redX redXBound blackX
    blackXBound isRed isBlack
  have above := ((redDot redLine redBound redX redXBound).mp isRed).2.2
  have below := ((blackDot blackLine blackBound blackX blackXBound).mp
    isBlack).2.1
  omega

theorem stripes_pixels (labelWidthMm : U32)
    (small : printheadWidthDots * dotsOfMm heightMm * 3 < 2 ^ 32) :
    ∃ rgb, createTwoColourPattern labelWidthMm heightMm .stripes =
        some (rgb, printheadWidthDots, dotsOfMm heightMm) ∧
      CardSized (dotsOfMm heightMm) rgb ∧
      ∀ y < dotsOfMm heightMm, ∀ x < printheadWidthDots,
        (pixelAt rgb y x = rgbRed ↔ (dotsOfMm heightMm / 6 ≤ y ∧
          y < dotsOfMm heightMm * 5 / 6) ∧ InStripe labelWidthMm 0 x) ∧
        (pixelAt rgb y x = rgbBlack ↔ (dotsOfMm heightMm / 6 ≤ y ∧
          y < dotsOfMm heightMm * 5 / 6) ∧ InStripe labelWidthMm 1 x) ∧
        (pixelAt rgb y x = rgbRed ∨ pixelAt rgb y x = rgbBlack ∨
          pixelAt rgb y x = rgbWhite) := by
  have low : dotsOfMm heightMm * 5 < 2 ^ 32 := by
    rw [printheadWidthDots_eq] at small
    omega
  have rows (y : Nat) : y ∈ stripeRows (dotsOfMm heightMm) ↔
      dotsOfMm heightMm / 6 ≤ y ∧ y < dotsOfMm heightMm * 5 / 6 := by
    rw [stripeRows, Nat.mod_eq_of_lt low, List.mem_range'_1]
    omega
  have agree : DotsAgree (dotsOfMm heightMm) _
      ((stripeRows (dotsOfMm heightMm)).flatMap (stripeRow labelWidthMm)) :=
    stripeDots_agree fun y member => by
      have := (rows y).mp member
      omega
  obtain ⟨rgb, drawn, sized, spec⟩ := drawCard_spec agree small
  refine ⟨rgb, drawn, sized, fun y yBound x xBound => ?_⟩
  obtain ⟨inked, blank⟩ := spec y yBound x xBound
  rw [mem_stripeDots, rows] at inked blank
  by_cases dot : (dotsOfMm heightMm / 6 ≤ y ∧
      y < dotsOfMm heightMm * 5 / 6) ∧ ∃ s < stripeCount,
        stripeStart labelWidthMm s ≤ x ∧ x < stripeStart labelWidthMm s +
          (stripeDots labelWidthMm - alleyDots)
  · obtain ⟨row, s, few, from_, before⟩ := dot
    have colour : pixelAt rgb y x = stripeColour s := by
      rw [inked ⟨row, s, few, from_, before⟩, stripe_eq from_ before]
    have parity (p : Nat) : InStripe labelWidthMm p x ↔ s % 2 = p := by
      constructor
      · rintro ⟨other, -, odd, otherFrom, otherBefore⟩
        rwa [← stripe_eq from_ before, stripe_eq otherFrom otherBefore]
      · exact fun odd => ⟨s, few, odd, from_, before⟩
    rw [colour, parity, parity, stripeColour]
    rcases Nat.mod_two_eq_zero_or_one s with even | odd
    · simp [even, row, rgbRed, rgbBlack]
    · simp [odd, row, rgbRed, rgbBlack]
  · have outside (p : Nat) : ¬ ((dotsOfMm heightMm / 6 ≤ y ∧
        y < dotsOfMm heightMm * 5 / 6) ∧ InStripe labelWidthMm p x) := by
      rintro ⟨row, s, few, -, inside⟩
      exact dot ⟨row, s, few, inside⟩
    rw [blank dot]
    refine ⟨iff_of_false (by decide) (outside 0),
      iff_of_false (by decide) (outside 1), .inr (.inr rfl)⟩

/-- A stripe of either number has dots as soon as one has. -/
theorem inStripe_other {x : Nat} {parity : Nat}
    (inside : InStripe labelWidthMm parity x) :
    (∃ redX < printheadWidthDots, InStripe labelWidthMm 0 redX) ∧
      ∃ blackX < printheadWidthDots, InStripe labelWidthMm 1 blackX := by
  obtain ⟨s, few, -, from_, before⟩ := inside
  have wide : 0 < stripeDots labelWidthMm - alleyDots := by omega
  have first (s : Nat) (few : s < stripeCount) :
      stripeStart labelWidthMm s < printheadWidthDots ∧
        InStripe labelWidthMm (s % 2) (stripeStart labelWidthMm s) :=
    ⟨by have := stripeStart_add_le labelWidthMm few; omega,
      s, few, rfl, le_refl _, by omega⟩
  exact ⟨⟨_, first 0 (by decide)⟩, _, first 1 (by decide)⟩

/-- Dots of different stripes have the dots of an alley between them. -/
theorem inStripe_apart {x otherX : Nat} (even : InStripe labelWidthMm 0 x)
    (odd : InStripe labelWidthMm 1 otherX) :
    x + alleyDots < otherX ∨ otherX + alleyDots < x := by
  obtain ⟨s, -, isEven, from_, before⟩ := even
  obtain ⟨other, -, isOdd, otherFrom, otherBefore⟩ := odd
  have next {s other : Nat} (less : s < other) :
      stripeStart labelWidthMm s + stripeDots labelWidthMm ≤
        stripeStart labelWidthMm other := by
    have steps := Nat.mul_le_mul_right (stripeDots labelWidthMm) less
    rw [Nat.succ_mul] at steps
    rw [stripeStart, stripeStart]
    omega
  rcases Nat.lt_trichotomy s other with less | rfl | more
  · have := next less
    omega
  · omega
  · have := next more
    omega

theorem cardPlanes_stripes (tells : TellsColours luma)
    (small : printheadWidthDots * dotsOfMm heightMm * 3 < 2 ^ 32) :
    ∃ red black,
      cardPlanes luma labelWidthMm heightMm .stripes = some (red, black) ∧
      StripesTogether labelWidthMm (dotsOfMm heightMm) red black := by
  obtain ⟨rgb, drawn, sized, pixels⟩ := stripes_pixels labelWidthMm small
  obtain ⟨red, black, planes, dots⟩ := cardPlanes_spec tells drawn sized
    fun y yBound x xBound => (pixels y yBound x xBound).2.2
  generalize dotsOfMm heightMm = height at *
  have redDot : ∀ y < height, ∀ x < printheadWidthDots,
      planeDot red y x ↔ (height / 6 ≤ y ∧ y < height * 5 / 6) ∧
        InStripe labelWidthMm 0 x := fun y yBound x xBound =>
    (dots y yBound x xBound).1.trans (pixels y yBound x xBound).1
  have blackDot : ∀ y < height, ∀ x < printheadWidthDots,
      planeDot black y x ↔ (height / 6 ≤ y ∧ y < height * 5 / 6) ∧
        InStripe labelWidthMm 1 x := fun y yBound x xBound =>
    (dots y yBound x xBound).2.trans (pixels y yBound x xBound).2.1
  refine ⟨red, black, planes, redDot, blackDot, ?_, ?_⟩
  · intro y yBound x xBound inked
    rw [redDot y yBound x xBound, blackDot y yBound x xBound] at inked
    obtain ⟨row, parity, inside⟩ : (height / 6 ≤ y ∧ y < height * 5 / 6) ∧
        ∃ parity, InStripe labelWidthMm parity x := by
      rcases inked with ⟨row, inside⟩ | ⟨row, inside⟩
      · exact ⟨row, 0, inside⟩
      · exact ⟨row, 1, inside⟩
    obtain ⟨⟨redX, redBound, isRed⟩, blackX, blackBound, isBlack⟩ :=
      inStripe_other inside
    exact ⟨⟨redX, redBound, (redDot y yBound _ redBound).mpr ⟨row, isRed⟩⟩,
      blackX, blackBound, (blackDot y yBound _ blackBound).mpr ⟨row, isBlack⟩⟩
  · intro y yBound redX redBound blackX blackBound isRed isBlack
    exact inStripe_apart ((redDot y yBound _ redBound).mp isRed).2
      ((blackDot y yBound _ blackBound).mp isBlack).2

end Decide

/-- Whatever the label, both cards can be drawn and split.  The lines of the
bars need one colour each, the lines of the stripes both. -/
theorem cardPlanes_decide {luma : Luma} (tells : TellsColours luma)
    (widthMm heightMm : U8) :
    (∃ red black,
      cardPlanes luma (widthMm.setWidth 32) (heightMm.setWidth 32) .bars =
        some (red, black) ∧
      BarsApart (widthMm.setWidth 32) (8 * heightMm.toNat) red black) ∧
    ∃ red black,
      cardPlanes luma (widthMm.setWidth 32) (heightMm.setWidth 32) .stripes =
        some (red, black) ∧
      StripesTogether (widthMm.setWidth 32) (8 * heightMm.toNat) red black := by
  have height : dotsOfMm (heightMm.setWidth 32) = 8 * heightMm.toNat := by
    have := heightMm.isLt
    rw [dotsOfMm, BitVec.toNat_mul, BitVec.toNat_setWidth]
    simp
    omega
  have small : printheadWidthDots * dotsOfMm (heightMm.setWidth 32) * 3 <
      2 ^ 32 := by
    have := heightMm.isLt
    rw [height, printheadWidthDots_eq]
    omega
  rw [← height]
  exact ⟨cardPlanes_bars tells small, cardPlanes_stripes tells small⟩

/-- The luminance in whole numbers. -/
theorem cardPlanes_decide_label :
    let luma : Luma := fun r g b => BitVec.ofNat 8
      ((30 * r.toNat + 59 * g.toNat + 11 * b.toNat) / 100)
    (∃ red black,
      cardPlanes luma 40#32 30#32 .bars = some (red, black) ∧
      BarsApart 40#32 240 red black) ∧
    ∃ red black,
      cardPlanes luma 40#32 30#32 .stripes = some (red, black) ∧
      StripesTogether 40#32 240 red black :=
  cardPlanes_decide ⟨by decide, by decide, by decide⟩ 40#8 30#8

end SupvanCups
