import SupvanCups.ContainFit
import SupvanCups.TestPattern

/-!
# Grey test images

Two test images show tones of grey: a ramp that runs down the feed, and bands
side by side across the head.  Both fill pieces of rows, one after the other.
The ramp fills the label from edge to edge.  A band is at least one dot wide,
so that with more bands than dots the bands leave the label.
-/

namespace SupvanCups

/-! ### Filled pieces of an image -/

/-- The bytes from `start` to `stop`, to be filled with one level. -/
structure GreySpan where
  start : Nat
  stop : Nat
  level : U8

namespace GreySpan

def Within (size : Nat) (span : GreySpan) : Prop :=
  span.start ≤ span.stop ∧ span.stop ≤ size

def Covers (span : GreySpan) (index : Nat) : Prop :=
  span.start ≤ index ∧ index < span.stop

end GreySpan

/-- `gray[start..stop].fill(level)`; `none` is a slice outside the image. -/
def fillSpan (gray : Bytes) (span : GreySpan) : Option Bytes :=
  if span.start ≤ span.stop then
    copyInto gray span.start
      (List.replicate (span.stop - span.start) span.level)
  else
    none

def fillSpans (gray : Bytes) (spans : List GreySpan) : Option Bytes :=
  spans.foldlM fillSpan gray

section Spans

variable {gray filled : Bytes} {span : GreySpan} {spans : List GreySpan}
  {index : Nat}

theorem fillSpan_some (run : fillSpan gray span = some filled) :
    span.Within gray.length ∧ filled.length = gray.length := by
  obtain ⟨inOrder, copied⟩ := Option.ite_none_right_eq_some.mp run
  obtain ⟨fits, -⟩ := copyInto_some copied
  rw [List.length_replicate, Nat.add_sub_cancel' inOrder] at fits
  exact ⟨⟨inOrder, fits⟩, copyInto_length copied⟩

theorem fillSpan_of_within (within : span.Within gray.length) :
    ∃ filled, fillSpan gray span = some filled ∧
      filled.length = gray.length := by
  rw [fillSpan, if_pos within.1]
  apply copyInto_of_fits
  rw [List.length_replicate, Nat.add_sub_cancel' within.1]
  exact within.2

theorem fillSpan_elsewhere (run : fillSpan gray span = some filled)
    (outside : ¬ span.Covers index) : filled[index]? = gray[index]? := by
  obtain ⟨inOrder, copied⟩ := Option.ite_none_right_eq_some.mp run
  apply copyInto_elsewhere copied
  rw [List.length_replicate, Nat.add_sub_cancel' inOrder]
  rw [GreySpan.Covers] at outside
  omega

theorem fillSpan_inside (run : fillSpan gray span = some filled)
    (inside : span.Covers index) : filled[index]? = some span.level := by
  obtain ⟨inOrder, copied⟩ := Option.ite_none_right_eq_some.mp run
  have offset : index - span.start < span.stop - span.start := by
    have starts := inside.1
    have stops := inside.2
    omega
  have found := copyInto_inside copied
    (by rwa [List.length_replicate] : index - span.start < _)
  rwa [Nat.add_sub_cancel' inside.1, List.getElem?_replicate_of_lt offset]
    at found

theorem fillSpans_append (first second : List GreySpan) :
    fillSpans gray (first ++ second) =
      (fillSpans gray first).bind (fillSpans · second) :=
  List.foldlM_append

/-- Pieces inside the image can all be filled. -/
theorem fillSpans_of_within
    (within : ∀ span ∈ spans, span.Within gray.length) :
    ∃ filled, fillSpans gray spans = some filled ∧
      filled.length = gray.length := by
  have sameSize : gray.length = gray.length := rfl
  refine foldlM_isSome_of_keeps
    (fun span member state (same : state.length = gray.length) => ?_) sameSize
  obtain ⟨next, run, kept⟩ :=
    fillSpan_of_within (same ▸ within span member)
  exact ⟨next, run, kept.trans same⟩

/-- Pieces that were all filled were inside the image. -/
theorem within_of_fillSpans (run : fillSpans gray spans = some filled) :
    ∀ span ∈ spans, span.Within gray.length := by
  induction spans generalizing gray with
  | nil => simp
  | cons first spans ih =>
      obtain ⟨next, here, rest⟩ := Option.bind_eq_some_iff.mp run
      obtain ⟨within, sameLength⟩ := fillSpan_some here
      rw [List.forall_mem_cons, ← sameLength]
      exact ⟨sameLength ▸ within, ih rest⟩

theorem fillSpans_elsewhere (run : fillSpans gray spans = some filled)
    (outside : ∀ span ∈ spans, ¬ span.Covers index) :
    filled[index]? = gray[index]? := by
  induction spans generalizing gray with
  | nil =>
      cases run
      rfl
  | cons first spans ih =>
      obtain ⟨next, here, rest⟩ := Option.bind_eq_some_iff.mp run
      obtain ⟨outsideHere, outsideRest⟩ := List.forall_mem_cons.mp outside
      rw [ih rest outsideRest, fillSpan_elsewhere here outsideHere]

/-- A byte that pieces of one level cover has that level. -/
theorem fillSpans_inside {level : U8}
    (run : fillSpans gray spans = some filled)
    (oneLevel : ∀ span ∈ spans, span.level = level)
    (covered : ∃ span ∈ spans, span.Covers index) :
    filled[index]? = some level := by
  induction spans generalizing gray with
  | nil =>
      obtain ⟨span, member, -⟩ := covered
      cases member
  | cons first spans ih =>
      obtain ⟨next, here, rest⟩ := Option.bind_eq_some_iff.mp run
      obtain ⟨levelHere, levelRest⟩ := List.forall_mem_cons.mp oneLevel
      by_cases later : ∃ span ∈ spans, span.Covers index
      · exact ih rest levelRest later
      · have coversFirst : first.Covers index := by
          obtain ⟨span, member, covers⟩ := covered
          rcases List.mem_cons.mp member with rfl | isLater
          · exact covers
          · exact absurd ⟨span, isLater, covers⟩ later
        have uncovered : ∀ span ∈ spans, ¬ span.Covers index :=
          fun span member covers => later ⟨span, member, covers⟩
        rw [fillSpans_elsewhere rest uncovered,
          fillSpan_inside here coversFirst, levelHere]

/-- What the last group of pieces over a byte leaves there. -/
theorem fillSpans_last {before here after : List GreySpan} {level : U8}
    (run : fillSpans gray (before ++ (here ++ after)) = some filled)
    (oneLevel : ∀ span ∈ here, span.level = level)
    (covered : ∃ span ∈ here, span.Covers index)
    (uncovered : ∀ span ∈ after, ¬ span.Covers index) :
    filled[index]? = some level := by
  rw [fillSpans_append] at run
  obtain ⟨first, -, rest⟩ := Option.bind_eq_some_iff.mp run
  rw [fillSpans_append] at rest
  obtain ⟨second, hereRun, afterRun⟩ := Option.bind_eq_some_iff.mp rest
  rw [fillSpans_elsewhere afterRun uncovered]
  exact fillSpans_inside hereRun oneLevel covered

end Spans

/-! ### The images -/

/-- The fill of row `y` of the ramp. -/
def rampSpan (labelWidthMm : U32) (height steps y : Nat) : GreySpan :=
  let width := printheadWidthDots
  let x0 := centredOffset labelWidthMm
  let band := max (height / steps) 1
  let step := min (y / band) (steps - 1)
  let level := 255 - min (step * 255 % 2 ^ 32 / (steps - 1)) 255
  let row := y * width % 2 ^ 32
  { start := row + x0
    stop := row + (x0 + centredWidthDots labelWidthMm)
    level := BitVec.ofNat 8 level }

/-- A staircase from white to black down the feed.  Returns the image with its
width and its height; `none` is a slice outside the image. -/
def createGrayRamp (labelWidthMm heightMm steps : U32) :
    Option (Bytes × Nat × Nat) :=
  let width := printheadWidthDots
  let height := dotsOfMm heightMm
  let steps := max steps.toNat 2
  let gray := List.replicate (width * height % 2 ^ 32) 255#8
  (fillSpans gray
    ((List.range height).map (rampSpan labelWidthMm height steps))).map
      fun gray => (gray, width, height)

/-- The width of a band, at least one dot. -/
def bandDots (labelWidthMm : U32) (bands : Nat) : Nat :=
  max (centredWidthDots labelWidthMm / bands) 1

def bandLevel (bands band : Nat) : U8 :=
  BitVec.ofNat 8 (255 - min (band * 255 % 2 ^ 32 / (bands - 1)) 255)

/-- The fill of row `y` of a band. -/
def bandSpan (labelWidthMm : U32) (bands band y : Nat) : GreySpan :=
  let width := printheadWidthDots
  let bandDots := bandDots labelWidthMm bands
  let first := (centredOffset labelWidthMm + band * bandDots) % 2 ^ 32
  let row := y * width % 2 ^ 32
  { start := row + first
    stop := row + (first + bandDots) % 2 ^ 32
    level := bandLevel bands band }

/-- Leave the extreme rows blank, for the gap sensor. -/
def inkRows (height : Nat) : List Nat :=
  List.range' (height / 8) (height * 7 % 2 ^ 32 / 8 - height / 8)

/-- The fills of all bands, one band after the other. -/
def bandSpans (labelWidthMm : U32) (height bands : Nat) : List GreySpan :=
  (List.range bands).flatMap fun band =>
    (inkRows height).map (bandSpan labelWidthMm bands band)

/-- Bands from white to black across the head.  Returns the image with its
width and its height; `none` is a slice outside the image. -/
def createGrayBands (labelWidthMm heightMm bands : U32) :
    Option (Bytes × Nat × Nat) :=
  let width := printheadWidthDots
  let height := dotsOfMm heightMm
  let gray := List.replicate (width * height % 2 ^ 32) 255#8
  (fillSpans gray (bandSpans labelWidthMm height (max bands.toNat 2))).map
    fun gray => (gray, width, height)

/-! ### Staying on the label -/

/-- Column `x` of the head is outside the centred label. -/
def OffLabel (labelWidthMm : U32) (x : Nat) : Prop :=
  x < centredOffset labelWidthMm ∨
    centredOffset labelWidthMm + centredWidthDots labelWidthMm ≤ x

/-- An image is drawn, and white wherever there is no label. -/
def StaysOnLabel (labelWidthMm heightMm : U32)
    (image : Option (Bytes × Nat × Nat)) : Prop :=
  ∃ gray, image = some (gray, printheadWidthDots, dotsOfMm heightMm) ∧
    ∀ y < dotsOfMm heightMm, ∀ x < printheadWidthDots,
      OffLabel labelWidthMm x →
        gray[y * printheadWidthDots + x]? = some 255#8

section Images

variable {labelWidthMm heightMm : U32}

theorem dvd_dotsOfMm (mm : U32) : 8 ∣ dotsOfMm mm := by
  rw [dotsOfMm, BitVec.toNat_mul]
  exact (Nat.dvd_mod_iff (by decide)).mpr (Nat.dvd_mul_left _ _)

/-- Fills inside the rows and on the label leave the rest of a white image
white. -/
theorem staysOnLabel_of_spans {spans : List GreySpan}
    (sizeFits : printheadWidthDots * dotsOfMm heightMm < 2 ^ 32)
    (onLabel : ∀ span ∈ spans, ∃ y < dotsOfMm heightMm,
      y * printheadWidthDots + centredOffset labelWidthMm ≤ span.start ∧
      span.start ≤ span.stop ∧
      span.stop ≤ y * printheadWidthDots + (centredOffset labelWidthMm +
        centredWidthDots labelWidthMm)) :
    StaysOnLabel labelWidthMm heightMm
      ((fillSpans (List.replicate
          (printheadWidthDots * dotsOfMm heightMm % 2 ^ 32) 255#8) spans).map
        fun gray => (gray, printheadWidthDots, dotsOfMm heightMm)) := by
  have labelFits := centredOffset_add_le labelWidthMm
  rw [Nat.mod_eq_of_lt sizeFits]
  have within : ∀ span ∈ spans, span.Within (List.replicate
      (printheadWidthDots * dotsOfMm heightMm) (255#8 : U8)).length := by
    intro span member
    obtain ⟨y, yBound, _, inOrder, stops⟩ := onLabel span member
    have rowEnd := rowEnd_le yBound printheadWidthDots
    rw [List.length_replicate, Nat.mul_comm printheadWidthDots]
    exact ⟨inOrder, by omega⟩
  obtain ⟨gray, run, -⟩ := fillSpans_of_within within
  refine ⟨gray, congrArg (Option.map _) run, ?_⟩
  intro y yBound x xBound offLabel
  have rowEnd := rowEnd_le yBound printheadWidthDots
  rw [fillSpans_elsewhere run, List.getElem?_replicate_of_lt]
  · rw [Nat.mul_comm printheadWidthDots]
    omega
  · rintro span member ⟨starts, stops⟩
    obtain ⟨row, _, first, _, last⟩ := onLabel span member
    have outside := rowMajor_outside xBound labelFits
      (fun _ : y = row => offLabel)
    omega

/-- The ramp fills each row from one edge of the label to the other. -/
theorem createGrayRamp_stays (steps : U32)
    (sizeFits : printheadWidthDots * dotsOfMm heightMm < 2 ^ 32) :
    StaysOnLabel labelWidthMm heightMm
      (createGrayRamp labelWidthMm heightMm steps) := by
  apply staysOnLabel_of_spans sizeFits
  intro span member
  obtain ⟨y, yMember, rfl⟩ := List.mem_map.mp member
  have yBound := List.mem_range.mp yMember
  have rowEnd := rowEnd_le yBound printheadWidthDots
  have rowFits : y * printheadWidthDots % 2 ^ 32 = y * printheadWidthDots := by
    rw [Nat.mul_comm printheadWidthDots] at sizeFits
    exact Nat.mod_eq_of_lt (by omega)
  refine ⟨y, yBound, ?_, ?_, ?_⟩ <;> simp only [rampSpan, rowFits] <;> omega

theorem mem_bandSpans {height bands : Nat} {span : GreySpan} :
    span ∈ bandSpans labelWidthMm height bands ↔
      ∃ band < bands, ∃ y ∈ inkRows height,
        bandSpan labelWidthMm bands band y = span := by
  simp only [bandSpans, List.mem_flatMap, List.mem_map, List.mem_range]

theorem mem_inkRows (sizeFits : printheadWidthDots * dotsOfMm heightMm < 2 ^ 32)
    {y : Nat} : y ∈ inkRows (dotsOfMm heightMm) ↔
      dotsOfMm heightMm / 8 ≤ y ∧ y < 7 * (dotsOfMm heightMm / 8) := by
  have wholeMm := dvd_dotsOfMm heightMm
  have noWrap : dotsOfMm heightMm * 7 % 2 ^ 32 = dotsOfMm heightMm * 7 := by
    rw [printheadWidthDots_eq] at sizeFits
    exact Nat.mod_eq_of_lt (by omega)
  rw [inkRows, List.mem_range'_1, noWrap]
  omega

/-- The place of a fill whose numbers do not wrap. -/
theorem bandSpan_place (labelWidthMm : U32) {bands band y : Nat}
    (rowFits : y * printheadWidthDots < 2 ^ 32)
    (lineFits : centredOffset labelWidthMm +
      band * bandDots labelWidthMm bands + bandDots labelWidthMm bands <
        2 ^ 32) :
    (bandSpan labelWidthMm bands band y).start = y * printheadWidthDots +
        (centredOffset labelWidthMm + band * bandDots labelWidthMm bands) ∧
      (bandSpan labelWidthMm bands band y).stop = y * printheadWidthDots +
        (centredOffset labelWidthMm + band * bandDots labelWidthMm bands +
          bandDots labelWidthMm bands) := by
  simp only [bandSpan, Nat.mod_eq_of_lt rowFits]
  rw [Nat.mod_eq_of_lt (by omega :
    centredOffset labelWidthMm + band * bandDots labelWidthMm bands < 2 ^ 32),
    Nat.mod_eq_of_lt lineFits]
  exact ⟨rfl, rfl⟩

/-- No more bands than dots: the bands share out the label. -/
theorem createGrayBands_stays_of_le {bands : U32}
    (sizeFits : printheadWidthDots * dotsOfMm heightMm < 2 ^ 32)
    (few : max bands.toNat 2 ≤ centredWidthDots labelWidthMm) :
    StaysOnLabel labelWidthMm heightMm
      (createGrayBands labelWidthMm heightMm bands) := by
  apply staysOnLabel_of_spans sizeFits
  intro span member
  obtain ⟨band, bandBound, y, yMember, rfl⟩ := mem_bandSpans.mp member
  obtain ⟨_, yLast⟩ := (mem_inkRows sizeFits).mp yMember
  have labelFits := centredOffset_add_le labelWidthMm
  have yBound : y < dotsOfMm heightMm := by
    have wholeMm := dvd_dotsOfMm heightMm
    omega
  have rowEnd := rowEnd_le yBound printheadWidthDots
  have bandEnd : band * bandDots labelWidthMm (max bands.toNat 2) +
      bandDots labelWidthMm (max bands.toNat 2) ≤
        centredWidthDots labelWidthMm := by
    have dotsEq : bandDots labelWidthMm (max bands.toNat 2) =
        centredWidthDots labelWidthMm / max bands.toNat 2 :=
      Nat.max_eq_left (Nat.div_pos few (by omega))
    calc
      _ ≤ max bands.toNat 2 * bandDots labelWidthMm (max bands.toNat 2) :=
        rowEnd_le bandBound _
      _ ≤ centredWidthDots labelWidthMm := by
        rw [dotsEq]
        exact Nat.mul_div_le _ _
  rw [Nat.mul_comm printheadWidthDots] at sizeFits
  have headFits : printheadWidthDots < 2 ^ 32 := by decide
  have rowFits : y * printheadWidthDots < 2 ^ 32 := by omega
  have lineFits : centredOffset labelWidthMm +
      band * bandDots labelWidthMm (max bands.toNat 2) +
      bandDots labelWidthMm (max bands.toNat 2) < 2 ^ 32 := by omega
  obtain ⟨startEq, stopEq⟩ := bandSpan_place labelWidthMm rowFits lineFits
  refine ⟨y, yBound, ?_, ?_, ?_⟩
  · rw [startEq]
    omega
  · rw [startEq, stopEq]
    omega
  · rw [stopEq]
    omega

/-- Without rows there is nothing to fill. -/
theorem createGrayBands_stays_of_empty {bands : U32}
    (noRows : dotsOfMm heightMm = 0) :
    StaysOnLabel labelWidthMm heightMm
      (createGrayBands labelWidthMm heightMm bands) := by
  have sizeFits : printheadWidthDots * dotsOfMm heightMm < 2 ^ 32 := by
    rw [noRows]
    decide
  apply staysOnLabel_of_spans sizeFits
  intro span member
  obtain ⟨_, _, y, yMember, _⟩ := mem_bandSpans.mp member
  have rows := (mem_inkRows sizeFits).mp yMember
  omega

theorem bandDots_eq_one {bands : Nat}
    (many : centredWidthDots labelWidthMm < bands) :
    bandDots labelWidthMm bands = 1 := by
  rw [bandDots, Nat.div_eq_of_lt many]
  rfl

/-- The place of a band that is one dot wide. -/
theorem bandSpan_dot {bands band y : Nat}
    (many : centredWidthDots labelWidthMm < bands)
    (rowFits : y * 384 < 2 ^ 32) (lineFits : band + 385 < 2 ^ 32) :
    (bandSpan labelWidthMm bands band y).start =
        y * 384 + (centredOffset labelWidthMm + band) ∧
      (bandSpan labelWidthMm bands band y).stop =
        y * 384 + (centredOffset labelWidthMm + band + 1) := by
  have labelFits := centredOffset_add_le labelWidthMm
  have dotsEq := bandDots_eq_one many
  rw [printheadWidthDots_eq] at labelFits
  have narrowFits : centredOffset labelWidthMm +
      band * bandDots labelWidthMm bands + bandDots labelWidthMm bands <
        2 ^ 32 := by
    rw [dotsEq]
    omega
  simpa only [dotsEq, Nat.mul_one, printheadWidthDots_eq] using
    bandSpan_place labelWidthMm rowFits narrowFits

/-- A label as wide as the head has nothing beside it, and bands past the end
of a row go on in the next one, down to the last row of the image. -/
theorem createGrayBands_stays_of_wide {bands : U32}
    (sizeFits : printheadWidthDots * dotsOfMm heightMm < 2 ^ 32)
    (wide : centredWidthDots labelWidthMm = printheadWidthDots)
    (many : printheadWidthDots < max bands.toNat 2)
    (fits : max bands.toNat 2 ≤
      printheadWidthDots * (dotsOfMm heightMm / 8 + 1)) :
    StaysOnLabel labelWidthMm heightMm
      (createGrayBands labelWidthMm heightMm bands) := by
  have wholeMm := dvd_dotsOfMm heightMm
  have noOffset : centredOffset labelWidthMm = 0 := by
    rw [centredOffset, wide, Nat.sub_self]
  have within : ∀ span ∈ bandSpans labelWidthMm (dotsOfMm heightMm)
      (max bands.toNat 2), span.Within (List.replicate
        (printheadWidthDots * dotsOfMm heightMm) (255#8 : U8)).length := by
    intro span member
    obtain ⟨band, bandBound, y, yMember, rfl⟩ := mem_bandSpans.mp member
    obtain ⟨_, yLast⟩ := (mem_inkRows sizeFits).mp yMember
    rw [printheadWidthDots_eq] at sizeFits fits
    have rowFits : y * 384 < 2 ^ 32 := by omega
    have lineFits : band + 385 < 2 ^ 32 := by omega
    obtain ⟨startEq, stopEq⟩ := bandSpan_dot (wide ▸ many) rowFits lineFits
    rw [List.length_replicate, GreySpan.Within, startEq, stopEq, noOffset,
      printheadWidthDots_eq]
    omega
  obtain ⟨gray, run, -⟩ := fillSpans_of_within within
  rw [createGrayBands, Nat.mod_eq_of_lt sizeFits]
  refine ⟨gray, congrArg (Option.map _) run, ?_⟩
  intro y yBound x xBound offLabel
  rw [OffLabel, noOffset, wide] at offLabel
  omega

/-- A drawn image filled all its bands inside it. -/
theorem fillSpans_of_stays {bands : U32}
    (sizeFits : printheadWidthDots * dotsOfMm heightMm < 2 ^ 32)
    (stays : StaysOnLabel labelWidthMm heightMm
      (createGrayBands labelWidthMm heightMm bands)) :
    ∃ gray,
      fillSpans (List.replicate (printheadWidthDots * dotsOfMm heightMm) 255#8)
        (bandSpans labelWidthMm (dotsOfMm heightMm) (max bands.toNat 2)) =
          some gray ∧
      ∀ y < dotsOfMm heightMm, ∀ x < printheadWidthDots,
        OffLabel labelWidthMm x →
          gray[y * printheadWidthDots + x]? = some 255#8 := by
  obtain ⟨gray, drawn, white⟩ := stays
  rw [createGrayBands, Nat.mod_eq_of_lt sizeFits, Option.map_eq_some_iff]
    at drawn
  obtain ⟨filled, run, same⟩ := drawn
  obtain ⟨rfl, -⟩ := Prod.mk.inj same
  exact ⟨filled, run, white⟩

/-- So many bands end past the image in its last inked row. -/
theorem not_stays_of_outside {bands : U32}
    (sizeFits : printheadWidthDots * dotsOfMm heightMm < 2 ^ 32)
    (someRows : dotsOfMm heightMm ≠ 0)
    (outside : printheadWidthDots * (dotsOfMm heightMm / 8 + 1) <
      max bands.toNat 2) :
    ¬ StaysOnLabel labelWidthMm heightMm
      (createGrayBands labelWidthMm heightMm bands) := by
  intro stays
  have wholeMm := dvd_dotsOfMm heightMm
  have narrow : centredWidthDots labelWidthMm ≤ printheadWidthDots :=
    Nat.min_le_right _ _
  have lastRow : 7 * (dotsOfMm heightMm / 8) - 1 ∈
      inkRows (dotsOfMm heightMm) :=
    (mem_inkRows sizeFits).mpr (by omega)
  obtain ⟨gray, run, -⟩ := fillSpans_of_stays sizeFits stays
  rw [printheadWidthDots_eq] at sizeFits outside narrow run
  have many : centredWidthDots labelWidthMm < max bands.toNat 2 := by omega
  have rowFits : (7 * (dotsOfMm heightMm / 8) - 1) * 384 < 2 ^ 32 := by omega
  have lineFits : 384 * (dotsOfMm heightMm / 8 + 1) + 385 < 2 ^ 32 := by omega
  obtain ⟨_, stopEq⟩ := bandSpan_dot many rowFits lineFits
  have stops := (within_of_fillSpans run _
    (mem_bandSpans.mpr ⟨_, outside, _, lastRow, rfl⟩)).2
  rw [stopEq, List.length_replicate] at stops
  omega

/-- Among more bands than dots, one that is not white falls beside the
label. -/
theorem exists_band_beside {width last rows : Nat} (narrow : width < 384)
    (many : width ≤ last) (some : 0 < last) (rowsFit : 384 * rows < 2 ^ 29)
    (lastFits : last < 384 * (rows + 1)) :
    ∃ band ≤ last, width ≤ band % 384 ∧ last ≤ 255 * band ∧
      255 * band < 2 ^ 32 := by
  by_cases oneRow : last < 384
  · refine ⟨last, le_rfl, ?_, ?_, ?_⟩ <;> omega
  · -- The last dot of a row, far enough down to be grey but not to wrap.
    refine ⟨384 * ((last + 1) / 384 / 128 + 1) - 1, ?_, ?_, ?_, ?_⟩ <;> omega

/-- The level of a band is white only near the first band. -/
theorem bandLevel_ne_white {bands band : Nat} (someBands : 1 < bands)
    (grey : bands - 1 ≤ 255 * band) (fits : 255 * band < 2 ^ 32) :
    bandLevel bands band ≠ 255#8 := by
  intro white
  have step : 1 ≤ 255 * band / (bands - 1) :=
    (Nat.one_le_div_iff (Nat.sub_pos_of_lt someBands)).mpr grey
  have levelEq := congrArg BitVec.toNat white
  rw [bandLevel, Nat.mul_comm band, Nat.mod_eq_of_lt fits, BitVec.toNat_ofNat]
    at levelEq
  change _ = 255 at levelEq
  omega

/-- In the first inked row no later fill covers what a narrow band left. -/
theorem fillSpans_firstRow {size bands band : Nat} {gray : Bytes}
    (sizeFits : printheadWidthDots * dotsOfMm heightMm < 2 ^ 32)
    (someRows : dotsOfMm heightMm ≠ 0)
    (many : centredWidthDots labelWidthMm < bands)
    (bandsFit : bands + 385 ≤ 2 ^ 32) (bandBound : band < bands)
    (run : fillSpans (List.replicate size 255#8)
      (bandSpans labelWidthMm (dotsOfMm heightMm) bands) = some gray) :
    dotsOfMm heightMm / 8 * 384 + (centredOffset labelWidthMm + band) < size ∧
      gray[dotsOfMm heightMm / 8 * 384 +
        (centredOffset labelWidthMm + band)]? =
          some (bandLevel bands band) := by
  have wholeMm := dvd_dotsOfMm heightMm
  have firstRow : dotsOfMm heightMm / 8 ∈ inkRows (dotsOfMm heightMm) :=
    (mem_inkRows sizeFits).mpr (by omega)
  have placed {later y : Nat} (laterBound : later < bands)
      (yMember : y ∈ inkRows (dotsOfMm heightMm)) :
      (bandSpan labelWidthMm bands later y).start =
          y * 384 + (centredOffset labelWidthMm + later) ∧
        (bandSpan labelWidthMm bands later y).stop =
          y * 384 + (centredOffset labelWidthMm + later + 1) := by
    obtain ⟨_, yLast⟩ := (mem_inkRows sizeFits).mp yMember
    rw [printheadWidthDots_eq] at sizeFits
    have rowFits : y * 384 < 2 ^ 32 := by omega
    have lineFits : later + 385 < 2 ^ 32 := by omega
    exact bandSpan_dot many rowFits lineFits
  obtain ⟨startEq, stopEq⟩ := placed bandBound firstRow
  constructor
  · have stops := (within_of_fillSpans run _
      (mem_bandSpans.mpr ⟨_, bandBound, _, firstRow, rfl⟩)).2
    rw [stopEq, List.length_replicate] at stops
    omega
  · obtain ⟨before, after, split⟩ :=
      List.append_of_mem (List.mem_range.mpr bandBound)
    have sorted : (List.range bands).Pairwise (· < ·) := List.pairwise_lt_range
    rw [split, List.pairwise_append, List.pairwise_cons] at sorted
    rw [bandSpans, split, List.flatMap_append, List.flatMap_cons] at run
    refine fillSpans_last run ?_ ⟨_, List.mem_map_of_mem firstRow, ?_⟩ ?_
    · intro span member
      obtain ⟨y, -, rfl⟩ := List.mem_map.mp member
      rfl
    · rw [GreySpan.Covers, startEq, stopEq]
      omega
    · intro span member covers
      obtain ⟨later, laterMember, inBand⟩ := List.mem_flatMap.mp member
      obtain ⟨y, yMember, rfl⟩ := List.mem_map.mp inBand
      have afterBand : band < later := sorted.2.1.1 later laterMember
      have laterBound : later < bands := by
        rw [← List.mem_range, split]
        exact List.mem_append_right _ (List.mem_cons_of_mem _ laterMember)
      have starts := covers.1
      rw [(placed laterBound yMember).1] at starts
      have lower := ((mem_inkRows sizeFits).mp yMember).1
      omega

/-- A grey band beside the label shows. -/
theorem not_stays_of_beside {bands : U32}
    (sizeFits : printheadWidthDots * dotsOfMm heightMm < 2 ^ 32)
    (someRows : dotsOfMm heightMm ≠ 0)
    (narrow : centredWidthDots labelWidthMm < printheadWidthDots)
    (many : centredWidthDots labelWidthMm < max bands.toNat 2)
    (inside : max bands.toNat 2 ≤
      printheadWidthDots * (dotsOfMm heightMm / 8 + 1)) :
    ¬ StaysOnLabel labelWidthMm heightMm
      (createGrayBands labelWidthMm heightMm bands) := by
  intro stays
  have wholeMm := dvd_dotsOfMm heightMm
  have labelFits := centredOffset_add_le labelWidthMm
  have someBands : 1 < max bands.toNat 2 := Nat.le_max_right _ _
  obtain ⟨gray, run, white⟩ := fillSpans_of_stays sizeFits stays
  generalize max bands.toNat 2 = bands at many inside someBands run
  have rowsFit : 384 * (dotsOfMm heightMm / 8) < 2 ^ 29 := by
    rw [printheadWidthDots_eq] at sizeFits
    omega
  obtain ⟨band, atMost, beside, grey, fits⟩ := exists_band_beside narrow
    (Nat.le_sub_one_of_lt many) (Nat.sub_pos_of_lt someBands) rowsFit
    ((Nat.sub_lt (by omega) Nat.one_pos).trans_le inside)
  rw [printheadWidthDots_eq] at inside labelFits white
  obtain ⟨place, left⟩ := fillSpans_firstRow sizeFits someRows many
    (by omega) (by omega : band < bands) run
  rw [printheadWidthDots_eq] at place
  have blank := white ((dotsOfMm heightMm / 8 * 384 +
      (centredOffset labelWidthMm + band)) / 384) (by omega)
    ((dotsOfMm heightMm / 8 * 384 +
      (centredOffset labelWidthMm + band)) % 384) (by omega)
    (by rw [OffLabel]; omega)
  rw [Nat.div_add_mod', left] at blank
  exact bandLevel_ne_white someBands grey fits (Option.some.inj blank)

/-- The bands find room: there is no row to fill, or a dot for each band, or
the label is as wide as the head and the bands end within the image. -/
def BandsFit (labelWidthMm heightMm bands : U32) : Prop :=
  dotsOfMm heightMm = 0 ∨
    max bands.toNat 2 ≤ centredWidthDots labelWidthMm ∨
    centredWidthDots labelWidthMm = printheadWidthDots ∧
      max bands.toNat 2 ≤ printheadWidthDots * (dotsOfMm heightMm / 8 + 1)

instance (labelWidthMm heightMm bands : U32) :
    Decidable (BandsFit labelWidthMm heightMm bands) :=
  inferInstanceAs (Decidable (_ ∨ _ ∨ _ ∧ _))

theorem createGrayBands_stays_iff {bands : U32}
    (sizeFits : printheadWidthDots * dotsOfMm heightMm < 2 ^ 32) :
    StaysOnLabel labelWidthMm heightMm
      (createGrayBands labelWidthMm heightMm bands) ↔
        BandsFit labelWidthMm heightMm bands := by
  constructor
  · intro stays
    by_contra noRoom
    rw [BandsFit, not_or, not_or] at noRoom
    obtain ⟨someRows, many, notWide⟩ := noRoom
    by_cases inside : max bands.toNat 2 ≤
        printheadWidthDots * (dotsOfMm heightMm / 8 + 1)
    · have narrow : centredWidthDots labelWidthMm < printheadWidthDots :=
        Nat.lt_of_le_of_ne (Nat.min_le_right _ _) fun wide =>
          notWide ⟨wide, inside⟩
      exact not_stays_of_beside sizeFits someRows narrow
        (Nat.lt_of_not_le many) inside stays
    · exact not_stays_of_outside sizeFits someRows (Nat.lt_of_not_le inside)
        stays
  · rintro (noRows | few | ⟨wide, inside⟩)
    · exact createGrayBands_stays_of_empty noRows
    · exact createGrayBands_stays_of_le sizeFits few
    · rcases Nat.lt_or_ge printheadWidthDots (max bands.toNat 2) with
        many | few
      · exact createGrayBands_stays_of_wide sizeFits wide many inside
      · exact createGrayBands_stays_of_le sizeFits (few.trans wide.ge)

end Images

/-- Both grey test images stay on the label exactly when the bands of the
second find room; the ramp always does. -/
theorem greyTestImages_stay_iff (labelWidthMm heightMm steps bands : U32)
    (sizeFits : printheadWidthDots * dotsOfMm heightMm < 2 ^ 32) :
    (StaysOnLabel labelWidthMm heightMm
        (createGrayRamp labelWidthMm heightMm steps) ∧
      StaysOnLabel labelWidthMm heightMm
        (createGrayBands labelWidthMm heightMm bands)) ↔
      BandsFit labelWidthMm heightMm bands := by
  rw [createGrayBands_stays_iff sizeFits]
  exact and_iff_right (createGrayRamp_stays steps sizeFits)

/-- Sixteen steps and bands on a label of 12 by 30 mm. -/
theorem greyTestImages_stay_sixteen :
    StaysOnLabel 12#32 30#32 (createGrayRamp 12#32 30#32 16#32) ∧
      StaysOnLabel 12#32 30#32 (createGrayBands 12#32 30#32 16#32) :=
  (greyTestImages_stay_iff 12#32 30#32 16#32 16#32 (by decide)).mpr (by decide)

/-- A hundred bands on a label of 96 dots: four of them burn beside it. -/
theorem createGrayBands_leaves_label :
    ¬ StaysOnLabel 12#32 30#32 (createGrayBands 12#32 30#32 100#32) := by
  rw [createGrayBands_stays_iff (by decide)]
  decide

end SupvanCups
