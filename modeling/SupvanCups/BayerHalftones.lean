import SupvanCups.OrderedHalftone
import SupvanCups.PageIndependence

/-!
# Tone in the default dither mode

The default mode compares each grey, made linear, with a matrix of 4 by 4
thresholds.  Whatever the pages of a job, every printed sheet shows its own
page: any 16 dots in a square stand for the greys under them, and a darker page
keeps the dots of a lighter one.
-/

namespace SupvanCups

open OrderedHalftone

/-! ### The matrix -/

/-- The threshold of a dot. -/
def bayerThreshold (y x : Nat) : Nat :=
  (bayer4.getD (y % 4) []).getD (x % 4) 0

/-- How light a grey counts. -/
def toneLevel (grey : U8) : Nat :=
  srgbToLinear.getD grey.toNat 0

/-- The dots that a grey sets of any 16 in a square. -/
def bayerDots (grey : U8) : Nat :=
  16 - (toneLevel grey + 8) / 16

theorem bayerThreshold_repeats : Repeats 4 4 bayerThreshold where
  down x y := by simp [bayerThreshold]
  across y x := by simp [bayerThreshold]

theorem levelDots_bayerThreshold (grey : U8) :
    levelDots bayerThreshold 4 4 (toneLevel grey) = bayerDots grey := by
  have checked : ∀ value < 256,
      levelDots bayerThreshold 4 4 (srgbToLinear.getD value 0) =
        16 - (srgbToLinear.getD value 0 + 8) / 16 := by
    decide +kernel
  exact checked grey.toNat grey.isLt

/-- Darker greys are not lighter levels. -/
theorem toneLevel_mono {dark light : U8} (le : dark ≤ light) :
    toneLevel dark ≤ toneLevel light := by
  have checked : ∀ value < 255, srgbToLinear.getD value 0 ≤
      srgbToLinear.getD (value + 1) 0 := by
    decide +kernel
  have bound := light.isLt
  have reach : ∀ steps, dark.toNat + steps ≤ 255 →
      srgbToLinear.getD dark.toNat 0 ≤
        srgbToLinear.getD (dark.toNat + steps) 0 := by
    intro steps
    induction steps with
    | zero => exact fun _ => le_refl _
    | succ steps ih =>
        exact fun inside => (ih (by omega)).trans (checked _ (by omega))
  have whole := reach (light.toNat - dark.toNat) (by omega)
  rwa [Nat.add_sub_cancel' (BitVec.le_def.mp le)] at whole

/-- The shares that the table of levels is made for. -/
example : (bayerDots 0#8, bayerDots 48#8, bayerDots 128#8, bayerDots 192#8,
    bayerDots 255#8) = (16, 8, 4, 2, 0) := by
  decide

section Pages

variable {F : Type} [DitherFloat F] [DecidableLT F]

/-! ### Lines -/

/-- Whether the default mode sets a dot of a line, before it is mirrored. -/
def bayerInk (width : Nat) (line : Bytes) (y x : Nat) : Bool :=
  decide (toneLevel (line.getD x 0#8) < bayerThreshold y (width - 1 - x))

theorem Ditherer.line_bayer {d : Ditherer F} (isBayer : d.mode = .bayer)
    {line : Bytes} (full : line.length = d.width) (y : Nat) :
    d.line line y (List.replicate (divCeil d.width 8) 0#8) =
      some (d, packedLine d.width
        (mirrored d.width (bayerInk d.width line y))) := by
  have allPixels : (List.finRange d.width).take line.length =
      List.finRange d.width :=
    List.take_of_length_le (by simp [full])
  have brush : inkBrush d.width (bayerInk d.width line y) =
      fun x : Fin d.width =>
        if toneLevel (line.getD x 0#8) < bayerThreshold y (d.width - 1 - x) then
          some (mirroredDot d.width x)
        else none := by
    funext x
    simp only [inkBrush, bayerInk, decide_eq_true_eq]
  have painted := paint_inkBrush d.width (bayerInk d.width line y)
  rw [brush] at painted
  unfold Ditherer.line
  rw [allPixels]
  split
  · exact congrArg (Option.map fun mono => (d, mono)) painted
  · next kernel isVendor chosen =>
      rw [isBayer] at chosen
      cases chosen

/-- A dot of a packed line, read in its row of a page. -/
theorem msbDot_packedLine {raster : Bytes} {width y x : Nat}
    {ink : Nat → Bool} (inside : x < width)
    (row : ∀ index < divCeil width 8,
      raster[y * divCeil width 8 + index]? = (packedLine width ink)[index]?) :
    msbDot raster (divCeil width 8) y x = ink x := by
  have indexBound : x / 8 < divCeil width 8 := by
    unfold divCeil
    omega
  have place : 8 * (x / 8) + (7 - (7 - x % 8)) = x := by omega
  have bits := bitAt_packedLine width ink indexBound
    (show 7 - x % 8 < 8 by omega)
  rw [place, decide_eq_true inside, Bool.true_and] at bits
  rw [← bits, msbDot, bitAt, bitAt, List.getD_eq_getElem?_getD,
    row (x / 8) indexBound, List.getD_eq_getElem?_getD]

namespace KsJob

/-- The lines that were taken lie packed in their rows, and the rows above are
as they were. -/
theorem writeLines_bayer {options : JobOptions} {lines : List Bytes} {y : Nat}
    {job job' : KsJob F} (isBayer : job.ditherer.mode = .bayer)
    (width : job.ditherer.width = options.width.toNat)
    (stride : job.bytesPerLine = divCeil options.width.toNat 8)
    (fits : job.Fits)
    (run : writeLines options lines y job = some (.ok job'))
    (contone : ∀ line, (toGrayLine options.bitsPerPixel line
      options.width.toNat).isSome) :
    (∀ index < y * job.bytesPerLine,
      job'.rasterData[index]? = job.rasterData[index]?) ∧
    ∀ number line, lines[number]? = some line → ∀ input,
      toGrayLine options.bitsPerPixel line options.width.toNat = some input →
      ∀ index < job.bytesPerLine,
        job'.rasterData[(y + number) * job.bytesPerLine + index]? =
          (packedLine options.width.toNat (mirrored options.width.toNat
            (bayerInk options.width.toNat input (y + number))))[index]? := by
  induction lines generalizing y job with
  | nil =>
      obtain rfl := Except.ok.inj (Option.some.inj run)
      exact ⟨fun _ _ => rfl, nofun⟩
  | cons line lines ih =>
      obtain ⟨next, written, rest⟩ := writeLines_cons run
      obtain ⟨input, grey⟩ := Option.isSome_iff_exists.mp (contone line)
      obtain ⟨onPage, mono, rasterData, err, row, dithered, copied, rfl⟩ :=
        writeLine_grey grey written
      have full : input.length = job.ditherer.width := by
        rw [toGrayLine_length grey, width]
      have painted := Ditherer.line_bayer isBayer full y
      rw [← width, painted, Option.some.injEq, Prod.mk.injEq] at dithered
      obtain ⟨-, packed⟩ := dithered
      have size : (mono.take job.bytesPerLine).length = job.bytesPerLine := by
        rw [← packed, List.length_take, packedLine_length, stride, width,
          Nat.min_self]
      have whole : mono.take job.bytesPerLine = mono := by
        rw [List.take_of_length_le]
        rw [← packed, packedLine_length, stride, width]
      obtain ⟨offset, -⟩ := fits.copyInto onPage mono
      rw [offset] at copied
      have length := copyInto_length copied
      obtain ⟨above, rows⟩ := ih (show (job.holding rasterData
        (job.linesReceived + 1) err row).ditherer.mode = .bayer from isBayer)
        width stride (fits.holding length _ err row) rest
      have sameStride : (job.holding rasterData (job.linesReceived + 1) err
        row).bytesPerLine = job.bytesPerLine := rfl
      rw [sameStride] at above rows
      constructor
      · intro index before
        rw [above index (by rw [Nat.succ_mul]; omega)]
        exact copyInto_elsewhere copied (.inl before)
      · intro number other found image shown index inside
        cases number with
        | zero =>
            obtain rfl : line = other := Option.some.inj found
            obtain rfl : input = image :=
              Option.some.inj (grey.symm.trans shown)
            rw [Nat.add_zero, above _ (by rw [Nat.succ_mul]; omega)]
            have inPiece : index < (mono.take job.bytesPerLine).length := by
              rwa [size]
            have here := copyInto_inside copied inPiece
            rw [whole] at here
            rw [← width, packed]
            exact here
        | succ number =>
            have later := rows number other found image shown index inside
            rwa [Nat.add_assoc, Nat.add_comm 1 number] at later

end KsJob

/-! ### Pages -/

theorem toGrayLine_isSome {bitsPerPixel : Nat}
    (deep : bitsPerPixel = 8 ∨ bitsPerPixel = 24) (line : Bytes)
    (width : Nat) : (toGrayLine bitsPerPixel line width).isSome := by
  rcases deep with rfl | rfl
  · simp only [toGrayLine]
    split <;> rfl
  · rfl

/-- The grey of a pixel of a page. -/
def RasterPage.greyAt (page : RasterPage) (y x : Nat) : U8 :=
  (((page.lines[y]?).bind fun line =>
    toGrayLine page.header.bitsPerPixel.toNat line
      page.header.width.toNat).getD []).getD x 0#8

def Sheet.inked (sheet : Sheet) (y x : Nat) : Bool :=
  msbDot sheet.rasterData (divCeil sheet.width 8) y x

/-- A job of grey pages of one shape prints this sheet for this page, in the
default mode. -/
def BayerSheet (F : Type) [DitherFloat F] [DecidableLT F]
    (width height depth : U32) (page : RasterPage) (sheet : Sheet) : Prop :=
  ∃ (record : JobRecord) (copies : U32) (device : JobDevice)
    (pages : List RasterPage) (ended : Except String Unit) (number : Nat),
    (∀ other ∈ pages, other.Shaped width height depth) ∧
    pages[number]? = some page ∧
    PrintsSheet F .bayer record copies (.readable pages ended) device number
      sheet

/-- Every dot is set by the grey under it, mirrored. -/
theorem BayerSheet.inked_eq {width height depth : U32}
    (deep : depth = 8#32 ∨ depth = 24#32) {page : RasterPage} {sheet : Sheet}
    (printed : BayerSheet F width height depth page sheet) {y x : Nat}
    (onPage : y < height.toNat) (inside : x < width.toNat) :
    sheet.inked y x = halftone bayerThreshold
      (fun y x => toneLevel (page.greyAt y (width.toNat - 1 - x))) y x := by
  obtain ⟨record, copies, device, pages, ended, number, shaped, here,
    prints⟩ := printed
  obtain ⟨alone, written, rfl⟩ := sheet_alone deep (.inl rfl) shaped here prints
  obtain ⟨sameWidth, sameHeight, sameDepth⟩ :=
    shaped page (List.mem_of_getElem? here)
  have lines := ((KsJob.writePage_ok_iff page _ alone).mp written).2
  obtain ⟨-, rasterData, received, err, row, rfl, -⟩ :=
    KsJob.writePage_ok written
  have count : page.lines.length = height.toNat := by
    rw [RasterPage.lines, lineChunks_length, sameHeight]
  have depths : page.header.options.bitsPerPixel = 8 ∨
      page.header.options.bitsPerPixel = 24 := by
    rw [PageHeader.options, sameDepth]
    exact deep.imp (congrArg BitVec.toNat) (congrArg BitVec.toNat)
  have contone := fun line => toGrayLine_isSome depths line
    page.header.options.width.toNat
  have small : page.header.height.toNat *
      divCeil page.header.width.toNat 8 < 2 ^ 32 := by
    have bounded := KsJob.writeLines_small (by omega) rfl
      (by simpa [startJob, KsJob.start] using Nat.mod_lt _ (by decide))
      (by rw [Nat.zero_mul]; decide) lines
    rwa [Nat.zero_add, count, ← sameHeight] at bounded
  have suits : (startJob .bayer record page.header : KsJob F).Suits
      page.header := KsJob.startJob_suits _ _ small
  obtain ⟨line, found⟩ : ∃ line, page.lines[y]? = some line :=
    ⟨_, List.getElem?_eq_getElem (by rw [count]; exact onPage)⟩
  obtain ⟨input, grey⟩ := Option.isSome_iff_exists.mp (contone line)
  have rows := (KsJob.writeLines_bayer rfl suits.width suits.stride
    suits.toFits lines contone).2 y line found input grey
  have shown : page.greyAt y (width.toNat - 1 - x) =
      input.getD (width.toNat - 1 - x) 0#8 := by
    have sameGrey : toGrayLine page.header.bitsPerPixel.toNat line
      page.header.width.toNat = some input := grey
    rw [RasterPage.greyAt, found, Option.bind_some, sameGrey, Option.getD_some]
  rw [Nat.zero_add] at rows
  have column : width.toNat - 1 - (width.toNat - 1 - x) = x := by omega
  calc
    _ = mirrored page.header.width.toNat
          (bayerInk page.header.width.toNat input y) x :=
      msbDot_packedLine (by rw [← sameWidth] at inside; exact inside) rows
    _ = _ := by
      rw [mirrored, bayerInk, halftone, sameWidth, column, shown]

/-! ### Tone -/

/-- Any 16 dots in a square are as many as the greys under them ask for. -/
def ShowsTone (width height : Nat) (page : RasterPage) (sheet : Sheet) :
    Prop :=
  ∀ (top left : Nat) (dark light : U8), top + 4 ≤ height → left + 4 ≤ width →
    (∀ y ∈ Finset.Ico top (top + 4), ∀ x ∈ Finset.Ico left (left + 4),
      dark ≤ page.greyAt y (width - 1 - x) ∧
        page.greyAt y (width - 1 - x) ≤ light) →
    bayerDots light ≤ dotCount sheet.inked top left 4 4 ∧
      dotCount sheet.inked top left 4 4 ≤ bayerDots dark

theorem BayerSheet.showsTone {width height depth : U32}
    (deep : depth = 8#32 ∨ depth = 24#32) {page : RasterPage} {sheet : Sheet}
    (printed : BayerSheet F width height depth page sheet) :
    ShowsTone width.toNat height.toNat page sheet := by
  intro top left dark light rowsFit colsFit between
  let source (y x : Nat) : Nat :=
    toneLevel (page.greyAt y (width.toNat - 1 - x))
  have sameDot {y x : Nat} (inRows : y ∈ Finset.Ico top (top + 4))
      (inCols : x ∈ Finset.Ico left (left + 4)) :
      sheet.inked y x = halftone bayerThreshold source y x := by
    rw [Finset.mem_Ico] at inRows inCols
    exact printed.inked_eq deep (by omega) (by omega)
  have same : dotCount sheet.inked top left 4 4 =
      dotCount (halftone bayerThreshold source) top left 4 4 :=
    le_antisymm
      (dotCount_mono fun y inRows x inCols dot =>
        (sameDot inRows inCols).symm.trans dot)
      (dotCount_mono fun y inRows x inCols dot =>
        (sameDot inRows inCols).trans dot)
  have levels : levelDots bayerThreshold 4 4 (toneLevel light) ≤
        dotCount (halftone bayerThreshold source) top left 4 4 ∧
      dotCount (halftone bayerThreshold source) top left 4 4 ≤
        levelDots bayerThreshold 4 4 (toneLevel dark) :=
    bayerThreshold_repeats.dotCount_between fun y inRows x inCols =>
      (between y inRows x inCols).imp toneLevel_mono toneLevel_mono
  rwa [levelDots_bayerThreshold, levelDots_bayerThreshold, ← same] at levels

/-- In the default mode every sheet of a job of grey pages keeps the tone of
its page, and a page that is nowhere lighter than another has all the dots of
the other. -/
theorem bayerSheets_showTone (F : Type) [DitherFloat F] [DecidableLT F]
    (width height depth : U32) (deep : depth = 8#32 ∨ depth = 24#32) :
    (∀ page sheet, BayerSheet F width height depth page sheet →
      ShowsTone width.toNat height.toNat page sheet) ∧
    ∀ page sheet lighter lightSheet,
      BayerSheet F width height depth page sheet →
      BayerSheet F width height depth lighter lightSheet →
      (∀ y x, page.greyAt y x ≤ lighter.greyAt y x) →
      ∀ y < height.toNat, ∀ x < width.toNat,
        lightSheet.inked y x = true → sheet.inked y x = true := by
  constructor
  · intro page sheet printed
    exact printed.showsTone deep
  · intro page sheet lighter lightSheet printed printedLight darker y onPage x
      inside dot
    rw [printedLight.inked_eq deep onPage inside] at dot
    rw [printed.inked_eq deep onPage inside]
    exact halftone_of_le (toneLevel_mono (darker y _)) dot

end Pages

/-- A page of one grey, of four lines of eight dots. -/
def evenPage (grey : U8) : RasterPage :=
  ⟨⟨8#32, 4#32, 8#32, 8#32, 1#32⟩, List.replicate 32 grey, ""⟩

theorem evenPage_greyAt (grey : U8) (y x : Nat) :
    (evenPage grey).greyAt y x = if y < 4 ∧ x < 8 then grey else 0#8 := by
  have lines : (evenPage grey).lines =
      List.replicate 4 (List.replicate 8 grey) := rfl
  have row : toGrayLine 8 (List.replicate 8 grey) 8 =
      some (List.replicate 8 grey) := rfl
  rw [RasterPage.greyAt, lines, List.getElem?_replicate]
  by_cases inRows : y < 4
  · rw [if_pos inRows, Option.bind_some]
    show ((toGrayLine 8 _ 8).getD []).getD x 0#8 = _
    rw [row, Option.getD_some, List.getD_eq_getElem?_getD,
      List.getElem?_replicate]
    by_cases inside : x < 8 <;> simp [inRows, inside]
  · simp [inRows]

/-- A document of a grey page and a lighter one. -/
theorem bayerSheets_showTone_label :
    let dark : Sheet := ⟨8, 4, [0x00#8, 0xAA#8, 0x00#8, 0xAA#8], 8#8, 384⟩
    let light : Sheet := ⟨8, 4, [0x00#8, 0x22#8, 0x00#8, 0x88#8], 8#8, 384⟩
    ShowsTone 8 4 (evenPage 128#8) dark ∧
      ShowsTone 8 4 (evenPage 192#8) light ∧
      ∀ y < 4, ∀ x < 8, light.inked y x = true → dark.inked y x = true := by
  intro dark light
  have shaped : ∀ other ∈ [evenPage 128#8, evenPage 192#8],
      other.Shaped 8#32 4#32 8#32 := by
    intro other member
    rcases List.mem_pair.mp member with rfl | rfl
    · exact ⟨rfl, rfl, rfl⟩
    · exact ⟨rfl, rfl, rfl⟩
  have printsDark : BayerSheet Rat 8#32 4#32 8#32 (evenPage 128#8) dark :=
    ⟨⟨"", 50#32, 384#32⟩, 1#32, fun _ _ => .ok (), _, .ok (), 0, shaped, rfl,
      printsSheet_iff_mem.mpr (by decide +kernel)⟩
  have printsLight : BayerSheet Rat 8#32 4#32 8#32 (evenPage 192#8) light :=
    ⟨⟨"", 50#32, 384#32⟩, 1#32, fun _ _ => .ok (), _, .ok (), 1, shaped, rfl,
      printsSheet_iff_mem.mpr (by decide +kernel)⟩
  obtain ⟨shows, keeps⟩ :=
    bayerSheets_showTone Rat 8#32 4#32 8#32 (.inl rfl)
  refine ⟨shows _ _ printsDark, shows _ _ printsLight,
    keeps _ _ _ _ printsDark printsLight fun y x => ?_⟩
  rw [evenPage_greyAt, evenPage_greyAt]
  split
  · decide
  · exact BitVec.le_refl _

end SupvanCups
