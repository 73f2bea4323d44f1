import SupvanCups.GreyLines
import SupvanCups.PageRuns

/-!
# Pages that show what a job carries

Contone pages with one telling pixel at the start of each line and white after
it.  Black and white ones leave a clean job clean.  A page that ends near white
leaves an error, and a page that starts with an edge grey shows it in its first
dot.
-/

namespace SupvanCups

/-! ### Lines with one telling pixel -/

def Contone (h : PageHeader) : Prop :=
  h.bitsPerPixel = 8#32 ∨ h.bitsPerPixel = 24#32

/-- A line that starts with a pixel of this grey and goes on white. -/
def sourceLine (h : PageHeader) (grey : U8) : Bytes :=
  List.replicate (h.bitsPerPixel.toNat / 8) grey ++
    List.replicate (h.bytesPerLine.toNat - h.bitsPerPixel.toNat / 8) 0xFF#8

/-- A page with these greys at the starts of its lines. -/
def sourcePage (h : PageHeader) (greys : List U8) : RasterPage :=
  ⟨h, greys.flatMap (sourceLine h), ""⟩

/-- The lines of a page but one, all white. -/
def otherLines (h : PageHeader) : List U8 :=
  List.replicate (h.height.toNat - 1) 0xFF#8

/-- A page whose lines all start with the same grey. -/
def plainPage (h : PageHeader) (grey : U8) : RasterPage :=
  sourcePage h (List.replicate h.height.toNat grey)

/-- A page that ends near white. -/
def markedPage (h : PageHeader) : RasterPage :=
  sourcePage h (otherLines h ++ [nearWhite])

/-- A page that starts with an edge grey. -/
def edgePage (h : PageHeader) (isVendor : Bool) : RasterPage :=
  sourcePage h (edgeGrey isVendor :: otherLines h)

/-- Lines are long enough for one pixel. -/
def HasPixels (h : PageHeader) : Prop :=
  h.bitsPerPixel.toNat / 8 ≤ h.bytesPerLine.toNat ∧ h.width ≠ 0#32

theorem sourceLine_length {h : PageHeader}
    (fits : h.bitsPerPixel.toNat / 8 ≤ h.bytesPerLine.toNat) (grey : U8) :
    (sourceLine h grey).length = h.bytesPerLine.toNat := by
  simp only [sourceLine, List.length_append, List.length_replicate]
  omega

theorem lineChunks_flatMap {size : Nat} {line : U8 → Bytes}
    (full : ∀ grey, (line grey).length = size) (greys : List U8) :
    lineChunks greys.length size (greys.flatMap line) = greys.map line := by
  induction greys with
  | nil => rfl
  | cons grey greys ih =>
      simp only [List.flatMap_cons, List.length_cons, lineChunks, List.map_cons]
      rw [← full grey, List.take_left, List.drop_left, full grey, ih]

theorem sourcePage_lines {h : PageHeader} (pixels : HasPixels h)
    {greys : List U8} (count : greys.length = h.height.toNat) :
    (sourcePage h greys).lines = greys.map (sourceLine h) := by
  rw [RasterPage.lines, sourcePage, ← count]
  exact lineChunks_flatMap (sourceLine_length pixels.1) greys

theorem sourcePage_content_length {h : PageHeader}
    (fits : h.bitsPerPixel.toNat / 8 ≤ h.bytesPerLine.toNat)
    (greys : List U8) :
    (sourcePage h greys).content.length =
      greys.length * h.bytesPerLine.toNat := by
  simp [sourcePage, List.length_flatMap, sourceLine_length fits]

/-- The line that the ditherer gets. -/
def greyInput (h : PageHeader) (grey : U8) : Bytes :=
  grey :: List.replicate (h.width.toNat - 1) 0xFF#8

theorem greyInput_length {h : PageHeader} (pixels : HasPixels h) (grey : U8) :
    (greyInput h grey).length = h.width.toNat := by
  have wide : h.width.toNat ≠ 0 := by
    simpa [← BitVec.toNat_inj] using pixels.2
  simp only [greyInput, List.length_cons, List.length_replicate]
  omega

theorem greyInput_rest (h : PageHeader) (grey : U8) {x : Nat} (positive : 0 < x)
    (inside : x < h.width.toNat) : (greyInput h grey).getD x 0#8 = 0xFF#8 := by
  obtain ⟨x, rfl⟩ := Nat.exists_eq_add_of_lt positive
  have within : 0 + x < h.width.toNat - 1 := by omega
  simp only [greyInput, List.getD_cons_succ, List.getD_replicate _ within]

theorem toGrayLine_sourceLine {h : PageHeader} (contone : Contone h)
    (pixels : HasPixels h) (grey : U8) :
    toGrayLine h.options.bitsPerPixel (sourceLine h grey)
        h.options.width.toNat =
      some (greyInput h grey) := by
  obtain ⟨fits, wide⟩ := pixels
  rw [greyInput]
  have widthPos : 0 < h.width.toNat := by
    rw [Nat.pos_iff_ne_zero]
    simpa [← BitVec.toNat_inj] using wide
  obtain ⟨more, width⟩ := Nat.exists_eq_add_of_lt widthPos
  rw [Nat.zero_add] at width
  rcases contone with grey8 | rgb24
  · have one : h.bitsPerPixel.toNat / 8 = 1 := by rw [grey8]; rfl
    have bits : h.options.bitsPerPixel = 8 := congrArg BitVec.toNat grey8
    have options : h.options.width = h.width := rfl
    rw [bits, options, width]
    simp only [sourceLine, one, toGrayLine, List.length_append,
      List.length_replicate]
    by_cases long : more + 1 ≤ 1 + (h.bytesPerLine.toNat - 1)
    · have count : min more (h.bytesPerLine.toNat - 1) = more + 1 - 1 := by
        omega
      rw [if_pos long, List.replicate_one, List.singleton_append,
        List.take_succ_cons, List.take_replicate, count]
    · have count : h.bytesPerLine.toNat - 1 +
          (more + 1 - (1 + (h.bytesPerLine.toNat - 1))) = more + 1 - 1 := by
        omega
      rw [if_neg long, List.append_assoc, List.replicate_append_replicate,
        List.replicate_one, List.singleton_append, count]
  · have three : h.bitsPerPixel.toNat / 8 = 3 := by rw [rgb24]; rfl
    have bits : h.options.bitsPerPixel = 24 := congrArg BitVec.toNat rgb24
    have options : h.options.width = h.width := rfl
    rw [bits, options, width]
    have line : sourceLine h grey = SentRow.rgbPixel grey ++
        List.replicate (h.bytesPerLine.toNat - 3) 0xFF#8 := by
      rw [sourceLine, three]
      rfl
    rw [line, SentRow.toGrayLine_rgbPixel, SentRow.toGrayLine_white,
      Option.map_some, Nat.add_sub_cancel]

section Probe

variable {F : Type} [DitherFloat F] [DecidableLT F]

/-! ### What lines leave -/

namespace KsJob

variable {h : PageHeader} {job job' : KsJob F}

/-- Lines that start black or white keep a job clean. -/
theorem writeLines_keepsClean [ExactOnBilevel F] (contone : Contone h)
    (pixels : HasPixels h) (width : job.ditherer.width = h.width.toNat)
    (clean : job.ditherer.Clean) {greys : List U8}
    (bilevel : ∀ grey ∈ greys, ∃ ink, grey = bilevelPixel ink) {y : Nat}
    (run : writeLines h.options (greys.map (sourceLine h)) y job =
      some (.ok job')) : job'.ditherer.Clean := by
  induction greys generalizing y job with
  | nil =>
      obtain rfl := Except.ok.inj (Option.some.inj run)
      exact clean
  | cons grey greys ih =>
      obtain ⟨⟨ink, rfl⟩, later⟩ := List.forall_mem_cons.mp bilevel
      obtain ⟨next, written, rest⟩ := writeLines_cons run
      obtain ⟨_, mono, rasterData, err, row, dithered, _, rfl⟩ :=
        writeLine_grey (toGrayLine_sourceLine contone pixels _) written
      have stillClean : (job.holding rasterData (job.linesReceived + 1) err
          row).ditherer.Clean := by
        apply Ditherer.line_keepsClean clean _
          (fun x => decide (x = 0) && ink) _ dithered
        · exact (width.trans (greyInput_length pixels _).symm).le
        · intro x inside
          rcases Nat.eq_zero_or_pos x with rfl | positive
          · rfl
          · rw [greyInput_rest h _ positive (by omega)]
            simp [positive.ne', bilevelPixel]
      apply ih _ stillClean later rest
      exact width

theorem dotAt_replicate_zero (width x count : Nat) :
    dotAt width x (List.replicate count 0#8) = false :=
  bitAt_replicate_zero count _ _

/-- A clean job whose last line starts near white turns the next edge grey
black. -/
theorem writeLines_marks [CarriesError F] {kernel : Kernel F}
    {isVendor : Bool} (chosen : job.ditherer.mode.kernel =
      some (kernel, isVendor)) (contone : Contone h) (pixels : HasPixels h)
    (width : job.ditherer.width = h.width.toNat) (clean : job.ditherer.Clean)
    {whites y : Nat}
    (run : writeLines h.options
      ((List.replicate whites 0xFF#8 ++ [nearWhite]).map (sourceLine h)) y
        job = some (.ok job')) : job'.ditherer.EdgeIs isVendor true := by
  rw [List.map_append, List.map_singleton] at run
  obtain ⟨middle, white, last⟩ := writeLines_append run
  have cleanMiddle : middle.ditherer.Clean := by
    apply writeLines_keepsClean contone pixels width clean _ white
    intro grey member
    exact ⟨false, List.eq_of_mem_replicate member⟩
  obtain ⟨_, _, _, _, _, same, _, _⟩ := writeLines_ok white
  have chosenMiddle : middle.ditherer.mode.kernel =
      some (kernel, isVendor) := by
    rw [same]
    exact chosen
  have widthMiddle : middle.ditherer.width = h.width.toNat := by
    rw [same]
    exact width
  obtain ⟨_, written, done⟩ := writeLines_cons last
  obtain rfl := Except.ok.inj (Option.some.inj done)
  obtain ⟨_, mono, rasterData, err', row', dithered, _, rfl⟩ :=
    writeLine_grey (toGrayLine_sourceLine contone pixels _) written
  apply Ditherer.line_marks chosenMiddle cleanMiddle _ _ rfl _ _
    (dotAt_replicate_zero _ _ _) dithered
  · exact widthMiddle.trans_lt h.width.isLt
  · exact (widthMiddle.trans (greyInput_length pixels nearWhite).symm).le
  · intro x positive inside
    exact greyInput_rest h _ positive (widthMiddle ▸ inside)
  · rw [List.length_replicate]
    exact (congrArg (divCeil · 8) widthMiddle).le

theorem copyInto_getD_before {buffer piece copied : Bytes} {offset : Nat}
    (run : copyInto buffer offset piece = some copied) {index : Nat}
    (before : index < offset) :
    copied.getD index 0#8 = buffer.getD index 0#8 := by
  rw [List.getD_eq_getElem?_getD, List.getD_eq_getElem?_getD,
    copyInto_elsewhere run (.inl before)]

theorem copyInto_getD_start {buffer piece copied : Bytes}
    (run : copyInto buffer 0 piece = some copied) {index : Nat}
    (inside : index < piece.length) :
    copied.getD index 0#8 = piece.getD index 0#8 := by
  have same := copyInto_inside run inside
  rw [Nat.zero_add] at same
  rw [List.getD_eq_getElem?_getD, List.getD_eq_getElem?_getD, same]

/-- Lines below the first leave the first alone. -/
theorem writeLines_keepsFirst {options : JobOptions} {lines : List Bytes}
    {y : Nat} (fits : job.Fits) (below : 1 ≤ y)
    (run : writeLines options lines y job = some (.ok job')) {index : Nat}
    (inside : index < job.bytesPerLine) :
    job'.rasterData.getD index 0#8 = job.rasterData.getD index 0#8 := by
  induction lines generalizing y job with
  | nil =>
      obtain rfl := Except.ok.inj (Option.some.inj run)
      rfl
  | cons line lines ih =>
      obtain ⟨next, written, rest⟩ := writeLines_cons run
      obtain ⟨onPage, packed, rasterData, err, row, copied, rfl, _, _⟩ :=
        writeLine_ok written
      rw [ih (fits.holding (copyInto_length copied) _ err row)
        (by omega) rest inside]
      have first : job.bytesPerLine ≤ y * job.bytesPerLine :=
        Nat.le_mul_of_pos_left _ below
      have last : y * job.bytesPerLine ≤ job.height * job.bytesPerLine :=
        Nat.mul_le_mul_right _ onPage.le
      have small := fits.small
      rw [Nat.mod_eq_of_lt (by omega)] at copied
      exact copyInto_getD_before copied (by omega)

/-- The first dot of a page that starts with an edge grey shows what the job
carries. -/
theorem writeLines_edge {kernel : Kernel F} {isVendor : Bool}
    (chosen : job.ditherer.mode.kernel = some (kernel, isVendor))
    (contone : Contone h) (pixels : HasPixels h)
    (width : job.ditherer.width = h.width.toNat) (fits : job.Fits)
    (stride : job.bytesPerLine = divCeil h.width.toNat 8) {ink : Bool}
    (edge : job.ditherer.EdgeIs isVendor ink) {lines : List Bytes}
    (run : writeLines h.options (sourceLine h (edgeGrey isVendor) :: lines) 0
      job = some (.ok job')) :
    dotAt h.width.toNat 0 job'.rasterData = ink := by
  have widthPos : 0 < h.width.toNat := by
    rw [Nat.pos_iff_ne_zero]
    simpa [← BitVec.toNat_inj] using pixels.2
  obtain ⟨next, written, rest⟩ := writeLines_cons run
  obtain ⟨_, mono, rasterData, err, row, dithered, copied, rfl⟩ :=
    writeLine_grey (toGrayLine_sourceLine contone pixels _) written
  have options : h.options.width = h.width := rfl
  have dot : dotAt job.ditherer.width 0 mono = ink := by
    apply Ditherer.line_edge chosen (widthPos.trans_eq width.symm) _ rfl _
      (dotAt_replicate_zero _ _ _) edge dithered
    · exact (width.trans (greyInput_length pixels _).symm).le
    · rw [List.length_replicate]
      exact (congrArg (divCeil · 8) width).le
  have length : mono.length = job.bytesPerLine := by
    rw [(Ditherer.line_some dithered).1, List.length_replicate, stride, options]
  have place : (h.width.toNat - 1 - 0) / 8 < job.bytesPerLine := by
    rw [stride, divCeil]
    omega
  rw [width] at dot
  rw [← dot, dotAt, dotAt, bitAt, bitAt,
    writeLines_keepsFirst (fits.holding (copyInto_length copied) _ err row)
      (Nat.le_refl 1) rest place]
  rw [Nat.zero_mul, Nat.zero_mod, List.take_of_length_le length.le] at copied
  have data : (job.holding rasterData (job.linesReceived + 1) err
    row).rasterData = rasterData := rfl
  rw [data, copyInto_getD_start copied (by omega)]

/-! ### What pages leave -/

/-- The job is sized for pages with this header. -/
structure Suits (job : KsJob F) (h : PageHeader) : Prop extends job.Fits where
  width : job.ditherer.width = h.width.toNat
  stride : job.bytesPerLine = divCeil h.width.toNat 8
  height : h.height.toNat ≤ job.height

omit [DitherFloat F] [DecidableLT F] in
theorem Suits.carrying (suits : job.Suits h)
    (err : ErrorRing F job.ditherer.width) (row : Fin errorRows) :
    (job.carrying err row).Suits h :=
  ⟨⟨suits.size, suits.small⟩, suits.width, suits.stride, suits.height⟩

omit [DitherFloat F] [DecidableLT F] in
theorem Suits.room (suits : job.Suits h) : Room h.options job :=
  .inr (.inr (congrArg (divCeil · 8) suits.width).le)

omit [DecidableLT F] in
theorem startJob_suits (dither : DitherMode) (record : JobRecord)
    {h : PageHeader}
    (small : h.height.toNat * divCeil h.width.toNat 8 < 2 ^ 32) :
    (startJob dither record h : KsJob F).Suits h where
  size := by
    simp only [startJob, start, PageHeader.options, List.length_replicate]
    exact Nat.mod_eq_of_lt small
  small := small
  width := rfl
  stride := rfl
  height := Nat.le_refl _

omit [DecidableLT F] in
theorem startJob_blank (dither : DitherMode) (record : JobRecord)
    (h : PageHeader) : (startJob dither record h : KsJob F).Blank :=
  ⟨⟨_, rfl⟩, rfl⟩

theorem depth_of_contone (contone : Contone h) : Depth h.options :=
  .inr (contone.imp (congrArg BitVec.toNat) (congrArg BitVec.toNat))

/-- A page with all its lines is written. -/
theorem Suits.writePage (suits : job.Suits h) (contone : Contone h)
    (pixels : HasPixels h) (greys : List U8)
    (count : greys.length = h.height.toNat) :
    ∃ next, job.writePage (sourcePage h greys) = .ok next ∧
      writeLines h.options (greys.map (sourceLine h)) 0 job =
        some (.ok next) := by
  have enough : h.height.toNat * h.bytesPerLine.toNat ≤
      (sourcePage h greys).content.length := by
    rw [sourcePage_content_length pixels.1, count]
  obtain ⟨next, written⟩ : ∃ next,
      job.writePage (sourcePage h greys) = .ok next :=
    (writePage_total suits.toFits (depth_of_contone contone) suits.room).2
      enough suits.height
  refine ⟨next, written, ?_⟩
  rw [← sourcePage_lines pixels count]
  exact ((writePage_ok_iff _ _ _).mp written).2

/-- A written page leaves the job to the next with other error rows. -/
theorem clearPage_of_writePage {page : RasterPage} {next : KsJob F}
    (blank : job.Blank) (written : job.writePage page = .ok next) :
    ∃ err row, next.clearPage = job.carrying err row := by
  obtain ⟨_, data, received, err, row, rfl, length, _⟩ := writePage_ok written
  exact ⟨err, row, clearPage_holding blank length received err row⟩

section Telling

variable {kernel : Kernel F} {isVendor : Bool}

theorem Suits.plainPage [ExactOnBilevel F] (suits : job.Suits h)
    (contone : Contone h) (pixels : HasPixels h)
    (clean : job.ditherer.Clean) (ink : Bool) :
    ∃ next, job.writePage (plainPage h (bilevelPixel ink)) = .ok next ∧
      next.ditherer.Clean := by
  obtain ⟨next, written, run⟩ :=
    suits.writePage contone pixels _ List.length_replicate
  refine ⟨next, written, ?_⟩
  apply writeLines_keepsClean contone pixels suits.width clean _ run
  intro grey member
  exact ⟨ink, List.eq_of_mem_replicate member⟩

theorem Suits.markedPage [CarriesError F] (suits : job.Suits h)
    (contone : Contone h) (pixels : HasPixels h) (tall : h.height ≠ 0#32)
    (chosen : job.ditherer.mode.kernel = some (kernel, isVendor))
    (clean : job.ditherer.Clean) :
    ∃ next, job.writePage (markedPage h) = .ok next ∧
      next.ditherer.EdgeIs isVendor true := by
  have positive : h.height.toNat ≠ 0 := by
    simpa [← BitVec.toNat_inj] using tall
  obtain ⟨next, written, run⟩ := suits.writePage contone pixels
    (otherLines h ++ [nearWhite]) (by
      simp only [otherLines, List.length_append, List.length_replicate,
        List.length_singleton]
      omega)
  exact ⟨next, written,
    writeLines_marks chosen contone pixels suits.width clean run⟩

theorem Suits.edgePage (suits : job.Suits h) (contone : Contone h)
    (pixels : HasPixels h) (tall : h.height ≠ 0#32)
    (chosen : job.ditherer.mode.kernel = some (kernel, isVendor)) {ink : Bool}
    (edge : job.ditherer.EdgeIs isVendor ink) :
    ∃ next, job.writePage (edgePage h isVendor) = .ok next ∧
      dotAt h.width.toNat 0 next.sheet.rasterData = ink := by
  have positive : h.height.toNat ≠ 0 := by
    simpa [← BitVec.toNat_inj] using tall
  obtain ⟨next, written, run⟩ := suits.writePage contone pixels
    (edgeGrey isVendor :: otherLines h) (by
      simp only [otherLines, List.length_cons, List.length_replicate]
      omega)
  exact ⟨next, written, writeLines_edge chosen contone pixels suits.width
    suits.toFits suits.stride edge run⟩

end Telling

end KsJob

end Probe

end SupvanCups
