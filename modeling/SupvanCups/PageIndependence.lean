import SupvanCups.ProbePages

/-!
# Pages that do not influence each other

Between two pages of a job the raster is cleared and the error rows of the
ditherer are not.  So the bitmap of a contone page depends on its own lines
alone only in the ordered mode, or where there are no dots to carry an error.
-/

namespace SupvanCups

structure RasterPage.Shaped (width height depth : U32) (page : RasterPage) :
    Prop where
  width : page.header.width = width
  height : page.header.height = height
  depth : page.header.bitsPerPixel = depth

/-- In any two jobs of pages of one shape, pages with the same lines have the
same bitmap. -/
def PagesIndependent (F : Type) [DitherFloat F] [DecidableLT F]
    (mode : DitherMode) (width height depth : U32) : Prop :=
  ∀ (record record' : JobRecord) (copies copies' : U32)
    (device device' : JobDevice) (pages pages' : List RasterPage)
    (ended ended' : Except String Unit),
    (∀ page ∈ pages ++ pages', page.Shaped width height depth) →
    ∀ number page page', pages[number]? = some page →
      pages'[number]? = some page' → page.lines = page'.lines →
      ∀ sheet sheet',
        PrintsSheet F mode record copies (.readable pages ended) device number
          sheet →
        PrintsSheet F mode record' copies' (.readable pages' ended') device'
          number sheet' →
        sheet.rasterData = sheet'.rasterData

/-- No error is carried, or there are no dots that could show it. -/
def CarriesNothing (mode : DitherMode) (width height : U32) : Prop :=
  mode = .bayer ∨ width = 0#32 ∨ height = 0#32 ∨
    2 ^ 32 ≤ height.toNat * divCeil width.toNat 8

section Independence

variable {F : Type} [DitherFloat F] [DecidableLT F]

/-! ### Pages that cannot carry anything -/

/-- Full lines that were all taken fit a `u32` size. -/
theorem KsJob.writeLines_small {options : JobOptions} {lines : List Bytes}
    {y : Nat} {job job' : KsJob F} (contone : options.bitsPerPixel ≠ 1)
    (stride : job.bytesPerLine = divCeil options.width.toNat 8)
    (size : job.rasterData.length < 2 ^ 32)
    (reached : y * job.bytesPerLine < 2 ^ 32)
    (run : writeLines options lines y job = some (.ok job')) :
    (y + lines.length) * job.bytesPerLine < 2 ^ 32 := by
  induction lines generalizing y job with
  | nil => simpa using reached
  | cons line lines ih =>
      obtain ⟨next, written, rest⟩ := writeLines_cons run
      obtain ⟨_, packed, rasterData, err, row, copied, same, length, _⟩ :=
        writeLine_ok written
      have full : (packed.take job.bytesPerLine).length = job.bytesPerLine := by
        rw [List.length_take, length contone, stride, Nat.min_self]
      have inside : y * job.bytesPerLine + job.bytesPerLine ≤
          job.rasterData.length := by
        have fits := (copyInto_some copied).1
        rwa [Nat.mod_eq_of_lt reached, full] at fits
      have sameStride : next.bytesPerLine = job.bytesPerLine := by
        rw [same]
        rfl
      have sameSize : next.rasterData.length = job.rasterData.length := by
        rw [same]
        exact copyInto_length copied
      have lower : (y + 1) * job.bytesPerLine < 2 ^ 32 := by
        rw [Nat.succ_mul]
        exact inside.trans_lt size
      have last := ih (sameStride.trans stride) (sameSize.trans_lt size)
        (by rwa [sameStride]) rest
      rw [sameStride] at last
      rwa [Nat.add_assoc, Nat.add_comm 1] at last

/-- The sheet of a page is the one it has on a job of its own. -/
theorem sheet_of_carriesNothing {mode : DitherMode} {record : JobRecord}
    {width height depth : U32} (deep : depth = 8#32 ∨ depth = 24#32)
    (nothing : CarriesNothing mode width height) {first page : RasterPage}
    (firstShaped : first.Shaped width height depth)
    (shaped : page.Shaped width height depth) {before : List RasterPage}
    {state next : KsJob F}
    (left : (startJob mode record first.header).afterPages before = .ok state)
    (written : state.writePage page = .ok next) :
    ∃ alone, (startJob mode record page.header : KsJob F).writePage page =
      .ok alone ∧ next.sheet = alone.sheet := by
  have contone : Contone page.header := by
    rw [Contone, shaped.depth]
    exact deep
  rw [startJob_congr mode record (firstShaped.width.trans shaped.width.symm)
    (firstShaped.height.trans shaped.height.symm)] at left
  obtain ⟨⟨err, row, rfl⟩, same, _⟩ :=
    KsJob.afterPages_ok (KsJob.startJob_blank mode record page.header) left
  have empty (small : height.toNat * divCeil width.toNat 8 = 0) :
      ∃ alone, (startJob mode record page.header : KsJob F).writePage page =
        .ok alone ∧ next.sheet = alone.sheet := by
    have suits : (startJob mode record page.header : KsJob F).Suits
        page.header := by
      apply KsJob.startJob_suits
      rw [shaped.height, shaped.width, small]
      decide
    apply KsJob.writePage_carrying_empty suits.toFits _
      (KsJob.depth_of_contone contone) suits.room written
    apply List.eq_nil_of_length_eq_zero
    rw [suits.size]
    simpa [startJob, KsJob.start, PageHeader.options, shaped.height,
      shaped.width] using small
  rcases nothing with isBayer | noWidth | noHeight | large
  · rw [same fun _ _ => .inr isBayer] at written
    exact ⟨next, written, rfl⟩
  · exact empty (by rw [noWidth]; simp [divCeil])
  · exact empty (by rw [noHeight]; simp)
  · have lines := ((KsJob.writePage_ok_iff page _ next).mp written).2
    have deeper : page.header.options.bitsPerPixel ≠ 1 := by
      rcases contone with grey8 | rgb24
      · simp [PageHeader.options, grey8]
      · simp [PageHeader.options, rgb24]
    have small := KsJob.writeLines_small deeper rfl
      (by simpa [KsJob.carrying, startJob, KsJob.start] using
        Nat.mod_lt _ (by decide)) (by rw [Nat.zero_mul]; decide) lines
    have stride : ((startJob mode record page.header : KsJob F).carrying err
        row).bytesPerLine = divCeil width.toNat 8 := by
      rw [← shaped.width]
      rfl
    rw [RasterPage.lines, lineChunks_length, Nat.zero_add, stride,
      shaped.height] at small
    omega

/-- What a run prints for a page is what the page alone leaves on a new job. -/
theorem sheet_alone {mode : DitherMode} {record : JobRecord} {copies : U32}
    {width height depth : U32} (deep : depth = 8#32 ∨ depth = 24#32)
    (nothing : CarriesNothing mode width height) {pages : List RasterPage}
    {ended : Except String Unit}
    (shaped : ∀ page ∈ pages, page.Shaped width height depth)
    {device : JobDevice} {number : Nat} {page : RasterPage} {sheet : Sheet}
    (here : pages[number]? = some page)
    (prints : PrintsSheet F mode record copies (.readable pages ended) device
      number sheet) :
    ∃ alone, (startJob mode record page.header : KsJob F).writePage page =
      .ok alone ∧ sheet = alone.sheet := by
  cases pages with
  | nil => cases here
  | cons first pages =>
      obtain ⟨before, found, after, split, state, next, left, written, rfl,
        rfl⟩ := prints.written
      rw [split, List.getElem?_append_right (Nat.le_refl _), Nat.sub_self,
        List.getElem?_cons_zero] at here
      obtain rfl := Option.some.inj here
      have member : found ∈ first :: pages := by simp [split]
      exact sheet_of_carriesNothing deep nothing
        (shaped first List.mem_cons_self) (shaped found member) left written

theorem pagesIndependent_of_carriesNothing {mode : DitherMode}
    {width height depth : U32} (deep : depth = 8#32 ∨ depth = 24#32)
    (nothing : CarriesNothing mode width height) :
    PagesIndependent F mode width height depth := by
  intro record record' copies copies' device device' pages pages' ended ended'
    shaped number page page' here here' lines sheet sheet' prints prints'
  have alone := sheet_alone deep nothing
    (fun page member => shaped page (List.mem_append_left _ member)) here prints
  have alone' := sheet_alone deep nothing
    (fun page member => shaped page (List.mem_append_right _ member)) here'
    prints'
  obtain ⟨next, written, rfl⟩ := alone
  obtain ⟨next', written', rfl⟩ := alone'
  have member := List.mem_of_getElem? here
  have member' := List.mem_of_getElem? here'
  have shapedHere := shaped page (List.mem_append_left _ member)
  have shapedHere' := shaped page' (List.mem_append_right _ member')
  have options : page.header.options = page'.header.options := by
    simp only [PageHeader.options, shapedHere.width, shapedHere.height,
      shapedHere.depth, shapedHere'.width, shapedHere'.height,
      shapedHere'.depth]
  have taken := ((KsJob.writePage_ok_iff page _ next).mp written).2
  have taken' := ((KsJob.writePage_ok_iff page' _ next').mp written').2
  have both := KsJob.writeLines_map (fun job y line =>
    job.writeLine_equipped page.header.options y line record'.density
      record'.printheadWidthDots.toNat) taken
  have started : (startJob mode record page.header : KsJob F).equipped
      record'.density record'.printheadWidthDots.toNat
        (startJob mode record page.header).ditherer =
          startJob mode record' page'.header :=
    startJob_congr mode record'
      (shapedHere.width.trans shapedHere'.width.symm)
      (shapedHere.height.trans shapedHere'.height.symm)
  rw [options, lines, started, taken'] at both
  rw [Except.ok.inj (Option.some.inj both)]
  rfl

/-! ### Pages that carry an error -/

/-- A page that starts with an edge grey shows what the page before it left. -/
theorem exists_second_sheet {mode : DitherMode} {record : JobRecord}
    {h : PageHeader} (contone : Contone h) (pixels : HasPixels h)
    (tall : h.height ≠ 0#32)
    (small : h.height.toNat * divCeil h.width.toNat 8 < 2 ^ 32)
    {kernel : Kernel F} {isVendor : Bool}
    (chosen : mode.kernel = some (kernel, isVendor)) (greys : List U8)
    {next : KsJob F}
    (written : (startJob mode record h).writePage (sourcePage h greys) =
      .ok next) {ink : Bool} (edge : next.ditherer.EdgeIs isVendor ink) :
    ∃ sheet, dotAt h.width.toNat 0 sheet.rasterData = ink ∧
      PrintsSheet F mode record 1#32
        (.readable [sourcePage h greys, edgePage h isVendor] (.ok ()))
        (fun _ _ => .ok ()) 1 sheet := by
  have suits : (startJob mode record h : KsJob F).Suits h :=
    KsJob.startJob_suits mode record small
  obtain ⟨err, row, cleared⟩ := KsJob.clearPage_of_writePage
    (KsJob.startJob_blank mode record h) written
  have edgeCleared : next.clearPage.ditherer.EdgeIs isVendor ink := edge
  rw [cleared] at edgeCleared
  obtain ⟨last, writtenLast, dot⟩ := (suits.carrying err row).edgePage contone
    pixels tall chosen edgeCleared
  have left : (startJob mode record h : KsJob F).afterPages
      [sourcePage h greys] =
        .ok ((startJob mode record h).carrying err row) := by
    simp only [KsJob.afterPages, written, cleared]
  have prints : PrintsSheet F mode record 1#32
      (.readable [sourcePage h greys, edgePage h isVendor] (.ok ()))
      (fun _ _ => .ok ()) [sourcePage h greys].length last.sheet :=
    printsSheet_accepting rfl left writtenLast
  exact ⟨last.sheet, dot, prints⟩

/-- A page that ends near white is told from a white one by the next page. -/
theorem carriesNothing_of_pagesIndependent [CarriesError F]
    {mode : DitherMode} {width height depth : U32}
    (deep : depth = 8#32 ∨ depth = 24#32)
    (independent : PagesIndependent F mode width height depth) :
    CarriesNothing mode width height := by
  by_contra carries
  simp only [CarriesNothing, not_or, not_le] at carries
  obtain ⟨diffuses, wide, tall, small⟩ := carries
  obtain ⟨kernel, isVendor, chosen⟩ := DitherMode.exists_kernel F diffuses
  let record : JobRecord := ⟨"", 0#32, 0#32⟩
  let h : PageHeader := ⟨width, height, depth, 3#32, 1#32⟩
  have contone : Contone h := deep
  have pixels : HasPixels h := by
    rcases deep with rfl | rfl
    · exact ⟨by simp [h], wide⟩
    · exact ⟨by simp [h], wide⟩
  have shaped (greys : List U8) :
      (sourcePage h greys).Shaped width height depth := ⟨rfl, rfl, rfl⟩
  have suits : (startJob mode record h : KsJob F).Suits h :=
    KsJob.startJob_suits mode record small
  have clean : (startJob mode record h : KsJob F).ditherer.Clean :=
    Ditherer.new_clean mode _
  obtain ⟨white, writtenWhite, cleanWhite⟩ :=
    suits.plainPage contone pixels clean false
  obtain ⟨marked, writtenMarked, edgeMarked⟩ :=
    suits.markedPage contone pixels tall chosen clean
  obtain ⟨_, _, _, _, _, rfl, _, _⟩ := KsJob.writePage_ok writtenWhite
  obtain ⟨sheet, blank, prints⟩ := exists_second_sheet contone pixels tall
    small chosen _ writtenWhite (cleanWhite.edgeIs chosen)
  obtain ⟨sheet', inked, prints'⟩ := exists_second_sheet contone pixels tall
    small chosen _ writtenMarked edgeMarked
  have same := independent record record 1#32 1#32 _ _ _ _ _ _ (by
    intro page member
    simp only [List.cons_append, List.nil_append, List.mem_cons,
      List.not_mem_nil, or_false] at member
    rcases member with rfl | rfl | rfl | rfl
    · exact shaped _
    · exact shaped _
    · exact shaped _
    · exact shaped _) 1 _ _ rfl rfl rfl sheet sheet' prints prints'
  rw [same, inked] at blank
  cases blank

end Independence

/-- The pages of a job do not influence each other exactly when no error is
carried between them. -/
theorem pagesIndependent_iff {mode : DitherMode} {width height depth : U32}
    (deep : depth = 8#32 ∨ depth = 24#32) :
    PagesIndependent Rat mode width height depth ↔
      CarriesNothing mode width height :=
  ⟨carriesNothing_of_pagesIndependent deep,
    pagesIndependent_of_carriesNothing deep⟩

theorem pagesIndependent_bayerLabel :
    ((8#32 : U32) = 8#32 ∨ (8#32 : U32) = 24#32) ∧
      PagesIndependent Rat .bayer 384#32 240#32 8#32 :=
  ⟨.inl rfl, (pagesIndependent_iff (.inl rfl)).mpr (.inl rfl)⟩

/-- A page of one grey pixel. -/
def pixelPage (grey : U8) : RasterPage :=
  ⟨⟨1#32, 1#32, 8#32, 1#32, 1#32⟩, [grey], ""⟩

/-- After a near white page, a light grey one is printed black. -/
theorem pixelPage_dependent :
    ¬ PagesIndependent Rat .floydSteinberg 1#32 1#32 8#32 := by
  intro independent
  have afterWhite : PrintsSheet Rat .floydSteinberg ⟨"", 0#32, 384#32⟩ 1#32
      (.readable [pixelPage 255#8, pixelPage 50#8] (.ok ()))
      (fun _ _ => .ok ()) 1 ⟨1, 1, [0x00#8], 0#8, 384⟩ :=
    printsSheet_iff_mem.mpr (by decide +kernel)
  have afterNearWhite : PrintsSheet Rat .floydSteinberg ⟨"", 0#32, 384#32⟩ 1#32
      (.readable [pixelPage 247#8, pixelPage 50#8] (.ok ()))
      (fun _ _ => .ok ()) 1 ⟨1, 1, [0x80#8], 0#8, 384⟩ :=
    printsSheet_iff_mem.mpr (by decide +kernel)
  have same := independent _ _ _ _ _ _ _ _ _ _
    (by
      intro page member
      simp only [List.cons_append, List.nil_append, List.mem_cons,
        List.not_mem_nil, or_false] at member
      rcases member with rfl | rfl | rfl | rfl
      · exact ⟨rfl, rfl, rfl⟩
      · exact ⟨rfl, rfl, rfl⟩
      · exact ⟨rfl, rfl, rfl⟩
      · exact ⟨rfl, rfl, rfl⟩) 1 (pixelPage 50#8) (pixelPage 50#8) rfl rfl
        rfl _ _ afterWhite afterNearWhite
  cases same

end SupvanCups
