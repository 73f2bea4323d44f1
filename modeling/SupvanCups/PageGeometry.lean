import SupvanCups.PagePipeline
import SupvanCups.ProbePages

/-!
# The shapes of the pages of a job

A job is sized by its first page.  Later pages are packed by their own headers
and placed by the shape of the first, up to the first page that is taller.  So
each page keeps its shape exactly when the pages before the taller one have the
shape of the first, at most one of them carries an error on, and a taller one
cannot be packed too short.
-/

namespace SupvanCups

/-! ### Shapes -/

def RasterDocument.pages : RasterDocument → List RasterPage
  | unreadable _ => []
  | readable pages _ => pages

/-- The size of the page is a `u32`, and contone lines hold a pixel. -/
structure PageHeader.Readable (h : PageHeader) : Prop where
  depth : h.bitsPerPixel = 1#32 ∨ Contone h
  small : h.height.toNat * divCeil h.width.toNat 8 < 2 ^ 32
  pixels : Contone h → h.bitsPerPixel.toNat / 8 ≤ h.bytesPerLine.toNat

/-- A transfer of the sheet stays inside its buffers. -/
def Sheet.Transfers (sheet : Sheet) : Prop :=
  sheet.printheadWidthDots / 8 % 256 ≠ 0 →
    ∃ buffers, pageBuffers sheet.rasterData sheet.width sheet.height
      sheet.density sheet.printheadWidthDots = some buffers

/-- The sheet has the size of the page, and is the one that a job of the page
alone prints. -/
def Sheet.IsOf (F : Type) [DitherFloat F] [DecidableLT F] (mode : DitherMode)
    (record : JobRecord) (copies : U32) (page : RasterPage) (sheet : Sheet) :
    Prop :=
  sheet.width = page.header.width.toNat ∧
    sheet.height = page.header.height.toNat ∧
    PrintsSheet F mode record copies (.readable [page] (.ok ()))
      (fun _ _ => .ok ()) 0 sheet

/-- Jobs of pages with these headers never leave a buffer, and print each page
as it is. -/
def KeepsGeometry (F : Type) [DitherFloat F] [DecidableLT F]
    (mode : DitherMode) (headers : List PageHeader) : Prop :=
  ∀ (record : JobRecord) (copies : U32) (document : RasterDocument)
    (device : JobDevice), document.pages.map RasterPage.header = headers →
    (Session.runOn device (runCupsRasterJob mode record copies F document)).1 ≠
        .error .panicked ∧
      ∀ number sheet,
        PrintsSheet F mode record copies document device number sheet →
        sheet.Transfers ∧ ∃ page, document.pages[number]? = some page ∧
          sheet.IsOf F mode record copies page

/-- Whether a job sized by the first page has all lines of the other. -/
def holdsPage (first h : PageHeader) : Bool :=
  h.height.toNat ≤ first.height.toNat

/-- The pages up to the first that is too tall. -/
def takenPages (first : PageHeader) (headers : List PageHeader) :
    List PageHeader :=
  headers.takeWhile (holdsPage first)

/-- The page that ends a job. -/
def refusedPage (first : PageHeader) (headers : List PageHeader) :
    Option PageHeader :=
  (headers.dropWhile (holdsPage first)).head?

structure FitsFirst (mode : DitherMode) (first : PageHeader)
    (headers : List PageHeader) : Prop where
  sizes : ∀ h ∈ takenPages first headers,
    h.width = first.width ∧ h.height = first.height
  errors : mode = .bayer ∨ first.width = 0#32 ∨ first.height = 0#32 ∨
    ((takenPages first headers).filter (·.bitsPerPixel ≠ 1#32)).length ≤ 1
  refused : ∀ h ∈ refusedPage first headers,
    h.bitsPerPixel = 1#32 ∨ h.width = 0#32 ∨
      divCeil first.width.toNat 8 ≤ divCeil h.width.toNat 8

def FitsTogether (mode : DitherMode) : List PageHeader → Prop
  | [] => True
  | first :: rest => FitsFirst mode first (first :: rest)

section Geometry

variable {F : Type} [DitherFloat F] [DecidableLT F]

/-! ### Pages on the job of the first -/

theorem PageHeader.Readable.depthOptions {h : PageHeader}
    (readable : h.Readable) : KsJob.Depth h.options := by
  rcases readable.depth with oneBit | contone
  · exact .inl (congrArg BitVec.toNat oneBit)
  · exact KsJob.depth_of_contone contone

theorem takenPages_append {first here : PageHeader}
    (before after : List PageHeader)
    (held : ∀ h ∈ before, h.height.toNat ≤ first.height.toNat)
    (heldHere : here.height.toNat ≤ first.height.toNat) :
    takenPages first (before ++ here :: after) =
      before ++ here :: takenPages first after := by
  have all : ∀ h ∈ before, holdsPage first h = true := by
    simpa [holdsPage] using held
  have holds : holdsPage first here = true := by
    simpa [holdsPage] using heldHere
  rw [takenPages, List.takeWhile_append_of_pos all,
    List.takeWhile_cons_of_pos holds]
  rfl

theorem refusedPage_append {first here : PageHeader}
    (before after : List PageHeader)
    (held : ∀ h ∈ before, h.height.toNat ≤ first.height.toNat)
    (tall : first.height.toNat < here.height.toNat) :
    refusedPage first (before ++ here :: after) = some here := by
  have all : ∀ h ∈ before, holdsPage first h = true := by
    simpa [holdsPage] using held
  have refuses : ¬ holdsPage first here = true := by
    simpa [holdsPage] using tall
  rw [refusedPage, List.dropWhile_append_of_pos all,
    List.dropWhile_cons_of_neg refuses]
  rfl

/-- A job of one page prints what the page leaves on it. -/
theorem printsSheet_alone {mode : DitherMode} {record : JobRecord}
    {copies : U32} {page : RasterPage} {sheet : Sheet} :
    PrintsSheet F mode record copies (.readable [page] (.ok ()))
        (fun _ _ => .ok ()) 0 sheet ↔
      ∃ alone : KsJob F, (startJob mode record page.header).writePage page =
        .ok alone ∧ sheet = alone.sheet := by
  constructor
  · intro prints
    obtain ⟨before, here, after, split, state, next, left, written, number,
      rfl⟩ := prints.written
    obtain rfl := List.eq_nil_of_length_eq_zero number.symm
    obtain ⟨rfl, rfl⟩ := List.cons.inj split
    obtain rfl := Except.ok.inj left
    exact ⟨next, written, rfl⟩
  · rintro ⟨alone, written, rfl⟩
    have prints : PrintsSheet F mode record copies (.readable [page] (.ok ()))
        (fun _ _ => .ok ()) ([] : List RasterPage).length alone.sheet :=
      printsSheet_accepting rfl rfl written
    exact prints

/-- The sheet of a page has the size of the job. -/
theorem KsJob.writePage_size {page : RasterPage} {job next : KsJob F}
    (written : job.writePage page = .ok next) :
    next.sheet.width = job.width ∧ next.sheet.height = job.height := by
  obtain ⟨_, _, _, _, _, rfl, _, _⟩ := KsJob.writePage_ok written
  exact ⟨rfl, rfl⟩

/-- A one-bit page is printed the same whatever the job carries. -/
theorem KsJob.writePage_carrying_oneBit {page : RasterPage}
    {job next : KsJob F} (oneBit : page.header.bitsPerPixel = 1#32)
    {err : ErrorRing F job.ditherer.width} {row : Fin errorRows}
    (written : (job.carrying err row).writePage page = .ok next) :
    ∃ alone, job.writePage page = .ok alone ∧ next.sheet = alone.sheet := by
  obtain ⟨enough, run⟩ := (writePage_ok_iff page _ next).mp written
  have bits : page.header.options.bitsPerPixel = 1 :=
    congrArg BitVec.toNat oneBit
  have alone := writeLines_map (fun other y line =>
    writeLine_oneBit bits other y line job.density job.printheadWidthDots
      job.ditherer) run
  obtain ⟨_, _, _, _, _, rfl, _, _⟩ := writePage_ok written
  exact ⟨_, (writePage_ok_iff page job _).mpr ⟨enough, alone⟩, rfl⟩

/-! ### Pages that keep their shape -/

section Fitting

variable {mode : DitherMode} {record : JobRecord} {copies : U32}
  {first : RasterPage} {pages before after : List RasterPage}
  {here : RasterPage} {state : KsJob F}

/-- What is known of a page that the first has room for. -/
theorem FitsFirst.taken
    (fits : FitsFirst mode first.header
      ((first :: pages).map RasterPage.header))
    (split : first :: pages = before ++ here :: after)
    (held : ∀ page ∈ before,
      page.header.height.toNat ≤ first.header.height.toNat)
    (heldHere : here.header.height.toNat ≤ first.header.height.toNat) :
    here.header.width = first.header.width ∧
      here.header.height = first.header.height ∧
      (mode = .bayer ∨ first.header.width = 0#32 ∨
        first.header.height = 0#32 ∨ here.header.bitsPerPixel = 1#32 ∨
        ∀ page ∈ before, page.header.bitsPerPixel = 1#32) := by
  have heldAll : ∀ h ∈ before.map RasterPage.header,
      h.height.toNat ≤ first.header.height.toNat := by
    intro _ member
    obtain ⟨page, inside, rfl⟩ := List.mem_map.mp member
    exact held page inside
  have taken := takenPages_append (before.map RasterPage.header)
    (after.map RasterPage.header) heldAll heldHere
  rw [← List.map_cons, ← List.map_append, ← split] at taken
  have sizes := fits.sizes here.header (by rw [taken]; simp)
  refine ⟨sizes.1, sizes.2, ?_⟩
  rcases fits.errors with isBayer | noWidth | noHeight | few
  · exact .inl isBayer
  · exact .inr (.inl noWidth)
  · exact .inr (.inr (.inl noHeight))
  · by_cases oneBit : here.header.bitsPerPixel = 1#32
    · exact .inr (.inr (.inr (.inl oneBit)))
    · rw [taken, List.filter_append, List.filter_cons_of_pos (by
        simpa using oneBit), List.length_append, List.length_cons] at few
      have none : ((before.map RasterPage.header).filter
          (·.bitsPerPixel ≠ 1#32)).length = 0 := by omega
      simp only [List.length_eq_zero_iff, List.filter_eq_nil_iff,
        List.mem_map, forall_exists_index, and_imp,
        forall_apply_eq_imp_iff₂] at none
      exact .inr (.inr (.inr (.inr (by simpa using none))))

omit [DecidableLT F] in
theorem startJob_suits_same {h h' : PageHeader} (readable : h.Readable)
    (width : h'.width = h.width) (height : h'.height = h.height) :
    (startJob mode record h' : KsJob F).Suits h := by
  rw [startJob_congr mode record width height]
  exact KsJob.startJob_suits mode record readable.small

/-- A page is left on the job of a fitting document as on a job of its own. -/
theorem FitsFirst.isOf
    (fits : FitsFirst mode first.header
      ((first :: pages).map RasterPage.header))
    (readable : here.header.Readable)
    (split : first :: pages = before ++ here :: after)
    (left : (startJob mode record first.header).afterPages before = .ok state)
    {next : KsJob F} (written : state.writePage here = .ok next) :
    next.sheet.IsOf F mode record copies here := by
  obtain ⟨⟨err, row, rfl⟩, same, held⟩ := KsJob.afterPages_ok
    (KsJob.startJob_blank mode record first.header) left
  obtain ⟨width, height, keeps⟩ :=
    fits.taken split held (KsJob.writePage_ok written).1
  have size := KsJob.writePage_size written
  refine ⟨size.1.trans (congrArg BitVec.toNat width.symm),
    size.2.trans (congrArg BitVec.toNat height.symm),
    printsSheet_alone.mpr ?_⟩
  rw [startJob_congr mode record width height]
  have suits : (startJob mode record first.header : KsJob F).Suits
      here.header := startJob_suits_same readable width.symm height.symm
  have empty (noDots : here.header.height.toNat *
      divCeil here.header.width.toNat 8 = 0) :
      ∃ alone : KsJob F, (startJob mode record first.header).writePage here =
        .ok alone ∧ next.sheet = alone.sheet := by
    apply KsJob.writePage_carrying_empty suits.toFits _ readable.depthOptions
      suits.room written
    apply List.eq_nil_of_length_eq_zero
    rw [suits.size]
    simpa [startJob, KsJob.start, PageHeader.options, width, height] using
      noDots
  rcases keeps with isBayer | noWidth | noHeight | oneBit | oneBits
  · rw [same fun _ _ => .inr isBayer] at written
    exact ⟨next, written, rfl⟩
  · exact empty (by rw [width, noWidth]; simp [divCeil])
  · exact empty (by rw [height, noHeight]; simp)
  · exact KsJob.writePage_carrying_oneBit oneBit written
  · rw [same fun page member =>
      .inl (congrArg BitVec.toNat (oneBits page member))] at written
    exact ⟨next, written, rfl⟩

/-- No page of a fitting document is packed out of its line. -/
theorem FitsFirst.not_panicked
    (fits : FitsFirst mode first.header
      ((first :: pages).map RasterPage.header))
    (readable : here.header.Readable) (readableFirst : first.header.Readable)
    (split : first :: pages = before ++ here :: after)
    (left : (startJob mode record first.header : KsJob F).afterPages before =
      .ok state) :
    state.writePage here ≠ .error .panicked := by
  obtain ⟨⟨err, row, rfl⟩, _, held⟩ := KsJob.afterPages_ok
    (KsJob.startJob_blank mode record first.header) left
  have suits : (startJob mode record first.header : KsJob F).Suits
      first.header := KsJob.startJob_suits mode record readableFirst.small
  have room : KsJob.Room here.header.options
      ((startJob mode record first.header).carrying err row : KsJob F) := by
    by_cases heldHere : here.header.height.toNat ≤ first.header.height.toNat
    · obtain ⟨width, height, _⟩ := fits.taken split held heldHere
      have suitsHere : (startJob mode record first.header : KsJob F).Suits
          here.header := startJob_suits_same readable width.symm height.symm
      exact suitsHere.room
    · have heldAll : ∀ h ∈ before.map RasterPage.header,
          h.height.toNat ≤ first.header.height.toNat := by
        intro _ member
        obtain ⟨page, inside, rfl⟩ := List.mem_map.mp member
        exact held page inside
      have refused := refusedPage_append (before.map RasterPage.header)
        (after.map RasterPage.header) heldAll (Nat.not_le.mp heldHere)
      rw [← List.map_cons, ← List.map_append, ← split] at refused
      exact (fits.refused here.header refused).imp
        (congrArg BitVec.toNat) id
  exact (KsJob.writePage_total (suits.carrying err row).toFits
    readable.depthOptions room).1

theorem documentPlan_no_pages (F : Type) [DitherFloat F] [DecidableLT F]
    (mode : DitherMode) (record : JobRecord) (copies : U32)
    {document : RasterDocument} (empty : document.pages = []) :
    (documentPlan mode record copies F document).1 = [] ∧
      (documentPlan mode record copies F document).2 ≠ .error .panicked := by
  rcases document with error | ⟨pages, ended⟩
  · exact ⟨rfl, nofun⟩
  · obtain rfl : pages = [] := empty
    rcases ended with error | ended
    · exact ⟨rfl, nofun⟩
    · exact ⟨rfl, nofun⟩

/-- A fitting document keeps its pages as they are. -/
theorem keepsGeometry_of_fitsTogether {headers : List PageHeader}
    (readable : ∀ h ∈ headers, h.Readable)
    (fits : FitsTogether mode headers) : KeepsGeometry F mode headers := by
  intro record copies document device shapes
  have transfers (sheet : Sheet) : sheet.Transfers := pageBuffers_total _ _ _ _
  rcases pages : document.pages with _ | ⟨first, rest⟩
  · obtain ⟨noCalls, noPanic⟩ :=
      documentPlan_no_pages F mode record copies pages
    refine ⟨fun panicked => ?_, fun number sheet prints => ?_⟩
    · exact noPanic ((runCupsRasterJob_panicked_iff_plan document).mp
        ⟨device, panicked⟩)
    · have planned := prints.mem_plan
      rw [noCalls] at planned
      cases planned
  · obtain ⟨ended, rfl⟩ : ∃ ended,
        document = .readable (first :: rest) ended := by
      cases document with
      | unreadable error => cases pages
      | readable others ended =>
          obtain rfl : others = first :: rest := pages
          exact ⟨ended, rfl⟩
    rw [pages] at shapes
    subst shapes
    have readableAll : ∀ page ∈ first :: rest, page.header.Readable :=
      fun page member => readable _ (List.mem_map_of_mem member)
    have readableFirst := readableAll first List.mem_cons_self
    refine ⟨fun panicked => ?_, fun number sheet prints =>
      ⟨transfers sheet, ?_⟩⟩
    · obtain ⟨before, here, after, split, state, left, panics⟩ :=
        (runCupsRasterJob_panicked_iff first rest).mp ⟨device, panicked⟩
      have member : here ∈ first :: rest := by simp [split]
      exact fits.not_panicked (readableAll here member) readableFirst split
        left panics
    · obtain ⟨before, here, after, split, state, next, left, written, rfl,
        rfl⟩ := prints.written
      have member : here ∈ first :: rest := by simp [split]
      exact ⟨here, by simp [split],
        fits.isOf (readableAll here member) split left written⟩

end Fitting

end Geometry

end SupvanCups
