import SupvanCups.PageGeometry
import Mathlib.Data.List.TakeWhile

/-!
# Pages that do not fit the first

Black pages show what happens to headers that do not fit together: a page of
another size is printed in the size of the first, or packed out of its line.
A near white page before another contone one shows the error that is carried.
-/

namespace SupvanCups

section Misfit

variable {F : Type} [DitherFloat F] [DecidableLT F]

/-- A page whose lines all start black. -/
def blackPage (h : PageHeader) : RasterPage :=
  plainPage h (bilevelPixel true)

theorem map_blackPage_header (headers : List PageHeader) :
    (headers.map blackPage).map RasterPage.header = headers := by
  rw [List.map_map]
  exact List.map_id headers

theorem PageHeader.Readable.holdsPixel {h : PageHeader}
    (readable : h.Readable) :
    h.bitsPerPixel.toNat / 8 ≤ h.bytesPerLine.toNat := by
  rcases readable.depth with oneBit | contone
  · rw [oneBit]
    exact Nat.zero_le _
  · exact readable.pixels contone

omit [DecidableLT F] in
theorem Ditherer.clean_of_noWidth {d : Ditherer F} (noWidth : d.width = 0) :
    d.Clean := by
  funext row x
  exact absurd x.isLt (by omega)

/-! ### Black pages on a clean job -/

namespace KsJob

variable {h : PageHeader} {job next : KsJob F}

/-- Full pages that the job has room for are written. -/
theorem writePage_sourcePage (fits : job.Fits) (readable : h.Readable)
    (room : Room h.options job) (held : h.height.toNat ≤ job.height)
    {greys : List U8} (count : greys.length = h.height.toNat) :
    ∃ next, job.writePage (sourcePage h greys) = .ok next := by
  have enough : h.height.toNat * h.bytesPerLine.toNat ≤
      (sourcePage h greys).content.length := by
    rw [sourcePage_content_length readable.holdsPixel, count]
  apply (writePage_total fits readable.depthOptions room).2 enough held

theorem writePage_keepsClean [ExactOnBilevel F] (readable : h.Readable)
    (width : job.ditherer.width = h.width.toNat) (clean : job.ditherer.Clean)
    (written : job.writePage (blackPage h) = .ok next) :
    next.ditherer.Clean := by
  rcases readable.depth with oneBit | contone
  · obtain ⟨_, _, _, err, row, rfl, _, kept⟩ := writePage_ok written
    obtain ⟨rfl, rfl⟩ := kept (.inl (congrArg BitVec.toNat oneBit))
    exact clean
  · by_cases noWidth : h.width = 0#32
    · obtain ⟨_, _, _, err, row, rfl, _, _⟩ := writePage_ok written
      apply Ditherer.clean_of_noWidth
      rw [noWidth] at width
      exact width
    · have pixels : HasPixels h := ⟨readable.holdsPixel, noWidth⟩
      have run := ((writePage_ok_iff _ _ _).mp written).2
      have lines : (blackPage h).lines =
          (List.replicate h.height.toNat (bilevelPixel true)).map
            (sourceLine h) :=
        sourcePage_lines pixels List.length_replicate
      rw [lines] at run
      apply writeLines_keepsClean contone pixels width clean _ run
      intro grey member
      exact ⟨true, List.eq_of_mem_replicate member⟩

/-- Black pages of the size of the job are written and leave it clean. -/
theorem afterPages_blackPages [ExactOnBilevel F] {headers : List PageHeader}
    (blank : job.Blank) (clean : job.ditherer.Clean)
    (suits : ∀ h ∈ headers, h.Readable ∧ job.Suits h) :
    ∃ later, job.afterPages (headers.map blackPage) = .ok later ∧
      later.ditherer.Clean := by
  induction headers generalizing job with
  | nil => exact ⟨job, rfl, clean⟩
  | cons h headers ih =>
      obtain ⟨⟨readable, suitsHere⟩, suitsRest⟩ := List.forall_mem_cons.mp suits
      obtain ⟨next, written⟩ : ∃ next,
          job.writePage (blackPage h) = .ok next :=
        writePage_sourcePage suitsHere.toFits readable suitsHere.room
          suitsHere.height List.length_replicate
      have cleanNext : next.ditherer.Clean :=
        writePage_keepsClean readable suitsHere.width clean written
      have stillClean : next.clearPage.ditherer.Clean := cleanNext
      obtain ⟨err, row, cleared⟩ := clearPage_of_writePage blank written
      rw [cleared] at stillClean
      have stillBlank : (job.carrying err row).Blank := ⟨blank.1, blank.2⟩
      obtain ⟨later, run, cleanLater⟩ := ih stillBlank stillClean
        fun h member =>
          ⟨(suitsRest h member).1, (suitsRest h member).2.carrying err row⟩
      refine ⟨later, ?_, cleanLater⟩
      simp only [List.map_cons, afterPages, written, cleared, run]

/-- One-bit pages of the size of the job leave it as it is. -/
theorem afterPages_oneBits {headers : List PageHeader} (blank : job.Blank)
    (suits : ∀ h ∈ headers, h.Readable ∧ job.Suits h)
    (oneBits : ∀ h ∈ headers, h.bitsPerPixel = 1#32) :
    job.afterPages (headers.map blackPage) = .ok job := by
  induction headers with
  | nil => rfl
  | cons h headers ih =>
      obtain ⟨⟨readable, suitsHere⟩, suitsRest⟩ := List.forall_mem_cons.mp suits
      obtain ⟨oneBit, oneBitRest⟩ := List.forall_mem_cons.mp oneBits
      obtain ⟨next, written⟩ : ∃ next,
          job.writePage (blackPage h) = .ok next :=
        writePage_sourcePage suitsHere.toFits readable suitsHere.room
          suitsHere.height List.length_replicate
      have cleared : next.clearPage = job := by
        obtain ⟨_, data, received, err, row, rfl, length, kept⟩ :=
          writePage_ok written
        obtain ⟨rfl, rfl⟩ := kept (.inl (congrArg BitVec.toNat oneBit))
        exact clearPage_holding blank length received _ _
      simp only [List.map_cons, afterPages, written, cleared,
        ih suitsRest oneBitRest]

theorem afterPages_append {first second : List RasterPage}
    {middle : KsJob F} (run : job.afterPages first = .ok middle) :
    job.afterPages (first ++ second) = middle.afterPages second := by
  induction first generalizing job with
  | nil => rw [Except.ok.inj run, List.nil_append]
  | cons page first ih =>
      rw [afterPages] at run
      rw [List.cons_append, afterPages]
      cases written : job.writePage page with
      | error stop =>
          rw [written] at run
          cases run
      | ok next =>
          rw [written] at run
          exact ih run

/-- A page that can show an error. -/
structure Telling (h : PageHeader) : Prop where
  contone : Contone h
  pixels : HasPixels h
  tall : h.height ≠ 0#32

/-- The error of a near white page shows in the next contone page, across
one-bit pages. -/
theorem afterPages_marked [CarriesError F] {kernel : Kernel F}
    {isVendor : Bool} (blank : job.Blank) (clean : job.ditherer.Clean)
    (chosen : job.ditherer.mode.kernel = some (kernel, isVendor))
    {before between : List PageHeader} {marked edged : PageHeader}
    (suits : ∀ h ∈ (before ++ marked :: between) ++ [edged],
      h.Readable ∧ job.Suits h)
    (oneBits : ∀ h ∈ before, h.bitsPerPixel = 1#32)
    (oneBits' : ∀ h ∈ between, h.bitsPerPixel = 1#32)
    (telling : Telling marked) (telling' : Telling edged) :
    ∃ state last, job.afterPages (before.map blackPage ++
        markedPage marked :: between.map blackPage) = .ok state ∧
      state.writePage (edgePage edged isVendor) = .ok last ∧
      dotAt edged.width.toNat 0 last.sheet.rasterData = true := by
  simp only [List.mem_append, List.mem_cons] at suits
  have suitsMarked : job.Suits marked := (suits marked (by simp)).2
  have suitsEdged : job.Suits edged := (suits edged (by simp)).2
  have first := afterPages_oneBits blank
    (fun h member => suits h (by simp [member])) oneBits
  obtain ⟨next, written, edge⟩ := suitsMarked.markedPage telling.contone
    telling.pixels telling.tall chosen clean
  have edgeCleared : next.clearPage.ditherer.EdgeIs isVendor true := edge
  obtain ⟨err, row, cleared⟩ := clearPage_of_writePage blank written
  rw [cleared] at edgeCleared
  have stillBlank : (job.carrying err row).Blank := ⟨blank.1, blank.2⟩
  have second := afterPages_oneBits stillBlank (fun h member =>
    have both := suits h (by simp [member])
    ⟨both.1, both.2.carrying err row⟩) oneBits'
  obtain ⟨last, writtenLast, dot⟩ := (suitsEdged.carrying err row).edgePage
    telling'.contone telling'.pixels telling'.tall chosen edgeCleared
  refine ⟨_, last, ?_, writtenLast, dot⟩
  rw [afterPages_append first]
  simp only [afterPages, written, cleared, second]

/-- A black page that is packed too short panics in its first line. -/
theorem writePage_blackPage_panics [ExactOnBilevel F] (contone : Contone h)
    (pixels : HasPixels h) (tall : h.height ≠ 0#32)
    (clean : job.ditherer.Clean)
    (short : divCeil h.width.toNat 8 < divCeil job.ditherer.width 8) :
    job.writePage (blackPage h) = .error .panicked := by
  obtain ⟨more, height⟩ : ∃ more, h.height.toNat = more + 1 := by
    apply Nat.exists_eq_succ_of_ne_zero
    simpa [← BitVec.toNat_inj] using tall
  have wide : 0 < job.ditherer.width := by
    simp only [divCeil] at short
    omega
  have panics : job.writeLine h.options 0 (sourceLine h (bilevelPixel true)) =
      none := by
    unfold writeLine
    simp only [toGrayLine_sourceLine contone pixels, Option.bind_eq_bind]
    rw [Ditherer.line_outside clean _ rfl 0 ⟨0, wide⟩ rfl]
    · rfl
    · rw [List.length_replicate]
      simp only [divCeil, PageHeader.options] at short ⊢
      omega
    · rw [greyInput_length pixels]
      rw [Nat.pos_iff_ne_zero]
      simpa [← BitVec.toNat_inj] using pixels.2
  have line : (sourcePage h (List.replicate (more + 1)
      (bilevelPixel true))).content.take h.bytesPerLine.toNat =
        sourceLine h (bilevelPixel true) := by
    rw [sourcePage, List.replicate_succ, List.flatMap_cons,
      ← sourceLine_length pixels.1 (bilevelPixel true), List.take_left]
  have long : ¬ (sourcePage h (List.replicate (more + 1)
      (bilevelPixel true))).content.length < h.bytesPerLine.toNat := by
    rw [sourcePage_content_length pixels.1, List.length_replicate,
      Nat.succ_mul]
    omega
  rw [writePage, blackPage, plainPage, height]
  simp only [sourcePage] at line long ⊢
  rw [height, readLines]
  simp only [if_neg long, line, panics]

end KsJob

/-! ### What keeping the geometry asks of the headers -/

section Keeping

variable {mode : DitherMode} {first : PageHeader} {rest : List PageHeader}

theorem KeepsGeometry.here (keeps : KeepsGeometry F mode (first :: rest))
    (record : JobRecord) {pages before after : List RasterPage}
    {here : RasterPage} (shapes : pages.map RasterPage.header = first :: rest)
    (split : pages = before ++ here :: after) {state : KsJob F}
    (left : (startJob mode record first).afterPages before = .ok state) :
    state.writePage here ≠ .error .panicked ∧
      ∀ next, state.writePage here = .ok next →
        next.sheet.IsOf F mode record 1#32 here := by
  obtain ⟨start, pages, rfl, rfl, _⟩ := List.map_eq_cons_iff.mp shapes
  have kept := fun device =>
    keeps record 1#32 (.readable (start :: pages) (.ok ())) device shapes
  constructor
  · intro panics
    obtain ⟨device, panicked⟩ := (runCupsRasterJob_panicked_iff start pages).mpr
      ⟨before, here, after, split, state, left, panics⟩
    exact (kept device).1 panicked
  · intro next written
    obtain ⟨_, page, found, isOf⟩ :=
      (kept _).2 _ _ (printsSheet_accepting split left written)
    have same : (RasterDocument.readable (start :: pages) (.ok ())).pages[
        before.length]? = some here := by
      simp [RasterDocument.pages, split]
    rw [same] at found
    exact Option.some.inj found ▸ isOf

/-- After black pages of the size of the first, the next page of a document that
keeps its geometry does not panic, and is not printed in another size. -/
theorem KeepsGeometry.afterBlackPages [ExactOnBilevel F]
    (keeps : KeepsGeometry F mode (first :: rest))
    (readable : ∀ h ∈ first :: rest, h.Readable)
    {before after : List PageHeader} {h : PageHeader}
    (split : first :: rest = before ++ h :: after)
    (sizes : ∀ h ∈ before, h.width = first.width ∧ h.height = first.height) :
    ∃ state : KsJob F, state.Fits ∧ state.ditherer.Clean ∧
      state.ditherer.width = first.width.toNat ∧
      state.height = first.height.toNat ∧
      state.writePage (blackPage h) ≠ .error .panicked ∧
      ∀ next, state.writePage (blackPage h) = .ok next →
        h.width = first.width ∧ h.height = first.height := by
  let record : JobRecord := ⟨"", 0#32, 0#32⟩
  have readableFirst := readable first List.mem_cons_self
  have suits : (startJob mode record first : KsJob F).Suits first :=
    KsJob.startJob_suits mode record readableFirst.small
  have suitsBefore : ∀ h ∈ before, h.Readable ∧
      (startJob mode record first : KsJob F).Suits h := by
    intro h member
    have inside : h ∈ first :: rest := by simp [split, member]
    exact ⟨readable h inside, startJob_suits_same (readable h inside)
      (sizes h member).1.symm (sizes h member).2.symm⟩
  obtain ⟨state, left, clean⟩ := KsJob.afterPages_blackPages
    (KsJob.startJob_blank mode record first) (Ditherer.new_clean mode _)
    suitsBefore
  obtain ⟨⟨err, row, rfl⟩, _⟩ :=
    KsJob.afterPages_ok (KsJob.startJob_blank mode record first) left
  have shapes : (before.map blackPage ++
      blackPage h :: after.map blackPage).map RasterPage.header =
        first :: rest := by
    rw [split, ← List.map_cons, ← List.map_append, map_blackPage_header]
  obtain ⟨noPanic, isOf⟩ := keeps.here record shapes rfl left
  refine ⟨_, (suits.carrying err row).toFits, clean, rfl, rfl, noPanic,
    fun next written => ?_⟩
  have size := KsJob.writePage_size written
  obtain ⟨width, height, _⟩ := isOf next written
  exact ⟨BitVec.eq_of_toNat_eq (width.symm.trans size.1),
    BitVec.eq_of_toNat_eq (height.symm.trans size.2)⟩

theorem takenPages_split (first : PageHeader) (headers : List PageHeader) :
    headers = takenPages first headers ++
      headers.dropWhile (holdsPage first) :=
  List.takeWhile_append_dropWhile.symm

theorem sizes_of_keepsGeometry [ExactOnBilevel F]
    (keeps : KeepsGeometry F mode (first :: rest))
    (readable : ∀ h ∈ first :: rest, h.Readable) :
    ∀ h ∈ takenPages first (first :: rest),
      h.width = first.width ∧ h.height = first.height := by
  have split := takenPages_split first (first :: rest)
  cases others : (takenPages first (first :: rest)).filter
      fun h => ¬ (h.width = first.width ∧ h.height = first.height) with
  | nil => simpa [List.filter_eq_nil_iff] using others
  | cons h tail =>
      obtain ⟨before, after, taken, sizes, other, _⟩ :=
        List.filter_eq_cons_iff.mp others
      simp only [decide_not, Bool.not_eq_true', decide_eq_false_iff_not,
        not_not] at sizes other
      rw [taken, List.append_assoc, List.cons_append] at split
      obtain ⟨state, fits, clean, width, height, noPanic, same⟩ :=
        keeps.afterBlackPages readable split sizes
      have member : h ∈ takenPages first (first :: rest) := by simp [taken]
      have held : h.height.toNat ≤ state.height := by
        rw [height]
        simpa [holdsPage] using List.mem_takeWhile_imp member
      have readableHere := readable h (List.takeWhile_subset _ member)
      obtain ⟨next, written⟩ : ∃ next,
          state.writePage (blackPage h) = .ok next := by
        by_cases empty : h.height = 0#32
        · exact ⟨state, by
            rw [KsJob.writePage, blackPage, plainPage, sourcePage, empty]
            rfl⟩
        · by_cases room : KsJob.Room h.options state
          · exact KsJob.writePage_sourcePage fits readableHere room held
              List.length_replicate
          · simp only [KsJob.Room, not_or, not_le] at room
            have contone : Contone h := readableHere.depth.resolve_left
              fun oneBit => room.1 (congrArg BitVec.toNat oneBit)
            exact absurd (KsJob.writePage_blackPage_panics contone
              ⟨readableHere.holdsPixel, room.2.1⟩ empty clean room.2.2) noPanic
      exact absurd (same next written) other

theorem refused_of_keepsGeometry [ExactOnBilevel F]
    (keeps : KeepsGeometry F mode (first :: rest))
    (readable : ∀ h ∈ first :: rest, h.Readable) :
    ∀ h ∈ refusedPage first (first :: rest),
      h.bitsPerPixel = 1#32 ∨ h.width = 0#32 ∨
        divCeil first.width.toNat 8 ≤ divCeil h.width.toNat 8 := by
  intro h refused
  have split := takenPages_split first (first :: rest)
  obtain ⟨after, dropped⟩ : ∃ after,
      (first :: rest).dropWhile (holdsPage first) = h :: after :=
    List.head?_eq_some_iff.mp refused
  rw [dropped] at split
  obtain ⟨state, fits, clean, width, height, noPanic, _⟩ :=
    keeps.afterBlackPages readable split (sizes_of_keepsGeometry keeps readable)
  have readableHere : h.Readable := readable h (by rw [split]; simp)
  have tall : h.height ≠ 0#32 := by
    have refuses := List.head?_dropWhile_not (holdsPage first) (first :: rest)
    rw [dropped] at refuses
    simp only [List.head?_cons, holdsPage, decide_eq_false_iff_not,
      Nat.not_le] at refuses
    rintro empty
    rw [empty] at refuses
    exact absurd refuses (Nat.not_lt_zero _)
  by_contra room
  simp only [not_or, not_le] at room
  have contone : Contone h := readableHere.depth.resolve_left room.1
  exact noPanic (KsJob.writePage_blackPage_panics contone
    ⟨readableHere.holdsPixel, room.2.1⟩ tall clean (width.symm ▸ room.2.2))

theorem exists_two_of_filter {α : Type} {p : α → Bool} {items : List α}
    (many : 1 < (items.filter p).length) :
    ∃ before first between second after,
      items = (before ++ first :: between) ++ second :: after ∧
        (∀ x ∈ before, ¬ p x) ∧ p first ∧ (∀ x ∈ between, ¬ p x) ∧
          p second := by
  rcases kept : items.filter p with _ | ⟨first, _ | ⟨second, tail⟩⟩
  · simp [kept] at many
  · simp [kept] at many
  · obtain ⟨before, later, rfl, none, holds, rest⟩ :=
      List.filter_eq_cons_iff.mp kept
    obtain ⟨between, after, rfl, none', holds', _⟩ :=
      List.filter_eq_cons_iff.mp rest
    exact ⟨before, first, between, second, after, by simp, none, holds, none',
      holds'⟩

/-- Of two contone pages with one-bit ones between, the second shows an error
that it does not show alone. -/
theorem KeepsGeometry.one_telling [CarriesError F]
    (keeps : KeepsGeometry F mode (first :: rest)) (diffuses : mode ≠ .bayer)
    {before between after : List PageHeader} {marked edged : PageHeader}
    (split : first :: rest = (before ++ marked :: between) ++ edged :: after)
    (oneSize : ∀ h ∈ (before ++ marked :: between) ++ [edged], h.Readable ∧
      h.width = first.width ∧ h.height = first.height)
    (oneBits : ∀ h ∈ before, h.bitsPerPixel = 1#32)
    (oneBits' : ∀ h ∈ between, h.bitsPerPixel = 1#32)
    (telling : KsJob.Telling marked) (telling' : KsJob.Telling edged) :
    False := by
  obtain ⟨kernel, isVendor, chosen⟩ := DitherMode.exists_kernel F diffuses
  let record : JobRecord := ⟨"", 0#32, 0#32⟩
  let start : KsJob F := startJob mode record first
  have blank : start.Blank := KsJob.startJob_blank mode record first
  have clean : start.ditherer.Clean := Ditherer.new_clean mode _
  have suits : ∀ h ∈ (before ++ marked :: between) ++ [edged],
      h.Readable ∧ start.Suits h := by
    intro h member
    obtain ⟨readable, width, height⟩ := oneSize h member
    exact ⟨readable, startJob_suits_same readable width.symm height.symm⟩
  obtain ⟨state, last, left, written, dark⟩ := KsJob.afterPages_marked blank
    clean chosen suits oneBits oneBits' telling telling'
  have shapes : ((before.map blackPage ++
      markedPage marked :: between.map blackPage) ++ edgePage edged isVendor ::
        after.map blackPage).map RasterPage.header = first :: rest := by
    rw [split, List.map_append, List.map_append, List.map_cons, List.map_cons,
      map_blackPage_header, map_blackPage_header, map_blackPage_header]
    rfl
  obtain ⟨_, _, alone⟩ := (keeps.here record shapes rfl left).2 last written
  obtain ⟨aloneJob, writtenAlone, same⟩ := printsSheet_alone.mp alone
  obtain ⟨_, width, height⟩ := oneSize edged (by simp)
  rw [edgePage, sourcePage, startJob_congr mode record width height]
    at writtenAlone
  obtain ⟨plain, writtenPlain, light⟩ := (suits edged (by simp)).2.edgePage
    telling'.contone telling'.pixels telling'.tall chosen
    (clean.edgeIs chosen)
  obtain rfl := Except.ok.inj (writtenAlone.symm.trans writtenPlain)
  rw [same, light] at dark
  cases dark

theorem errors_of_keepsGeometry [CarriesError F]
    (keeps : KeepsGeometry F mode (first :: rest))
    (readable : ∀ h ∈ first :: rest, h.Readable) :
    mode = .bayer ∨ first.width = 0#32 ∨ first.height = 0#32 ∨
      ((takenPages first (first :: rest)).filter
        (·.bitsPerPixel ≠ 1#32)).length ≤ 1 := by
  by_contra carries
  simp only [not_or, not_le] at carries
  obtain ⟨diffuses, wide, tall, many⟩ := carries
  obtain ⟨before, marked, between, edged, after, taken, oneBits, deep, oneBits',
    deep'⟩ := exists_two_of_filter many
  simp only [ne_eq, decide_not, Bool.not_eq_true', decide_eq_false_iff_not,
    not_not] at oneBits deep oneBits' deep'
  have oneSize : ∀ h ∈ takenPages first (first :: rest), h.Readable ∧
      h.width = first.width ∧ h.height = first.height := by
    intro h member
    exact ⟨readable h (List.takeWhile_subset _ member),
      sizes_of_keepsGeometry keeps readable h member⟩
  have telling : ∀ h ∈ takenPages first (first :: rest),
      h.bitsPerPixel ≠ 1#32 → KsJob.Telling h := by
    intro h member deep
    obtain ⟨readableHere, width, height⟩ := oneSize h member
    exact ⟨readableHere.depth.resolve_left deep,
      ⟨readableHere.holdsPixel, width ▸ wide⟩, height ▸ tall⟩
  have split := takenPages_split first (first :: rest)
  rw [taken] at oneSize telling split
  rw [List.append_assoc, List.cons_append] at split
  apply keeps.one_telling diffuses split _ oneBits oneBits'
    (telling marked (by simp) deep) (telling edged (by simp) deep')
  intro h member
  apply oneSize
  simp only [List.mem_append, List.mem_cons, List.not_mem_nil,
    or_false] at member ⊢
  tauto

end Keeping

/-- A document keeps its pages as they are, whatever is on them, exactly when
its pages fit together. -/
theorem keepsGeometry_iff [CarriesError F] {mode : DitherMode}
    {headers : List PageHeader} (readable : ∀ h ∈ headers, h.Readable) :
    KeepsGeometry F mode headers ↔ FitsTogether mode headers := by
  constructor
  · intro keeps
    cases headers with
    | nil => trivial
    | cons first rest =>
        exact ⟨sizes_of_keepsGeometry keeps readable,
          errors_of_keepsGeometry keeps readable,
          refused_of_keepsGeometry keeps readable⟩
  · exact keepsGeometry_of_fitsTogether readable

end Misfit

/-- A grey label and a one-bit one of its size. -/
def labelHeaders : List PageHeader :=
  [⟨384#32, 240#32, 8#32, 384#32, 1#32⟩, ⟨384#32, 240#32, 1#32, 48#32, 1#32⟩]

theorem keepsGeometry_labelHeaders :
    (∀ h ∈ labelHeaders, h.Readable) ∧
      KeepsGeometry Rat .floydSteinberg labelHeaders := by
  have readable : ∀ h ∈ labelHeaders, h.Readable := by
    intro h member
    simp only [labelHeaders, List.mem_cons, List.not_mem_nil,
      or_false] at member
    rcases member with rfl | rfl
    · exact ⟨.inr (.inl rfl), by decide, fun _ => by decide⟩
    · exact ⟨.inl rfl, by decide, fun _ => by decide⟩
  exact ⟨readable, (keepsGeometry_iff readable).mpr
    ⟨by decide, .inr (.inr (.inr (by decide))), by decide⟩⟩

/-- A black page that is narrower than the first panics. -/
theorem narrowPage_panics :
    ¬ KeepsGeometry Rat .bayer
      [⟨16#32, 1#32, 8#32, 16#32, 1#32⟩, ⟨8#32, 1#32, 8#32, 8#32, 1#32⟩] := by
  intro keeps
  let document : RasterDocument := .readable
    [⟨⟨16#32, 1#32, 8#32, 16#32, 1#32⟩, List.replicate 16 0#8, ""⟩,
      ⟨⟨8#32, 1#32, 8#32, 8#32, 1#32⟩, List.replicate 8 0#8, ""⟩] (.ok ())
  have panicked : (Session.runOn (fun _ _ => .ok ()) (runCupsRasterJob .bayer
      ⟨"", 0#32, 384#32⟩ 1#32 Rat document)).1 = .error .panicked := by
    rfl
  exact (keeps _ _ document _ rfl).1 panicked

end SupvanCups
