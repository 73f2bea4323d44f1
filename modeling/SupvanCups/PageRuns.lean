import SupvanCups.DitherCarry
import SupvanCups.RasterDocument

/-!
# From page to page

A page that was written leaves nothing in its job but the error rows of the
ditherer: the raster is cleared, and the rest of the job stays as it was
started.  The device is asked for exactly the pages that were written on the
jobs so left.
-/

namespace SupvanCups

section Pages

variable {F : Type} [DitherFloat F] [DecidableLT F]

/-! ### Lines as they are read -/

/-- The lines of a content, all of one size. -/
def lineChunks : Nat → Nat → Bytes → List Bytes
  | 0, _, _ => []
  | count + 1, size, content =>
      content.take size :: lineChunks count size (content.drop size)

def RasterPage.lines (page : RasterPage) : List Bytes :=
  lineChunks page.header.height.toNat page.header.bytesPerLine.toNat
    page.content

@[simp]
theorem lineChunks_length (count size : Nat) (content : Bytes) :
    (lineChunks count size content).length = count := by
  induction count generalizing content with
  | zero => rfl
  | succ count ih => simp [lineChunks, ih]

namespace KsJob

/-- A page can be read to its end exactly when its content has all its lines
and the job takes them. -/
theorem readLines_ok_iff (page : RasterPage) (left y : Nat) (content : Bytes)
    (job job' : KsJob F) :
    readLines page left y content job = .ok job' ↔
      left * page.header.bytesPerLine.toNat ≤ content.length ∧
      writeLines page.header.options
        (lineChunks left page.header.bytesPerLine.toNat content) y job =
          some (.ok job') := by
  induction left generalizing y content job with
  | zero => simp [readLines, writeLines, lineChunks]
  | succ left ih =>
      rw [readLines, lineChunks, writeLines, Nat.succ_mul]
      by_cases short : content.length < page.header.bytesPerLine.toNat
      · simp only [if_pos short, reduceCtorEq, false_iff, not_and]
        intro enough
        omega
      · rw [if_neg short]
        rcases job.writeLine page.header.options y
            (content.take page.header.bytesPerLine.toNat) with
          _ | ⟨message | ⟨⟩, next⟩
        · simp
        · simp
        · simp only [ih, List.length_drop]
          exact and_congr_left fun _ => by omega

theorem writePage_ok_iff (page : RasterPage) (job job' : KsJob F) :
    job.writePage page = .ok job' ↔
      page.header.height.toNat * page.header.bytesPerLine.toNat ≤
        page.content.length ∧
      writeLines page.header.options page.lines 0 job = some (.ok job') :=
  readLines_ok_iff page _ 0 page.content job job'

/-! ### What a line changes -/

/-- The job with other data on its page and other error rows. -/
def holding (job : KsJob F) (rasterData : Bytes) (linesReceived : Nat)
    (err : ErrorRing F job.ditherer.width) (row : Fin errorRows) : KsJob F :=
  { job with
    rasterData := rasterData
    linesReceived := linesReceived
    ditherer := job.ditherer.carrying err row }

/-- Lines that leave the error rows alone. -/
def LeavesErrors (options : JobOptions) (job : KsJob F) : Prop :=
  options.bitsPerPixel = 1 ∨ job.ditherer.mode = .bayer

omit [DitherFloat F] [DecidableLT F] in
theorem appendLine_take (job : KsJob F) (y : Nat) (line : Bytes) :
    job.appendLine y line =
      if job.height ≤ y then some (false, job)
      else
        (copyInto job.rasterData (y * job.bytesPerLine % 2 ^ 32)
          (line.take job.bytesPerLine)).map fun rasterData =>
            (true, { job with
              rasterData := rasterData
              linesReceived := job.linesReceived + 1 }) := by
  have piece : line.take (min line.length job.bytesPerLine) =
      line.take job.bytesPerLine := by
    rw [Nat.min_comm, ← List.take_take, List.take_length]
  simp only [appendLine, piece]

omit [DitherFloat F] [DecidableLT F] in
theorem appendLine_true {job job' : KsJob F} {y : Nat} {line : Bytes}
    (run : job.appendLine y line = some (true, job')) :
    y < job.height ∧ ∃ rasterData,
      copyInto job.rasterData (y * job.bytesPerLine % 2 ^ 32)
        (line.take job.bytesPerLine) = some rasterData ∧
      job' = { job with
        rasterData := rasterData
        linesReceived := job.linesReceived + 1 } := by
  rw [appendLine_take] at run
  split at run
  · cases run
  · next onPage =>
      obtain ⟨rasterData, copied, same⟩ := Option.map_eq_some_iff.mp run
      exact ⟨Nat.not_le.mp onPage, rasterData, copied,
        (Prod.mk.inj same).2.symm⟩

/-- The job with another density, printhead and ditherer. -/
def equipped (job : KsJob F) (density : U8) (printheadWidthDots : Nat)
    (ditherer : Ditherer F) : KsJob F :=
  { job with
    density := density
    printheadWidthDots := printheadWidthDots
    ditherer := ditherer }

omit [DitherFloat F] [DecidableLT F] in
theorem appendLine_equipped (job : KsJob F) (y : Nat) (line : Bytes)
    (density : U8) (dots : Nat) (ditherer : Ditherer F) :
    (job.equipped density dots ditherer).appendLine y line =
      (job.appendLine y line).map fun result =>
        (result.1, result.2.equipped density dots ditherer) := by
  simp only [appendLine_take, equipped]
  split
  · rfl
  · simp only [Option.map_map]
    rfl

omit [DitherFloat F] [DecidableLT F] in
theorem appendLine_relabelled (job : KsJob F) (y : Nat) (line : Bytes)
    (density : U8) (dots : Nat) :
    (job.equipped density dots job.ditherer).appendLine y line =
      (job.appendLine y line).map fun result =>
        (result.1, result.2.equipped density dots result.2.ditherer) := by
  simp only [appendLine_take, equipped]
  split
  · rfl
  · simp only [Option.map_map]
    rfl

/-- Lines do not depend on the density and the printhead. -/
theorem writeLine_equipped (options : JobOptions) (job : KsJob F) (y : Nat)
    (line : Bytes) (density : U8) (dots : Nat) :
    (job.equipped density dots job.ditherer).writeLine options y line =
      (job.writeLine options y line).map fun result =>
        (result.1, result.2.equipped density dots result.2.ditherer) := by
  unfold writeLine
  split
  · simp only [Option.bind_eq_bind, Option.map_bind]
    apply Option.bind_congr
    rintro ⟨ditherer, mono⟩ _
    have appended := appendLine_relabelled { job with ditherer := ditherer } y
      mono density dots
    simp only [equipped] at appended ⊢
    rw [appended, Option.bind_map]
    simp only [Function.comp_apply, Option.map_bind]
    rfl
  · split
    · rfl
    · simp only [appendLine_relabelled, Option.bind_eq_bind, Option.map_bind,
        Option.bind_map]
      rfl

/-- One-bit lines do not depend on the ditherer either. -/
theorem writeLine_oneBit {options : JobOptions}
    (oneBit : options.bitsPerPixel = 1) (job : KsJob F) (y : Nat)
    (line : Bytes) (density : U8) (dots : Nat) (ditherer : Ditherer F) :
    (job.equipped density dots ditherer).writeLine options y line =
      (job.writeLine options y line).map fun result =>
        (result.1, result.2.equipped density dots ditherer) := by
  simp only [writeLine, oneBit, toGrayLine, ne_eq, not_true_eq_false,
    if_false, appendLine_equipped, Option.bind_eq_bind, Option.map_bind,
    Option.bind_map]
  rfl

/-- A contone line that was taken is dithered into its place. -/
theorem writeLine_grey {options : JobOptions} {job job' : KsJob F} {y : Nat}
    {line input : Bytes}
    (grey : toGrayLine options.bitsPerPixel line options.width.toNat =
      some input)
    (run : job.writeLine options y line = some (.ok (), job')) :
    y < job.height ∧ ∃ mono rasterData err row,
      job.ditherer.line input y
          (List.replicate (divCeil options.width.toNat 8) 0#8) =
        some (job.ditherer.carrying err row, mono) ∧
      copyInto job.rasterData (y * job.bytesPerLine % 2 ^ 32)
        (mono.take job.bytesPerLine) = some rasterData ∧
      job' = job.holding rasterData (job.linesReceived + 1) err row := by
  unfold writeLine at run
  simp only [grey, Option.bind_eq_bind, Option.bind_eq_some_iff,
    Prod.exists] at run
  obtain ⟨next, mono, dithered, inside, later, appended, same⟩ := run
  obtain ⟨placedOk, rfl⟩ := Prod.mk.inj (Option.some.inj same)
  cases inside with
  | false => cases placedOk
  | true =>
      obtain ⟨_, err, row, rfl, _⟩ := Ditherer.line_some dithered
      obtain ⟨onPage, rasterData, copied, rfl⟩ := appendLine_true appended
      exact ⟨onPage, mono, rasterData, err, row, dithered, copied, rfl⟩

/-- A line that was taken is a packed line in its place. -/
theorem writeLine_ok {options : JobOptions} {job job' : KsJob F} {y : Nat}
    {line : Bytes} (run : job.writeLine options y line = some (.ok (), job')) :
    y < job.height ∧ ∃ packed : Bytes, ∃ rasterData err row,
      copyInto job.rasterData (y * job.bytesPerLine % 2 ^ 32)
        (packed.take job.bytesPerLine) = some rasterData ∧
      job' = job.holding rasterData (job.linesReceived + 1) err row ∧
      (options.bitsPerPixel ≠ 1 →
        packed.length = divCeil options.width.toNat 8) ∧
      (LeavesErrors options job →
        err = job.ditherer.err ∧ row = job.ditherer.row) := by
  cases grey : toGrayLine options.bitsPerPixel line options.width.toNat with
  | some input =>
      obtain ⟨onPage, mono, rasterData, err, row, dithered, copied, rfl⟩ :=
        writeLine_grey grey run
      obtain ⟨length, err', row', same, kept⟩ := Ditherer.line_some dithered
      obtain ⟨rfl, rfl⟩ := Ditherer.carrying_inj same
      refine ⟨onPage, mono, rasterData, err, row, copied, rfl,
        fun _ => length.trans List.length_replicate, ?_⟩
      rintro (oneBit | isBayer)
      · rw [oneBit] at grey
        cases grey
      · exact kept isBayer
  | none =>
      unfold writeLine at run
      simp only [grey] at run
      split at run
      · cases run
      · next oneBit =>
          simp only [Option.bind_eq_bind, Option.bind_eq_some_iff,
            Prod.exists] at run
          obtain ⟨inside, later, appended, same⟩ := run
          obtain ⟨placedOk, rfl⟩ := Prod.mk.inj (Option.some.inj same)
          cases inside with
          | false => cases placedOk
          | true =>
              obtain ⟨onPage, rasterData, copied, rfl⟩ :=
                appendLine_true appended
              exact ⟨onPage, line, rasterData, _, _, copied, rfl,
                fun deeper => absurd deeper oneBit, fun _ => ⟨rfl, rfl⟩⟩

theorem writeLines_cons {options : JobOptions} {line : Bytes}
    {lines : List Bytes} {y : Nat} {job job' : KsJob F}
    (run : writeLines options (line :: lines) y job = some (.ok job')) :
    ∃ next, job.writeLine options y line = some (.ok (), next) ∧
      writeLines options lines (y + 1) next = some (.ok job') := by
  rw [writeLines] at run
  rcases written : job.writeLine options y line with
    _ | ⟨message | ⟨⟩, next⟩ <;> rw [written] at run
  · cases run
  · cases run
  · exact ⟨next, rfl, run⟩

theorem writeLines_append {options : JobOptions} {first second : List Bytes}
    {y : Nat} {job job' : KsJob F}
    (run : writeLines options (first ++ second) y job = some (.ok job')) :
    ∃ middle, writeLines options first y job = some (.ok middle) ∧
      writeLines options second (y + first.length) middle =
        some (.ok job') := by
  induction first generalizing y job with
  | nil => exact ⟨job, rfl, run⟩
  | cons line first ih =>
      rw [List.cons_append] at run
      obtain ⟨next, written, rest⟩ := writeLines_cons run
      obtain ⟨middle, runFirst, runSecond⟩ := ih rest
      refine ⟨middle, ?_, ?_⟩
      · simp only [writeLines, written, runFirst]
      · rw [List.length_cons, ← Nat.add_assoc, Nat.add_right_comm]
        exact runSecond

/-- A change of the job that commutes with each line commutes with all. -/
theorem writeLines_map {options : JobOptions} {change : KsJob F → KsJob F}
    (commutes : ∀ job y line, (change job).writeLine options y line =
      (job.writeLine options y line).map fun result =>
        (result.1, change result.2))
    {lines : List Bytes} {y : Nat} {job job' : KsJob F}
    (run : writeLines options lines y job = some (.ok job')) :
    writeLines options lines y (change job) = some (.ok (change job')) := by
  induction lines generalizing y job with
  | nil =>
      obtain rfl := Except.ok.inj (Option.some.inj run)
      rfl
  | cons line lines ih =>
      obtain ⟨next, written, rest⟩ := writeLines_cons run
      simp only [writeLines, commutes, written, Option.map_some, ih rest]

/-- Lines that were taken only change the page and the error rows. -/
theorem writeLines_ok {options : JobOptions} {lines : List Bytes} {y : Nat}
    {job job' : KsJob F}
    (run : writeLines options lines y job = some (.ok job')) :
    (lines ≠ [] → y + lines.length ≤ job.height) ∧
      ∃ rasterData received err row,
        job' = job.holding rasterData received err row ∧
        rasterData.length = job.rasterData.length ∧
        (LeavesErrors options job →
          err = job.ditherer.err ∧ row = job.ditherer.row) := by
  induction lines generalizing y job with
  | nil =>
      obtain rfl := Except.ok.inj (Option.some.inj run)
      exact ⟨fun some => absurd rfl some, _, _, _, _, rfl, rfl,
        fun _ => ⟨rfl, rfl⟩⟩
  | cons line lines ih =>
      obtain ⟨next, written, rest⟩ := writeLines_cons run
      obtain ⟨onPage, packed, placed, err, row, copied, rfl, _, kept⟩ :=
        writeLine_ok written
      obtain ⟨fits, rasterData, received, err', row', rfl, length, kept'⟩ :=
        ih rest
      refine ⟨fun _ => ?_, rasterData, received, err', row', rfl,
        length.trans (copyInto_length copied), fun leaves => ?_⟩
      · rw [List.length_cons]
        cases lines with
        | nil => exact onPage
        | cons next lines =>
            have below := fits nofun
            simp only [holding] at below
            omega
      · obtain ⟨rfl, rfl⟩ := kept leaves
        exact kept' leaves

/-! ### Lines that cannot panic -/

/-- The page buffer has room for all lines of the job. -/
structure Fits (job : KsJob F) : Prop where
  size : job.rasterData.length = job.height * job.bytesPerLine
  small : job.height * job.bytesPerLine < 2 ^ 32

/-- The depths that a job takes. -/
def Depth (options : JobOptions) : Prop :=
  options.bitsPerPixel = 1 ∨ options.bitsPerPixel = 8 ∨
    options.bitsPerPixel = 24

/-- A line of these options is packed into enough bytes for the ditherer. -/
def Room (options : JobOptions) (job : KsJob F) : Prop :=
  options.bitsPerPixel = 1 ∨ options.width = 0#32 ∨
    divCeil job.ditherer.width 8 ≤ divCeil options.width.toNat 8

omit [DitherFloat F] [DecidableLT F] in
theorem Fits.holding {job : KsJob F} (fits : job.Fits) {rasterData : Bytes}
    (length : rasterData.length = job.rasterData.length) (received : Nat)
    (err : ErrorRing F job.ditherer.width) (row : Fin errorRows) :
    (job.holding rasterData received err row).Fits :=
  ⟨length.trans fits.size, fits.small⟩

omit [DitherFloat F] [DecidableLT F] in
/-- The row of a line ends where the next one starts, within the page. -/
theorem Fits.row_le {job : KsJob F} (fits : job.Fits) {y : Nat}
    (onPage : y < job.height) :
    y * job.bytesPerLine + job.bytesPerLine ≤ job.rasterData.length := by
  rw [fits.size]
  exact rowEnd_le onPage job.bytesPerLine

omit [DitherFloat F] [DecidableLT F] in
/-- A line on the page is copied to its row. -/
theorem Fits.copyInto {job : KsJob F} (fits : job.Fits) {y : Nat}
    (onPage : y < job.height) (line : Bytes) :
    y * job.bytesPerLine % 2 ^ 32 = y * job.bytesPerLine ∧
      ∃ copied, SupvanCups.copyInto job.rasterData (y * job.bytesPerLine)
          (line.take job.bytesPerLine) = some copied ∧
        copied.length = job.rasterData.length := by
  have rowEnd := fits.row_le onPage
  have small := fits.small
  rw [← fits.size] at small
  have pieceBound := List.length_take_le job.bytesPerLine line
  exact ⟨Nat.mod_eq_of_lt (by omega), copyInto_of_fits (by omega)⟩

omit [DitherFloat F] [DecidableLT F] in
theorem Fits.appendLine {job : KsJob F} (fits : job.Fits) (y : Nat)
    (line : Bytes) :
    ∃ job', job.appendLine y line = some (decide (y < job.height), job') := by
  rw [appendLine_take]
  by_cases onPage : y < job.height
  · obtain ⟨offset, copied, copies, _⟩ := fits.copyInto onPage line
    rw [if_neg (Nat.not_le.mpr onPage), offset, copies, decide_eq_true onPage]
    exact ⟨_, rfl⟩
  · rw [if_pos (Nat.not_lt.mp onPage), decide_eq_false onPage]
    exact ⟨job, rfl⟩

theorem toGrayLine_length {bitsPerPixel width : Nat} {line input : Bytes}
    (grey : toGrayLine bitsPerPixel line width = some input) :
    input.length = width := by
  unfold toGrayLine at grey
  split at grey
  · split at grey
    · cases grey
      simp only [List.length_take]
      omega
    · cases grey
      simp only [List.length_append, List.length_replicate]
      omega
  · cases grey
    simp
  · cases grey

/-- Where there is room, a line is taken or refused by its place alone. -/
theorem writeLine_total {options : JobOptions} {job : KsJob F}
    (fits : job.Fits) (depth : Depth options) (room : Room options job)
    (y : Nat) (line : Bytes) :
    ∃ job', job.writeLine options y line =
      some (placed y (decide (y < job.height)), job') := by
  unfold writeLine
  cases grey : toGrayLine options.bitsPerPixel line options.width.toNat with
  | some input =>
      have inside : ∀ x < min job.ditherer.width input.length,
          (job.ditherer.width - 1 - x) / 8 <
            (List.replicate (divCeil options.width.toNat 8) 0#8).length := by
        intro x xBound
        rw [toGrayLine_length grey] at xBound
        rw [List.length_replicate]
        rcases room with oneBit | empty | room
        · rw [oneBit] at grey
          cases grey
        · simp [empty] at xBound
        · simp only [divCeil] at room ⊢
          omega
      obtain ⟨next, mono, dithered, _⟩ :=
        job.ditherer.line_total input y inside
      have fitsNext : { job with ditherer := next }.Fits :=
        ⟨fits.size, fits.small⟩
      obtain ⟨job', appended⟩ := fitsNext.appendLine y mono
      exact ⟨job', by simp [dithered, appended]⟩
  | none =>
      have oneBit : options.bitsPerPixel = 1 := by
        rcases depth with oneBit | grey8 | rgb24
        · exact oneBit
        · rw [grey8, toGrayLine] at grey
          split at grey <;> cases grey
        · rw [rgb24, toGrayLine] at grey
          cases grey
      obtain ⟨job', appended⟩ := fits.appendLine y line
      exact ⟨job', by simp [oneBit, appended]⟩

/-- Where there is room, reading a page never panics. -/
theorem readLines_total {page : RasterPage} {job : KsJob F} (fits : job.Fits)
    (depth : Depth page.header.options) (room : Room page.header.options job)
    (left y : Nat) (content : Bytes) :
    readLines page left y content job ≠ .error .panicked ∧
      (left * page.header.bytesPerLine.toNat ≤ content.length →
        y + left ≤ job.height →
        ∃ job', readLines page left y content job = .ok job') := by
  induction left generalizing y content job with
  | zero => exact ⟨nofun, fun _ _ => ⟨job, rfl⟩⟩
  | succ left ih =>
      rw [readLines, Nat.succ_mul]
      by_cases short : content.length < page.header.bytesPerLine.toNat
      · rw [if_pos short]
        exact ⟨nofun, fun enough => by omega⟩
      · obtain ⟨next, written⟩ := writeLine_total fits depth room y
          (content.take page.header.bytesPerLine.toNat)
        simp only [if_neg short, written]
        by_cases onPage : y < job.height
        · simp only [onPage, decide_true, placed] at written ⊢
          obtain ⟨_, packed, rasterData, err, row, copied, rfl, _, _⟩ :=
            writeLine_ok written
          obtain ⟨noPanic, reads⟩ := ih
            (fits.holding (copyInto_length copied) _ err row) room (y + 1)
            (content.drop page.header.bytesPerLine.toNat)
          refine ⟨noPanic, fun enough below => reads ?_ ?_⟩
          · rw [List.length_drop]
            omega
          · simp only [KsJob.holding]
            omega
        · simp only [onPage, decide_false, placed]
          exact ⟨nofun, fun _ below => by omega⟩

theorem writePage_total {page : RasterPage} {job : KsJob F} (fits : job.Fits)
    (depth : Depth page.header.options) (room : Room page.header.options job) :
    job.writePage page ≠ .error .panicked ∧
      (page.header.height.toNat * page.header.bytesPerLine.toNat ≤
          page.content.length →
        page.header.height.toNat ≤ job.height →
        ∃ job', job.writePage page = .ok job') := by
  have total := readLines_total fits depth room page.header.height.toNat 0
    page.content
  rwa [Nat.zero_add] at total

/-! ### Jobs between two pages -/

/-- Nothing is on the page. -/
structure Blank (job : KsJob F) : Prop where
  data : ∃ size, job.rasterData = List.replicate size 0#8
  lines : job.linesReceived = 0

/-- The job with other error rows. -/
def carrying (job : KsJob F) (err : ErrorRing F job.ditherer.width)
    (row : Fin errorRows) : KsJob F :=
  { job with ditherer := job.ditherer.carrying err row }

/-- Write and clear the pages one by one. -/
def afterPages : List RasterPage → KsJob F → Except JobStop (KsJob F)
  | [], job => .ok job
  | page :: pages, job =>
      match job.writePage page with
      | .error stop => .error stop
      | .ok job => afterPages pages job.clearPage

omit [DitherFloat F] [DecidableLT F] in
theorem clearPage_holding {job : KsJob F} (blank : job.Blank)
    {rasterData : Bytes} (length : rasterData.length = job.rasterData.length)
    (received : Nat) (err : ErrorRing F job.ditherer.width)
    (row : Fin errorRows) :
    (job.holding rasterData received err row).clearPage =
      job.carrying err row := by
  obtain ⟨⟨size, data⟩, lines⟩ := blank
  simp [clearPage, holding, carrying, length, data, lines]

/-- A written page leaves only its error rows behind, and it has no more lines
than the job. -/
theorem writePage_ok {page : RasterPage} {job job' : KsJob F}
    (run : job.writePage page = .ok job') :
    page.header.height.toNat ≤ job.height ∧
      ∃ rasterData received err row,
        job' = job.holding rasterData received err row ∧
        rasterData.length = job.rasterData.length ∧
        (LeavesErrors page.header.options job →
          err = job.ditherer.err ∧ row = job.ditherer.row) := by
  obtain ⟨fits, rest⟩ := writeLines_ok ((writePage_ok_iff page _ _).mp run).2
  refine ⟨?_, rest⟩
  have count : page.lines.length = page.header.height.toNat :=
    lineChunks_length _ _ _
  cases lines : page.lines with
  | nil => simp [← count, lines]
  | cons line lines' =>
      rw [← count]
      simpa using fits (by simp [lines])

/-- A page of no bytes is printed the same whatever the job carries. -/
theorem writePage_carrying_empty {page : RasterPage} {job next : KsJob F}
    (fits : job.Fits) (empty : job.rasterData = [])
    (depth : Depth page.header.options) (room : Room page.header.options job)
    {err : ErrorRing F job.ditherer.width} {row : Fin errorRows}
    (written : (job.carrying err row).writePage page = .ok next) :
    ∃ alone, job.writePage page = .ok alone ∧ next.sheet = alone.sheet := by
  have enough := ((writePage_ok_iff page _ next).mp written).1
  obtain ⟨below, data, received, err', row', rfl, length, _⟩ :=
    writePage_ok written
  obtain ⟨alone, writtenAlone⟩ :=
    (writePage_total fits depth room).2 enough below
  obtain ⟨_, dataAlone, _, _, _, rfl, lengthAlone, _⟩ :=
    writePage_ok writtenAlone
  refine ⟨_, writtenAlone, ?_⟩
  have noData : data = [] := by
    apply List.eq_nil_of_length_eq_zero
    rw [length]
    exact congrArg List.length empty
  have noDataAlone : dataAlone = [] := by
    apply List.eq_nil_of_length_eq_zero
    rw [lengthAlone, empty, List.length_nil]
  simp only [sheet, holding, noData, noDataAlone]
  rfl

/-- Pages leave only error rows behind. -/
theorem afterPages_ok {pages : List RasterPage} {job later : KsJob F}
    (blank : job.Blank) (run : job.afterPages pages = .ok later) :
    (∃ err row, later = job.carrying err row) ∧
      ((∀ page ∈ pages, LeavesErrors page.header.options job) →
        later = job) ∧
      ∀ page ∈ pages, page.header.height.toNat ≤ job.height := by
  induction pages generalizing job with
  | nil =>
      obtain rfl := Except.ok.inj run
      exact ⟨⟨job.ditherer.err, job.ditherer.row, rfl⟩, fun _ => rfl, nofun⟩
  | cons page pages ih =>
      rw [afterPages] at run
      cases written : job.writePage page with
      | error stop =>
          rw [written] at run
          cases run
      | ok next =>
          rw [written] at run
          obtain ⟨fits, rasterData, received, err, row, rfl, length, kept⟩ :=
            writePage_ok written
          simp only [clearPage_holding blank length] at run
          have stillBlank : (job.carrying err row).Blank := ⟨blank.1, blank.2⟩
          obtain ⟨⟨err', row', rfl⟩, same, heights⟩ := ih stillBlank run
          refine ⟨⟨err', row', rfl⟩, fun leaves => ?_, ?_⟩
          · obtain ⟨here, rest⟩ := List.forall_mem_cons.mp leaves
            obtain ⟨rfl, rfl⟩ := kept here
            exact same rest
          · exact List.forall_mem_cons.mpr ⟨fits, heights⟩

end KsJob

omit [DecidableLT F] in
theorem startJob_congr (dither : DitherMode) (record : JobRecord)
    {h h' : PageHeader} (width : h.width = h'.width)
    (height : h.height = h'.height) :
    (startJob dither record h : KsJob F) = startJob dither record h' := by
  simp only [startJob, KsJob.start, PageHeader.options, width, height]

/-! ### What the pages ask for -/

theorem exists_split_cons {α : Type} (first : α) (rest : List α)
    (holds : List α → α → Prop) :
    (∃ before page after, first :: rest = before ++ page :: after ∧
        holds before page) ↔
      holds [] first ∨ ∃ before page after, rest = before ++ page :: after ∧
        holds (first :: before) page := by
  constructor
  · rintro ⟨_ | ⟨head, before⟩, page, after, split, here⟩
    · obtain ⟨rfl, rfl⟩ := List.cons.inj split
      exact .inl here
    · obtain ⟨rfl, rfl⟩ := List.cons.inj split
      exact .inr ⟨before, page, after, rfl, here⟩
  · rintro (here | ⟨before, page, after, rfl, here⟩)
    · exact ⟨[], first, rest, rfl, here⟩
    · exact ⟨first :: before, page, after, rfl, here⟩

section Plan

variable {dither : DitherMode} {record : JobRecord} {copiesOverride : U32}
  {ended : Except String Unit}

theorem pagePlan_none (first : RasterPage) (pages : List RasterPage)
    (pageNum : Nat) :
    pagePlan dither record copiesOverride ended F (first :: pages) none
        pageNum =
      pagePlan dither record copiesOverride ended F (first :: pages)
        (some (startJob dither record first.header)) pageNum :=
  rfl

/-- Each sheet asked for is a page written on the job that the pages before it
left. -/
theorem mem_pagePlan_iff (pages : List RasterPage) (job : KsJob F)
    (pageNum : Nat) (call : JobCall) :
    call ∈ (pagePlan dither record copiesOverride ended F pages (some job)
        pageNum).1 ↔
      ∃ before page after, pages = before ++ page :: after ∧
        ∃ state next, job.afterPages before = .ok state ∧
          state.writePage page = .ok next ∧
          call = .transferPage (pageNum + before.length) next.sheet := by
  induction pages generalizing job pageNum with
  | nil => simp [pagePlan]
  | cons first pages ih =>
      rw [exists_split_cons]
      simp only [pagePlan, Option.getD_some, KsJob.afterPages]
      cases written : job.writePage first with
      | error stop => simp [written]
      | ok next =>
          have copies := first.header.copies_pos copiesOverride
          simp only [List.mem_append, List.mem_replicate, ih,
            Except.ok.injEq, List.length_nil, Nat.add_zero,
            List.length_cons, exists_and_left, exists_eq_left', written]
          simp [copies.ne', Nat.add_assoc, Nat.add_comm 1]

theorem pagePlan_panicked_iff (pages : List RasterPage) (job : KsJob F)
    (pageNum : Nat) :
    (pagePlan dither record copiesOverride ended F pages (some job)
        pageNum).2 = .error .panicked ↔
      ∃ before page after, pages = before ++ page :: after ∧
        ∃ state, job.afterPages before = .ok state ∧
          state.writePage page = .error .panicked := by
  induction pages generalizing job pageNum with
  | nil => cases ended <;> simp [pagePlan, Except.mapError]
  | cons first pages ih =>
      rw [exists_split_cons]
      simp only [pagePlan, Option.getD_some, KsJob.afterPages]
      cases written : job.writePage first with
      | error stop => simp [written]
      | ok next => simp [written, ih]

/-! ### What a run prints -/

/-- A run asks the device to print this sheet for a page. -/
def PrintsSheet (F : Type) [DitherFloat F] [DecidableLT F]
    (dither : DitherMode) (record : JobRecord) (copiesOverride : U32)
    (document : RasterDocument) (device : JobDevice) (page : Nat)
    (sheet : Sheet) : Prop :=
  ∃ reply, (JobCall.transferPage page sheet, reply) ∈
    (Session.runOn device
      (runCupsRasterJob dither record copiesOverride F document)).2

theorem PrintsSheet.mem_plan {document : RasterDocument} {device : JobDevice}
    {page : Nat} {sheet : Sheet}
    (prints : PrintsSheet F dither record copiesOverride document device page
      sheet) :
    JobCall.transferPage page sheet ∈
      (documentPlan dither record copiesOverride F document).1 := by
  obtain ⟨reply, member⟩ := prints
  have called := (runCupsRasterJob_follows dither record copiesOverride F
    document).mem_calls device member
  rcases List.mem_cons.mp called with opened | planned
  · cases opened
  · exact planned

theorem printsSheet_iff_mem {document : RasterDocument} {device : JobDevice}
    {page : Nat} {sheet : Sheet} :
    PrintsSheet F dither record copiesOverride document device page sheet ↔
      JobCall.transferPage page sheet ∈
        (Session.runOn device
          (runCupsRasterJob dither record copiesOverride F document)).2.map
            Prod.fst := by
  simp [PrintsSheet]

/-- A run prints pages that were written on the jobs left by the pages before
them. -/
theorem PrintsSheet.written {first : RasterPage} {pages : List RasterPage}
    {device : JobDevice} {page : Nat} {sheet : Sheet}
    (prints : PrintsSheet F dither record copiesOverride
      (.readable (first :: pages) ended) device page sheet) :
    ∃ before here after, first :: pages = before ++ here :: after ∧
      ∃ state next,
        (startJob dither record first.header : KsJob F).afterPages before =
          .ok state ∧
        state.writePage here = .ok next ∧ page = before.length ∧
        sheet = next.sheet := by
  have called := prints.mem_plan
  simp only [documentPlan, pagePlan_none, mem_pagePlan_iff] at called
  obtain ⟨before, here, after, split, state, next, left, written, same⟩ :=
    called
  obtain ⟨rfl, rfl⟩ := JobCall.transferPage.inj same
  exact ⟨before, here, after, split, state, next, left, written,
    Nat.zero_add _, rfl⟩

/-- A device that accepts everything is asked for every page that can be
written. -/
theorem printsSheet_accepting {first : RasterPage} {pages : List RasterPage}
    {before after : List RasterPage} {here : RasterPage}
    (split : first :: pages = before ++ here :: after) {state next : KsJob F}
    (left : (startJob dither record first.header : KsJob F).afterPages before =
      .ok state) (written : state.writePage here = .ok next) :
    PrintsSheet F dither record copiesOverride
      (.readable (first :: pages) ended) (fun _ _ => .ok ()) before.length
      next.sheet := by
  refine ⟨.ok (), ?_⟩
  rw [(runCupsRasterJob_follows dither record copiesOverride F
    (.readable (first :: pages) ended)).runOn_accepting]
  apply List.mem_map_of_mem
  apply List.mem_cons_of_mem
  simp only [documentPlan, pagePlan_none, mem_pagePlan_iff]
  exact ⟨before, here, after, split, state, next, left, written,
    by rw [Nat.zero_add]⟩

theorem runCupsRasterJob_panicked_iff_plan (document : RasterDocument) :
    (∃ device, (Session.runOn device (runCupsRasterJob dither record
        copiesOverride F document)).1 = .error .panicked) ↔
      (documentPlan dither record copiesOverride F document).2 =
        .error .panicked := by
  have follows := runCupsRasterJob_follows dither record copiesOverride F
    document
  constructor
  · rintro ⟨device, panicked⟩
    rcases follows.outcome_cases device with result | ⟨call, error, stopped⟩
    · exact result.symm.trans panicked
    · cases call <;> cases stopped.symm.trans panicked
  · intro panicked
    exact ⟨fun _ _ => .ok (), by rw [follows.runOn_accepting]; exact panicked⟩

/-- A run can panic only where a page does. -/
theorem runCupsRasterJob_panicked_iff (first : RasterPage)
    (pages : List RasterPage) :
    (∃ device, (Session.runOn device (runCupsRasterJob dither record
        copiesOverride F (.readable (first :: pages) ended))).1 =
          .error .panicked) ↔
      ∃ before page after, first :: pages = before ++ page :: after ∧
        ∃ state,
          (startJob dither record first.header : KsJob F).afterPages before =
            .ok state ∧
          state.writePage page = .error .panicked := by
  rw [runCupsRasterJob_panicked_iff_plan]
  exact pagePlan_panicked_iff (first :: pages)
    (startJob dither record first.header : KsJob F) 0

end Plan

end Pages

end SupvanCups
