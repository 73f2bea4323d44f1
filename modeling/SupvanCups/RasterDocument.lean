import SupvanCups.CallSequence
import SupvanCups.DeviceAccess
import SupvanCups.RasterJob

/-!
# Printing a raster document

A document is a list of pages, each with its own header.  One job object takes
the lines of all of them: it is sized by the first page and cleared after each.
A page goes out once per copy, and the first failure ends the run.

A transfer is one call here.  It carries everything that the page put into the
job and that the transfer reads from it.
-/

namespace SupvanCups

open Session (Follows)

/-! ### Documents -/

structure PageHeader where
  width : U32
  height : U32
  bitsPerPixel : U32
  bytesPerLine : U32
  numCopies : U32
  deriving DecidableEq

namespace PageHeader

def options (h : PageHeader) : JobOptions :=
  ⟨h.width, h.height, h.bitsPerPixel.toNat⟩

def copies (copiesOverride : U32) (h : PageHeader) : Nat :=
  if 0#32 < copiesOverride then copiesOverride.toNat
  else if h.numCopies < 1#32 then 1
  else h.numCopies.toNat

theorem copies_pos (copiesOverride : U32) (h : PageHeader) :
    0 < h.copies copiesOverride := by
  simp only [copies, BitVec.lt_def, BitVec.toNat_ofNat]
  split <;> try split
  all_goals omega

end PageHeader

/-- A page as it is read: its header, its content, and the error of a read that
goes past the content. -/
structure RasterPage where
  header : PageHeader
  content : Bytes
  readError : String

/-- A document whose start cannot be read, or its pages and what is read after
the last of them. -/
inductive RasterDocument
  | unreadable (error : String)
  | readable (pages : List RasterPage) (ended : Except String Unit)

/-! ### What a job tells its device -/

/-- What a transfer reads of a job. -/
structure Sheet where
  width : Nat
  height : Nat
  rasterData : Bytes
  density : U8
  printheadWidthDots : Nat
  deriving DecidableEq

inductive JobCall
  | openUri (uri : String)
  | transferPage (page : Nat) (sheet : Sheet)
  deriving DecidableEq

/-- Why a run ends early. -/
inductive JobStop
  | panicked
  | failed (failure : JobFailure)

/-- An error reply to `openUri` is that no device was found. -/
def JobCall.report : JobCall → JobFailure → JobStop
  | openUri uri, _ => .failed ⟨[.offline], "cannot open device " ++ uri⟩
  | transferPage _ _, failure => .failed failure

abbrev JobReply := Except JobFailure Unit

abbrev JobSession := Session JobCall JobReply JobStop

abbrev JobHistory := History JobCall JobReply

abbrev JobDevice := Device JobCall JobReply

def jobCall (call : JobCall) : JobSession Unit :=
  Session.request JobCall.report call

/-- What a run reads of its printer. -/
structure JobRecord where
  deviceUri : String
  darkness : BitVec 32
  printheadWidthDots : U32

/-- Darkness is a percentage.  The density is its share of 15, rounded. -/
def JobRecord.density (record : JobRecord) : U8 :=
  ((record.darkness * 15#32 + 50#32).sdiv 100#32).setWidth 8

section Document

variable {F : Type} [DitherFloat F] [DecidableLT F]

/-! ### One page -/

namespace KsJob

def sheet (job : KsJob F) : Sheet :=
  ⟨job.width, job.height, job.rasterData, job.density, job.printheadWidthDots⟩

def clearPage (job : KsJob F) : KsJob F :=
  { job with
    rasterData := List.replicate job.rasterData.length 0#8
    linesReceived := 0 }

/-- Read the lines that are left of a page and take each. -/
def readLines (page : RasterPage) :
    Nat → Nat → Bytes → KsJob F → Except JobStop (KsJob F)
  | 0, _, _, job => .ok job
  | left + 1, y, content, job =>
      let bpl := page.header.bytesPerLine.toNat
      if content.length < bpl then
        .error (.failed (.other
          ("raster line " ++ toString y ++ ": " ++ page.readError)))
      else
        match job.writeLine page.header.options y (content.take bpl) with
        | none => .error .panicked
        | some (.error message, _) => .error (.failed (.other message))
        | some (.ok (), job) => readLines page left (y + 1)
            (content.drop bpl) job

def writePage (page : RasterPage) (job : KsJob F) :
    Except JobStop (KsJob F) :=
  readLines page page.header.height.toNat 0 page.content job

def transferCopies (job : KsJob F) (page : Nat) : Nat → JobSession Unit
  | 0 => pure ()
  | copies + 1 => do
      jobCall (.transferPage page job.sheet)
      transferCopies job page copies

/-- Transfer every copy, then clear the page. -/
def endPage (job : KsJob F) (copies page : Nat) : JobSession (KsJob F) := do
  job.transferCopies page copies
  return job.clearPage

end KsJob

def startJob (dither : DitherMode) (record : JobRecord) (h : PageHeader) :
    KsJob F :=
  .start h.options record.density record.printheadWidthDots.toNat dither

/-! ### All pages -/

section Run

variable (dither : DitherMode) (record : JobRecord) (copiesOverride : U32)
variable (ended : Except String Unit)

/-- Print the pages that are left.  The first of all starts the job. -/
def printPages (F : Type) [DitherFloat F] [DecidableLT F] :
    List RasterPage → Option (KsJob F) → Nat → JobSession Unit
  | [], _, _ =>
      match ended with
      | .ok () => pure ()
      | .error error =>
          throw (.failed (.other ("cups raster next page: " ++ error)))
  | page :: pages, job, pageNum => do
      let state := job.getD (startJob dither record page.header)
      match state.writePage page with
      | .error stop => throw stop
      | .ok state =>
          let state ← state.endPage (page.header.copies copiesOverride) pageNum
          printPages F pages (some state) (pageNum + 1)

def printDocument (F : Type) [DitherFloat F] [DecidableLT F] :
    RasterDocument → JobSession Unit
  | .unreadable error => throw (.failed (.other ("cups raster: " ++ error)))
  | .readable [] (.error error) =>
      throw (.failed (.other ("cups raster page: " ++ error)))
  | .readable pages ended =>
      printPages dither record copiesOverride ended F pages none 0

/-- Open the device and print a document.  The polls that end a job change
nothing and are left out. -/
def runCupsRasterJob (F : Type) [DitherFloat F] [DecidableLT F]
    (document : RasterDocument) : JobSession Unit := do
  jobCall (.openUri record.deviceUri)
  printDocument dither record copiesOverride F document

/-! ### What the device is asked -/

/-- The calls that the pages ask for, and how they end if all are accepted. -/
def pagePlan (F : Type) [DitherFloat F] [DecidableLT F] :
    List RasterPage → Option (KsJob F) → Nat →
      List JobCall × Except JobStop Unit
  | [], _, _ =>
      ([], ended.mapError fun error =>
        .failed (.other ("cups raster next page: " ++ error)))
  | page :: pages, job, pageNum =>
      match (job.getD (startJob dither record page.header)).writePage page with
      | .error stop => ([], .error stop)
      | .ok state =>
          let rest := pagePlan F pages (some state.clearPage) (pageNum + 1)
          (List.replicate (page.header.copies copiesOverride)
            (.transferPage pageNum state.sheet) ++ rest.1, rest.2)

def documentPlan (F : Type) [DitherFloat F] [DecidableLT F] :
    RasterDocument → List JobCall × Except JobStop Unit
  | .unreadable error =>
      ([], .error (.failed (.other ("cups raster: " ++ error))))
  | .readable [] (.error error) =>
      ([], .error (.failed (.other ("cups raster page: " ++ error))))
  | .readable pages ended =>
      pagePlan dither record copiesOverride ended F pages none 0

omit [DitherFloat F] [DecidableLT F] in
theorem KsJob.transferCopies_follows (job : KsJob F) (page copies : Nat) :
    Follows JobCall.report (job.transferCopies page copies)
      (List.replicate copies (.transferPage page job.sheet)) (.ok ()) := by
  induction copies with
  | zero => exact Session.follows_pure ()
  | succ copies ih => exact (Session.follows_request _).bind_ok ih

omit [DitherFloat F] [DecidableLT F] in
theorem KsJob.endPage_follows (job : KsJob F) (copies page : Nat) :
    Follows JobCall.report (job.endPage copies page)
      (List.replicate copies (.transferPage page job.sheet))
      (.ok job.clearPage) := by
  rw [← List.append_nil (List.replicate copies _)]
  exact (job.transferCopies_follows page copies).bind_ok
    (Session.follows_pure job.clearPage)

theorem printPages_follows (pages : List RasterPage)
    (job : Option (KsJob F)) (pageNum : Nat) :
    Follows JobCall.report
      (printPages dither record copiesOverride ended F pages job pageNum)
      (pagePlan dither record copiesOverride ended F pages job pageNum).1
      (pagePlan dither record copiesOverride ended F pages job pageNum).2 := by
  induction pages generalizing job pageNum with
  | nil =>
      simp only [printPages, pagePlan]
      cases ended with
      | error error => exact Session.follows_throw _
      | ok ended => exact Session.follows_pure ()
  | cons page pages ih =>
      simp only [printPages, pagePlan]
      cases (job.getD (startJob dither record page.header)).writePage page with
      | error stop => exact Session.follows_throw stop
      | ok state => exact (state.endPage_follows _ _).bind_ok (ih _ _)

theorem printDocument_follows (F : Type) [DitherFloat F] [DecidableLT F]
    (document : RasterDocument) :
    Follows JobCall.report
      (printDocument dither record copiesOverride F document)
      (documentPlan dither record copiesOverride F document).1
      (documentPlan dither record copiesOverride F document).2 := by
  unfold printDocument documentPlan
  split
  · exact Session.follows_throw _
  · exact Session.follows_throw _
  · exact printPages_follows dither record copiesOverride _ _ none 0

/-- A run only depends on its device in how far it gets. -/
theorem runCupsRasterJob_follows (F : Type) [DitherFloat F] [DecidableLT F]
    (document : RasterDocument) :
    Follows JobCall.report
      (runCupsRasterJob dither record copiesOverride F document)
      (.openUri record.deviceUri ::
        (documentPlan dither record copiesOverride F document).1)
      (documentPlan dither record copiesOverride F document).2 :=
  (Session.follows_request _).bind_ok
    (printDocument_follows dither record copiesOverride F document)

end Run

end Document

end SupvanCups
