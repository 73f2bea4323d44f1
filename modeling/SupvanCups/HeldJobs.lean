import SupvanCups.RasterDocument

/-!
# Jobs that are held and run again

A job that fails for a reason that can be cleared is held, and the framework
runs it again from the start.  Nothing remembers which labels are already out:
each run that fails after a label has come out adds labels.
-/

namespace SupvanCups

open Session (Follows accepted)

/-! ### The job of the server -/

/-- A decoded image that fills its label, one byte for each dot. -/
structure LabelCanvas where
  width : U32
  height : U32
  pixels : Bytes
  full : pixels.length = width.toNat * height.toNat

def LabelCanvas.page (canvas : LabelCanvas) : RasterPage where
  header := ⟨canvas.width, canvas.height, 8#32, canvas.width, 1#32⟩
  content := canvas.pixels
  readError := ""

/-- A raster document, or an image that was decoded and fitted to its label or
could not be. -/
inductive PrintDocument
  | raster (document : RasterDocument)
  | jpeg (decoded : Except JobFailure LabelCanvas)

inductive JobOutcome
  | completed
  | deviceUnavailable (reasons : PrinterReasons)
  | failed (failure : JobFailure)
  | panicked

section Server

variable (F : Type) [DitherFloat F] [DecidableLT F]
variable (isRecoverable : PrinterReasons → Bool)
variable (dither : DitherMode) (record : JobRecord) (copies : U32)

def runJpegJob : Except JobFailure LabelCanvas → JobSession Unit
  | .error failure => throw (.failed failure)
  | .ok canvas => do
      jobCall (.openUri record.deviceUri)
      let job : KsJob F := startJob dither record canvas.page.header
      match job.writePage canvas.page with
      | .error stop => throw stop
      | .ok job =>
          let _ ← job.endPage (max copies.toNat 1) 0

def jobSession : PrintDocument → JobSession Unit
  | .raster document => runCupsRasterJob dither record copies F document
  | .jpeg decoded => runJpegJob F dither record copies decoded

/-- Hold a job that failed for reasons that can be cleared. -/
def judge : Except JobStop Unit → JobOutcome
  | .ok () => .completed
  | .error (.failed failure) =>
      if isRecoverable failure.reasons then .deviceUnavailable failure.reasons
      else .failed failure
  | .error .panicked => .panicked

/-- The `print_job` of the server, for a printer found by its name or not. -/
def serverPrintJob (printerName : String) (found : Option JobRecord)
    (document : PrintDocument) : Script JobCall JobReply JobOutcome :=
  match found with
  | none =>
      .done (.failed (.other ("printer not found: " ++ printerName)))
  | some record =>
      (jobSession F dither record copies document).run.bind fun result =>
        .done (judge isRecoverable result)

end Server

/-- The framework runs a job until it does not ask to be held. -/
inductive RunsUntil (device : JobDevice)
    (job : Script JobCall JobReply JobOutcome) :
    JobHistory → JobOutcome → JobHistory → Prop
  | settled {history later : JobHistory} {outcome : JobOutcome}
      (run : job.run device history = (outcome, later))
      (final : ∀ reasons, outcome ≠ .deviceUnavailable reasons) :
      RunsUntil device job history outcome later
  | held {history later last : JobHistory} {outcome : JobOutcome}
      {reasons : PrinterReasons}
      (run : job.run device history = (.deviceUnavailable reasons, later))
      (again : RunsUntil device job later outcome last) :
      RunsUntil device job history outcome last

/-! ### Labels -/

def JobCall.isPage (page : Nat) : JobCall → Bool
  | openUri _ => false
  | transferPage number _ => number = page

/-- A transfer that succeeded puts out a label. -/
def isLabel (event : JobCall × JobReply) : Bool :=
  match event with
  | (.transferPage _ _, .ok ()) => true
  | _ => false

def isFailure (event : JobCall × JobReply) : Bool :=
  match event.2 with
  | .ok () => false
  | .error _ => true

/-- How often a page was transferred with success. -/
def labels (page : Nat) (history : JobHistory) : Nat :=
  history.countP fun event => isLabel event && event.1.isPage page

/-- The labels of a page that a job is to put out. -/
def PrintDocument.wanted (copies : U32) : PrintDocument → Nat → Nat
  | .raster (.unreadable _), _ => 0
  | .raster (.readable pages _), page =>
      (pages[page]?.map fun p => p.header.copies copies).getD 0
  | .jpeg _, page => if page = 0 then max copies.toNat 1 else 0

/-- No device failure comes after a label. -/
def NoFailureAfterLabel (history : JobHistory) : Prop :=
  history.Pairwise fun early late =>
    isLabel early = true → isFailure late = false

theorem labels_append (page : Nat) (first second : JobHistory) :
    labels page (first ++ second) = labels page first + labels page second :=
  List.countP_append

theorem exists_labels_pos_iff (history : JobHistory) :
    (∃ page, 0 < labels page history) ↔
      ∃ event ∈ history, isLabel event = true := by
  simp only [labels, List.countP_pos_iff, Bool.and_eq_true]
  constructor
  · rintro ⟨page, event, member, printed, _⟩
    exact ⟨event, member, printed⟩
  · rintro ⟨⟨call, reply⟩, member, printed⟩
    cases call with
    | openUri uri => cases printed
    | transferPage page sheet =>
        exact ⟨page, _, member, printed, by simp [JobCall.isPage]⟩

theorem labels_accepted (page : Nat) (calls : List JobCall) :
    labels page (accepted calls) = calls.countP (JobCall.isPage page) := by
  simp only [labels, accepted, List.countP_map, Function.comp_def]
  apply List.countP_congr
  intro call _
  cases call <;> simp [isLabel, JobCall.isPage]

theorem isFailure_of_mem_accepted {calls : List JobCall}
    {event : JobCall × JobReply} (member : event ∈ accepted calls) :
    isFailure event = false := by
  obtain ⟨call, _, rfl⟩ := List.mem_map.mp member
  rfl

/-! ### Runs that were cut off -/

/-- Runs of the calls that each ended with a failure. -/
inductive CutOff (calls : List JobCall) : JobHistory → Prop
  | none : CutOff calls []
  | run {done rest : List JobCall} {call : JobCall} {failure : JobFailure}
      {events : JobHistory} (part : calls = done ++ call :: rest)
      (later : CutOff calls events) :
      CutOff calls (accepted done ++ (call, .error failure) :: events)

/-- Runs that were cut off put out no label exactly when no label is followed by
a failure. -/
theorem CutOff.noFailureAfterLabel_iff {calls : List JobCall}
    {events : JobHistory} (cutOff : CutOff calls events) :
    NoFailureAfterLabel (events ++ accepted calls) ↔
      ∀ event ∈ events, isLabel event = false := by
  induction cutOff with
  | none =>
      apply iff_of_true _ (fun _ member => absurd member List.not_mem_nil)
      apply List.pairwise_of_forall_mem_list
      intro early _ late member _
      exact isFailure_of_mem_accepted member
  | @run done rest call failure events part later ih =>
      unfold NoFailureAfterLabel at ih ⊢
      rw [List.append_assoc, List.cons_append, List.pairwise_append,
        List.pairwise_cons, ih]
      constructor
      · rintro ⟨-, ⟨-, clean⟩, before⟩ event member
        rcases List.mem_append.mp member with printed | here
        · by_contra label
          have stopped := before event printed (call, .error failure)
            (by simp) (by simpa using label)
          cases stopped
        · rcases List.mem_cons.mp here with rfl | after
          · cases call <;> rfl
          · exact clean event after
      · intro clean
        have printed : ∀ event ∈ accepted done, isLabel event = false :=
          fun event member => clean event (List.mem_append_left _ member)
        refine ⟨?_, ⟨?_, ?_⟩, ?_⟩
        · apply List.pairwise_of_forall_mem_list
          intro early member late _ label
          simp [printed early member] at label
        · intro late _ label
          cases call <;> cases label
        · intro event member
          apply clean
          simp [member]
        · intro early member late _ label
          simp [printed early member] at label

section Session

variable {device : JobDevice} {calls : List JobCall}
  {result : Except JobStop Unit} {session : JobSession Unit}
  {isRecoverable : PrinterReasons → Bool}

theorem judge_error_ne_completed (stop : JobStop) :
    judge isRecoverable (.error stop) ≠ .completed := by
  cases stop with
  | panicked => nofun
  | failed failure =>
      simp only [judge]
      split <;> nofun

/-- One run ends with all its calls accepted or is cut off. -/
theorem run_judge_cases
    (follows : Follows JobCall.report session calls result)
    (history : JobHistory) :
    Script.run device
        (session.run.bind fun result => .done (judge isRecoverable result))
        history = (judge isRecoverable result, history ++ accepted calls) ∨
      ∃ done call rest failure, calls = done ++ call :: rest ∧
        Script.run device
          (session.run.bind fun result => .done (judge isRecoverable result))
          history =
            (judge isRecoverable (.error (call.report failure)),
              history ++ accepted done ++ [(call, .error failure)]) := by
  rw [Script.run_bind, follows]
  rcases Session.makeCalls_cases JobCall.report device calls result history
    with all | ⟨done, call, rest, failure, part, stopped⟩
  · exact .inl (by rw [all]; rfl)
  · exact .inr ⟨done, call, rest, failure, part, by rw [stopped]; rfl⟩

/-- A job that completes makes all its calls after runs that were cut off. -/
theorem RunsUntil.completed_cutOff
    (follows : Follows JobCall.report session calls result)
    {history last : JobHistory} {outcome : JobOutcome}
    (runs : RunsUntil device
      (session.run.bind fun result => .done (judge isRecoverable result))
      history outcome last) (completed : outcome = .completed) :
    result = .ok () ∧
      ∃ events, CutOff calls events ∧
        last = history ++ events ++ accepted calls := by
  induction runs with
  | @settled history later outcome run final =>
      subst completed
      rcases run_judge_cases follows history with
        all | ⟨done, call, rest, failure, part, stopped⟩
      · obtain ⟨judged, rfl⟩ := Prod.mk.inj (all.symm.trans run)
        cases result with
        | error stop => exact absurd judged (judge_error_ne_completed stop)
        | ok done => exact ⟨rfl, [], .none, by simp⟩
      · obtain ⟨judged, -⟩ := Prod.mk.inj (stopped.symm.trans run)
        exact absurd judged (judge_error_ne_completed _)
  | @held history later last outcome reasons run again ih =>
      obtain ⟨rfl, events, cutOff, rfl⟩ := ih completed
      rcases run_judge_cases follows history with
        all | ⟨done, call, rest, failure, part, stopped⟩
      · cases (Prod.mk.inj (all.symm.trans run)).1
      · obtain ⟨-, rfl⟩ := Prod.mk.inj (stopped.symm.trans run)
        have longer : CutOff calls
            (accepted done ++ (call, .error failure) :: events) :=
          .run part cutOff
        exact ⟨rfl, _, longer, by simp⟩

/-- A job that completes put out the labels of its calls and no others exactly
when no failure came after a label. -/
theorem RunsUntil.labels_eq_iff
    (follows : Follows JobCall.report session calls result)
    {history : JobHistory}
    (runs : RunsUntil device
      (session.run.bind fun result => .done (judge isRecoverable result))
      [] .completed history) :
    (∀ page, labels page history = calls.countP (JobCall.isPage page)) ↔
      NoFailureAfterLabel history := by
  obtain ⟨-, events, cutOff, rfl⟩ := runs.completed_cutOff follows rfl
  have counts : (∀ page, labels page events = 0) ↔
      ∀ event ∈ events, isLabel event = false := by
    have some := exists_labels_pos_iff events
    rw [← not_iff_not]
    simpa [Nat.pos_iff_ne_zero] using some
  rw [List.nil_append, cutOff.noFailureAfterLabel_iff, ← counts]
  simp only [labels_append, labels_accepted, Nat.add_eq_right]

end Session

/-! ### The labels of a document -/

theorem countP_replicate_transferPage (page copies pageNum : Nat)
    (sheet : Sheet) :
    (List.replicate copies (JobCall.transferPage pageNum sheet)).countP
        (JobCall.isPage page) = if pageNum = page then copies else 0 := by
  simp [List.countP_replicate, JobCall.isPage]

section Server

variable {F : Type} [DitherFloat F] [DecidableLT F]
variable {dither : DitherMode} {record : JobRecord} {copies : U32}

/-- Pages that can be printed to their end ask for their copies. -/
theorem pagePlan_labels (ended : Except String Unit) (pages : List RasterPage)
    (job : Option (KsJob F)) (pageNum : Nat)
    (ok : (pagePlan dither record copies ended F pages job pageNum).2 = .ok ())
    (page : Nat) :
    (pagePlan dither record copies ended F pages job pageNum).1.countP
        (JobCall.isPage page) =
      if page < pageNum then 0
      else (pages[page - pageNum]?.map fun p => p.header.copies copies).getD
        0 := by
  induction pages generalizing job pageNum with
  | nil => simp [pagePlan]
  | cons first pages ih =>
      simp only [pagePlan] at ok ⊢
      split at ok
      · cases ok
      · next state _ =>
          simp only [List.countP_append, countP_replicate_transferPage,
            ih _ _ ok]
          rcases Nat.lt_trichotomy page pageNum with below | rfl | above
          · simp [below, below.ne', Nat.lt_succ_of_lt below]
          · simp
          · obtain ⟨after, rfl⟩ := Nat.exists_eq_add_of_lt above
            have reached : ¬ pageNum + after + 1 < pageNum + 1 := by omega
            have index : pageNum + after + 1 - pageNum = after + 1 := by omega
            have rest : pageNum + after + 1 - (pageNum + 1) = after := by omega
            simp [reached, index, rest, Nat.not_lt.mpr above.le, above.ne]

theorem documentPlan_labels (document : RasterDocument)
    (ok : (documentPlan dither record copies F document).2 = .ok ())
    (page : Nat) :
    (documentPlan dither record copies F document).1.countP
        (JobCall.isPage page) =
      (PrintDocument.raster document).wanted copies page := by
  unfold documentPlan at ok ⊢
  split at ok
  · cases ok
  · cases ok
  · next pages ended _ =>
      exact (pagePlan_labels ended pages none 0 ok page).trans
        (if_neg (Nat.not_lt_zero page))

/-- Every document has a list of calls, with the wanted labels if it can be
printed to its end. -/
theorem exists_calls (F : Type) [DitherFloat F] [DecidableLT F]
    (dither : DitherMode) (record : JobRecord) (copies : U32)
    (document : PrintDocument) :
    ∃ calls result,
      Follows JobCall.report (jobSession F dither record copies document)
        calls result ∧
      (result = .ok () → ∀ page,
        calls.countP (JobCall.isPage page) = document.wanted copies page) := by
  cases document with
  | raster document =>
      refine ⟨_, _, runCupsRasterJob_follows dither record copies F document,
        fun ok page => ?_⟩
      rw [List.countP_cons_of_neg (by simp [JobCall.isPage])]
      exact documentPlan_labels document ok page
  | jpeg decoded =>
      cases decoded with
      | error failure => exact ⟨[], _, Session.follows_throw _, nofun⟩
      | ok canvas =>
          simp only [jobSession, runJpegJob]
          cases (startJob dither record canvas.page.header : KsJob F).writePage
              canvas.page with
          | error stop =>
              exact ⟨_, _, (Session.follows_request _).bind_ok
                (Session.follows_throw stop), nofun⟩
          | ok job =>
              refine ⟨_, _, (Session.follows_request _).bind_ok
                ((job.endPage_follows _ _).bind_ok
                  (Session.follows_pure ())), fun _ page => ?_⟩
              simp [JobCall.isPage, PrintDocument.wanted, eq_comm,
                countP_replicate_transferPage]

/-- Over all runs of a job that ends completed, each page came out as often as
it was wanted exactly when no device failure came after a label. -/
theorem serverPrintJob_labels_iff {isRecoverable : PrinterReasons → Bool}
    {printerName : String} {found : Option JobRecord}
    {document : PrintDocument} {device : JobDevice} {history : JobHistory}
    (runs : RunsUntil device
      (serverPrintJob F isRecoverable dither copies printerName found document)
      [] .completed history) :
    (∀ page, labels page history = document.wanted copies page) ↔
      NoFailureAfterLabel history := by
  cases found with
  | none =>
      cases runs with
      | settled run final => cases (Prod.mk.inj run).1
      | held run again => cases (Prod.mk.inj run).1
  | some record =>
      obtain ⟨calls, result, follows, wanted⟩ :=
        exists_calls F dither record copies document
      rw [← runs.labels_eq_iff follows]
      simp only [wanted (runs.completed_cutOff follows rfl).1]

end Server

/-! ### Two copies of one page, with a jam -/

/-- A document of one page with one line of eight dots. -/
def lineDocument : PrintDocument :=
  .raster (.readable [⟨⟨8#32, 1#32, 1#32, 1#32, 1#32⟩, [0xFF#8], ""⟩] (.ok ()))

/-- Two copies of the line on a device that fails with a jam once, after the
given number of calls. -/
def jamJob : Script JobCall JobReply JobOutcome :=
  serverPrintJob Rat (PrinterReason.mediaJam ∈ ·) .bayer 2#32 "label"
    (some ⟨"supvan://label", 50#32, 384#32⟩) lineDocument

def jamsOnce (after : Nat) : JobDevice := fun history _ =>
  if history.length = after then .error ⟨[.mediaJam], "jam"⟩ else .ok ()

theorem serverPrintJob_labels_jamFirst :
    labels 0 ((jamJob.run (jamsOnce 1)
      (jamJob.run (jamsOnce 1) []).2).2) = 2 := by
  have runs : RunsUntil (jamsOnce 1) jamJob [] .completed
      (jamJob.run (jamsOnce 1) (jamJob.run (jamsOnce 1) []).2).2 :=
    .held rfl (.settled rfl nofun)
  have clean : NoFailureAfterLabel
      (jamJob.run (jamsOnce 1) (jamJob.run (jamsOnce 1) []).2).2 := by
    unfold NoFailureAfterLabel
    decide
  exact (serverPrintJob_labels_iff runs).mpr clean 0

/-- A jam at the second copy brings the first one out twice. -/
theorem serverPrintJob_reprints :
    ¬ ∀ history, RunsUntil (jamsOnce 2) jamJob [] .completed history →
      ∀ page, labels page history = lineDocument.wanted 2#32 page := by
  intro once
  have runs : RunsUntil (jamsOnce 2) jamJob [] .completed
      (jamJob.run (jamsOnce 2) (jamJob.run (jamsOnce 2) []).2).2 :=
    .held rfl (.settled rfl nofun)
  have three : labels 0
      (jamJob.run (jamsOnce 2) (jamJob.run (jamsOnce 2) []).2).2 = 3 := by
    rfl
  exact absurd (three.symm.trans (once _ runs 0)) (by decide)

end SupvanCups
