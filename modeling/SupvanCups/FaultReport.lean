import SupvanCups.BlockPacking
import SupvanCups.DeviceAccess
import SupvanCups.PrintProtocol

/-!
# Which fault a failed transfer reports

A print that stops on error flags carries them in its message only.  The
reasons of the job failure are rebuilt from a second status query, whose reply
may show other flags or none, or may not come.
-/

namespace SupvanCups

/-! ### A task alone with its printer -/

/-- What a host history exchanged with the printer. -/
def wireOf (history : History HostCall HostReply) : WireHistory :=
  history.filterMap fun event =>
    match event with
    | (.exchange _ call, .wire reply) => some (call, reply)
    | _ => none

/-- A host on which the printer answers and nothing else is in the way. -/
def wireHost (device : PrinterDevice) : Device HostCall HostReply
  | history, .exchange _ call => .wire (device (wireOf history) call)
  | _, _ => .done

/-- From a history of the given exchanges on, the script ends with the result
and leaves the other exchanges. -/
def Runs {α : Type} (device : PrinterDevice) (script : HostScript α)
    (wire : WireHistory) (result : α) (after : WireHistory) : Prop :=
  ∀ history, wireOf history = wire →
    ∃ later, script.run (wireHost device) history = (result, later) ∧
      wireOf later = after

section Runs

variable {α β : Type} {device : PrinterDevice}
  {wire middle after : WireHistory}

theorem Runs.pure (result : α) :
    Runs device (.done result : HostScript α) wire result wire :=
  fun history same => ⟨history, rfl, same⟩

theorem Runs.bind {script : HostScript α} {next : α → HostScript β}
    {result : α} {final : β} (first : Runs device script wire result middle)
    (rest : Runs device (next result) middle final after) :
    Runs device (script.bind next) wire final after := by
  intro history same
  obtain ⟨between, run, left⟩ := first history same
  obtain ⟨later, runRest, last⟩ := rest between left
  refine ⟨later, ?_, last⟩
  rw [Script.run_bind, run]
  exact runRest

/-- A call that exchanges nothing with the printer. -/
def HostCall.isLocal : HostCall → Bool
  | .exchange _ _ => false
  | _ => true

theorem Runs.act {request : HostCall} (isLocal : request.isLocal = true) :
    Runs device (SupvanCups.act request) wire () wire := by
  rintro history rfl
  refine ⟨history ++ [(request, wireHost device history request)], rfl, ?_⟩
  cases request with
  | exchange printer call => cases isLocal
  | _ => simp [wireOf]

/-- Carrying out an operation runs it on the printer. -/
theorem Runs.carryOut (device : PrinterDevice) (printer : PrinterHandle)
    (operation : Operation α) (wire : WireHistory) :
    Runs device (printer.carryOut operation) wire
      (Script.run device operation.run wire).1
      (Script.run device operation.run wire).2 := by
  rintro history rfl
  apply Script.run_interpret device (wireHost device)
    fun high low => wireOf low = high
  · rintro _ low request rfl
    exact ⟨low ++ [(.exchange printer request,
      .wire (device (wireOf low) request))], rfl, by simp [wireOf]⟩
  · rfl

theorem Runs.withLock {printer : PrinterHandle} {body : HostScript α}
    {result : α} (runs : Runs device body wire result after) :
    Runs device (printer.withLock body) wire result after := by
  cases printer with
  | owned fd => exact runs
  | shared conn =>
      exact (Runs.act rfl).bind (runs.bind ((Runs.act rfl).bind (.pure _)))

end Runs

/-! ### What the second query brings -/

namespace Transport

variable (transport : Transport) (device : PrinterDevice)

/-- The status that a query at this point would read. -/
def followUp (wire : WireHistory) : Option PrinterStatus :=
  transport.parsedStatus (inquiry, device wire inquiry)

end Transport

/-- How a print names the phase in which a status stopped it: the ready check,
the wait for the print station, the wait for buffer room, the completion. -/
def faultContexts : List String :=
  ["printer error: ", "printer error after START_PRINT: ",
    "printer error while waiting for buffer: ",
    "printer error while printing: "]

/-- The print stops because the last status it parsed shows an error. -/
structure FaultStops (transport : Transport) (device : PrinterDevice)
    (blocks : List Bytes) (speed : U16) (s : PrinterStatus)
    (wire : WireHistory) : Prop where
  hasError : s.hasError = true
  parsed : transport.lastStatus wire = some s
  stopped : ∃ context ∈ faultContexts,
    Session.runOn device (transport.printCompressed blocks speed) =
      (.error (Transport.statusError context s), wire)

/-- The status read after the print shows an error again and all reasons of the
first one, or there is no such status and the reason was `other` alone. -/
def FollowUpCovers (transport : Transport) (device : PrinterDevice)
    (wire : WireHistory) (s : PrinterStatus) : Prop :=
  match (transport.followUp device wire).filter PrinterStatus.hasError with
  | some shown => reasonsFromStatus s ⊆ reasonsFromStatus shown
  | none => reasonsFromStatus s ⊆ [.other]

/-- A status has reasons exactly when an error flag is set. -/
theorem reasonsFromStatus_eq_nil_iff (s : PrinterStatus) :
    reasonsFromStatus s = [] ↔ s.hasError = false := by
  simp [reasonsFromStatus, PrinterStatus.hasError, PrinterStatus.errorFlags]
  grind

/-- The failure made from the second query, where the print left a message. -/
def faultFailure (message : String) : Option PrinterStatus → JobFailure
  | some s =>
      if s.hasError then failureFromStatus s "print_compressed"
      else .other message
  | none => .other message

theorem covers_iff_subset_reasons {transport : Transport}
    {device : PrinterDevice} {wire : WireHistory} {s : PrinterStatus}
    (message : String) :
    FollowUpCovers transport device wire s ↔
      reasonsFromStatus s ⊆
        (faultFailure message (transport.followUp device wire)).reasons := by
  unfold FollowUpCovers
  cases transport.followUp device wire with
  | none => rfl
  | some shown =>
      cases raised : shown.hasError with
      | false =>
          simp only [Option.filter, raised, faultFailure]
          rfl
      | true =>
          have reported : reasonsFromStatus shown ≠ [] := by
            simp [reasonsFromStatus_eq_nil_iff, raised]
          simp [Option.filter, faultFailure, raised, failureFromStatus,
            reported]

/-! ### The failure of a page -/

section TransferPage

variable {device : PrinterDevice} {blocks : List Bytes} {speed : U16}
  {s : PrinterStatus} {wire : WireHistory}

theorem printCompressed_runs (device : PrinterDevice)
    (printer : PrinterHandle) (blocks : List Bytes) (speed : U16) :
    Runs device (printer.printCompressed blocks speed) []
      (Session.runOn device (printer.codec.printCompressed blocks speed)).1
      (Session.runOn device
        (printer.codec.printCompressed blocks speed)).2 := by
  apply Runs.withLock
  apply (Runs.act rfl).bind
  apply (Runs.carryOut device printer _ _).bind
  exact (Runs.act rfl).bind (.pure _)

theorem queryStatus_runs (device : PrinterDevice) (printer : PrinterHandle)
    (wire : WireHistory) :
    Runs device printer.queryStatus wire
      ((device wire Transport.inquiry).map
        (·.bind printer.codec.parseStatusResponse))
      (wire ++ [(Transport.inquiry, device wire Transport.inquiry)]) := by
  have asked := Runs.carryOut device printer printer.codec.queryStatus wire
  rw [Transport.run_queryStatus] at asked
  exact asked.withLock

/-- A page whose print stops on an error fails as the second query says. -/
theorem FaultStops.transferPage_runs {dev : KsDevice}
    (stops : FaultStops dev.printer.codec device blocks speed s wire) :
    ∃ message,
      Runs device (dev.transferPage blocks speed) []
        (.error (faultFailure message
          (dev.printer.codec.followUp device wire)))
        (wire ++ [(Transport.inquiry, device wire Transport.inquiry)]) := by
  obtain ⟨context, _, stopped⟩ := stops.stopped
  have printed := printCompressed_runs device dev.printer blocks speed
  rw [stopped] at printed
  use context ++ s.errorDescription.getD ""
  apply (Runs.act rfl).bind
  apply printed.bind
  apply (Runs.act rfl).bind
  apply (queryStatus_runs device dev.printer wire).bind
  unfold Transport.followUp
  rcases device wire Transport.inquiry with error | _ | resp
  · exact .pure _
  · exact .pure _
  · rw [Transport.parsedStatus_inquiry]
    simp only [Except.map, Option.bind_some]
    cases dev.printer.codec.parseStatusResponse resp with
    | none => exact .pure _
    | some shown =>
        simp only [faultFailure]
        split
        · exact .pure _
        · exact .pure _

/-- A fault that stops a print is reported as that fault exactly when the query
after the print covers it. -/
theorem transferPage_reportsFault_iff (dev : KsDevice)
    (stops : FaultStops dev.printer.codec device blocks speed s wire) :
    (∃ failure,
      ((dev.transferPage blocks speed).run (wireHost device) []).1 =
        .error failure ∧
      reasonsFromStatus s ⊆ failure.reasons) ↔
    FollowUpCovers dev.printer.codec device wire s := by
  obtain ⟨message, runs⟩ := stops.transferPage_runs
  obtain ⟨later, run, _⟩ := runs [] rfl
  rw [run, covers_iff_subset_reasons message]
  constructor
  · rintro ⟨failure, same, reported⟩
    obtain rfl := Except.error.inj same
    exact reported
  · intro reported
    exact ⟨_, rfl, reported⟩

end TransferPage

/-- A printer whose cover opens while it prints its first block. -/
def coverOpening : PrinterDevice := fun wire _ =>
  if wire.length < 2 then .ok (some [0#8, 0#8, 0#8, 0#8, 0#8, 0#8, 0#8])
  else if wire.length < 9 then
    .ok (some [0#8, 0#8, 0#8, 0x40#8, 0#8, 0#8, 0#8])
  else .ok (some [0#8, 0#8, 0#8, 0x08#8, 0#8, 0#8, 0#8])

/-- What becomes of a page of one empty buffer on it. -/
def abortedPage : Except ProtoError Unit × WireHistory :=
  Session.runOn coverOpening
    (usbHidTransport.printCompressed [blankBlock 1 oneBlank] 60#16)

/-- It goes on saying so, and that is what is reported. -/
theorem transferPage_reportsFault_coverOpen :
    ∃ failure,
      (((⟨.owned 0, 0⟩ : KsDevice).transferPage [blankBlock 1 oneBlank]
        60#16).run (wireHost coverOpening) []).1 = .error failure ∧
      PrinterReason.coverOpen ∈ failure.reasons := by
  let s := decodeStatusBits 0#8 0#8 0x08#8 0#8 0#16
  have stopped : abortedPage.1 =
      .error (Transport.statusError "printer error while printing: " s) := by
    decide +kernel
  have parsed : usbHidTransport.lastStatus abortedPage.2 = some s := by
    decide +kernel
  have asked : usbHidTransport.followUp coverOpening abortedPage.2 =
      some s := by
    decide +kernel
  have stops : FaultStops usbHidTransport coverOpening [blankBlock 1 oneBlank]
      60#16 s abortedPage.2 :=
    { hasError := rfl
      parsed := parsed
      stopped := ⟨_, by simp [faultContexts], Prod.ext stopped rfl⟩ }
  have covers : FollowUpCovers usbHidTransport coverOpening abortedPage.2 s := by
    rw [FollowUpCovers, asked]
    exact List.Subset.refl (reasonsFromStatus s)
  obtain ⟨failure, run, reported⟩ :=
    (transferPage_reportsFault_iff ⟨.owned 0, 0⟩ stops).mpr covers
  exact ⟨failure, run, reported (by decide)⟩

/-- A printer that stops answering once it has said that its cover is open is
reported with no word of the cover. -/
theorem transferPage_losesCoverOpen :
    let blocks := [blankBlock 1 oneBlank]
    let device : PrinterDevice := fun wire _ =>
      if wire.length < 2 then
        .ok (some [0#8, 0#8, 0#8, 0x08#8, 0#8, 0#8, 0#8])
      else .ok none
    ¬ ∀ s wire, FaultStops usbHidTransport device blocks 60#16 s wire →
      ∃ failure,
        (((⟨.owned 0, 0⟩ : KsDevice).transferPage blocks 60#16).run
          (wireHost device) []).1 = .error failure ∧
        reasonsFromStatus s ⊆ failure.reasons := by
  intro blocks device reports
  let s := decodeStatusBits 0#8 0#8 0x08#8 0#8 0#16
  obtain ⟨failure, run, reported⟩ := reports s
    (Session.runOn device (usbHidTransport.printCompressed blocks 60#16)).2
    { hasError := rfl
      parsed := rfl
      stopped := ⟨"printer error: ", by simp [faultContexts], rfl⟩ }
  obtain rfl := Except.error.inj (run.symm.trans rfl)
  have absent : PrinterReason.coverOpen ∉ [PrinterReason.other] := by decide
  exact absent (reported (by decide))

end SupvanCups
