import SupvanCups.PrintProtocol

/-!
# A printer that cooperates

A printer that answers every call, rests whenever it is asked, and prints when
it is asked right after `START_PRINT`.  On it every print goes through, however
many blocks the page has, so what a print sends can be said of a run that
happens.
-/

namespace SupvanCups

/-- The replies by which a printer shows that it is there, that it rests and
that it prints, on a link with the given parsers. -/
structure CooperativePrinter (transport : Transport) where
  present : Bytes
  resting : Bytes
  printing : Bytes
  present_valid : transport.validateResponse present cmdCheckDevice = true
  resting_parsed : ∃ status, transport.parseStatusResponse resting =
    some status ∧ status.printing = false ∧ status.deviceBusy = false ∧
      status.bufFull = false ∧ status.hasError = false
  printing_parsed : ∃ status, transport.parseStatusResponse printing =
    some status ∧ status.printing = true ∧ status.hasError = false

namespace CooperativePrinter

/-- A serial status reply with the given third flag byte. -/
private def sppStatusReply (flags : U8) : Bytes :=
  [magic1, magic2, 0#8, 0#8, 0#8, 0#8, 0#8, cmdInquirySta, 0#8, 0#8, 0#8, 0#8,
    0#8, 0#8, 0#8, 0#8, flags, 0#8, 0#8, 0#8]

def overSpp : CooperativePrinter sppCodec where
  present := [magic1, magic2, 0#8, 0#8, 0#8, 0#8, 0#8, cmdCheckDevice]
  resting := sppStatusReply 0#8
  printing := sppStatusReply 0x40#8
  present_valid := rfl
  resting_parsed := ⟨decodeStatusBits 0#8 0#8 0#8 0#8 0#16, rfl, rfl, rfl, rfl,
    rfl⟩
  printing_parsed := ⟨decodeStatusBits 0#8 0#8 0x40#8 0#8 0#16, rfl, rfl, rfl⟩

def overUsb : CooperativePrinter usbHidTransport where
  present := [0#8]
  resting := List.replicate 7 0#8
  printing := [0#8, 0#8, 0#8, 0x40#8, 0#8, 0#8, 0#8]
  present_valid := rfl
  resting_parsed := ⟨decodeStatusBits 0#8 0#8 0#8 0#8 0#16, rfl, rfl, rfl, rfl,
    rfl⟩
  printing_parsed := ⟨decodeStatusBits 0#8 0#8 0x40#8 0#8 0#16, rfl, rfl, rfl⟩

variable {transport : Transport} (printer : CooperativePrinter transport)

/-- The last call has started the print station. -/
def justStarted (history : WireHistory) : Bool :=
  history.getLast?.any fun event => event.1.isStartPrint

def device : PrinterDevice := fun history request =>
  if request = Transport.inquiry then
    .ok (some (if justStarted history then printer.printing
      else printer.resting))
  else
    .ok (some printer.present)

theorem device_inquiry (history : WireHistory) :
    printer.device history Transport.inquiry =
      .ok (some (if justStarted history then printer.printing
        else printer.resting)) :=
  if_pos rfl

theorem device_other (history : WireHistory) {request : TransportCall}
    (other : request ≠ Transport.inquiry) :
    printer.device history request = .ok (some printer.present) :=
  if_neg other

theorem justStarted_concat (history : WireHistory)
    (event : TransportCall × TransportReply) :
    justStarted (history ++ [event]) = event.1.isStartPrint := by
  simp [justStarted]

/-! ### The operations go through -/

variable {printer} {history : WireHistory}

/-- The last call of the history is not `START_PRINT`. -/
def Quiet (history : WireHistory) : Prop :=
  justStarted history = false

theorem transportCall_succeeds {request : TransportCall}
    (other : request ≠ Transport.inquiry) :
    Session.Succeeds printer.device (transportCall request) history
      fun resp later => resp = some printer.present ∧
        justStarted later = request.isStartPrint :=
  Session.succeeds_ask (printer.device_other history other)
    ⟨rfl, justStarted_concat history _⟩

theorem queryStatus_succeeds :
    Session.Succeeds printer.device transport.queryStatus history
      fun status later => Quiet later ∧
        status = transport.parseStatusResponse
          (if justStarted history then printer.printing
            else printer.resting) := by
  refine ⟨_, history ++ [(Transport.inquiry,
    printer.device history Transport.inquiry)], ?_, ?_, rfl⟩
  · rw [Transport.run_queryStatus, device_inquiry]
    rfl
  · exact justStarted_concat history _

/-- Polling ends at once when the printer shows a status that is accepted. -/
theorem pollStatus_succeeds {judge : PrinterStatus → Transport.PollVerdict}
    {attempts : Nat} {status : PrinterStatus} (some_attempts : 0 < attempts)
    (shown : transport.parseStatusResponse
      (if justStarted history then printer.printing else printer.resting) =
        some status)
    (accepts : judge status = .accept) :
    Session.Succeeds printer.device (transport.pollStatus judge attempts)
      history fun result later => result = some status ∧ Quiet later := by
  obtain ⟨left, rfl⟩ := Nat.exists_eq_add_of_lt some_attempts
  rw [Nat.zero_add, Transport.pollStatus]
  refine queryStatus_succeeds.bind fun st later => ?_
  rintro ⟨quiet, rfl⟩
  rw [shown]
  simp only [Option.map_some, accepts]
  exact Session.succeeds_pure ⟨rfl, quiet⟩

/-- Polling at rest ends at once with a status that nothing waits for. -/
theorem pollStatus_quiet {judge : PrinterStatus → Transport.PollVerdict}
    {attempts : Nat} (some_attempts : 0 < attempts) (quiet : Quiet history)
    (accepts : ∀ status : PrinterStatus, status.printing = false →
      status.deviceBusy = false → status.bufFull = false →
        status.hasError = false → judge status = .accept) :
    Session.Succeeds printer.device (transport.pollStatus judge attempts)
      history fun result later => Quiet later ∧
        ∃ status, result = some status ∧ status.hasError = false := by
  obtain ⟨status, parsed, idle, free, empty, clear⟩ := printer.resting_parsed
  have shown : transport.parseStatusResponse
      (if justStarted history then printer.printing else printer.resting) =
        some status := by
    rw [if_neg (by rw [quiet]; exact Bool.false_ne_true), parsed]
  exact (pollStatus_succeeds some_attempts shown
    (accepts status idle free empty clear)).imp
      fun result later done => ⟨done.2, status, done.1, clear⟩

theorem failIf_succeeds {condition : Bool} {error : ProtoError}
    {device : PrinterDevice} (fine : condition = false) :
    Session.Succeeds device (failIf condition error) history
      fun _ later => later = history := by
  subst fine
  exact Session.succeeds_pure rfl

theorem okOrElse_succeeds {α : Type} {error : ProtoError}
    {device : PrinterDevice} (result : α) :
    Session.Succeeds device (okOrElse (some result) error) history
      fun shown later => shown = result ∧ later = history :=
  Session.succeeds_pure ⟨rfl, rfl⟩

/-- A block is transferred. -/
theorem transferCompressed_succeeds (block : Bytes) (speed : U16) :
    Session.Succeeds printer.device
      (Transport.transferCompressed block speed) history
      fun _ later => Quiet later := by
  unfold Transport.transferCompressed
  refine (transportCall_succeeds (by simp [Transport.inquiry])).bind ?_
  rintro resp later ⟨rfl, _⟩
  refine (failIf_succeeds rfl).bind ?_
  rintro _ later rfl
  refine (transportCall_succeeds (by simp [Transport.inquiry])).bind ?_
  intro _ later _
  refine (transportCall_succeeds (by simp [Transport.inquiry])).bind ?_
  rintro _ later ⟨_, last⟩
  exact Session.succeeds_pure last

/-- All blocks that are left are transferred. -/
theorem transferBlocks_succeeds (speed : U16) (total index : Nat)
    (blocks : List Bytes) (quiet : Quiet history) :
    Session.Succeeds printer.device
      (transport.transferBlocks speed total index blocks) history
      fun _ later => Quiet later := by
  induction blocks generalizing index history with
  | nil => exact Session.succeeds_pure quiet
  | cons block blocks ih =>
      unfold Transport.transferBlocks
      refine (pollStatus_quiet (by decide) quiet ?_).bind ?_
      · intro status _ _ empty clear
        exact (Transport.bufferVerdict_accept_iff status).mpr ⟨clear, empty⟩
      rintro _ later ⟨quiet, status, rfl, clear⟩
      refine (okOrElse_succeeds status).bind ?_
      rintro shown later ⟨same, -⟩
      have going : Session.Succeeds printer.device
          (Transport.stopOnError shown) later fun _ _ => True := by
        unfold Transport.stopOnError
        rw [if_neg (by simp [same, clear])]
        exact Session.succeeds_pure trivial
      refine going.bind fun _ later _ => ?_
      refine (transferCompressed_succeeds block speed).bind ?_
      intro _ later _
      refine queryStatus_succeeds.bind ?_
      intro _ later done
      exact ih (index + 1) done.1

/-- Every print goes through. -/
theorem printCompressed_succeeds (printer : CooperativePrinter transport)
    (blocks : List Bytes) (speed : U16) :
    Session.Succeeds printer.device
      (transport.printCompressed blocks speed) [] fun _ _ => True := by
  unfold Transport.printCompressed Transport.checkDevice
  -- CHECK_DEVICE
  refine ((transportCall_succeeds (by decide)).bind ?_ :
    Session.Succeeds printer.device _ [] fun present later =>
      present = true ∧ Quiet later).bind ?_
  · rintro resp later ⟨rfl, quiet⟩
    exact Session.succeeds_pure ⟨printer.present_valid, quiet⟩
  rintro present later ⟨rfl, quiet⟩
  refine (failIf_succeeds rfl).bind ?_
  rintro _ later rfl
  -- Wait until the device is ready
  refine (pollStatus_quiet (by decide) quiet ?_).bind ?_
  · intro status idle free _ _
    exact (Transport.readyVerdict_accept_iff status).mpr ⟨free, idle⟩
  rintro _ later ⟨quiet, status, rfl, clear⟩
  refine (okOrElse_succeeds status).bind ?_
  rintro _ later ⟨rfl, rfl⟩
  refine (failIf_succeeds clear).bind ?_
  rintro _ later rfl
  -- START_PRINT
  refine (transportCall_succeeds (by decide)).bind ?_
  rintro _ later ⟨_, started⟩
  -- Wait for the print station
  obtain ⟨shown, parsed, prints, noError⟩ := printer.printing_parsed
  have station : transport.parseStatusResponse
      (if justStarted later then printer.printing else printer.resting) =
        some shown := by
    rw [started]
    exact parsed
  refine (pollStatus_succeeds (by decide) station
    ((Transport.printingVerdict_accept_iff shown).mpr
      ⟨noError, prints⟩)).bind ?_
  rintro _ later ⟨rfl, quiet⟩
  refine (okOrElse_succeeds shown).bind ?_
  rintro _ later ⟨rfl, rfl⟩
  -- Transfer the blocks
  refine (transferBlocks_succeeds _ _ _ blocks quiet).bind ?_
  intro _ later quiet
  -- Wait for completion
  refine (pollStatus_quiet (by decide) quiet ?_).bind ?_
  · intro status idle free empty clear
    exact (Transport.completionVerdict_accept_iff status).mpr
      ⟨clear, idle, free, empty⟩
  rintro _ later ⟨_, status, rfl, _⟩
  exact Session.succeeds_pure trivial

end CooperativePrinter

end SupvanCups
