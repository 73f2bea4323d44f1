import SupvanCups.StopOnFault

/-!
# Which blocks a printer acknowledged

Of the calls that move a block, the printer replies to the header and to
`BUF_FULL`.  A header without a reply ends the print.  The reply to `BUF_FULL`
is not looked at, so a print can succeed without it.
-/

namespace SupvanCups

open Transport (blockCalls)

def TransportCall.needsReply (request : TransportCall) : Bool :=
  request.isHeader || request.isBufFull

/-- The call was answered in time. -/
def replied (event : TransportCall × TransportReply) : Bool :=
  match event.2 with
  | .ok (some _) => true
  | _ => false

/-- The calls that acknowledge a block. -/
def acknowledgedCalls (speed : U16) (block : Bytes) : List TransportCall :=
  let compressedLen := BitVec.ofNat 16 block.length
  [.sendBulkHeader compressedLen (packetCount block.length),
    .sendCmdTwo cmdBufFull compressedLen speed]

/-- The header and the `BUF_FULL` of every block were answered, block by
block. -/
def AllAcknowledged (blocks : List Bytes) (speed : U16)
    (history : WireHistory) : Prop :=
  ((history.filter replied).map Prod.fst).filter TransportCall.needsReply =
    blocks.flatMap (acknowledgedCalls speed)

/-! ### Calls that need a reply -/

theorem TransportCall.isTransfer_of_needsReply {request : TransportCall}
    (needs : request.needsReply = true) : request.isTransfer = true := by
  cases request with
  | sendCmd cmd param => cases needs
  | sendCmdTwo cmd param1 param2 => exact needs
  | sendBulkHeader compressedLen numPackets => rfl
  | sendBulkData data readFinalResponse => rfl

/-- The calls that need a reply are found among those that move blocks. -/
theorem needsReply_transferCalls (history : WireHistory) :
    (history.map Prod.fst).filter TransportCall.needsReply =
      (transferCalls history).filter TransportCall.needsReply := by
  rw [transferCalls, List.filter_filter]
  refine List.filter_congr fun request _ => ?_
  cases needs : request.needsReply with
  | false => rfl
  | true => exact (TransportCall.isTransfer_of_needsReply needs).symm

/-- Where all blocks were sent, they are acknowledged exactly when each call
that needs a reply has one. -/
theorem allAcknowledged_iff {blocks : List Bytes} {speed : U16}
    {history : WireHistory}
    (sent : transferCalls history = blocks.flatMap (blockCalls speed)) :
    AllAcknowledged blocks speed history ↔
      ∀ event ∈ history, event.1.needsReply = true → replied event = true := by
  have needed : blocks.flatMap (acknowledgedCalls speed) =
      (history.filter fun event => event.1.needsReply).map Prod.fst := by
    rw [← Function.comp_def, ← List.filter_map, needsReply_transferCalls, sent,
      List.filter_flatMap]
    rfl
  have commute : ((history.filter replied).map Prod.fst).filter
        TransportCall.needsReply =
      ((history.filter fun event => event.1.needsReply).filter
        replied).map Prod.fst := by
    rw [List.filter_map, List.filter_filter, List.filter_filter]
    simp only [Function.comp_def, Bool.and_comm]
  rw [AllAcknowledged, needed, commute]
  constructor
  · intro same
    have lengths := congrArg List.length same
    rw [List.length_map, List.length_map, List.length_filter_eq_length_iff]
      at lengths
    intro event member needs
    exact lengths event (List.mem_filter.mpr ⟨member, needs⟩)
  · intro all
    rw [List.filter_eq_self.mpr]
    intro event member
    obtain ⟨inHistory, needs⟩ := List.mem_filter.mp member
    exact all event inHistory needs

/-! ### What a successful print acknowledged -/

/-- Where a print went on to its end, every header was answered. -/
theorem header_answered {transport : Transport} {blocks : List Bytes}
    {history : WireHistory}
    (lawful : Script.Lawful (StopsOnFault transport blocks) history)
    (goesOn : GoesOn transport blocks history)
    {event : TransportCall × TransportReply} (member : event ∈ history)
    (isHeader : event.1.isHeader = true) : event.2 ≠ .ok none := by
  intro unanswered
  obtain ⟨before, after, rfl⟩ := List.append_of_mem member
  have stuck : HeaderUnanswered (before ++ [event]) :=
    headerUnanswered_concat_iff.mpr ⟨isHeader, unanswered⟩
  cases after with
  | nil => exact goesOn.answered stuck
  | cons next rest =>
      have follows := lawful (before ++ [event]) next rest (by simp)
      exact follows.goesOn.answered stuck

/-- `BUF_FULL` was never met by silence. -/
def BufFullAnswered (history : WireHistory) : Prop :=
  ∀ event ∈ history, event.1.isBufFull = true → event.2 ≠ .ok none

/-- A print that succeeds has every header answered; all blocks are
acknowledged exactly when no `BUF_FULL` was met by silence. -/
theorem printCompressed_acknowledged_iff (transport : Transport)
    (device : PrinterDevice) (blocks : List Bytes) (speed : U16)
    (succeeded : (Session.runOn device
      (transport.printCompressed blocks speed)).1 = .ok ()) :
    let history :=
      (Session.runOn device (transport.printCompressed blocks speed)).2
    AllAcknowledged blocks (Transport.pageSpeed blocks speed) history ↔
      BufFullAnswered history := by
  intro history
  have complete :=
    ((printCompressed_ensures transport blocks speed).runOn device).2
  obtain ⟨lawful, goesOn⟩ :=
    (printCompressed_stopsOnFault transport blocks speed).runOn device
  rw [succeeded] at complete goesOn
  rw [allAcknowledged_iff complete.sent]
  constructor
  · intro all event member isBufFull unanswered
    have answered := all event member (by
      rw [TransportCall.needsReply, isBufFull, Bool.or_true])
    rw [replied, unanswered] at answered
    cases answered
  · intro bufFullAnswered event member needs
    have answered : event.2 ≠ .ok none := by
      rcases Bool.or_eq_true_iff.mp needs with isHeader | isBufFull
      · exact header_answered lawful goesOn member isHeader
      · exact bufFullAnswered event member isBufFull
    obtain ⟨resp, accepted⟩ := complete.accepted event member
    cases resp with
    | none => exact absurd accepted answered
    | some resp => rw [replied, accepted]

/-- A printer that prints one block, and answers `BUF_FULL` or not. -/
def printsBlock (answersBufFull : Bool) : PrinterDevice :=
  fun history request =>
    if request.isBufFull && !answersBufFull then .ok none
    else .ok (some (usbStatus (if history.length = 3 then 0x40#8 else 0x00#8)))

theorem printCompressed_acknowledged_oneBlock :
    let history := (Session.runOn (printsBlock true)
      (usbHidTransport.printCompressed [[0x5D#8]] 60#16)).2
    AllAcknowledged [[0x5D#8]] (Transport.pageSpeed [[0x5D#8]] 60#16)
        history ↔
      BufFullAnswered history :=
  printCompressed_acknowledged_iff usbHidTransport (printsBlock true)
    [[0x5D#8]] 60#16 rfl

/-- A page succeeds although its `BUF_FULL` was met by silence. -/
theorem printCompressed_succeedsUnacknowledged :
    let run := Session.runOn (printsBlock false)
      (usbHidTransport.printCompressed [[0x5D#8]] 60#16)
    run.1 = .ok () ∧
      ¬ AllAcknowledged [[0x5D#8]] (Transport.pageSpeed [[0x5D#8]] 60#16)
        run.2 := by
  refine ⟨rfl, ?_⟩
  unfold AllAcknowledged
  decide +kernel

end SupvanCups
