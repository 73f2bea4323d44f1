import SupvanCups.PrinterOperations
import Mathlib.Data.List.TakeWhile

/-!
# Safety of the print protocol

The rules of the print flow are stated about the exchange with the printer:
which call may follow which history, and what a successful print has
exchanged.  They hold for every list of blocks and every printer, whatever it
replies.
-/

namespace SupvanCups

open Transport (blockCalls)

/-! ### Reading an exchange -/

def TransportCall.isStartPrint : TransportCall → Bool
  | .sendCmd cmd _ | .sendCmdTwo cmd _ _ => cmd == cmdStartPrint
  | _ => false

def TransportCall.isHeader : TransportCall → Bool
  | .sendBulkHeader _ _ => true
  | _ => false

/-- The calls that move a block: its header, its data and `BUF_FULL`. -/
def TransportCall.isTransfer : TransportCall → Bool
  | .sendBulkHeader _ _ => true
  | .sendBulkData _ _ => true
  | .sendCmdTwo cmd _ _ => cmd == cmdBufFull
  | .sendCmd _ _ => false

def TransportCall.opensBlock : TransportCall → Bool
  | .sendBulkHeader _ _ => true
  | .sendBulkData _ _ => true
  | _ => false

theorem TransportCall.isTransfer_of_isHeader {request : TransportCall}
    (isHeader : request.isHeader = true) : request.isTransfer = true := by
  cases request <;> first | rfl | cases isHeader

theorem TransportCall.noTransfer_of_isStartPrint {request : TransportCall}
    (isStart : request.isStartPrint = true) : request.isTransfer = false := by
  cases request with
  | sendCmd cmd param => rfl
  | sendCmdTwo cmd param1 param2 =>
      obtain rfl : cmd = cmdStartPrint := by
        simpa [TransportCall.isStartPrint] using isStart
      rfl
  | sendBulkHeader compressedLen numPackets => cases isStart
  | sendBulkData data readFinalResponse => cases isStart

theorem TransportCall.opensBlock_of_noTransfer {request : TransportCall}
    (noTransfer : request.isTransfer = false) : request.opensBlock = false := by
  cases request <;> first | rfl | cases noTransfer

def transferCalls (history : WireHistory) : List TransportCall :=
  (history.map Prod.fst).filter TransportCall.isTransfer

/-- The last call has opened a block and not closed it. -/
def insideBlock (history : WireHistory) : Bool :=
  history.getLast?.any fun event => event.1.opensBlock

namespace Transport

variable (transport : Transport)

/-- The status that an exchange brought, if it brought one. -/
def parsedStatus (event : TransportCall × TransportReply) :
    Option PrinterStatus :=
  match event with
  | (.sendCmd cmd _, .ok (some resp)) =>
      if cmd = cmdInquirySta then transport.parseStatusResponse resp else none
  | _ => none

def statuses (history : WireHistory) : List PrinterStatus :=
  history.filterMap transport.parsedStatus

def lastStatus (history : WireHistory) : Option PrinterStatus :=
  (transport.statuses history).getLast?

/-- The statuses parsed after `START_PRINT`. -/
def statusesSinceStart (history : WireHistory) : List PrinterStatus :=
  transport.statuses (history.dropWhile fun event => !event.1.isStartPrint)

/-- `CHECK_DEVICE` was answered by a reply that validates. -/
def DeviceChecked (history : WireHistory) : Prop :=
  ∃ resp, (TransportCall.sendCmd cmdCheckDevice 0#16, .ok (some resp)) ∈
      history ∧
    transport.validateResponse resp cmdCheckDevice = true

end Transport

/-- The rules for a call made after a given history. -/
structure PrintAllowed (transport : Transport) (blocks : List Bytes)
    (speed : U16) (history : WireHistory) (request : TransportCall) :
    Prop where
  /-- Printing starts once, on a checked device whose last status is idle. -/
  start : request.isStartPrint = true →
    (∀ event ∈ history, event.1.isStartPrint = false) ∧
    transport.DeviceChecked history ∧
    ∃ status, transport.lastStatus history = some status ∧
      status.deviceBusy = false ∧ status.printing = false ∧
      status.hasError = false
  /-- No block goes out before the printer was seen printing. -/
  station : request.isHeader = true →
    ∃ status ∈ transport.statusesSinceStart history,
      status.printing = true ∧ status.hasError = false
  /-- A block goes out only when the last status shows room for it. -/
  room : request.isHeader = true →
    ∃ status, transport.lastStatus history = some status ∧
      status.bufFull = false ∧ status.hasError = false
  /-- The blocks go out in order, each at most once, each as its header, its
  data and `BUF_FULL`. -/
  order : ∀ reply, transferCalls (history ++ [(request, reply)]) <+:
    blocks.flatMap (blockCalls speed)
  /-- Nothing else is sent while a block is open. -/
  exclusive : insideBlock history = true → request.isTransfer = true

/-- What a successful print has exchanged. -/
structure PrintComplete (transport : Transport) (blocks : List Bytes)
    (speed : U16) (history : WireHistory) : Prop where
  sent : transferCalls history = blocks.flatMap (blockCalls speed)
  accepted : ∀ event ∈ history, ∃ resp, event.2 = .ok resp
  finished : ∃ status, transport.lastStatus history = some status ∧
    status.printing = false ∧ status.deviceBusy = false ∧
    status.bufFull = false ∧ status.hasError = false

/-! ### Exchanges grow by one call at a time -/

theorem transferCalls_concat (history : WireHistory)
    (event : TransportCall × TransportReply) :
    transferCalls (history ++ [event]) =
      transferCalls history ++ [event.1].filter TransportCall.isTransfer := by
  simp [transferCalls]

@[simp]
theorem insideBlock_concat (history : WireHistory)
    (event : TransportCall × TransportReply) :
    insideBlock (history ++ [event]) = event.1.opensBlock := by
  simp [insideBlock]

namespace Transport

variable (transport : Transport)

@[simp]
theorem lastStatus_concat (history : WireHistory)
    (event : TransportCall × TransportReply) :
    transport.lastStatus (history ++ [event]) =
      (transport.parsedStatus event).or (transport.lastStatus history) := by
  simp only [lastStatus, statuses, List.filterMap_append]
  cases parsed : transport.parsedStatus event <;> simp [parsed]

@[simp]
theorem parsedStatus_inquiry (resp : Bytes) :
    transport.parsedStatus (inquiry, .ok (some resp)) =
      transport.parseStatusResponse resp :=
  rfl

variable {transport}

def Started (history : WireHistory) : Prop :=
  ∃ event ∈ history, event.1.isStartPrint = true

theorem statusesSinceStart_concat {history : WireHistory}
    (started : Started history) (event : TransportCall × TransportReply) :
    transport.statusesSinceStart (history ++ [event]) =
      transport.statusesSinceStart history ++
        (transport.parsedStatus event).toList := by
  obtain ⟨start, member, isStart⟩ := started
  have found : (history.dropWhile fun event => !event.1.isStartPrint) ≠ [] := by
    rw [ne_eq, List.dropWhile_eq_nil_iff]
    intro none
    simpa [isStart] using none start member
  simp only [statusesSinceStart, List.dropWhile_append, statuses]
  rw [if_neg (by simpa using found), List.filterMap_append]
  cases parsed : transport.parsedStatus event <;> simp [parsed]

end Transport

/-! ### What holds between two operations -/

/-- Every call was accepted, and the given calls moved blocks. -/
structure Exchanged (calls : List TransportCall) (history : WireHistory) :
    Prop where
  transfers : transferCalls history = calls
  accepted : ∀ event ∈ history, ∃ resp, event.2 = .ok resp

/-- The given blocks have gone out whole and no block is open. -/
structure BlocksSent (speed : U16) (sent : List Bytes)
    (history : WireHistory) : Prop extends
    Exchanged (sent.flatMap (blockCalls speed)) history where
  closed : insideBlock history = false

/-- Nothing is printing yet, and the device has been checked. -/
structure ReadyToStart (transport : Transport) (speed : U16)
    (history : WireHistory) : Prop extends BlocksSent speed [] history where
  notStarted : ∀ event ∈ history, event.1.isStartPrint = false
  checked : transport.DeviceChecked history

/-- Since printing started, the printer was seen printing. -/
structure StationSeen (transport : Transport) (history : WireHistory) :
    Prop where
  started : Transport.Started history
  seen : ∃ status ∈ transport.statusesSinceStart history,
    status.printing = true ∧ status.hasError = false

/-- The page is printing and the given blocks have gone out. -/
structure Printing (transport : Transport) (speed : U16) (sent : List Bytes)
    (history : WireHistory) : Prop extends
    BlocksSent speed sent history, StationSeen transport history

section Invariants

variable {transport : Transport} {blocks sent : List Bytes} {speed : U16}
variable {history : WireHistory}

theorem accepted_concat (accepted : ∀ event ∈ history, ∃ resp, event.2 = .ok resp)
    (request : TransportCall) (resp : Option Bytes) :
    ∀ event ∈ history ++ [(request, .ok resp)], ∃ resp, event.2 = .ok resp := by
  intro event member
  rcases List.mem_append.mp member with earlier | last
  · exact accepted event earlier
  · obtain rfl := List.mem_singleton.mp last
    exact ⟨resp, rfl⟩

theorem Exchanged.concat {calls : List TransportCall}
    (exchanged : Exchanged calls history) {request : TransportCall}
    (noTransfer : request.isTransfer = false) (resp : Option Bytes) :
    Exchanged calls (history ++ [(request, .ok resp)]) where
  transfers := by
    simp [transferCalls_concat, exchanged.transfers, noTransfer]
  accepted := accepted_concat exchanged.accepted request resp

theorem Exchanged.concat_transfer {calls : List TransportCall}
    (exchanged : Exchanged calls history) (request : TransportCall)
    (isTransfer : request.isTransfer = true) (resp : Option Bytes) :
    Exchanged (calls ++ [request]) (history ++ [(request, .ok resp)]) where
  transfers := by
    simp [transferCalls_concat, exchanged.transfers, isTransfer]
  accepted := accepted_concat exchanged.accepted request resp

theorem BlocksSent.concat (blocksSent : BlocksSent speed sent history)
    {request : TransportCall} (noTransfer : request.isTransfer = false)
    (resp : Option Bytes) :
    BlocksSent speed sent (history ++ [(request, .ok resp)]) where
  toExchanged := blocksSent.toExchanged.concat noTransfer resp
  closed := by
    rw [insideBlock_concat]
    exact TransportCall.opensBlock_of_noTransfer noTransfer

theorem ReadyToStart.inquire (ready : ReadyToStart transport speed history)
    (resp : Option Bytes) :
    ReadyToStart transport speed
      (history ++ [(Transport.inquiry, .ok resp)]) where
  toBlocksSent := ready.toBlocksSent.concat rfl resp
  notStarted := by
    intro event member
    rcases List.mem_append.mp member with earlier | last
    · exact ready.notStarted event earlier
    · obtain rfl := List.mem_singleton.mp last
      rfl
  checked := by
    obtain ⟨checkResp, member, valid⟩ := ready.checked
    exact ⟨checkResp, List.mem_append_left _ member, valid⟩

theorem StationSeen.concat (station : StationSeen transport history)
    (event : TransportCall × TransportReply) :
    StationSeen transport (history ++ [event]) where
  started := by
    obtain ⟨start, member, isStart⟩ := station.started
    exact ⟨start, List.mem_append_left _ member, isStart⟩
  seen := by
    obtain ⟨status, member, shown⟩ := station.seen
    refine ⟨status, ?_, shown⟩
    rw [Transport.statusesSinceStart_concat station.started]
    exact List.mem_append_left _ member

theorem Printing.inquire (printing : Printing transport speed sent history)
    (resp : Option Bytes) :
    Printing transport speed sent
      (history ++ [(Transport.inquiry, .ok resp)]) where
  toBlocksSent := printing.toBlocksSent.concat rfl resp
  toStationSeen := printing.toStationSeen.concat _

/-! ### Allowed calls -/

theorem BlocksSent.order {request : TransportCall}
    (blocksSent : BlocksSent speed sent history) (isPrefix : sent <+: blocks)
    (noTransfer : request.isTransfer = false) (reply : TransportReply) :
    transferCalls (history ++ [(request, reply)]) <+:
      blocks.flatMap (blockCalls speed) := by
  obtain ⟨rest, rfl⟩ := isPrefix
  simp [transferCalls_concat, noTransfer, blocksSent.transfers]

/-- Between blocks, any call that neither starts printing nor moves a block is
allowed. -/
theorem BlocksSent.allowed {request : TransportCall}
    (blocksSent : BlocksSent speed sent history) (isPrefix : sent <+: blocks)
    (noStart : request.isStartPrint = false)
    (noTransfer : request.isTransfer = false) :
    PrintAllowed transport blocks speed history request where
  start isStart := by simp [noStart] at isStart
  station isHeader := by
    simp [TransportCall.isTransfer_of_isHeader isHeader] at noTransfer
  room isHeader := by
    simp [TransportCall.isTransfer_of_isHeader isHeader] at noTransfer
  order := blocksSent.order isPrefix noTransfer
  exclusive inside := by simp [blocksSent.closed] at inside

/-- The next call of a block is allowed, if it is not the header or the printer
has room. -/
theorem Exchanged.transfer_allowed {block : Bytes} {rest : List Bytes}
    {done next : List TransportCall} {request : TransportCall}
    (exchanged : Exchanged (sent.flatMap (blockCalls speed) ++ done) history)
    (split : blocks = sent ++ block :: rest)
    (parts : blockCalls speed block = done ++ request :: next)
    (isTransfer : request.isTransfer = true)
    (headerAllowed : request.isHeader = true →
      StationSeen transport history ∧
      ∃ status, transport.lastStatus history = some status ∧
        status.bufFull = false ∧ status.hasError = false) :
    PrintAllowed transport blocks speed history request where
  start isStart := by
    simp [TransportCall.noTransfer_of_isStartPrint isStart] at isTransfer
  station isHeader := (headerAllowed isHeader).1.seen
  room isHeader := (headerAllowed isHeader).2
  order reply := by
    refine ⟨next ++ rest.flatMap (blockCalls speed), ?_⟩
    simp [transferCalls_concat, exchanged.transfers, isTransfer, split, parts]
  exclusive _ := isTransfer

/-! ### The operations keep the rules -/

theorem transferCompressed_keeps {block : Bytes} {rest : List Bytes}
    (printing : Printing transport speed sent history)
    (split : blocks = sent ++ block :: rest)
    (room : ∃ status, transport.lastStatus history = some status ∧
      status.bufFull = false ∧ status.hasError = false) :
    Session.Ensures (PrintAllowed transport blocks speed)
      (Transport.transferCompressed block speed) history
      (Session.IfOk fun _ later =>
        Printing transport speed (sent ++ [block]) later) := by
  have nothing : Exchanged (sent.flatMap (blockCalls speed) ++ []) history := by
    simpa using printing.toExchanged
  have headerSent := nothing.concat_transfer (.sendBulkHeader
    (BitVec.ofNat 16 block.length) (packetCount block.length)) rfl
  have dataSent headerResp := (headerSent headerResp).concat_transfer
    (.sendBulkData block false) rfl
  refine (Transport.transferCompressed_ensures rfl ?_ ?_ ?_).weakenOk ?_
  · exact nothing.transfer_allowed split rfl rfl
      fun _ => ⟨printing.toStationSeen, room⟩
  · intro headerResp
    have exchanged := headerSent headerResp
    rw [List.append_assoc] at exchanged
    exact exchanged.transfer_allowed split rfl rfl
      (by simp [TransportCall.isHeader])
  · intro headerResp dataResp
    have exchanged := dataSent headerResp dataResp
    rw [List.append_assoc, List.append_assoc] at exchanged
    exact exchanged.transfer_allowed split rfl rfl
      (by simp [TransportCall.isHeader])
  rintro _ later ⟨headerResp, dataResp, fullResp, rfl⟩
  exact
    { toExchanged := by
        simpa [blockCalls] using
          (dataSent headerResp dataResp).concat_transfer _ rfl fullResp
      closed := insideBlock_concat _ _
      toStationSeen :=
        ((printing.toStationSeen.concat _).concat _).concat _ }

/-- A poll that ends well keeps its invariant, and the status it accepts is
the last one parsed. -/
theorem pollStatus_accepts (inv : WireHistory → Prop)
    {allowed : WireHistory → TransportCall → Prop}
    (permitted : ∀ history, inv history → allowed history Transport.inquiry)
    (kept : ∀ history resp, inv history →
      inv (history ++ [(Transport.inquiry, .ok resp)]))
    (judge : PrinterStatus → Transport.PollVerdict) (attempts : Nat)
    (holds : inv history) :
    Session.Ensures allowed (transport.pollStatus judge attempts) history
      (Session.IfOk fun result later => inv later ∧
        ∀ status, result = some status → judge status = .accept ∧
          transport.lastStatus later = some status) := by
  apply (Transport.pollStatus_ensures inv permitted kept judge attempts
    holds).consequence
  intro outcome later polled
  cases polled with
  | exhausted holds => exact ⟨holds, fun status absent => by cases absent⟩
  | accepted holds parsed verdict =>
      refine ⟨kept _ _ holds, ?_⟩
      rintro status ⟨⟩
      refine ⟨verdict, ?_⟩
      rw [Transport.lastStatus_concat, Transport.parsedStatus_inquiry, parsed]
      rfl
  | failed holds parsed verdict => trivial
  | broken holds => trivial

/-- The blocks that are left go out in order. -/
theorem transferBlocks_ensures (total index : Nat) {rest : List Bytes}
    (printing : Printing transport speed sent history)
    (split : blocks = sent ++ rest) :
    Session.Ensures (PrintAllowed transport blocks speed)
      (transport.transferBlocks speed total index rest) history
      (Session.IfOk fun _ => Printing transport speed blocks) := by
  induction rest generalizing index sent history with
  | nil =>
      obtain rfl : blocks = sent := by simpa using split
      exact Session.ensures_pure printing
  | cons block rest ih =>
      have sentPrefix : sent <+: blocks := ⟨block :: rest, split.symm⟩
      have nextSplit : blocks = (sent ++ [block]) ++ rest := by simpa using split
      unfold Transport.transferBlocks Transport.waitBufferReady
      refine Session.ensures_bind_ifOk _
        (pollStatus_accepts (Printing transport speed sent)
          (fun _ now => now.toBlocksSent.allowed sentPrefix rfl rfl)
          (fun _ resp now => now.inquire resp) _ _ printing) ?_
      rintro ready later ⟨nowPrinting, accepted⟩
      refine Session.ensures_bind_ifOk
        (fun status now => now = later ∧ ready = some status)
        (Transport.okOrElse_ensures fun status found => ⟨rfl, found⟩) ?_
      rintro status now ⟨rfl, found⟩
      obtain ⟨verdict, lastStatus⟩ := accepted status found
      have clear := (Transport.bufferVerdict_accept_iff status).mp verdict
      refine Session.ensures_bind_ifOk (fun _ later => later = now)
        ?_ ?_
      · unfold Transport.stopOnError
        rw [if_neg (by simp [clear.1])]
        exact Session.ensures_pure rfl
      rintro _ later rfl
      apply Session.ensures_bind_ifOk _
        (transferCompressed_keeps nowPrinting split
          ⟨status, lastStatus, clear.2, clear.1⟩)
      intro _ later blockSent
      refine Session.ensures_bind_ifOk
        (fun _ => Printing transport speed (sent ++ [block]))
        ?_ fun _ later stillPrinting => ih (index + 1) stillPrinting nextSplit
      apply (Transport.queryStatus_ensures (blockSent.toBlocksSent.allowed
        ⟨rest, nextSplit.symm⟩ rfl rfl)).consequence
      rintro outcome later ⟨reply, rfl, rfl⟩
      cases reply with
      | error error => trivial
      | ok resp => exact blockSent.inquire resp

/-- Running out of completion polls is an error, whatever the reason. -/
theorem completionTimeout_ensures {post : Unit → WireHistory → Prop}
    {allowed : WireHistory → TransportCall → Prop}
    (permitted : allowed history Transport.inquiry) :
    Session.Ensures allowed transport.completionTimeout history
      (Session.IfOk post) := by
  unfold Transport.completionTimeout
  refine Session.ensures_bind_ifOk (fun _ _ => True) ?_ ?_
  · apply (Transport.queryStatus_ensures permitted).consequence
    intro outcome later _
    cases outcome <;> trivial
  intro last later _
  exact Session.ensures_bind_ifOk (fun _ _ => True)
    (Transport.failIf_ensures fun _ => trivial)
    fun _ _ _ => Session.ensures_throw_ifOk

/-- Waiting for the print station from the start on ends with the printer seen
printing. -/
theorem waitPrinting_ensures (attempts : Nat)
    (blocksSent : BlocksSent speed [] history)
    (started : Transport.Started history) :
    Session.Ensures (PrintAllowed transport blocks speed)
      (transport.waitPrinting attempts) history
      (Session.IfOk fun result later => ∀ status, result = some status →
        Printing transport speed [] later) := by
  let waiting (now : WireHistory) : Prop :=
    BlocksSent speed [] now ∧ Transport.Started now
  have kept : ∀ now resp, waiting now →
      waiting (now ++ [(Transport.inquiry, .ok resp)]) := by
    intro now resp ⟨nowSent, start, member, isStart⟩
    exact ⟨nowSent.concat rfl resp, start, List.mem_append_left _ member,
      isStart⟩
  apply (Transport.pollStatus_ensures waiting
    (fun _ now => now.1.allowed (List.nil_prefix) rfl rfl) kept _ attempts
    ⟨blocksSent, started⟩).consequence
  intro outcome later polled
  cases polled with
  | exhausted holds => intro status absent; cases absent
  | failed holds parsed verdict => trivial
  | broken holds => trivial
  | @accepted before resp shown holds parsed verdict =>
      intro _ _
      have station := (Transport.printingVerdict_accept_iff shown).mp verdict
      exact
        { toBlocksSent := holds.1.concat rfl _
          started := (kept _ (some resp) holds).2
          seen := by
            refine ⟨shown, ?_, station.2, station.1⟩
            rw [Transport.statusesSinceStart_concat holds.2,
              Transport.parsedStatus_inquiry, parsed]
            simp }

end Invariants

/-- The whole print flow keeps the rules, and ends well only with the page
printed. -/
theorem printCompressed_ensures (transport : Transport) (blocks : List Bytes)
    (speed : U16) :
    Session.Ensures
      (PrintAllowed transport blocks (Transport.pageSpeed blocks speed))
      (transport.printCompressed blocks speed) []
      (Session.IfOk fun _ =>
        PrintComplete transport blocks (Transport.pageSpeed blocks speed)) := by
  unfold Transport.printCompressed
  have nothingSent : BlocksSent (Transport.pageSpeed blocks speed) [] [] :=
    ⟨⟨rfl, by simp⟩, rfl⟩
  -- CHECK_DEVICE
  apply Session.ensures_bind_ifOk _ (Transport.checkDevice_ensures
    (nothingSent.allowed List.nil_prefix rfl rfl))
  rintro present later ⟨resp, rfl, presentEq⟩
  refine Session.ensures_bind_ifOk
    (fun _ => ReadyToStart transport (Transport.pageSpeed blocks speed))
    (Transport.failIf_ensures fun validated => ?_) ?_
  · obtain ⟨bytes, rfl, validBytes⟩ : ∃ bytes, resp = some bytes ∧
        transport.validateResponse bytes cmdCheckDevice = true := by
      cases resp <;> simp_all
    exact
      { toBlocksSent := nothingSent.concat rfl _
        notStarted := by simp [TransportCall.isStartPrint]; decide
        checked := ⟨bytes, by simp, validBytes⟩ }
  -- Wait until the device is ready
  intro _ later ready
  refine Session.ensures_bind_ifOk _
    (pollStatus_accepts (ReadyToStart transport _)
      (fun _ now => now.toBlocksSent.allowed List.nil_prefix rfl rfl)
      (fun _ resp now => now.inquire resp) _ _ ready) ?_
  rintro st later ⟨ready, accepted⟩
  refine Session.ensures_bind_ifOk
    (fun status now => now = later ∧ st = some status)
    (Transport.okOrElse_ensures fun status found => ⟨rfl, found⟩) ?_
  rintro status now ⟨rfl, found⟩
  obtain ⟨verdict, lastStatus⟩ := accepted status found
  have idle := (Transport.readyVerdict_accept_iff status).mp verdict
  refine Session.ensures_bind_ifOk
    (fun _ later => later = now ∧ status.hasError = false)
    (Transport.failIf_ensures fun clear => ⟨rfl, clear⟩) ?_
  rintro _ later ⟨rfl, clear⟩
  -- START_PRINT
  refine Session.ensures_bind_ifOk
    (fun _ later => BlocksSent (Transport.pageSpeed blocks speed) []
      later ∧ Transport.Started later)
    (Session.ensures_ask_ifOk ?_ fun resp => ?_) ?_
  · exact
      { start := fun _ => ⟨ready.notStarted, ready.checked, status, lastStatus,
          idle.1, idle.2, clear⟩
        station := by simp [TransportCall.isHeader]
        room := by simp [TransportCall.isHeader]
        order := ready.toBlocksSent.order List.nil_prefix rfl
        exclusive := by simp [ready.closed] }
  · exact ⟨ready.toBlocksSent.concat rfl resp, _,
      List.mem_append_right _ (List.mem_singleton_self _), rfl⟩
  -- Wait for the print station
  rintro _ later ⟨nothingSent, started⟩
  apply Session.ensures_bind_ifOk _
    (waitPrinting_ensures _ nothingSent started)
  intro st later seen
  refine Session.ensures_bind_ifOk
    (fun _ => Printing transport (Transport.pageSpeed blocks speed) [])
    (Transport.okOrElse_ensures fun status found => seen status found) ?_
  -- Transfer the blocks
  intro _ later printing
  apply Session.ensures_bind_ifOk _
    (transferBlocks_ensures _ _ printing rfl)
  -- Wait for completion
  intro _ later printed
  refine Session.ensures_bind_ifOk _
    (pollStatus_accepts (Printing transport _ blocks)
      (fun _ now => now.toBlocksSent.allowed (List.prefix_refl _) rfl rfl)
      (fun _ resp now => now.inquire resp) _ _ printed) ?_
  rintro complete later ⟨printed, accepted⟩
  cases complete with
  | none =>
      exact completionTimeout_ensures
        (printed.toBlocksSent.allowed (List.prefix_refl _) rfl rfl)
  | some status =>
      obtain ⟨verdict, lastStatus⟩ := accepted status rfl
      obtain ⟨clear, idle⟩ :=
        (Transport.completionVerdict_accept_iff status).mp verdict
      exact Session.ensures_pure
        { sent := printed.transfers
          accepted := printed.accepted
          finished := ⟨status, lastStatus, idle.1, idle.2.1, idle.2.2, clear⟩ }

/-- Every print, on every printer, keeps the rules of the print protocol from
its first call to its last, and succeeds only with all blocks sent and the
printer idle. -/
theorem printCompressed_printsSafely (transport : Transport)
    (device : PrinterDevice) (blocks : List Bytes) (speed : U16) :
    let outcome := Session.runOn device
      (transport.printCompressed blocks speed)
    Script.Lawful
        (PrintAllowed transport blocks (Transport.pageSpeed blocks speed))
        outcome.2 ∧
      (outcome.1 = .ok () →
        PrintComplete transport blocks (Transport.pageSpeed blocks speed)
          outcome.2) := by
  obtain ⟨lawful, post⟩ :=
    (printCompressed_ensures transport blocks speed).runOn device
  refine ⟨lawful, ?_⟩
  intro succeeded
  rw [succeeded] at post
  exact post

end SupvanCups
