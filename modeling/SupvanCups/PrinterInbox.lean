import SupvanCups.PrintProtocol
import SupvanCups.StreamWriters
import SupvanCups.WireRoundTrip

/-!
# What a printer makes of a whole print

A printer reads one frame after the other.  A bulk header announces data
frames, which it keeps as they come, whatever they look like; `BUF_FULL` ends
the block, which is then rebuilt; any other command leaves the blocks alone.

In every run of `print_compressed`, over a serial pipe and over USB, however
the device answers and wherever the link fails, the blocks rebuilt so far are
the first blocks of the page, in order.  When the print succeeds they are all
of them.
-/

namespace SupvanCups

open Transport (blockCalls transferCompressed pageSpeed)
open Session (callWire callWire_concat)

/-! ### The printer's side of a link -/

/-- How the frames of a link read: as commands, how many data frames a bulk
header announces, and a block from its frames. -/
structure FrameReader where
  decode : Bytes → Option WireCommand
  announced : WireCommand → Nat
  receive : List Bytes → Option (Bytes × U16)

def sppReader : FrameReader where
  decode := decodeCmdFrame
  announced start := start.param2.toNat
  receive := receiveSpp

def usbReader : FrameReader where
  decode := decodeUsbCmd
  announced start := divCeil start.param1.toNat hidReportSize
  receive := receiveUsb

/-- The data frames still to come, the frames of the block under way, and the
blocks rebuilt so far, each with its speed. -/
structure Inbox where
  awaited : Nat
  pending : List Bytes
  blocks : List (Bytes × U16)
  deriving DecidableEq

/-- No block is under way. -/
def Inbox.atRest (blocks : List (Bytes × U16)) : Inbox :=
  ⟨0, [], blocks⟩

namespace FrameReader

variable (reader : FrameReader)

def takeCommand (inbox : Inbox) (frame : Bytes) (command : WireCommand) :
    Inbox :=
  if command.cmd = cmdNextZippedbulk then
    ⟨reader.announced command, [frame], inbox.blocks⟩
  else if command.cmd = cmdBufFull then
    .atRest (inbox.blocks ++ (reader.receive (inbox.pending ++ [frame])).toList)
  else inbox

def takeFrame (inbox : Inbox) (frame : Bytes) : Inbox :=
  match inbox.awaited with
  | awaited + 1 => ⟨awaited, inbox.pending ++ [frame], inbox.blocks⟩
  | 0 =>
      match reader.decode frame with
      | some command => reader.takeCommand inbox frame command
      | none => inbox

def takeFrames (inbox : Inbox) (frames : List Bytes) : Inbox :=
  frames.foldl reader.takeFrame inbox

/-- What a printer that was at rest has made of some frames. -/
def inboxAfter (frames : List Bytes) : Inbox :=
  reader.takeFrames (.atRest []) frames

@[simp]
theorem takeFrames_append (inbox : Inbox) (first second : List Bytes) :
    reader.takeFrames inbox (first ++ second) =
      reader.takeFrames (reader.takeFrames inbox first) second :=
  List.foldl_append

@[simp]
theorem takeFrames_nil (inbox : Inbox) : reader.takeFrames inbox [] = inbox :=
  rfl

theorem takeFrames_singleton (inbox : Inbox) (frame : Bytes) :
    reader.takeFrames inbox [frame] = reader.takeFrame inbox frame :=
  rfl

/-- Announced data frames are kept, whatever is in them. -/
theorem takeFrames_data (awaited : Nat) (pending : List Bytes)
    (blocks : List (Bytes × U16)) {frames : List Bytes}
    (announced : frames.length ≤ awaited) :
    reader.takeFrames ⟨awaited, pending, blocks⟩ frames =
      ⟨awaited - frames.length, pending ++ frames, blocks⟩ := by
  induction frames generalizing awaited pending with
  | nil => simp
  | cons frame frames ih =>
      obtain ⟨more, rfl⟩ : ∃ more, awaited = more + 1 :=
        Nat.exists_eq_add_of_le' (by simp at announced; omega)
      have rest : frames.length ≤ more := by simpa using announced
      calc
        reader.takeFrames ⟨more + 1, pending, blocks⟩ (frame :: frames) =
            reader.takeFrames ⟨more, pending ++ [frame], blocks⟩ frames :=
          rfl
        _ = ⟨more - frames.length, pending ++ [frame] ++ frames, blocks⟩ :=
          ih more (pending ++ [frame]) rest
        _ = _ := by simp

end FrameReader

/-- A link whose frames its reader understands. -/
structure ReadsCalls (reader : FrameReader)
    (frames : TransportCall → List Bytes) : Prop where
  /-- A command is one frame that reads as that command. -/
  command : ∀ cmd param, ∃ frame, frames (.sendCmd cmd param) = [frame] ∧
    reader.decode frame = some ⟨cmd, param, 0#16⟩
  /-- A bulk header announces the frames of its block. -/
  header : ∀ block : Bytes, block.length ≤ 65535 → ∃ frame start,
    frames (.sendBulkHeader (BitVec.ofNat 16 block.length)
      (packetCount block.length)) = [frame] ∧
    reader.decode frame = some start ∧ start.cmd = cmdNextZippedbulk ∧
    reader.announced start = (frames (.sendBulkData block false)).length
  bufFull : ∀ length speed, ∃ frame,
    frames (.sendCmdTwo cmdBufFull length speed) = [frame] ∧
    reader.decode frame = some ⟨cmdBufFull, length, speed⟩
  receive : ∀ block : Bytes, block.length ≤ 65535 → ∀ speed,
    reader.receive ((blockCalls speed block).flatMap frames) =
      some (block, speed)

theorem sppReader_readsCalls : ReadsCalls sppReader callFrames where
  command cmd param := ⟨_, rfl, decodeCmdFrame_makeCmdStartTrans cmd param _⟩
  header block short := by
    refine ⟨_, _, rfl, decodeCmdFrame_makeCmdStartTrans _ _ _, rfl, ?_⟩
    have few := packetCount_le short
    simp only [sppReader, callFrames, List.length_map, buildDataFrames_length,
      BitVec.toNat_ofNat]
    omega
  bufFull length speed := ⟨_, rfl, decodeCmdFrame_makeCmdStartTrans _ _ _⟩
  receive _ short := receiveSpp_blockCalls short

theorem usbReader_readsCalls : ReadsCalls usbReader callReports where
  command cmd param := ⟨_, rfl, decodeUsbCmd_makeUsbCmd cmd param⟩
  header block short := by
    refine ⟨_, _, rfl, decodeUsbCmd_makeUsbCmd _ _, rfl, ?_⟩
    have lengthEq : (BitVec.ofNat 16 block.length).toNat = block.length := by
      rw [BitVec.toNat_ofNat]
      omega
    simp only [usbReader, callReports, lengthEq, List.length_map, chunks,
      List.length_range]
  bufFull length speed := ⟨_, rfl, decodeUsbCmd_makeUsbCmdTwo _ _ _⟩
  receive _ short := receiveUsb_blockCalls short

/-! ### What one call does to the inbox -/

section Calls

variable {reader : FrameReader} {frames : TransportCall → List Bytes}
  (reads : ReadsCalls reader frames) {blocks : List (Bytes × U16)}
  {block : Bytes} {speed : U16}

/-- Commands that neither open nor close a block. -/
def TransportCall.isQuiet : TransportCall → Bool
  | .sendCmd cmd _ => cmd != cmdNextZippedbulk && cmd != cmdBufFull
  | _ => false

include reads

theorem takeFrames_quiet {request : TransportCall}
    (quiet : request.isQuiet = true) {part : List Bytes}
    (isPart : part <+: frames request) :
    reader.takeFrames (.atRest blocks) part = .atRest blocks := by
  cases request with
  | sendCmd cmd param =>
      obtain ⟨frame, framed, decoded⟩ := reads.command cmd param
      rw [framed] at isPart
      obtain ⟨notHeader, notFull⟩ :
          cmd ≠ cmdNextZippedbulk ∧ cmd ≠ cmdBufFull := by
        simpa [TransportCall.isQuiet] using quiet
      rcases List.prefix_cons_iff.mp isPart with rfl | ⟨rest, rfl, nothing⟩
      · rfl
      · obtain rfl := List.prefix_nil.mp nothing
        simp [FrameReader.takeFrames_singleton, FrameReader.takeFrame,
          Inbox.atRest, decoded, FrameReader.takeCommand, notHeader, notFull]
  | sendCmdTwo cmd param1 param2 => cases quiet
  | sendBulkHeader compressedLen numPackets => cases quiet
  | sendBulkData data readFinalResponse => cases quiet

/-- Part of the frames of a block leaves the blocks before it alone, until
`BUF_FULL` completes it. -/
theorem takeFrames_block (blocks : List (Bytes × U16)) (speed : U16)
    (short : block.length ≤ 65535) :
    ∃ header full opened,
      frames (.sendBulkHeader (BitVec.ofNat 16 block.length)
        (packetCount block.length)) = [header] ∧
      frames (.sendCmdTwo cmdBufFull (BitVec.ofNat 16 block.length) speed) =
        [full] ∧
      reader.takeFrame (.atRest blocks) header = opened ∧
      (∀ part, part <+: frames (.sendBulkData block false) →
        (reader.takeFrames opened part).blocks = blocks) ∧
      reader.takeFrame (reader.takeFrames opened
        (frames (.sendBulkData block false))) full =
          .atRest (blocks ++ [(block, speed)]) := by
  obtain ⟨header, start, headerFrame, decoded, isHeader, announced⟩ :=
    reads.header block short
  obtain ⟨full, fullFrame, fullDecoded⟩ :=
    reads.bufFull (BitVec.ofNat 16 block.length) speed
  let data := frames (.sendBulkData block false)
  have opens : reader.takeFrame (.atRest blocks) header =
      ⟨data.length, [header], blocks⟩ := by
    simp [FrameReader.takeFrame, Inbox.atRest, decoded,
      FrameReader.takeCommand, isHeader, announced, data]
  have taken {part : List Bytes} (isPart : part <+: data) :=
    reader.takeFrames_data data.length [header] blocks isPart.length_le
  have received : reader.receive (header :: data ++ [full]) =
      some (block, speed) := by
    have whole := reads.receive block short speed
    simpa [blockCalls, headerFrame, fullFrame, data] using whole
  refine ⟨header, full, _, headerFrame, fullFrame, opens, ?_, ?_⟩
  · intro part isPart
    rw [taken isPart]
  · rw [taken (List.prefix_refl data), Nat.sub_self]
    simp only [FrameReader.takeFrame, fullDecoded, FrameReader.takeCommand,
      Inbox.atRest, List.singleton_append, received]
    rfl

end Calls

/-! ### What a print leaves in the inbox -/

def withSpeed (speed : U16) (blocks : List Bytes) : List (Bytes × U16) :=
  blocks.map (·, speed)

/-- Every call was accepted, and the printer has the given blocks and none
under way. -/
structure Delivered (reader : FrameReader)
    (frames : TransportCall → List Bytes) (received : List (Bytes × U16))
    (history : WireHistory) : Prop where
  accepted : ∀ event ∈ history, ∃ resp, event.2 = .ok resp
  inbox : reader.inboxAfter (callWire frames history) = .atRest received

theorem prefix_singleton {α : Type} {part : List α} {last : α}
    (isPart : part <+: [last]) : part = [] ∨ part = [last] := by
  rcases List.prefix_cons_iff.mp isPart with rfl | ⟨rest, rfl, nothing⟩
  · exact .inl rfl
  · obtain rfl := List.prefix_nil.mp nothing
    exact .inr rfl

/-- However many of its frames a call puts on the wire, the printer has the
first blocks of the page. -/
structure KeepsOrder (reader : FrameReader)
    (frames : TransportCall → List Bytes) (expected : List (Bytes × U16))
    (history : WireHistory) (request : TransportCall) : Prop where
  accepted : ∀ event ∈ history, ∃ resp, event.2 = .ok resp
  blocks : ∀ part, part <+: frames request →
    (reader.inboxAfter (callWire frames history ++ part)).blocks <+: expected

section Print

variable {reader : FrameReader} {frames : TransportCall → List Bytes}
  {transport : Transport} {received expected : List (Bytes × U16)}
  {speed : U16} {history : WireHistory}

theorem inboxAfter_append (frames more : List Bytes) :
    reader.inboxAfter (frames ++ more) =
      reader.takeFrames (reader.inboxAfter frames) more :=
  reader.takeFrames_append _ _ _

section Reads

variable (reads : ReadsCalls reader frames)

include reads

theorem Delivered.concat (delivered : Delivered reader frames received history)
    {request : TransportCall} (quiet : request.isQuiet = true)
    (resp : Option Bytes) :
    Delivered reader frames received (history ++ [(request, .ok resp)]) where
  accepted := accepted_concat delivered.accepted request resp
  inbox := by
    rw [callWire_concat, inboxAfter_append, delivered.inbox]
    exact takeFrames_quiet reads quiet (List.prefix_refl _)

theorem Delivered.allowed (delivered : Delivered reader frames received history)
    (isPrefix : received <+: expected) {request : TransportCall}
    (quiet : request.isQuiet = true) :
    KeepsOrder reader frames expected history request where
  accepted := delivered.accepted
  blocks part isPart := by
    rw [inboxAfter_append, delivered.inbox, takeFrames_quiet reads quiet isPart]
    exact isPrefix

theorem transferCompressed_delivers {block : Bytes}
    (delivered : Delivered reader frames received history)
    (next : received ++ [(block, speed)] <+: expected)
    (short : block.length ≤ 65535) :
    Session.Ensures (KeepsOrder reader frames expected)
      (transferCompressed block speed) history
      (Session.IfOk fun _ =>
        Delivered reader frames (received ++ [(block, speed)])) := by
  obtain ⟨header, full, opened, headerFrame, fullFrame, opens, within,
      closes⟩ := takeFrames_block reads received speed short
  have first : received <+: expected := (List.prefix_append _ _).trans next
  have openedBlocks : opened.blocks = received := within [] List.nil_prefix
  -- The inbox before each call of the block.
  have headerSent headerResp : reader.inboxAfter (callWire frames (history ++
      [(.sendBulkHeader (BitVec.ofNat 16 block.length)
        (packetCount block.length), .ok headerResp)])) = opened := by
    rw [callWire_concat, inboxAfter_append, delivered.inbox, headerFrame]
    exact opens
  have dataSent headerResp dataResp : reader.inboxAfter (callWire frames
      (history ++ [(.sendBulkHeader (BitVec.ofNat 16 block.length)
        (packetCount block.length), .ok headerResp)] ++
        [(.sendBulkData block false, .ok dataResp)])) =
      reader.takeFrames opened (frames (.sendBulkData block false)) := by
    rw [callWire_concat, inboxAfter_append, headerSent]
  have accepted headerResp := accepted_concat delivered.accepted
    (.sendBulkHeader (BitVec.ofNat 16 block.length)
      (packetCount block.length)) headerResp
  have acceptedData headerResp dataResp := accepted_concat
    (accepted headerResp) (.sendBulkData block false) dataResp
  refine (Transport.transferCompressed_ensures rfl ?_ ?_ ?_).weakenOk ?_
  · refine ⟨delivered.accepted, fun part isPart => ?_⟩
    rw [inboxAfter_append, delivered.inbox]
    rw [headerFrame] at isPart
    rcases prefix_singleton isPart with rfl | rfl
    · exact first
    · rw [FrameReader.takeFrames_singleton, opens, openedBlocks]
      exact first
  · refine fun headerResp => ⟨accepted headerResp, fun part isPart => ?_⟩
    rw [inboxAfter_append, headerSent, within part isPart]
    exact first
  · refine fun headerResp dataResp =>
      ⟨acceptedData headerResp dataResp, fun part isPart => ?_⟩
    rw [inboxAfter_append, dataSent]
    rw [fullFrame] at isPart
    rcases prefix_singleton isPart with rfl | rfl
    · rw [FrameReader.takeFrames_nil, within _ (List.prefix_refl _)]
      exact first
    · rw [FrameReader.takeFrames_singleton, closes]
      exact next
  · rintro _ later ⟨headerResp, dataResp, fullResp, rfl⟩
    refine ⟨accepted_concat (acceptedData _ _) _ _, ?_⟩
    rw [callWire_concat, inboxAfter_append, dataSent, fullFrame,
      FrameReader.takeFrames_singleton, closes]

/-- The blocks that are left are delivered in order. -/
theorem transferBlocks_delivers (total index : Nat) {rest : List Bytes}
    (delivered : Delivered reader frames received history)
    (within : received ++ withSpeed speed rest <+: expected)
    (short : ∀ block ∈ rest, block.length ≤ 65535) :
    Session.Ensures (KeepsOrder reader frames expected)
      (transport.transferBlocks speed total index rest) history
      (Session.IfOk fun _ =>
        Delivered reader frames (received ++ withSpeed speed rest)) := by
  induction rest generalizing index received history with
  | nil =>
      refine Session.ensures_pure (?_ : Delivered _ _ _ _)
      rwa [withSpeed, List.map_nil, List.append_nil]
  | cons block rest ih =>
      have split : received ++ withSpeed speed (block :: rest) =
          (received ++ [(block, speed)]) ++ withSpeed speed rest := by
        simp [withSpeed]
      rw [split] at within ⊢
      have next : received ++ [(block, speed)] <+: expected :=
        (List.prefix_append _ _).trans within
      have first : received <+: expected := (List.prefix_append _ _).trans next
      unfold Transport.transferBlocks Transport.waitBufferReady
      refine Session.ensures_bind_ifOk _
        (pollStatus_accepts (Delivered reader frames received)
          (fun _ now => now.allowed reads first rfl)
          (fun _ resp now => now.concat reads rfl resp) _ _ delivered) ?_
      rintro ready later ⟨nowDelivered, accepted⟩
      refine Session.ensures_bind_ifOk
        (fun status now => now = later ∧ ready = some status)
        (Transport.okOrElse_ensures fun status found => ⟨rfl, found⟩) ?_
      rintro status now ⟨rfl, found⟩
      have clear := (Transport.bufferVerdict_accept_iff status).mp
        (accepted status found).1
      refine Session.ensures_bind_ifOk (fun _ later => later = now) ?_ ?_
      · unfold Transport.stopOnError
        rw [if_neg (by simp [clear.1])]
        exact Session.ensures_pure rfl
      rintro _ later rfl
      apply Session.ensures_bind_ifOk _ (transferCompressed_delivers reads
        nowDelivered next (short block List.mem_cons_self))
      intro _ later blockDelivered
      refine Session.ensures_bind_ifOk
        (fun _ => Delivered reader frames (received ++ [(block, speed)]))
        ?_ fun _ later still => ih (index + 1) still within
          fun block member => short block (List.mem_cons_of_mem _ member)
      apply (Transport.queryStatus_ensures (blockDelivered.allowed reads
        next rfl)).consequence
      rintro outcome later ⟨reply, rfl, rfl⟩
      cases reply with
      | error error => trivial
      | ok resp => exact blockDelivered.concat reads rfl resp

/-- However a print goes, the printer gets the blocks of the page in order,
after those that it had. -/
theorem printCompressed_delivers (transport : Transport) {blocks : List Bytes}
    (start : Delivered reader frames received history)
    (within : received ++ withSpeed (pageSpeed blocks speed) blocks <+:
      expected)
    (short : ∀ block ∈ blocks, block.length ≤ 65535) :
    Session.Ensures (KeepsOrder reader frames expected)
      (transport.printCompressed blocks speed) history
      (Session.IfOk fun _ => Delivered reader frames
        (received ++ withSpeed (pageSpeed blocks speed) blocks)) := by
  let before := Delivered reader frames received
  let after := Delivered reader frames
    (received ++ withSpeed (pageSpeed blocks speed) blocks)
  have first : received <+: expected := (List.prefix_append _ _).trans within
  unfold Transport.printCompressed
  -- CHECK_DEVICE
  apply Session.ensures_bind_ifOk _ (Transport.checkDevice_ensures
    (start.allowed reads first rfl))
  rintro present later ⟨resp, rfl, -⟩
  refine Session.ensures_bind_ifOk (fun _ => before)
    (Transport.failIf_ensures fun _ => start.concat reads rfl resp) ?_
  -- Wait until the device is ready
  intro _ later checked
  refine Session.ensures_bind_ifOk _
    (pollStatus_accepts before
      (fun _ now => now.allowed reads first rfl)
      (fun _ resp now => now.concat reads rfl resp) _ _ checked) ?_
  rintro st later ⟨ready, -⟩
  refine Session.ensures_bind_ifOk (fun _ => before)
    (Transport.okOrElse_ensures fun _ _ => ready) ?_
  intro status later ready
  refine Session.ensures_bind_ifOk (fun _ => before)
    (Transport.failIf_ensures fun _ => ready) ?_
  -- START_PRINT
  intro _ later ready
  refine Session.ensures_bind_ifOk (fun _ => before)
    (Session.ensures_ask_ifOk (ready.allowed reads first rfl)
      fun resp => ready.concat reads rfl resp) ?_
  -- Wait for the print station
  intro _ later started
  refine Session.ensures_bind_ifOk _
    (pollStatus_accepts before
      (fun _ now => now.allowed reads first rfl)
      (fun _ resp now => now.concat reads rfl resp) _ _ started) ?_
  rintro st later ⟨seen, -⟩
  refine Session.ensures_bind_ifOk (fun _ => before)
    (Transport.okOrElse_ensures fun _ _ => seen) ?_
  -- Transfer the blocks
  intro _ later printing
  apply Session.ensures_bind_ifOk _
    (transferBlocks_delivers reads _ _ printing within short)
  -- Wait for completion
  intro _ later delivered
  refine Session.ensures_bind_ifOk _
    (pollStatus_accepts after
      (fun _ now => now.allowed reads within rfl)
      (fun _ resp now => now.concat reads rfl resp) _ _ delivered) ?_
  rintro complete later ⟨delivered, -⟩
  cases complete with
  | none => exact completionTimeout_ensures (delivered.allowed reads within rfl)
  | some status => exact Session.ensures_pure delivered

end Reads

end Print

/-! ### Over a link -/

section Links

variable {Low LowReply α : Type}

/-- How the frames of calls look in the stream that carries them: part of the
stream of a call shows part of its frames. -/
structure Shows (view : List α → List Bytes) (pieces : TransportCall → List α)
    (frames : TransportCall → List Bytes) : Prop where
  part : ∀ (history : WireHistory) request part, part <+: pieces request →
    ∃ seen, seen <+: frames request ∧
      view (callWire pieces history ++ part) =
        callWire frames history ++ seen
  whole : ∀ history : WireHistory,
    view (callWire pieces history) = callWire frames history

theorem shows_frames (frames : TransportCall → List Bytes) :
    Shows id frames frames where
  part _ _ part isPart := ⟨part, isPart, rfl⟩
  whole _ := rfl

/-- At every moment the blocks rebuilt are the first of those expected, in
order; when the session succeeds they are all of them and none is under
way. -/
def DeliversInOrder (reader : FrameReader)
    (wire : History Low LowReply → List Bytes) (expected : List (Bytes × U16))
    (outcome : Except ProtoError Unit × History Low LowReply) : Prop :=
  (∀ past, past <+: outcome.2 →
    (reader.inboxAfter (wire past)).blocks <+: expected) ∧
  (outcome.1 = .ok () → reader.inboxAfter (wire outcome.2) = .atRest expected)

/-- Over a link that writes what calls stand for, a print delivers its blocks
in order. -/
theorem Shows.deliversInOrder {reader : FrameReader}
    {view : List α → List Bytes} {pieces : TransportCall → List α}
    {frames : TransportCall → List Bytes} (shows : Shows view pieces frames)
    {wire : History Low LowReply → List α}
    {send : TransportCall → Session Low LowReply ProtoError (Option Bytes)}
    (writes : ∀ request, Session.Writes wire (pieces request) (send request))
    (empty : wire [] = []) (reads : ReadsCalls reader frames)
    (transport : Transport) (blocks : List Bytes) (speed : U16)
    (short : ∀ block ∈ blocks, block.length ≤ 65535)
    (link : Device Low LowReply) :
    DeliversInOrder reader (fun low => view (wire low))
      (withSpeed (pageSpeed blocks speed) blocks)
      (Session.runOn link ((transport.printCompressed blocks speed).interpret
        fun request => (send request).run)) := by
  let expected := withSpeed (pageSpeed blocks speed) blocks
  let seen (low : History Low LowReply) : Inbox :=
    reader.inboxAfter (view (wire low))
  let related (high : WireHistory) (low : History Low LowReply) : Prop :=
    (∀ event ∈ high, ∃ resp, event.2 = .ok resp) →
      wire low = callWire pieces high
  have carried : Session.Ensures
      (fun now call => ∀ reply,
        (seen (now ++ [(call, reply)])).blocks <+: expected)
      ((transport.printCompressed blocks speed).interpret
        fun request => (send request).run) []
      (Session.IfOk fun _ later => seen later = .atRest expected) := by
    have nothing : Delivered reader frames [] [] := ⟨by simp, rfl⟩
    have delivers := printCompressed_delivers reads transport nothing
      (List.prefix_refl expected) short
    refine (Script.Ensures.interpret related ?_ (fun _ => by
      simp [empty, callWire]) delivers).consequence ?_
    · intro high low request sofar keeps
      have level := sofar keeps.accepted
      refine (Session.Ensures.permit (writes request low) ?_).consequence ?_
      · intro now call written reply
        obtain ⟨part, isPart, wrote⟩ := written reply
        obtain ⟨part, isPart, shown⟩ := shows.part high request part isPart
        simp only [seen]
        rw [wrote, level, shown]
        exact keeps.blocks part isPart
      · intro reply later added accepted
        obtain ⟨resp, rfl⟩ : ∃ resp, reply = .ok resp :=
          accepted (request, reply) (by simp)
        have grown : wire later = wire low ++ pieces request := added
        rw [grown, level, callWire_concat]
    · rintro outcome later ⟨high, onWire, delivered⟩
      cases outcome with
      | error error => trivial
      | ok result =>
          have whole : Delivered reader frames expected high := delivered
          simp only [seen]
          rw [Session.ifOk_ok, onWire whole.accepted, shows.whole, whole.inbox]
  obtain ⟨lawful, post⟩ := carried.runOn link
  refine ⟨fun past isPast => ?_, fun succeeds => ?_⟩
  · rcases List.eq_nil_or_concat past with rfl | ⟨before, event, rfl⟩
    · have nothing := shows.whole []
      simp only [callWire, List.flatMap_nil] at nothing
      simp only [empty, nothing]
      exact List.nil_prefix
    · obtain ⟨after, split⟩ := isPast
      rw [List.concat_eq_append] at split ⊢
      exact lawful before event after (by rw [← split]; simp) event.2
  · rw [succeeds] at post
    exact post

theorem sendDataFrames_writes (acked readFinalResponse : Bool)
    (frames : List (Frame 512)) :
    Session.Writes sppFrames (frames.map Subtype.val)
      (sendDataFrames acked readFinalResponse frames) := by
  induction frames with
  | nil => exact Session.writes_pure none
  | cons frame frames ih =>
      rw [List.map_cons, ← List.singleton_append]
      refine (Session.writes_ask fun low reply => ?_).bind fun resp => ?_
      · simp [sppFrames, SppPipeCall.frame]
      · cases frames with
        | nil => exact Session.writes_pure resp
        | cons next frames => exact ih

theorem sppSend_writes (acksDataFrames : Bool) (request : TransportCall) :
    Session.Writes sppFrames (callFrames request)
      (sppSend acksDataFrames request) := by
  cases request with
  | sendBulkData data readFinalResponse =>
      exact sendDataFrames_writes acksDataFrames readFinalResponse _
  | sendCmd cmd param
  | sendCmdTwo cmd param1 param2
  | sendBulkHeader compressedLen numPackets =>
      exact Session.writes_ask fun low reply => by
        simp [sppFrames, SppPipeCall.frame, callFrames]

theorem writeReport_writes (data : Bytes) :
    Session.Writes usbReports [padTo hidReportSize data] (writeReport data) :=
  Session.writes_ask fun low reply => by simp [usbReports, HidrawCall.report?]

theorem sendAndRecv_writes (data : Bytes) :
    Session.Writes usbReports [padTo hidReportSize data]
      (sendAndRecv data) := by
  rw [← List.append_nil [padTo hidReportSize data]]
  exact (writeReport_writes data).bind fun _ => Session.writes_ask
    fun low reply => by simp [usbReports, HidrawCall.report?]

theorem sendReports_writes (readFinalResponse : Bool) (pieces : List Bytes) :
    Session.Writes usbReports (pieces.map (padTo hidReportSize))
      (sendReports readFinalResponse pieces) := by
  induction pieces with
  | nil => exact Session.writes_pure none
  | cons piece pieces ih =>
      unfold sendReports
      split
      · rename_i last
        obtain rfl : pieces = [] := by simp_all
        exact sendAndRecv_writes piece
      · rw [List.map_cons, ← List.singleton_append]
        exact (writeReport_writes piece).bind fun _ => ih

theorem usbSend_writes (request : TransportCall) :
    Session.Writes usbReports (callReports request) (usbSend request) := by
  cases request with
  | sendBulkData data readFinalResponse =>
      exact sendReports_writes readFinalResponse _
  | sendCmd cmd param
  | sendCmdTwo cmd param1 param2
  | sendBulkHeader compressedLen numPackets => exact sendAndRecv_writes _

/-- Over a serial pipe. -/
theorem overSpp_deliversInOrder (acksDataFrames : Bool) (transport : Transport)
    (blocks : List Bytes) (speed : U16)
    (short : ∀ block ∈ blocks, block.length ≤ 65535)
    (link : Device SppPipeCall TransportReply) :
    DeliversInOrder sppReader sppFrames
      (withSpeed (pageSpeed blocks speed) blocks)
      (Session.runOn link
        (overSpp acksDataFrames (transport.printCompressed blocks speed))) :=
  (shows_frames callFrames).deliversInOrder (sppSend_writes acksDataFrames) rfl
    sppReader_readsCalls transport blocks speed short link

theorem overUsb_deliversInOrder (transport : Transport) (blocks : List Bytes)
    (speed : U16) (short : ∀ block ∈ blocks, block.length ≤ 65535)
    (link : Device HidrawCall TransportReply) :
    DeliversInOrder usbReader usbReports
      (withSpeed (pageSpeed blocks speed) blocks)
      (Session.runOn link
        (overUsb (transport.printCompressed blocks speed))) :=
  (shows_frames callReports).deliversInOrder usbSend_writes rfl
    usbReader_readsCalls transport blocks speed short link

end Links

/-- In every run of a print, over both kinds of link, whatever is answered and
wherever the link fails, the printer has the first blocks of the page in order,
and has the whole page when the print succeeds. -/
theorem printCompressed_deliversInOrder (blocks : List Bytes) (speed : U16)
    (short : ∀ block ∈ blocks, block.length ≤ 65535) :
    (∀ acksDataFrames link,
      DeliversInOrder sppReader sppFrames
        (withSpeed (pageSpeed blocks speed) blocks)
        (Session.runOn link
          (overSpp acksDataFrames (sppCodec.printCompressed blocks speed)))) ∧
    ∀ link,
      DeliversInOrder usbReader usbReports
        (withSpeed (pageSpeed blocks speed) blocks)
        (Session.runOn link
          (overUsb (usbHidTransport.printCompressed blocks speed))) :=
  ⟨fun acksDataFrames =>
      overSpp_deliversInOrder acksDataFrames sppCodec blocks speed short,
    overUsb_deliversInOrder usbHidTransport blocks speed short⟩

/-- Two blocks, one of them of several packets. -/
theorem printCompressed_deliversInOrder_two :
    let blocks := [List.replicate 700 1#8, [2#8]]
    (∀ acksDataFrames link,
      DeliversInOrder sppReader sppFrames
        (withSpeed (pageSpeed blocks 60#16) blocks)
        (Session.runOn link
          (overSpp acksDataFrames (sppCodec.printCompressed blocks 60#16)))) ∧
    ∀ link,
      DeliversInOrder usbReader usbReports
        (withSpeed (pageSpeed blocks 60#16) blocks)
        (Session.runOn link
          (overUsb (usbHidTransport.printCompressed blocks 60#16))) :=
  printCompressed_deliversInOrder _ 60#16 fun block member => by
    rcases List.mem_pair.mp member with rfl | rfl
    · rw [List.length_replicate]
      decide
    · decide

end SupvanCups
