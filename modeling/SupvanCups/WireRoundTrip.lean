import SupvanCups.PrinterOperations
import SupvanCups.WireLinks

/-!
# Rebuilding a block from the wire

A receiver that knows the frame layouts only, checks every field of every
frame, and puts the payloads together again.  Whatever block is transferred, it
gets that block and the print speed, over a serial pipe and over USB.
-/

namespace SupvanCups

open Transport (transferCompressed blockCalls)

structure WireCommand where
  cmd : U8
  param1 : U16
  param2 : U16
  deriving DecidableEq

def beWordOf (data : Bytes) (index : Nat) : U16 :=
  BitVec.ofNat 16 (fromLeBytes (byteOf data (index + 1)) (byteOf data index))

@[simp]
theorem word_of_toLeBytes (word : U16) :
    BitVec.ofNat 16 (fromLeBytes (BitVec.ofNat 8 (word.toNat % 256))
      (BitVec.ofNat 8 (word.toNat / 256))) = word := by
  rw [fromLeBytes_toLeBytes, BitVec.ofNat_toNat, BitVec.setWidth_eq]

/-! ### Serial frames -/

/-- Read a command frame, checking its fixed bytes and its checksum. -/
def decodeCmdFrame (frame : Bytes) : Option WireCommand :=
  if frame.length = 16 ∧
      frame.take 7 = [magic1, magic2, cmdPayloadLen, 0x00#8, protoId, protoVer,
        markerAa] ∧
      (frame.drop 8).take 2 = toLeBytes (byteSum (frame.drop 10)) ∧
      (frame.drop 10).take 2 = [0x00#8, 0x01#8] then
    some ⟨byteOf frame 7, wordOf frame 12, wordOf frame 14⟩
  else
    none

structure DataPacket where
  index : U8
  total : U8
  payload : Bytes
  deriving DecidableEq

/-- Read a data frame, checking its magic, its declared length and the checksum
of its packet. -/
def decodeDataFrame (frame : Bytes) : Option DataPacket :=
  if frame.length = 512 ∧
      frame.take 2 = [magic1, magic2] ∧
      (frame.drop 2).take 2 = toLeBytes 508#16 ∧
      (frame.drop 4).take 4 = [protoId, dataType, dataMagic1, dataMagic2] ∧
      (frame.drop 8).take 2 = toLeBytes (byteSum (frame.drop 10)) then
    some ⟨byteOf frame 10, byteOf frame 11, frame.drop 12⟩
  else
    none

/-- Receive one block over a serial pipe: a bulk header for `n` blocks of 512
bytes, exactly `n` data frames numbered in order, and `BUF_FULL` with the length
and the speed. -/
def receiveSpp : List Bytes → Option (Bytes × U16)
  | [] => none
  | header :: rest => do
      let start ← decodeCmdFrame header
      guard (start.cmd = cmdNextZippedbulk ∧ start.param1 = 512#16)
      let count := start.param2.toNat
      let packets ← (rest.take count).mapM decodeDataFrame
      guard (packets.map (·.index.toNat) = List.range count ∧
        ∀ packet ∈ packets, packet.total.toNat = count)
      match rest.drop count with
      | [trailer] => do
          let finish ← decodeCmdFrame trailer
          guard (finish.cmd = cmdBufFull)
          some ((packets.flatMap DataPacket.payload).take finish.param1.toNat,
            finish.param2)
      | _ => none

theorem decodeCmdFrame_makeCmdStartTrans (cmd : U8)
    (blockSize blockCount : U16) :
    decodeCmdFrame (makeCmdStartTrans cmd blockSize blockCount).val =
      some ⟨cmd, blockSize, blockCount⟩ := by
  simp [decodeCmdFrame, makeCmdStartTrans, cmdBody, toLeBytes, wordOf, byteOf]

theorem decodeDataFrame_wrapDataFrame (dataChunk : Bytes) (index total : U8) :
    decodeDataFrame (wrapDataFrame (makeDataPacket dataChunk index total)).val =
      some ⟨index, total, padTo dataPayloadSize dataChunk⟩ := by
  simp [decodeDataFrame, wrapDataFrame, makeDataPacket, packetBody, byteOf,
    toLeBytes, dataFramePayloadLen, dataPayloadSize]

theorem packetChunk_eq (compressed : Bytes) (index : Nat) :
    packetChunk compressed index =
      (compressed.drop (index * dataPayloadSize)).take dataPayloadSize := by
  simp only [packetChunk, List.take_eq_take_iff, List.length_drop]
  omega

/-- A block that fits the 16-bit length has few enough packets to number them
with a byte. -/
theorem packetCount_le {length : Nat} (short : length ≤ 65535) :
    packetCount length ≤ 132 := by
  simp only [packetCount, divCeil, dataPayloadSize]
  omega

def blockPackets (block : Bytes) : List DataPacket :=
  (List.range (packetCount block.length)).map fun index =>
    { index := BitVec.ofNat 8 index
      total := BitVec.ofNat 8 (packetCount block.length)
      payload := window block (index * dataPayloadSize) dataPayloadSize }

theorem mapM_decodeDataFrame (block : Bytes) :
    ((buildDataFrames block).map Subtype.val).mapM decodeDataFrame =
      some (blockPackets block) := by
  have decoded : ∀ index,
      decodeDataFrame (wrapDataFrame (makeDataPacket (packetChunk block index)
        (BitVec.ofNat 8 index)
        (BitVec.ofNat 8 (packetCount block.length)))).val =
      some ⟨BitVec.ofNat 8 index, BitVec.ofNat 8 (packetCount block.length),
        window block (index * dataPayloadSize) dataPayloadSize⟩ := by
    intro index
    rw [decodeDataFrame_wrapDataFrame, packetChunk_eq, padTo_take_drop]
  simp only [buildDataFrames, blockPackets, List.map_map]
  induction List.range (packetCount block.length) with
  | nil => rfl
  | cons index indices ih =>
      simp only [List.map_cons, List.mapM_cons, Function.comp_apply, decoded,
        ih]
      rfl

/-- As many packets as a byte can count keep their own number as index. -/
theorem blockPackets_index_of_few {block : Bytes}
    (few : packetCount block.length ≤ 255) :
    (blockPackets block).map (·.index.toNat) =
      List.range (packetCount block.length) := by
  simp only [blockPackets, List.map_map]
  calc
    _ = (List.range (packetCount block.length)).map id := by
      apply List.map_congr_left
      intro index member
      have bounded := List.mem_range.mp member
      simp only [Function.comp_apply, BitVec.toNat_ofNat, id]
      omega
    _ = List.range (packetCount block.length) := List.map_id _

theorem blockPackets_total_of_few {block : Bytes}
    (few : packetCount block.length ≤ 255) :
    ∀ packet ∈ blockPackets block,
      packet.total.toNat = packetCount block.length := by
  intro packet member
  obtain ⟨index, _, rfl⟩ := List.mem_map.mp member
  simp only [BitVec.toNat_ofNat]
  omega

theorem blockPackets_index {block : Bytes} (short : block.length ≤ 65535) :
    (blockPackets block).map (·.index.toNat) =
      List.range (packetCount block.length) :=
  blockPackets_index_of_few ((packetCount_le short).trans (by decide))

theorem blockPackets_total {block : Bytes} (short : block.length ≤ 65535) :
    ∀ packet ∈ blockPackets block,
      packet.total.toNat = packetCount block.length :=
  blockPackets_total_of_few ((packetCount_le short).trans (by decide))

/-- The payloads of a block's packets start with the block. -/
theorem take_blockPackets (block : Bytes) :
    ((blockPackets block).flatMap DataPacket.payload).take block.length =
      block := by
  simp only [blockPackets, List.flatMap_map, packetCount]
  exact take_flatMap_window block (by decide : 0 < dataPayloadSize)

theorem receiveSpp_blockCalls {block : Bytes} (short : block.length ≤ 65535)
    (speed : U16) :
    receiveSpp ((blockCalls speed block).flatMap callFrames) =
      some (block, speed) := by
  have few := packetCount_le short
  have countEq : (BitVec.ofNat 16 (packetCount block.length)).toNat =
      packetCount block.length := by
    rw [BitVec.toNat_ofNat]
    omega
  have lengthEq : (BitVec.ofNat 16 block.length).toNat = block.length := by
    rw [BitVec.toNat_ofNat]
    omega
  have frameCount : ((buildDataFrames block).map Subtype.val).length =
      packetCount block.length := by simp
  simp only [blockCalls, List.flatMap_cons, List.flatMap_nil, callFrames,
    List.singleton_append, List.append_nil, receiveSpp,
    decodeCmdFrame_makeCmdStartTrans, Option.bind_eq_bind, Option.bind_some,
    countEq]
  rw [List.take_left' frameCount, List.drop_left' frameCount,
    mapM_decodeDataFrame]
  simp [guard, sppBlockSize, blockPackets_index short,
    decodeCmdFrame_makeCmdStartTrans, lengthEq, take_blockPackets]
  rw [if_pos (blockPackets_total short)]
  rfl

/-! ### USB reports -/

/-- Read a command report, checking its magic and its fixed bytes.  The second
parameter reads as zero where a command has none. -/
def decodeUsbCmd (report : Bytes) : Option WireCommand :=
  if report.length = 64 ∧
      report.take 2 = [usbMagic1, usbMagic2] ∧
      (report.drop 5).take 3 = [0x00#8, 0x08#8, 0x00#8] then
    some ⟨byteOf report 4, beWordOf report 2, beWordOf report 8⟩
  else
    none

/-- Receive one block over USB: a bulk header with the length, as many reports
as that length needs with zeros after it, and `BUF_FULL` with the same length
and the speed. -/
def receiveUsb : List Bytes → Option (Bytes × U16)
  | [] => none
  | header :: rest => do
      let start ← decodeUsbCmd header
      guard (start.cmd = cmdNextZippedbulk)
      let length := start.param1.toNat
      let count := divCeil length 64
      let reports := rest.take count
      guard (reports.map List.length = List.replicate count 64 ∧
        ∀ byte ∈ reports.flatten.drop length, byte = 0#8)
      match rest.drop count with
      | [trailer] => do
          let finish ← decodeUsbCmd trailer
          guard (finish.cmd = cmdBufFull ∧ finish.param1 = start.param1)
          some (reports.flatten.take length, finish.param2)
      | _ => none

theorem decodeUsbCmd_makeUsbCmd (cmd : U8) (param : U16) :
    decodeUsbCmd (padTo hidReportSize (makeUsbCmd cmd param)) =
      some ⟨cmd, param, 0#16⟩ := by
  simp [decodeUsbCmd, padTo, hidReportSize, makeUsbCmd, toBeBytes, byteOf,
    beWordOf]
  rfl

theorem decodeUsbCmd_makeUsbCmdTwo (cmd : U8) (param1 param2 : U16) :
    decodeUsbCmd (padTo hidReportSize (makeUsbCmdTwo cmd param1 param2)) =
      some ⟨cmd, param1, param2⟩ := by
  simp [decodeUsbCmd, padTo, hidReportSize, makeUsbCmd, makeUsbCmdTwo,
    toBeBytes, byteOf, beWordOf]

/-- The reports that carry the bytes of a block. -/
def blockReports (block : Bytes) : List Bytes :=
  (List.range (divCeil block.length hidReportSize)).map fun index =>
    window block (index * hidReportSize) hidReportSize

theorem padTo_chunks (block : Bytes) :
    (chunks block hidReportSize).map (padTo hidReportSize) =
      blockReports block := by
  simp only [chunks, blockReports, List.map_map]
  exact List.map_congr_left fun index _ => padTo_take_drop block _ _

theorem blockReports_flatten (block : Bytes) :
    (blockReports block).flatten =
      window block 0 (divCeil block.length hidReportSize * hidReportSize) := by
  rw [blockReports, ← List.flatMap_def, flatMap_window]

theorem blockReports_length (block : Bytes) :
    (blockReports block).map List.length =
      List.replicate (divCeil block.length hidReportSize) hidReportSize := by
  simp [blockReports, Function.comp_def]

theorem receiveUsb_blockCalls {block : Bytes} (short : block.length ≤ 65535)
    (speed : U16) :
    receiveUsb ((blockCalls speed block).flatMap callReports) =
      some (block, speed) := by
  have lengthEq : (BitVec.ofNat 16 block.length).toNat = block.length := by
    rw [BitVec.toNat_ofNat]
    omega
  have reportCount : (blockReports block).length = divCeil block.length 64 := by
    simp [blockReports, hidReportSize]
  have fits : block.length ≤ divCeil block.length hidReportSize * hidReportSize :=
    le_divCeil_mul_size block.length (by decide)
  have filled : ∀ byte ∈ (blockReports block).flatten.drop block.length,
      byte = 0#8 := by
    rw [blockReports_flatten]
    exact eq_zero_of_mem_drop_window block _
  have rebuilt : (blockReports block).flatten.take block.length = block := by
    rw [blockReports_flatten, take_window _ _ fits, window_self]
  simp only [blockCalls, List.flatMap_cons, List.flatMap_nil, callReports,
    List.singleton_append, List.append_nil, receiveUsb,
    decodeUsbCmd_makeUsbCmd, Option.bind_eq_bind, Option.bind_some, lengthEq,
    padTo_chunks]
  rw [List.take_left' reportCount, List.drop_left' reportCount]
  have lengths := blockReports_length block
  simp only [hidReportSize] at lengths
  simp [guard, decodeUsbCmd_makeUsbCmdTwo, lengths, rebuilt]
  rw [if_pos filled]
  rfl

/-! ### The round trip -/

theorem transferCompressed_calls (block : Bytes) (speed : U16) :
    Session.Ensures (fun _ _ => True) (transferCompressed block speed) []
      (Session.IfOk fun _ later => later.map Prod.fst = blockCalls speed block ∧
        ∀ event ∈ later, ∃ resp, event.2 = .ok resp) := by
  refine (Transport.transferCompressed_ensures rfl trivial
    (fun _ => trivial) fun _ _ => trivial).weakenOk ?_
  rintro _ later ⟨headerResp, dataResp, fullResp, rfl⟩
  simp [blockCalls]

/-- On a link whose accepted calls put their frames on the wire, a transfer
that succeeds puts exactly the frames of its block there. -/
theorem transferCompressed_onTheWire {Low : Type}
    {wire : History Low TransportReply → List Bytes}
    {send : TransportCall → Session Low TransportReply ProtoError
      (Option Bytes)}
    {frames : TransportCall → List Bytes}
    (adds : ∀ request low, Session.Ensures (fun _ _ => True) (send request) low
      (Session.IfOk fun _ later => wire later = wire low ++ frames request))
    (empty : wire [] = []) (block : Bytes) (speed : U16)
    (link : Device Low TransportReply)
    (completes : (Session.runOn link
      ((transferCompressed block speed).interpret
        fun request => (send request).run)).1 = .ok ()) :
    wire (Session.runOn link
      ((transferCompressed block speed).interpret
        fun request => (send request).run)).2 =
      (blockCalls speed block).flatMap frames := by
  have ensured := ((onTheWire_of_adds adds empty
    (transferCompressed_calls block speed)).runOn link).2
  rw [completes, Session.ifOk_ok] at ensured
  obtain ⟨high, ⟨calls, accepted⟩, onWire⟩ := ensured
  rw [onWire accepted, ← calls, List.flatMap_map]

/-- Whatever a transfer that completes has put on the wire, a receiver rebuilds
the block and the speed from it, on both transports. -/
theorem transferCompressed_roundTrip (block : Bytes) (speed : U16)
    (short : block.length ≤ 65535) :
    (∀ (acksDataFrames : Bool) (pipe : Device SppPipeCall TransportReply),
      let outcome := Session.runOn pipe
        (overSpp acksDataFrames (transferCompressed block speed))
      outcome.1 = .ok () →
        receiveSpp (sppFrames outcome.2) = some (block, speed)) ∧
    ∀ (hidraw : Device HidrawCall TransportReply),
      let outcome := Session.runOn hidraw
        (overUsb (transferCompressed block speed))
      outcome.1 = .ok () →
        receiveUsb (usbReports outcome.2) = some (block, speed) := by
  constructor
  · intro acksDataFrames pipe outcome completes
    have frames := transferCompressed_onTheWire (sppSend_adds acksDataFrames)
      rfl block speed pipe completes
    rw [← receiveSpp_blockCalls short speed, ← frames]
    rfl
  · intro hidraw outcome completes
    have reports := transferCompressed_onTheWire usbSend_adds rfl block speed
      hidraw completes
    rw [← receiveUsb_blockCalls short speed, ← reports]
    rfl

/-- Three packets, or nineteen reports, sent to a printer that answers every
call. -/
theorem transferCompressed_roundTrip_short :
    let block : Bytes := (List.range 1200).map fun i => BitVec.ofNat 8 i
    receiveSpp (sppFrames (Session.runOn (fun _ _ => .ok (some [0x10#8]))
        (overSpp true (transferCompressed block 60#16))).2) =
      some (block, 60#16) ∧
    receiveUsb (usbReports (Session.runOn (fun _ _ => .ok (some [0x10#8]))
        (overUsb (transferCompressed block 60#16))).2) =
      some (block, 60#16) := by
  intro block
  have short : block.length ≤ 65535 := by simp [block]
  obtain ⟨overSpp, overUsb⟩ := transferCompressed_roundTrip block 60#16 short
  exact ⟨overSpp true _ (by decide +kernel), overUsb _ (by decide +kernel)⟩

end SupvanCups
