import SupvanCups.ByteWindows

/-!
# Frames on the wire

Command frames of 16 bytes and data frames of 512 bytes carry everything the
serial links send.  Every frame is a byte array of fixed size, so its type
holds the length.
-/

namespace SupvanCups

def magic1 : U8 := 0x7E#8
def magic2 : U8 := 0x5A#8
def protoId : U8 := 0x10#8
def protoVer : U8 := 0x01#8
def markerAa : U8 := 0xAA#8
def dataType : U8 := 0x02#8

def cmdBufFull : U8 := 0x10#8
def cmdInquirySta : U8 := 0x11#8
def cmdCheckDevice : U8 := 0x12#8
def cmdStartPrint : U8 := 0x13#8
def cmdStopPrint : U8 := 0x14#8
def cmdReturnMat : U8 := 0x30#8
def cmdNextZippedbulk : U8 := 0x5C#8
def cmdSetRfidData : U8 := 0x5D#8

/-- Declared payload length in byte 2 of a command frame. -/
def cmdPayloadLen : U8 := 0x0C#8

/-- A byte array of fixed size. -/
abbrev Frame (size : Nat) := { bytes : Bytes // bytes.length = size }

/-- Low 16 bits of a byte sum. -/
def byteSum (bytes : Bytes) : U16 :=
  BitVec.ofNat 16 (bytes.map BitVec.toNat).sum

/-- Bytes 10 to 15 of a command frame, which its checksum covers. -/
def cmdBody (blockSize blockCount : U16) : Bytes :=
  [0x00#8, 0x01#8] ++ toLeBytes blockSize ++ toLeBytes blockCount

/-- A 16-byte start-transfer command. -/
def makeCmdStartTrans (cmd : U8) (blockSize blockCount : U16) : Frame 16 :=
  ⟨[magic1, magic2, cmdPayloadLen, 0x00#8, protoId, protoVer, markerAa, cmd] ++
      toLeBytes (byteSum (cmdBody blockSize blockCount)) ++
      cmdBody blockSize blockCount,
    rfl⟩

/-- A plain command: the parameter stands in the block-size field. -/
def makeCmd (cmd : U8) (param : U16) : Frame 16 :=
  makeCmdStartTrans cmd param 0#16

def dataMagic1 : U8 := 0xAA#8
def dataMagic2 : U8 := 0xBB#8

/-- Most payload a data packet carries. -/
def dataPayloadSize : Nat := 500

/-- Payload length declared in every data frame. -/
def dataFramePayloadLen : U16 := 508#16

/-- Bytes 4 to 505 of a data packet, which its checksum covers. -/
def packetBody (dataChunk : Bytes) (pktIdx pktTotal : U8) : Bytes :=
  [pktIdx, pktTotal] ++ padTo dataPayloadSize dataChunk

theorem packetBody_length (dataChunk : Bytes) (pktIdx pktTotal : U8) :
    (packetBody dataChunk pktIdx pktTotal).length = 502 := by
  simp [packetBody, dataPayloadSize]

def makeDataPacket (dataChunk : Bytes) (pktIdx pktTotal : U8) : Frame 506 :=
  ⟨[dataMagic1, dataMagic2] ++
      toLeBytes (byteSum (packetBody dataChunk pktIdx pktTotal)) ++
      packetBody dataChunk pktIdx pktTotal,
    by simp [packetBody_length]⟩

/-- A data packet inside its 512-byte transfer frame. -/
def wrapDataFrame (payload : Frame 506) : Frame 512 :=
  ⟨[magic1, magic2] ++ toLeBytes dataFramePayloadLen ++
      [protoId, dataType] ++ payload.val,
    by simp [payload.property]⟩

def packetCount (length : Nat) : Nat :=
  divCeil length dataPayloadSize

/-- The piece of the data that packet `index` carries. -/
def packetChunk (compressed : Bytes) (index : Nat) : Bytes :=
  let offset := index * dataPayloadSize
  let stop := min (offset + dataPayloadSize) compressed.length
  (compressed.drop offset).take (stop - offset)

def buildDataFrames (compressed : Bytes) : List (Frame 512) :=
  let numPackets := packetCount compressed.length
  let pktTotal := BitVec.ofNat 8 numPackets
  (List.range numPackets).map fun index =>
    wrapDataFrame
      (makeDataPacket (packetChunk compressed index) (BitVec.ofNat 8 index)
        pktTotal)

@[simp]
theorem buildDataFrames_length (compressed : Bytes) :
    (buildDataFrames compressed).length = packetCount compressed.length := by
  simp [buildDataFrames]

end SupvanCups
