import SupvanCups.FramedStreams
import SupvanCups.PrinterInbox
import SupvanCups.ReplyParsers

/-!
# The pipes under the serial codec

An RFCOMM socket takes the bytes of a frame as it likes: each `send` may take
part of what it is given, and the rest is sent again.  A BLE link takes write
requests of at most 128 bytes.  The printer gets a stream of bytes either way,
and finds the frames in it by their declared lengths.

However the bytes of a print are cut up, at every byte of the stream the blocks
that the printer has rebuilt are the first of the page, in order.
-/

namespace SupvanCups

open Transport (blockCalls transferCompressed pageSpeed)
open Session (callWire callWire_concat)

/-! ### RFCOMM sockets -/

/-- What a socket reports: how many bytes it took, or what it read. -/
structure SocketReply where
  taken : ℕ+
  response : Option Bytes

/-- The calls of an RFCOMM socket.  A send that takes nothing fails, so the
bytes taken are at least one. -/
inductive SocketCall
  | drain
  | send (bytes : Bytes)
  | readResponse

abbrev SocketSession (α : Type) :=
  Session SocketCall (Except ProtoError SocketReply) ProtoError α

def btDataChunkSize : Nat := 128

/-- Throw away what has arrived; that this may fail is ignored. -/
def drain : SocketSession Unit :=
  ExceptT.mk (.call .drain fun _ => .done (.ok ()))

/-- Send until the socket has taken all of a chunk. -/
def sendChunk (chunk : Bytes) : SocketSession Unit :=
  if chunk = [] then pure ()
  else do
    let reply ← Session.ask (.send chunk)
    sendChunk (chunk.drop reply.taken)
termination_by chunk.length
decreasing_by
  have := reply.taken.pos
  have := List.length_pos_iff.mpr ‹chunk ≠ []›
  simp only [List.length_drop]
  omega

def writePieces : List Bytes → SocketSession Unit
  | [] => pure ()
  | piece :: pieces => do
      drain
      sendChunk piece
      writePieces pieces

def writeChunked (data : Bytes) (chunkSize : Nat) : SocketSession Unit :=
  writePieces (chunks data chunkSize)

def readResponse : SocketSession (Option Bytes) := do
  let reply ← Session.ask .readResponse
  return reply.response

def rfcommSend : SppPipeCall → SocketSession (Option Bytes)
  | .sendCmdFrame frame => do
      writeChunked frame.val 512
      readResponse
  | .sendDataFrame frame wanted => do
      writeChunked frame.val btDataChunkSize
      if wanted then readResponse else pure none

/-- The bytes that a socket took. -/
def SocketCall.takenBytes :
    SocketCall × Except ProtoError SocketReply → Bytes
  | (.send bytes, .ok reply) => bytes.take reply.taken
  | _ => []

def socketBytes (history : History SocketCall (Except ProtoError SocketReply)) :
    Bytes :=
  history.flatMap SocketCall.takenBytes

def overRfcomm {α : Type} (operation : Operation α) : SocketSession α :=
  (overSpp true operation).interpret fun request => (rfcommSend request).run

/-! ### BLE -/

inductive GattCall
  | writeRequest (chunk : Bytes)
  | awaitResponse (cmd : U8)

abbrev GattSession (α : Type) := Session GattCall TransportReply ProtoError α

def bleChunk : Nat := 128

def writeRequests : List Bytes → GattSession (Option Bytes)
  | [] => pure none
  | piece :: pieces => do
      let _ ← Session.ask (.writeRequest piece)
      writeRequests pieces

/-- Every command is answered by a notification that echoes its byte 7; data
frames are not answered. -/
def bleSend : SppPipeCall → GattSession (Option Bytes)
  | .sendCmdFrame frame => do
      let _ ← writeRequests (chunks frame.val bleChunk)
      Session.ask (.awaitResponse (byteOf frame.val 7))
  | .sendDataFrame frame _ => writeRequests (chunks frame.val bleChunk)

def GattCall.chunk : GattCall → Bytes
  | writeRequest chunk => chunk
  | awaitResponse _ => []

/-- The bytes of all write requests. -/
def gattBytes (history : History GattCall TransportReply) : Bytes :=
  history.flatMap fun event => event.1.chunk

def overBle {α : Type} (operation : Operation α) : GattSession α :=
  (overSpp false operation).interpret fun request => (bleSend request).run

/-! ### What the pipes write -/

theorem chunks_flatten (bytes : Bytes) {size : Nat} (positive : 0 < size) :
    (chunks bytes size).flatten = bytes := by
  have upTo (count : Nat) : ((List.range count).map fun index =>
      (bytes.drop (index * size)).take size).flatten =
        bytes.take (count * size) := by
    induction count with
    | zero => simp
    | succ count ih =>
        rw [List.range_succ, List.map_append, List.flatten_append, ih,
          Nat.succ_mul, List.take_add]
        simp
  rw [chunks, upTo]
  exact List.take_of_length_le (le_divCeil_mul_size _ positive)

theorem drain_writes : Session.Writes socketBytes [] drain := by
  have nothing low reply : socketBytes (low ++ [(.drain, reply)]) =
      socketBytes low := by
    cases reply <;> simp [socketBytes, SocketCall.takenBytes]
  intro low
  refine ⟨fun reply => ⟨[], List.nil_prefix, ?_⟩, fun reply => ?_⟩
  · rw [nothing, List.append_nil]
  · show socketBytes _ = _
    rw [nothing, List.append_nil]

theorem readResponse_writes : Session.Writes socketBytes [] readResponse := by
  rw [← List.append_nil []]
  refine (Session.writes_ask fun low reply => ?_).bind fun reply =>
    Session.writes_pure reply.response
  cases reply <;> simp [socketBytes, SocketCall.takenBytes]

/-- However often the rest of a chunk is sent again, the socket takes its bytes
once and in order. -/
theorem sendChunk_writes (chunk : Bytes) :
    Session.Writes socketBytes chunk (sendChunk chunk) := by
  induction sized : chunk.length using Nat.strongRecOn generalizing chunk with
  | ind size ih =>
      rw [sendChunk]
      split
      · rename_i nothing
        rw [nothing]
        exact Session.writes_pure ()
      · rename_i some
        intro low
        refine Session.ensures_bind_ifOk (fun reply later =>
          socketBytes later = socketBytes low ++ chunk.take reply.taken)
          (Session.ensures_ask_ifOk ?_ fun reply => ?_) ?_
        · rintro (error | reply)
          · exact ⟨[], List.nil_prefix, by
              simp [socketBytes, SocketCall.takenBytes]⟩
          · exact ⟨chunk.take reply.taken, List.take_prefix _ chunk, by
              simp [socketBytes, SocketCall.takenBytes]⟩
        · simp [socketBytes, SocketCall.takenBytes]
        · intro reply later added
          have shorter : (chunk.drop reply.taken).length < size := by
            have := reply.taken.pos
            have := List.length_pos_iff.mpr some
            simp only [List.length_drop]
            omega
          have rest := ih _ shorter (chunk.drop reply.taken) rfl later
          have whole := List.take_append_drop reply.taken chunk
          refine (rest.permit ?_).weakenOk ?_
          · intro now call written answer
            obtain ⟨part, isPart, wrote⟩ := written answer
            refine ⟨chunk.take reply.taken ++ part, ?_, by
              rw [wrote, added, List.append_assoc]⟩
            rw [← List.prefix_append_right_inj (chunk.take reply.taken)]
              at isPart
            rwa [whole] at isPart
          · intro _ last grown
            rw [grown, added, List.append_assoc, whole]

theorem writePieces_writes (pieces : List Bytes) :
    Session.Writes socketBytes pieces.flatten (writePieces pieces) := by
  induction pieces with
  | nil => exact Session.writes_pure ()
  | cons piece pieces ih =>
      exact drain_writes.bind fun _ => (sendChunk_writes piece).bind fun _ => ih

theorem writeChunked_writes (data : Bytes) {chunkSize : Nat}
    (positive : 0 < chunkSize) :
    Session.Writes socketBytes data (writeChunked data chunkSize) := by
  have pieces := writePieces_writes (chunks data chunkSize)
  rwa [chunks_flatten data positive] at pieces

theorem rfcommSend_writes (request : SppPipeCall) :
    Session.Writes socketBytes request.frame (rfcommSend request) := by
  rw [← List.append_nil request.frame]
  cases request with
  | sendCmdFrame frame =>
      exact (writeChunked_writes frame.val (by decide)).bind fun _ =>
        readResponse_writes
  | sendDataFrame frame wanted =>
      refine (writeChunked_writes frame.val (by decide)).bind fun _ => ?_
      split
      · exact readResponse_writes
      · exact Session.writes_pure none

theorem writeRequests_writes (pieces : List Bytes) :
    Session.Writes gattBytes pieces.flatten (writeRequests pieces) := by
  induction pieces with
  | nil => exact Session.writes_pure none
  | cons piece pieces ih =>
      exact (Session.writes_ask fun low reply => by
        simp [gattBytes, GattCall.chunk]).bind fun _ => ih

theorem bleSend_writes (request : SppPipeCall) :
    Session.Writes gattBytes request.frame (bleSend request) := by
  cases request with
  | sendCmdFrame frame =>
      have command := writeRequests_writes (chunks frame.val bleChunk)
      rw [chunks_flatten _ (by decide)] at command
      rw [SppPipeCall.frame, ← List.append_nil frame.val]
      exact command.bind fun _ => Session.writes_ask fun low reply => by
        simp [gattBytes, GattCall.chunk]
  | sendDataFrame frame wanted =>
      have data := writeRequests_writes (chunks frame.val bleChunk)
      rwa [chunks_flatten _ (by decide)] at data

/-! ### Transport calls as bytes -/

theorem failFast_sendDataFrames (acked readFinalResponse : Bool)
    (frames : List (Frame 512)) :
    Session.FailFast (fun _ => True)
      (sendDataFrames acked readFinalResponse frames) := by
  induction frames with
  | nil => exact Session.failFast_pure none
  | cons frame frames ih =>
      refine Session.FailFast.bind (Session.failFast_ask trivial) fun resp => ?_
      split
      · exact Session.failFast_pure resp
      · exact ih

theorem failFast_sppSend (acksDataFrames : Bool) (request : TransportCall) :
    Session.FailFast (fun _ => True) (sppSend acksDataFrames request) := by
  cases request with
  | sendBulkData data readFinalResponse =>
      exact failFast_sendDataFrames acksDataFrames readFinalResponse _
  | sendCmd cmd param
  | sendCmdTwo cmd param1 param2
  | sendBulkHeader compressedLen numPackets => exact Session.failFast_ask trivial

instance : Nonempty ProtoError :=
  ⟨.io ""⟩

/-- A pipe that writes the bytes of every frame writes the bytes of every
transport call. -/
theorem pipe_writes {Low LowReply : Type}
    {wire : History Low LowReply → Bytes}
    {pipe : SppPipeCall → Session Low LowReply ProtoError (Option Bytes)}
    (writes : ∀ request, Session.Writes wire request.frame (pipe request))
    (acksDataFrames : Bool) (request : TransportCall) :
    Session.Writes wire (callFrames request).flatten
      ((sppSend acksDataFrames request).interpret
        fun call => (pipe call).run) := by
  have asCalls : sppFrames = callWire fun call => [call.frame] := by
    funext history
    simp [sppFrames, callWire, List.map_eq_flatMap]
  have frames := sppSend_writes acksDataFrames request
  rw [asCalls] at frames
  have bytes := Session.Writes.interpret id
    (fun call _ => by simpa using writes call)
    (failFast_sppSend acksDataFrames request) frames
  rwa [List.flatMap_id] at bytes

/-! ### What the printer reads off the bytes -/

def declaredSize (stream : Bytes) : Option Nat :=
  if 4 ≤ stream.length then some (declaredEnd stream) else none

theorem declaredSize_pos {stream : Bytes} {length : Nat}
    (found : declaredSize stream = some length) : 0 < length := by
  rw [declaredSize] at found
  split at found
  · obtain rfl := Option.some.inj found
    simp [declaredEnd]
  · cases found

theorem declaredSize_append {stream : Bytes} {length : Nat} (more : Bytes)
    (found : declaredSize stream = some length) :
    declaredSize (stream ++ more) = some length := by
  rw [declaredSize] at found ⊢
  split at found
  · rename_i enough
    obtain rfl := Option.some.inj found
    rw [if_pos (by rw [List.length_append]; omega)]
    simp only [declaredEnd, wordOf, byteOf]
    rw [List.getD_append _ _ _ _ (by omega),
      List.getD_append _ _ _ _ (by omega)]
  · cases found

/-- Command and data frames declare their length in bytes 2 and 3. -/
def sppFraming : Framing U8 where
  size := declaredSize
  size_pos := declaredSize_pos
  size_append := declaredSize_append

theorem isFrame_cmdFrame (cmd : U8) (blockSize blockCount : U16) :
    sppFraming.IsFrame (makeCmdStartTrans cmd blockSize blockCount).val :=
  rfl

theorem isFrame_dataFrame (payload : Frame 506) :
    sppFraming.IsFrame (wrapDataFrame payload).val := by
  have declares : declaredEnd (wrapDataFrame payload).val = 512 := by
    simp [declaredEnd, wordOf, byteOf, wrapDataFrame, toLeBytes, fromLeBytes,
      dataFramePayloadLen]
  have length := (wrapDataFrame payload).property
  show declaredSize (wrapDataFrame payload).val = some _
  rw [declaredSize, declares, length]
  rfl

theorem isFrame_callFrames (request : TransportCall) :
    ∀ frame ∈ callFrames request, sppFraming.IsFrame frame := by
  cases request with
  | sendBulkData data readFinalResponse =>
      intro frame member
      obtain ⟨whole, built, rfl⟩ := List.mem_map.mp member
      obtain ⟨index, -, rfl⟩ := List.mem_map.mp built
      exact isFrame_dataFrame _
  | sendCmd cmd param
  | sendCmdTwo cmd param1 param2
  | sendBulkHeader compressedLen numPackets =>
      exact List.forall_mem_singleton.mpr (isFrame_cmdFrame _ _ _)

theorem shows_bytes :
    Shows sppFraming.split (fun request => (callFrames request).flatten)
      callFrames := by
  have areFrames (history : WireHistory) :
      ∀ frame ∈ callWire callFrames history, sppFraming.IsFrame frame := by
    intro frame member
    obtain ⟨event, -, framed⟩ := List.mem_flatMap.mp member
    exact isFrame_callFrames event.1 frame framed
  have asBytes (history : WireHistory) :
      callWire (fun request => (callFrames request).flatten) history =
        (callWire callFrames history).flatten := by
    simp [callWire, List.flatMap_def, List.flatten_flatten, List.map_map,
      Function.comp_def]
  refine ⟨fun history request part isPart => ?_, fun history => ?_⟩
  · refine ⟨sppFraming.split part,
      Framing.split_prefix (isFrame_callFrames request) isPart, ?_⟩
    rw [asBytes, Framing.split_flatten_append (areFrames history)]
  · rw [asBytes, Framing.split_flatten (areFrames history)]

/-- At every byte of the stream the blocks rebuilt are the first of those
expected, in order; when the session succeeds they are all of them and none is
under way. -/
def DeliversEveryByte {Low LowReply : Type}
    (wire : History Low LowReply → Bytes) (expected : List (Bytes × U16))
    (outcome : Except ProtoError Unit × History Low LowReply) : Prop :=
  (∀ received, received <+: wire outcome.2 →
    (sppReader.inboxAfter (sppFraming.split received)).blocks <+: expected) ∧
  (outcome.1 = .ok () →
    sppReader.inboxAfter (sppFraming.split (wire outcome.2)) =
      .atRest expected)

/-- More frames leave the blocks there are. -/
theorem blocks_prefix_takeFrames (reader : FrameReader) (frames : List Bytes)
    (inbox : Inbox) :
    inbox.blocks <+: (reader.takeFrames inbox frames).blocks := by
  induction frames generalizing inbox with
  | nil => exact List.prefix_refl _
  | cons frame frames ih =>
      refine List.IsPrefix.trans ?_ (ih (reader.takeFrame inbox frame))
      unfold FrameReader.takeFrame FrameReader.takeCommand
      split
      · exact List.prefix_refl _
      · split
        · split
          · exact List.prefix_refl _
          · split
            · exact List.prefix_append _ _
            · exact List.prefix_refl _
        · exact List.prefix_refl _

theorem DeliversInOrder.everyByte {Low LowReply : Type}
    {wire : History Low LowReply → Bytes} {expected : List (Bytes × U16)}
    {outcome : Except ProtoError Unit × History Low LowReply}
    (delivers : DeliversInOrder sppReader
      (fun low => sppFraming.split (wire low)) expected outcome) :
    DeliversEveryByte wire expected outcome := by
  refine ⟨fun received isPart => ?_, delivers.2⟩
  obtain ⟨rest, more⟩ := Framing.split_mono isPart
  have whole : (sppReader.inboxAfter (sppFraming.split received ++
      rest)).blocks <+: expected := by
    rw [more]
    exact delivers.1 outcome.2 (List.prefix_refl _)
  rw [inboxAfter_append] at whole
  exact (blocks_prefix_takeFrames sppReader rest _).trans whole

section Pipes

variable {Low LowReply : Type} {wire : History Low LowReply → Bytes}
  {pipe : SppPipeCall → Session Low LowReply ProtoError (Option Bytes)}

/-- A print over any pipe that writes the bytes of its frames. -/
theorem pipe_deliversEveryByte
    (writes : ∀ request, Session.Writes wire request.frame (pipe request))
    (empty : wire [] = []) (acksDataFrames : Bool) (transport : Transport)
    (blocks : List Bytes) (speed : U16)
    (short : ∀ block ∈ blocks, block.length ≤ 65535)
    (link : Device Low LowReply) :
    DeliversEveryByte wire (withSpeed (pageSpeed blocks speed) blocks)
      (Session.runOn link
        ((overSpp acksDataFrames
          (transport.printCompressed blocks speed)).interpret
            fun call => (pipe call).run)) := by
  have delivers := shows_bytes.deliversInOrder
    (pipe_writes writes acksDataFrames) empty sppReader_readsCalls transport
    blocks speed short link
  have oneLink := Script.interpret_interpret
    (fun request => (sppSend acksDataFrames request).run)
    (fun call => (pipe call).run)
    (transport.printCompressed blocks speed).run
  apply DeliversInOrder.everyByte
  rw [Session.runOn] at delivers ⊢
  exact (congrArg (fun script => DeliversInOrder sppReader
    (fun low => sppFraming.split (wire low))
    (withSpeed (pageSpeed blocks speed) blocks)
    (Script.run link script [])) oneLink).mpr delivers

end Pipes

/-- In every run of a print over RFCOMM and over BLE, however the socket takes
the bytes and wherever the link fails, the printer has at every byte the first
blocks of the page in order, and has the whole page when the print succeeds. -/
theorem printCompressed_deliversEveryByte (blocks : List Bytes) (speed : U16)
    (short : ∀ block ∈ blocks, block.length ≤ 65535) :
    (∀ link, DeliversEveryByte socketBytes
      (withSpeed (pageSpeed blocks speed) blocks)
      (Session.runOn link
        (overRfcomm (sppCodec.printCompressed blocks speed)))) ∧
    ∀ link, DeliversEveryByte gattBytes
      (withSpeed (pageSpeed blocks speed) blocks)
      (Session.runOn link
        (overBle (sppCodec.printCompressed blocks speed))) :=
  ⟨pipe_deliversEveryByte rfcommSend_writes rfl true sppCodec blocks speed short,
    pipe_deliversEveryByte bleSend_writes rfl false sppCodec blocks speed short⟩

theorem printCompressed_deliversEveryByte_two :
    let blocks := [List.replicate 700 1#8, [2#8]]
    (∀ link, DeliversEveryByte socketBytes
      (withSpeed (pageSpeed blocks 60#16) blocks)
      (Session.runOn link
        (overRfcomm (sppCodec.printCompressed blocks 60#16)))) ∧
    ∀ link, DeliversEveryByte gattBytes
      (withSpeed (pageSpeed blocks 60#16) blocks)
      (Session.runOn link
        (overBle (sppCodec.printCompressed blocks 60#16))) :=
  printCompressed_deliversEveryByte _ 60#16 fun block member => by
    rcases List.mem_pair.mp member with rfl | rfl
    · rw [List.length_replicate]
      decide
    · decide

end SupvanCups
