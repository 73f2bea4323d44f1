import SupvanCups.BlockPacking
import SupvanCups.CooperativePrinter

/-!
# The speed of a split page

The speed of a page is chosen twice: from the mean compressed size, slower for
dense pages, and then from the number of blocks, where a page of several blocks
gets one fixed speed.  That speed is meant to slow a page down, and does so but
for the densest pages, which were to print slower still.
-/

namespace SupvanCups

/-- The speed for a mean compressed size per buffer. -/
def calcSpeed (compressedSize : Nat) : U16 :=
  if 3000 < compressedSize then 10#16
  else if 2800 < compressedSize then 15#16
  else if 2500 < compressedSize then 20#16
  else if 2000 < compressedSize then 25#16
  else if 1500 < compressedSize then 40#16
  else if 1000 < compressedSize then 45#16
  else if 500 < compressedSize then 55#16
  else 60#16

theorem multiBlockSpeed_le_calcSpeed_iff (compressedSize : Nat) :
    multiBlockSpeed ≤ calcSpeed compressedSize ↔ compressedSize ≤ 2800 := by
  simp only [calcSpeed, multiBlockSpeed]
  split_ifs <;> simp only [BitVec.le_def, BitVec.toNat_ofNat] <;> omega

/-- The speed that a `BUF_FULL` sends. -/
def TransportCall.bufFullSpeed : TransportCall → Option U16
  | .sendCmdTwo cmd _ speed => if cmd = cmdBufFull then some speed else none
  | _ => none

theorem TransportCall.isTransfer_of_bufFullSpeed {request : TransportCall}
    {speed : U16} (sends : request.bufFullSpeed = some speed) :
    request.isTransfer = true := by
  cases request with
  | sendCmdTwo cmd param1 param2 =>
      rw [bufFullSpeed, Option.ite_none_right_eq_some] at sends
      simp [isTransfer, sends.1]
  | sendCmd cmd param => cases sends
  | sendBulkHeader compressedLen numPackets => cases sends
  | sendBulkData data readFinalResponse => cases sends

theorem bufFullSpeed_of_mem_blockCalls {speed sent : U16} {block : Bytes}
    {request : TransportCall}
    (member : request ∈ Transport.blockCalls speed block)
    (sends : request.bufFullSpeed = some sent) : sent = speed := by
  simp only [Transport.blockCalls, List.mem_cons, List.not_mem_nil,
    or_false] at member
  rcases member with rfl | rfl | rfl
  · cases sends
  · cases sends
  · simpa [TransportCall.bufFullSpeed, eq_comm] using sends

/-- On every printer, no block of the page goes out faster than its mean
compressed size allows. -/
def NeverSpedUp (transport : Transport) (blocks : List Bytes) (avg : Nat) :
    Prop :=
  ∀ device : PrinterDevice, ∀ event ∈ (Session.runOn device
      (transport.printCompressed blocks (calcSpeed avg))).2,
    ∀ speed, event.1.bufFullSpeed = some speed → speed ≤ calcSpeed avg

section Page

variable {transport : Transport}

/-- Whatever the printer does, every block goes out at the speed of the
page. -/
theorem bufFullSpeed_eq_pageSpeed (device : PrinterDevice)
    (blocks : List Bytes) (speed : U16) :
    ∀ event ∈ (Session.runOn device
        (transport.printCompressed blocks speed)).2,
      ∀ sent, event.1.bufFullSpeed = some sent →
        sent = Transport.pageSpeed blocks speed := by
  intro event member sent sends
  have lawful :=
    (printCompressed_printsSafely transport device blocks speed).1
  obtain ⟨before, after, split⟩ := List.append_of_mem member
  have order := (lawful before event after split).order event.2
  have inOrder : event.1 ∈ transferCalls (before ++ [(event.1, event.2)]) := by
    rw [transferCalls_concat]
    simp [TransportCall.isTransfer_of_bufFullSpeed sends]
  obtain ⟨block, _, inBlock⟩ := List.mem_flatMap.mp (order.mem inOrder)
  exact bufFullSpeed_of_mem_blockCalls inBlock sends

/-- On a printer that cooperates, the speed of a page with blocks is sent. -/
theorem exists_bufFullSpeed (printer : CooperativePrinter transport)
    {blocks : List Bytes} (nonempty : blocks ≠ []) (speed : U16) :
    ∃ event ∈ (Session.runOn printer.device
        (transport.printCompressed blocks speed)).2,
      event.1.bufFullSpeed = some (Transport.pageSpeed blocks speed) := by
  obtain ⟨_, later, run, _⟩ := printer.printCompressed_succeeds blocks speed
  have complete := (printCompressed_printsSafely transport printer.device
    blocks speed).2 (congrArg Prod.fst run)
  obtain ⟨block, blocks, rfl⟩ := List.exists_cons_of_ne_nil nonempty
  have sent : TransportCall.sendCmdTwo cmdBufFull
      (BitVec.ofNat 16 block.length)
      (Transport.pageSpeed (block :: blocks) speed) ∈
        transferCalls (Session.runOn printer.device
          (transport.printCompressed (block :: blocks) speed)).2 := by
    rw [complete.sent]
    simp [Transport.blockCalls]
  obtain ⟨event, member, same⟩ :=
    List.mem_map.mp (List.mem_filter.mp sent).1
  exact ⟨event, member, by rw [same]; rfl⟩

/-- A page that is never sped up, on a link with a printer that cooperates, is
one block or not among the densest. -/
theorem NeverSpedUp.oneBlock_or {blocks : List Bytes} {avg : Nat}
    (never : NeverSpedUp transport blocks avg)
    (printer : CooperativePrinter transport) :
    blocks.length ≤ 1 ∨ avg ≤ 2800 := by
  rw [or_iff_not_imp_left, ← multiBlockSpeed_le_calcSpeed_iff]
  intro several
  have nonempty : blocks ≠ [] := by
    rintro rfl
    exact several (by simp)
  obtain ⟨event, member, sends⟩ :=
    exists_bufFullSpeed printer nonempty (calcSpeed avg)
  have limited := never printer.device event member _ sends
  rwa [Transport.pageSpeed, if_pos (by omega)] at limited

theorem neverSpedUp_of_oneBlock_or {blocks : List Bytes} {avg : Nat}
    (slow : blocks.length ≤ 1 ∨ avg ≤ 2800) :
    NeverSpedUp transport blocks avg := by
  intro device event member speed sends
  rw [bufFullSpeed_eq_pageSpeed device blocks _ event member speed sends,
    Transport.pageSpeed]
  split_ifs with several
  · rw [multiBlockSpeed_le_calcSpeed_iff]
    omega
  · exact BitVec.le_refl _

end Page

/-- Compressing the buffers of a page ends, and splitting the page never speeds
it up, over either kind of link, exactly when it is one block or its buffers
compress to at most 2800 bytes on average. -/
theorem compressBuffers_neverSpedUp_iff (encoder : Codec)
    (buffers : List PrintBuffer) :
    ∃ outcome, compressBuffers encoder buffers = some outcome ∧
      ∀ blocks avg, outcome = .ok (blocks, avg) →
        (NeverSpedUp sppCodec blocks avg ↔
            blocks.length ≤ 1 ∨ avg ≤ 2800) ∧
          (NeverSpedUp usbHidTransport blocks avg ↔
            blocks.length ≤ 1 ∨ avg ≤ 2800) := by
  obtain ⟨outcome, packs⟩ := compressBuffers_ends encoder buffers
  refine ⟨outcome, packs, ?_⟩
  intro blocks avg _
  exact ⟨⟨fun never => never.oneBlock_or .overSpp,
      neverSpedUp_of_oneBlock_or⟩,
    fun never => never.oneBlock_or .overUsb, neverSpedUp_of_oneBlock_or⟩

/-- An encoder that only adds a stream header. -/
def storingEncoder : Codec := fun data =>
  .ok (List.replicate 13 0#8 ++ data)

/-- The block that a group of buffers becomes. -/
def storedBlock (group : List PrintBuffer) : Bytes :=
  List.replicate 5 0#8 ++ toLeBytes64 (concatBuffers group).length ++
    concatBuffers group

theorem packGroup_storingEncoder (group : List PrintBuffer) :
    packGroup storingEncoder group = .ok (storedBlock group) := by
  have encoded : storingEncoder (concatBuffers group) =
      .ok (List.replicate 13 0#8 ++ concatBuffers group) := rfl
  rw [packGroup, compressLzma_of_encoded encoded (by simp)]
  simp [storedBlock]

theorem storedBlock_length (group : List PrintBuffer) :
    (storedBlock group).length = 13 + group.length * 4096 := by
  simp [storedBlock, toLeBytes64, concatBuffers_length, printBufSize]
  omega

/-- Storing never fails. -/
theorem compressBuffers_storingEncoder {buffers : List PrintBuffer}
    (nonempty : buffers ≠ []) :
    ∃ blocks avg, compressBuffers storingEncoder buffers =
      some (.ok (blocks, avg)) := by
  have notEmpty : buffers.isEmpty = false := by simpa using nonempty
  rw [compressBuffers, notEmpty]
  rcases packBlocks_spec storingEncoder buffers (buffers.length + 1) 0 []
      (by omega) with ⟨blocks, packs, -⟩ | ⟨error, -, fails⟩
  · exact ⟨_, _, by rw [packs]; rfl⟩
  · exfalso
    generalize buffers.drop 0 = rest at fails
    induction fails with
    | here _ failed =>
        rw [packGroup_storingEncoder] at failed
        cases failed
    | later _ _ ih => exact ih

/-- Two buffers that do not compress make two blocks, which go out at speed 20
where 10 was asked for. -/
theorem compressBuffers_speedsUp :
    ∃ blocks avg,
      compressBuffers storingEncoder [blankBuffer, blankBuffer] =
        some (.ok (blocks, avg)) ∧
      ¬ NeverSpedUp sppCodec blocks avg := by
  refine ⟨[storedBlock [blankBuffer], storedBlock [blankBuffer]], 4109, ?_,
    fun never => ?_⟩
  · simp [compressBuffers, packBlocks, bufferMaxCount, shrinkGroup,
      packGroup_storingEncoder, fitsReceiveBuffer, storedBlock_length,
      maxCompressedBlock, printBufSize, Except.map]
  · have slow := never.oneBlock_or .overSpp
    exact absurd slow (by simp)

end SupvanCups
