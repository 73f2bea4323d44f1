import SupvanCups.WireRoundTrip
import Mathlib.Data.List.Nodup

/-!
# Firmware frames

A firmware image travels raw, in the frames of print data with another marker.
Nothing but the packets themselves tells the flasher's peer where a piece
belongs, so it reads the index, the total and the payload of each packet.  Both
numbers are one byte wide: an image of more than 255 packets gets a total that
is not its number of frames.
-/

namespace SupvanCups

/-- Marker of a firmware packet, byte 1. -/
def firmwareMagic2 : U8 := 0xC7#8

/-- Put the firmware marker on a packet, outside the range of its checksum. -/
def markFirmware (pkt : Frame 506) : Frame 506 :=
  ⟨pkt.val.set 1 firmwareMagic2, by simp [pkt.property]⟩

/-- Split a raw firmware image into transfer frames. -/
def buildFirmwareFrames (firmware : Bytes) : List (Frame 512) :=
  let numPackets := packetCount firmware.length
  let pktTotal := BitVec.ofNat 8 numPackets
  (List.range numPackets).map fun index =>
    wrapDataFrame (markFirmware
      (makeDataPacket (packetChunk firmware index) (BitVec.ofNat 8 index)
        pktTotal))

/-! ### Receiving an image -/

/-- The packet inside a transfer frame. -/
def packetOf (frame : Frame 512) : Bytes :=
  frame.val.drop 6

/-- The fields of a packet. -/
def readPacket (frame : Frame 512) : DataPacket where
  index := byteOf (packetOf frame) 4
  total := byteOf (packetOf frame) 5
  payload := (packetOf frame).drop 6

/-- The packet carries the firmware marker and its checksum is that of its
bytes from 4 on. -/
def FirmwarePacketOk (frame : Frame 512) : Prop :=
  (packetOf frame).take 2 = [dataMagic1, firmwareMagic2] ∧
    wordOf (packetOf frame) 2 = byteSum ((packetOf frame).drop 4)

instance (frame : Frame 512) : Decidable (FirmwarePacketOk frame) :=
  inferInstanceAs (Decidable (_ ∧ _))

/-- Put an image together from frames that arrived in any order.  Every packet
has to be sound and to declare as many packets as there are, and every index
below that number has to be present. -/
def receiveFirmware (frames : List (Frame 512)) : Option Bytes := do
  let packets := frames.map readPacket
  guard (∀ frame ∈ frames, FirmwarePacketOk frame)
  guard (∀ packet ∈ packets, packet.total.toNat = packets.length)
  let ordered ← (List.range packets.length).mapM fun index =>
    packets.find? (·.index.toNat = index)
  some (ordered.flatMap DataPacket.payload)

/-- The frames number themselves, add up, carry the marker, hold the image with
zeros after it, and let it be rebuilt in whatever order they arrive. -/
structure FirmwareFraming (firmware : Bytes) (frames : List (Frame 512)) :
    Prop where
  count : frames.length = divCeil firmware.length 500
  indices : ∀ position : Fin frames.length,
    (readPacket (frames.get position)).index.toNat = position
  totals : ∀ frame ∈ frames, (readPacket frame).total.toNat = frames.length
  sound : ∀ frame ∈ frames, FirmwarePacketOk frame
  payloads : ∃ fill, frames.flatMap (fun frame => (readPacket frame).payload) =
    firmware ++ List.replicate fill 0#8
  distinct : (frames.map fun frame => (readPacket frame).index).Nodup
  rebuilt : ∀ received, received.Perm frames →
    ∃ fill < 500, receiveFirmware received =
      some (firmware ++ List.replicate fill 0#8)

/-! ### One frame -/

theorem packetOf_wrapDataFrame (pkt : Frame 506) :
    packetOf (wrapDataFrame pkt) = pkt.val := by
  simp [packetOf, wrapDataFrame, toLeBytes]

theorem markFirmware_makeDataPacket (dataChunk : Bytes) (index total : U8) :
    (markFirmware (makeDataPacket dataChunk index total)).val =
      [dataMagic1, firmwareMagic2] ++
        toLeBytes (byteSum (packetBody dataChunk index total)) ++
        packetBody dataChunk index total :=
  rfl

theorem firmwarePacketOk_frame (dataChunk : Bytes) (index total : U8) :
    FirmwarePacketOk (wrapDataFrame
      (markFirmware (makeDataPacket dataChunk index total))) := by
  rw [FirmwarePacketOk, packetOf_wrapDataFrame, markFirmware_makeDataPacket]
  simp [wordOf, byteOf, toLeBytes]

theorem readPacket_frame (dataChunk : Bytes) (index total : U8) :
    readPacket (wrapDataFrame
        (markFirmware (makeDataPacket dataChunk index total))) =
      ⟨index, total, padTo dataPayloadSize dataChunk⟩ := by
  rw [readPacket, packetOf_wrapDataFrame, markFirmware_makeDataPacket]
  simp [byteOf, toLeBytes, packetBody]

/-! ### All frames of an image -/

@[simp]
theorem buildFirmwareFrames_length (firmware : Bytes) :
    (buildFirmwareFrames firmware).length = packetCount firmware.length := by
  simp [buildFirmwareFrames]

theorem buildFirmwareFrames_sound (firmware : Bytes) :
    ∀ frame ∈ buildFirmwareFrames firmware, FirmwarePacketOk frame := by
  intro frame member
  obtain ⟨index, _, rfl⟩ := List.mem_map.mp member
  exact firmwarePacketOk_frame _ _ _

/-- A firmware image and a block of print data have the same packets. -/
theorem map_readPacket (firmware : Bytes) :
    (buildFirmwareFrames firmware).map readPacket = blockPackets firmware := by
  simp only [buildFirmwareFrames, blockPackets, List.map_map]
  apply List.map_congr_left
  intro index _
  rw [Function.comp_apply, readPacket_frame, packetChunk_eq, padTo_take_drop]

theorem flatMap_payload (firmware : Bytes) :
    (blockPackets firmware).flatMap DataPacket.payload =
      firmware ++ List.replicate
        (packetCount firmware.length * dataPayloadSize - firmware.length)
        0#8 := by
  have fits : firmware.length ≤
      packetCount firmware.length * dataPayloadSize :=
    le_divCeil_mul_size firmware.length (by decide)
  have cut : (blockPackets firmware).flatMap DataPacket.payload =
      window firmware 0 (packetCount firmware.length * dataPayloadSize) := by
    simp only [blockPackets, List.flatMap_map]
    exact flatMap_window firmware dataPayloadSize _
  rw [cut, ← List.take_append_drop firmware.length (window firmware 0 _),
    take_window _ _ fits, window_self]
  congr 1
  apply List.eq_replicate_iff.mpr
  exact ⟨by simp, eq_zero_of_mem_drop_window firmware _⟩

theorem fill_lt (length : Nat) :
    packetCount length * dataPayloadSize - length < 500 := by
  simp only [packetCount, divCeil, dataPayloadSize]
  omega

/-! ### Putting packets in order -/

theorem find?_eq_some_of_unique {α : Type} {xs : List α} {p : α → Bool} {x : α}
    (present : x ∈ xs) (holds : p x) (only : ∀ y ∈ xs, p y → y = x) :
    xs.find? p = some x := by
  cases found : xs.find? p with
  | none =>
      have missed := List.find?_eq_none.mp found x present
      exact absurd holds missed
  | some y =>
      rw [only y (List.mem_of_find?_eq_some found) (List.find?_some found)]

theorem mapM_eq_some_of_map_eq {α β : Type} {f : α → Option β} {xs : List α}
    {ys : List β} (reads : xs.map f = ys.map some) : xs.mapM f = some ys := by
  induction xs generalizing ys with
  | nil => simpa using reads.symm
  | cons x xs ih =>
      cases ys with
      | nil => simp at reads
      | cons y ys =>
          rw [List.map_cons, List.map_cons, List.cons.injEq] at reads
          rw [List.mapM_cons, reads.1, ih reads.2]
          rfl

/-- Looking the indices up one after the other puts packets whose indices
number them back into order. -/
theorem mapM_find?_of_perm {packets ordered : List DataPacket}
    (same : packets.Perm ordered)
    (numbered : ordered.map (·.index.toNat) = List.range ordered.length) :
    (List.range ordered.length).mapM
        (fun index => packets.find? (·.index.toNat = index)) =
      some ordered := by
  have indexOf : ∀ {index} (inside : index < ordered.length),
      ordered[index].index.toNat = index := by
    intro index inside
    have read := congrArg (·[index]?) numbered
    simpa [inside] using read
  apply mapM_eq_some_of_map_eq
  apply List.ext_getElem (by simp)
  intro index _ inRange
  have inside : index < ordered.length := by simpa using inRange
  rw [List.getElem_map, List.getElem_range, List.getElem_map]
  apply find?_eq_some_of_unique
  · exact same.mem_iff.mpr (List.getElem_mem inside)
  · simp [indexOf inside]
  · intro packet member sameIndex
    obtain ⟨other, bounded, rfl⟩ :=
      List.getElem_of_mem (same.mem_iff.mp member)
    have : other = index := by simpa [indexOf bounded] using sameIndex
    subst this
    rfl

/-- A receiver rebuilds an image of few packets from its frames in any order,
with zeros after it. -/
theorem receiveFirmware_of_perm {firmware : Bytes}
    (few : packetCount firmware.length ≤ 255) {received : List (Frame 512)}
    (same : received.Perm (buildFirmwareFrames firmware)) :
    receiveFirmware received =
      some (firmware ++ List.replicate
        (packetCount firmware.length * dataPayloadSize - firmware.length)
        0#8) := by
  have packets : (received.map readPacket).Perm (blockPackets firmware) := by
    rw [← map_readPacket]
    exact same.map readPacket
  have count : (received.map readPacket).length =
      (blockPackets firmware).length := packets.length_eq
  have total : (blockPackets firmware).length =
      packetCount firmware.length := by
    simp [blockPackets]
  have sound : ∀ frame ∈ received, FirmwarePacketOk frame := fun frame member =>
    buildFirmwareFrames_sound firmware frame (same.mem_iff.mp member)
  have totals : ∀ packet ∈ received.map readPacket,
      packet.total.toNat = (received.map readPacket).length := by
    intro packet member
    rw [count, total]
    exact blockPackets_total_of_few few packet (packets.mem_iff.mp member)
  have ordered := mapM_find?_of_perm packets
    (by rw [total]; exact blockPackets_index_of_few few)
  rw [← count] at ordered
  simp only [receiveFirmware, guard, if_pos sound, if_pos totals, ordered]
  simp [flatMap_payload]

/-! ### When the framing is unambiguous -/

theorem packetCount_le_iff (length : Nat) :
    packetCount length ≤ 255 ↔ length ≤ 127500 := by
  simp only [packetCount, divCeil, dataPayloadSize]
  omega

/-- A total that is the number of frames fits the byte that declares it. -/
theorem FirmwareFraming.few {firmware : Bytes} {frames : List (Frame 512)}
    (framing : FirmwareFraming firmware frames) : frames.length ≤ 255 := by
  cases frames with
  | nil => simp
  | cons frame rest =>
      have total := framing.totals frame (by simp)
      have bounded := (readPacket frame).total.isLt
      omega

/-- The frames of an image describe it exactly when it has at most 127,500
bytes, as many as 255 packets carry. -/
theorem firmwareFraming_iff (firmware : Bytes) :
    FirmwareFraming firmware (buildFirmwareFrames firmware) ↔
      firmware.length ≤ 127500 := by
  rw [← packetCount_le_iff]
  constructor
  · intro framing
    simpa using framing.few
  intro few
  have indices : (buildFirmwareFrames firmware).map
      (fun frame => (readPacket frame).index.toNat) =
      List.range (packetCount firmware.length) := by
    rw [← blockPackets_index_of_few few, ← map_readPacket, List.map_map]
    rfl
  exact {
    count := by simp [packetCount, dataPayloadSize]
    indices := by
      intro position
      have read := congrArg (·[position.val]?) indices
      have inside : position.val < packetCount firmware.length := by
        simpa using position.isLt
      simpa [inside] using read
    totals := by
      intro frame member
      rw [buildFirmwareFrames_length]
      apply blockPackets_total_of_few few
      rw [← map_readPacket]
      exact List.mem_map_of_mem member
    sound := buildFirmwareFrames_sound firmware
    payloads := ⟨_, by
      rw [← flatMap_payload, ← map_readPacket, List.flatMap_map]⟩
    distinct := by
      apply List.Nodup.of_map BitVec.toNat
      rw [List.map_map]
      exact indices ▸ List.nodup_range
    rebuilt := fun received same =>
      ⟨_, fill_lt firmware.length, receiveFirmware_of_perm few same⟩ }

/-- An image of 256 packets: every frame declares none. -/
theorem firmwareFraming_overflow :
    ¬ FirmwareFraming (List.replicate 127501 0x42#8)
      (buildFirmwareFrames (List.replicate 127501 0x42#8)) := by
  intro framing
  have few := framing.few
  rw [buildFirmwareFrames_length, List.length_replicate] at few
  exact absurd few (by decide)

end SupvanCups
