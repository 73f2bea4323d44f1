import SupvanCups.GreedyPacking
import SupvanCups.PrintBuffer
import SupvanCups.Transport
import Mathlib.Data.List.Nodup

/-!
# Packing print buffers into compressed blocks

One block per transfer: up to four buffers are compressed together, fewer when
the result would overrun the printer's receive buffer.  The encoder and the
decoder are parameters; nothing is assumed of compressed sizes.
-/

namespace SupvanCups

def maxCompressedBlock : Nat := printBufSize

def bufferMaxCount : Nat := 4

/-- An LZMA encoder or decoder. -/
abbrev Codec := Bytes → Except ProtoError Bytes

def toLeBytes64 (value : Nat) : Bytes :=
  (List.range 8).map fun i => BitVec.ofNat 8 (value / 256 ^ i)

/-- Compress, and put the uncompressed size into the stream header. -/
def compressLzma (encoder : Codec) (data : Bytes) : Except ProtoError Bytes := do
  let compressed ← encoder data
  if 13 ≤ compressed.length then
    return compressed.take 5 ++ toLeBytes64 data.length ++ compressed.drop 13
  else
    return compressed

/-- Put the unknown-size mark back into the stream header, and decompress. -/
def decompressLzma (decoder : Codec) (data : Bytes) : Except ProtoError Bytes :=
  if data.length < 13 then
    .error (.compression
      ("lzma stream too short: " ++ toString data.length ++ " bytes"))
  else
    decoder (data.take 5 ++ List.replicate 8 0xFF#8 ++ data.drop 13)

/-- `[[u8]]::concat` of a group of buffers. -/
def concatBuffers (group : List PrintBuffer) : Bytes :=
  group.flatMap PrintBuffer.bytes

theorem concatBuffers_length (group : List PrintBuffer) :
    (concatBuffers group).length = group.length * printBufSize := by
  induction group with
  | nil => rfl
  | cons buffer group ih =>
      have whole := buffer.length_eq
      rw [concatBuffers] at ih
      rw [concatBuffers, List.flatMap_cons, List.length_append, ih, whole,
        List.length_cons, Nat.succ_mul, Nat.add_comm]

def packGroup (encoder : Codec) (group : List PrintBuffer) :
    Except ProtoError Bytes :=
  compressLzma encoder (concatBuffers group)

def fitsReceiveBuffer (block : Bytes) : Bool :=
  block.length ≤ maxCompressedBlock

/-- The `loop` that shrinks a group until it fits.  `none` means that it needs
more than the given number of passes. -/
def shrinkGroup (encoder : Codec) (rest : List PrintBuffer) :
    Nat → Nat → Option (Except ProtoError (Bytes × Nat))
  | 0, _ => none
  | passes + 1, take =>
      match packGroup encoder (rest.take take) with
      | .error error => some (.error error)
      | .ok z =>
          if fitsReceiveBuffer z then some (.ok (z, take))
          else if take = 1 then some (.ok (z, take))
          else shrinkGroup encoder rest passes (take - 1)

/-- The `while next < buffers.len()` loop. -/
def packBlocks (encoder : Codec) (buffers : List PrintBuffer) :
    Nat → Nat → List Bytes → Option (Except ProtoError (List Bytes))
  | 0, _, _ => none
  | passes + 1, next, blocks =>
      if next < buffers.length then
        let take := min bufferMaxCount (buffers.length - next)
        match shrinkGroup encoder (buffers.drop next) bufferMaxCount take with
        | none => none
        | some (.error error) => some (.error error)
        | some (.ok (block, take)) =>
            packBlocks encoder buffers passes (next + take) (blocks ++ [block])
      else
        some (.ok blocks)

/-- Split print buffers into compressed blocks, and give the mean compressed
size per buffer.  Every pass of the outer loop takes a buffer, so it gets one
pass more than there are buffers. -/
def compressBuffers (encoder : Codec) (buffers : List PrintBuffer) :
    Option (Except ProtoError (List Bytes × Nat)) :=
  if buffers.isEmpty then
    some (.error (.invalidParam "no buffers to compress"))
  else
    (packBlocks encoder buffers (buffers.length + 1) 0 []).map fun packed =>
      packed.map fun blocks =>
        (blocks, (blocks.map List.length).sum / buffers.length)

/-! ### The loops pack greedily -/

open GreedyPacking

theorem tried_pred {encoder : Codec} {rest : List PrintBuffer} {take : Nat}
    {z : Bytes}
    (tried : Tried (packGroup encoder) fitsReceiveBuffer bufferMaxCount rest take)
    (packed : packGroup encoder (rest.take take) = .ok z)
    (large : fitsReceiveBuffer z = false) (notSingle : take ≠ 1) :
    Tried (packGroup encoder) fitsReceiveBuffer bufferMaxCount rest
      (take - 1) where
  positive := by
    have := tried.positive
    omega
  bounded := (Nat.sub_le _ _).trans tried.bounded
  larger := by
    intro more smaller bounded
    rcases Nat.eq_or_lt_of_le (by omega : take ≤ more) with rfl | beyond
    · exact ⟨z, packed, large⟩
    · exact tried.larger more beyond bounded

/-- The inner loop ends, with an accepted group or with the error of a group it
tried. -/
theorem shrinkGroup_spec (encoder : Codec) (rest : List PrintBuffer)
    (passes : Nat) {take : Nat} (enough : take ≤ passes)
    (tried : Tried (packGroup encoder) fitsReceiveBuffer bufferMaxCount rest
      take) :
    (∃ block count, shrinkGroup encoder rest passes take =
        some (.ok (block, count)) ∧
      Accepted (packGroup encoder) fitsReceiveBuffer bufferMaxCount rest count
        block) ∨
    ∃ error, shrinkGroup encoder rest passes take = some (.error error) ∧
      Fails (packGroup encoder) fitsReceiveBuffer bufferMaxCount rest error := by
  induction passes generalizing take with
  | zero =>
      have := tried.positive
      omega
  | succ passes ih =>
      unfold shrinkGroup
      cases packed : packGroup encoder (rest.take take) with
      | error error => exact .inr ⟨error, rfl, .here tried packed⟩
      | ok z =>
          cases large : fitsReceiveBuffer z with
          | true =>
              exact .inl ⟨z, take, by simp [large],
                { toTried := tried, packed := packed, small := .inl large }⟩
          | false =>
              by_cases single : take = 1
              · exact .inl ⟨z, take, by simp [large, single],
                  { toTried := tried, packed := packed, small := .inr single }⟩
              · simp only [large, Bool.false_eq_true, if_false, single]
                exact ih (by omega) (tried_pred tried packed large single)

/-- The outer loop ends, with blocks that cover the remaining buffers or with
the error of a group that was tried. -/
theorem packBlocks_spec (encoder : Codec) (buffers : List PrintBuffer)
    (passes next : Nat) (blocks : List Bytes)
    (enough : buffers.length - next < passes) :
    (∃ more, packBlocks encoder buffers passes next blocks =
        some (.ok (blocks ++ more)) ∧
      Packed (packGroup encoder) fitsReceiveBuffer bufferMaxCount
        (buffers.drop next) more) ∨
    ∃ error, packBlocks encoder buffers passes next blocks =
        some (.error error) ∧
      Fails (packGroup encoder) fitsReceiveBuffer bufferMaxCount
        (buffers.drop next) error := by
  induction passes generalizing next blocks with
  | zero => omega
  | succ passes ih =>
      unfold packBlocks
      by_cases left : next < buffers.length
      · rw [if_pos left]
        have tried : Tried (packGroup encoder) fitsReceiveBuffer bufferMaxCount
            (buffers.drop next) (min bufferMaxCount (buffers.length - next)) :=
          { positive := by simp [bufferMaxCount]; omega
            bounded := by simp
            larger := by
              intro more larger bounded
              rw [List.length_drop] at bounded
              omega }
        rcases shrinkGroup_spec encoder (buffers.drop next) bufferMaxCount
            (Nat.min_le_left _ _) tried with
          ⟨block, count, shrunk, accepted⟩ | ⟨error, shrunk, fails⟩
        · simp only [shrunk]
          have positive := accepted.positive
          rcases ih (next + count) (blocks ++ [block]) (by omega) with
            ⟨more, packs, packed⟩ | ⟨error, stops, fails⟩
          · rw [← List.drop_drop] at packed
            exact .inl ⟨block :: more, by simpa using packs,
              .cons accepted packed⟩
          · rw [← List.drop_drop] at fails
            exact .inr ⟨error, stops, .later accepted fails⟩
        · exact .inr ⟨error, by simp only [shrunk], fails⟩
      · rw [if_neg left, List.drop_of_length_le (by omega)]
        exact .inl ⟨[], by simp, .nil⟩

/-- Compressing a list of buffers always ends. -/
theorem compressBuffers_ends (encoder : Codec) (buffers : List PrintBuffer) :
    ∃ outcome, compressBuffers encoder buffers = some outcome := by
  unfold compressBuffers
  split
  · exact ⟨_, rfl⟩
  · rcases packBlocks_spec encoder buffers (buffers.length + 1) 0 [] (by omega)
      with ⟨blocks, packs, _⟩ | ⟨error, stops, _⟩
    · exact ⟨_, by rw [packs]; rfl⟩
    · exact ⟨_, by rw [stops]; rfl⟩

/-- Up to four buffers that fit together are one block. -/
theorem compressBuffers_fitting {encoder : Codec} {buffers : List PrintBuffer}
    {block : Bytes} (nonempty : buffers ≠ [])
    (few : buffers.length ≤ bufferMaxCount)
    (packs : packGroup encoder buffers = .ok block)
    (fits : block.length ≤ maxCompressedBlock) :
    compressBuffers encoder buffers =
      some (.ok ([block], block.length / buffers.length)) := by
  have all : min bufferMaxCount (buffers.length - 0) = buffers.length := by
    omega
  have shrunk : shrinkGroup encoder (buffers.drop 0) bufferMaxCount
      buffers.length = some (.ok (block, buffers.length)) := by
    simp [shrinkGroup, bufferMaxCount, packs, fitsReceiveBuffer, fits]
  obtain ⟨last, count⟩ : ∃ last, buffers.length = last + 1 :=
    ⟨buffers.length - 1, by
      have := List.length_pos_iff.mpr nonempty
      omega⟩
  have packed : packBlocks encoder buffers (buffers.length + 1) 0 [] =
      some (.ok [block]) := by
    rw [packBlocks, if_pos (List.length_pos_iff.mpr nonempty), all]
    simp only [shrunk]
    rw [count, packBlocks, count]
    simp
  simp [compressBuffers, nonempty, packed, Except.map]

/-- What the caller of `compress_buffers` can rely on. -/
structure PacksBuffers (encoder decoder : Codec) (buffers : List PrintBuffer)
    (outcome : Except ProtoError (List Bytes × Nat)) : Prop where
  /-- The blocks decompress to the buffers, in order. -/
  lossless : ∀ blocks avg, outcome = .ok (blocks, avg) →
    (blocks.mapM (decompressLzma decoder)).map List.flatten =
      .ok (concatBuffers buffers)
  /-- Each block is the largest group of one to four buffers that fits, or a
  single buffer. -/
  packed : ∀ blocks avg, outcome = .ok (blocks, avg) →
    Packed (packGroup encoder) fitsReceiveBuffer bufferMaxCount buffers blocks
  /-- An error is the outcome exactly when a group that is tried fails. -/
  failed : (∃ error, outcome = .error error) ↔
    ∃ error, Fails (packGroup encoder) fitsReceiveBuffer bufferMaxCount buffers
      error

/-- Packing always ends, and does so losslessly and with blocks as large as
possible, or with an error if a group fails to compress. -/
theorem compressBuffers_packsBuffers (encoder decoder : Codec)
    (inverts : ∀ data block, compressLzma encoder data = .ok block →
      decompressLzma decoder block = .ok data)
    (buffers : List PrintBuffer) (nonempty : buffers ≠ []) :
    ∃ outcome, compressBuffers encoder buffers = some outcome ∧
      PacksBuffers encoder decoder buffers outcome := by
  have notEmpty : buffers.isEmpty = false := by simpa using nonempty
  simp only [compressBuffers, notEmpty, Bool.false_eq_true, if_false]
  rcases packBlocks_spec encoder buffers (buffers.length + 1) 0 [] (by omega)
    with ⟨blocks, packs, packed⟩ | ⟨error, stops, fails⟩
  · rw [List.drop_zero] at packed
    rw [packs]
    refine ⟨_, rfl, ?_, ?_, ?_⟩
    · rintro _ _ ⟨⟩
      exact packed.unpack_eq fun group block =>
        inverts (concatBuffers group) block
    · rintro _ _ ⟨⟩
      exact packed
    · constructor
      · rintro ⟨error, ⟨⟩⟩
      · rintro ⟨error, fails⟩
        exact absurd fails packed.not_fails
  · rw [List.drop_zero] at fails
    rw [stops]
    refine ⟨_, rfl, ?_, ?_, ⟨fun _ => ⟨error, fails⟩, fun _ => ⟨error, rfl⟩⟩⟩
    · rintro _ _ ⟨⟩
    · rintro _ _ ⟨⟩

/-! ### A codec that knows some streams -/

theorem compressLzma_of_encoded {encoder : Codec} {data compressed : Bytes}
    (encoded : encoder data = .ok compressed) (long : 13 ≤ compressed.length) :
    compressLzma encoder data =
      .ok (compressed.take 5 ++ toLeBytes64 data.length ++
        compressed.drop 13) := by
  rw [compressLzma, encoded]
  exact if_pos long

/-- How every stream of the LZMA encoder starts: its parameters, and the mark
of an unknown size. -/
def aloneHeader : Bytes :=
  [0x5D#8, 0x00#8, 0x20#8, 0x00#8, 0x00#8] ++ List.replicate 8 0xFF#8

/-- A stream that names the size of its data. -/
def streamBlock (size : Nat) (payload : Bytes) : Bytes :=
  aloneHeader.take 5 ++ toLeBytes64 size ++ payload

/-- Data, each with what follows the header in its LZMA stream. -/
structure KnownStreams where
  entries : List (Bytes × Bytes)
  apart : (entries.map Prod.snd).Nodup

namespace KnownStreams

variable (known : KnownStreams)

/-- Gives the streams that are known, and stores everything else. -/
def encoder : Codec := fun data =>
  match known.entries.find? fun entry => entry.1 = data with
  | some entry => .ok (aloneHeader ++ entry.2)
  | none => .ok (List.replicate 5 0x00#8 ++ List.replicate 8 0xFF#8 ++ data)

def decoder : Codec := fun stream =>
  match known.entries.find? fun entry => aloneHeader ++ entry.2 = stream with
  | some entry => .ok entry.1
  | none => .ok (stream.drop 13)

variable {known}

theorem compressLzma_known {entry : Bytes × Bytes} {data : Bytes}
    (found : known.entries.find? (fun entry => entry.1 = data) = some entry) :
    compressLzma known.encoder data =
      .ok (streamBlock data.length entry.2) := by
  have encoded : known.encoder data = .ok (aloneHeader ++ entry.2) := by
    rw [encoder, found]
  rw [compressLzma_of_encoded encoded (by simp [aloneHeader])]
  simp [streamBlock, aloneHeader]

theorem compressLzma_unknown {data : Bytes}
    (unknown : known.entries.find? (fun entry => entry.1 = data) = none) :
    compressLzma known.encoder data =
      .ok (List.replicate 5 0x00#8 ++ toLeBytes64 data.length ++ data) := by
  have encoded : known.encoder data = .ok (List.replicate 5 0x00#8 ++
      List.replicate 8 0xFF#8 ++ data) := by
    rw [encoder, unknown]
  rw [compressLzma_of_encoded encoded (by simp)]
  simp

/-- A stream belongs to one entry. -/
theorem decoder_known {entry : Bytes × Bytes}
    (member : entry ∈ known.entries) :
    known.decoder (aloneHeader ++ entry.2) = .ok entry.1 := by
  cases found : known.entries.find? fun other =>
      aloneHeader ++ other.2 = aloneHeader ++ entry.2 with
  | none =>
      rw [List.find?_eq_none] at found
      exact absurd (decide_eq_true rfl) (found entry member)
  | some other =>
      have same : aloneHeader ++ other.2 = aloneHeader ++ entry.2 := by
        simpa using List.find?_some found
      obtain rfl : other = entry :=
        List.inj_on_of_nodup_map known.apart (List.mem_of_find?_eq_some found)
          member (List.append_cancel_left same)
      rw [decoder, found]

/-- What is stored starts with other parameters than a stream. -/
theorem decoder_stored (data : Bytes) :
    known.decoder (List.replicate 5 0x00#8 ++ List.replicate 8 0xFF#8 ++
      data) = .ok data := by
  have unknown : known.entries.find? (fun entry => aloneHeader ++ entry.2 =
      List.replicate 5 0x00#8 ++ List.replicate 8 0xFF#8 ++ data) = none := by
    rw [List.find?_eq_none]
    intro entry _ same
    have first := congrArg List.head? (of_decide_eq_true same)
    simp [aloneHeader] at first
  rw [decoder, unknown]
  simp

theorem inverts (data block : Bytes)
    (compressed : compressLzma known.encoder data = .ok block) :
    decompressLzma known.decoder block = .ok data := by
  cases found : known.entries.find? fun entry => entry.1 = data with
  | some entry =>
      obtain rfl : entry.1 = data := by
        simpa using List.find?_some found
      rw [compressLzma_known found, Except.ok.injEq] at compressed
      subst compressed
      rw [← decoder_known (List.mem_of_find?_eq_some found)]
      simp [decompressLzma, streamBlock, toLeBytes64, aloneHeader]
  | none =>
      rw [compressLzma_unknown found, Except.ok.injEq] at compressed
      subst compressed
      have read : known.decoder _ = .ok data := decoder_stored data
      rw [← read]
      simp [decompressLzma, toLeBytes64]

/-- A lone buffer stays below the largest 16-bit length. -/
theorem expands (short : ∀ entry ∈ known.entries, entry.2.length ≤ 4096)
    (buffer : PrintBuffer) (block : Bytes)
    (compressed : compressLzma known.encoder buffer.bytes = .ok block) :
    block.length ≤ 65535 := by
  cases found : known.entries.find? fun entry => entry.1 = buffer.bytes with
  | some entry =>
      have few := short entry (List.mem_of_find?_eq_some found)
      rw [compressLzma_known found, Except.ok.injEq] at compressed
      subst compressed
      simp [streamBlock, toLeBytes64, aloneHeader]
      omega
  | none =>
      rw [compressLzma_unknown found, Except.ok.injEq] at compressed
      subst compressed
      simp [toLeBytes64, buffer.length_eq, printBufSize]

end KnownStreams

def blankBuffer : PrintBuffer :=
  ⟨List.replicate printBufSize 0#8, by simp⟩

/-! The LZMA streams of one, two and four empty buffers, after the header. -/

def oneBlank : Bytes :=
  [0x00#8, 0x00#8, 0x6F#8, 0xFD#8, 0xFF#8, 0xFF#8, 0xA3#8, 0xB7#8, 0xFF#8,
    0x47#8, 0x3E#8, 0x48#8, 0x15#8, 0x72#8, 0x39#8, 0x61#8, 0x51#8, 0xB8#8,
    0x92#8, 0x28#8, 0xE6#8, 0xA3#8, 0x85#8, 0x5E#8, 0x0E#8, 0x82#8, 0xFF#8,
    0xFF#8, 0xB5#8, 0x30#8, 0x00#8, 0x00#8]

def twoBlanks : Bytes :=
  [0x00#8, 0x00#8, 0x6F#8, 0xFD#8, 0xFF#8, 0xFF#8, 0xA3#8, 0xB7#8, 0xFF#8,
    0x47#8, 0x3E#8, 0x48#8, 0x15#8, 0x72#8, 0x39#8, 0x61#8, 0x51#8, 0xB8#8,
    0x92#8, 0x28#8, 0xE6#8, 0xA3#8, 0x86#8, 0x07#8, 0xF9#8, 0xEE#8, 0xE4#8,
    0x1E#8, 0x82#8, 0xD3#8, 0x2F#8, 0xC5#8, 0x3A#8, 0x3C#8, 0x01#8, 0x45#8,
    0x9A#8, 0x45#8, 0x98#8, 0xBF#8, 0xFF#8, 0xFF#8, 0x51#8, 0xE4#8, 0x00#8,
    0x00#8]

def fourBlanks : Bytes :=
  [0x00#8, 0x00#8, 0x6F#8, 0xFD#8, 0xFF#8, 0xFF#8, 0xA3#8, 0xB7#8, 0xFF#8,
    0x47#8, 0x3E#8, 0x48#8, 0x15#8, 0x72#8, 0x39#8, 0x61#8, 0x51#8, 0xB8#8,
    0x92#8, 0x28#8, 0xE6#8, 0xA3#8, 0x86#8, 0x07#8, 0xF9#8, 0xEE#8, 0xE4#8,
    0x1E#8, 0x82#8, 0xD3#8, 0x2F#8, 0xC5#8, 0x3A#8, 0x3C#8, 0x01#8, 0x4B#8,
    0xB1#8, 0x7E#8, 0xC9#8, 0x8A#8, 0x8A#8, 0x4D#8, 0x2F#8, 0xA3#8, 0x0D#8,
    0xD9#8, 0x7F#8, 0xA6#8, 0xE3#8, 0x8B#8, 0x49#8, 0x11#8, 0x75#8, 0x5F#8,
    0xFF#8, 0xFF#8, 0xDE#8, 0x9D#8, 0x00#8, 0x00#8]

def blankPayloads : List (Nat × Bytes) :=
  [(1, oneBlank), (2, twoBlanks), (4, fourBlanks)]

def blankEntries : List (Bytes × Bytes) :=
  blankPayloads.map fun blank =>
    (concatBuffers (List.replicate blank.1 blankBuffer), blank.2)

theorem blankEntries_apart : (blankEntries.map Prod.snd).Nodup := by
  simp [blankEntries, blankPayloads, oneBlank, twoBlanks, fourBlanks]

def blankStreams : KnownStreams :=
  ⟨blankEntries, blankEntries_apart⟩

theorem concatBuffers_blank_inj {first second : Nat} :
    concatBuffers (List.replicate first blankBuffer) =
      concatBuffers (List.replicate second blankBuffer) ↔ first = second := by
  constructor
  · intro same
    have lengths := congrArg List.length same
    rw [concatBuffers_length, concatBuffers_length, List.length_replicate,
      List.length_replicate, printBufSize] at lengths
    omega
  · exact congrArg fun count => concatBuffers (List.replicate count blankBuffer)

/-- The block that a group of empty buffers becomes. -/
def blankBlock (count : Nat) (payload : Bytes) : Bytes :=
  streamBlock (count * printBufSize) payload

theorem packGroup_blank {count : Nat} {payload : Bytes}
    (found : blankPayloads.find? (fun blank => blank.1 = count) =
      some (count, payload)) :
    packGroup blankStreams.encoder (List.replicate count blankBuffer) =
      .ok (blankBlock count payload) := by
  have entry : blankStreams.entries.find? (fun entry =>
      entry.1 = concatBuffers (List.replicate count blankBuffer)) =
        some (concatBuffers (List.replicate count blankBuffer), payload) := by
    simp only [blankStreams, blankEntries, List.find?_map, Function.comp_def,
      concatBuffers_blank_inj, found, Option.map_some]
  rw [packGroup, KnownStreams.compressLzma_known entry, concatBuffers_length,
    List.length_replicate, blankBlock]

/-- Of five equal buffers, four and one that fit make two blocks. -/
theorem compressBuffers_five {encoder : Codec} {buffer : PrintBuffer}
    {four one : Bytes}
    (packsFour : packGroup encoder (List.replicate 4 buffer) = .ok four)
    (packsOne : packGroup encoder (List.replicate 1 buffer) = .ok one)
    (fourFits : four.length ≤ maxCompressedBlock)
    (oneFits : one.length ≤ maxCompressedBlock) :
    compressBuffers encoder (List.replicate 5 buffer) =
      some (.ok ([four, one], (four.length + one.length) / 5)) := by
  simp only [List.replicate] at packsFour packsOne
  simp [compressBuffers, packBlocks, shrinkGroup, bufferMaxCount, packsFour,
    packsOne, fitsReceiveBuffer, fourFits, oneFits, Except.map]

/-- Of five empty buffers four go into one block. -/
theorem compressBuffers_packsBuffers_blank :
    let outcome := .ok ([blankBlock 4 fourBlanks, blankBlock 1 oneBlank], 23)
    compressBuffers blankStreams.encoder (List.replicate 5 blankBuffer) =
        some outcome ∧
      PacksBuffers blankStreams.encoder blankStreams.decoder
        (List.replicate 5 blankBuffer) outcome := by
  have blocks := compressBuffers_five (packGroup_blank rfl)
    (packGroup_blank rfl) (by decide : (blankBlock 4 fourBlanks).length ≤ _)
    (by decide : (blankBlock 1 oneBlank).length ≤ _)
  obtain ⟨outcome, packs, holds⟩ := compressBuffers_packsBuffers
    blankStreams.encoder blankStreams.decoder KnownStreams.inverts
    (List.replicate 5 blankBuffer) (by simp)
  rw [blocks, Option.some.injEq] at packs
  subst packs
  exact ⟨blocks, holds⟩

end SupvanCups
