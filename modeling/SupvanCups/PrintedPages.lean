import SupvanCups.BlockPacking
import SupvanCups.PrinterInbox
import SupvanCups.ShortLabels

/-!
# From print buffers to the printer's own buffers

A printer decompresses the blocks it has rebuilt and cuts the stream into
buffers of 4096 bytes.  Whatever the pages, the compressor and the link, the
buffers it has at any moment of a print are the first of those the page was
split into, and all of them once the print has succeeded.
-/

namespace SupvanCups

open GreedyPacking
open Transport (pageSpeed)

/-! ### The printer's side -/

/-- Cut a stream on buffer boundaries. -/
def cutBuffers (stream : Bytes) : List PrintBuffer :=
  (List.range (divCeil stream.length printBufSize)).map fun index =>
    ⟨window stream (index * printBufSize) printBufSize, window_length _ _ _⟩

/-- What a printer has to print once it has rebuilt some blocks. -/
def printedBuffers (decoder : Codec) (blocks : List (Bytes × U16)) :
    Except ProtoError (List PrintBuffer) :=
  ((blocks.map Prod.fst).mapM (decompressLzma decoder)).map fun parts =>
    cutBuffers parts.flatten

/-- In pieces of one size put together, each piece is where its number says. -/
theorem window_flatMap_bytes (buffers : List PrintBuffer) {index : Nat}
    (bound : index < buffers.length) :
    window (concatBuffers buffers) (index * printBufSize) printBufSize =
      buffers[index].bytes := by
  induction buffers generalizing index with
  | nil => cases bound
  | cons buffer buffers ih =>
      have size := buffer.length_eq
      have split : concatBuffers (buffer :: buffers) =
          buffer.bytes ++ concatBuffers buffers :=
        List.flatMap_cons
      rw [split]
      cases index with
      | zero =>
          rw [Nat.zero_mul, ← take_window _ _ (le_refl printBufSize)]
          have first := take_window (buffer.bytes ++ concatBuffers buffers) 0
            (Nat.le_add_right printBufSize (concatBuffers buffers).length)
          have all := window_self (buffer.bytes ++ concatBuffers buffers)
          rw [List.length_append, size] at all
          rw [take_window _ _ (le_refl printBufSize), ← first, all,
            List.take_left' size]
          rfl
      | succ index =>
          rw [← padTo_take_drop, Nat.succ_mul, Nat.add_comm, ← List.drop_drop,
            List.drop_left' size, padTo_take_drop]
          exact ih (Nat.lt_of_succ_lt_succ bound)

/-- Buffers put together and cut apart again are the same buffers. -/
theorem cutBuffers_concatBuffers (buffers : List PrintBuffer) :
    cutBuffers (concatBuffers buffers) = buffers := by
  have count : divCeil (concatBuffers buffers).length printBufSize =
      buffers.length := by
    rw [concatBuffers_length, divCeil]
    simp only [printBufSize]
    omega
  apply List.ext_getElem (by simp [cutBuffers, count])
  intro index cutBound bound
  have place := window_flatMap_bytes buffers bound
  simp only [cutBuffers, List.getElem_map, List.getElem_range]
  cases found : buffers[index]
  simp [place, found]

/-! ### A whole print -/

/-- What the blocks decompress to, in order. -/
def printedStream (decoder : Codec) (blocks : List Bytes) :
    Except ProtoError Bytes :=
  (blocks.mapM (decompressLzma decoder)).map List.flatten

theorem printedBuffers_of_stream {decoder : Codec}
    {received : List (Bytes × U16)} {buffers : List PrintBuffer}
    (stream : printedStream decoder (received.map Prod.fst) =
      .ok (concatBuffers buffers)) :
    printedBuffers decoder received = .ok buffers := by
  rw [printedStream] at stream
  rw [printedBuffers]
  cases pieces : (received.map Prod.fst).mapM (decompressLzma decoder) with
  | error error =>
      rw [pieces] at stream
      cases stream
  | ok parts =>
      rw [pieces] at stream
      exact congrArg Except.ok ((congrArg cutBuffers
        (Except.ok.inj stream)).trans (cutBuffers_concatBuffers buffers))

@[simp]
theorem withSpeed_bytes (speed : U16) (blocks : List Bytes) :
    (withSpeed speed blocks).map Prod.fst = blocks := by
  simp [withSpeed, Function.comp_def]

/-- The first blocks of a page give the printer its first buffers, and all
blocks all of them. -/
theorem printedStream_of_packed {encoder decoder : Codec}
    (inverts : ∀ data block, compressLzma encoder data = .ok block →
      decompressLzma decoder block = .ok data)
    {buffers : List PrintBuffer} {blocks : List Bytes}
    (packed : Packed (packGroup encoder) fitsReceiveBuffer bufferMaxCount
      buffers blocks) :
    (∀ first, first <+: blocks → ∃ count, printedStream decoder first =
      .ok (concatBuffers (buffers.take count))) ∧
    printedStream decoder blocks = .ok (concatBuffers buffers) := by
  have unpacks (group : List PrintBuffer) (block : Bytes)
      (packs : packGroup encoder group = .ok block) :
      decompressLzma decoder block = .ok (group.flatMap PrintBuffer.bytes) :=
    inverts _ _ packs
  exact ⟨fun first isFirst => packed.unpack_prefix isFirst unpacks,
    packed.unpack_eq unpacks⟩

theorem packed_of_compressBuffers {encoder : Codec}
    {buffers : List PrintBuffer} {blocks : List Bytes} {avg : Nat}
    (compressed : compressBuffers encoder buffers = some (.ok (blocks, avg))) :
    Packed (packGroup encoder) fitsReceiveBuffer bufferMaxCount buffers
      blocks := by
  unfold compressBuffers at compressed
  split at compressed
  · cases compressed
  · rcases packBlocks_spec encoder buffers (buffers.length + 1) 0 [] (by omega)
      with ⟨more, packs, packed⟩ | ⟨error, stops, _⟩
    · rw [packs] at compressed
      obtain ⟨rfl, -⟩ : more = blocks ∧ _ := by
        simpa [Except.map] using compressed
      exact packed
    · rw [stops] at compressed
      cases compressed

/-- A block of a page fits the 16-bit length, if a single buffer does that is
compressed alone. -/
theorem length_le_of_packed {encoder : Codec}
    (expands : ∀ buffer : PrintBuffer, ∀ block,
      compressLzma encoder buffer.bytes = .ok block → block.length ≤ 65535)
    {buffers : List PrintBuffer} {blocks : List Bytes}
    (packed : Packed (packGroup encoder) fitsReceiveBuffer bufferMaxCount
      buffers blocks) :
    ∀ block ∈ blocks, block.length ≤ 65535 := by
  intro block member
  obtain ⟨items, count, accepted⟩ := packed.accepted_of_mem member
  rcases accepted.small with fits | rfl
  · have few : block.length ≤ 4096 := of_decide_eq_true fits
    omega
  · have single := accepted.packed
    obtain ⟨buffer, rest, rfl⟩ : ∃ buffer rest, items = buffer :: rest := by
      cases items with
      | nil => simpa using accepted.bounded
      | cons buffer rest => exact ⟨buffer, rest, rfl⟩
    apply expands buffer block
    simpa [packGroup, concatBuffers] using single

/-- At every moment the printer has the first buffers of a page, and all of
them when the print succeeds. -/
def PrintsBuffers {Low ε : Type} (decoder : Codec) (reader : FrameReader)
    (wire : History Low TransportReply → List Bytes)
    (buffers : List PrintBuffer)
    (outcome : Except ε Unit × History Low TransportReply) : Prop :=
  (∀ past, past <+: outcome.2 → ∃ count,
    printedBuffers decoder (reader.inboxAfter (wire past)).blocks =
      .ok (buffers.take count)) ∧
  (outcome.1 = .ok () →
    printedBuffers decoder (reader.inboxAfter (wire outcome.2)).blocks =
      .ok buffers)

theorem DeliversInOrder.printsBuffers {Low : Type} {encoder decoder : Codec}
    (inverts : ∀ data block, compressLzma encoder data = .ok block →
      decompressLzma decoder block = .ok data)
    {reader : FrameReader} {wire : History Low TransportReply → List Bytes}
    {buffers : List PrintBuffer} {blocks : List Bytes} {speed : U16}
    (packed : Packed (packGroup encoder) fitsReceiveBuffer bufferMaxCount
      buffers blocks)
    {outcome : Except ProtoError Unit × History Low TransportReply}
    (delivers : DeliversInOrder reader wire (withSpeed speed blocks) outcome) :
    PrintsBuffers decoder reader wire buffers outcome := by
  obtain ⟨first, all⟩ := printedStream_of_packed inverts packed
  refine ⟨fun past isPast => ?_, fun succeeds => ?_⟩
  · have isFirst := (delivers.1 past isPast).map Prod.fst
    rw [withSpeed_bytes] at isFirst
    obtain ⟨count, stream⟩ := first _ isFirst
    exact ⟨count, printedBuffers_of_stream stream⟩
  · rw [delivers.2 succeeds]
    apply printedBuffers_of_stream
    rw [Inbox.atRest, withSpeed_bytes]
    exact all

/-- Whatever page is sent, over both kinds of link and in every run, the
printer's own buffers are the first of the page, in order, and the whole page
when the print succeeds. -/
theorem sendPage_printsBuffers (encoder decoder : Codec)
    (inverts : ∀ data block, compressLzma encoder data = .ok block →
      decompressLzma decoder block = .ok data)
    (expands : ∀ buffer : PrintBuffer, ∀ block,
      compressLzma encoder buffer.bytes = .ok block → block.length ≤ 65535)
    (buffers : List PrintBuffer) (page : ReadyPage)
    (ready : readyPage encoder (.ok buffers) = some (.ok page)) :
    (∀ acksDataFrames link,
      PrintsBuffers decoder sppReader sppFrames buffers
        (Session.runOn link
          (overSpp acksDataFrames (sendPage sppCodec (.ok page))))) ∧
    ∀ link,
      PrintsBuffers decoder usbReader usbReports buffers
        (Session.runOn link
          (overUsb (sendPage usbHidTransport (.ok page)))) := by
  obtain ⟨blocks, avg, compressed, rfl⟩ : ∃ blocks avg,
      compressBuffers encoder buffers = some (.ok (blocks, avg)) ∧
        page = ⟨buffers, blocks, calcSpeed avg⟩ := by
    obtain ⟨outcome, compressed, mapped⟩ := Option.map_eq_some_iff.mp ready
    rcases outcome with error | ⟨blocks, avg⟩
    · cases mapped
    · exact ⟨blocks, avg, compressed, (Except.ok.inj mapped).symm⟩
  have packed := packed_of_compressBuffers compressed
  have short := length_le_of_packed expands packed
  constructor
  · intro acksDataFrames link
    exact DeliversInOrder.printsBuffers inverts packed
      (overSpp_deliversInOrder acksDataFrames sppCodec blocks (calcSpeed avg)
        short link)
  · intro link
    exact DeliversInOrder.printsBuffers inverts packed
      (overUsb_deliversInOrder usbHidTransport blocks (calcSpeed avg) short
        link)

/-- A page of two empty buffers, which go out as one block of 59 bytes. -/
theorem sendPage_printsBuffers_blank :
    let buffers := List.replicate 2 blankBuffer
    let page := ⟨buffers, [blankBlock 2 twoBlanks], calcSpeed 29⟩
    readyPage blankStreams.encoder (.ok buffers) = some (.ok page) ∧
    (∀ acksDataFrames link,
      PrintsBuffers blankStreams.decoder sppReader sppFrames buffers
        (Session.runOn link
          (overSpp acksDataFrames (sendPage sppCodec (.ok page))))) ∧
    ∀ link,
      PrintsBuffers blankStreams.decoder usbReader usbReports buffers
        (Session.runOn link
          (overUsb (sendPage usbHidTransport (.ok page)))) := by
  intro buffers page
  have blocks := compressBuffers_fitting (by simp) (by decide)
    (packGroup_blank rfl) (by decide : (blankBlock 2 twoBlanks).length ≤ _)
  have ready : readyPage blankStreams.encoder (.ok buffers) =
      some (.ok page) := by
    rw [readyPage, blocks]
    rfl
  exact ⟨ready, sendPage_printsBuffers blankStreams.encoder
    blankStreams.decoder KnownStreams.inverts
    (KnownStreams.expands (by decide)) buffers page ready⟩

end SupvanCups
