import SupvanCups.PageTruncation
import SupvanCups.PrintedPages

/-!
# From a document to the printer's buffers

The server turns each page of a raster document into a sheet and transfers it
as often as it has copies, up to the first failure.  A transfer splits the
sheet into buffers, compresses them, prints the blocks and asks for the status
when that fails.

Whatever the document, the device and the link, the buffers that the printer
has at any moment of a job are the first of those of the planned sheets, in
order, and all of them when the job succeeds.
-/

namespace SupvanCups

open GreedyPacking (Packed)
open Session (Follows accepted callWire callWire_concat)
open Transport (pageSpeed)

/-! ### A job on one link -/

/-- A host with one task on it: what it asks of the printer goes to the
link. -/
def HostCall.onLink : HostCall → Script TransportCall TransportReply HostReply
  | .exchange _ call => (Script.ask call).bind fun reply => .done (.wire reply)
  | .loadPrinting _ => .done (.printing false)
  | _ => .done .done

section Job

variable (encoder : Codec) (dev : KsDevice)

/-- A transfer that panics ends the job as a failure does. -/
def jobOnLink : JobCall → Script TransportCall TransportReply JobReply
  | .openUri _ => .done (.ok ())
  | .transferPage _ sheet =>
      match sheet.transfer encoder dev with
      | none => .done (.error (.other "panicked"))
      | some script => script.interpret HostCall.onLink

/-- The blocks and the speed of a sheet, if it can be split and compressed. -/
def Sheet.packed (sheet : Sheet) : Option (List Bytes × U16) := do
  match ← compressBuffers encoder (← sheet.buffers) with
  | .error _ => none
  | .ok (blocks, avg) => some (blocks, calcSpeed avg)

/-- The blocks of planned sheets, up to the first that cannot be
transferred. -/
def plannedBlocks : List JobCall → List (Bytes × U16)
  | [] => []
  | .openUri _ :: calls => plannedBlocks calls
  | .transferPage _ sheet :: calls =>
      match sheet.packed encoder with
      | none => []
      | some (blocks, speed) =>
          withSpeed (pageSpeed blocks speed) blocks ++ plannedBlocks calls

end Job

def JobCall.buffers : JobCall → List PrintBuffer
  | .openUri _ => []
  | .transferPage _ sheet => sheet.buffers.getD []

/-- Every sheet can be split and compressed. -/
def Transferable (encoder : Codec) (calls : List JobCall) : Prop :=
  ∀ page sheet, .transferPage page sheet ∈ calls →
    (sheet.packed encoder).isSome

/-! ### A transfer as calls -/

theorem carryOut_onLink {α : Type} (printer : PrinterHandle)
    (operation : Operation α) :
    (printer.carryOut operation).interpret HostCall.onLink =
      operation.run := by
  rw [PrinterHandle.carryOut]
  generalize operation.run = script
  induction script with
  | done result => rfl
  | call request next ih =>
      show Script.call request _ = _
      congr 1
      funext reply
      exact ih reply

theorem withLock_onLink {α : Type} (printer : PrinterHandle)
    (body : HostScript α) :
    (printer.withLock body).interpret HostCall.onLink =
      body.interpret HostCall.onLink := by
  cases printer with
  | owned fd => rfl
  | shared conn =>
      show (Script.bind body _).interpret HostCall.onLink = _
      rw [Script.interpret_bind]
      exact Script.bind_done _

theorem printCompressed_onLink (printer : PrinterHandle) (blocks : List Bytes)
    (speed : U16) :
    (printer.printCompressed blocks speed).interpret HostCall.onLink =
      (printer.codec.printCompressed blocks speed).run := by
  rw [PrinterHandle.printCompressed, withLock_onLink]
  show (Script.bind (printer.carryOut _) _).interpret HostCall.onLink = _
  rw [Script.interpret_bind, carryOut_onLink]
  exact Script.bind_done _

/-- What a transfer does after a print that failed. -/
def afterPrint (transport : Transport) : Except ProtoError Unit →
    Script TransportCall TransportReply (Except JobFailure Unit)
  | .ok () => .done (.ok ())
  | .error (.invalidResponse message) =>
      transport.queryStatus.run.bind fun
        | .ok (some s) =>
            if s.hasError then
              .done (.error (failureFromStatus s "print_compressed"))
            else .done (.error (.other message))
        | _ => .done (.error (.other message))
  | .error e => .done (.error (failureFromProto e "print_compressed"))

theorem transferPage_onLink (dev : KsDevice) (blocks : List Bytes)
    (speed : U16) :
    (dev.transferPage blocks speed).interpret HostCall.onLink =
      (dev.printer.codec.printCompressed blocks speed).run.bind
        (afterPrint dev.printer.codec) := by
  show (Script.bind (dev.printer.printCompressed blocks speed) _).interpret
    HostCall.onLink = _
  rw [Script.interpret_bind, printCompressed_onLink]
  congr 1
  funext result
  rcases result with error | done
  · cases error with
    | invalidResponse message =>
        show (Script.bind dev.printer.queryStatus _).interpret
          HostCall.onLink = _
        rw [Script.interpret_bind, PrinterHandle.queryStatus, withLock_onLink,
          carryOut_onLink]
        show Script.bind _ _ = Script.bind _ _
        congr 1
        funext answer
        rcases answer with error | _ | s
        · rfl
        · rfl
        · show Script.interpret _ (if s.hasError then _ else _) = _
          dsimp only
          split <;> rfl
    | _ => rfl
  · rfl

/-! ### What a transfer delivers -/

/-- The call leaves the order of the blocks, or has nothing to do with
blocks. -/
def SendAllowed (reader : FrameReader) (frames : TransportCall → List Bytes)
    (expected : List (Bytes × U16)) (history : WireHistory)
    (request : TransportCall) : Prop :=
  KeepsOrder reader frames expected history request ∨ request.isQuiet = true

section Delivery

variable {reader : FrameReader} {frames : TransportCall → List Bytes}
  {received expected : List (Bytes × U16)} {encoder : Codec}

theorem afterPrint_allowed (transport : Transport) (history : WireHistory)
    (error : ProtoError) :
    (afterPrint transport (.error error)).Ensures
      (SendAllowed reader frames expected) history
      fun outcome _ => ∃ failure, outcome = .error failure := by
  cases error with
  | invalidResponse message =>
      refine .bind _ (Transport.queryStatus_ensures (.inr rfl))
        fun answer later _ => ?_
      rcases answer with error | _ | s
      · exact ⟨_, rfl⟩
      · exact ⟨_, rfl⟩
      · dsimp only
        split <;> exact ⟨_, rfl⟩
  | _ => exact ⟨_, rfl⟩

theorem transferPage_delivers (reads : ReadsCalls reader frames)
    (dev : KsDevice) {blocks : List Bytes} {speed : U16}
    {history : WireHistory} (start : Delivered reader frames received history)
    (within : received ++ withSpeed (pageSpeed blocks speed) blocks <+:
      expected)
    (short : ∀ block ∈ blocks, block.length ≤ 65535) :
    ((dev.transferPage blocks speed).interpret HostCall.onLink).Ensures
      (SendAllowed reader frames expected) history fun outcome later =>
        outcome = .ok () → Delivered reader frames
          (received ++ withSpeed (pageSpeed blocks speed) blocks) later := by
  rw [transferPage_onLink]
  have printed := printCompressed_delivers reads dev.printer.codec start within
    short
  refine .bind _ (Script.Ensures.permit printed fun _ _ => .inl)
    fun result later delivered => ?_
  cases result with
  | error error =>
      refine (afterPrint_allowed _ later error).consequence ?_
      rintro _ _ ⟨failure, rfl⟩ succeeds
      cases succeeds
  | ok done => exact fun _ => delivered

/-! ### Sheets -/

theorem Sheet.packed_some {sheet : Sheet} {blocks : List Bytes} {speed : U16}
    (packed : sheet.packed encoder = some (blocks, speed)) :
    ∃ buffers avg, sheet.buffers = some buffers ∧
      compressBuffers encoder buffers = some (.ok (blocks, avg)) ∧
      speed = calcSpeed avg := by
  rw [Sheet.packed] at packed
  cases built : sheet.buffers with
  | none => simp [built] at packed
  | some buffers =>
      rw [built] at packed
      cases compressed : compressBuffers encoder buffers with
      | none => simp [compressed] at packed
      | some outcome =>
          rcases outcome with error | ⟨found, avg⟩
          · simp [compressed] at packed
          · obtain ⟨rfl, rfl⟩ : found = blocks ∧ calcSpeed avg = speed := by
              simpa [compressed] using packed
            exact ⟨buffers, avg, rfl, compressed, rfl⟩

theorem Sheet.transfer_cases (sheet : Sheet) (encoder : Codec)
    (dev : KsDevice) :
    (∃ blocks speed, sheet.packed encoder = some (blocks, speed) ∧
      sheet.transfer encoder dev = some (dev.transferPage blocks speed)) ∨
    sheet.packed encoder = none ∧
      (sheet.transfer encoder dev = none ∨
        ∃ failure, sheet.transfer encoder dev =
          some (.done (.error failure))) := by
  rw [Sheet.packed, Sheet.transfer]
  cases sheet.buffers with
  | none => exact .inr ⟨rfl, .inl rfl⟩
  | some buffers =>
      cases compressed : compressBuffers encoder buffers with
      | none =>
          refine .inr ⟨?_, .inl ?_⟩
          · simp [compressed]
          · simp [compressed]
      | some outcome =>
          rcases outcome with error | ⟨blocks, avg⟩
          · refine .inr ⟨?_, .inr
              ⟨.other ("compression: " ++ error.display), ?_⟩⟩
            · simp [compressed]
            · simp only [Option.bind_eq_bind, Option.bind_some, compressed]
              rfl
          · refine .inl ⟨blocks, calcSpeed avg, ?_, ?_⟩
            · simp [compressed]
            · simp [compressed]

theorem Transferable.concat {calls : List JobCall}
    (ready : Transferable encoder calls) {call : JobCall}
    (last : ∀ page sheet, call = .transferPage page sheet →
      (sheet.packed encoder).isSome) :
    Transferable encoder (calls ++ [call]) := by
  intro page sheet member
  rcases List.mem_append.mp member with earlier | isLast
  · exact ready page sheet earlier
  · exact last page sheet (List.mem_singleton.mp isLast).symm

theorem plannedBlocks_append {done : List JobCall}
    (ready : Transferable encoder done) (rest : List JobCall) :
    plannedBlocks encoder (done ++ rest) =
      plannedBlocks encoder done ++ plannedBlocks encoder rest := by
  induction done with
  | nil => rfl
  | cons call done ih =>
      have later : Transferable encoder done := fun page sheet member =>
        ready page sheet (List.mem_cons_of_mem _ member)
      cases call with
      | openUri uri => exact ih later
      | transferPage page sheet =>
          obtain ⟨⟨blocks, speed⟩, packed⟩ := Option.isSome_iff_exists.mp
            (ready page sheet List.mem_cons_self)
          simp only [List.cons_append, plannedBlocks, packed, ih later,
            List.append_assoc]

/-! ### A whole job -/

section Job

variable (expands : ∀ buffer : PrintBuffer, ∀ block,
  compressLzma encoder buffer.bytes = .ok block → block.length ≤ 65535)

include expands

theorem jobOnLink_delivers (reads : ReadsCalls reader frames) (dev : KsDevice)
    {calls done rest : List JobCall} {call : JobCall}
    (split : calls = done ++ call :: rest) (ready : Transferable encoder done)
    {history : WireHistory}
    (delivered : Delivered reader frames (plannedBlocks encoder done)
      history) :
    (jobOnLink encoder dev call).Ensures
      (SendAllowed reader frames (plannedBlocks encoder calls)) history
      fun reply later => reply = .ok () →
        Transferable encoder (done ++ [call]) ∧
        Delivered reader frames (plannedBlocks encoder (done ++ [call]))
          later := by
  cases call with
  | openUri uri =>
      refine fun _ => ⟨ready.concat nofun, ?_⟩
      rw [plannedBlocks_append ready, plannedBlocks, plannedBlocks,
        List.append_nil]
      exact delivered
  | transferPage page sheet =>
      rw [jobOnLink]
      rcases sheet.transfer_cases encoder dev with
        ⟨blocks, speed, packed, transfers⟩ | ⟨-, fails⟩
      · have one : plannedBlocks encoder [.transferPage page sheet] =
            withSpeed (pageSpeed blocks speed) blocks := by
          simp [plannedBlocks, packed]
        have within : plannedBlocks encoder done ++
            withSpeed (pageSpeed blocks speed) blocks <+:
              plannedBlocks encoder calls := by
          rw [split, plannedBlocks_append ready, plannedBlocks, packed,
            ← List.append_assoc]
          exact List.prefix_append _ _
        obtain ⟨buffers, avg, -, compressed, -⟩ := Sheet.packed_some packed
        have short := length_le_of_packed expands
          (packed_of_compressBuffers compressed)
        rw [transfers]
        refine (transferPage_delivers reads dev delivered within
          short).consequence fun reply later last succeeds => ⟨?_, ?_⟩
        · refine ready.concat fun number other same => ?_
          obtain ⟨-, rfl⟩ := JobCall.transferPage.inj same
          rw [packed]
          rfl
        · rw [plannedBlocks_append ready, one]
          exact last succeeds
      · rcases fails with panics | ⟨failure, failed⟩
        · rw [panics]
          exact nofun
        · rw [failed]
          exact nofun

/-- The calls of a job that follows a plan deliver the blocks of the plan. -/
theorem job_delivers (reads : ReadsCalls reader frames) (dev : KsDevice)
    {job : JobSession Unit} {calls : List JobCall}
    {result : Except JobStop Unit}
    (follows : Follows JobCall.report job calls result) :
    (job.run.interpret (jobOnLink encoder dev)).Ensures
      (SendAllowed reader frames (plannedBlocks encoder calls)) []
      fun outcome later => outcome = .ok () → Transferable encoder calls ∧
        Delivered reader frames (plannedBlocks encoder calls) later := by
  let related (past : JobHistory) (wire : WireHistory) : Prop :=
    ∀ done, past = accepted done → Transferable encoder done ∧
      Delivered reader frames (plannedBlocks encoder done) wire
  have start : related [] [] := by
    intro done same
    obtain rfl : done = [] := Session.accepted_injective same.symm
    exact ⟨nofun, by simp, rfl⟩
  refine (Script.Ensures.interpret related ?_ start follows.ensures).consequence
    ?_
  · rintro past wire call sofar ⟨done, rest, split, rfl⟩
    obtain ⟨ready, delivered⟩ := sofar done rfl
    refine (jobOnLink_delivers expands reads dev split ready
      delivered).consequence fun reply later last => ?_
    intro longer same
    cases reply with
    | error error =>
        have member : (call, .error error) ∈
            (accepted longer : JobHistory) := by
          rw [← same]
          exact List.mem_concat_self
        obtain ⟨other, -, absent⟩ := List.mem_map.mp member
        cases (Prod.mk.inj absent).2
    | ok answer =>
        have grown : accepted done ++ [(call, .ok answer)] =
            (accepted (done ++ [call]) : JobHistory) := by
          rw [Session.accepted_append]
          rfl
        obtain rfl : done ++ [call] = longer :=
          Session.accepted_injective (grown.symm.trans same)
        exact last rfl
  · rintro outcome later ⟨past, sofar, ends⟩ rfl
    exact sofar calls ends.2

end Job

/-! ### Over a link -/

/-- A command that has nothing to do with blocks may come in the middle of
one. -/
theorem takeFrames_quiet_blocks (reads : ReadsCalls reader frames)
    {request : TransportCall} (quiet : request.isQuiet = true)
    {part : List Bytes} (isPart : part <+: frames request) (inbox : Inbox) :
    (reader.takeFrames inbox part).blocks = inbox.blocks := by
  rcases inbox with ⟨_ | awaited, pending, blocks⟩
  · cases request with
    | sendCmd cmd param =>
        obtain ⟨frame, framed, decoded⟩ := reads.command cmd param
        obtain ⟨notHeader, notFull⟩ :
            cmd ≠ cmdNextZippedbulk ∧ cmd ≠ cmdBufFull := by
          simpa [TransportCall.isQuiet] using quiet
        rw [framed] at isPart
        rcases prefix_singleton isPart with rfl | rfl
        · rfl
        · simp [FrameReader.takeFrames_singleton, FrameReader.takeFrame,
            decoded, FrameReader.takeCommand, notHeader, notFull]
    | _ => cases quiet
  · cases request with
    | sendCmd cmd param =>
        obtain ⟨frame, framed, -⟩ := reads.command cmd param
        rw [framed] at isPart
        rcases prefix_singleton isPart with rfl | rfl <;> rfl
    | _ => cases quiet

variable {Low LowReply α : Type}

/-- Over a link that writes the frames of calls, the blocks that the printer
has are at every moment the first of those expected. -/
theorem overLink_keepsOrder (reads : ReadsCalls reader frames)
    {wire : History Low LowReply → List Bytes}
    {send : TransportCall → Session Low LowReply ProtoError (Option Bytes)}
    (writes : ∀ request, Session.Writes wire (frames request) (send request))
    (empty : wire [] = [])
    {script : Script TransportCall TransportReply α}
    {post : α → WireHistory → Prop}
    (ensures : script.Ensures (SendAllowed reader frames expected) [] post) :
    (script.interpret fun request => (send request).run).Ensures
      (fun now call => ∀ reply,
        (reader.inboxAfter (wire (now ++ [(call, reply)]))).blocks <+:
          expected) [] fun result later => ∃ high, post result high ∧
        ((∀ event ∈ high, ∃ resp, event.2 = .ok resp) →
          wire later = callWire frames high) := by
  let related (high : WireHistory) (low : History Low LowReply) : Prop :=
    ((∀ event ∈ high, ∃ resp, event.2 = .ok resp) →
      wire low = callWire frames high) ∧
    (reader.inboxAfter (wire low)).blocks <+: expected
  have start : related [] [] := by
    refine ⟨fun _ => empty, ?_⟩
    rw [empty]
    exact List.nil_prefix
  refine (Script.Ensures.interpret related ?_ start ensures).consequence ?_
  · rintro high low request ⟨level, sofar⟩ allowed
    have onWire {part : List Bytes} (isPart : part <+: frames request) :
        (reader.inboxAfter (wire low ++ part)).blocks <+: expected := by
      rcases allowed with keeps | quiet
      · rw [level keeps.accepted]
        exact keeps.blocks part isPart
      · rw [inboxAfter_append, takeFrames_quiet_blocks reads quiet isPart]
        exact sofar
    let written (now : History Low LowReply) : Prop :=
      ∃ part, part <+: frames request ∧ wire now = wire low ++ part
    have begun : written low :=
      ⟨[], List.nil_prefix, (List.append_nil _).symm⟩
    have kept : (send request).run.Ensures
        (fun now call => ∀ reply, written (now ++ [(call, reply)])) low
        fun reply later => written later ∧
          Session.IfOk (fun _ later => wire later = wire low ++ frames request)
            reply later :=
      Script.Ensures.keeps (writes request low) begun
    refine (kept.permit ?_).consequence ?_
    · intro now call adds reply
      obtain ⟨part, isPart, wrote⟩ := adds reply
      rw [wrote]
      exact onWire isPart
    · rintro reply later ⟨⟨part, isPart, wrote⟩, added⟩
      refine ⟨fun accepted => ?_, by rw [wrote]; exact onWire isPart⟩
      obtain ⟨resp, rfl⟩ : ∃ resp, reply = .ok resp :=
        accepted (request, reply) (by simp)
      have grown : wire later = wire low ++ frames request := added
      rw [grown, callWire_concat,
        level fun event member => accepted event (by simp [member])]
  · rintro result later ⟨high, ⟨level, -⟩, holds⟩
    exact ⟨high, holds, level⟩

end Delivery

/-! ### What the blocks of a job hold -/

section Buffers

variable {encoder decoder : Codec}

theorem printedStream_append {first second : List Bytes} {front back : Bytes}
    (holdsFirst : printedStream decoder first = .ok front)
    (holdsSecond : printedStream decoder second = .ok back) :
    printedStream decoder (first ++ second) = .ok (front ++ back) := by
  rw [printedStream] at holdsFirst holdsSecond ⊢
  rw [List.mapM_append]
  cases unpackedFirst : first.mapM (decompressLzma decoder) with
  | error error =>
      rw [unpackedFirst] at holdsFirst
      cases holdsFirst
  | ok parts =>
      cases unpackedSecond : second.mapM (decompressLzma decoder) with
      | error error =>
          rw [unpackedSecond] at holdsSecond
          cases holdsSecond
      | ok more =>
          rw [unpackedFirst] at holdsFirst
          rw [unpackedSecond] at holdsSecond
          obtain rfl : parts.flatten = front := Except.ok.inj holdsFirst
          obtain rfl : more.flatten = back := Except.ok.inj holdsSecond
          exact congrArg Except.ok List.flatten_append

theorem concatBuffers_append (front back : List PrintBuffer) :
    concatBuffers (front ++ back) = concatBuffers front ++ concatBuffers back :=
  List.flatMap_append

variable (inverts : ∀ data block, compressLzma encoder data = .ok block →
  decompressLzma decoder block = .ok data)

include inverts

/-- The first planned blocks hold the first planned buffers. -/
theorem plannedBlocks_prefix (calls : List JobCall)
    {received : List (Bytes × U16)}
    (isFirst : received <+: plannedBlocks encoder calls) :
    ∃ count, printedStream decoder (received.map Prod.fst) =
      .ok (concatBuffers ((calls.flatMap JobCall.buffers).take count)) := by
  induction calls generalizing received with
  | nil =>
      obtain rfl := List.prefix_nil.mp isFirst
      exact ⟨0, rfl⟩
  | cons call calls ih =>
      rw [List.flatMap_cons]
      cases call with
      | openUri uri => exact ih isFirst
      | transferPage page sheet =>
          rw [plannedBlocks] at isFirst
          cases prepared : sheet.packed encoder with
          | none =>
              rw [prepared] at isFirst
              obtain rfl := List.prefix_nil.mp isFirst
              exact ⟨0, rfl⟩
          | some ready =>
              obtain ⟨blocks, speed⟩ := ready
              obtain ⟨buffers, avg, built, compressed, -⟩ :=
                Sheet.packed_some prepared
              obtain ⟨first, all⟩ := printedStream_of_packed inverts
                (packed_of_compressBuffers compressed)
              simp only [prepared] at isFirst
              simp only [JobCall.buffers, built, Option.getD_some]
              -- Part of this sheet, or all of it and part of the rest.
              rcases List.prefix_or_prefix_of_prefix isFirst
                  (List.prefix_append _ _) with within | ⟨more, rfl⟩
              · have isPart := within.map Prod.fst
                rw [withSpeed_bytes] at isPart
                obtain ⟨count, stream⟩ := first _ isPart
                refine ⟨min count buffers.length, ?_⟩
                rw [List.take_append_of_le_length (Nat.min_le_right _ _),
                  ← List.take_eq_take_min]
                exact stream
              · obtain ⟨count, stream⟩ :=
                  ih ((List.prefix_append_right_inj _).mp isFirst)
                refine ⟨buffers.length + count, ?_⟩
                rw [List.take_length_add_append, concatBuffers_append,
                  List.map_append, withSpeed_bytes]
                exact printedStream_append all stream

/-- All planned blocks hold all planned buffers. -/
theorem plannedBlocks_all {calls : List JobCall}
    (ready : Transferable encoder calls) :
    printedStream decoder ((plannedBlocks encoder calls).map Prod.fst) =
      .ok (concatBuffers (calls.flatMap JobCall.buffers)) := by
  induction calls with
  | nil => rfl
  | cons call calls ih =>
      have later : Transferable encoder calls := fun page sheet member =>
        ready page sheet (List.mem_cons_of_mem _ member)
      rw [List.flatMap_cons]
      cases call with
      | openUri uri => exact ih later
      | transferPage page sheet =>
          obtain ⟨⟨blocks, speed⟩, prepared⟩ := Option.isSome_iff_exists.mp
            (ready page sheet List.mem_cons_self)
          obtain ⟨buffers, avg, built, compressed, -⟩ :=
            Sheet.packed_some prepared
          obtain ⟨-, all⟩ := printedStream_of_packed inverts
            (packed_of_compressBuffers compressed)
          simp only [plannedBlocks, prepared, JobCall.buffers, built,
            Option.getD_some, List.map_append, withSpeed_bytes,
            concatBuffers_append]
          exact printedStream_append all (ih later)

end Buffers

/-! ### A job over a link -/

section Job

variable {encoder decoder : Codec}
variable (inverts : ∀ data block, compressLzma encoder data = .ok block →
  decompressLzma decoder block = .ok data)
variable (expands : ∀ buffer : PrintBuffer, ∀ block,
  compressLzma encoder buffer.bytes = .ok block → block.length ≤ 65535)

/-- A job with its transfers carried out on a link. -/
def jobOverLink {Low : Type} (encoder : Codec) (dev : KsDevice)
    (send : TransportCall → Session Low TransportReply ProtoError
      (Option Bytes))
    (job : JobSession Unit) :
    Script Low TransportReply (Except JobStop Unit) :=
  (job.run.interpret (jobOnLink encoder dev)).interpret fun request =>
    (send request).run

/-- At every moment the printer has the first buffers of the planned sheets.
When the job succeeds it has all of them, and every sheet had buffers. -/
def PrintsPlanned {Low : Type} (decoder : Codec) (reader : FrameReader)
    (wire : History Low TransportReply → List Bytes) (calls : List JobCall)
    (outcome : Except JobStop Unit × History Low TransportReply) : Prop :=
  PrintsBuffers decoder reader wire (calls.flatMap JobCall.buffers) outcome ∧
  (outcome.1 = .ok () → ∀ page sheet, .transferPage page sheet ∈ calls →
    sheet.buffers.isSome)

include inverts expands

theorem jobOverLink_printsPlanned {Low : Type} {reader : FrameReader}
    {frames : TransportCall → List Bytes} (reads : ReadsCalls reader frames)
    {wire : History Low TransportReply → List Bytes}
    {send : TransportCall → Session Low TransportReply ProtoError
      (Option Bytes)}
    (writes : ∀ request, Session.Writes wire (frames request) (send request))
    (empty : wire [] = []) (dev : KsDevice) {job : JobSession Unit}
    {calls : List JobCall} {result : Except JobStop Unit}
    (follows : Follows JobCall.report job calls result)
    (link : Device Low TransportReply) :
    PrintsPlanned decoder reader wire calls
      ((jobOverLink encoder dev send job).run link []) := by
  rw [jobOverLink]
  obtain ⟨lawful, high, post, level⟩ := (overLink_keepsOrder reads writes empty
    (job_delivers expands reads dev follows)).run Script.Lawful.nil link
  refine ⟨⟨fun past isPast => ?_, fun succeeds => ?_⟩, fun succeeds => ?_⟩
  · have inOrder : (reader.inboxAfter (wire past)).blocks <+:
        plannedBlocks encoder calls := by
      rcases List.eq_nil_or_concat past with rfl | ⟨before, event, rfl⟩
      · rw [empty]
        exact List.nil_prefix
      · obtain ⟨after, split⟩ := isPast
        rw [List.concat_eq_append] at split ⊢
        exact lawful before event after (split.symm.trans (by simp)) event.2
    obtain ⟨count, stream⟩ := plannedBlocks_prefix inverts calls inOrder
    exact ⟨count, printedBuffers_of_stream stream⟩
  · obtain ⟨ready, delivered⟩ := post succeeds
    rw [level delivered.accepted, delivered.inbox]
    exact printedBuffers_of_stream (plannedBlocks_all inverts ready)
  · intro page sheet member
    obtain ⟨packed, prepared⟩ := Option.isSome_iff_exists.mp
      ((post succeeds).1 page sheet member)
    obtain ⟨buffers, avg, built, -, -⟩ := Sheet.packed_some prepared
    rw [built]
    rfl

end Job

/-- In every run the sheets of a document reach the printer as planned, over a
serial pipe and over USB. -/
def PrintsDocument (encoder decoder : Codec) (dither : DitherMode)
    (record : JobRecord) (copiesOverride : U32) (F : Type) [DitherFloat F]
    [DecidableLT F] (document : RasterDocument) : Prop :=
  let calls := (documentPlan dither record copiesOverride F document).1
  let job := runCupsRasterJob dither record copiesOverride F document
  (∀ conn printing acksDataFrames link,
    PrintsPlanned decoder sppReader sppFrames calls
      ((jobOverLink encoder ⟨.shared conn, printing⟩ (sppSend acksDataFrames)
        job).run link [])) ∧
  ∀ fd printing link,
    PrintsPlanned decoder usbReader usbReports calls
      ((jobOverLink encoder ⟨.owned fd, printing⟩ usbSend job).run link [])

/-- Whatever document is printed, however the printer answers and wherever the
link fails, the printer's own buffers are at every moment the first of the
sheets that the document plans, and all of them when the job succeeds. -/
theorem runCupsRasterJob_printsDocument (encoder decoder : Codec)
    (inverts : ∀ data block, compressLzma encoder data = .ok block →
      decompressLzma decoder block = .ok data)
    (expands : ∀ buffer : PrintBuffer, ∀ block,
      compressLzma encoder buffer.bytes = .ok block → block.length ≤ 65535)
    (dither : DitherMode) (record : JobRecord) (copiesOverride : U32)
    (F : Type) [DitherFloat F] [DecidableLT F] (document : RasterDocument) :
    PrintsDocument encoder decoder dither record copiesOverride F
      document := by
  have follows := runCupsRasterJob_follows dither record copiesOverride F
    document
  -- Opening the device adds no sheet.
  have skipOpen {Low : Type} {reader : FrameReader}
      {wire : History Low TransportReply → List Bytes} {uri : String}
      {calls : List JobCall}
      {outcome : Except JobStop Unit × History Low TransportReply}
      (prints : PrintsPlanned decoder reader wire (.openUri uri :: calls)
        outcome) : PrintsPlanned decoder reader wire calls outcome :=
    ⟨prints.1, fun succeeds page sheet member =>
      prints.2 succeeds page sheet (List.mem_cons_of_mem _ member)⟩
  constructor
  · intro conn printing acksDataFrames link
    exact skipOpen (jobOverLink_printsPlanned inverts expands
      sppReader_readsCalls (sppSend_writes acksDataFrames) rfl
      ⟨.shared conn, printing⟩ follows link)
  · intro fd printing link
    exact skipOpen (jobOverLink_printsPlanned inverts expands
      usbReader_readsCalls usbSend_writes rfl ⟨.owned fd, printing⟩ follows
      link)

/-- A line of eight black dots on a head of 384, in its only print buffer. -/
def lineBuffer : PrintBuffer :=
  buildPrintBuffer
    { imageData :=
        List.replicate 23 0#8 ++ [0xF0#8, 0x0F#8] ++ List.replicate 23 0#8
      perLineByte := 48#8
      colsInBuf := 1#16
      pageSt := true
      pageEnd := true
      prtEnd := true
      marginTop := 0#16
      marginBottom := 0#16
      density := .uniform 8#8
      page := {} }

/-- Its LZMA stream after the header. -/
def lineStream : Bytes :=
  [0x00#8, 0x54#8, 0x7F#8, 0xFD#8, 0xB7#8, 0xE0#8, 0xFF#8, 0x80#8, 0x55#8,
    0x23#8, 0x09#8, 0xA2#8, 0xF8#8, 0xAE#8, 0xCC#8, 0xCC#8, 0xD6#8, 0x87#8,
    0x82#8, 0x93#8, 0xA6#8, 0x50#8, 0x09#8, 0x4A#8, 0x52#8, 0x76#8, 0xA6#8,
    0x8C#8, 0xC7#8, 0xAF#8, 0xF3#8, 0xF1#8, 0x63#8, 0x13#8, 0x48#8, 0x5B#8,
    0xAD#8, 0x45#8, 0x11#8, 0x6F#8, 0x24#8, 0xAC#8, 0xAF#8, 0x99#8, 0xFF#8,
    0xFB#8, 0x19#8, 0x00#8, 0x00#8]

def lineStreams : KnownStreams :=
  ⟨[(lineBuffer.bytes, lineStream)], List.nodup_singleton _⟩

/-- Two copies of a page of one black line. -/
theorem runCupsRasterJob_printsDocument_copies :
    let record : JobRecord := ⟨"", 50#32, 384#32⟩
    let document : RasterDocument := .readable
      [⟨⟨8#32, 1#32, 8#32, 8#32, 1#32⟩, List.replicate 8 0#8, ""⟩] (.ok ())
    (documentPlan .floydSteinberg record 2#32 Rat document).1.flatMap
        JobCall.buffers = [lineBuffer, lineBuffer] ∧
      PrintsDocument lineStreams.encoder lineStreams.decoder .floydSteinberg
        record 2#32 Rat document := by
  intro record document
  have plan : (documentPlan .floydSteinberg record 2#32 Rat document).1 =
      List.replicate 2 (.transferPage 0 ⟨8, 1, [0xFF#8], 8#8, 384⟩) := by
    decide +kernel
  refine ⟨?_, runCupsRasterJob_printsDocument lineStreams.encoder
    lineStreams.decoder KnownStreams.inverts
    (KnownStreams.expands (by decide)) _ _ _ _ document⟩
  rw [plan]
  rfl

end SupvanCups
