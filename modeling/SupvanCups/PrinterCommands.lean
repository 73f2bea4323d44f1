import SupvanCups.FailFastSessions
import SupvanCups.MaterialRecords
import SupvanCups.PrintProtocol
import SupvanCups.ReplyParsers

/-!
# The commands of each printer operation

The operations of `Printer` that the print flow does not use, and for each
operation the calls it can make.  All of them stop at the first error.
-/

namespace SupvanCups

open Transport (blockCalls transferCompressed pageSpeed)

def cmdPaperSkip : U8 := 0x2E#8

/-- The parsers of a transport for the names and versions of a printer. -/
structure NameParsers where
  parseDeviceNameResponse : Bytes → Option String
  parseFirmwareVersionResponse : Bytes → Option U8
  parseVersionResponse : Bytes → Option String

/-- Replies that the checked parsers accept; they never panic. -/
def sppNames : NameParsers where
  parseDeviceNameResponse resp := (Checked.parseDeviceName resp).join
  parseFirmwareVersionResponse resp := (Checked.parseFirmwareVersion resp).join
  parseVersionResponse resp := (Checked.parseVersion resp).join

namespace NameParsers

variable (names : NameParsers)

def readDeviceName : Operation (Option String) := do
  let resp ← transportCall (.sendCmd cmdRdDevName 0#16)
  return resp.bind names.parseDeviceNameResponse

def readFirmwareVersion : Operation (Option U8) := do
  let resp ← transportCall (.sendCmd cmdReadFwver 0#16)
  return resp.bind names.parseFirmwareVersionResponse

def readVersion : Operation (Option String) := do
  let resp ← transportCall (.sendCmd cmdReadRev 0#16)
  return resp.bind names.parseVersionResponse

end NameParsers

namespace Transport

/-- Feed one blank label. -/
def paperSkip (transport : Transport) : Operation Unit := do
  let resp ← transportCall (.sendCmd cmdPaperSkip 0#16)
  failIf (!resp.any (transport.validateResponse · cmdPaperSkip))
    (.invalidResponse "PAPER_SKIP: no ack")

/-- Send any opcode and hand back the raw response. -/
def probeRaw (cmd : U8) (param : U16) : Operation (Option Bytes) :=
  transportCall (.sendCmd cmd param)

end Transport

/-! ### Calls -/

/-- A command without a parameter. -/
def IsCommand (cmds : List U8) (request : TransportCall) : Prop :=
  ∃ cmd ∈ cmds, request = .sendCmd cmd 0#16

/-- The calls of a print. -/
def IsPrintCall (blocks : List Bytes) (speed : U16) (request : TransportCall) :
    Prop :=
  IsCommand [cmdCheckDevice, cmdInquirySta, cmdStartPrint, cmdStopPrint]
      request ∨
    ∃ block ∈ blocks, request ∈ blockCalls speed block

/-- The calls that write a material record of the given bytes and read it
back. -/
def IsProvisionCall (record : Bytes) (request : TransportCall) : Prop :=
  request = .sendCmd cmdSetRfidData (BitVec.ofNat 16 record.length) ∨
    request = .sendBulkData record true ∨ IsCommand [cmdReturnMat] request

section FailFast

variable {permitted : TransportCall → Prop}

theorem failFast_transportCall {request : TransportCall}
    (permits : permitted request) :
    Session.FailFast permitted (transportCall request) :=
  Session.failFast_ask permits

theorem failFast_okOrElse {α : Type} (value : Option α) (error : ProtoError) :
    Session.FailFast permitted (okOrElse value error) := by
  cases value with
  | none => exact Session.failFast_throw error
  | some result => exact Session.failFast_pure result

theorem failFast_failIf (condition : Bool) (error : ProtoError) :
    Session.FailFast permitted (failIf condition error) := by
  cases condition with
  | false => exact Session.failFast_pure ()
  | true => exact Session.failFast_throw error

/-- One command and something made of its reply. -/
theorem failFast_query {α : Type} {request : TransportCall}
    (permits : permitted request) (result : Option Bytes → α) :
    Session.FailFast permitted (do
      let resp ← transportCall request
      return result resp) :=
  (failFast_transportCall permits).bind fun _ => Session.failFast_pure _

namespace Transport

variable (transport : Transport)

theorem failFast_pollStatus (permits : permitted inquiry)
    (judge : PrinterStatus → PollVerdict) (attempts : Nat) :
    Session.FailFast permitted (transport.pollStatus judge attempts) := by
  induction attempts with
  | zero => exact Session.failFast_pure none
  | succ attempts ih =>
      refine Session.FailFast.bind (failFast_query permits _) fun st => ?_
      cases st with
      | none => exact ih
      | some s =>
          dsimp only [Option.map_some]
          cases judge s with
          | fail error => exact Session.failFast_throw error
          | accept => exact Session.failFast_pure _
          | again => exact ih

theorem failFast_transferCompressed {block : Bytes} {speed : U16}
    (permits : ∀ request ∈ blockCalls speed block, permitted request) :
    Session.FailFast permitted (transferCompressed block speed) := by
  refine (failFast_transportCall (permits _ ?_)).bind fun _ => ?_
  · simp [blockCalls]
  refine (failFast_failIf _ _).bind fun _ => ?_
  refine (failFast_transportCall (permits _ ?_)).bind fun _ => ?_
  · simp [blockCalls]
  refine (failFast_transportCall (permits _ ?_)).bind fun _ => ?_
  · simp [blockCalls]
  exact Session.failFast_pure _

theorem failFast_stopOnError (permits : permitted (.sendCmd cmdStopPrint 0#16))
    (bufStatus : PrinterStatus) :
    Session.FailFast permitted (stopOnError bufStatus) := by
  unfold stopOnError
  split
  · exact (failFast_transportCall permits).bind fun _ =>
      Session.failFast_throw _
  · exact Session.failFast_pure _

theorem failFast_transferBlocks {speed : U16} {blocks : List Bytes}
    (inquires : permitted inquiry)
    (stops : permitted (.sendCmd cmdStopPrint 0#16))
    (transfers : ∀ block ∈ blocks, ∀ request ∈ blockCalls speed block,
      permitted request) (total index : Nat) :
    Session.FailFast permitted
      (transport.transferBlocks speed total index blocks) := by
  induction blocks generalizing index with
  | nil => exact Session.failFast_pure _
  | cons block blocks ih =>
      obtain ⟨first, rest⟩ := List.forall_mem_cons.mp transfers
      refine (transport.failFast_pollStatus inquires _ _).bind fun _ => ?_
      refine (failFast_okOrElse _ _).bind fun bufStatus => ?_
      refine (failFast_stopOnError stops bufStatus).bind fun _ => ?_
      refine (failFast_transferCompressed first).bind fun _ => ?_
      refine (failFast_query inquires _).bind fun _ => ?_
      exact ih rest (index + 1)

theorem failFast_completionTimeout (inquires : permitted inquiry) :
    Session.FailFast permitted transport.completionTimeout :=
  (failFast_query inquires _).bind fun _ =>
    (failFast_failIf _ _).bind fun _ => Session.failFast_throw _

theorem failFast_printCompressed (blocks : List Bytes) (speed : U16) :
    Session.FailFast (IsPrintCall blocks (pageSpeed blocks speed))
      (transport.printCompressed blocks speed) := by
  have command (cmd : U8) (listed : cmd ∈ [cmdCheckDevice, cmdInquirySta,
      cmdStartPrint, cmdStopPrint]) :
      IsPrintCall blocks (pageSpeed blocks speed) (.sendCmd cmd 0#16) :=
    .inl ⟨cmd, listed, rfl⟩
  have inquires := command cmdInquirySta (by simp)
  unfold printCompressed
  refine (failFast_query (command cmdCheckDevice (by simp)) _).bind fun _ => ?_
  refine (failFast_failIf _ _).bind fun _ => ?_
  refine (transport.failFast_pollStatus inquires _ _).bind fun _ => ?_
  refine (failFast_okOrElse _ _).bind fun _ => ?_
  refine (failFast_failIf _ _).bind fun _ => ?_
  refine (failFast_transportCall
    (command cmdStartPrint (by simp))).bind fun _ => ?_
  refine (transport.failFast_pollStatus inquires _ _).bind fun _ => ?_
  refine (failFast_okOrElse _ _).bind fun _ => ?_
  refine (transport.failFast_transferBlocks inquires
    (command cmdStopPrint (by simp)) (fun block member request isCall =>
      .inr ⟨block, member, isCall⟩) _ _).bind fun _ => ?_
  refine (transport.failFast_pollStatus inquires _ _).bind fun complete => ?_
  split
  · exact transport.failFast_completionTimeout inquires
  · exact Session.failFast_pure _

theorem failFast_settle {expected : String}
    (permits : permitted (.sendCmd cmdReturnMat 0#16)) (polls : Nat)
    (last : Option MaterialInfo) :
    Session.FailFast permitted (transport.settle expected polls last) := by
  induction polls generalizing last with
  | zero => exact Session.failFast_pure _
  | succ polls ih =>
      refine Session.FailFast.bind (failFast_query permits _) fun info => ?_
      cases info with
      | none => exact ih none
      | some m =>
          dsimp only
          split
          · exact Session.failFast_pure _
          · exact ih (some m)

theorem failFast_setRfidData (record : Bytes) :
    Session.FailFast (IsProvisionCall record)
      (transport.setRfidData record) := by
  refine (failFast_failIf _ _).bind fun _ => ?_
  refine (failFast_transportCall (.inl rfl)).bind fun _ => ?_
  refine (failFast_failIf _ _).bind fun _ => ?_
  exact (failFast_transportCall (.inr (.inl rfl))).bind fun _ =>
    Session.failFast_pure _

theorem failFast_provisionMaterial (mat : RfidMaterial) :
    Session.FailFast (IsProvisionCall mat.encode.val)
      (transport.provisionMaterial mat) := by
  unfold provisionMaterial
  generalize mat.encode.val = record
  generalize hexUpper mat.uuidBytes = expected
  have reads : IsProvisionCall record (.sendCmd cmdReturnMat 0#16) :=
    .inr (.inr ⟨cmdReturnMat, List.mem_singleton_self _, rfl⟩)
  refine (transport.failFast_setRfidData record).bind fun _ => ?_
  refine (transport.failFast_settle reads _ _).bind fun settled => ?_
  rcases settled with m | _ | m
  · exact Session.failFast_pure _
  · exact Session.failFast_throw _
  · exact Session.failFast_throw _

end Transport

end FailFast

end SupvanCups
