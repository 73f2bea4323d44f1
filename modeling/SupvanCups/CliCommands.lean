import SupvanCups.CliArguments
import SupvanCups.PrinterCommands
import SupvanCups.ShortLabels
import SupvanCups.SwatchLadder
import SupvanCups.TwoColourCards

/-!
# Commands of the diagnostic tool

Each command opens a printer and talks to it directly.  A command is a session
of transport calls; what it prints on the terminal is left out, except for the
opcodes that `probe-reads` finds implemented.  `discover` is not among them: it
opens no printer, and only prints what the searches over USB, Bluetooth and BLE
find.

`probe-reads` refuses the firmware range and the opcodes on a list of those
that write or move paper.  The list leaves some out: 0x35, which sets the print
density, and the opcodes that end a page or announce bulk data are sent when
they are asked for.  Every other command sends an opcode that is refused only
if that is what the command is for.
-/

namespace SupvanCups

/-! ### Opcodes -/

def cmdCheckRib : U8 := 0x19#8
def cmdStrdMat : U8 := 0x18#8
def cmdRdLabDpi : U8 := 0x22#8
def cmdSetLabYinwei : U8 := 0x25#8
def cmdRdHdYinwei : U8 := 0x26#8
def cmdSetHdYinwei : U8 := 0x27#8
def bltcmdHtimeRd : U8 := 0x2B#8
def bltcmdHtimeSet : U8 := 0x2C#8
def cmdRdConlabYinwei : U8 := 0x31#8
def cmdSetPrtmode : U8 := 0x33#8
def cmdSetBltcontrol : U8 := 0x37#8
def cmdSetRlYinwei : U8 := 0x38#8
def cmdSetTbYinwei : U8 := 0x39#8
def cmdReadPowerOffTime : U8 := 0x41#8
def cmdSetPowerOffTime : U8 := 0x42#8
def cmdReadBuzzerKey : U8 := 0x43#8
def cmdSetBuzzerKey : U8 := 0x44#8
def cmdRdUserInf : U8 := 0x58#8
def cmdAdjReadData : U8 := 0x60#8
def cmdAdjWriteData : U8 := 0x61#8
def cmdAdjRestoreFactory : U8 := 0x62#8
def cmdRdDevOpt : U8 := 0x67#8
def cmdWrDevOpt : U8 := 0x68#8
def bltcmdRdDevPar : U8 := 0x69#8
def bltcmdWrDevPar : U8 := 0x6A#8
def cmdAdjWriteStart : U8 := 0x6F#8
def cmdSetTimestamp : U8 := 0xB0#8
def cmdRdTimestamp : U8 := 0xB1#8
def cmdAdjRdContinue : U8 := 0xB2#8
def cmdMatAuthenResult : U8 := 0xB6#8
def cmdPaperBack : U8 := 0xBA#8
def cmdSetOptlevel : U8 := 0xBE#8

/-- Opcodes outside the firmware range that are refused because they write or
move paper.  Not all of that kind are here: 0x35, which sets the print density,
is not. -/
def deniedOpcodes : List U8 :=
  [cmdAdjRestoreFactory, cmdAdjWriteData, cmdAdjWriteStart, cmdWrDevOpt,
    bltcmdWrDevPar, cmdSetRfidData, cmdPaperBack, cmdPaperSkip, cmdStartPrint,
    cmdSetTimestamp, cmdSetOptlevel, cmdSetLabYinwei, cmdSetHdYinwei,
    cmdSetRlYinwei, cmdSetTbYinwei, cmdSetBltcontrol, cmdSetPowerOffTime,
    cmdSetBuzzerKey, cmdSetPrtmode, bltcmdHtimeSet]

def isProbeSafe (op : U8) : Bool :=
  if 0xC0#8 ≤ op && op ≤ 0xEF#8 then false
  else !deniedOpcodes.contains op

/-- An opcode that `probe-reads` may send. -/
abbrev SafeOpcode := { op : U8 // isProbeSafe op = true }

/-- The number an opcode is written as, hexadecimal after `0x`. -/
def parseOpcodeNumber : Text → Option U8
  | '0' :: 'x' :: hex => (parseUnsigned 16 256 hex).map (BitVec.ofNat 8)
  | '0' :: 'X' :: hex => (parseUnsigned 16 256 hex).map (BitVec.ofNat 8)
  | text => parseU8 text

def parseOpcode (text : Text) : Except String SafeOpcode := do
  let op ← okOr ("bad opcode " ++ quoted text) (parseOpcodeNumber text)
  if safe : isProbeSafe op = true then
    return ⟨op, safe⟩
  else
    throw ("0x" ++ hexUpper [op] ++
      " writes, moves paper, or is in the firmware range")

/-! ### Sessions -/

inductive CliError
  | proto (error : ProtoError)
  | message (text : String)
  | panicked

abbrev CliSession (α : Type) := Session TransportCall TransportReply CliError α

def CliSession.ofOperation {α : Type} (operation : Operation α) :
    CliSession α :=
  operation.mapError .proto

/-- What the commands work with: the parsers of the transport and the parts of
the image paths that are not modelled here. -/
structure CliTools where
  transport : Transport
  names : NameParsers
  encoder : Codec
  luma : Luma

structure LabelArgs where
  width : U8 := 40#8
  length : U8 := 30#8
  gap : U8 := 3#8

def heatPresetBlackMark : U16 × U16 := (1800#16, 1300#16)
def heatPresetCardstock : U16 × U16 := (2500#16, 2000#16)

def buildMaterial (label : LabelArgs) (heat : U16 × U16) (count : U32)
    (matType : U8) (code : U16) : RfidMaterial where
  widthMm := label.width
  lengthMm := label.length
  gapMm := label.gap
  heatTime5 := heat.1
  heatTime40 := heat.2
  remaining := count
  matType := matType
  code := code

/-- The material that a test print assumes without a label. -/
def assumedMaterial : MaterialInfo where
  uuid := ""
  code := ""
  sn := 0#16
  labelType := 0#8
  widthMm := BitVec.ofNat 8 printheadWidthMm
  heightMm := BitVec.ofNat 8 defaultLabelHeightMm
  gapMm := 3#8
  remaining := none
  deviceSn := none

namespace CliTools

variable (tools : CliTools)

open CliSession (ofOperation)

def cmdProbe : CliSession Unit := do
  let present ← ofOperation tools.transport.checkDevice
  if !present then throw (.message "device check: no response")
  let _ ← ofOperation tools.transport.queryStatus
  let _ ← ofOperation tools.names.readDeviceName
  let _ ← ofOperation tools.names.readFirmwareVersion
  let _ ← ofOperation tools.names.readVersion
  let _ ← ofOperation tools.transport.queryMaterial

def cmdMaterial : CliSession MaterialInfo := do
  let present ← ofOperation tools.transport.checkDevice
  if !present then throw (.message "device not responding")
  match ← ofOperation tools.transport.queryMaterial with
  | some mat => return mat
  | none =>
      throw (.message "no material info (label not installed?)")

/-- Print a page that was made; a page that panics is never sent. -/
def printPage (page : Option (Except ProtoError ReadyPage)) :
    CliSession Unit :=
  match page with
  | none => throw .panicked
  | some page => ofOperation (sendPage tools.transport page)

def cmdTestPrint (density : Density) (savePaper : Bool) : CliSession Unit := do
  let mat ← ofOperation tools.transport.queryMaterial
  tools.printPage (testPage tools.encoder (mat.getD assumedMaterial) density
    { savePaper := savePaper })

def cmdFeed : CliSession Unit :=
  ofOperation tools.transport.paperSkip

/-- A record that is not taken is a warning only. -/
def provision (mat : RfidMaterial) : CliSession Unit :=
  (tools.transport.provisionMaterial mat).attempt

def cmdProvision (label : LabelArgs) (heat : Option (U16 × U16)) (count : U32)
    (matType : U8) (code : U16) : CliSession Unit :=
  tools.provision
    (buildMaterial label (heat.getD heatPresetStandard) count matType code)

def twoColourReady (width length : U8) (density : Density)
    (pattern : CardPattern) : Option (Except ProtoError ReadyPage) := do
  let (rgb, w, h) ←
    createTwoColourPattern (width.setWidth 32) (length.setWidth 32) pattern
  let buffers ← twoColourBuffers tools.luma rgb (BitVec.ofNat 32 w)
    (BitVec.ofNat 32 h) density
  readyPage tools.encoder buffers

def cmdTwoColor (width length : U8) (density : Density)
    (pattern : CardPattern) : CliSession Unit :=
  tools.printPage (tools.twoColourReady width length density pattern)

/-- The page of `gray-ramp`, dithered with the numbers `F`. -/
def grayRampReady (F : Type) [DitherFloat F] [DecidableLT F]
    (width length : U8) (dither : DitherMode) (steps : U32)
    (density : Density) (vertical : Bool) :
    Option (Except ProtoError ReadyPage) := do
  let (gray, w, h) ←
    if vertical then
      createGrayBands (width.setWidth 32) (length.setWidth 32) steps
    else createGrayRamp (width.setWidth 32) (length.setWidth 32) steps
  grayscalePage F tools.encoder gray (BitVec.ofNat 32 w) (BitVec.ofNat 32 h)
    density dither

def cmdGrayRamp (F : Type) [DitherFloat F] [DecidableLT F] (width length : U8)
    (dither : DitherMode) (steps : U32) (density : Density)
    (vertical : Bool) : CliSession Unit :=
  tools.printPage
    (tools.grayRampReady F width length dither steps density vertical)

/-- The page of one calibration strip. -/
def swatchReady (label : LabelArgs) (densities : List Density) :
    Option (Except ProtoError ReadyPage) := do
  let print ← swatchLadderBuffers (label.width.setWidth 32)
    (label.length.setWidth 32) densities
  readyPage tools.encoder (print.map SwatchPrint.buffers)

def sweepHeats (heats : List (U16 × U16)) : List (U16 × U16) :=
  if heats.isEmpty then
    [heatPresetStandard, heatPresetBlackMark, heatPresetCardstock]
  else heats

/-- One strip for each heat profile, each after a record of its own. -/
def sweepStrips (label : LabelArgs) (densities : List Density) :
    List (U16 × U16) → CliSession Unit
  | [] => return ()
  | heat :: heats => do
      tools.provision (buildMaterial label heat 480#32 1#8 30000#16)
      tools.printPage (tools.swatchReady label densities)
      sweepStrips label densities heats

def cmdHeatSweep (label : LabelArgs) (heats : List (U16 × U16))
    (densities : List Density) : CliSession Unit :=
  tools.sweepStrips label densities (sweepHeats heats)

end CliTools

/-! ### Probing -/

/-- Opcodes of the largest hole in the table. -/
def unallocatedOpcodes : List U8 := [0x50#8, 0x51#8]

/-- Leading bytes of a reply that are compared. -/
def compareLen : Nat := 16

def replyHead (resp : Bytes) : Bytes :=
  resp.take compareLen

/-- The read-only opcodes that `probe-reads` asks about. -/
def probeReadOpcodes : List U8 :=
  [cmdStrdMat, bltcmdHtimeRd, cmdRdHdYinwei, cmdRdConlabYinwei,
    cmdReadPowerOffTime, cmdReadBuzzerKey, cmdRdUserInf, cmdAdjReadData,
    cmdRdDevOpt, bltcmdRdDevPar, cmdRdTimestamp, cmdAdjRdContinue,
    cmdMatAuthenResult, cmdCheckRib, cmdRdLabDpi]

namespace CliTools

variable (tools : CliTools)

open CliSession (ofOperation)

/-- The head of the first reply to an unallocated opcode. -/
def calibrate : List U8 → Option Bytes → CliSession (Option Bytes)
  | [], baseline => return baseline
  | op :: ops, baseline => do
      let resp ← ofOperation (Transport.probeRaw op 0#16)
      calibrate ops (baseline <|> resp.map replyHead)

def abortingAfter (op : U8) (errs : String) : CliError :=
  .message ("aborting after 0x" ++ hexUpper [op] ++ ": printer reports " ++
    errs)

/-- Ask about each opcode and look at the status after it; keep those whose
reply differs from that of an unallocated opcode. -/
def probeEach (baseline : Bytes) :
    List U8 → List U8 → CliSession (List U8)
  | [], implemented => return implemented
  | op :: ops, implemented => do
      let resp ← ofOperation (Transport.probeRaw op 0#16)
      let differs := resp.any fun r => replyHead r != baseline
      let status ← ofOperation tools.transport.queryStatus
      match status.bind PrinterStatus.errorDescription with
      | some errs => throw (abortingAfter op errs)
      | none =>
          probeEach baseline ops (implemented ++ if differs then [op] else [])

def cmdProbeReads (also : List SafeOpcode) : CliSession (List U8) := do
  let control ← ofOperation (Transport.probeRaw cmdCheckDevice 0#16)
  if control.isNone then
    throw (.message ("control probe got no response — check the link " ++
      "before trusting results"))
  match ← calibrate unallocatedOpcodes none with
  | none =>
      throw (.message
        "unallocated opcodes gave no response; cannot calibrate")
  | some baseline =>
      tools.probeEach baseline
        (probeReadOpcodes ++ also.map Subtype.val) []

/-- Reverse feed, once a reply to an unallocated opcode has been seen.  Whether
the reply to `PAPER_BACK` differs from it. -/
def cmdPaperBack (param : U16) : CliSession Bool := do
  match ← ofOperation (Transport.probeRaw 0x50#8 0#16) with
  | none =>
      throw (.message
        "unallocated opcode gave no response; cannot calibrate")
  | some baseline => do
      let _ ← ofOperation tools.transport.queryStatus
      let resp ← ofOperation (Transport.probeRaw SupvanCups.cmdPaperBack
        param)
      let _ ← ofOperation tools.transport.queryStatus
      return resp.any fun r => replyHead r != replyHead baseline

end CliTools

/-! ### The command line -/

/-- A command that opens a printer, with its arguments beside the target. -/
inductive CliCommand
  | probe
  | material
  | testPrint (density : Density) (savePaper : Bool)
  | feed
  | provision (label : LabelArgs) (heat : Option (U16 × U16)) (count : U32)
      (code : U16) (matType : U8)
  | heatSweep (label : LabelArgs) (heats : List (U16 × U16))
      (densities : List Density)
  | twoColor (width length : U8) (density : Density) (pattern : CardPattern)
  | grayRamp (width length : U8) (dither : DitherMode) (steps : U32)
      (density : Density) (vertical : Bool)
  | probeReads (also : List SafeOpcode)
  | paperBack (param : U16)

/-- Run a command on a printer; whatever it finds is printed. -/
def CliCommand.run (F : Type) [DitherFloat F] [DecidableLT F]
    (tools : CliTools) : CliCommand → CliSession Unit
  | probe => tools.cmdProbe
  | material => do
      let _ ← tools.cmdMaterial
  | testPrint density savePaper => tools.cmdTestPrint density savePaper
  | feed => tools.cmdFeed
  | provision label heat count code matType =>
      tools.cmdProvision label heat count matType code
  | heatSweep label heats densities =>
      tools.cmdHeatSweep label heats densities
  | twoColor width length density pattern =>
      tools.cmdTwoColor width length density pattern
  | grayRamp width length dither steps density vertical =>
      tools.cmdGrayRamp F width length dither steps density vertical
  | probeReads also => do
      let _ ← tools.cmdProbeReads also
  | paperBack param => do
      let _ ← tools.cmdPaperBack param

end SupvanCups
