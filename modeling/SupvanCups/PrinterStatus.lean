import SupvanCups.WireFrames

/-!
# Printer status and material records

What the printer reports about itself: the status flags of `INQUIRY_STA` and
the material record of `RETURN_MAT`.  Both links carry the same registers and
the same record at different offsets.
-/

namespace SupvanCups

structure PrinterStatus where
  bufFull : Bool := false
  labelRwError : Bool := false
  labelEnd : Bool := false
  labelModeError : Bool := false
  ribbonRwError : Bool := false
  ribbonEnd : Bool := false
  lowBattery : Bool := false
  deviceBusy : Bool := false
  headTempHigh : Bool := false
  coverOpen : Bool := false
  insertUsb : Bool := false
  printing : Bool := false
  labelNotInstalled : Bool := false
  printCount : U16 := 0#16
  regs : U8 × U8 × U8 × U8 := (0#8, 0#8, 0#8, 0#8)
  deriving DecidableEq

namespace PrinterStatus

/-- Error flags with their descriptions, in report order. -/
def errorFlags (status : PrinterStatus) : List (Bool × String) :=
  [(status.labelRwError, "label read/write error"),
    (status.labelEnd, "label roll end"),
    (status.labelModeError, "label mode mismatch"),
    (status.ribbonRwError, "ribbon read/write error"),
    (status.ribbonEnd, "ribbon end"),
    (status.coverOpen, "cover open"),
    (status.headTempHigh, "printhead temperature too high"),
    (status.labelNotInstalled, "label not installed")]

def hasError (status : PrinterStatus) : Bool :=
  status.errorFlags.any Prod.fst

def errorDescription (status : PrinterStatus) : Option String :=
  let errors := status.errorFlags.filterMap fun flag =>
    if flag.1 then some flag.2 else none
  if errors.isEmpty then none else some (String.intercalate ", " errors)

/-- A status has a description exactly when an error flag is set. -/
theorem errorDescription_isSome (status : PrinterStatus) :
    status.errorDescription.isSome = status.hasError := by
  have listed : (status.errorFlags.filterMap fun flag =>
      if flag.1 then some flag.2 else none).isEmpty =
        !status.errorFlags.any Prod.fst := by
    induction status.errorFlags with
    | nil => rfl
    | cons flag flags ih =>
        cases raised : flag.1 <;> simp [raised, ih]
  simp only [errorDescription, hasError, listed]
  cases status.errorFlags.any Prod.fst <;> rfl

end PrinterStatus

structure MaterialInfo where
  uuid : String
  code : String
  sn : U16
  labelType : U8
  widthMm : U8
  heightMm : U8
  gapMm : U8
  remaining : Option U32
  deviceSn : Option String
  deriving DecidableEq

/-- The status that the four registers and the print counter stand for. -/
def decodeStatusBits (b0 b1 b2 b3 : U8) (printCount : U16) : PrinterStatus where
  bufFull := b0 &&& 0x01#8 != 0#8
  labelRwError := b0 &&& 0x02#8 != 0#8
  labelEnd := b0 &&& 0x04#8 != 0#8
  labelModeError := b0 &&& 0x08#8 != 0#8
  ribbonRwError := b0 &&& 0x10#8 != 0#8
  ribbonEnd := b0 &&& 0x20#8 != 0#8
  lowBattery := b0 &&& 0x40#8 != 0#8
  deviceBusy := b1 &&& 0x04#8 != 0#8
  headTempHigh := b1 &&& 0x08#8 != 0#8
  coverOpen := b2 &&& 0x08#8 != 0#8
  insertUsb := b2 &&& 0x10#8 != 0#8
  printing := b2 &&& 0x40#8 != 0#8
  labelNotInstalled := b3 &&& 0x01#8 != 0#8
  printCount := printCount
  regs := (b0, b1, b2, b3)

/-- Byte `index` of a response; the parsers check the length before they
read. -/
def byteOf (data : Bytes) (index : Nat) : U8 :=
  data.getD index 0#8

def wordOf (data : Bytes) (index : Nat) : U16 :=
  BitVec.ofNat 16 (fromLeBytes (byteOf data index) (byteOf data (index + 1)))

def btRespHeaderLen : Nat := 22

/-- Long enough, starts with the protocol magic and echoes the command. -/
def checkHeader (data : Bytes) (minLen : Nat) (cmd : U8) : Bool :=
  minLen ≤ data.length && byteOf data 0 == magic1 &&
    byteOf data 1 == magic2 && byteOf data 7 == cmd

def validateResponse (data : Bytes) (expectedCmd : U8) : Bool :=
  checkHeader data 8 expectedCmd

def parseStatus (data : Bytes) : Option PrinterStatus :=
  if data.length < 20 then none
  else if byteOf data 0 ≠ magic1 ∨ byteOf data 1 ≠ magic2 then none
  else if byteOf data 7 ≠ cmdInquirySta then none
  else
    some (decodeStatusBits (byteOf data 14) (byteOf data 15) (byteOf data 16)
      (byteOf data 17) (wordOf data 18))

def hexDigit (value : Nat) : Char :=
  ['0', '1', '2', '3', '4', '5', '6', '7', '8', '9',
    'A', 'B', 'C', 'D', 'E', 'F'].getD value '0'

def hexUpper (bytes : Bytes) : String :=
  String.ofList (bytes.flatMap fun byte =>
    [hexDigit (byte.toNat / 16), hexDigit (byte.toNat % 16)])

/-- The material record that both links carry. -/
def parseMaterialPayload (p : Bytes) (deviceSnAscii : Option String) :
    Option MaterialInfo :=
  if p.length < 21 then none
  else
    some
      { uuid := hexUpper (p.take 7)
        code := hexUpper ((p.drop 7).take 8)
        sn := wordOf p 15
        labelType := byteOf p 17
        widthMm := byteOf p 18
        heightMm := byteOf p 19
        gapMm := byteOf p 20
        remaining :=
          if 25 ≤ p.length then
            some (BitVec.ofNat 32 (fromLeBytes (byteOf p 21) (byteOf p 22) +
              65536 * fromLeBytes (byteOf p 23) (byteOf p 24)))
          else
            none
        deviceSn := deviceSnAscii }

def parseMaterial (data : Bytes) : Option MaterialInfo :=
  if checkHeader data btRespHeaderLen cmdReturnMat then
    parseMaterialPayload (data.drop btRespHeaderLen) none
  else
    none

/-! ### The same reports over USB -/

def isContinuation (byte : U8) : Bool :=
  0x80#8 ≤ byte && byte ≤ 0xBF#8

def utf8Char (lead : Nat) (continuation : Bytes) : Char :=
  Char.ofNat (continuation.foldl
    (fun value byte => value * 64 + byte.toNat % 64) lead)

/-- May `second` follow the lead byte of a multi-byte sequence? -/
def utf8SecondOk (lead second : U8) : Bool :=
  if lead = 0xE0#8 then 0xA0#8 ≤ second && second ≤ 0xBF#8
  else if lead = 0xED#8 then 0x80#8 ≤ second && second ≤ 0x9F#8
  else if lead = 0xF0#8 then 0x90#8 ≤ second && second ≤ 0xBF#8
  else if lead = 0xF4#8 then 0x80#8 ≤ second && second ≤ 0x8F#8
  else isContinuation second

/-- Continuation bytes that the lead byte asks for, if it is one. -/
def utf8Width (lead : U8) : Option Nat :=
  if lead < 0x80#8 then some 0
  else if 0xC2#8 ≤ lead ∧ lead ≤ 0xDF#8 then some 1
  else if 0xE0#8 ≤ lead ∧ lead ≤ 0xEF#8 then some 2
  else if 0xF0#8 ≤ lead ∧ lead ≤ 0xF4#8 then some 3
  else none

/-- The longest start of `rest` that can continue `lead`, up to `width`
bytes. -/
def utf8Continuation (lead : U8) (width : Nat) (rest : Bytes) : Bytes :=
  match rest with
  | [] => []
  | second :: more =>
      if 0 < width ∧ utf8SecondOk lead second then
        second :: (more.take (width - 1)).takeWhile isContinuation
      else
        []

/-- `String::from_utf8_lossy`: every malformed sequence becomes one
replacement character.  Each pass eats at least one byte, so as many passes as
bytes are enough. -/
def fromUtf8Lossy : Nat → Bytes → List Char
  | _, [] => []
  | 0, _ => []
  | passes + 1, lead :: rest =>
      match utf8Width lead with
      | none => '\uFFFD' :: fromUtf8Lossy passes rest
      | some width =>
          let continuation := utf8Continuation lead width rest
          let character :=
            if continuation.length = width then
              utf8Char (lead.toNat % 2 ^ (if width = 0 then 7 else 6 - width))
                continuation
            else
              '\uFFFD'
          character :: fromUtf8Lossy passes (rest.drop continuation.length)

def usbDeviceSnOffset : Nat := 40

/-- The null-terminated device serial that USB adds to a material report. -/
def usbDeviceSn (resp : Bytes) : Option String :=
  if usbDeviceSnOffset < resp.length then
    let tail := (resp.drop usbDeviceSnOffset).takeWhile (· != 0#8)
    let serial := String.ofList (fromUtf8Lossy tail.length tail)
    if serial.isEmpty then none else some serial
  else
    none

def parseUsbMaterial (resp : Bytes) : Option MaterialInfo :=
  if resp.length < 22 then none
  else parseMaterialPayload (resp.drop 1) (usbDeviceSn resp)

def parseUsbStatus (resp : Bytes) : Option PrinterStatus :=
  if resp.length < 7 then none
  else
    some (decodeStatusBits (byteOf resp 1) (byteOf resp 2) (byteOf resp 3)
      (byteOf resp 4) (wordOf resp 5))

end SupvanCups
