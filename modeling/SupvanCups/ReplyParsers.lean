import SupvanCups.PrinterStatus
import Mathlib.Data.List.DropRight

/-!
# Parsers of replies

The parsers once more, with every index and slice checked: a read outside the
reply, a slice outside it and a length below zero are panics.  Each parser asks
for as many bytes as it reads, so that none of them panics, and the checked
parsers are the ones that read zero outside.
-/

namespace SupvanCups

def cmdRdDevName : U8 := 0x16#8
def cmdReadRev : U8 := 0x17#8
def cmdReadFwver : U8 := 0xC5#8

/-- Framing bytes that the length of a name reply counts before the name. -/
def devNamePayloadPrefix : Nat := 18

/-- `String::from_utf8_lossy`, without the zeros at the end. -/
def trimmedText (bytes : Bytes) : String :=
  .ofList ((fromUtf8Lossy bytes.length bytes).rdropWhile (· == '\x00'))

/-- Where the payload that a frame declares ends: bytes 2 and 3 count what
follows them. -/
def declaredEnd (data : Bytes) : Nat :=
  4 + (wordOf data 2).toNat

/-- A name is the text of bytes after the header, inside both the frame and the
payload that it declares. -/
def NameWithin (data : Bytes) (name : String) : Prop :=
  ∃ count, btRespHeaderLen + count ≤ data.length ∧
    btRespHeaderLen + count ≤ declaredEnd data ∧
    name = trimmedText ((data.drop btRespHeaderLen).take count)

/-! ### Checked parsers

The outer `none` is a panic, the inner one a reply that is not accepted. -/

namespace Checked

/-- `data[index]`. -/
def read (data : Bytes) (index : Nat) : Option U8 :=
  data[index]?

/-- `u16::from_le_bytes([data[index], data[index + 1]])`. -/
def readLe16 (data : Bytes) (index : Nat) : Option U16 := do
  let low ← read data index
  let high ← read data (index + 1)
  pure (BitVec.ofNat 16 (fromLeBytes low high))

/-- A difference of lengths. -/
def sub (length amount : Nat) : Option Nat :=
  if amount ≤ length then some (length - amount) else none

/-- The comparisons stop at the first that fails. -/
def checkHeader (data : Bytes) (minLen : Nat) (cmd : U8) : Option Bool :=
  if minLen ≤ data.length then do
    let first ← read data 0
    if first = magic1 then
      let second ← read data 1
      if second = magic2 then
        let echoed ← read data 7
        pure (echoed == cmd)
      else
        pure false
    else
      pure false
  else
    pure false

def validateResponse (data : Bytes) (expectedCmd : U8) : Option Bool :=
  checkHeader data 8 expectedCmd

def parseStatus (data : Bytes) : Option (Option PrinterStatus) :=
  if data.length < 20 then
    pure none
  else do
    let first ← read data 0
    let otherMagic ←
      if first = magic1 then (read data 1).map (· != magic2) else pure true
    if otherMagic then
      pure none
    else
      let echoed ← read data 7
      if echoed = cmdInquirySta then
        let b0 ← read data 14
        let b1 ← read data 15
        let b2 ← read data 16
        let b3 ← read data 17
        let printCount ← readLe16 data 18
        pure (some (decodeStatusBits b0 b1 b2 b3 printCount))
      else
        pure none

def readRemaining (p : Bytes) : Option (Option U32) :=
  if 25 ≤ p.length then do
    let b0 ← read p 21
    let b1 ← read p 22
    let b2 ← read p 23
    let b3 ← read p 24
    pure (some (BitVec.ofNat 32
      (fromLeBytes b0 b1 + 65536 * fromLeBytes b2 b3)))
  else
    pure none

def parseMaterialPayload (p : Bytes) (deviceSnAscii : Option String) :
    Option (Option MaterialInfo) :=
  if p.length < 21 then
    pure none
  else do
    let uuid ← getRange p 0 7
    let code ← getRange p 7 15
    let sn ← readLe16 p 15
    let labelType ← read p 17
    let widthMm ← read p 18
    let heightMm ← read p 19
    let gapMm ← read p 20
    let remaining ← readRemaining p
    pure (some
      { uuid := hexUpper uuid
        code := hexUpper code
        sn := sn
        labelType := labelType
        widthMm := widthMm
        heightMm := heightMm
        gapMm := gapMm
        remaining := remaining
        deviceSn := deviceSnAscii })

def parseMaterial (data : Bytes) : Option (Option MaterialInfo) := do
  let accepted ← checkHeader data btRespHeaderLen cmdReturnMat
  if accepted then
    let payload ← getRange data btRespHeaderLen data.length
    parseMaterialPayload payload none
  else
    pure none

/-- Parse a name reply, which declares the length of its payload. -/
def parseDeviceName (data : Bytes) : Option (Option String) := do
  let accepted ← checkHeader data (btRespHeaderLen + 1) cmdRdDevName
  if accepted then
    let payloadLen ← readLe16 data 2
    let dataLen := payloadLen.toNat - devNamePayloadPrefix
    if dataLen = 0 then
      pure none
    else
      let room ← sub data.length btRespHeaderLen
      if room < dataLen then
        pure none
      else
        let bytes ← getRange data btRespHeaderLen (btRespHeaderLen + dataLen)
        let name := trimmedText bytes
        pure (if name.isEmpty then none else some name)
  else
    pure none

def parseFirmwareVersion (data : Bytes) : Option (Option U8) := do
  let accepted ← checkHeader data (btRespHeaderLen + 1) cmdReadFwver
  if accepted then (read data btRespHeaderLen).map some else pure none

def parseVersion (data : Bytes) : Option (Option String) := do
  let accepted ← checkHeader data (btRespHeaderLen + 3) cmdReadRev
  if accepted then
    let bytes ← getRange data btRespHeaderLen (btRespHeaderLen + 3)
    let ver := trimmedText bytes
    pure (if ver.isEmpty then none else some ver)
  else
    pure none

def usbDeviceSn (resp : Bytes) : Option (Option String) :=
  if usbDeviceSnOffset < resp.length then do
    let tail ← getRange resp usbDeviceSnOffset resp.length
    let text ← getRange tail 0 (tail.findIdx (· == 0#8))
    let serial := String.ofList (fromUtf8Lossy text.length text)
    pure (if serial.isEmpty then none else some serial)
  else
    pure none

def parseUsbMaterial (resp : Bytes) : Option (Option MaterialInfo) :=
  if resp.length < 22 then
    pure none
  else do
    let devSn ← usbDeviceSn resp
    let payload ← getRange resp 1 resp.length
    parseMaterialPayload payload devSn

def parseUsbStatus (resp : Bytes) : Option (Option PrinterStatus) :=
  if resp.length < 7 then
    pure none
  else do
    let b0 ← read resp 1
    let b1 ← read resp 2
    let b2 ← read resp 3
    let b3 ← read resp 4
    let printCount ← readLe16 resp 5
    pure (some (decodeStatusBits b0 b1 b2 b3 printCount))

/-! ### No parser panics -/

section Reads

variable {data : Bytes} {index : Nat}

theorem read_eq (inside : index < data.length) :
    read data index = some (byteOf data index) := by
  rw [read, byteOf, List.getD_eq_getElem?_getD,
    List.getElem?_eq_getElem inside, Option.getD_some]

theorem readLe16_eq (inside : index + 1 < data.length) :
    readLe16 data index = some (wordOf data index) := by
  rw [readLe16, read_eq (Nat.lt_of_succ_lt inside), read_eq inside]
  rfl

theorem getRange_eq {start stop : Nat} (inOrder : start ≤ stop)
    (inside : stop ≤ data.length) :
    getRange data start stop = some ((data.drop start).take (stop - start)) :=
  if_pos ⟨inOrder, inside⟩

theorem getRange_rest {start : Nat} (inside : start ≤ data.length) :
    getRange data start data.length = some (data.drop start) := by
  rw [getRange_eq inside le_rfl, List.take_of_length_le]
  rw [List.length_drop]

end Reads

/-- A guard for at least eight bytes covers the bytes that it compares. -/
theorem checkHeader_eq (data : Bytes) {minLen : Nat} (guarded : 8 ≤ minLen)
    (cmd : U8) :
    checkHeader data minLen cmd =
      some (SupvanCups.checkHeader data minLen cmd) := by
  rw [checkHeader, SupvanCups.checkHeader]
  by_cases long : minLen ≤ data.length
  · rw [if_pos long, read_eq (by omega), read_eq (by omega), read_eq (by omega)]
    simp only [long, Option.bind_eq_bind, Option.bind_some, Option.pure_def,
      decide_true, Bool.true_and]
    by_cases first : byteOf data 0 = magic1
    · by_cases second : byteOf data 1 = magic2
      · simp [first, second]
      · simp [first, second]
    · simp [first]
  · simp [long]

theorem validateResponse_eq (data : Bytes) (expectedCmd : U8) :
    validateResponse data expectedCmd =
      some (SupvanCups.validateResponse data expectedCmd) :=
  checkHeader_eq data le_rfl expectedCmd

theorem length_of_checkHeader {data : Bytes} {minLen : Nat} {cmd : U8}
    (accepted : SupvanCups.checkHeader data minLen cmd = true) :
    minLen ≤ data.length := by
  simp only [SupvanCups.checkHeader, Bool.and_eq_true, decide_eq_true_eq]
    at accepted
  exact accepted.1.1.1

theorem parseStatus_eq (data : Bytes) :
    parseStatus data = some (SupvanCups.parseStatus data) := by
  rw [parseStatus, SupvanCups.parseStatus]
  by_cases short : data.length < 20
  · rw [if_pos short, if_pos short]
    rfl
  · rw [if_neg short, if_neg short, read_eq (by omega), read_eq (by omega),
      read_eq (by omega), read_eq (by omega), read_eq (by omega),
      read_eq (by omega), read_eq (by omega), readLe16_eq (by omega)]
    by_cases first : byteOf data 0 = magic1
    · by_cases second : byteOf data 1 = magic2
      · by_cases echoed : byteOf data 7 = cmdInquirySta
        · simp [first, second, echoed]
        · simp [first, second, echoed]
      · simp [first, second]
    · simp [first]

theorem readRemaining_eq (p : Bytes) :
    readRemaining p = some (if 25 ≤ p.length then
      some (BitVec.ofNat 32 (fromLeBytes (byteOf p 21) (byteOf p 22) +
        65536 * fromLeBytes (byteOf p 23) (byteOf p 24))) else none) := by
  rw [readRemaining]
  by_cases counted : 25 ≤ p.length
  · rw [if_pos counted, if_pos counted, read_eq (by omega), read_eq (by omega),
      read_eq (by omega), read_eq (by omega)]
    rfl
  · rw [if_neg counted, if_neg counted]
    rfl

theorem parseMaterialPayload_eq (p : Bytes) (deviceSnAscii : Option String) :
    parseMaterialPayload p deviceSnAscii =
      some (SupvanCups.parseMaterialPayload p deviceSnAscii) := by
  rw [parseMaterialPayload, SupvanCups.parseMaterialPayload]
  by_cases short : p.length < 21
  · rw [if_pos short, if_pos short]
    rfl
  · rw [if_neg short, if_neg short, getRange_eq (by omega) (by omega),
      getRange_eq (by omega) (by omega), readLe16_eq (by omega),
      read_eq (by omega), read_eq (by omega), read_eq (by omega),
      read_eq (by omega), readRemaining_eq]
    rfl

theorem parseMaterial_eq (data : Bytes) :
    parseMaterial data = some (SupvanCups.parseMaterial data) := by
  rw [parseMaterial, checkHeader_eq data (by decide), SupvanCups.parseMaterial]
  cases accepted : SupvanCups.checkHeader data btRespHeaderLen cmdReturnMat with
  | false => rfl
  | true =>
      simp only [Option.bind_eq_bind, Option.bind_some, if_true,
        getRange_rest (length_of_checkHeader accepted),
        parseMaterialPayload_eq]

theorem usbDeviceSn_eq (resp : Bytes) :
    usbDeviceSn resp = some (SupvanCups.usbDeviceSn resp) := by
  rw [usbDeviceSn, SupvanCups.usbDeviceSn]
  by_cases long : usbDeviceSnOffset < resp.length
  · have upToZero (tail : Bytes) :
        getRange tail 0 (tail.findIdx (· == 0#8)) =
          some (tail.takeWhile (· != 0#8)) := by
      rw [getRange_eq (Nat.zero_le _) List.findIdx_le_length, List.drop_zero,
        Nat.sub_zero, List.takeWhile_eq_take_findIdx_not]
      simp only [bne, Bool.not_not]
    simp only [if_pos long, getRange_rest long.le, upToZero,
      Option.bind_eq_bind, Option.bind_some, Option.pure_def]
  · rw [if_neg long, if_neg long]
    rfl

theorem parseUsbMaterial_eq (resp : Bytes) :
    parseUsbMaterial resp = some (SupvanCups.parseUsbMaterial resp) := by
  rw [parseUsbMaterial, SupvanCups.parseUsbMaterial]
  by_cases short : resp.length < 22
  · rw [if_pos short, if_pos short]
    rfl
  · rw [if_neg short, if_neg short, usbDeviceSn_eq, getRange_rest (by omega)]
    exact parseMaterialPayload_eq _ _

theorem parseUsbStatus_eq (resp : Bytes) :
    parseUsbStatus resp = some (SupvanCups.parseUsbStatus resp) := by
  rw [parseUsbStatus, SupvanCups.parseUsbStatus]
  by_cases short : resp.length < 7
  · rw [if_pos short, if_pos short]
    rfl
  · rw [if_neg short, if_neg short, read_eq (by omega), read_eq (by omega),
      read_eq (by omega), read_eq (by omega), readLe16_eq (by omega)]
    rfl

/-- The declared length is checked against the frame before it is used. -/
theorem parseDeviceName_within (data : Bytes) :
    ∃ result, parseDeviceName data = some result ∧
      ∀ name, result = some name → NameWithin data name := by
  rw [parseDeviceName, checkHeader_eq data (by decide)]
  cases accepted :
      SupvanCups.checkHeader data (btRespHeaderLen + 1) cmdRdDevName with
  | false => exact ⟨none, rfl, by simp⟩
  | true =>
      have long : 23 ≤ data.length := length_of_checkHeader accepted
      have roomEq : sub data.length btRespHeaderLen =
          some (data.length - btRespHeaderLen) :=
        if_pos (Nat.le_of_succ_le long)
      simp only [Option.bind_eq_bind, Option.bind_some, if_true,
        readLe16_eq (by omega : 2 + 1 < data.length), roomEq]
      by_cases empty : (wordOf data 2).toNat - devNamePayloadPrefix = 0
      · rw [if_pos empty]
        exact ⟨none, rfl, by simp⟩
      · rw [if_neg empty]
        by_cases cut : data.length - btRespHeaderLen <
            (wordOf data 2).toNat - devNamePayloadPrefix
        · rw [if_pos cut]
          exact ⟨none, rfl, by simp⟩
        · have inFrame : btRespHeaderLen +
              ((wordOf data 2).toNat - devNamePayloadPrefix) ≤
                data.length := by
            rw [btRespHeaderLen] at cut ⊢
            omega
          have inPayload : btRespHeaderLen +
              ((wordOf data 2).toNat - devNamePayloadPrefix) ≤
                declaredEnd data := by
            rw [devNamePayloadPrefix] at empty ⊢
            rw [btRespHeaderLen, declaredEnd]
            omega
          rw [if_neg cut, getRange_eq (Nat.le_add_right _ _) inFrame,
            Nat.add_sub_cancel_left]
          refine ⟨_, rfl, ?_⟩
          intro name named
          split_ifs at named
          exact ⟨_, inFrame, inPayload, (Option.some.inj named).symm⟩

theorem parseFirmwareVersion_runs (data : Bytes) :
    ∃ result, parseFirmwareVersion data = some result := by
  rw [parseFirmwareVersion, checkHeader_eq data (by decide)]
  cases accepted :
      SupvanCups.checkHeader data (btRespHeaderLen + 1) cmdReadFwver with
  | false => exact ⟨none, rfl⟩
  | true =>
      have long := length_of_checkHeader accepted
      simp only [Option.bind_eq_bind, Option.bind_some, if_true, read_eq long]
      exact ⟨_, rfl⟩

theorem parseVersion_runs (data : Bytes) :
    ∃ result, parseVersion data = some result := by
  rw [parseVersion, checkHeader_eq data (by decide)]
  cases accepted :
      SupvanCups.checkHeader data (btRespHeaderLen + 3) cmdReadRev with
  | false => exact ⟨none, rfl⟩
  | true =>
      have long := length_of_checkHeader accepted
      simp only [Option.bind_eq_bind, Option.bind_some, if_true,
        getRange_eq (Nat.le_add_right _ _) long]
      exact ⟨_, rfl⟩

end Checked

/-- No parser panics on a reply, and a name comes from inside it. -/
structure ReplySafe (data : Bytes) : Prop where
  status : ∃ result, Checked.parseStatus data = some result
  material : ∃ result, Checked.parseMaterial data = some result
  materialPayload : ∀ deviceSnAscii, ∃ result,
    Checked.parseMaterialPayload data deviceSnAscii = some result
  deviceName : ∃ result, Checked.parseDeviceName data = some result ∧
    ∀ name, result = some name → NameWithin data name
  firmwareVersion : ∃ result, Checked.parseFirmwareVersion data = some result
  version : ∃ result, Checked.parseVersion data = some result
  validate : ∀ expectedCmd, ∃ result,
    Checked.validateResponse data expectedCmd = some result
  usbStatus : ∃ result, Checked.parseUsbStatus data = some result
  usbMaterial : ∃ result, Checked.parseUsbMaterial data = some result

/-- Every byte string is safe to parse. -/
theorem replySafe (data : Bytes) : ReplySafe data where
  status := ⟨_, Checked.parseStatus_eq data⟩
  material := ⟨_, Checked.parseMaterial_eq data⟩
  materialPayload deviceSnAscii :=
    ⟨_, Checked.parseMaterialPayload_eq data deviceSnAscii⟩
  deviceName := Checked.parseDeviceName_within data
  firmwareVersion := Checked.parseFirmwareVersion_runs data
  version := Checked.parseVersion_runs data
  validate expectedCmd := ⟨_, Checked.validateResponse_eq data expectedCmd⟩
  usbStatus := ⟨_, Checked.parseUsbStatus_eq data⟩
  usbMaterial := ⟨_, Checked.parseUsbMaterial_eq data⟩

end SupvanCups
