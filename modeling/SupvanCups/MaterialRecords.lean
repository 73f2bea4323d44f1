import SupvanCups.PrinterOperations

/-!
# Synthetic material records

Third-party stock carries no tag, so the driver writes a material record of its
own.  This file builds the record, and models how it is written and how the
printer is polled until it reports the record back.
-/

namespace SupvanCups

def rfidRecordLen : Nat := 80

/-- Every field but the UUID sits from here on. -/
def fieldBase : Nat := 16

def maxLabelWidthMm : U8 := 50#8
def maxLabelLengthMm : U8 := 120#8

/-- Heat times of standard stock, at 5 and at 40 degrees. -/
def heatPresetStandard : U16 × U16 := (1700#16, 1200#16)

def paperTypeDieCut : U8 := 1#8

/-- A material record to hand the printer in place of a tag. -/
structure RfidMaterial where
  code : U16 := 30000#16
  matType : U8 := paperTypeDieCut
  widthMm : U8 := 40#8
  lengthMm : U8 := 30#8
  gapMm : U8 := 3#8
  tailMm : U8 := 0#8
  customId : U8 := 1#8
  remaining : U32 := 480#32
  heatTime5 : U16 := heatPresetStandard.1
  heatTime40 : U16 := heatPresetStandard.2
  optThreshold : U16 × U16 := (0#16, 0#16)
  optIndex : U8 := 0#8
  heatIndex : U8 := 2#8
  deriving DecidableEq

def hexValue (digit : Char) : Option Nat :=
  if '0' ≤ digit ∧ digit ≤ '9' then some (digit.toNat - '0'.toNat)
  else if 'A' ≤ digit ∧ digit ≤ 'F' then some (digit.toNat - 'A'.toNat + 10)
  else if 'a' ≤ digit ∧ digit ≤ 'f' then some (digit.toNat - 'a'.toNat + 10)
  else none

/-- `u8::from_str_radix` of two digits, zero when they are none. -/
def fromHexPair (high low : Char) : U8 :=
  match hexValue high, hexValue low with
  | some highValue, some lowValue =>
      BitVec.ofNat 8 (16 * highValue + lowValue)
  | _, _ => 0#8

namespace RfidMaterial

/-- The UUID a record advertises: the decimal code, filled up with zeros on the
right. -/
def uuidBytes (mat : RfidMaterial) : Bytes :=
  let digits := Nat.toDigits 10 mat.code.toNat
  let hex := digits.take 14 ++ List.replicate (14 - digits.length) '0'
  (List.range 7).map fun i =>
    fromHexPair (hex.getD (2 * i) '0') (hex.getD (2 * i + 1) '0')

def toLeBytes32 (word : U32) : Bytes :=
  toLeBytes (word.setWidth 16) ++ toLeBytes ((word >>> 16).setWidth 16)

/-- The wire record. -/
def encode (mat : RfidMaterial) : Frame rfidRecordLen :=
  ⟨mat.uuidBytes ++ List.replicate (fieldBase - 7 + 8) 0#8 ++
      toLeBytes mat.code ++
      [mat.matType,
        if mat.widthMm < maxLabelWidthMm then mat.widthMm else maxLabelWidthMm,
        if mat.lengthMm < maxLabelLengthMm then mat.lengthMm
        else maxLabelLengthMm,
        mat.customId, mat.gapMm, mat.tailMm] ++
      toLeBytes32 mat.remaining ++ toLeBytes mat.heatTime5 ++
      toLeBytes mat.heatTime40 ++ List.replicate 24 0#8 ++
      toLeBytes mat.optThreshold.1 ++ toLeBytes mat.optThreshold.2 ++
      [mat.optIndex, mat.heatIndex] ++ List.replicate 10 0#8,
    by simp [uuidBytes, toLeBytes32, fieldBase, rfidRecordLen]⟩

end RfidMaterial

namespace Transport

variable (transport : Transport)

/-- Write a material record: announce its length, then send it in bulk. -/
def setRfidData (record : Bytes) : Operation Unit := do
  failIf (65535 < record.length)
    (.invalidParam ("RFID record too long: " ++ toString record.length))
  let len := BitVec.ofNat 16 record.length
  let resp ← transportCall (.sendCmd cmdSetRfidData len)
  failIf (!resp.any (transport.validateResponse · cmdSetRfidData))
    (.invalidResponse "SET_RFID_DATA: no ack")
  let _ ← transportCall (.sendBulkData record true)

def settlePolls : Nat := 10

/-- Poll the material until it carries the expected UUID; otherwise what was
read last. -/
def settle (expected : String) :
    Nat → Option MaterialInfo → Operation (MaterialInfo ⊕ Option MaterialInfo)
  | 0, last => return .inr last
  | polls + 1, _ => do
      let info ← transport.queryMaterial
      match info with
      | some m =>
          if m.uuid = expected then return .inl m
          else settle expected polls (some m)
      | none => settle expected polls none

/-- Write a material record and confirm that the printer took it. -/
def provisionMaterial (mat : RfidMaterial) : Operation MaterialInfo := do
  transport.setRfidData mat.encode.val
  let expected := hexUpper mat.uuidBytes
  let settled ← transport.settle expected settlePolls none
  match settled with
  | .inl m => return m
  | .inr (some m) => throw (.invalidResponse
      ("record not taken: printer reports UUID " ++ m.uuid ++ " (wrote " ++
        expected ++ ")"))
  | .inr none => throw (.invalidResponse
      "record not taken: no material info after write")

/-- A record that fits is announced before anything else. -/
theorem setRfidData_announces (device : PrinterDevice) (record : Bytes)
    (fits : record.length ≤ 65535) (history : WireHistory) :
    ∃ reply, history ++
        [(.sendCmd cmdSetRfidData (BitVec.ofNat 16 record.length), reply)] <+:
      (Script.run device (transport.setRfidData record).run history).2 := by
  have short : decide (65535 < record.length) = false := by simpa using fits
  refine ⟨device history
    (.sendCmd cmdSetRfidData (BitVec.ofNat 16 record.length)), ?_⟩
  unfold setRfidData
  rw [short, Session.run_bind]
  exact Session.prefix_run_bind device (transportCall _) _ history

theorem provisionMaterial_announces (device : PrinterDevice)
    (mat : RfidMaterial) (history : WireHistory) :
    ∃ reply, history ++ [(.sendCmd cmdSetRfidData 80#16, reply)] <+:
      (Script.run device (transport.provisionMaterial mat).run history).2 := by
  have length : mat.encode.val.length = 80 := mat.encode.property
  obtain ⟨reply, announced⟩ := transport.setRfidData_announces device
    mat.encode.val (by omega) history
  rw [length] at announced
  exact ⟨reply, announced.trans (Session.prefix_run_bind device _ _ history)⟩

end Transport

end SupvanCups
