import SupvanCups.MaterialRecords
import Mathlib.Data.List.DropRight

/-!
# The gate in front of a material write

An operator can set the size of the loaded media, which writes a material
record to the printer.  A genuine roll describes itself and must not be
overwritten, so the loaded record is read first and tested.  A read that fails
with an error stops the write; a read that brings no record does not.
-/

namespace SupvanCups

/-- Empty or nothing but zeros. -/
def zeroed (digits : List Char) : Bool :=
  digits.all (· = '0')

/-- `char::is_ascii_digit`. -/
def isAsciiDigit (digit : Char) : Bool :=
  '0' ≤ digit && digit ≤ '9'

def recordIsOurs (uuid code : String) : Bool :=
  if !zeroed code.toList then false
  else if zeroed uuid.toList then true
  else
    let stem := uuid.toList.rdropWhile (· = '0')
    stem.length ≤ 5 && stem.all isAsciiDigit

/-- What opening a device URI comes to. -/
inductive OpenedDevice
  | unreachable
  | mock
  | connected (transport : Transport)

/-- What the roll cache remembers of a written record. -/
structure RollFingerprint where
  uuid : String
  code : String
  widthMm : U8
  heightMm : U8
  deriving DecidableEq

abbrev MediaSession (α : Type) := Session TransportCall TransportReply String α

/-- A size in hundredths of a millimetre as `(size / 100) as u8`. -/
def sizeMm (sizeHmm : Int) : U8 :=
  BitVec.ofInt 8 (sizeHmm.tdiv 100)

def genuineRoll (m : MaterialInfo) : String :=
  "a genuine RFID roll is loaded (UUID " ++ m.uuid ++ ", signature " ++
    m.code ++ ", " ++ toString m.widthMm.toNat ++ "x" ++
    toString m.heightMm.toNat ++ "mm) and describes itself — its own " ++
    "geometry is authoritative. Only blank stock, or a record this app " ++
    "wrote, can be set here."

/-- The record to write: the new size, and what else the loaded record shows. -/
def mediaRecord (current : Option MaterialInfo) (widthMm heightMm : U8)
    (heat : U16 × U16) : RfidMaterial :=
  let mat : RfidMaterial :=
    { widthMm := widthMm
      lengthMm := heightMm
      heatTime5 := heat.1
      heatTime40 := heat.2 }
  match current with
  | none => mat
  | some m =>
      { mat with
        gapMm := if 0#8 < m.gapMm then m.gapMm else mat.gapMm
        matType := if 0#8 < m.labelType then m.labelType else mat.matType }

/-- What `apply_media` does once it has read the loaded material.  The result
is the fingerprint that goes into the roll cache, if a record was written. -/
def applyRead (transport : Transport) (sizeHmm : Int × Int)
    (heat : U16 × U16) (current : Option MaterialInfo) :
    MediaSession (Option RollFingerprint) :=
  let widthMm := sizeMm sizeHmm.1
  let heightMm := sizeMm sizeHmm.2
  match current.filter fun m => !recordIsOurs m.uuid m.code with
  | some m => throw (genuineRoll m)
  | none =>
      if current.any fun m => m.widthMm = widthMm && m.heightMm = heightMm then
        pure none
      else do
        let written ← Session.mapError
          (fun e => "the printer did not take the record: " ++ e.display)
          (transport.provisionMaterial
            (mediaRecord current widthMm heightMm heat))
        pure (some ⟨written.uuid, written.code, written.widthMm,
          written.heightMm⟩)

/-- Push operator-set media geometry to the printer.  `heat` is the configured
heat profile. -/
def applyMedia (device : OpenedDevice) (deviceUri : String)
    (sizeHmm : Int × Int) (heat : U16 × U16) :
    MediaSession (Option RollFingerprint) :=
  match device with
  | .unreachable => throw ("cannot reach " ++ deviceUri)
  | .mock => throw "mock device: nothing to provision"
  | .connected transport => do
      let current ← Session.mapError
        (fun e => "cannot read the loaded material: " ++ e.display)
        transport.queryMaterial
      applyRead transport sizeHmm heat current

/-! ### When the gate holds -/

def materialQuery : TransportCall :=
  .sendCmd cmdReturnMat 0#16

/-- A material query was answered with a record that is ours. -/
def ReadOurs (transport : Transport) (history : WireHistory) : Prop :=
  ∃ resp info, (materialQuery, .ok (some resp)) ∈ history ∧
    transport.parseMaterialResponse resp = some info ∧
    recordIsOurs info.uuid info.code = true

/-- The call announces a material record. -/
def TransportCall.writesRecord : TransportCall → Bool
  | .sendCmd cmd _ | .sendCmdTwo cmd _ _ => cmd == cmdSetRfidData
  | _ => false

/-- A record is announced only after the loaded one was read and is ours. -/
def WriteAllowed (transport : Transport) (history : WireHistory)
    (request : TransportCall) : Prop :=
  request.writesRecord = true → ReadOurs transport history

/-- The reply to the material query is an error or carries a record. -/
def Answered (transport : Transport) : TransportReply → Prop
  | .error _ => True
  | .ok resp => (resp.bind transport.parseMaterialResponse).isSome = true

theorem ReadOurs.concat {transport : Transport} {history : WireHistory}
    (ours : ReadOurs transport history)
    (event : TransportCall × TransportReply) :
    ReadOurs transport (history ++ [event]) := by
  obtain ⟨resp, info, member, parsed, owned⟩ := ours
  exact ⟨resp, info, List.mem_append_left _ member, parsed, owned⟩

theorem run_queryMaterial (transport : Transport) (device : PrinterDevice)
    (history : WireHistory) :
    Script.run device transport.queryMaterial.run history =
      ((device history materialQuery).map
          (·.bind transport.parseMaterialResponse),
        history ++ [(materialQuery, device history materialQuery)]) := by
  unfold Transport.queryMaterial transportCall materialQuery
  rw [Session.run_bind, Session.run_ask]
  cases device history (.sendCmd cmdReturnMat 0#16) <;> rfl

/-- The run of `apply_media` on a connected device: the query, then what its
reply calls for. -/
theorem run_applyMedia (transport : Transport) (device : PrinterDevice)
    (deviceUri : String) (sizeHmm : Int × Int) (heat : U16 × U16)
    (history : WireHistory) :
    Script.run device
        (applyMedia (.connected transport) deviceUri sizeHmm heat).run
        history =
      match device history materialQuery with
      | .error error => (.error ("cannot read the loaded material: " ++
          error.display), history ++ [(materialQuery, .error error)])
      | .ok resp => Script.run device
          (applyRead transport sizeHmm heat
            (resp.bind transport.parseMaterialResponse)).run
          (history ++ [(materialQuery, .ok resp)]) := by
  rw [applyMedia, Session.run_bind, Session.run_mapError, run_queryMaterial]
  cases device history materialQuery <;> rfl

theorem runOn_applyMedia (transport : Transport) (device : PrinterDevice)
    (deviceUri : String) (sizeHmm : Int × Int) (heat : U16 × U16) :
    Session.runOn device
        (applyMedia (.connected transport) deviceUri sizeHmm heat) =
      match device [] materialQuery with
      | .error error => (.error ("cannot read the loaded material: " ++
          error.display), [(materialQuery, .error error)])
      | .ok resp => Script.run device
          (applyRead transport sizeHmm heat
            (resp.bind transport.parseMaterialResponse)).run
          [(materialQuery, .ok resp)] :=
  run_applyMedia transport device deviceUri sizeHmm heat []

/-- What `apply_media` does with a record that is ours and of another size, or
with none. -/
theorem applyRead_writes (transport : Transport) {sizeHmm : Int × Int}
    (heat : U16 × U16) {current : Option MaterialInfo}
    (ours : (current.filter fun m => !recordIsOurs m.uuid m.code) = none)
    (differs : (current.any fun m => m.widthMm = sizeMm sizeHmm.1 &&
      m.heightMm = sizeMm sizeHmm.2) = false) :
    applyRead transport sizeHmm heat current =
      (Session.mapError
        (fun e => "the printer did not take the record: " ++ e.display)
        (transport.provisionMaterial (mediaRecord current (sizeMm sizeHmm.1)
          (sizeMm sizeHmm.2) heat)) >>= fun written =>
        pure (some ⟨written.uuid, written.code, written.widthMm,
          written.heightMm⟩)) := by
  simp only [applyRead, ours, differs, Bool.false_eq_true, if_false]

theorem applyRead_announces (transport : Transport) (device : PrinterDevice)
    (sizeHmm : Int × Int) (heat : U16 × U16) (current : Option MaterialInfo)
    (ours : (current.filter fun m => !recordIsOurs m.uuid m.code) = none)
    (differs : (current.any fun m => m.widthMm = sizeMm sizeHmm.1 &&
      m.heightMm = sizeMm sizeHmm.2) = false) (history : WireHistory) :
    ∃ reply, history ++ [(.sendCmd cmdSetRfidData 80#16, reply)] <+:
      (Script.run device (applyRead transport sizeHmm heat current).run
        history).2 := by
  let mat := mediaRecord current (sizeMm sizeHmm.1) (sizeMm sizeHmm.2) heat
  obtain ⟨reply, announced⟩ :=
    transport.provisionMaterial_announces device mat history
  refine ⟨reply, announced.trans ?_⟩
  have reported := Session.run_mapError
    (fun e => "the printer did not take the record: " ++ e.display) device
    (transport.provisionMaterial mat) history
  rw [applyRead_writes transport heat ours differs,
    ← congrArg Prod.snd reported]
  exact Session.prefix_run_bind device _ _ history

/-- Once the loaded record was found ours, everything is allowed. -/
theorem lawful_of_readOurs {transport : Transport} {history : WireHistory}
    (lawful : Script.Lawful (WriteAllowed transport) history)
    (ours : ReadOurs transport history) (device : PrinterDevice) {α : Type}
    (session : MediaSession α) :
    Script.Lawful (WriteAllowed transport)
      (Script.run device session.run history).2 := by
  have allows : ∀ history request, ReadOurs transport history →
      WriteAllowed transport history request :=
    fun _ _ holds _ => holds
  have stable := Script.Ensures.of_stable (ReadOurs transport)
    (fun _ event holds => holds.concat event) allows session.run ours
  exact (stable.run lawful device).1

theorem lawful_query (transport : Transport) (reply : TransportReply) :
    Script.Lawful (WriteAllowed transport) [(materialQuery, reply)] :=
  Script.Lawful.concat Script.Lawful.nil (by intro writes; cases writes) reply

/-- A read that brought no record leaves the write unguarded. -/
theorem not_lawful_of_unread {transport : Transport} {resp : Option Bytes}
    (unread : resp.bind transport.parseMaterialResponse = none)
    (device : PrinterDevice) (sizeHmm : Int × Int) (heat : U16 × U16) :
    ¬ Script.Lawful (WriteAllowed transport)
      (Script.run device (applyRead transport sizeHmm heat none).run
        [(materialQuery, .ok resp)]).2 := by
  intro lawful
  obtain ⟨reply, rest, announced⟩ := applyRead_announces transport device
    sizeHmm heat none rfl rfl [(materialQuery, .ok resp)]
  obtain ⟨found, info, member, parsed, _⟩ :=
    lawful [(materialQuery, .ok resp)] _ rest
      (by simpa using announced.symm) rfl
  obtain rfl : resp = some found := by
    simpa using (List.mem_singleton.mp member).symm
  simp [parsed] at unread

/-- A read that brought a record keeps the write guarded. -/
theorem lawful_of_read {transport : Transport} {resp : Bytes}
    {info : MaterialInfo}
    (parsed : transport.parseMaterialResponse resp = some info)
    (device : PrinterDevice) (sizeHmm : Int × Int) (heat : U16 × U16) :
    Script.Lawful (WriteAllowed transport)
      (Script.run device (applyRead transport sizeHmm heat (some info)).run
        [(materialQuery, .ok (some resp))]).2 := by
  have queried := lawful_query transport (.ok (some resp))
  by_cases ours : recordIsOurs info.uuid info.code = true
  · exact lawful_of_readOurs queried
      ⟨resp, info, List.mem_singleton_self _, parsed, ours⟩ device _
  · have refused : applyRead transport sizeHmm heat (some info) =
        throw (genuineRoll info) := by
      simp [applyRead, Option.filter, ours]
    rw [refused]
    exact queried

/-- A connected device is written to only past the gate, any other device not
at all. -/
def WritesGuarded : OpenedDevice → WireHistory → Prop
  | .connected transport, history =>
      Script.Lawful (WriteAllowed transport) history
  | .unreachable, history | .mock, history =>
      ∀ event ∈ history, event.1.writesRecord = false

/-- The material query, if it is made, is answered by an error or by a record
that parses. -/
def QueryAnswered : OpenedDevice → PrinterDevice → Prop
  | .connected transport, device => Answered transport (device [] materialQuery)
  | .unreachable, _ | .mock, _ => True

/-- Whatever the device does and whatever media is requested, the writes are
guarded exactly when the material query is answered. -/
theorem applyMedia_guarded_iff (opened : OpenedDevice) (device : PrinterDevice)
    (deviceUri : String) (sizeHmm : Int × Int) (heat : U16 × U16) :
    WritesGuarded opened (Session.runOn device
        (applyMedia opened deviceUri sizeHmm heat)).2 ↔
      QueryAnswered opened device := by
  cases opened with
  | unreachable => exact ⟨fun _ => trivial, fun _ _ member => nomatch member⟩
  | mock => exact ⟨fun _ => trivial, fun _ _ member => nomatch member⟩
  | connected transport =>
      simp only [WritesGuarded, QueryAnswered]
      rw [runOn_applyMedia]
      cases device [] materialQuery with
      | error error => exact ⟨fun _ => trivial, fun _ => lawful_query _ _⟩
      | ok resp =>
          dsimp only
          cases parsed : resp.bind transport.parseMaterialResponse with
          | none =>
              have unguarded :=
                not_lawful_of_unread parsed device sizeHmm heat
              refine ⟨fun lawful => absurd lawful unguarded, fun answered => ?_⟩
              simp [Answered, parsed] at answered
          | some info =>
              obtain ⟨bytes, rfl, parsedBytes⟩ :=
                Option.bind_eq_some_iff.mp parsed
              exact ⟨fun _ => by simp [Answered, parsed],
                fun _ => lawful_of_read parsedBytes device sizeHmm heat⟩

/-- A printer that times out on the material query and acknowledges the rest
gets a record written over whatever is loaded. -/
theorem applyMedia_overwrites_unread :
    ¬ WritesGuarded (.connected sppCodec)
      (Session.runOn
        (fun _ request => if request = materialQuery then .ok none
          else .ok (some [0x7E#8, 0x5A#8, 0x0C#8, 0x00#8, 0x10#8, 0x01#8,
            0xAA#8, 0x5D#8]))
        (applyMedia (.connected sppCodec) "supvan://t50" (4000, 3000)
          heatPresetStandard)).2 := by
  simp only [WritesGuarded]
  rw [runOn_applyMedia]
  exact not_lawful_of_unread rfl _ _ _

end SupvanCups
