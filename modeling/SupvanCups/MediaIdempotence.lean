import SupvanCups.RecordUuid

/-!
# Setting the same media twice

A printer that keeps the record it is sent shows it to the next reader.  The
gate accepts that record, since it is one of ours, and the size that it shows
is compared with the size asked for.  The encoder clamps the size to the media
path, and the comparison does not: a size past the clamp never looks as if it
were set already.
-/

namespace SupvanCups

open DecimalDigits

/-! ### A printer that keeps what it is sent -/

/-- The record that a printer keeps after an exchange. -/
def storing (stored : Option Bytes) :
    TransportCall × TransportReply → Option Bytes
  | (.sendBulkData record true, _) => some record
  | _ => stored

def storedRecord (history : WireHistory) : Option Bytes :=
  history.foldl storing none

/-- The report shows the fields of the record that a report has a place for,
but for its counters. -/
structure EchoOf (record : Bytes) (m : MaterialInfo) : Prop where
  uuid : m.uuid = hexUpper (record.take 7)
  code : m.code = hexUpper ((record.drop fieldBase).take 8)
  sn : m.sn = wordOf record (fieldBase + 8)
  labelType : m.labelType = byteOf record (fieldBase + 10)
  width : m.widthMm = byteOf record (fieldBase + 11)
  height : m.heightMm = byteOf record (fieldBase + 12)
  gap : m.gapMm = byteOf record (fieldBase + 14)

/-- A printer that shows `initial` until it is sent a record, and the record it
was sent last from then on. -/
structure EchoPrinter (transport : Transport) (device : PrinterDevice)
    (initial : Option MaterialInfo) : Prop where
  blank : ∀ history, storedRecord history = none →
    ∃ resp, device history materialQuery = .ok resp ∧
      resp.bind transport.parseMaterialResponse = initial
  echo : ∀ history (record : Frame rfidRecordLen),
    storedRecord history = some record.val →
      ∃ resp m, device history materialQuery = .ok resp ∧
        resp.bind transport.parseMaterialResponse = some m ∧
        EchoOf record.val m

@[simp]
theorem storedRecord_concat (history : WireHistory)
    (event : TransportCall × TransportReply) :
    storedRecord (history ++ [event]) =
      storing (storedRecord history) event := by
  simp [storedRecord]

section Stores

variable (transport : Transport)

theorem setRfidData_stores (record : Bytes) (history : WireHistory) :
    Session.Ensures (fun _ _ => True) (transport.setRfidData record) history
      (Session.IfOk fun _ later => storedRecord later = some record) := by
  unfold Transport.setRfidData
  refine Session.ensures_bind_ifOk (fun _ _ => True)
    (Transport.failIf_ensures fun _ => trivial) fun _ _ _ => ?_
  refine Session.ensures_bind_ifOk _ (Transport.transportCall_ensures trivial)
    fun _ _ _ => ?_
  refine Session.ensures_bind_ifOk (fun _ _ => True)
    (Transport.failIf_ensures fun _ => trivial) fun _ _ _ => ?_
  apply Session.ensures_bind_ifOk _ (Transport.transportCall_ensures trivial)
  rintro _ later rfl
  exact Session.ensures_pure (storedRecord_concat _ _)

/-- The polls after a write leave the record alone. -/
theorem settle_stores (expected : String) (polls : Nat)
    (last : Option MaterialInfo) (history : WireHistory) :
    Session.Ensures (fun _ _ => True) (transport.settle expected polls last)
      history (Session.IfOk fun _ later =>
        storedRecord later = storedRecord history) := by
  induction polls generalizing last history with
  | zero => exact Session.ensures_pure rfl
  | succ polls ih =>
      have polled : Session.Ensures (fun _ _ => True) transport.queryMaterial
          history (Session.IfOk fun _ later =>
            storedRecord later = storedRecord history) := by
        apply Session.ensures_bind_ifOk _
          (Transport.transportCall_ensures trivial)
        rintro resp later rfl
        exact Session.ensures_pure (storedRecord_concat _ _)
      unfold Transport.settle
      apply Session.ensures_bind_ifOk _ polled
      intro info later kept
      rw [← kept]
      cases info with
      | none => exact ih none later
      | some m =>
          dsimp only
          split
          · exact Session.ensures_pure rfl
          · exact ih (some m) later

/-- A write that is confirmed leaves its record. -/
theorem storedRecord_of_provisioned {mat : RfidMaterial}
    {device : PrinterDevice} {history later : WireHistory}
    {written : MaterialInfo}
    (provisioned : Script.run device (transport.provisionMaterial mat).run
      history = (.ok written, later)) :
    storedRecord later = some mat.encode.val := by
  unfold Transport.provisionMaterial at provisioned
  generalize mat.encode.val = record at *
  refine Session.Ensures.of_run_ok
    (fun _ later => storedRecord later = some record) ?_ provisioned
  refine Session.ensures_bind_ifOk
    (fun _ later => storedRecord later = some record)
    (setRfidData_stores transport record history)
    fun _ written stored => ?_
  refine Session.ensures_bind_ifOk
    (fun _ later => storedRecord later = storedRecord written)
    (settle_stores transport _ _ _ written) fun settled later kept => ?_
  cases settled with
  | inl m => exact Session.ensures_pure (kept.trans stored)
  | inr last => cases last <;> exact Session.ensures_throw_ifOk

end Stores

/-! ### What an echo of our record shows -/

/-- A size in a record is cut off at a limit. -/
def clampSize (limit size : U8) : U8 :=
  if size < limit then size else limit

/-- The clamp keeps a size exactly when it fits. -/
theorem clampSize_eq_iff (limit size : U8) :
    clampSize limit size = size ↔ size ≤ limit := by
  unfold clampSize
  by_cases fits : size < limit
  · rw [if_pos fits]
    exact iff_of_true rfl (by bv_omega)
  · rw [if_neg fits]
    bv_omega

theorem EchoOf.isOurs {mat : RfidMaterial} {m : MaterialInfo}
    (echo : EchoOf mat.encode.val m) : recordIsOurs m.uuid m.code = true := by
  rw [echo.uuid, echo.code, uuid_encode, fieldBase, matCode_encode]
  refine (recordIsOurs_iff _ _).mpr ⟨?_, stem_hexUpper_uuidBytes mat⟩
  exact (zeroed_hexUpper _).mpr fun byte member =>
    List.eq_of_mem_replicate member

theorem RfidMaterial.size_encode (mat : RfidMaterial) :
    byteOf mat.encode.val (fieldBase + 11) =
        clampSize maxLabelWidthMm mat.widthMm ∧
      byteOf mat.encode.val (fieldBase + 12) =
        clampSize maxLabelLengthMm mat.lengthMm := by
  have length : mat.uuidBytes.length = 7 := by simp [uuidBytes]
  simp [encode, length, fieldBase, byteOf, clampSize, toLeBytes,
    List.getElem?_append]

theorem EchoOf.size {mat : RfidMaterial} {m : MaterialInfo}
    (echo : EchoOf mat.encode.val m) :
    m.widthMm = clampSize maxLabelWidthMm mat.widthMm ∧
      m.heightMm = clampSize maxLabelLengthMm mat.lengthMm :=
  ⟨echo.width.trans mat.size_encode.1, echo.height.trans mat.size_encode.2⟩

theorem size_mediaRecord (current : Option MaterialInfo) (widthMm heightMm : U8)
    (heat : U16 × U16) :
    (mediaRecord current widthMm heightMm heat).widthMm = widthMm ∧
      (mediaRecord current widthMm heightMm heat).lengthMm = heightMm := by
  cases current <;> exact ⟨rfl, rfl⟩

/-! ### The second call -/

/-- The loaded record shows the size asked for. -/
def ShowsSize (current : Option MaterialInfo) (sizeHmm : Int × Int) : Prop :=
  (current.any fun m => m.widthMm = sizeMm sizeHmm.1 &&
    m.heightMm = sizeMm sizeHmm.2) = true

instance (current : Option MaterialInfo) (sizeHmm : Int × Int) :
    Decidable (ShowsSize current sizeHmm) :=
  inferInstanceAs (Decidable (_ = true))

/-- The media path has room for the size. -/
def FitsRecord (sizeHmm : Int × Int) : Prop :=
  sizeMm sizeHmm.1 ≤ maxLabelWidthMm ∧ sizeMm sizeHmm.2 ≤ maxLabelLengthMm

/-- Going on from an exchange, a session announces no record. -/
def WritesNoRecord {α : Type} (device : PrinterDevice)
    (session : MediaSession α) (history : WireHistory) : Prop :=
  ∃ calls, (Script.run device session.run history).2 = history ++ calls ∧
    ∀ event ∈ calls, event.1.writesRecord = false

section Repeat

variable {transport : Transport} {device : PrinterDevice} {deviceUri : String}
  {sizeHmm : Int × Int} {heat : U16 × U16} {history : WireHistory}
  {resp : Option Bytes} {current : Option MaterialInfo}

theorem applyRead_skips
    (ours : (current.filter fun m => !recordIsOurs m.uuid m.code) = none)
    (shows : ShowsSize current sizeHmm) :
    applyRead transport sizeHmm heat current = pure none := by
  simp only [applyRead, ours]
  exact if_pos shows

/-- With a record of ours loaded, a call writes exactly when the record shows
another size. -/
theorem writesNoRecord_iff
    (answered : device history materialQuery = .ok resp)
    (parsed : resp.bind transport.parseMaterialResponse = current)
    (ours : (current.filter fun m => !recordIsOurs m.uuid m.code) = none) :
    WritesNoRecord device
        (applyMedia (.connected transport) deviceUri sizeHmm heat) history ↔
      ShowsSize current sizeHmm := by
  have ran := run_applyMedia transport device deviceUri sizeHmm heat history
  rw [answered] at ran
  dsimp only at ran
  rw [parsed] at ran
  rw [WritesNoRecord, ran]
  by_cases shows : ShowsSize current sizeHmm
  · rw [applyRead_skips ours shows]
    refine iff_of_true ⟨[(materialQuery, .ok resp)], rfl, ?_⟩ shows
    intro event member
    rw [List.mem_singleton.mp member]
    rfl
  · refine iff_of_false ?_ shows
    rintro ⟨calls, split, silent⟩
    have differs := Bool.eq_false_iff.mpr shows
    obtain ⟨reply, rest, announced⟩ := applyRead_announces transport device
      sizeHmm heat current ours differs (history ++ [(materialQuery, .ok resp)])
    rw [← announced, List.append_assoc, List.append_assoc,
      List.append_cancel_left_eq] at split
    have loud := silent (.sendCmd cmdSetRfidData 80#16, reply)
      (by rw [← split]; simp)
    cases loud

/-- What a call that succeeded leaves: the record it found, which is ours and
shows the size, or the record it wrote. -/
theorem applyMedia_leaves {fingerprint : Option RollFingerprint}
    {later : WireHistory} (answered : device [] materialQuery = .ok resp)
    (parsed : resp.bind transport.parseMaterialResponse = current)
    (succeeded : Session.runOn device
      (applyMedia (.connected transport) deviceUri sizeHmm heat) =
        (.ok fingerprint, later)) :
    (current.filter fun m => !recordIsOurs m.uuid m.code) = none ∧
      (if ShowsSize current sizeHmm then storedRecord later = none
       else storedRecord later = some (mediaRecord current (sizeMm sizeHmm.1)
         (sizeMm sizeHmm.2) heat).encode.val) := by
  rw [runOn_applyMedia, answered] at succeeded
  dsimp only at succeeded
  rw [parsed] at succeeded
  cases ours : current.filter fun m => !recordIsOurs m.uuid m.code with
  | some m =>
      simp only [applyRead, ours] at succeeded
      cases succeeded
  | none =>
      refine ⟨rfl, ?_⟩
      by_cases shows : ShowsSize current sizeHmm
      · rw [applyRead_skips ours shows] at succeeded
        obtain ⟨-, rfl⟩ := Prod.mk.inj succeeded
        rw [if_pos shows]
        rfl
      · rw [if_neg shows]
        have differs := Bool.eq_false_iff.mpr shows
        rw [applyRead_writes transport heat ours differs, Session.run_bind,
          Session.run_mapError] at succeeded
        cases provisioned : Script.run device (transport.provisionMaterial
            (mediaRecord current (sizeMm sizeHmm.1) (sizeMm sizeHmm.2)
              heat)).run [(materialQuery, .ok resp)] with
        | mk outcome last =>
            rw [provisioned] at succeeded
            cases outcome with
            | error error => cases succeeded
            | ok written =>
                obtain ⟨-, rfl⟩ := Prod.mk.inj succeeded
                exact storedRecord_of_provisioned transport provisioned

end Repeat

/-- On a printer that echoes its records, repeating a call that succeeded
writes nothing exactly when the size was loaded already or fits a record. -/
theorem applyMedia_idempotent_iff {transport : Transport}
    {device : PrinterDevice} {initial : Option MaterialInfo}
    (echoes : EchoPrinter transport device initial) (deviceUri : String)
    (sizeHmm : Int × Int) (heat : U16 × U16)
    {fingerprint : Option RollFingerprint}
    (succeeded : (Session.runOn device
      (applyMedia (.connected transport) deviceUri sizeHmm heat)).1 =
        .ok fingerprint) :
    WritesNoRecord device
        (applyMedia (.connected transport) deviceUri sizeHmm heat)
        (Session.runOn device
          (applyMedia (.connected transport) deviceUri sizeHmm heat)).2 ↔
      ShowsSize initial sizeHmm ∨ FitsRecord sizeHmm := by
  obtain ⟨_, answered, parsed⟩ := echoes.blank [] rfl
  obtain ⟨ours, leaves⟩ :=
    applyMedia_leaves answered parsed (Prod.ext succeeded rfl)
  by_cases shows : ShowsSize initial sizeHmm
  · rw [if_pos shows] at leaves
    obtain ⟨_, again, parsedAgain⟩ := echoes.blank _ leaves
    rw [writesNoRecord_iff again parsedAgain ours]
    exact iff_of_true shows (.inl shows)
  · rw [if_neg shows] at leaves
    obtain ⟨_, m, again, parsedAgain, echo⟩ := echoes.echo _ _ leaves
    have echoOurs :
        ((some m).filter fun m => !recordIsOurs m.uuid m.code) = none := by
      simp [Option.filter, echo.isOurs]
    have sent := size_mediaRecord initial (sizeMm sizeHmm.1)
      (sizeMm sizeHmm.2) heat
    rw [writesNoRecord_iff again parsedAgain echoOurs, or_iff_right shows,
      FitsRecord, ← clampSize_eq_iff, ← clampSize_eq_iff, ShowsSize]
    simp only [Option.any_some, Bool.and_eq_true, decide_eq_true_eq,
      echo.size.1, echo.size.2, sent.1, sent.2]

/-! ### A USB printer that echoes -/

/-- The report of a stored record. -/
def usbReport (record : Bytes) : Bytes :=
  [0x15#8] ++ record.take 7 ++ (record.drop fieldBase).take 8 ++
    (record.drop (fieldBase + 8)).take 2 ++
    [byteOf record (fieldBase + 10), byteOf record (fieldBase + 11),
      byteOf record (fieldBase + 12), byteOf record (fieldBase + 14)]

/-- A printer that acknowledges everything, and reports the record it keeps. -/
def echoUsb (loaded : Bytes) : PrinterDevice := fun history request =>
  .ok (some (if request = materialQuery then
    ((storedRecord history).map usbReport).getD loaded else [0x15#8]))

theorem length_usbReport (record : Frame rfidRecordLen) :
    (usbReport record.val).length = 22 := by
  have length := record.property
  simp [usbReport, fieldBase, rfidRecordLen, length]

theorem parse_usbReport (record : Frame rfidRecordLen) :
    ∃ m, parseUsbMaterial (usbReport record.val) = some m ∧
      EchoOf record.val m := by
  have length := length_usbReport record
  have long : record.val.length = 80 := record.property
  have payload : ¬ ((usbReport record.val).drop 1).length < 21 := by
    rw [List.length_drop]
    omega
  refine ⟨_, (if_neg (by omega)).trans (if_neg payload), ?_⟩
  constructor <;> dsimp only
  · congr 1
    simp [usbReport, long, fieldBase]
  · congr 1
    simp [usbReport, long, fieldBase, List.drop_append]
  · simp [usbReport, long, fieldBase, wordOf, byteOf]
  · simp [usbReport, long, fieldBase, byteOf]
  · simp [usbReport, long, fieldBase, byteOf]
  · simp [usbReport, long, fieldBase, byteOf]
  · simp [usbReport, long, fieldBase, byteOf]

theorem echoUsb_echoes (loaded : Bytes) :
    EchoPrinter usbHidTransport (echoUsb loaded) (parseUsbMaterial loaded) := by
  constructor
  · intro history blank
    refine ⟨some loaded, ?_, rfl⟩
    simp [echoUsb, blank]
  · intro history record stored
    obtain ⟨m, parsed, echo⟩ := parse_usbReport record
    refine ⟨some (usbReport record.val), m, ?_, parsed, echo⟩
    simp [echoUsb, stored]

/-- Blank stock, set to 40x30 mm twice. -/
theorem applyMedia_idempotent_fits :
    let device := echoUsb (List.replicate 22 0#8)
    let setMedia := applyMedia (.connected usbHidTransport) "supvan://t50"
      (4000, 3000) heatPresetStandard
    WritesNoRecord device setMedia (Session.runOn device setMedia).2 ↔
      ShowsSize (parseUsbMaterial (List.replicate 22 0#8)) (4000, 3000) ∨
        FitsRecord (4000, 3000) :=
  have succeeded : (Session.runOn (echoUsb (List.replicate 22 0#8))
      (applyMedia (.connected usbHidTransport) "supvan://t50" (4000, 3000)
        heatPresetStandard)).1 = .ok (some
          ⟨"30000000000000", "0000000000000000", 40#8, 30#8⟩) := by
    decide +kernel
  applyMedia_idempotent_iff (echoUsb_echoes (List.replicate 22 0#8))
    "supvan://t50" (4000, 3000) heatPresetStandard succeeded

/-- Blank stock, set to 72x30 mm twice, is written twice. -/
theorem applyMedia_writesWideTwice :
    let device := echoUsb (List.replicate 22 0#8)
    let setMedia := applyMedia (.connected usbHidTransport) "supvan://t80"
      (7200, 3000) heatPresetStandard
    EchoPrinter usbHidTransport device
        (parseUsbMaterial (List.replicate 22 0#8)) ∧
      (Session.runOn device setMedia).1 = .ok (some
        ⟨"30000000000000", "0000000000000000", 50#8, 30#8⟩) ∧
      ¬ WritesNoRecord device setMedia (Session.runOn device setMedia).2 := by
  intro device setMedia
  have answered : device (Session.runOn device setMedia).2 materialQuery =
      .ok (some (usbReport ({ widthMm := 72#8, lengthMm := 30#8 } :
        RfidMaterial).encode.val)) := by
    decide +kernel
  refine ⟨echoUsb_echoes _, by decide +kernel, fun silent => ?_⟩
  have shows := (writesNoRecord_iff answered rfl (by decide +kernel)).mp silent
  revert shows
  decide +kernel

end SupvanCups
