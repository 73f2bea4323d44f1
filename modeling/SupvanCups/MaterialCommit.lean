import SupvanCups.MediaGate

/-!
# Which record confirms a material write

The printer commits a written record in its own time, and may serve the old
record or a half-updated one meanwhile.  The driver polls until a record
carries the UUID it wrote, and looks at nothing else.  The UUID comes from the
catalogue code alone, so an older record can carry it too.
-/

namespace SupvanCups

/-- The fields of the record beside its UUID are those that were written, the
size clamped to the media path. -/
structure RfidMaterial.ShownBy (mat : RfidMaterial) (m : MaterialInfo) :
    Prop where
  sn : m.sn = mat.code
  width : m.widthMm =
    if mat.widthMm < maxLabelWidthMm then mat.widthMm else maxLabelWidthMm
  height : m.heightMm =
    if mat.lengthMm < maxLabelLengthMm then mat.lengthMm else maxLabelLengthMm
  gap : m.gapMm = mat.gapMm
  labelType : m.labelType = mat.matType

/-- The record is the one that was written. -/
structure RfidMaterial.DescribedBy (mat : RfidMaterial) (m : MaterialInfo) :
    Prop where
  uuid : m.uuid = hexUpper mat.uuidBytes
  fields : mat.ShownBy m

/-! ### The write -/

def announceRecord : TransportCall :=
  .sendCmd cmdSetRfidData (BitVec.ofNat 16 rfidRecordLen)

/-- The printer acknowledged the record and took it, leaving this exchange. -/
def WriteTaken (transport : Transport) (device : PrinterDevice)
    (mat : RfidMaterial) (written : WireHistory) : Prop :=
  ∃ ack resp,
    device [] announceRecord = .ok (some ack) ∧
    transport.validateResponse ack cmdSetRfidData = true ∧
    device [(announceRecord, .ok (some ack))]
      (.sendBulkData mat.encode.val true) = .ok resp ∧
    written = [(announceRecord, .ok (some ack)),
      (.sendBulkData mat.encode.val true, .ok resp)]

section Polling

variable (transport : Transport) (device : PrinterDevice)

theorem run_setRfidData_ok_iff (mat : RfidMaterial) (written : WireHistory) :
    Script.run device (transport.setRfidData mat.encode.val).run [] =
      (.ok (), written) ↔ WriteTaken transport device mat written := by
  have length : mat.encode.val.length = rfidRecordLen := mat.encode.property
  have short : decide (65535 < rfidRecordLen) = false := rfl
  unfold Transport.setRfidData
  simp only [length, short, Session.run_bind, run_failIf, transportCall,
    Session.run_ask, Bool.false_eq_true, if_false, List.nil_append]
  rw [WriteTaken, announceRecord]
  cases device [] (.sendCmd cmdSetRfidData (BitVec.ofNat 16 rfidRecordLen)) with
  | error error => simp
  | ok resp =>
      cases resp with
      | none => simp
      | some ack =>
          cases valid : transport.validateResponse ack cmdSetRfidData with
          | false => simp [valid]
          | true =>
              simp only [Option.any_some, valid, Bool.not_true,
                Bool.false_eq_true, if_false, Except.ok.injEq,
                Option.some.injEq, exists_and_left, exists_eq_left',
                true_and, List.cons_append, List.nil_append]
              cases device _ (.sendBulkData mat.encode.val true) with
              | error error => simp
              | ok resp =>
                  simp only [Session.run_pure]
                  simp [eq_comm]

/-! ### The polls -/

variable (written : WireHistory)

/-- What was exchanged before each poll of the commit window. -/
def beforePoll : Nat → WireHistory
  | 0 => written
  | poll + 1 =>
      beforePoll poll ++
        [(materialQuery, device (beforePoll poll) materialQuery)]

def pollReply (poll : Nat) : TransportReply :=
  device (beforePoll device written poll) materialQuery

/-- The record that a poll reads. -/
def pollRecord (poll : Nat) : Option MaterialInfo :=
  match pollReply device written poll with
  | .ok resp => resp.bind transport.parseMaterialResponse
  | .error _ => none

/-- A poll that neither fails nor reads the UUID leads to the next one. -/
def PollPasses (expected : String) (poll : Nat) : Prop :=
  (∃ resp, pollReply device written poll = .ok resp) ∧
    ∀ info, pollRecord transport device written poll = some info →
      info.uuid ≠ expected

/-- The first record with the expected UUID is read by this poll. -/
structure FirstEcho (expected : String) (first poll : Nat)
    (info : MaterialInfo) : Prop where
  reached : first ≤ poll
  read : pollRecord transport device written poll = some info
  echoes : info.uuid = expected
  passed : ∀ early, first ≤ early → early < poll →
    PollPasses transport device written expected early

variable {transport device written}

theorem FirstEcho.succ_iff {expected : String} {first poll : Nat}
    {info : MaterialInfo}
    (passes : PollPasses transport device written expected first) :
    FirstEcho transport device written expected (first + 1) poll info ↔
      FirstEcho transport device written expected first poll info := by
  constructor
  · rintro ⟨reached, read, echoes, passed⟩
    refine ⟨by omega, read, echoes, ?_⟩
    intro early from_ before
    rcases from_.eq_or_lt with rfl | later
    · exact passes
    · exact passed early later before
  · rintro ⟨reached, read, echoes, passed⟩
    have later : first ≠ poll := by
      rintro rfl
      exact passes.2 info read echoes
    refine ⟨by omega, read, echoes, ?_⟩
    exact fun early from_ before => passed early (by omega) before

/-- A poll that does not pass is the last one. -/
theorem FirstEcho.eq_of_not_passes {expected : String} {first poll : Nat}
    {info : MaterialInfo}
    (echo : FirstEcho transport device written expected first poll info)
    (stops : ¬ PollPasses transport device written expected first) :
    poll = first := by
  by_contra other
  have reached := echo.reached
  exact stops (echo.passed first (Nat.le_refl first) (by omega))

/-- A poll that reads the UUID has the first echo. -/
theorem firstEcho_iff_of_echoes {expected : String} {first poll : Nat}
    {info m : MaterialInfo}
    (read : pollRecord transport device written first = some info)
    (echoes : info.uuid = expected) :
    FirstEcho transport device written expected first poll m ↔
      poll = first ∧ info = m := by
  constructor
  · intro echo
    have stops : ¬ PollPasses transport device written expected first :=
      fun passes => passes.2 info read echoes
    obtain rfl := echo.eq_of_not_passes stops
    exact ⟨rfl, Option.some.inj (read.symm.trans echo.read)⟩
  · rintro ⟨rfl, rfl⟩
    exact ⟨Nat.le_refl poll, read, echoes,
      fun early from_ before => absurd before (by omega)⟩

/-- After a poll that fails there is no echo. -/
theorem not_firstEcho_of_error {expected : String} {first poll : Nat}
    {m : MaterialInfo} {error : ProtoError}
    (failed : pollReply device written first = .error error) :
    ¬ FirstEcho transport device written expected first poll m := by
  intro echo
  have stops : ¬ PollPasses transport device written expected first := by
    rintro ⟨⟨resp, answered⟩, -⟩
    rw [failed] at answered
    cases answered
  obtain rfl := echo.eq_of_not_passes stops
  have read := echo.read
  simp [pollRecord, failed] at read

variable (transport device written)

/-- The polls from some number on end with the first echo among them. -/
theorem run_settle_ok_iff (expected : String) (polls : Nat) (first : Nat)
    (last : Option MaterialInfo) (m : MaterialInfo) :
    (Script.run device (transport.settle expected polls last).run
        (beforePoll device written first)).1 = .ok (.inl m) ↔
      ∃ poll < first + polls,
        FirstEcho transport device written expected first poll m := by
  induction polls generalizing first last with
  | zero =>
      constructor
      · intro found
        cases found
      · rintro ⟨poll, bound, echo⟩
        have := echo.reached
        omega
  | succ polls ih =>
      have polled : Script.run device transport.queryMaterial.run
            (beforePoll device written first) =
          ((pollReply device written first).map
              (·.bind transport.parseMaterialResponse),
            beforePoll device written (first + 1)) :=
        run_queryMaterial transport device _
      have continues {last : Option MaterialInfo}
          (passes : PollPasses transport device written expected first) :
          (Script.run device (transport.settle expected polls last).run
            (beforePoll device written (first + 1))).1 = .ok (.inl m) ↔
          ∃ poll < first + (polls + 1),
            FirstEcho transport device written expected first poll m := by
        rw [ih]
        simp only [FirstEcho.succ_iff passes, Nat.add_assoc,
          Nat.add_comm 1]
      unfold Transport.settle
      rw [Session.run_bind, polled]
      cases reply : pollReply device written first with
      | error error =>
          simp only [not_firstEcho_of_error reply, and_false, exists_false,
            iff_false]
          intro found
          cases found
      | ok resp =>
          have record : pollRecord transport device written first =
              resp.bind transport.parseMaterialResponse := by
            simp [pollRecord, reply]
          simp only [Except.map]
          cases found : resp.bind transport.parseMaterialResponse with
          | none =>
              refine continues ⟨⟨resp, reply⟩, fun info read => ?_⟩
              rw [record, found] at read
              cases read
          | some info =>
              rw [found] at record
              dsimp only
              split
              · next echoes =>
                  simp only [firstEcho_iff_of_echoes record echoes]
                  constructor
                  · intro same
                    exact ⟨first, by omega, rfl,
                      Sum.inl.inj (Except.ok.inj same)⟩
                  · rintro ⟨_, -, -, rfl⟩
                    rfl
              · next other =>
                  refine continues ⟨⟨resp, reply⟩, fun read shown => ?_⟩
                  rw [record] at shown
                  obtain rfl := Option.some.inj shown
                  exact other

/-- `provision_material` confirms the first record with the written UUID. -/
theorem provisionMaterial_ok_iff (mat : RfidMaterial) (m : MaterialInfo) :
    (Session.runOn device (transport.provisionMaterial mat)).1 = .ok m ↔
      ∃ written, WriteTaken transport device mat written ∧
        ∃ poll < Transport.settlePolls, FirstEcho transport device written
          (hexUpper mat.uuidBytes) 0 poll m := by
  simp only [← run_setRfidData_ok_iff]
  unfold Session.runOn Transport.provisionMaterial
  rw [Session.run_bind]
  rcases Script.run device (transport.setRfidData mat.encode.val).run [] with
    ⟨error | ⟨⟩, written⟩
  · simp
  · have settled := run_settle_ok_iff transport device written
      (hexUpper mat.uuidBytes) Transport.settlePolls 0 none m
    rw [Nat.zero_add] at settled
    simp only [Prod.mk.injEq, true_and, exists_eq_left', ← settled,
      Session.run_bind, beforePoll]
    rcases Script.run device (transport.settle (hexUpper mat.uuidBytes)
      Transport.settlePolls none).run written with
      ⟨error | found | _ | _, later⟩
    · simp
    · simp only [Session.run_pure, Except.ok.injEq, Sum.inl.injEq]
    · exact iff_of_false nofun nofun
    · exact iff_of_false nofun nofun

/-- Within the commit window, the first record with the written UUID shows the
other written fields too. -/
def UuidComesLast (mat : RfidMaterial) : Prop :=
  ∀ written, WriteTaken transport device mat written →
    ∀ poll < Transport.settlePolls, ∀ info,
      FirstEcho transport device written (hexUpper mat.uuidBytes) 0 poll info →
        mat.ShownBy info

/-- A confirmed record is the written one exactly when the printer shows no
written UUID before it shows the whole record. -/
theorem provisionMaterial_confirms_iff (mat : RfidMaterial) :
    (∀ m, (Session.runOn device (transport.provisionMaterial mat)).1 = .ok m →
      mat.DescribedBy m) ↔
    UuidComesLast transport device mat := by
  constructor
  · intro confirms written taken poll bound info echo
    exact (confirms info ((provisionMaterial_ok_iff transport device mat
      info).mpr ⟨written, taken, poll, bound, echo⟩)).fields
  · intro last m confirmed
    obtain ⟨written, taken, poll, bound, echo⟩ :=
      (provisionMaterial_ok_iff transport device mat m).mp confirmed
    exact ⟨echo.echoes, last written taken poll bound m echo⟩

end Polling

/-- A printer that takes a record of 50x60 mm and still serves an earlier one of
40x30 mm, of the same catalogue code, has its old record confirmed. -/
theorem provisionMaterial_confirmsOldRecord :
    let old : Bytes :=
      [0x15#8] ++ [0x30#8, 0#8, 0#8, 0#8, 0#8, 0#8, 0#8] ++
        List.replicate 8 0#8 ++ [0x30#8, 0x75#8, 1#8, 40#8, 30#8, 3#8]
    let mat : RfidMaterial := { widthMm := 50#8, lengthMm := 60#8 }
    ¬ ∀ m, (Session.runOn (fun _ _ => .ok (some old))
        (usbHidTransport.provisionMaterial mat)).1 = .ok m →
      mat.DescribedBy m := by
  intro old mat confirms
  have described := confirms
    ⟨"30000000000000", "0000000000000000", 30000#16, 1#8, 40#8, 30#8, 3#8,
      none, none⟩ (by decide +kernel)
  exact absurd described.fields.width (by decide)

end SupvanCups
