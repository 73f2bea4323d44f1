import SupvanCups.DeviceAccess

/-!
# The discipline of a task

What a poll or a job keeps to by itself, whatever the other tasks do.  It uses
a shared connection under its mutex and its device's own `printing` flag, sets
the flag before it enters a transfer, and gives up neither the mutex nor the
device within one.  So a task within a transfer has a device whose flag is set,
and holds the mutex if the connection is shared.
-/

namespace SupvanCups

abbrev OwnHistory := History HostCall HostReply

/-! ### Reading a task's history -/

/-- Where a task is with regard to `print_compressed`. -/
inductive Span
  | outside
  /-- Entered, with no command sent yet. -/
  | entered
  | sending
  deriving DecidableEq

def Span.after (span : Span) : HostCall → Span
  | .enterPrint _ => .entered
  | .leavePrint => .outside
  | .exchange _ _ => if span = .outside then .outside else .sending
  | _ => span

def spanOf (own : OwnHistory) : Span :=
  own.foldl (fun span event => span.after event.1) .outside

def deviceAfter (device : Option KsDevice) :
    HostCall × HostReply → Option KsDevice
  | (.newDevice printer, .flag flag) => some ⟨printer, flag⟩
  | (.newDevice printer, _) => some ⟨printer, 0⟩
  | (.dropDevice, _) => none
  | _ => device

/-- The device that a task has. -/
def liveDevice (own : OwnHistory) : Option KsDevice :=
  own.foldl deviceAfter none

/-- How a step leaves the flag of the task's device. -/
def flagAfter (up : Bool) : HostCall → Bool
  | .newDevice _ => false
  | .storePrinting _ value => value
  | _ => up

/-- How a task left the flag of its device. -/
def flagUp (own : OwnHistory) : Bool :=
  own.foldl (fun up event => flagAfter up event.1) false

def HoldsLock (conn : Conn) (own : OwnHistory) : Prop :=
  Holds HostCall.lockAction conn own = true

/-- A shared connection is used under its mutex. -/
def PrinterHandle.Guarded (printer : PrinterHandle) (own : OwnHistory) :
    Prop :=
  ∀ conn, printer = .shared conn → HoldsLock conn own

@[simp]
theorem spanOf_concat (own : OwnHistory) (event : HostCall × HostReply) :
    spanOf (own ++ [event]) = (spanOf own).after event.1 := by
  simp [spanOf]

@[simp]
theorem liveDevice_concat (own : OwnHistory)
    (event : HostCall × HostReply) :
    liveDevice (own ++ [event]) = deviceAfter (liveDevice own) event := by
  simp [liveDevice]

@[simp]
theorem flagUp_concat (own : OwnHistory) (event : HostCall × HostReply) :
    flagUp (own ++ [event]) = flagAfter (flagUp own) event.1 := by
  simp [flagUp]

theorem PrinterHandle.Guarded.concat {printer : PrinterHandle}
    {own : OwnHistory} (guarded : printer.Guarded own)
    {event : HostCall × HostReply}
    (kept : ∀ conn, event.1.lockAction ≠ some (.release conn)) :
    printer.Guarded (own ++ [event]) :=
  fun conn isShared => holds_concat_of_held (guarded conn isShared) (kept conn)

/-! ### Steps that leave the device alone -/

/-- Whether a step changes neither the device nor its flag, and marks no
transfer. -/
def HostCall.isQuiet : HostCall → Bool
  | .newDevice _ => false
  | .dropDevice => false
  | .storePrinting _ _ => false
  | .enterPrint _ => false
  | .leavePrint => false
  | _ => true

section Quiet

variable {request : HostCall} (quiet : request.isQuiet = true)
include quiet

theorem deviceAfter_of_quiet (device : Option KsDevice) (reply : HostReply) :
    deviceAfter device (request, reply) = device := by
  cases request <;> first | rfl | cases quiet

theorem flagAfter_of_quiet (up : Bool) : flagAfter up request = up := by
  cases request <;> first | rfl | cases quiet

/-- Outside of transfers a step can only lead into one by entering it. -/
theorem after_outside_of_quiet :
    Span.outside.after request = .outside := by
  cases request <;> first | rfl | cases quiet

end Quiet

/-! ### The discipline -/

/-- What a task may do after its own history. -/
def Disciplined (own : OwnHistory) : HostCall → Prop
  | .exchange printer _ => printer.Guarded own
  | .enterPrint printer =>
      ∃ dev, liveDevice own = some dev ∧ dev.printer = printer ∧
        printer.Guarded own ∧ flagUp own = true
  | .storePrinting flag _ =>
      ∃ dev, liveDevice own = some dev ∧ dev.printing = flag ∧
        spanOf own = .outside
  | .unlock conn => HoldsLock conn own ∧ spanOf own = .outside
  | .newDevice _ => spanOf own = .outside
  | .dropDevice => spanOf own = .outside
  | _ => True

/-- Within a transfer a task has a device with its flag set, and holds its
mutex if it is shared. -/
def TransferGuarded (own : OwnHistory) : Prop :=
  spanOf own ≠ .outside →
    ∃ dev, liveDevice own = some dev ∧ dev.printer.Guarded own ∧
      flagUp own = true

theorem transferGuarded_concat {own : OwnHistory}
    (guarded : TransferGuarded own) {request : HostCall}
    (disciplined : Disciplined own request) (reply : HostReply) :
    TransferGuarded (own ++ [(request, reply)]) := by
  intro inside
  rw [spanOf_concat] at inside
  rw [liveDevice_concat, flagUp_concat]
  cases request with
  | enterPrint printer =>
      obtain ⟨dev, live, rfl, held, up⟩ := disciplined
      exact ⟨dev, live, held.concat (by simp [HostCall.lockAction]), up⟩
  | exchange printer call =>
      have before : spanOf own ≠ .outside := by
        intro outside
        simp [Span.after, outside] at inside
      obtain ⟨dev, live, held, up⟩ := guarded before
      exact ⟨dev, live, held.concat (by simp [HostCall.lockAction]), up⟩
  | leavePrint => exact absurd rfl inside
  | storePrinting flag value =>
      obtain ⟨dev, live, same, outside⟩ := disciplined
      exact absurd outside inside
  | unlock conn => exact absurd disciplined.2 inside
  | newDevice printer => exact absurd disciplined inside
  | dropDevice => exact absurd disciplined inside
  | _ =>
      obtain ⟨dev, live, held, up⟩ := guarded inside
      exact ⟨dev, live, held.concat (by simp [HostCall.lockAction]), up⟩

/-- Every history of disciplined steps guards its transfers. -/
theorem transferGuarded_of_lawful {own : OwnHistory}
    (lawful : Script.Lawful Disciplined own) : TransferGuarded own := by
  induction own using List.reverseRecOn with
  | nil => exact fun inside => absurd rfl inside
  | append_singleton own event ih =>
      have ⟨before, disciplined⟩ := Script.Lawful.concat_iff.mp lawful
      exact transferGuarded_concat (ih before) disciplined event.2

/-! ### Steps of the scripts -/

/-- A task outside of transfers, with the device it has and its flag. -/
structure Settled (device : Option KsDevice) (up : Bool) (own : OwnHistory) :
    Prop where
  live : liveDevice own = device
  flag : flagUp own = up
  outside : spanOf own = .outside

theorem Settled.nil : Settled none false [] :=
  ⟨rfl, rfl, rfl⟩

theorem Settled.concat {device : Option KsDevice} {up : Bool}
    {own : OwnHistory} (settled : Settled device up own) {request : HostCall}
    (quiet : request.isQuiet = true) (reply : HostReply) :
    Settled device up (own ++ [(request, reply)]) where
  live := by
    rw [liveDevice_concat, deviceAfter_of_quiet quiet, settled.live]
  flag := by rw [flagUp_concat, flagAfter_of_quiet quiet, settled.flag]
  outside := by
    rw [spanOf_concat, settled.outside, after_outside_of_quiet quiet]

structure InTransfer (dev : KsDevice) (own : OwnHistory) : Prop where
  live : liveDevice own = some dev
  flag : flagUp own = true
  inside : spanOf own ≠ .outside
  guarded : dev.printer.Guarded own

theorem InTransfer.exchange {dev : KsDevice} {own : OwnHistory}
    (transfer : InTransfer dev own) (call : TransportCall)
    (reply : HostReply) :
    InTransfer dev (own ++ [(.exchange dev.printer call, reply)]) where
  live := by rw [liveDevice_concat, transfer.live]; rfl
  flag := by rw [flagUp_concat, transfer.flag]; rfl
  inside := by simp [Span.after, transfer.inside]
  guarded := transfer.guarded.concat (by simp [HostCall.lockAction])

section Scripts

variable {α : Type} {device : Option KsDevice} {up : Bool} {own : OwnHistory}

theorem ask_ensures {request : HostCall}
    {post : HostReply → OwnHistory → Prop}
    (disciplined : Disciplined own request)
    (holds : ∀ reply, post reply (own ++ [(request, reply)])) :
    (Script.ask request).Ensures Disciplined own post :=
  ⟨disciplined, holds⟩

/-- A quiet step whose reply is read in any way. -/
theorem askQuiet_ensures (request : HostCall)
    (quiet : request.isQuiet = true) (disciplined : Disciplined own request)
    (settled : Settled device up own) {read : HostReply → HostScript α}
    (reads : ∀ reply, ∃ result, read reply = .done result) :
    ((Script.ask request).bind read).Ensures Disciplined own fun _ later =>
      Settled device up later := by
  apply Script.Ensures.bind (fun _ later => Settled device up later)
    (ask_ensures disciplined (settled.concat quiet))
  intro reply later settled
  obtain ⟨result, same⟩ := reads reply
  rw [same]
  exact settled

theorem act_ensures {request : HostCall} {post : Unit → OwnHistory → Prop}
    (disciplined : Disciplined own request)
    (holds : ∀ reply, post () (own ++ [(request, reply)])) :
    (act request).Ensures Disciplined own post :=
  ⟨disciplined, holds⟩

theorem askConn_ensures (request : HostCall)
    (quiet : request.isQuiet = true) (disciplined : Disciplined own request)
    (settled : Settled device up own) :
    (askConn request).Ensures Disciplined own fun _ later =>
      Settled device up later :=
  askQuiet_ensures request quiet disciplined settled fun reply => by
    cases reply <;> exact ⟨_, rfl⟩

theorem carryOut_ensures {printer : PrinterHandle}
    (inv : OwnHistory → Prop)
    (guarded : ∀ own, inv own → printer.Guarded own)
    (kept : ∀ own call reply, inv own →
      inv (own ++ [(.exchange printer call, reply)]))
    (operation : Operation α) (holds : inv own) :
    (printer.carryOut operation).Ensures Disciplined own fun _ later =>
      inv later := by
  have anything : operation.run.Ensures (fun _ _ => True) []
      (fun _ _ => True) :=
    .of_stable (fun _ => True) (fun _ _ _ => trivial)
      (fun _ _ _ => trivial) _ trivial
  refine (Script.Ensures.interpret (fun _ own => inv own)
    ?_ holds anything).consequence ?_
  · intro _ own call holds _
    refine ⟨guarded own holds, fun reply => ?_⟩
    cases reply <;> exact kept own call _ holds
  · rintro _ later ⟨_, kept, _⟩
    exact kept

/-- Within its mutex a body may use the connection; it leaves the task as it
was, the mutex still held. -/
theorem withLock_ensures {printer : PrinterHandle} {body : HostScript α}
    (settled : Settled device up own)
    (inner : ∀ own, Settled device up own → printer.Guarded own →
      body.Ensures Disciplined own fun _ later =>
        Settled device up later ∧ printer.Guarded later) :
    (printer.withLock body).Ensures Disciplined own fun _ later =>
      Settled device up later := by
  cases printer with
  | owned fd =>
      have unguarded : (PrinterHandle.owned fd).Guarded own := by
        simp [PrinterHandle.Guarded]
      exact (inner own settled unguarded).consequence
        fun _ _ holds => holds.1
  | shared conn =>
      refine .bind (fun _ later => Settled device up later ∧
        (PrinterHandle.shared conn).Guarded later)
        (act_ensures trivial fun reply => ?_) ?_
      · refine ⟨settled.concat rfl reply, ?_⟩
        rintro _ ⟨rfl⟩
        simp [HoldsLock, holds_concat, HostCall.lockAction]
      · rintro _ own ⟨settled, guarded⟩
        apply Script.Ensures.bind _ (inner own settled guarded)
        rintro result own ⟨settled, guarded⟩
        exact .bind (fun _ later => Settled device up later)
          (act_ensures ⟨guarded conn rfl, settled.outside⟩
            (settled.concat rfl))
          fun _ _ holds => holds

/-- A query leaves a task as it was. -/
theorem query_ensures (printer : PrinterHandle) (operation : Operation α)
    (settled : Settled device up own) :
    (printer.withLock (printer.carryOut operation)).Ensures Disciplined own
      fun _ later => Settled device up later := by
  apply withLock_ensures settled
  intro own settled guarded
  exact carryOut_ensures
    (fun own => Settled device up own ∧ printer.Guarded own)
    (fun _ holds => holds.2)
    (fun _ call reply holds => ⟨holds.1.concat rfl reply,
      holds.2.concat (by simp [HostCall.lockAction])⟩)
    operation ⟨settled, guarded⟩

/-- A transfer over the device of the task, its flag set, leaves the task as
it was. -/
theorem PrinterHandle.printCompressed_ensures {dev : KsDevice}
    (blocks : List Bytes) (speed : U16)
    (settled : Settled (some dev) true own) :
    (dev.printer.printCompressed blocks speed).Ensures Disciplined own
      fun _ later => Settled (some dev) true later := by
  apply withLock_ensures settled
  intro own settled guarded
  refine .bind (fun _ later => InTransfer dev later)
    (act_ensures ⟨dev, settled.live, rfl, guarded, settled.flag⟩ ?_) ?_
  · intro reply
    exact
      { live := by rw [liveDevice_concat, settled.live]; rfl
        flag := by rw [flagUp_concat, settled.flag]; rfl
        inside := by simp [Span.after]
        guarded := guarded.concat (by simp [HostCall.lockAction]) }
  · intro _ own transfer
    apply Script.Ensures.bind _ (carryOut_ensures (InTransfer dev)
      (fun _ transfer => transfer.guarded)
      (fun _ call reply transfer => transfer.exchange call reply)
      _ transfer)
    intro result own transfer
    refine .bind (fun _ later => Settled (some dev) true later ∧
        dev.printer.Guarded later)
      (act_ensures trivial fun reply => ⟨?_, ?_⟩) fun _ _ holds => holds
    · exact
        { live := by rw [liveDevice_concat, transfer.live]; rfl
          flag := by rw [flagUp_concat, transfer.flag]; rfl
          outside := by simp [Span.after] }
    · exact transfer.guarded.concat (by simp [HostCall.lockAction])

/-! ### Opening -/

theorem newDevice_ensures (printer : PrinterHandle)
    (settled : Settled device up own) :
    (newDevice printer).Ensures Disciplined own fun dev later =>
      Settled (some dev) false later := by
  refine .bind (fun reply later =>
    Settled (deviceAfter none (.newDevice printer, reply)) false later)
    (ask_ensures settled.outside fun reply => ?_) ?_
  · have given : deviceAfter (liveDevice own) (.newDevice printer, reply) =
        deviceAfter none (.newDevice printer, reply) := by
      cases reply <;> rfl
    exact
      { live := by rw [liveDevice_concat, given]
        flag := by rw [flagUp_concat]; rfl
        outside := by rw [spanOf_concat, settled.outside]; rfl }
  · intro reply own opened
    cases reply <;> exact opened

/-- What an open leaves: the device it returns, its flag off. -/
def Opened (result : Option KsDevice) (own : OwnHistory) : Prop :=
  Settled result false own

theorem openUsb_ensures (hidrawPath : String)
    (settled : Settled none false own) :
    (KsDevice.openUsb hidrawPath).Ensures Disciplined own Opened := by
  apply Script.Ensures.bind _
    (askConn_ensures (.openHidraw hidrawPath) rfl trivial settled)
  intro fd own settled
  cases fd with
  | none => exact settled
  | some fd =>
      exact .bind _ (newDevice_ensures (.owned fd) settled)
        fun _ _ opened => opened

theorem dialAndCache_ensures (kind : CacheKind) (addr : String)
    (settled : Settled device up own) :
    (dialAndCache kind addr).Ensures Disciplined own fun _ later =>
      Settled device up later := by
  apply Script.Ensures.bind _
    (askConn_ensures (.dial kind addr) rfl trivial settled)
  intro conn own settled
  cases conn with
  | none => exact settled
  | some conn =>
      exact .bind (fun _ later => Settled device up later)
        (act_ensures trivial (settled.concat rfl)) fun _ _ settled => settled

theorem cachedOrDialed_ensures (kind : CacheKind) (addr : String)
    (settled : Settled device up own) :
    (cachedOrDialed kind addr).Ensures Disciplined own fun _ later =>
      Settled device up later := by
  apply Script.Ensures.bind _
    (askConn_ensures (.cached kind addr) rfl trivial settled)
  intro entry own settled
  cases entry with
  | none => exact dialAndCache_ensures kind addr settled
  | some conn =>
      apply Script.Ensures.bind _ (query_ensures (.shared conn) _ settled)
      intro answer own settled
      have redial : (do
          act (.uncache kind addr)
          dialAndCache kind addr).Ensures Disciplined own fun _ later =>
            Settled device up later :=
        .bind (fun _ later => Settled device up later)
          (act_ensures trivial (settled.concat rfl))
          fun _ _ settled => dialAndCache_ensures kind addr settled
      rcases answer with error | _ | _
      · exact redial
      · exact redial
      · exact settled

theorem openCached_ensures (kind : CacheKind) (addr : String)
    (settled : Settled none false own) :
    (openCached kind addr).Ensures Disciplined own Opened := by
  apply Script.Ensures.bind _ (cachedOrDialed_ensures kind addr settled)
  intro conn own settled
  cases conn with
  | none => exact settled
  | some conn =>
      exact .bind _ (newDevice_ensures (.shared conn) settled)
        fun _ _ opened => opened

theorem openIf_ensures {registered : Option String}
    {way : String → HostScript (Option KsDevice)}
    (opens : ∀ place, (way place).Ensures Disciplined own Opened)
    (settled : Settled none false own) :
    (openIf registered way).Ensures Disciplined own Opened := by
  cases registered with
  | none => exact settled
  | some place => exact opens place

theorem orElse_ensures {first second : HostScript (Option KsDevice)}
    (firstOpens : first.Ensures Disciplined own Opened)
    (secondOpens : ∀ own, Settled none false own →
      second.Ensures Disciplined own Opened) :
    (orElse first second).Ensures Disciplined own Opened := by
  apply Script.Ensures.bind _ firstOpens
  intro result own opened
  cases result with
  | none => exact secondOpens own opened
  | some dev => exact opened

theorem openBt_ensures (uri : String) (settled : Settled none false own) :
    (openBt uri).Ensures Disciplined own Opened := by
  unfold openBt
  split
  · exact settled
  · exact openCached_ensures _ _ settled

theorem openBleAddr_ensures (bleFeature : Bool) (addr : String)
    (settled : Settled none false own) :
    (openBleAddr bleFeature addr).Ensures Disciplined own Opened := by
  unfold openBleAddr
  split
  · exact openCached_ensures _ _ settled
  · exact settled

theorem openSupvan_ensures (bleFeature : Bool) (uri : String)
    (settled : Settled none false own) :
    (openSupvan bleFeature uri).Ensures Disciplined own Opened := by
  unfold openSupvan
  split
  · exact settled
  · next slug _ =>
      have looked : (askTransports slug).Ensures Disciplined own
          fun _ later => Settled none false later :=
        askQuiet_ensures (.transports slug) rfl trivial settled fun reply => by
          cases reply <;> exact ⟨_, rfl⟩
      apply Script.Ensures.bind _ looked
      intro entry own settled
      cases entry with
      | none => exact settled
      | some entry =>
          apply orElse_ensures
          · exact openIf_ensures (openUsb_ensures · settled) settled
          intro own settled
          apply orElse_ensures
          · exact openIf_ensures (fun addr => openBt_ensures _ settled) settled
          intro own settled
          exact openIf_ensures
            (fun addr => openBleAddr_ensures bleFeature addr settled) settled

theorem openUri_ensures (bleFeature : Bool) (uri : String)
    (settled : Settled none false own) :
    (openUri bleFeature uri).Ensures Disciplined own Opened := by
  unfold openUri
  split
  · exact openSupvan_ensures bleFeature uri settled
  · exact settled

/-! ### Polls -/

theorem isPrinting_ensures (dev : KsDevice) (settled : Settled device up own) :
    dev.isPrinting.Ensures Disciplined own fun _ later =>
      Settled device up later :=
  askQuiet_ensures (.loadPrinting dev.printing) rfl trivial settled fun reply => by
    cases reply <;> exact ⟨_, rfl⟩

theorem status_ensures (dev : KsDevice) (settled : Settled device up own) :
    dev.status.Ensures Disciplined own fun _ later =>
      Settled device up later := by
  apply Script.Ensures.bind _ (isPrinting_ensures dev settled)
  intro printing own settled
  cases printing with
  | true => exact settled
  | false =>
      apply Script.Ensures.bind _ (query_ensures dev.printer _ settled)
      intro answer own settled
      rcases answer with (_ | _ | _) | _ | _ <;> exact settled

theorem material_ensures (dev : KsDevice) (settled : Settled device up own) :
    dev.material.Ensures Disciplined own fun _ later =>
      Settled device up later := by
  apply Script.Ensures.bind _ (isPrinting_ensures dev settled)
  intro printing own settled
  cases printing with
  | true => exact settled
  | false =>
      apply Script.Ensures.bind _ (query_ensures dev.printer _ settled)
      intro answer own settled
      rcases answer with _ | _ <;> exact settled

theorem dropDevice_ensures (settled : Settled device up own) :
    (act .dropDevice).Ensures Disciplined own fun _ later =>
      Settled none up later :=
  act_ensures settled.outside fun reply =>
    { live := by rw [liveDevice_concat]; rfl
      flag := by rw [flagUp_concat, settled.flag]; rfl
      outside := by rw [spanOf_concat, settled.outside]; rfl }

theorem pollStatus_ensures (bleFeature : Bool) (deviceUri : String)
    (settled : Settled none false own) :
    (pollStatus bleFeature deviceUri).Ensures Disciplined own
      fun _ later => Settled none false later := by
  apply Script.Ensures.bind _ (openUri_ensures bleFeature deviceUri settled)
  intro result own opened
  cases result with
  | none => exact opened
  | some dev =>
      apply Script.Ensures.bind _ (status_ensures dev opened)
      intro reasons own settled
      apply Script.Ensures.bind _ (material_ensures dev settled)
      intro mat own settled
      exact .bind _ (dropDevice_ensures settled) fun _ _ settled => settled

/-! ### Jobs -/

theorem storePrinting_ensures {dev : KsDevice} (value : Bool)
    (settled : Settled (some dev) up own) :
    (act (.storePrinting dev.printing value)).Ensures Disciplined own
      fun _ later => Settled (some dev) value later :=
  act_ensures ⟨dev, settled.live, rfl, settled.outside⟩ fun reply =>
    { live := by rw [liveDevice_concat, settled.live]; rfl
      flag := by rw [flagUp_concat]; rfl
      outside := by rw [spanOf_concat, settled.outside]; rfl }

theorem transferPage_ensures {dev : KsDevice} (compressed : List Bytes)
    (speed : U16) (settled : Settled (some dev) up own) :
    (dev.transferPage compressed speed).Ensures Disciplined own
      fun _ later => Settled (some dev) false later := by
  apply Script.Ensures.bind _ (storePrinting_ensures true settled)
  intro _ own settled
  apply Script.Ensures.bind _
    (PrinterHandle.printCompressed_ensures compressed speed settled)
  intro result own settled
  apply Script.Ensures.bind _ (storePrinting_ensures false settled)
  intro _ own settled
  rcases result with error | _
  · cases error with
    | invalidResponse message =>
        apply Script.Ensures.bind _ (query_ensures dev.printer _ settled)
        intro answer own settled
        rcases answer with _ | _ | s
        · exact settled
        · exact settled
        · dsimp only
          split <;> exact settled
    | _ => exact settled
  · exact settled

theorem transferPages_ensures {dev : KsDevice} (pages : List PreparedPage)
    (settled : Settled (some dev) false own) :
    (dev.transferPages pages).Ensures Disciplined own
      fun _ later => Settled (some dev) false later := by
  induction pages generalizing own with
  | nil => exact settled
  | cons page pages ih =>
      rcases page with failure | ⟨compressed, speed⟩
      · exact settled
      apply Script.Ensures.bind _
        (transferPage_ensures compressed speed settled)
      intro result own settled
      rcases result with failure | _
      · exact settled
      · exact ih settled

theorem settle_ensures (dev : KsDevice) (polls : Nat)
    (settled : Settled device up own) :
    (dev.settle polls).Ensures Disciplined own
      fun _ later => Settled device up later := by
  induction polls generalizing own with
  | zero => exact settled
  | succ polls ih =>
      apply Script.Ensures.bind _ (query_ensures dev.printer _ settled)
      intro answer own settled
      rcases answer with _ | _ | s
      · exact settled
      · exact ih settled
      · dsimp only
        split
        · exact settled
        · exact ih settled

theorem endJob_ensures {dev : KsDevice} (settled : Settled (some dev) up own) :
    dev.endJob.Ensures Disciplined own fun _ later =>
      Settled (some dev) false later :=
  .bind _ (settle_ensures dev completionPolls settled)
    fun _ _ settled => storePrinting_ensures false settled

theorem printJob_ensures (bleFeature : Bool) (deviceUri : String)
    (pages : List PreparedPage) (settled : Settled none false own) :
    (printJob bleFeature deviceUri pages).Ensures Disciplined own
      fun _ later => Settled none false later := by
  apply Script.Ensures.bind _ (openUri_ensures bleFeature deviceUri settled)
  intro result own opened
  cases result with
  | none => exact opened
  | some dev =>
      apply Script.Ensures.bind _ (transferPages_ensures pages opened)
      intro outcome own settled
      rcases outcome with failure | _
      · exact .bind _ (dropDevice_ensures settled) fun _ _ settled => settled
      · have ended : (if pages.isEmpty then pure ()
            else dev.endJob).Ensures Disciplined own fun _ later =>
              Settled (some dev) false later := by
          split
          · exact settled
          · exact endJob_ensures settled
        apply Script.Ensures.bind _ ended
        intro _ own settled
        exact .bind _ (dropDevice_ensures settled) fun _ _ settled => settled

end Scripts

/-- Every task of the server keeps the discipline. -/
theorem TaskKind.script_ensures (bleFeature : Bool) (deviceUri : String)
    (kind : TaskKind) :
    (kind.script bleFeature deviceUri).Ensures Disciplined []
      fun _ later => Settled none false later := by
  cases kind with
  | poller =>
      exact .bind _ (pollStatus_ensures bleFeature deviceUri .nil)
        fun _ _ settled => settled
  | job pages =>
      exact .bind _ (printJob_ensures bleFeature deviceUri pages .nil)
        fun _ _ settled => settled

end SupvanCups
