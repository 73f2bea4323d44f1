import SupvanCups.CriticalSections
import SupvanCups.FailFastSessions
import SupvanCups.MediaGate
import SupvanCups.TransferExclusion

/-!
# Who talks over a shared connection

The server polls printers, prints jobs, makes a printer identify itself and
sets its media, each in a task of its own and in any order.  A cached
connection is behind a mutex, which a handle takes for one operation at a time.

Whatever the interleaving, the printer at the other end sees whole operations
one after the other: no command of any task gets between the commands of
another's.
-/

namespace SupvanCups

/-! ### The rest of a handle and a device -/

/-- Write a material record and confirm that the printer took it. -/
def PrinterHandle.provisionMaterial (printer : PrinterHandle)
    (mat : RfidMaterial) : HostScript (Except ProtoError MaterialInfo) :=
  printer.withLock (printer.carryOut (printer.codec.provisionMaterial mat))

/-- Poke the device so that it makes itself known; what comes of it is
logged. -/
def KsDevice.identify (dev : KsDevice) : HostScript Unit := do
  let _ ← dev.printer.checkDevice
  pure ()

def identify (bleFeature : Bool) (deviceUri : String) : HostScript Unit := do
  match ← openUri bleFeature deviceUri with
  | none => pure ()
  | some dev =>
      dev.identify
      act .dropDevice

/-- What `apply_media` does with an open device. -/
def KsDevice.applyMedia (dev : KsDevice) (sizeHmm : Int × Int)
    (heat : U16 × U16) :
    HostScript (Except String (Option RollFingerprint)) := do
  match ← dev.printer.queryMaterial with
  | .error e =>
      pure (.error ("cannot read the loaded material: " ++ e.display))
  | .ok current =>
      let widthMm := sizeMm sizeHmm.1
      let heightMm := sizeMm sizeHmm.2
      match current.filter fun m => !recordIsOurs m.uuid m.code with
      | some m => pure (.error (genuineRoll m))
      | none =>
          if current.any fun m =>
              m.widthMm = widthMm && m.heightMm = heightMm then
            pure (.ok none)
          else
            match ← dev.printer.provisionMaterial
              (mediaRecord current widthMm heightMm heat) with
            | .error e => pure (.error
                ("the printer did not take the record: " ++ e.display))
            | .ok written => pure (.ok (some ⟨written.uuid, written.code,
                written.widthMm, written.heightMm⟩))

def setMedia (bleFeature : Bool) (deviceUri : String) (sizeHmm : Int × Int)
    (heat : U16 × U16) :
    HostScript (Except String (Option RollFingerprint)) := do
  match ← openUri bleFeature deviceUri with
  | none => pure (.error ("cannot reach " ++ deviceUri))
  | some dev =>
      let result ← dev.applyMedia sizeHmm heat
      act .dropDevice
      pure result

/-- On a connection of its own the device makes the calls of `applyMedia`. -/
theorem applyMedia_owned (fd : Conn) (flag : Nat) (deviceUri : String)
    (sizeHmm : Int × Int) (heat : U16 × U16) :
    (KsDevice.mk (.owned fd) flag).applyMedia sizeHmm heat =
      (applyMedia (.connected usbHidTransport) deviceUri sizeHmm
        heat).run.interpret (exchange (.owned fd)) := by
  rw [applyMedia, Session.interpret_mapError_bind]
  show Script.bind _ _ = _
  congr 1
  funext answer
  cases answer with
  | error e => rfl
  | ok current =>
      dsimp only
      unfold applyRead
      dsimp only
      cases current.filter fun m => !recordIsOurs m.uuid m.code with
      | some m => rfl
      | none =>
          dsimp only
          split
          · rfl
          · rw [Session.interpret_mapError_bind]
            show Script.bind _ _ = _
            congr 1
            funext written
            cases written <;> rfl

/-! ### Tasks and what they do with a connection -/

inductive ServerTask
  | poll (deviceUri : String)
  | job (deviceUri : String) (pages : List PreparedPage)
  | identify (deviceUri : String)
  | setMedia (deviceUri : String) (sizeHmm : Int × Int) (heat : U16 × U16)

def ServerTask.script (bleFeature : Bool) : ServerTask → HostScript Unit
  | poll deviceUri => do
      let _ ← pollStatus bleFeature deviceUri
  | job deviceUri pages => do
      let _ ← printJob bleFeature deviceUri pages
  | identify deviceUri => SupvanCups.identify bleFeature deviceUri
  | setMedia deviceUri sizeHmm heat => do
      let _ ← SupvanCups.setMedia bleFeature deviceUri sizeHmm heat

/-- What a handle does under one hold of the mutex. -/
inductive HandleOperation
  | checkDevice
  | queryStatus
  | queryMaterial
  | printCompressed (blocks : List Bytes) (speed : U16)
  | provisionMaterial (mat : RfidMaterial)

/-- The calls with their replies are those of a run of the operation. -/
def HandleOperation.Leaves (events : WireHistory) : HandleOperation → Prop
  | checkDevice => sppCodec.checkDevice.run.Produces events
  | queryStatus => sppCodec.queryStatus.run.Produces events
  | queryMaterial => sppCodec.queryMaterial.run.Produces events
  | printCompressed blocks speed =>
      (sppCodec.printCompressed blocks speed).run.Produces events
  | provisionMaterial mat =>
      (sppCodec.provisionMaterial mat).run.Produces events

/-- Every task checks a cached connection when it opens it.  A job prints its
pages and looks at the status; media are set to the size asked for. -/
def ServerTask.Performs : ServerTask → HandleOperation → Prop
  | _, .checkDevice => True
  | poll _, .queryStatus => True
  | poll _, .queryMaterial => True
  | job _ _, .queryStatus => True
  | job _ pages, .printCompressed blocks speed => .ok (blocks, speed) ∈ pages
  | setMedia _ _ _, .queryMaterial => True
  | setMedia _ sizeHmm heat, .provisionMaterial mat =>
      ∃ current, mat =
        mediaRecord current (sizeMm sizeHmm.1) (sizeMm sizeHmm.2) heat
  | _, _ => False

def wireReply : HostReply → TransportReply
  | .wire reply => reply
  | _ => .ok none

def readExchange :
    HostCall × HostReply → Option (TransportCall × TransportReply)
  | (.exchange _ call, reply) => some (call, wireReply reply)
  | _ => none

/-- The calls that some steps make over a connection, with their replies. -/
def exchangesOf (events : History HostCall HostReply) : WireHistory :=
  events.filterMap readExchange

/-- The shared connection that a step uses. -/
def HostCall.sharedConn : HostCall → Option Conn
  | exchange (.shared conn) _ => some conn
  | _ => none

/-- A visit of a task to a connection is a run of one of its operations. -/
def ServerTask.WholeVisit (task : ServerTask)
    (events : History HostCall HostReply) : Prop :=
  ∃ operation, task.Performs operation ∧ operation.Leaves (exchangesOf events)

/-! ### Each task makes whole visits -/

abbrev TaskVisits (task : ServerTask) (own : OwnHistory)
    (request : HostCall) : Prop :=
  VisitsWhole HostCall.lockAction HostCall.sharedConn
    (fun _ => task.WholeVisit) own request

/-- Whatever came before, the script uses connections in whole visits, under
one lock at a time that it gives back. -/
def KeepsVisits {α : Type} (task : ServerTask) (script : HostScript α) : Prop :=
  ∀ own, HoldsNone HostCall.lockAction own →
    script.Ensures (TaskVisits task) own fun _ later =>
      HoldsNone HostCall.lockAction later

instance : Nonempty HostReply :=
  ⟨.done⟩

section Rules

variable {task : ServerTask} {α β : Type}

theorem keepsVisits_pure (result : α) :
    KeepsVisits task (pure result : HostScript α) :=
  fun _ idle => idle

theorem KeepsVisits.bind {script : HostScript α} {next : α → HostScript β}
    (first : KeepsVisits task script)
    (rest : ∀ result, KeepsVisits task (next result)) :
    KeepsVisits task (script >>= next) :=
  fun own idle => Script.Ensures.bind _ (first own idle) fun result later =>
    rest result later

/-- A step that has nothing to do with a shared connection. -/
theorem taskVisits_of_apart {own : OwnHistory} {request : HostCall}
    (unused : request.sharedConn = none)
    (apart : request.lockAction = none) :
    TaskVisits task own request where
  taken conn acquires := by
    rw [apart] at acquires
    cases acquires
  used conn uses := by
    rw [unused] at uses
    cases uses
  released conn releases := by
    rw [apart] at releases
    cases releases

theorem keepsVisits_ask {request : HostCall}
    (unused : request.sharedConn = none)
    (apart : request.lockAction = none)
    {read : HostReply → HostScript α}
    (reads : ∀ reply, KeepsVisits task (read reply)) :
    KeepsVisits task ((Script.ask request).bind read) :=
  fun _ idle => ⟨taskVisits_of_apart unused apart, fun reply =>
    reads reply _ (idle.concat apart)⟩

theorem keepsVisits_act {request : HostCall}
    (unused : request.sharedConn = none)
    (apart : request.lockAction = none) :
    KeepsVisits task (act request) :=
  keepsVisits_ask unused apart fun _ => keepsVisits_pure ()

/-- What a handle runs under its mutex, for a shared connection: from an empty
visit to a whole one. -/
def FillsVisit (task : ServerTask) (conn : Conn) (script : HostScript α) :
    Prop :=
  ∀ own, HoldsOnly HostCall.lockAction conn own →
    visit HostCall.lockAction HostCall.sharedConn conn own = [] →
    script.Ensures (TaskVisits task) own fun _ later =>
      HoldsOnly HostCall.lockAction conn later ∧ task.WholeVisit
        (visit HostCall.lockAction HostCall.sharedConn conn later)

theorem exchange_eq (printer : PrinterHandle) (request : TransportCall) :
    exchange printer request =
      .call (.exchange printer request) fun reply =>
        .done (wireReply reply) := by
  show Script.call _ _ = _
  congr 1
  funext reply
  cases reply <;> rfl

theorem carryOut_fillsVisit {conn : Conn} {operation : Operation α}
    {named : HandleOperation} (performs : task.Performs named)
    (leaves : ∀ events, operation.run.Produces events → named.Leaves events) :
    FillsVisit task conn
      ((PrinterHandle.shared conn).carryOut operation) := by
  intro own held empty
  refine ensures_of_only_uses ?_ held fun events produced => ?_
  · refine Script.Only.interpret (fun request => ?_) operation.run
    rw [exchange_eq]
    exact ⟨⟨rfl, rfl⟩, fun reply => trivial⟩
  · rw [empty, List.nil_append]
    exact ⟨named, performs, leaves _ (Script.Produces.of_interpret
      (exchange_eq (.shared conn)) (fun _ _ => rfl) produced)⟩

theorem keepsVisits_exchange_owned (fd : Conn) (operation : Operation α) :
    KeepsVisits task ((PrinterHandle.owned fd).carryOut operation) := by
  intro own idle
  rw [PrinterHandle.carryOut]
  generalize operation.run = script
  induction script generalizing own with
  | done result => exact idle
  | call request next ih =>
      rw [Script.interpret, exchange_eq]
      exact ⟨taskVisits_of_apart rfl rfl, fun reply =>
        ih _ _ (idle.concat rfl)⟩

theorem keepsVisits_withLock {printer : PrinterHandle} {body : HostScript α}
    (owned : ∀ fd, printer = .owned fd → KeepsVisits task body)
    (shared : ∀ conn, printer = .shared conn → FillsVisit task conn body) :
    KeepsVisits task (printer.withLock body) := by
  cases printer with
  | owned fd => exact owned fd rfl
  | shared conn =>
      intro own idle
      refine .bind (fun _ later => HoldsOnly HostCall.lockAction conn later ∧
        visit HostCall.lockAction HostCall.sharedConn conn later = [])
        ⟨⟨fun _ _ => idle, nofun, nofun⟩, fun reply =>
          ⟨idle.acquire rfl, visit_concat_acquire own nofun rfl⟩⟩ ?_
      rintro _ own ⟨held, empty⟩
      refine .bind _ (shared conn rfl own held empty) ?_
      rintro result own ⟨held, whole⟩
      refine .bind (fun _ later => HoldsNone HostCall.lockAction later)
        ⟨⟨nofun, nofun, fun other releases => ?_⟩, fun reply =>
          held.release rfl⟩ fun _ _ idle => idle
      obtain rfl : conn = other := by
        simpa [HostCall.lockAction] using releases
      exact ⟨held.holds, whole⟩

theorem keepsVisits_query {printer : PrinterHandle}
    (operation : Transport → Operation α) {named : HandleOperation}
    (performs : task.Performs named)
    (leaves : ∀ events, (operation sppCodec).run.Produces events →
      named.Leaves events) :
    KeepsVisits task
      (printer.withLock (printer.carryOut (operation printer.codec))) := by
  apply keepsVisits_withLock
  · rintro fd rfl
    exact keepsVisits_exchange_owned fd _
  · rintro conn rfl
    exact carryOut_fillsVisit performs leaves

theorem keepsVisits_checkDevice (printer : PrinterHandle) :
    KeepsVisits task printer.checkDevice := by
  have performs : task.Performs .checkDevice := by
    cases task <;> trivial
  exact keepsVisits_query Transport.checkDevice performs
    fun _ produced => produced

theorem keepsVisits_queryStatus (printer : PrinterHandle)
    (performs : task.Performs .queryStatus) :
    KeepsVisits task printer.queryStatus :=
  keepsVisits_query Transport.queryStatus performs
    fun _ produced => produced

theorem keepsVisits_queryMaterial (printer : PrinterHandle)
    (performs : task.Performs .queryMaterial) :
    KeepsVisits task printer.queryMaterial :=
  keepsVisits_query Transport.queryMaterial performs
    fun _ produced => produced

theorem keepsVisits_provisionMaterial (printer : PrinterHandle)
    {mat : RfidMaterial} (performs : task.Performs (.provisionMaterial mat)) :
    KeepsVisits task (printer.provisionMaterial mat) :=
  keepsVisits_query (·.provisionMaterial mat) performs
    fun _ produced => produced

/-- The marks of a transfer are no uses. -/
theorem keepsVisits_printCompressed (printer : PrinterHandle)
    {blocks : List Bytes} {speed : U16}
    (performs : task.Performs (.printCompressed blocks speed)) :
    KeepsVisits task (printer.printCompressed blocks speed) := by
  apply keepsVisits_withLock
  · rintro fd rfl
    refine .bind (keepsVisits_act rfl rfl) fun _ =>
      .bind (keepsVisits_exchange_owned fd _) fun result => ?_
    exact .bind (keepsVisits_act rfl rfl) fun _ => keepsVisits_pure result
  · rintro conn rfl own held empty
    refine .bind (fun _ later => HoldsOnly HostCall.lockAction conn later ∧
        visit HostCall.lockAction HostCall.sharedConn conn later = [])
      ⟨taskVisits_of_apart rfl rfl, fun reply => ⟨held.concat rfl, ?_⟩⟩ ?_
    · rw [visit_concat_other own (by simp [HostCall.sharedConn])
        (by simp [HostCall.lockAction])]
      exact empty
    rintro _ own ⟨held, empty⟩
    refine .bind _ (carryOut_fillsVisit performs (fun _ produced => produced)
      own held empty) ?_
    rintro result own ⟨held, whole⟩
    refine .bind (fun _ later => HoldsOnly HostCall.lockAction conn later ∧
        task.WholeVisit
          (visit HostCall.lockAction HostCall.sharedConn conn later))
      ⟨taskVisits_of_apart rfl rfl, fun reply => ⟨held.concat rfl, ?_⟩⟩
      fun _ _ holds => holds
    rw [visit_concat_other own (by simp [HostCall.sharedConn])
      (by simp [HostCall.lockAction])]
    exact whole

/-! ### Opening -/

theorem keepsVisits_newDevice (printer : PrinterHandle) :
    KeepsVisits task (newDevice printer) :=
  keepsVisits_ask rfl rfl fun reply => by
    cases reply <;> exact keepsVisits_pure _

theorem keepsVisits_askConn {request : HostCall}
    (unused : request.sharedConn = none)
    (apart : request.lockAction = none) :
    KeepsVisits task (askConn request) :=
  keepsVisits_ask unused apart fun reply => by
    cases reply <;> exact keepsVisits_pure _

theorem keepsVisits_openUsb (hidrawPath : String) :
    KeepsVisits task (KsDevice.openUsb hidrawPath) := by
  refine .bind (keepsVisits_askConn rfl rfl)
    fun fd => ?_
  cases fd with
  | none => exact keepsVisits_pure none
  | some fd =>
      exact .bind (keepsVisits_newDevice _) fun dev => keepsVisits_pure _

theorem keepsVisits_dialAndCache (kind : CacheKind) (addr : String) :
    KeepsVisits task (dialAndCache kind addr) := by
  refine .bind (keepsVisits_askConn rfl rfl)
    fun conn => ?_
  cases conn with
  | none => exact keepsVisits_pure none
  | some conn =>
      exact .bind (keepsVisits_act rfl rfl)
        fun _ => keepsVisits_pure _

theorem keepsVisits_cachedOrDialed (kind : CacheKind) (addr : String) :
    KeepsVisits task (cachedOrDialed kind addr) := by
  refine .bind (keepsVisits_askConn rfl rfl)
    fun entry => ?_
  cases entry with
  | none => exact keepsVisits_dialAndCache kind addr
  | some conn =>
      refine .bind (keepsVisits_checkDevice _) fun answer => ?_
      have redial : KeepsVisits task (do
          act (.uncache kind addr)
          dialAndCache kind addr) :=
        .bind (keepsVisits_act rfl rfl)
          fun _ => keepsVisits_dialAndCache kind addr
      rcases answer with error | _ | _
      · exact redial
      · exact redial
      · exact keepsVisits_pure _

theorem keepsVisits_openCached (kind : CacheKind) (addr : String) :
    KeepsVisits task (openCached kind addr) := by
  refine .bind (keepsVisits_cachedOrDialed kind addr) fun conn => ?_
  cases conn with
  | none => exact keepsVisits_pure none
  | some conn =>
      exact .bind (keepsVisits_newDevice _) fun dev => keepsVisits_pure _

theorem keepsVisits_openBt (uri : String) :
    KeepsVisits task (openBt uri) := by
  unfold openBt
  split
  · exact keepsVisits_pure none
  · exact keepsVisits_openCached .bt _

theorem keepsVisits_openBleAddr (bleFeature : Bool) (addr : String) :
    KeepsVisits task (openBleAddr bleFeature addr) := by
  unfold openBleAddr
  split
  · exact keepsVisits_openCached .ble addr
  · exact keepsVisits_pure none

theorem keepsVisits_openIf (registered : Option String)
    {way : String → HostScript (Option KsDevice)}
    (opens : ∀ place, KeepsVisits task (way place)) :
    KeepsVisits task (openIf registered way) := by
  cases registered with
  | none => exact keepsVisits_pure none
  | some place => exact opens place

theorem keepsVisits_orElse {first second : HostScript (Option KsDevice)}
    (keepsFirst : KeepsVisits task first)
    (keepsSecond : KeepsVisits task second) :
    KeepsVisits task (orElse first second) := by
  refine .bind keepsFirst fun opened => ?_
  cases opened with
  | none => exact keepsSecond
  | some dev => exact keepsVisits_pure _

theorem keepsVisits_openUri (bleFeature : Bool) (uri : String) :
    KeepsVisits task (openUri bleFeature uri) := by
  unfold openUri openSupvan
  split
  · split
    · exact keepsVisits_pure none
    · refine .bind (keepsVisits_ask rfl rfl
        fun reply => by cases reply <;> exact keepsVisits_pure _)
        fun entry => ?_
      cases entry with
      | none => exact keepsVisits_pure none
      | some entry =>
          exact keepsVisits_orElse
            (keepsVisits_openIf _ keepsVisits_openUsb)
            (keepsVisits_orElse
              (keepsVisits_openIf _ fun addr => keepsVisits_openBt _)
              (keepsVisits_openIf _ (keepsVisits_openBleAddr bleFeature)))
  · exact keepsVisits_pure none

/-! ### The tasks -/

theorem keepsVisits_isPrinting (dev : KsDevice) :
    KeepsVisits task dev.isPrinting :=
  keepsVisits_ask rfl rfl fun reply => by
    cases reply <;> exact keepsVisits_pure _

theorem keepsVisits_status (dev : KsDevice)
    (performs : task.Performs .queryStatus) : KeepsVisits task dev.status := by
  refine .bind (keepsVisits_isPrinting dev) fun printing => ?_
  split
  · exact keepsVisits_pure _
  · refine .bind (keepsVisits_queryStatus _ performs) fun answer => ?_
    split <;> exact keepsVisits_pure _

theorem keepsVisits_material (dev : KsDevice)
    (performs : task.Performs .queryMaterial) :
    KeepsVisits task dev.material := by
  refine .bind (keepsVisits_isPrinting dev) fun printing => ?_
  split
  · exact keepsVisits_pure _
  · refine .bind (keepsVisits_queryMaterial _ performs) fun answer => ?_
    split <;> exact keepsVisits_pure _

theorem keepsVisits_transferPage (dev : KsDevice) {blocks : List Bytes}
    {speed : U16} (performs : task.Performs (.printCompressed blocks speed))
    (queries : task.Performs .queryStatus) :
    KeepsVisits task (dev.transferPage blocks speed) := by
  refine .bind (keepsVisits_act rfl rfl)
    fun _ => .bind (keepsVisits_printCompressed _ performs) fun result => ?_
  refine .bind (keepsVisits_act rfl rfl)
    fun _ => ?_
  split
  · exact keepsVisits_pure _
  · refine .bind (keepsVisits_queryStatus _ queries) fun answer => ?_
    split
    · split <;> exact keepsVisits_pure _
    · exact keepsVisits_pure _
  · exact keepsVisits_pure _

theorem keepsVisits_transferPages (dev : KsDevice) {pages : List PreparedPage}
    (performs : ∀ blocks speed, .ok (blocks, speed) ∈ pages →
      task.Performs (.printCompressed blocks speed))
    (queries : task.Performs .queryStatus) :
    KeepsVisits task (dev.transferPages pages) := by
  induction pages with
  | nil => exact keepsVisits_pure _
  | cons page pages ih =>
      rcases page with failure | ⟨blocks, speed⟩
      · exact keepsVisits_pure _
      · refine .bind (keepsVisits_transferPage dev
          (performs _ _ List.mem_cons_self) queries) fun result => ?_
        split
        · exact ih fun blocks speed member =>
            performs _ _ (List.mem_cons_of_mem _ member)
        · exact keepsVisits_pure _

theorem keepsVisits_settle (dev : KsDevice)
    (queries : task.Performs .queryStatus) (polls : Nat) :
    KeepsVisits task (dev.settle polls) := by
  induction polls with
  | zero => exact keepsVisits_pure ()
  | succ polls ih =>
      refine .bind (keepsVisits_queryStatus _ queries) fun answer => ?_
      split
      · split
        · exact keepsVisits_pure ()
        · exact ih
      · exact ih
      · exact keepsVisits_pure ()

theorem keepsVisits_dropDevice : KeepsVisits task (act .dropDevice) :=
  keepsVisits_act rfl rfl

end Rules

theorem keepsVisits_pollStatus (bleFeature : Bool) (deviceUri : String) :
    KeepsVisits (.poll deviceUri) (pollStatus bleFeature deviceUri) := by
  refine .bind (keepsVisits_openUri bleFeature deviceUri) fun opened => ?_
  cases opened with
  | none => exact keepsVisits_pure _
  | some dev =>
      refine .bind (keepsVisits_status dev trivial) fun reasons => ?_
      refine .bind (keepsVisits_material dev trivial) fun mat => ?_
      exact .bind keepsVisits_dropDevice fun _ => keepsVisits_pure _

theorem keepsVisits_printJob (bleFeature : Bool) (deviceUri : String)
    (pages : List PreparedPage) :
    KeepsVisits (.job deviceUri pages)
      (printJob bleFeature deviceUri pages) := by
  refine .bind (keepsVisits_openUri bleFeature deviceUri) fun opened => ?_
  cases opened with
  | none => exact keepsVisits_pure _
  | some dev =>
      have queries : (ServerTask.job deviceUri pages).Performs .queryStatus :=
        trivial
      have endsJob : KeepsVisits (.job deviceUri pages) dev.endJob :=
        .bind (keepsVisits_settle dev queries completionPolls)
          fun _ => keepsVisits_act rfl rfl
      refine .bind (keepsVisits_transferPages dev
        (fun _ _ member => member) queries) fun result => ?_
      cases result with
      | error failure =>
          exact .bind keepsVisits_dropDevice fun _ => keepsVisits_pure _
      | ok done =>
          refine .bind ?_ fun _ =>
            .bind keepsVisits_dropDevice fun _ => keepsVisits_pure _
          split
          · exact keepsVisits_pure ()
          · exact endsJob

theorem keepsVisits_setMedia (bleFeature : Bool) (deviceUri : String)
    (sizeHmm : Int × Int) (heat : U16 × U16) :
    KeepsVisits (.setMedia deviceUri sizeHmm heat)
      (setMedia bleFeature deviceUri sizeHmm heat) := by
  refine .bind (keepsVisits_openUri bleFeature deviceUri) fun opened => ?_
  cases opened with
  | none => exact keepsVisits_pure _
  | some dev =>
      refine .bind ?_ fun result =>
        .bind keepsVisits_dropDevice fun _ => keepsVisits_pure result
      refine .bind (keepsVisits_queryMaterial _ trivial) fun answer => ?_
      cases answer with
      | error e => exact keepsVisits_pure _
      | ok current =>
          dsimp only
          split
          · exact keepsVisits_pure _
          · split
            · exact keepsVisits_pure _
            · refine .bind (keepsVisits_provisionMaterial _ ⟨current, rfl⟩)
                fun written => ?_
              cases written <;> exact keepsVisits_pure _

theorem ServerTask.keepsVisits (bleFeature : Bool) (task : ServerTask) :
    KeepsVisits task (task.script bleFeature) := by
  cases task with
  | poll deviceUri =>
      exact (keepsVisits_pollStatus bleFeature deviceUri).bind
        fun _ => keepsVisits_pure ()
  | job deviceUri pages =>
      exact (keepsVisits_printJob bleFeature deviceUri pages).bind
        fun _ => keepsVisits_pure ()
  | identify deviceUri =>
      refine .bind (keepsVisits_openUri bleFeature deviceUri) fun opened => ?_
      cases opened with
      | none => exact keepsVisits_pure ()
      | some dev =>
          exact .bind (.bind (keepsVisits_checkDevice _) fun _ =>
            keepsVisits_pure ()) fun _ => keepsVisits_dropDevice
  | setMedia deviceUri sizeHmm heat =>
      exact (keepsVisits_setMedia bleFeature deviceUri sizeHmm heat).bind
        fun _ => keepsVisits_pure ()

/-! ### Runs -/

/-- Tasks of the server, on any printers. -/
def serverScripts (bleFeature : Bool) (tasks : Nat → ServerTask) :
    Nat → HostScript Unit :=
  fun task => (tasks task).script bleFeature

theorem lock_wasFree (trace : HostTrace) (task : Nat) (request : HostCall)
    (reply : HostReply) (conn : Conn)
    (admitted : hostSteps trace task request reply)
    (acquires : request.lockAction = some (.acquire conn)) :
    holder HostCall.lockAction conn trace = none := by
  cases request with
  | lock other =>
      obtain rfl : other = conn := by
        simpa [HostCall.lockAction] using acquires
      cases reply with
      | done => simpa [hostSteps, hostWorld] using admitted
      | _ => cases admitted
  | _ => cases acquires

/-- Any task may check the connection. -/
theorem exists_wholeVisit (conn : Conn) (task : ServerTask) :
    ∃ events, task.WholeVisit events := by
  obtain ⟨events, produced⟩ := Script.exists_produces
    ((PrinterHandle.shared conn).carryOut sppCodec.checkDevice)
  refine ⟨events, .checkDevice, by cases task <;> trivial, ?_⟩
  exact Script.Produces.of_interpret (exchange_eq (.shared conn))
    (fun _ _ => rfl) produced

/-- In every run of any tasks, the calls over a shared connection are whole
operations of single tasks, one after the other, the last of which may be under
way. -/
theorem sharedConnection_oneAtATime (bleFeature : Bool)
    (tasks : Nat → ServerTask) {rest : Nat → HostScript Unit}
    {trace : HostTrace}
    (reached : Trace.Reaches hostSteps (serverScripts bleFeature tasks) rest
      trace) (conn : Conn) :
    OneAtATime (fun task => (tasks task).WholeVisit)
      (usesOf HostCall.sharedConn conn trace) := by
  refine reached.oneAtATime lock_wasFree ?_
    (fun task => (tasks task).keepsVisits bleFeature [] holdsNone_nil)
    fun task => exists_wholeVisit conn (tasks task)
  intro request lock used
  cases request with
  | exchange printer call => rfl
  | _ => cases used

/-- A page over the shared connection of a job while every other task polls. -/
theorem sharedConnection_oneAtATime_bt :
    OneAtATime (fun task => ServerTask.WholeVisit
        (match task with
          | 0 => .job "supvan://t50" [.ok ([[0#8]], 60#16)]
          | _ => .poll "supvan://t50"))
      (usesOf HostCall.sharedConn 3 btRun) := by
  have followed : Trace.follow hostSteps btRun.schedule
      (serverScripts false fun task =>
        match task with
        | 0 => .job "supvan://t50" [.ok ([[0#8]], 60#16)]
        | _ => .poll "supvan://t50") [] = some btRun := rfl
  obtain ⟨rest, reached⟩ := Trace.Reaches.start.follow followed
  exact sharedConnection_oneAtATime false _ reached 3

end SupvanCups
