import SupvanCups.Discovery
import SupvanCups.PrinterOperations
import SupvanCups.TaskInterleaving

/-!
# Opening a device and talking to it

The status poller and the print jobs open a device for themselves each time.
Over USB each open has a file descriptor of its own; a Bluetooth or BLE
connection is kept in a cache and shared, behind a mutex.  Every device object
has a `printing` flag of its own.

Here the two are scripts over what they share with each other: the transport
map, the connection caches, the mutexes, the flags and the printer.  Each
transport call is one step.  Devices of mock mode have no connection and are
left out.
-/

namespace SupvanCups

/-! ### What tasks share -/

abbrev Conn := Nat

inductive CacheKind
  | bt
  | ble
  deriving DecidableEq

/-- A connection that belongs to one device, or one that is in a cache. -/
inductive PrinterHandle
  | owned (fd : Conn)
  | shared (conn : Conn)
  deriving DecidableEq

/-- The steps of a task.  The span of `print_compressed` is marked, to be seen
in a trace; the marks do nothing. -/
inductive HostCall
  | transports (slug : String)
  | openHidraw (path : String)
  | cached (kind : CacheKind) (addr : String)
  | uncache (kind : CacheKind) (addr : String)
  | dial (kind : CacheKind) (addr : String)
  | cache (kind : CacheKind) (addr : String) (conn : Conn)
  | lock (conn : Conn)
  | unlock (conn : Conn)
  | newDevice (printer : PrinterHandle)
  | dropDevice
  | loadPrinting (flag : Nat)
  | storePrinting (flag : Nat) (value : Bool)
  | exchange (printer : PrinterHandle) (call : TransportCall)
  | enterPrint (printer : PrinterHandle)
  | leavePrint

inductive HostReply
  | done
  | transports (entry : Option SupvanTransports)
  | conn (opened : Option Conn)
  | flag (flag : Nat)
  | printing (value : Bool)
  | wire (reply : TransportReply)

abbrev HostScript := Script HostCall HostReply

abbrev HostTrace := Trace Nat HostCall HostReply

def act (request : HostCall) : HostScript Unit :=
  (Script.ask request).bind fun _ => .done ()

def askConn (request : HostCall) : HostScript (Option Conn) :=
  (Script.ask request).bind fun
    | .conn opened => .done opened
    | _ => .done none

def askTransports (slug : String) : HostScript (Option SupvanTransports) :=
  (Script.ask (.transports slug)).bind fun
    | .transports entry => .done entry
    | _ => .done none

def exchange (printer : PrinterHandle) (call : TransportCall) :
    HostScript TransportReply :=
  (Script.ask (.exchange printer call)).bind fun
    | .wire reply => .done reply
    | _ => .done (.ok none)

/-! ### Handles -/

namespace PrinterHandle

def isShared : PrinterHandle → Bool
  | owned _ => false
  | shared _ => true

/-- USB has its own replies; the cached links are serial. -/
def codec : PrinterHandle → Transport
  | owned _ => usbHidTransport
  | shared _ => sppCodec

def carryOut {α : Type} (printer : PrinterHandle) (operation : Operation α) :
    HostScript (Except ProtoError α) :=
  operation.run.interpret (exchange printer)

/-- Hold the mutex of a shared connection meanwhile. -/
def withLock {α : Type} (printer : PrinterHandle) (body : HostScript α) :
    HostScript α :=
  match printer with
  | owned _ => body
  | shared conn => do
      act (.lock conn)
      let result ← body
      act (.unlock conn)
      pure result

def queryStatus (printer : PrinterHandle) :
    HostScript (Except ProtoError (Option PrinterStatus)) :=
  printer.withLock (printer.carryOut printer.codec.queryStatus)

def queryMaterial (printer : PrinterHandle) :
    HostScript (Except ProtoError (Option MaterialInfo)) :=
  printer.withLock (printer.carryOut printer.codec.queryMaterial)

def checkDevice (printer : PrinterHandle) :
    HostScript (Except ProtoError Bool) :=
  printer.withLock (printer.carryOut printer.codec.checkDevice)

def printCompressed (printer : PrinterHandle) (blocks : List Bytes)
    (speed : U16) : HostScript (Except ProtoError Unit) :=
  printer.withLock do
    act (.enterPrint printer)
    let result ← printer.carryOut (printer.codec.printCompressed blocks speed)
    act .leavePrint
    pure result

end PrinterHandle

/-! ### Devices -/

/-- A connected printer and the flag that guards it during a transfer. -/
structure KsDevice where
  printer : PrinterHandle
  printing : Nat

/-- A device object with a flag of its own. -/
def newDevice (printer : PrinterHandle) : HostScript KsDevice :=
  (Script.ask (.newDevice printer)).bind fun
    | .flag flag => .done ⟨printer, flag⟩
    | _ => .done ⟨printer, 0⟩

inductive PrinterReason
  | coverOpen
  | mediaEmpty
  | mediaJam
  | mediaNeeded
  | markerSupplyLow
  | offline
  | other
  deriving DecidableEq

/-- A set of reasons, as a list. -/
abbrev PrinterReasons := List PrinterReason

def reasonsFromStatus (s : PrinterStatus) : PrinterReasons :=
  (if s.coverOpen then [.coverOpen] else []) ++
    (if s.labelEnd || s.labelNotInstalled then [.mediaEmpty] else []) ++
    (if s.labelRwError || s.labelModeError || s.ribbonRwError then [.mediaJam]
      else []) ++
    (if s.ribbonEnd then [.mediaNeeded] else []) ++
    (if s.headTempHigh then [.other] else [])

namespace KsDevice

def isPrinting (dev : KsDevice) : HostScript Bool :=
  (Script.ask (.loadPrinting dev.printing)).bind fun
    | .printing value => .done value
    | _ => .done false

/-- Query the printer status, unless this device is printing. -/
def status (dev : KsDevice) : HostScript PrinterReasons := do
  if ← dev.isPrinting then
    pure []
  else
    match ← dev.printer.queryStatus with
    | .ok (some s) => pure (reasonsFromStatus s)
    | .ok none => pure [.other]
    | .error (.io _) => pure []
    | .error _ => pure [.other]

/-- Query the loaded material, unless this device is printing. -/
def material (dev : KsDevice) : HostScript (Option MaterialInfo) := do
  if ← dev.isPrinting then
    pure none
  else
    match ← dev.printer.queryMaterial with
    | .ok m => pure m
    | .error _ => pure none

def openUsb (hidrawPath : String) : HostScript (Option KsDevice) := do
  match ← askConn (.openHidraw hidrawPath) with
  | none => pure none
  | some fd => return some (← newDevice (.owned fd))

end KsDevice

/-! ### Opening by URI -/

def dialAndCache (kind : CacheKind) (addr : String) :
    HostScript (Option Conn) := do
  match ← askConn (.dial kind addr) with
  | none => pure none
  | some conn =>
      act (.cache kind addr conn)
      pure (some conn)

/-- Reuse a cached connection that still answers, or dial a fresh one. -/
def cachedOrDialed (kind : CacheKind) (addr : String) :
    HostScript (Option Conn) := do
  match ← askConn (.cached kind addr) with
  | some conn =>
      match ← (PrinterHandle.shared conn).checkDevice with
      | .ok true => pure (some conn)
      | _ =>
          act (.uncache kind addr)
          dialAndCache kind addr
  | none => dialAndCache kind addr

def openCached (kind : CacheKind) (addr : String) :
    HostScript (Option KsDevice) := do
  match ← cachedOrDialed kind addr with
  | none => pure none
  | some conn => return some (← newDevice (.shared conn))

def stripPrefix (start text : String) : Option String :=
  (start.toList.isPrefixOf? text.toList).map .ofList

/-- The address in a `btrfcomm` URI: what follows the first slash. -/
def btAddress (uri : String) : Option String :=
  (stripPrefix "btrfcomm://" uri).bind fun rest =>
    if '/' ∈ rest.toList then
      some (.ofList ((rest.toList.dropWhile (· ≠ '/')).drop 1))
    else none

def openBt (uri : String) : HostScript (Option KsDevice) :=
  match btAddress uri with
  | none => pure none
  | some addr => openCached .bt addr

/-- BLE is a feature of the build. -/
def openBleAddr (bleFeature : Bool) (addr : String) :
    HostScript (Option KsDevice) :=
  if bleFeature then openCached .ble addr else pure none

/-- Try the next way to open a device if there is no device yet. -/
def orElse (first second : HostScript (Option KsDevice)) :
    HostScript (Option KsDevice) := do
  match ← first with
  | some dev => pure (some dev)
  | none => second

/-- Open a way to the printer if it is registered. -/
def openIf (registered : Option String)
    (way : String → HostScript (Option KsDevice)) :
    HostScript (Option KsDevice) :=
  match registered with
  | none => pure none
  | some place => way place

/-- Open a printer by its slug: over USB, or else Bluetooth, or else BLE. -/
def openSupvan (bleFeature : Bool) (uri : String) :
    HostScript (Option KsDevice) :=
  match stripPrefix "supvan://" uri with
  | none => pure none
  | some slug => do
      match ← askTransports slug with
      | none => pure none
      | some entry =>
          orElse (openIf entry.hidrawPath KsDevice.openUsb)
            (orElse
              (openIf entry.btAddress fun addr =>
                openBt ("btrfcomm://bt/" ++ addr))
              (openIf entry.bleAddress (openBleAddr bleFeature)))

def openUri (bleFeature : Bool) (uri : String) :
    HostScript (Option KsDevice) :=
  if (stripPrefix "supvan://" uri).isSome then openSupvan bleFeature uri
  else pure none

/-! ### The poller -/

structure ReadyMedia where
  name : String
  sizeHmm : Int × Int
  mediaType : String

structure PollStatus where
  reasons : PrinterReasons
  readyMedia : Option ReadyMedia := none
  supplyPercent : Option Nat := none

def mediaLowThreshold : Nat := 20

def readyMediaOf (mat : MaterialInfo) : Option ReadyMedia :=
  let w := mat.widthMm.toNat
  let h := mat.heightMm.toNat
  if 0 < w && 0 < h then
    let size := toString w ++ "x" ++ toString h ++ "mm"
    some ⟨"om_" ++ size ++ "_" ++ size, (w * 100, h * 100), "labels"⟩
  else none

def supplyReasons (remaining : Nat) : PrinterReasons :=
  if remaining = 0 then [.mediaEmpty]
  else if remaining ≤ mediaLowThreshold then [.markerSupplyLow]
  else []

def pollReport (reasons : PrinterReasons) : Option MaterialInfo → PollStatus
  | none => { reasons := reasons }
  | some mat =>
      { reasons := reasons ++
          ((mat.remaining.map fun n => supplyReasons n.toNat).getD [])
        readyMedia := readyMediaOf mat
        supplyPercent := mat.remaining.map fun n => min n.toNat 100 }

def pollStatus (bleFeature : Bool) (deviceUri : String) :
    HostScript PollStatus := do
  match ← openUri bleFeature deviceUri with
  | none => pure { reasons := [.offline] }
  | some dev =>
      let reasons ← dev.status
      let mat ← dev.material
      act .dropDevice
      pure (pollReport reasons mat)

/-! ### Print jobs -/

structure JobFailure where
  reasons : PrinterReasons
  message : String

def JobFailure.other (message : String) : JobFailure :=
  ⟨[.other], message⟩

def failureFromStatus (s : PrinterStatus) (context : String) : JobFailure where
  reasons :=
    if (reasonsFromStatus s).isEmpty then [.other] else reasonsFromStatus s
  message := context ++ ": " ++ s.errorDescription.getD "unknown"

def failureFromProto (e : ProtoError) (context : String) : JobFailure where
  reasons :=
    match e with
    | .io _ => [.offline]
    | _ => [.other]
  message := context ++ ": " ++ e.display

/-- A page as its compressed blocks and speed, or why there is none: the raster
could not be read, taken or compressed. -/
abbrev PreparedPage := Except JobFailure (List Bytes × U16)

namespace KsDevice

def transferPage (dev : KsDevice) (compressed : List Bytes) (speed : U16) :
    HostScript (Except JobFailure Unit) := do
  act (.storePrinting dev.printing true)
  let result ← dev.printer.printCompressed compressed speed
  act (.storePrinting dev.printing false)
  match result with
  | .ok () => pure (.ok ())
  | .error (.invalidResponse message) =>
      match ← dev.printer.queryStatus with
      | .ok (some s) =>
          if s.hasError then
            pure (.error (failureFromStatus s "print_compressed"))
          else
            pure (.error (.other message))
      | _ => pure (.error (.other message))
  | .error e => pure (.error (failureFromProto e "print_compressed"))

/-- Transfer pages up to the first failure. -/
def transferPages (dev : KsDevice) :
    List PreparedPage → HostScript (Except JobFailure Unit)
  | [] => pure (.ok ())
  | .error failure :: _ => pure (.error failure)
  | .ok (compressed, speed) :: pages => do
      match ← dev.transferPage compressed speed with
      | .ok () => transferPages dev pages
      | .error failure => pure (.error failure)

/-- Poll until the printer has settled. -/
def settle (dev : KsDevice) : Nat → HostScript Unit
  | 0 => pure ()
  | polls + 1 => do
      match ← dev.printer.queryStatus with
      | .ok (some s) =>
          if !s.printing && !s.deviceBusy then pure () else settle dev polls
      | .ok none => settle dev polls
      | .error _ => pure ()

def endJob (dev : KsDevice) : HostScript Unit := do
  dev.settle completionPolls
  act (.storePrinting dev.printing false)

end KsDevice

/-- Print a document, given as the pages to transfer.  A document without pages
has no job to end. -/
def printJob (bleFeature : Bool) (deviceUri : String)
    (pages : List PreparedPage) : HostScript (Except JobFailure Unit) := do
  match ← openUri bleFeature deviceUri with
  | none =>
      pure (.error ⟨[.offline], "cannot open device " ++ deviceUri⟩)
  | some dev =>
      match ← dev.transferPages pages with
      | .error failure =>
          act .dropDevice
          pure (.error failure)
      | .ok () =>
          let () ← (if pages.isEmpty then pure () else dev.endJob)
          act .dropDevice
          pure (.ok ())

/-! ### The tasks of the server -/

/-- A task of the server: a poll, or a job with its pages. -/
inductive TaskKind
  | poller
  | job (pages : List PreparedPage)

def TaskKind.script (bleFeature : Bool) (deviceUri : String) :
    TaskKind → HostScript Unit
  | poller => do
      let _ ← pollStatus bleFeature deviceUri
  | job pages => do
      let _ ← printJob bleFeature deviceUri pages

/-! ### The world that tasks share -/

def HostCall.lockAction : HostCall → Option (LockAction Conn)
  | .lock conn => some (.acquire conn)
  | .unlock conn => some (.release conn)
  | _ => none

def cacheEntry (kind : CacheKind) (addr : String) (trace : HostTrace) :
    Option Conn :=
  trace.foldl (fun entry event =>
    match event.2.1 with
    | .cache k a conn => if k = kind ∧ a = addr then some conn else entry
    | .uncache k a => if k = kind ∧ a = addr then none else entry
    | _ => entry) none

/-- The value of a flag, which is off in a new device. -/
def flagValue (flag : Nat) (trace : HostTrace) : Bool :=
  trace.foldl (fun value event =>
    match event.2 with
    | (.newDevice _, .flag f) => if f = flag then false else value
    | (.storePrinting f v, _) => if f = flag then v else value
    | _ => value) false

def freshConn (conn : Conn) (trace : HostTrace) : Bool :=
  trace.all fun event =>
    match event.2.2 with
    | .conn (some c) => c != conn
    | _ => true

/-- Whether a reply hands out a flag. -/
def HostReply.namesFlag (flag : Nat) : HostReply → Bool
  | .flag f => f = flag
  | _ => false

def flagOwner (flag : Nat) (trace : HostTrace) : Option Nat :=
  (trace.find? fun event => event.2.2.namesFlag flag).map Prod.fst

/-- The replies a step can get.  Opens and dials can fail; each that succeeds
yields a new connection.  Each device gets a flag that no other has.  A mutex
is handed out when it is free.  The printer and the transport map can answer
anything. -/
def hostWorld (trace : HostTrace) : Nat → HostCall → HostReply → Bool
  | _, .transports _, .transports _ => true
  | _, .openHidraw _, .conn opened => opened.all (freshConn · trace)
  | _, .cached kind addr, .conn entry => entry = cacheEntry kind addr trace
  | _, .dial _ _, .conn opened => opened.all (freshConn · trace)
  | _, .lock conn, .done =>
      (holder HostCall.lockAction conn trace).isNone
  | _, .newDevice _, .flag flag => (flagOwner flag trace).isNone
  | _, .loadPrinting flag, .printing value => value = flagValue flag trace
  | _, .exchange _ _, .wire _ => true
  | _, .uncache _ _, .done => true
  | _, .cache _ _ _, .done => true
  | _, .unlock _, .done => true
  | _, .dropDevice, .done => true
  | _, .storePrinting _ _, .done => true
  | _, .enterPrint _, .done => true
  | _, .leavePrint, .done => true
  | _, _, _ => false

end SupvanCups
