import SupvanCups.ModelTable
import Std.Data.TreeMap.Lemmas
import Mathlib.Data.List.Basic

/-!
# Joining the candidates of three transports

Discovery collects candidates over USB, Bluetooth and BLE and joins those that
name themselves alike into one logical printer.  A USB candidate whose name
could not be read goes by its bus id.  When one printer is left on USB alone
and one on Bluetooth alone, the two are taken for the same, whether or not the
USB candidate knew its name.
-/

namespace SupvanCups

/-! ### Candidates and groups -/

structure UsbCandidate where
  hidrawPath : String
  uriId : String
  modelName : String
  /-- The name the printer gives itself, if it could be read. -/
  printerName : Option String

structure BtCandidate where
  address : String
  name : String

structure BleCandidate where
  address : String
  name : String

/-- At most one candidate for each transport. -/
@[ext]
structure Group where
  usb : Option UsbCandidate := none
  bt : Option BtCandidate := none
  ble : Option BleCandidate := none

namespace Group

def withUsb (g : Group) (u : UsbCandidate) : Group :=
  { g with usb := some u }

def withBt (g : Group) (b : BtCandidate) : Group :=
  { g with bt := some b }

def withBle (g : Group) (e : BleCandidate) : Group :=
  { g with ble := some e }

end Group

abbrev ByName := Std.TreeMap String Group

def UsbCandidate.key (u : UsbCandidate) : String :=
  u.printerName.getD u.uriId

/-- Put a candidate into the group of its key; it takes the place of an
earlier one. -/
def enter (key : α → String) (put : Group → α → Group) (byName : ByName)
    (x : α) : ByName :=
  byName.alter (key x) fun g => some (put (g.getD {}) x)

/-- Group the candidates by the names they report. -/
def groupByName (usb : List UsbCandidate) (bt : List BtCandidate)
    (ble : List BleCandidate) : ByName :=
  let byName : ByName := usb.foldl (enter UsbCandidate.key Group.withUsb) ∅
  let byName := bt.foldl (enter BtCandidate.name Group.withBt) byName
  ble.foldl (enter BleCandidate.name Group.withBle) byName

def Group.isUsbOnly (g : Group) : Bool :=
  g.usb.isSome && g.bt.isNone && g.ble.isNone

def Group.isBtOnly (g : Group) : Bool :=
  g.usb.isNone && g.bt.isSome && g.ble.isNone

def keysWhere (kind : Group → Bool) (byName : ByName) : List String :=
  (byName.toList.filter fun e => kind e.2).map Prod.fst

/-- With one group on USB alone and one on Bluetooth alone, move the USB
candidate into the other group.  Without a result an `unwrap` has failed. -/
def cardinalityFallback (byName : ByName) : Option ByName :=
  match keysWhere Group.isUsbOnly byName, keysWhere Group.isBtOnly byName with
  | [usbKey], [btKey] => do
      let usbEntry ← byName[usbKey]?
      let rest := byName.erase usbKey
      let btEntry ← rest[btKey]?
      pure (rest.insert btKey { btEntry with usb := usbEntry.usb })
  | _, _ => some byName

/-! ### Logical printers -/

structure LogicalPrinter where
  name : String
  transports : Group

def logicalPrinters (usb : List UsbCandidate) (bt : List BtCandidate)
    (ble : List BleCandidate) : Option (List LogicalPrinter) :=
  (cardinalityFallback (groupByName usb bt ble)).map fun byName =>
    byName.toList.map fun e => ⟨e.1, e.2⟩

/-- Lowercase ASCII alphanumerics; everything else becomes a hyphen. -/
def slugChars (name : String) : List Char :=
  name.toList.map fun c => if c.isAlphanum then c.toLower else '-'

/-- A name that can be a queue name. -/
def slug (name : String) : String :=
  let words := ((slugChars name).splitOn '-').filter fun w => !w.isEmpty
  let joined := List.intercalate ['-'] words
  if joined.isEmpty then "printer" else .ofList joined

structure DiscoveredDevice where
  info : String
  uri : String
  deviceId : String

structure SupvanTransports where
  hidrawPath : Option String
  btAddress : Option String
  bleAddress : Option String

abbrev SupvanMap := Std.TreeMap String SupvanTransports

def registerSupvan (map : SupvanMap) (slug : String)
    (transports : SupvanTransports) : SupvanMap :=
  map.insert slug transports

namespace LogicalPrinter

/-- USB reports its model; otherwise the table knows it by the name. -/
def model (unicode : UnicodeLower) (reg : Registry) (p : LogicalPrinter) :
    String :=
  ((p.transports.usb.map (·.modelName)).or
    (btModelForName unicode reg p.name)).getD "T50 Series"

def uri (p : LogicalPrinter) : String :=
  "supvan://" ++ slug p.name

def deviceIdOf (model : String) : String :=
  "MFG:Supvan;MDL:" ++ model ++ ";CMD:SUPVAN;"

/-- What is announced about a printer. -/
def discovered (unicode : UnicodeLower) (reg : Registry)
    (p : LogicalPrinter) : DiscoveredDevice where
  info := "Supvan " ++ p.model unicode reg ++ " " ++ p.name
  uri := p.uri
  deviceId := deviceIdOf (p.model unicode reg)

def registration (p : LogicalPrinter) : SupvanTransports where
  hidrawPath := p.transports.usb.map (·.hidrawPath)
  btAddress := p.transports.bt.map (·.address)
  bleAddress := p.transports.ble.map (·.address)

/-- The names its candidates report of themselves. -/
def knownNames (p : LogicalPrinter) : List String :=
  (p.transports.usb.bind (·.printerName)).toList ++
    (p.transports.bt.map (·.name)).toList ++
    (p.transports.ble.map (·.name)).toList

end LogicalPrinter

def registerPrinter (map : SupvanMap) (p : LogicalPrinter) : SupvanMap :=
  registerSupvan map (slug p.name) p.registration

def emitPrinter (unicode : UnicodeLower) (reg : Registry)
    (out : List DiscoveredDevice × SupvanMap) (p : LogicalPrinter) :
    List DiscoveredDevice × SupvanMap :=
  (out.1 ++ [p.discovered unicode reg], registerPrinter out.2 p)

/-- The device that stands for all hardware in mock mode. -/
def mockDevice (reg : Registry) : DiscoveredDevice where
  info := "Supvan Mock"
  uri := "mock://t50-001"
  deviceId := "MFG:Supvan;MDL:" ++ reg.defaultFamily.makeAndModel ++
    ";CMD:KASCRIPT;"

/-- What one round of discovery announces and leaves in the transport map. -/
def listDevices (isMockMode : Bool) (unicode : UnicodeLower) (reg : Registry)
    (usb : List UsbCandidate) (bt : List BtCandidate)
    (ble : List BleCandidate) (map : SupvanMap) :
    Option (List DiscoveredDevice × SupvanMap) :=
  if isMockMode then
    some ([mockDevice reg], map)
  else
    (logicalPrinters usb bt ble).map fun printers =>
      printers.foldl (emitPrinter unicode reg) ([], map)

end SupvanCups
