import SupvanCups.MediaGate
import SupvanCups.NodeOwnership
import SupvanCups.UsbFamily

/-!
# Bluetooth discovery

Discovery asks BlueZ what it knows, scans, pairs with the printers that are not
paired yet and reports those that speak the serial profile.  Pairing is
intrusive, and BlueZ may answer anything: every pairing is with a device that
the read after the scan showed as an unpaired printer, and what is reported are
the printers of the last read, with the names and addresses they have there.
-/

namespace SupvanCups

/-! ### Printers among Bluetooth devices -/

/-- `str::contains`. -/
def containsText (text piece : String) : Bool :=
  decide (piece.toList <:+: text.toList)

/-- A name that says so, or one that a prefix of the table starts. -/
def isMatchingBtName (unicode : UnicodeLower) (reg : Registry)
    (name : String) : Bool :=
  let lower := toLowercase unicode name
  containsText lower "supvan" || containsText lower "katasymbol" ||
    (matchBtPrefix unicode reg lower).isSome

def isSupvanOui (addr : String) : Bool :=
  eqIgnoreAsciiCase (.ofList (addr.toList.take 8)) "A4:93:40"

def isSupvanSerialName (name : String) : Bool :=
  match name.toList with
  | letter :: tens :: ones :: _ =>
      (letter == 'T' || letter == 'G' || letter == 'D') &&
        isAsciiDigit tens && isAsciiDigit ones
  | _ => false

def isMatchingBtDevice (unicode : UnicodeLower) (reg : Registry)
    (addr name : String) : Bool :=
  isMatchingBtName unicode reg name ||
    (isSupvanOui addr && isSupvanSerialName name)

/-! ### What BlueZ knows -/

/-- The properties of a `Device1`. -/
structure DeviceProps where
  name : Option String
  address : Option String
  paired : Option Bool
  uuids : List String

structure ManagedObject where
  path : String
  adapter : Bool
  device : Option DeviceProps

def sppUuidPrefix : String := "00001101-"

section Props

variable (unicode : UnicodeLower) (reg : Registry)

def hasSppUuid (props : DeviceProps) : Bool :=
  props.uuids.any fun uuid =>
    startsWith (toLowercase unicode uuid) sppUuidPrefix

/-- Before its profiles are known a device has no UUIDs at all. -/
def maySpeakSpp (props : DeviceProps) : Bool :=
  props.uuids.isEmpty || hasSppUuid unicode props

/-- The address of an unpaired printer that could speak the serial profile. -/
def ManagedObject.unpairedMatch (object : ManagedObject) : Option String := do
  let props ← object.device
  let name := props.name.getD ""
  let address ← props.address
  if isMatchingBtDevice unicode reg address name &&
      !props.paired.getD false && maySpeakSpp unicode props then
    some address
  else none

/-- The address and name of a printer with the serial profile. -/
def ManagedObject.printer (object : ManagedObject) : Option BtCandidate := do
  if startsWith object.path "/org/bluez/hci" &&
      containsText object.path "/dev_" then
    let props ← object.device
    let address ← props.address
    let name := props.name.getD ""
    if hasSppUuid unicode props &&
        isMatchingBtDevice unicode reg address name then
      some ⟨address, name⟩
    else none
  else none

end Props

def findAdapter (objects : List ManagedObject) : Option String :=
  (objects.find? ManagedObject.adapter).map ManagedObject.path

/-! ### The calls -/

inductive BluezCall
  | connect
  | getManagedObjects
  | setDiscoveryFilter (adapter : String)
  | startDiscovery (adapter : String)
  | stopDiscovery (adapter : String)
  | pair (path : String)
  | setTrusted (path : String)
  deriving DecidableEq

inductive BluezReply
  | done
  | objects (found : List ManagedObject)
  | failed (message : String)

abbrev BluezScript := Script BluezCall BluezReply

abbrev BluezHistory := History BluezCall BluezReply

def managedObjects : BluezScript (Option (List ManagedObject)) :=
  (Script.ask .getManagedObjects).bind fun
    | .objects found => .done (some found)
    | _ => .done none

/-- The scan was started now, or was running already. -/
def BluezReply.scans : BluezReply → Bool
  | failed message => containsText message "InProgress"
  | _ => true

/-- The device is paired now, or was before. -/
def BluezReply.pairs : BluezReply → Bool
  | failed message => containsText message "AlreadyExists"
  | _ => true

/-- Scan for four seconds; that the filter or the stop fails is logged. -/
def runDiscovery (adapter : String) : BluezScript Unit := do
  let _ ← Script.ask (.setDiscoveryFilter adapter)
  let started ← Script.ask (.startDiscovery adapter)
  if started.scans then do
    let _ ← Script.ask (.stopDiscovery adapter)

/-- Pair with a device and trust it. -/
def autoPairDevice (path : String) : BluezScript Unit := do
  let paired ← Script.ask (.pair path)
  if paired.pairs then do
    let _ ← Script.ask (.setTrusted path)

section Discover

variable (unicode : UnicodeLower) (reg : Registry)

def pairMatching : List ManagedObject → BluezScript Unit
  | [] => pure ()
  | object :: objects => do
      if (object.unpairedMatch unicode reg).isSome then
        autoPairDevice object.path
      pairMatching objects

/-- What the callback is given about a printer. -/
def deviceInfo (name : String) : String :=
  "Supvan " ++ name ++ " BT"

def deviceUri (address : String) : String :=
  "btrfcomm://bt/" ++ address

def btDeviceId (name : String) : String :=
  "MFG:Supvan;MDL:" ++ name ++ " (BT);CMD:SUPVAN;"

/-- Report printers until the callback wants no more. -/
def reportMatching {σ : Type}
    (callback : σ → String → String → String → σ × Bool) :
    List ManagedObject → σ → σ
  | [], state => state
  | object :: objects, state =>
      match object.printer unicode reg with
      | none => reportMatching callback objects state
      | some found =>
          let (state, more) := callback state (deviceInfo found.name)
            (deviceUri found.address) (btDeviceId found.name)
          if more then reportMatching callback objects state else state

/-- Read, scan, read and pair, read and report. -/
def enumerateObjects {σ : Type}
    (callback : σ → String → String → String → σ × Bool) (state : σ) :
    BluezScript (Bool × σ) := do
  match ← managedObjects with
  | none => pure (false, state)
  | some objects =>
      match findAdapter objects with
      | none => pure (true, state)
      | some adapter =>
          runDiscovery adapter
          match ← managedObjects with
          | none => pure (false, state)
          | some objects =>
              pairMatching unicode reg objects
              match ← managedObjects with
              | none => pure (false, state)
              | some objects => pure (true,
                  reportMatching unicode reg callback objects state)

/-- Whether the enumeration succeeded, and what the callback made of it. -/
def btDiscover {σ : Type}
    (callback : σ → String → String → String → σ × Bool) (state : σ) :
    BluezScript (Bool × σ) := do
  match ← Script.ask .connect with
  | .failed _ => pure (false, state)
  | _ => enumerateObjects unicode reg callback state

end Discover

/-- `str::strip_suffix`. -/
def stripSuffix (text last : String) : Option String :=
  if last.toList <:+ text.toList then
    some (.ofList (text.toList.take
      (text.toList.length - last.toList.length)))
  else none

/-- Take a candidate out of what the callback is given. -/
def pushCandidate (found : List BtCandidate) (info uri _deviceId : String) :
    List BtCandidate × Bool :=
  let name := ((stripPrefix "Supvan " info).bind fun rest =>
    stripSuffix rest " BT").getD info
  ((match btAddress uri with
    | some address => found ++ [⟨address, name⟩]
    | none => found), true)

def listBtCandidates (unicode : UnicodeLower) (reg : Registry) :
    BluezScript (List BtCandidate) := do
  let outcome ← btDiscover unicode reg pushCandidate []
  pure outcome.2

/-! ### Reading the callback's texts back -/

theorem stripSuffix_append (text last : String) :
    stripSuffix (text ++ last) last = some text := by
  simp [stripSuffix, String.toList_append]

/-- Whatever the name and the address are, they are taken out unchanged. -/
theorem pushCandidate_printer (found : List BtCandidate) (p : BtCandidate) :
    pushCandidate found (deviceInfo p.name) (deviceUri p.address)
      (btDeviceId p.name) = (found ++ [p], true) := by
  have name : ((stripPrefix "Supvan " (deviceInfo p.name)).bind fun rest =>
      stripSuffix rest " BT") = some p.name := by
    rw [deviceInfo, String.append_assoc, stripPrefix_append]
    exact stripSuffix_append p.name " BT"
  have address : btAddress (deviceUri p.address) = some p.address := by
    have rest : deviceUri p.address =
        "btrfcomm://" ++ ("bt/" ++ p.address) := by
      rw [deviceUri, ← String.append_assoc]
      rfl
    rw [rest, btAddress, stripPrefix_append, Option.bind_some,
      String.toList_append]
    simp
  simp only [pushCandidate, name, address, Option.getD_some]

theorem reportMatching_pushCandidate (unicode : UnicodeLower) (reg : Registry)
    (objects : List ManagedObject) (found : List BtCandidate) :
    reportMatching unicode reg pushCandidate objects found =
      found ++ objects.filterMap (ManagedObject.printer unicode reg) := by
  induction objects generalizing found with
  | nil => simp [reportMatching]
  | cons object objects ih =>
      rw [reportMatching]
      cases reported : object.printer unicode reg with
      | none => rw [ih, List.filterMap_cons_none reported]
      | some p =>
          simp only [pushCandidate_printer, if_true, ih]
          rw [List.filterMap_cons_some reported, List.append_assoc,
            List.singleton_append]

/-! ### What a run may do -/

/-- The reads that brought something, oldest first. -/
def readsOf (history : BluezHistory) : List (List ManagedObject) :=
  history.filterMap fun event =>
    match event with
    | (.getManagedObjects, .objects found) => some found
    | _ => none

/-- The objects that pairing was tried with. -/
def pairingsOf (history : BluezHistory) : List String :=
  history.filterMap fun event =>
    match event.1 with
    | .pair path => some path
    | _ => none

/-- A scan that this run started, or found running, has not been told to stop
yet.  `StopDiscovery` counts however BlueZ answers it. -/
def scanning (history : BluezHistory) : Bool :=
  history.foldl (fun on event =>
    match event with
    | (.startDiscovery _, reply) => reply.scans
    | (.stopDiscovery _, _) => false
    | _ => on) false

section Runs

variable (unicode : UnicodeLower) (reg : Registry)

/-- The objects to pair with, in the order of a read. -/
def pairingPlan (objects : List ManagedObject) : List String :=
  (objects.filter fun object =>
    (object.unpairedMatch unicode reg).isSome).map ManagedObject.path

/-- Only the adapter of the first read is told to scan, and it is told to stop
before any pairing, whatever it answers; pairing goes through the plan of the
second read; only what is paired is trusted. -/
def BtAllowed (history : BluezHistory) : BluezCall → Prop
  | .pair path => ∃ first objects, readsOf history = [first, objects] ∧
      pairingsOf history ++ [path] <+: pairingPlan unicode reg objects ∧
      scanning history = false
  | .setTrusted path =>
      ∃ reply, history.getLast? = some (.pair path, reply) ∧
        reply.pairs = true
  | .startDiscovery adapter =>
      ∃ objects, readsOf history = [objects] ∧
        findAdapter objects = some adapter
  | .stopDiscovery adapter =>
      ∃ reply, history.getLast? = some (.startDiscovery adapter, reply) ∧
        reply.scans = true
  | .connect | .getManagedObjects | .setDiscoveryFilter _ => True

/-- Where a run stands between its parts. -/
structure Between (reads : List (List ManagedObject)) (pairings : List String)
    (history : BluezHistory) : Prop where
  reads : readsOf history = reads
  pairings : pairingsOf history = pairings
  stopped : scanning history = false

variable {unicode reg} {α : Type} {reads : List (List ManagedObject)}
  {pairings : List String} {history : BluezHistory}

theorem managedObjects_ensures (between : Between reads pairings history) :
    managedObjects.Ensures (BtAllowed unicode reg) history fun result later =>
      Between (reads ++ result.toList) pairings later := by
  refine ⟨trivial, fun reply => ?_⟩
  obtain ⟨rfl, rfl, stopped⟩ := between
  cases reply <;>
    exact ⟨by simp [readsOf], by simp [pairingsOf], by
      simpa [scanning] using stopped⟩

theorem runDiscovery_ensures {objects : List ManagedObject} {adapter : String}
    (found : findAdapter objects = some adapter)
    (between : Between [objects] pairings history) :
    (runDiscovery adapter).Ensures (BtAllowed unicode reg) history
      fun _ later => Between [objects] pairings later := by
  obtain ⟨reads, rfl, stopped⟩ := between
  refine ⟨trivial, fun filtered => ⟨⟨objects, ?_, found⟩, fun started => ?_⟩⟩
  · simpa [readsOf] using reads
  · show Script.Ensures _ (if started.scans then _ else _) _ _
    split
    · rename_i scans
      refine ⟨⟨started, by simp, scans⟩, fun ended => ⟨?_, ?_, ?_⟩⟩
      · simpa [readsOf] using reads
      · simp [pairingsOf]
      · simp [scanning]
    · rename_i off
      refine ⟨?_, ?_, ?_⟩
      · simpa [readsOf] using reads
      · simp [pairingsOf]
      · simpa [scanning] using off

theorem autoPairDevice_ensures {first objects : List ManagedObject}
    {path : String} {later : List String}
    (plan : pairingPlan unicode reg objects = pairings ++ path :: later)
    (between : Between [first, objects] pairings history) :
    (autoPairDevice path).Ensures (BtAllowed unicode reg) history
      fun _ later => Between [first, objects] (pairings ++ [path]) later := by
  obtain ⟨reads, rfl, stopped⟩ := between
  refine ⟨⟨first, objects, reads, ⟨later, by simp [plan]⟩, stopped⟩,
    fun paired => ?_⟩
  show Script.Ensures _ (if paired.pairs then _ else _) _ _
  split
  · rename_i pairs
    refine ⟨⟨paired, by simp, pairs⟩, fun trusted => ⟨?_, ?_, ?_⟩⟩
    · simpa [readsOf] using reads
    · simp [pairingsOf]
    · simpa [scanning] using stopped
  · refine ⟨?_, ?_, ?_⟩
    · simpa [readsOf] using reads
    · simp [pairingsOf]
    · simpa [scanning] using stopped

theorem pairMatching_ensures {first objects : List ManagedObject}
    (todo : List ManagedObject)
    (plan : pairingPlan unicode reg objects =
      pairings ++ pairingPlan unicode reg todo)
    (between : Between [first, objects] pairings history) :
    (pairMatching unicode reg todo).Ensures (BtAllowed unicode reg) history
      fun _ later => Between [first, objects]
        (pairingPlan unicode reg objects) later := by
  induction todo generalizing pairings history with
  | nil =>
      have all : pairingPlan unicode reg objects = pairings := by
        rw [plan]
        simp [pairingPlan]
      rw [all]
      exact between
  | cons object todo ih =>
      rw [pairMatching]
      split
      · rename_i wanted
        have next : pairingPlan unicode reg (object :: todo) =
            object.path :: pairingPlan unicode reg todo := by
          simp [pairingPlan, wanted]
        rw [next] at plan
        refine .bind _ (autoPairDevice_ensures plan between) ?_
        intro _ later between
        exact ih (by rw [plan, List.append_assoc, List.singleton_append])
          between
      · rename_i other
        have next : pairingPlan unicode reg (object :: todo) =
            pairingPlan unicode reg todo := by
          simp [pairingPlan, other]
        rw [next] at plan
        exact ih plan between

/-- What a finished run leaves: with three reads, every object of the plan was
tried, and the printers of the last read are the candidates. -/
structure BtFinished (unicode : UnicodeLower) (reg : Registry)
    (candidates : List BtCandidate) (history : BluezHistory) : Prop where
  found : ∀ first second last, readsOf history = [first, second, last] →
    candidates = last.filterMap (ManagedObject.printer unicode reg) ∧
    pairingsOf history = pairingPlan unicode reg second
  cutShort : (readsOf history).length ≠ 3 → candidates = []
  stopped : scanning history = false

theorem Between.cutShort (between : Between reads pairings history)
    (short : reads.length < 3) : BtFinished unicode reg [] history where
  found first second last all := by
    rw [between.reads] at all
    simp [all] at short
  cutShort _ := rfl
  stopped := between.stopped

theorem enumerateObjects_ensures (between : Between [] [] history) :
    (enumerateObjects unicode reg pushCandidate []).Ensures
      (BtAllowed unicode reg) history fun outcome later =>
        BtFinished unicode reg outcome.2 later := by
  refine .bind _ (managedObjects_ensures between) ?_
  rintro (_ | first) later between
  · exact between.cutShort (by simp)
  dsimp only
  split
  · exact between.cutShort (by simp)
  rename_i adapter found
  refine .bind _ (runDiscovery_ensures found between) ?_
  intro _ later between
  refine .bind _ (managedObjects_ensures between) ?_
  rintro (_ | second) later between
  · exact between.cutShort (by simp)
  refine .bind _ (pairMatching_ensures second rfl between) ?_
  intro _ later between
  refine .bind _ (managedObjects_ensures between) ?_
  rintro (_ | last) later between
  · exact between.cutShort (by simp)
  · obtain ⟨reads, pairings, stopped⟩ := between
    refine ⟨fun one two three all => ?_, fun short => ?_, stopped⟩
    · obtain ⟨rfl, rfl, rfl⟩ : first = one ∧ second = two ∧ last = three := by
        simpa [reads] using all
      exact ⟨reportMatching_pushCandidate unicode reg last [], pairings⟩
    · simp [reads] at short

theorem listBtCandidates_ensures :
    (listBtCandidates unicode reg).Ensures (BtAllowed unicode reg) []
      (BtFinished unicode reg) := by
  refine .bind (fun outcome => BtFinished unicode reg outcome.2) ?_ ?_
  · refine ⟨trivial, fun connected => ?_⟩
    have begun : Between [] [] [(.connect, connected)] := by
      cases connected <;> exact ⟨rfl, rfl, rfl⟩
    cases connected with
    | failed message => exact begun.cutShort (by simp)
    | done => exact enumerateObjects_ensures begun
    | objects found => exact enumerateObjects_ensures begun
  · rintro ⟨succeeded, candidates⟩ later finished
    exact finished

end Runs

/-- Whatever BlueZ answers, discovery pairs with unpaired printers of the read
after the scan only, in the order of that read and with the scan stopped, and
its candidates are the printers of the last read. -/
theorem listBtCandidates_keepsPlan (unicode : UnicodeLower) (reg : Registry)
    (bluez : Device BluezCall BluezReply) :
    let outcome := (listBtCandidates unicode reg).run bluez []
    Script.Lawful (BtAllowed unicode reg) outcome.2 ∧
      BtFinished unicode reg outcome.1 outcome.2 :=
  listBtCandidates_ensures.run Script.Lawful.nil bluez

end SupvanCups
