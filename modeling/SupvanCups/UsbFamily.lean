import SupvanCups.FamilyResolution
import SupvanCups.LongestPrefix

/-!
# The family of a printer on USB

The table declares a family for each USB model.  Loading checks that the family
exists and keeps only the id and the name of the model.  The driver of a USB
printer is looked up by that name through the advertised-name prefixes, like
that of any other printer.
-/

namespace SupvanCups

/-! ### USB candidates -/

def supvanUsbVid : String := "1820"

/-- ASCII letters in lower case, all else as it is. -/
def foldAsciiCase (text : String) : List Char :=
  text.toList.map Char.toLower

/-- `str::eq_ignore_ascii_case`. -/
def eqIgnoreAsciiCase (text other : String) : Bool :=
  foldAsciiCase text == foldAsciiCase other

/-- Find a USB model by its product id. -/
def modelByPid (reg : Registry) (pid : String) : Option UsbModel :=
  reg.models.find? fun m => eqIgnoreAsciiCase m.pid pid

/-- USB device identity read from sysfs. -/
structure UsbIds where
  vid : String
  pid : String
  serial : Option String
  busPath : Option String

/-- A hidraw node: its path, what sysfs says of it, and the name that the
printer behind it reports. -/
structure HidrawNode where
  devPath : String
  ids : Option UsbIds
  printerName : Option String

def HidrawNode.candidate (reg : Registry) (node : HidrawNode) :
    Option UsbCandidate := do
  let ids ← node.ids
  if ids.vid = supvanUsbVid then
    let model ← modelByPid reg ids.pid
    let uriId ← ids.serial.or (ids.busPath.map ("bus-" ++ ·))
    pure ⟨node.devPath, uriId, model.name, node.printerName⟩
  else
    none

def listUsbCandidates (reg : Registry) (nodes : List HidrawNode) :
    List UsbCandidate :=
  nodes.filterMap (·.candidate reg)

/-! ### The declared family -/

/-- No two USB models have one product id. -/
def ModelsToml.PidsDistinct (toml : ModelsToml) : Prop :=
  (toml.models.map fun m => foldAsciiCase m.pid).Nodup

/-- What discovery announces about a node of the given product id. -/
structure AnnouncedUsb (unicode : UnicodeLower) (reg : Registry)
    (nodes : List HidrawNode) (bt : List BtCandidate)
    (ble : List BleCandidate) (pid : String) (device : DiscoveredDevice) where
  printers : List LogicalPrinter
  listed : logicalPrinters (listUsbCandidates reg nodes) bt ble = some printers
  printer : LogicalPrinter
  member : printer ∈ printers
  announces : device = printer.discovered unicode reg
  node : HidrawNode
  attached : node ∈ nodes
  ids : UsbIds
  identity : node.ids = some ids
  samePid : eqIgnoreAsciiCase ids.pid pid = true
  found : (node.candidate reg).isSome = true
  standsFor : printer.transports.usb = node.candidate reg

/-- A node that is discovered alone is announced. -/
def AnnouncedUsb.alone (unicode : UnicodeLower) {reg : Registry}
    {node : HidrawNode} {ids : UsbIds} (identity : node.ids = some ids)
    {pid : String} (samePid : eqIgnoreAsciiCase ids.pid pid = true)
    {u : UsbCandidate} (found : node.candidate reg = some u) :
    AnnouncedUsb unicode reg [node] [] [] pid
      (LogicalPrinter.discovered unicode reg ⟨u.key, some u, none, none⟩) where
  printers := [⟨u.key, some u, none, none⟩]
  listed := by
    rw [listUsbCandidates, List.filterMap_cons, found]
    rfl
  printer := ⟨u.key, some u, none, none⟩
  member := List.mem_singleton_self _
  announces := rfl
  node := node
  attached := List.mem_singleton_self _
  ids := ids
  identity := identity
  samePid := samePid
  found := by simp [found]
  standsFor := found.symm

/-- The first of the longest prefixes that start the name of a USB model is
listed for the family the model declares, or no prefix starts the name and the
family is the default. -/
def ModelsToml.PrefixesDeclare (unicode : UnicodeLower) (toml : ModelsToml)
    (m : ModelToml) : Prop :=
  (toml.longestRow unicode m.name).elim "supvan_t50" (·.family) = m.family

instance (unicode : UnicodeLower) (toml : ModelsToml) (m : ModelToml) :
    Decidable (toml.PrefixesDeclare unicode m) :=
  inferInstanceAs (Decidable (_ = _))

section Declared

variable {unicode : UnicodeLower} {toml : ModelsToml} {source : String}
  {reg : Registry}

/-- The candidate of a node bears the name of the model with its id. -/
theorem candidate_modelName (built : reg.BuiltFrom unicode toml)
    (distinct : toml.PidsDistinct) {m : ModelToml} (member : m ∈ toml.models)
    {node : HidrawNode} {ids : UsbIds} (identity : node.ids = some ids)
    (samePid : eqIgnoreAsciiCase ids.pid m.pid = true) {u : UsbCandidate}
    (found : node.candidate reg = some u) : u.modelName = m.name := by
  simp only [HidrawNode.candidate, identity, Option.bind_eq_bind,
    Option.bind_some] at found
  split at found
  · simp only [Option.bind_eq_some_iff] at found
    obtain ⟨model, ofPid, uriId, _, same⟩ := found
    cases same
    have listed := List.mem_of_find?_eq_some ofPid
    have matched := List.find?_some ofPid
    rw [built.models] at listed
    obtain ⟨other, inTable, rfl⟩ := List.mem_map.mp listed
    have sameKey : foldAsciiCase other.pid = foldAsciiCase m.pid :=
      (eq_of_beq matched).trans (eq_of_beq samePid)
    rw [List.inj_on_of_nodup_map distinct inTable member sameKey]
  · cases found

/-- A printer on USB gets the driver of the family that its model declares
exactly when the prefixes declare that family too. -/
theorem usbDriver_declared_iff
    (built : buildRegistry unicode toml source = .ok reg)
    (distinct : toml.PidsDistinct) {m : ModelToml} (member : m ∈ toml.models)
    (noSeparator : ';' ∉ m.name.toList) {nodes : List HidrawNode}
    {bt : List BtCandidate} {ble : List BleCandidate}
    {device : DiscoveredDevice}
    (announced : AnnouncedUsb unicode reg nodes bt ble m.pid device) :
    driverForDevice unicode reg device.deviceId device.uri = some m.family ↔
      toml.PrefixesDeclare unicode m := by
  have from_ := builtFrom_of_buildRegistry built
  obtain ⟨u, candidate⟩ := Option.isSome_iff_exists.mp announced.found
  have named := candidate_modelName from_ distinct member announced.identity
    announced.samePid candidate
  have model : announced.printer.model unicode reg = m.name := by
    rw [LogicalPrinter.model, announced.standsFor, candidate]
    exact named
  have deviceId : device.deviceId = LogicalPrinter.deviceIdOf m.name := by
    rw [announced.announces, ← model]
    rfl
  rw [deviceId, driverForDevice_deviceIdOf unicode reg noSeparator,
    Option.some_inj, familyForModelHint_eq from_, ModelsToml.PrefixesDeclare]

end Declared

/-! ### A model that no prefix starts -/

def t80Families : List FamilyToml :=
  [⟨"supvan_t50", "Supvan T50 Series"⟩, ⟨"supvan_t80", "Supvan T80 Series"⟩]

/-- A table with a T80 model, known by this name. -/
def t80Table (name : String) : ModelsToml where
  families := t80Families
  models := [⟨"2075", name, "supvan_t80"⟩]
  btNames := [⟨"T80M", "supvan_t80", ["t80m", "t0111a"]⟩]

def t80Node : HidrawNode where
  devPath := "/dev/hidraw0"
  ids := some ⟨"1820", "2075", some "7E1222120101", none⟩
  printerName := none

theorem t80Table_closed (name : String) : (t80Table name).Closed := by
  have known : ∀ family ∈ ["supvan_t50", "supvan_t80"],
      (familyIndex (driverFamilies t80Families) family).isSome := by
    decide
  refine ⟨known _ (by decide), fun m member => ?_, fun entry member => ?_⟩
  · obtain rfl := List.mem_singleton.mp member
    exact known "supvan_t80" (by decide)
  · obtain rfl := List.mem_singleton.mp member
    exact known "supvan_t80" (by decide)

theorem t80Node_candidate {unicode : UnicodeLower} {name : String}
    {reg : Registry} (built : reg.BuiltFrom unicode (t80Table name)) :
    t80Node.candidate reg =
      some ⟨"/dev/hidraw0", "7E1222120101", name, none⟩ := by
  have vid : "1820" = supvanUsbVid := rfl
  have pid : eqIgnoreAsciiCase "2075" "2075" = true := by decide
  simp [HidrawNode.candidate, t80Node, modelByPid, built.models, t80Table,
    ← vid, pid]

/-- A T80M that the prefixes know. -/
theorem usbDriver_declared_t80m :
    let unicode : UnicodeLower := fun _ c _ => [c]
    ∃ reg, ∃ device : DiscoveredDevice,
      buildRegistry unicode (t80Table "T80M") "models.toml" = .ok reg ∧
      driverForDevice unicode reg device.deviceId device.uri =
        some "supvan_t80" := by
  intro unicode
  obtain ⟨reg, built, _⟩ :=
    buildRegistry_ok unicode (t80Table_closed "T80M") "models.toml"
  have found := t80Node_candidate (builtFrom_of_buildRegistry built)
  have distinct : (t80Table "T80M").PidsDistinct := List.nodup_singleton _
  have prefixes : (t80Table "T80M").PrefixesDeclare unicode
      ⟨"2075", "T80M", "supvan_t80"⟩ := by decide
  exact ⟨reg, _, built, (usbDriver_declared_iff built distinct
    (List.mem_singleton_self _) (by decide)
    (AnnouncedUsb.alone unicode rfl (by decide) found)).mpr prefixes⟩

/-- A T80 model under a name that no prefix starts gets the driver of the T50
series. -/
theorem usbDriver_ignoresDeclared :
    let unicode : UnicodeLower := fun _ c _ => [c]
    ¬ ∀ reg, ∀ device : DiscoveredDevice,
      buildRegistry unicode (t80Table "LP80") "models.toml" = .ok reg →
      AnnouncedUsb unicode reg [t80Node] [] [] "2075" device →
      driverForDevice unicode reg device.deviceId device.uri =
        some "supvan_t80" := by
  intro unicode declared
  obtain ⟨reg, built, _⟩ :=
    buildRegistry_ok unicode (t80Table_closed "LP80") "models.toml"
  have from_ := builtFrom_of_buildRegistry built
  have found := t80Node_candidate from_
  have driver := declared reg _ built
    (AnnouncedUsb.alone unicode rfl (by decide) found)
  have deviceId : driverForDevice unicode reg
      (LogicalPrinter.deviceIdOf "LP80") _ = some "supvan_t80" := driver
  rw [driverForDevice_deviceIdOf unicode reg (by decide), Option.some_inj,
    familyForModelHint_eq from_] at deviceId
  exact absurd deviceId (by decide)

end SupvanCups
