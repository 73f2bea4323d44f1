import SupvanCups.TransportRegistry

/-!
# When discovery loses no printer

Candidates are keyed by free-form names and registered under slugs.  Both maps
overwrite: a candidate stays reachable exactly when no other of its transport
goes by its key and no other listed name has its slug.
-/

namespace SupvanCups

/-- The map leads to a path or address under the slug of exactly one of the
devices. -/
def RegisteredOnce (devices : List DiscoveredDevice) (map : SupvanMap)
    (field : SupvanTransports → Option String) (place : String) : Prop :=
  ∃! s, "supvan://" ++ s ∈ devices.map DiscoveredDevice.uri ∧
    map[s]?.bind field = some place

section Candidates

variable (usb : List UsbCandidate) (bt : List BtCandidate)
  (ble : List BleCandidate)

structure KeepsEveryCandidate (devices : List DiscoveredDevice)
    (map : SupvanMap) : Prop where
  uris : (devices.map DiscoveredDevice.uri).Nodup
  usb : ∀ u ∈ usb,
    RegisteredOnce devices map SupvanTransports.hidrawPath u.hidrawPath
  bt : ∀ b ∈ bt, RegisteredOnce devices map SupvanTransports.btAddress b.address
  ble : ∀ e ∈ ble,
    RegisteredOnce devices map SupvanTransports.bleAddress e.address

/-- The names that listed printers go by have different slugs. -/
def SlugsApart : Prop :=
  ∀ first second, Listed usb bt ble first → Listed usb bt ble second →
    slug first = slug second → first = second

/-- Within each transport no two candidates share a key, and the slugs of the
listed names differ. -/
structure NamesApart : Prop where
  usbKeys : (usb.map UsbCandidate.key).Nodup
  btNames : (bt.map BtCandidate.name).Nodup
  bleNames : (ble.map BleCandidate.name).Nodup
  slugs : SlugsApart usb bt ble

theorem SlugsApart.of_names
    (apart : ∀ first ∈ usb.map UsbCandidate.key ++
        (bt.map BtCandidate.name ++ ble.map BleCandidate.name),
      ∀ second ∈ usb.map UsbCandidate.key ++
        (bt.map BtCandidate.name ++ ble.map BleCandidate.name),
      slug first = slug second → first = second) :
    SlugsApart usb bt ble := by
  intro first second firstListed secondListed
  exact apart first (mem_names_of_listed firstListed) second
    (mem_names_of_listed secondListed)

end Candidates

/-! ### From the map back to the printers -/

theorem mem_map_uri {unicode : UnicodeLower} {reg : Registry}
    {printers : List LogicalPrinter} {s : String} :
    "supvan://" ++ s ∈ (printers.map (·.discovered unicode reg)).map
        DiscoveredDevice.uri ↔
      ∃ p ∈ printers, slug p.name = s := by
  simp [LogicalPrinter.discovered, LogicalPrinter.uri, String.ext_iff]

theorem uris_nodup_iff (unicode : UnicodeLower) (reg : Registry)
    {printers : List LogicalPrinter} (named : printers.Nodup) :
    ((printers.map (·.discovered unicode reg)).map
        DiscoveredDevice.uri).Nodup ↔
      ∀ p ∈ printers, ∀ q ∈ printers, slug p.name = slug q.name → p = q := by
  rw [List.map_map, List.nodup_map_iff_inj_on named]
  simp [LogicalPrinter.discovered, LogicalPrinter.uri, String.ext_iff]

section Registered

variable {printers : List LogicalPrinter}
  (apart : ∀ p ∈ printers, ∀ q ∈ printers, slug p.name = slug q.name → p = q)

include apart

/-- With slugs apart every printer is registered as it is. -/
theorem getElem?_registered (map : SupvanMap) {p : LogicalPrinter}
    (member : p ∈ printers) :
    (printers.foldl registerPrinter map)[slug p.name]? =
      some p.registration := by
  obtain ⟨q, found⟩ := Option.isSome_iff_exists.mp
    ((latest_isSome (fun p : LogicalPrinter => slug p.name) printers
      (slug p.name)).mpr ⟨p, member, rfl⟩)
  obtain ⟨qMember, sameSlug⟩ := latest_some found
  rw [getElem?_foldl_registerPrinter, found,
    apart q qMember p member sameSlug]
  rfl

/-- A place is registered once exactly when it is kept, if the one printer that
may hold it is among the printers. -/
theorem registeredOnce_iff (unicode : UnicodeLower) (reg : Registry)
    (map : SupvanMap) {field : SupvanTransports → Option String}
    {place : String} {kept : Prop} {home : LogicalPrinter}
    (homeMember : home ∈ printers)
    (holds : ∀ p ∈ printers,
      field p.registration = some place ↔ p = home ∧ kept) :
    RegisteredOnce (printers.map (·.discovered unicode reg))
      (printers.foldl registerPrinter map) field place ↔ kept := by
  constructor
  · rintro ⟨s, ⟨emitted, registered⟩, -⟩
    obtain ⟨p, member, rfl⟩ := mem_map_uri.mp emitted
    rw [getElem?_registered apart map member] at registered
    exact ((holds p member).mp registered).2
  · intro isKept
    refine ⟨slug home.name, ⟨mem_map_uri.mpr ⟨home, homeMember, rfl⟩, ?_⟩, ?_⟩
    · rw [getElem?_registered apart map homeMember]
      exact (holds home homeMember).mpr ⟨rfl, isKept⟩
    · rintro s ⟨emitted, registered⟩
      obtain ⟨p, member, rfl⟩ := mem_map_uri.mp emitted
      rw [getElem?_registered apart map member] at registered
      rw [((holds p member).mp registered).1]

end Registered

/-! ### Each candidate -/

section Candidates

variable {usb : List UsbCandidate} {bt : List BtCandidate}
  {ble : List BleCandidate} {printers : List LogicalPrinter}
  (named : (printers.map LogicalPrinter.name).Nodup)
  (hold : ∀ p ∈ printers, p.HoldsCandidates usb bt ble)
  (seated : ∀ k, Listed usb bt ble k → ∃ p ∈ printers, p.name = k)

include named hold in
theorem slugs_apart_iff
    (seated : ∀ k, Listed usb bt ble k → ∃ p ∈ printers, p.name = k) :
    (∀ p ∈ printers, ∀ q ∈ printers, slug p.name = slug q.name → p = q) ↔
      SlugsApart usb bt ble := by
  constructor
  · intro apart first second firstListed secondListed sameSlug
    obtain ⟨p, pMember, rfl⟩ := seated first firstListed
    obtain ⟨q, qMember, rfl⟩ := seated second secondListed
    rw [apart p pMember q qMember sameSlug]
  · intro apart p pMember q qMember sameSlug
    exact List.inj_on_of_nodup_map named pMember qMember
      (apart _ _ (hold p pMember).listed (hold q qMember).listed sameSlug)

variable (apart : ∀ p ∈ printers, ∀ q ∈ printers,
    slug p.name = slug q.name → p = q)
  (unicode : UnicodeLower) (reg : Registry) (map : SupvanMap)

include named hold seated apart

theorem registeredOnce_usb (paths : (usb.map UsbCandidate.hidrawPath).Nodup)
    {u : UsbCandidate} (member : u ∈ usb) :
    RegisteredOnce (printers.map (·.discovered unicode reg))
        (printers.foldl registerPrinter map) SupvanTransports.hidrawPath
        u.hidrawPath ↔
      latest UsbCandidate.key usb u.key = some u := by
  obtain ⟨k', under⟩ :=
    exists_listedUnder usb bt ble u.key
  obtain ⟨home, homeMember, rfl⟩ :=
    seated k' (listed_of_listedUnder under ⟨u, member, rfl⟩)
  apply registeredOnce_iff apart unicode reg map homeMember
  intro p pMember
  simp only [LogicalPrinter.registration, Option.map_eq_some_iff]
  constructor
  · rintro ⟨v, held, samePath⟩
    obtain ⟨k, kUnder, found⟩ := ((hold p pMember).usb v).mp held
    obtain ⟨vMember, rfl⟩ := latest_some found
    obtain rfl := List.inj_on_of_nodup_map paths vMember member samePath
    have home := List.inj_on_of_nodup_map named pMember homeMember
      (kUnder.unique under)
    exact ⟨home, found⟩
  · rintro ⟨rfl, found⟩
    exact ⟨u, ((hold p pMember).usb u).mpr ⟨u.key, under, found⟩, rfl⟩

omit hold in
/-- A candidate of a transport whose candidates stay under their own names. -/
theorem registeredOnce_byName {α : Type} {key ident : α → String}
    {xs : List α} {field : SupvanTransports → Option String}
    {side : LogicalPrinter → Option α}
    (fieldEq : ∀ p, field p.registration = (side p).map ident)
    (sideEq : ∀ p ∈ printers, side p = latest key xs p.name)
    (distinct : (xs.map ident).Nodup) {x : α} (member : x ∈ xs)
    (listed : Listed usb bt ble (key x)) :
    RegisteredOnce (printers.map (·.discovered unicode reg))
        (printers.foldl registerPrinter map) field (ident x) ↔
      latest key xs (key x) = some x := by
  obtain ⟨home, homeMember, homeName⟩ := seated (key x) listed
  apply registeredOnce_iff apart unicode reg map homeMember
  intro p pMember
  simp only [fieldEq, Option.map_eq_some_iff, sideEq p pMember]
  constructor
  · rintro ⟨y, found, samePlace⟩
    obtain ⟨yMember, yName⟩ := latest_some found
    obtain rfl := List.inj_on_of_nodup_map distinct yMember member samePlace
    rw [← yName] at found
    exact ⟨List.inj_on_of_nodup_map named pMember homeMember
      (yName.symm.trans homeName.symm), found⟩
  · rintro ⟨rfl, found⟩
    exact ⟨x, by rw [homeName, found], rfl⟩

end Candidates

/-- A round of discovery loses no printer exactly when the names keep the
candidates apart. -/
theorem listDevices_keepsEveryCandidate_iff (unicode : UnicodeLower)
    (reg : Registry) (usb : List UsbCandidate) (bt : List BtCandidate)
    (ble : List BleCandidate) (map : SupvanMap)
    (paths : (usb.map UsbCandidate.hidrawPath).Nodup)
    (btAddresses : (bt.map BtCandidate.address).Nodup)
    (bleAddresses : (ble.map BleCandidate.address).Nodup) :
    (∃ devices after,
      listDevices false unicode reg usb bt ble map = some (devices, after) ∧
      KeepsEveryCandidate usb bt ble devices after) ↔
    NamesApart usb bt ble := by
  obtain ⟨printers, listed, named, hold, seated⟩ :=
    logicalPrinters_holdCandidates usb bt ble
  have run : listDevices false unicode reg usb bt ble map =
      some (printers.map (·.discovered unicode reg),
        printers.foldl registerPrinter map) := by
    simp [listDevices, listed, foldl_emitPrinter]
  have uris := uris_nodup_iff unicode reg named.of_map
  have slugs := slugs_apart_iff named hold seated
  have eachUsb := latest_eq_self_iff UsbCandidate.key paths.of_map
  have eachBt := latest_eq_self_iff BtCandidate.name btAddresses.of_map
  have eachBle := latest_eq_self_iff BleCandidate.name bleAddresses.of_map
  rw [run]
  constructor
  · rintro ⟨devices, after, same, keeps⟩
    obtain ⟨rfl, rfl⟩ := Prod.mk.inj (Option.some.inj same)
    have apart := uris.mp keeps.uris
    refine ⟨eachUsb.mp ?_, eachBt.mp ?_, eachBle.mp ?_, slugs.mp apart⟩
    · intro u member
      exact (registeredOnce_usb named hold seated apart unicode reg map paths
        member).mp (keeps.usb u member)
    · intro b member
      exact (registeredOnce_byName named seated apart unicode reg map
        (fun _ => rfl) (fun p pMember => (hold p pMember).bt) btAddresses
        member (listed_of_bt member)).mp (keeps.bt b member)
    · intro e member
      exact (registeredOnce_byName named seated apart unicode reg map
        (fun _ => rfl) (fun p pMember => (hold p pMember).ble) bleAddresses
        member (listed_of_ble member)).mp (keeps.ble e member)
  · intro names
    have apart := slugs.mpr names.slugs
    refine ⟨_, _, rfl, uris.mpr apart, ?_, ?_, ?_⟩
    · intro u member
      exact (registeredOnce_usb named hold seated apart unicode reg map paths
        member).mpr (eachUsb.mpr names.usbKeys u member)
    · intro b member
      exact (registeredOnce_byName named seated apart unicode reg map
        (fun _ => rfl) (fun p pMember => (hold p pMember).bt) btAddresses
        member (listed_of_bt member)).mpr (eachBt.mpr names.btNames b member)
    · intro e member
      exact (registeredOnce_byName named seated apart unicode reg map
        (fun _ => rfl) (fun p pMember => (hold p pMember).ble) bleAddresses
        member (listed_of_ble member)).mpr
          (eachBle.mpr names.bleNames e member)

/-- Two candidates on Bluetooth and one over USB that is the second of them. -/
theorem listDevices_keepsEveryCandidate_three :
    let usb : List UsbCandidate :=
      [⟨"/dev/hidraw0", "7E1222120101", "T50M Pro", some "T0117A2410211517"⟩]
    let bt : List BtCandidate :=
      [⟨"A4:93:40:11:22:33", "T0182A2507162197"⟩,
        ⟨"A4:93:40:44:55:66", "T0117A2410211517"⟩]
    let reg : Registry := ⟨[⟨"supvan_t50", "Supvan T50 Series"⟩], [], [], 0⟩
    ∃ devices after,
      listDevices false (fun _ c _ => [c]) reg usb bt [] ∅ =
        some (devices, after) ∧
      KeepsEveryCandidate usb bt [] devices after := by
  intro usb bt reg
  apply (listDevices_keepsEveryCandidate_iff _ reg usb bt [] ∅ (by decide)
    (by decide) (by decide)).mpr
  exact ⟨by decide, by decide, by decide, .of_names _ _ _ (by decide)⟩

/-- The names of two printers differ in a hyphen, and both get one URI. -/
theorem listDevices_losesPrinter :
    let bt : List BtCandidate :=
      [⟨"A4:93:40:11:22:33", "T50M Pro"⟩, ⟨"A4:93:40:44:55:66", "T50M-Pro"⟩]
    let reg : Registry := ⟨[⟨"supvan_t50", "Supvan T50 Series"⟩], [], [], 0⟩
    ¬ ∃ devices after,
      listDevices false (fun _ c _ => [c]) reg [] bt [] ∅ =
        some (devices, after) ∧
      KeepsEveryCandidate [] bt [] devices after := by
  intro bt reg
  rintro ⟨devices, after, run, keeps⟩
  have listed : devices.map DiscoveredDevice.uri =
      ["supvan://t50m-pro", "supvan://t50m-pro"] :=
    congrArg (fun out => out.1.map DiscoveredDevice.uri)
      (Option.some.inj (run.symm.trans rfl))
  have distinct := keeps.uris
  rw [listed] at distinct
  exact absurd distinct (by decide)

end SupvanCups
