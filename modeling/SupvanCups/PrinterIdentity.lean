import SupvanCups.Discovery
import Mathlib.Data.List.Induction

/-!
# When discovery keeps printers apart

The grouping by name alone never joins candidates that give themselves
different names.  The fallback does so exactly when it fires on a USB candidate
whose name is known.
-/

namespace SupvanCups

/-! ### What the grouping map holds -/

def latest (key : α → String) (xs : List α) (k : String) : Option α :=
  (xs.filter fun x => key x = k).getLast?

theorem latest_some {key : α → String} {xs : List α} {k : String} {x : α}
    (found : latest key xs k = some x) : x ∈ xs ∧ key x = k := by
  have member := List.mem_of_getLast? found
  simpa using member

@[simp]
theorem latest_isSome (key : α → String) (xs : List α) (k : String) :
    (latest key xs k).isSome ↔ ∃ x ∈ xs, key x = k := by
  simp [latest, Option.isSome_iff_ne_none]

@[simp]
theorem latest_isNone (key : α → String) (xs : List α) (k : String) :
    (latest key xs k).isNone ↔ ∀ x ∈ xs, key x ≠ k := by
  simp [latest]

theorem latest_append_singleton (key : α → String) (xs : List α) (x : α)
    (k : String) :
    latest key (xs ++ [x]) k = if key x = k then some x else latest key xs k := by
  by_cases same : key x = k <;> simp [latest, List.filter_append, same]

/-- Entering candidates one by one leaves in each group the last one of its
key, beside what the group held of other transports. -/
theorem getElem?_foldl_enter (key : α → String) (put : Group → α → Group)
    (overwrites : ∀ g x y, put (put g x) y = put g y) (xs : List α)
    (byName : ByName) (k : String) :
    (xs.foldl (enter key put) byName)[k]? =
      (latest key xs k).elim byName[k]? fun x =>
        some (put (byName[k]?.getD {}) x) := by
  induction xs using List.reverseRecOn with
  | nil => rfl
  | append_singleton xs x ih =>
      rw [List.foldl_append, List.foldl_cons, List.foldl_nil, enter,
        Std.TreeMap.getElem?_alter, latest_append_singleton]
      by_cases same : key x = k
      · subst same
        rw [ih]
        cases latest key xs (key x) <;> simp [overwrites]
      · simp [same, ih]

section Candidates

variable (usb : List UsbCandidate) (bt : List BtCandidate)
  (ble : List BleCandidate)

/-- The candidates that go by one name. -/
def groupOf (k : String) : Group where
  usb := latest UsbCandidate.key usb k
  bt := latest BtCandidate.name bt k
  ble := latest BleCandidate.name ble k

theorem groupByName_getElem?_eq_some (k : String) (g : Group) :
    (groupByName usb bt ble)[k]? = some g ↔
      g = groupOf usb bt ble k ∧ g ≠ {} := by
  simp only [groupByName]
  rw [getElem?_foldl_enter _ Group.withBle (fun _ _ _ => rfl),
    getElem?_foldl_enter _ Group.withBt (fun _ _ _ => rfl),
    getElem?_foldl_enter _ Group.withUsb (fun _ _ _ => rfl)]
  simp only [groupOf]
  cases latest UsbCandidate.key usb k <;>
    cases latest BtCandidate.name bt k <;>
      cases latest BleCandidate.name ble k <;>
        simp [Group.ext_iff, Group.withUsb, Group.withBt, Group.withBle] <;>
          grind

/-- The name is that of a USB candidate and of no other candidate. -/
def UsbOnly (k : String) : Prop :=
  (∃ u ∈ usb, u.key = k) ∧ (∀ b ∈ bt, b.name ≠ k) ∧ ∀ e ∈ ble, e.name ≠ k

/-- The name is that of a Bluetooth candidate and of no other candidate. -/
def BtOnly (k : String) : Prop :=
  (∀ u ∈ usb, u.key ≠ k) ∧ (∃ b ∈ bt, b.name = k) ∧ ∀ e ∈ ble, e.name ≠ k

theorem groupOf_isUsbOnly (k : String) :
    (groupOf usb bt ble k).isUsbOnly = true ↔ UsbOnly usb bt ble k := by
  simp only [groupOf, Group.isUsbOnly, Bool.and_eq_true, latest_isSome,
    latest_isNone, UsbOnly, and_assoc]

theorem groupOf_isBtOnly (k : String) :
    (groupOf usb bt ble k).isBtOnly = true ↔ BtOnly usb bt ble k := by
  simp only [groupOf, Group.isBtOnly, Bool.and_eq_true, latest_isSome,
    latest_isNone, BtOnly, and_assoc]

/-! ### The fallback -/

theorem mem_keysWhere (kind : Group → Bool) (byName : ByName) (k : String) :
    k ∈ keysWhere kind byName ↔ ∃ g, byName[k]? = some g ∧ kind g = true := by
  simp [keysWhere, Std.TreeMap.mem_toList_iff_getElem?_eq_some]

theorem nodup_keysWhere (kind : Group → Bool) (byName : ByName) :
    (keysWhere kind byName).Nodup := by
  have distinct := byName.distinct_keys_toList
  simp only [Std.compare_eq_iff_eq] at distinct
  exact List.pairwise_map.mpr (distinct.filter _)

theorem eq_singleton_iff_of_nodup {keys : List String} (nodup : keys.Nodup)
    (k : String) : keys = [k] ↔ ∀ k', k' ∈ keys ↔ k' = k := by
  rw [← List.perm_singleton,
    List.perm_ext_iff_of_nodup nodup (List.nodup_singleton k)]
  simp

/-- There is one name on USB alone and one on Bluetooth alone. -/
def LonePair (usbKey btKey : String) : Prop :=
  (∀ k, UsbOnly usb bt ble k ↔ k = usbKey) ∧
    ∀ k, BtOnly usb bt ble k ↔ k = btKey

variable {usb bt ble} in
theorem LonePair.apart {usbKey btKey : String}
    (pair : LonePair usb bt ble usbKey btKey) : usbKey ≠ btKey := by
  intro same
  obtain ⟨u, member, key⟩ := ((pair.1 usbKey).mpr rfl).1
  exact ((pair.2 btKey).mpr rfl).1 u member (key.trans same)

variable {usb bt ble} in
theorem groupByName_getElem?_of_kind (kind : Group → Bool) {k : String}
    (proper : kind {} = false) (ofKind : kind (groupOf usb bt ble k) = true) :
    (groupByName usb bt ble)[k]? = some (groupOf usb bt ble k) := by
  refine (groupByName_getElem?_eq_some usb bt ble k _).mpr ⟨rfl, ?_⟩
  intro empty
  rw [empty, proper] at ofKind
  contradiction

theorem mem_keysWhere_groupByName (kind : Group → Bool)
    (proper : kind {} = false) (k : String) :
    k ∈ keysWhere kind (groupByName usb bt ble) ↔
      kind (groupOf usb bt ble k) = true := by
  rw [mem_keysWhere]
  constructor
  · rintro ⟨g, held, ofKind⟩
    rwa [((groupByName_getElem?_eq_some usb bt ble k g).mp held).1] at ofKind
  · exact fun ofKind =>
      ⟨_, groupByName_getElem?_of_kind kind proper ofKind, ofKind⟩

theorem keysWhere_eq_singletons_iff (usbKey btKey : String) :
    (keysWhere Group.isUsbOnly (groupByName usb bt ble) = [usbKey] ∧
      keysWhere Group.isBtOnly (groupByName usb bt ble) = [btKey]) ↔
        LonePair usb bt ble usbKey btKey := by
  rw [eq_singleton_iff_of_nodup (nodup_keysWhere _ _),
    eq_singleton_iff_of_nodup (nodup_keysWhere _ _)]
  simp only [mem_keysWhere_groupByName usb bt ble Group.isUsbOnly rfl,
    mem_keysWhere_groupByName usb bt ble Group.isBtOnly rfl,
    groupOf_isUsbOnly, groupOf_isBtOnly, LonePair]

theorem cardinalityFallback_idle
    (noPair : ∀ usbKey btKey, ¬ LonePair usb bt ble usbKey btKey) :
    cardinalityFallback (groupByName usb bt ble) =
      some (groupByName usb bt ble) := by
  unfold cardinalityFallback
  split
  · next usbKey btKey usbAlone btAlone =>
      exact absurd
        ((keysWhere_eq_singletons_iff usb bt ble usbKey btKey).mp
          ⟨usbAlone, btAlone⟩)
        (noPair usbKey btKey)
  · rfl

variable {usb bt ble} in
theorem cardinalityFallback_pair {usbKey btKey : String}
    (pair : LonePair usb bt ble usbKey btKey) :
    ∃ byName, cardinalityFallback (groupByName usb bt ble) = some byName ∧
      ∀ k g, byName[k]? = some g ↔
        if k = btKey then
          g = { groupOf usb bt ble btKey with
            usb := (groupOf usb bt ble usbKey).usb }
        else
          k ≠ usbKey ∧ g = groupOf usb bt ble k ∧ g ≠ {} := by
  have ⟨usbKeys, btKeys⟩ :=
    (keysWhere_eq_singletons_iff usb bt ble usbKey btKey).mpr pair
  have usbHeld := groupByName_getElem?_of_kind Group.isUsbOnly rfl
    ((groupOf_isUsbOnly usb bt ble usbKey).mpr ((pair.1 usbKey).mpr rfl))
  have btHeld := groupByName_getElem?_of_kind Group.isBtOnly rfl
    ((groupOf_isBtOnly usb bt ble btKey).mpr ((pair.2 btKey).mpr rfl))
  have apart := pair.apart
  have restHeld : ((groupByName usb bt ble).erase usbKey)[btKey]? =
      some (groupOf usb bt ble btKey) := by
    rw [Std.TreeMap.getElem?_erase, btHeld]
    simp [apart]
  refine ⟨_, by
    unfold cardinalityFallback
    simp only [usbKeys, btKeys, usbHeld, restHeld]
    rfl, ?_⟩
  intro k g
  rw [Std.TreeMap.getElem?_insert, Std.TreeMap.getElem?_erase]
  by_cases isBt : k = btKey
  · simp [isBt, eq_comm]
  · by_cases isUsb : k = usbKey
    · simp [isUsb, apart, Ne.symm apart]
    · simp [isBt, isUsb, Ne.symm isBt, Ne.symm isUsb,
        groupByName_getElem?_eq_some]

/-! ### One identity for each logical printer -/

end Candidates

/-- The candidates that know their name agree on it, and it is the name the
printer is listed under. -/
structure LogicalPrinter.OneIdentity (p : LogicalPrinter) : Prop where
  agree : ∀ a ∈ p.knownNames, ∀ b ∈ p.knownNames, a = b
  listedUnder : ∀ a ∈ p.knownNames, a = p.name

theorem LogicalPrinter.OneIdentity.of_listedUnder {p : LogicalPrinter}
    (listedUnder : ∀ a ∈ p.knownNames, a = p.name) : p.OneIdentity :=
  ⟨fun a aKnown b bKnown =>
    (listedUnder a aKnown).trans (listedUnder b bKnown).symm, listedUnder⟩

section Candidates

variable (usb : List UsbCandidate) (bt : List BtCandidate)
  (ble : List BleCandidate)

/-- Joining by name alone fuses nothing. -/
theorem groupOf_oneIdentity (k : String) :
    (LogicalPrinter.mk k (groupOf usb bt ble k)).OneIdentity := by
  refine .of_listedUnder fun a known => ?_
  simp only [LogicalPrinter.knownNames, groupOf, List.mem_append,
    Option.mem_toList, Option.bind_eq_some_iff,
    Option.map_eq_some_iff] at known
  rcases known with (⟨u, found, named⟩ | ⟨b, found, rfl⟩) | ⟨e, found, rfl⟩
  · have key := (latest_some found).2
    simpa [UsbCandidate.key, named] using key
  · exact (latest_some found).2
  · exact (latest_some found).2

/-- The fallback fires on a USB candidate whose name is known. -/
def FallbackFusesNamed : Prop :=
  ∃ usbKey btKey, LonePair usb bt ble usbKey btKey ∧
    ∃ u, latest UsbCandidate.key usb usbKey = some u ∧ u.printerName.isSome

variable {usb bt ble} in
/-- The two candidates that the fallback joins share an identity exactly when
the USB one has no name of its own. -/
theorem fused_oneIdentity_iff {usbKey btKey : String}
    (pair : LonePair usb bt ble usbKey btKey) {u : UsbCandidate}
    (found : latest UsbCandidate.key usb usbKey = some u) :
    (LogicalPrinter.mk btKey { groupOf usb bt ble btKey with
        usb := (groupOf usb bt ble usbKey).usb }).OneIdentity ↔
      u.printerName = none := by
  have btIdentity := groupOf_oneIdentity usb bt ble btKey
  constructor
  · intro identity
    by_contra named
    obtain ⟨name, named⟩ := Option.ne_none_iff_exists'.mp named
    have listed : name = btKey := identity.listedUnder name (by
      simp [LogicalPrinter.knownNames, groupOf, found, named])
    have key : u.key = usbKey := (latest_some found).2
    -- The fallback took them for apart because the names differ.
    refine ((pair.2 btKey).mpr rfl).1 u (latest_some found).1 ?_
    simp [UsbCandidate.key, named, listed]
  · intro unnamed
    refine .of_listedUnder fun a known => btIdentity.listedUnder a ?_
    simp only [LogicalPrinter.knownNames, groupOf, found, unnamed,
      Option.bind_some, Option.toList_none, List.nil_append] at known
    simp only [LogicalPrinter.knownNames, List.mem_append] at known ⊢
    exact known.elim (fun h => .inl (.inr h)) .inr

theorem logicalPrinters_of_fallback {byName : ByName}
    (fallback : cardinalityFallback (groupByName usb bt ble) = some byName) :
    ∃ printers, logicalPrinters usb bt ble = some printers ∧
      ∀ p, p ∈ printers ↔ byName[p.name]? = some p.transports := by
  refine ⟨_, by rw [logicalPrinters, fallback]; rfl, ?_⟩
  rintro ⟨name, transports⟩
  simp [Std.TreeMap.mem_toList_iff_getElem?_eq_some]

/-- Every logical printer has one identity unless the fallback fires on a USB
candidate whose name is known. -/
theorem logicalPrinters_identities :
    ∃ printers, logicalPrinters usb bt ble = some printers ∧
      ((∀ p ∈ printers, p.OneIdentity) ↔ ¬ FallbackFusesNamed usb bt ble) := by
  by_cases pairs : ∃ usbKey btKey, LonePair usb bt ble usbKey btKey
  · obtain ⟨usbKey, btKey, pair⟩ := pairs
    obtain ⟨byName, fallback, held⟩ := cardinalityFallback_pair pair
    obtain ⟨printers, listed, member⟩ :=
      logicalPrinters_of_fallback usb bt ble fallback
    obtain ⟨u, found⟩ : ∃ u, latest UsbCandidate.key usb usbKey = some u :=
      Option.isSome_iff_exists.mp ((latest_isSome _ _ _).mpr
        ((pair.1 usbKey).mpr rfl).1)
    have fused := fused_oneIdentity_iff pair found
    refine ⟨printers, listed, ?_, ?_⟩
    · rintro identities ⟨usbKey', btKey', pair', u', found', named⟩
      obtain rfl : usbKey' = usbKey :=
        ((pair.1 usbKey').mp ((pair'.1 usbKey').mpr rfl))
      obtain rfl : u = u' := Option.some.inj (found.symm.trans found')
      have unnamed := fused.mp (identities _ ((member _).mpr
        ((held btKey _).mpr (if_pos rfl ▸ rfl))))
      simp [unnamed] at named
    · rintro noFusion ⟨name, transports⟩ inList
      have group := (held name transports).mp ((member _).mp inList)
      by_cases isBt : name = btKey
      · subst isBt
        rw [if_pos rfl] at group
        subst group
        refine fused.mpr (Option.not_isSome_iff_eq_none.mp fun named => ?_)
        exact noFusion ⟨usbKey, name, pair, u, found, named⟩
      · rw [if_neg isBt] at group
        obtain ⟨-, rfl, -⟩ := group
        exact groupOf_oneIdentity usb bt ble name
  · obtain ⟨printers, listed, member⟩ :=
      logicalPrinters_of_fallback usb bt ble
        (cardinalityFallback_idle usb bt ble fun usbKey btKey pair =>
          pairs ⟨usbKey, btKey, pair⟩)
    refine ⟨printers, listed, ?_, ?_⟩
    · rintro - ⟨usbKey, btKey, pair, -⟩
      exact pairs ⟨usbKey, btKey, pair⟩
    · rintro - ⟨name, transports⟩ inList
      obtain ⟨rfl, -⟩ := (groupByName_getElem?_eq_some usb bt ble name _).mp
        ((member _).mp inList)
      exact groupOf_oneIdentity usb bt ble name

/-! ### What is announced and registered -/

theorem foldl_emitPrinter (unicode : UnicodeLower) (reg : Registry)
    (printers : List LogicalPrinter) (out : List DiscoveredDevice)
    (map : SupvanMap) :
    printers.foldl (emitPrinter unicode reg) (out, map) =
      (out ++ printers.map (·.discovered unicode reg),
        printers.foldl registerPrinter map) := by
  induction printers generalizing out map with
  | nil => simp
  | cons p printers ih => simp [emitPrinter, ih]

/-- Discovery announces and registers logical printers of one identity each,
unless the fallback fires on a USB candidate whose name is known. -/
theorem listDevices_oneIdentity_iff (unicode : UnicodeLower) (reg : Registry)
    (map : SupvanMap) :
    (∃ printers, logicalPrinters usb bt ble = some printers ∧
      listDevices false unicode reg usb bt ble map =
        some (printers.map (·.discovered unicode reg),
          printers.foldl registerPrinter map) ∧
      ∀ p ∈ printers, p.OneIdentity) ↔
    ¬ FallbackFusesNamed usb bt ble := by
  obtain ⟨printers, listed, identities⟩ := logicalPrinters_identities usb bt ble
  have announced : listDevices false unicode reg usb bt ble map =
      some (printers.map (·.discovered unicode reg),
        printers.foldl registerPrinter map) := by
    simp [listDevices, listed, foldl_emitPrinter]
  rw [← identities]
  constructor
  · rintro ⟨printers', listed', -, each⟩
    obtain rfl : printers = printers' :=
      Option.some.inj (listed.symm.trans listed')
    exact each
  · exact fun each => ⟨printers, listed, announced, each⟩

end Candidates

/-- A T50M Pro on USB, whose name is known, and an E11 on Bluetooth come out as
one printer. -/
theorem listDevices_fusesNamedPrinters :
    ¬ ∃ printers,
      logicalPrinters
        [⟨"/dev/hidraw0", "7E1222120101", "T50M Pro",
          some "T0117A2410211517"⟩]
        [⟨"A4:93:40:11:22:33", "T0182A2507162197"⟩] [] = some printers ∧
      ∀ p ∈ printers, p.OneIdentity := by
  rintro ⟨printers, listed, identities⟩
  have fused : printers = [⟨"T0182A2507162197",
      some ⟨"/dev/hidraw0", "7E1222120101", "T50M Pro",
        some "T0117A2410211517"⟩,
      some ⟨"A4:93:40:11:22:33", "T0182A2507162197"⟩, none⟩] :=
    Option.some.inj (listed.symm.trans rfl)
  have identity := identities _ (fused ▸ List.mem_singleton.mpr rfl)
  have same := identity.agree "T0117A2410211517" (by decide)
    "T0182A2507162197" (by decide)
  exact absurd same (by decide)

end SupvanCups
