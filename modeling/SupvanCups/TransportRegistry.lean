import SupvanCups.PrinterIdentity

/-!
# The transport map after a round of discovery

Each listed printer is registered under the slug of its name.  A candidate is
found again in the map when it is the last of its key, so that its group holds
it, and when its printer shares its slug with no other.
-/

namespace SupvanCups

/-! ### The last of each key -/

/-- Every element is the last one of its key exactly when no two share a
key. -/
theorem latest_eq_self_iff (key : α → String) {xs : List α}
    (distinct : xs.Nodup) :
    (∀ x ∈ xs, latest key xs (key x) = some x) ↔ (xs.map key).Nodup := by
  rw [List.nodup_map_iff_inj_on distinct]
  constructor
  · intro each x xMember y yMember same
    have found := each x xMember
    rw [same, each y yMember] at found
    exact (Option.some.inj found).symm
  · intro apart x member
    obtain ⟨found, latestEq⟩ := Option.isSome_iff_exists.mp
      ((latest_isSome key xs (key x)).mpr ⟨x, member, rfl⟩)
    obtain ⟨foundMember, sameKey⟩ := latest_some latestEq
    rw [latestEq, apart found foundMember x member sameKey]

/-- What a slug holds after some registrations: the last one under that slug,
or what was there before. -/
theorem getElem?_foldl_registerSupvan (key : α → String)
    (registration : α → SupvanTransports) (xs : List α) (map : SupvanMap)
    (s : String) :
    (xs.foldl (fun m x => registerSupvan m (key x) (registration x)) map)[s]? =
      (latest key xs s).elim map[s]? fun x => some (registration x) := by
  induction xs using List.reverseRecOn with
  | nil => rfl
  | append_singleton xs x ih =>
      rw [List.foldl_append, List.foldl_cons, List.foldl_nil, registerSupvan,
        Std.TreeMap.getElem?_insert, latest_append_singleton]
      by_cases same : key x = s
      · simp [same]
      · simp [same, ih]

theorem getElem?_foldl_registerPrinter (printers : List LogicalPrinter)
    (map : SupvanMap) (s : String) :
    (printers.foldl registerPrinter map)[s]? =
      (latest (fun p : LogicalPrinter => slug p.name) printers s).elim map[s]?
        fun p => some p.registration :=
  getElem?_foldl_registerSupvan _ LogicalPrinter.registration printers map s

/-! ### The listed printers -/

section Candidates

variable (usb : List UsbCandidate) (bt : List BtCandidate)
  (ble : List BleCandidate)

/-- Some candidate goes by the name, and the fallback does not move it under
another one. -/
def Listed (k : String) : Prop :=
  groupOf usb bt ble k ≠ {} ∧ ∀ btKey, ¬ LonePair usb bt ble k btKey

/-- The name under which the USB candidate of a key is listed. -/
def ListedUnder (k k' : String) : Prop :=
  LonePair usb bt ble k k' ∨ k' = k ∧ ∀ btKey, ¬ LonePair usb bt ble k btKey

/-- What a listed printer holds of each transport. -/
structure LogicalPrinter.HoldsCandidates (p : LogicalPrinter) : Prop where
  listed : Listed usb bt ble p.name
  usb : ∀ u, p.transports.usb = some u ↔
    ∃ k, ListedUnder usb bt ble k p.name ∧
      latest UsbCandidate.key usb k = some u
  bt : p.transports.bt = latest BtCandidate.name bt p.name
  ble : p.transports.ble = latest BleCandidate.name ble p.name

variable {usb bt ble}

theorem LonePair.btKey_unique {usbKey btKey k k' : String}
    (pair : LonePair usb bt ble usbKey btKey)
    (other : LonePair usb bt ble k k') : k = usbKey ∧ k' = btKey :=
  ⟨(pair.1 k).mp ((other.1 k).mpr rfl), (pair.2 k').mp ((other.2 k').mpr rfl)⟩

theorem logicalPrinters_names_nodup {printers : List LogicalPrinter}
    (listed : logicalPrinters usb bt ble = some printers) :
    (printers.map LogicalPrinter.name).Nodup := by
  obtain ⟨byName, -, rfl⟩ := Option.map_eq_some_iff.mp listed
  have distinct := byName.distinct_keys_toList
  simp only [Std.compare_eq_iff_eq] at distinct
  rw [List.map_map]
  exact List.pairwise_map.mpr distinct

/-- A printer whose name the fallback leaves alone holds its group. -/
theorem holdsCandidates_of_group {k : String}
    (listed : Listed usb bt ble k)
    (unmoved : ∀ usbKey, ¬ LonePair usb bt ble usbKey k) :
    (LogicalPrinter.mk k (groupOf usb bt ble k)).HoldsCandidates usb bt
      ble where
  listed := listed
  usb u := by
    constructor
    · exact fun held => ⟨k, .inr ⟨rfl, listed.2⟩, held⟩
    · rintro ⟨k', pair | ⟨rfl, -⟩, held⟩
      · exact absurd pair (unmoved k')
      · exact held
  bt := rfl
  ble := rfl

/-- The printer that the fallback made holds the USB candidate it moved. -/
theorem holdsCandidates_of_pair {usbKey btKey : String}
    (pair : LonePair usb bt ble usbKey btKey) :
    (LogicalPrinter.mk btKey { groupOf usb bt ble btKey with
      usb := (groupOf usb bt ble usbKey).usb }).HoldsCandidates usb bt ble where
  listed := by
    have btOnly := (pair.2 btKey).mpr rfl
    constructor
    · intro empty
      obtain ⟨b, found⟩ := Option.isSome_iff_exists.mp
        ((latest_isSome BtCandidate.name bt btKey).mpr btOnly.2.1)
      have held := congrArg Group.bt empty
      simp [groupOf, found] at held
    · intro other pair'
      exact pair.apart (pair.btKey_unique pair').1.symm
  usb u := by
    constructor
    · exact fun held => ⟨usbKey, .inl pair, held⟩
    · rintro ⟨k, pair' | ⟨rfl, -⟩, held⟩
      · rwa [(pair.btKey_unique pair').1] at held
      · obtain ⟨member, key⟩ := latest_some held
        exact absurd key (((pair.2 btKey).mpr rfl).1 u member)
  bt := rfl
  ble := rfl

/-- Every listed name has its one printer, with the candidates of that name. -/
theorem logicalPrinters_holdCandidates (usb : List UsbCandidate)
    (bt : List BtCandidate) (ble : List BleCandidate) :
    ∃ printers, logicalPrinters usb bt ble = some printers ∧
      (printers.map LogicalPrinter.name).Nodup ∧
      (∀ p ∈ printers, p.HoldsCandidates usb bt ble) ∧
      ∀ k, Listed usb bt ble k → ∃ p ∈ printers, p.name = k := by
  by_cases pairs : ∃ usbKey btKey, LonePair usb bt ble usbKey btKey
  · obtain ⟨usbKey, btKey, pair⟩ := pairs
    obtain ⟨byName, fallback, held⟩ := cardinalityFallback_pair pair
    obtain ⟨printers, listed, member⟩ :=
      logicalPrinters_of_fallback usb bt ble fallback
    refine ⟨printers, listed, logicalPrinters_names_nodup listed, ?_, ?_⟩
    · rintro ⟨name, transports⟩ inList
      have group := (held name transports).mp ((member _).mp inList)
      split at group
      · next isBt =>
          subst isBt
          subst group
          exact holdsCandidates_of_pair pair
      · next notBt =>
          obtain ⟨notUsb, rfl, nonempty⟩ := group
          exact holdsCandidates_of_group
            ⟨nonempty, fun k' other => notUsb (pair.btKey_unique other).1⟩
            fun k' other => notBt (pair.btKey_unique other).2
    · intro k listedName
      by_cases isBt : k = btKey
      · refine ⟨⟨k, { groupOf usb bt ble btKey with
          usb := (groupOf usb bt ble usbKey).usb }⟩,
          (member _).mpr ((held k _).mpr ?_), rfl⟩
        rw [if_pos isBt]
      · have notUsb : k ≠ usbKey := by
          rintro rfl
          exact listedName.2 btKey pair
        refine ⟨⟨k, groupOf usb bt ble k⟩,
          (member _).mpr ((held k _).mpr ?_), rfl⟩
        rw [if_neg isBt]
        exact ⟨notUsb, rfl, listedName.1⟩
  · have noPair : ∀ usbKey btKey, ¬ LonePair usb bt ble usbKey btKey :=
      fun usbKey btKey pair => pairs ⟨usbKey, btKey, pair⟩
    obtain ⟨printers, listed, member⟩ := logicalPrinters_of_fallback usb bt ble
      (cardinalityFallback_idle usb bt ble noPair)
    refine ⟨printers, listed, logicalPrinters_names_nodup listed, ?_, ?_⟩
    · rintro ⟨name, transports⟩ inList
      obtain ⟨rfl, nonempty⟩ :=
        (groupByName_getElem?_eq_some usb bt ble name _).mp
          ((member _).mp inList)
      exact holdsCandidates_of_group ⟨nonempty, noPair name⟩
        fun k' => noPair k' name
    · intro k listedName
      exact ⟨⟨k, _⟩, (member _).mpr
        ((groupByName_getElem?_eq_some usb bt ble k _).mpr
          ⟨rfl, listedName.1⟩), rfl⟩

/-! ### Where candidates are listed -/

theorem listed_of_listedUnder {k k' : String}
    (under : ListedUnder usb bt ble k k')
    (known : ∃ u ∈ usb, u.key = k) : Listed usb bt ble k' := by
  rcases under with pair | ⟨rfl, unmoved⟩
  · exact (holdsCandidates_of_pair pair).listed
  · refine ⟨fun empty => ?_, unmoved⟩
    have absent := congrArg Group.usb empty
    have present := (latest_isSome UsbCandidate.key usb k').mpr known
    simp only [groupOf] at absent
    simp [absent] at present

variable (usb bt ble) in
theorem exists_listedUnder (k : String) :
    ∃ k', ListedUnder usb bt ble k k' := by
  by_cases pairs : ∃ btKey, LonePair usb bt ble k btKey
  · obtain ⟨btKey, pair⟩ := pairs
    exact ⟨btKey, .inl pair⟩
  · exact ⟨k, .inr ⟨rfl, fun btKey pair => pairs ⟨btKey, pair⟩⟩⟩

theorem ListedUnder.unique {k first second : String}
    (firstUnder : ListedUnder usb bt ble k first)
    (secondUnder : ListedUnder usb bt ble k second) : first = second := by
  rcases firstUnder with pair | ⟨rfl, unmoved⟩ <;>
    rcases secondUnder with pair' | ⟨rfl, unmoved'⟩
  · exact (pair'.btKey_unique pair).2
  · exact absurd pair (unmoved' _)
  · exact absurd pair' (unmoved _)
  · rfl

theorem mem_names_of_listed {k : String} (listed : Listed usb bt ble k) :
    k ∈ usb.map UsbCandidate.key ++
      (bt.map BtCandidate.name ++ ble.map BleCandidate.name) := by
  by_contra absent
  simp only [List.mem_append, List.mem_map, not_or, not_exists,
    not_and] at absent
  obtain ⟨noUsb, noBt, noBle⟩ := absent
  apply listed.1
  ext1
  · exact Option.isNone_iff_eq_none.mp ((latest_isNone _ _ _).mpr noUsb)
  · exact Option.isNone_iff_eq_none.mp ((latest_isNone _ _ _).mpr noBt)
  · exact Option.isNone_iff_eq_none.mp ((latest_isNone _ _ _).mpr noBle)

theorem listed_of_bt {b : BtCandidate} (member : b ∈ bt) :
    Listed usb bt ble b.name := by
  constructor
  · intro empty
    have absent := congrArg Group.bt empty
    have present := (latest_isSome BtCandidate.name bt b.name).mpr
      ⟨b, member, rfl⟩
    simp only [groupOf] at absent
    simp [absent] at present
  · intro btKey pair
    exact ((pair.1 b.name).mpr rfl).2.1 b member rfl

theorem listed_of_ble {e : BleCandidate} (member : e ∈ ble) :
    Listed usb bt ble e.name := by
  constructor
  · intro empty
    have absent := congrArg Group.ble empty
    have present := (latest_isSome BleCandidate.name ble e.name).mpr
      ⟨e, member, rfl⟩
    simp only [groupOf] at absent
    simp [absent] at present
  · intro btKey pair
    exact ((pair.1 e.name).mpr rfl).2.2 e member rfl

end Candidates

end SupvanCups
