import SupvanCups.PrinterIdentity
import SupvanCups.ShippedModels

/-!
# Two ways to a driver family

A printer seen over Bluetooth or BLE is announced under the marketing name of
its model, and its driver is then looked up by that name.  The table also
gives a family for the advertised name itself.  With the shipped table the two
agree except on the T80 Pro and the T80 Max, whose marketing names start with
no prefix of the table.
-/

namespace SupvanCups

/-- `str::starts_with`. -/
def startsWith (text start : String) : Bool :=
  start.toList.isPrefixOf text.toList

def driverForDevice (unicode : UnicodeLower) (reg : Registry)
    (deviceId deviceUri : String) : Option String :=
  match if deviceId = "" then none else parseMdl deviceId with
  | some mdl => some (familyForModelHint unicode reg mdl).driverName
  | none =>
      if startsWith deviceUri "supvan://" || startsWith deviceUri "mock://" then
        some reg.defaultFamily.driverName
      else none

/-! ### The model in the device id -/

theorem unbroken_of_notMem {text : List Char} (absent : ';' ∉ text) :
    ∀ c ∈ text, (c == ';') = false :=
  fun _ member => beq_false_of_ne fun same => absent (same ▸ member)

/-- A model name without a semicolon is read back from the device id. -/
theorem parseMdl_deviceIdOf {model : String}
    (noSeparator : ';' ∉ model.toList) :
    parseMdl (LogicalPrinter.deviceIdOf model) = some model := by
  have text : (LogicalPrinter.deviceIdOf model).toList =
      "MFG:Supvan".toList ++ ';' :: (("MDL:".toList ++ model.toList) ++
        ';' :: "CMD:SUPVAN;".toList) := by
    unfold LogicalPrinter.deviceIdOf
    simp
  have maker := unbroken_of_notMem (by decide : ';' ∉ "MFG:Supvan".toList)
  have tag : ';' ∉ "MDL:".toList := by decide
  have named := unbroken_of_notMem
    (List.not_mem_append tag noSeparator)
  have fields : (LogicalPrinter.deviceIdOf model).toList.splitOn ';' =
      "MFG:Supvan".toList :: ("MDL:".toList ++ model.toList) ::
        "CMD:SUPVAN;".toList.splitOn ';' := by
    rw [text, List.splitOn_eq_splitOnP,
      List.splitOnP_append_cons_of_forall_mem maker _ (by simp),
      List.splitOnP_append_cons_of_forall_mem named _ (by simp),
      List.splitOn_eq_splitOnP]
  have tagged : "MDL:".toList.isPrefixOf? ("MDL:".toList ++ model.toList) =
      some model.toList :=
    List.isPrefixOf?_eq_some_iff_append_eq.mpr rfl
  have untagged : "MDL:".toList.isPrefixOf? "MFG:Supvan".toList = none := by
    decide
  rw [parseMdl, fields, List.findSome?_cons, untagged, List.findSome?_cons,
    tagged]
  simp

theorem driverForDevice_deviceIdOf (unicode : UnicodeLower) (reg : Registry)
    {model : String} (noSeparator : ';' ∉ model.toList) (deviceUri : String) :
    driverForDevice unicode reg (LogicalPrinter.deviceIdOf model) deviceUri =
      some (familyForModelHint unicode reg model).driverName := by
  have notEmpty : LogicalPrinter.deviceIdOf model ≠ "" := by
    unfold LogicalPrinter.deviceIdOf
    rw [ne_eq, String.append_eq_empty_iff]
    rintro ⟨-, empty⟩
    exact absurd empty (by decide)
  simp only [driverForDevice, if_neg notEmpty, parseMdl_deviceIdOf noSeparator]

/-! ### What the shipped table says -/

/-- The prefixes of the models whose marketing names no prefix starts. -/
def unresolvedPrefixes : List String := ["t0171", "t0186", "t0193"]

/-- The models whose marketing names no prefix starts. -/
def unresolvedModels : List String := ["T80 Pro", "T80 Max"]

/-- An advertised name of a T80 Pro or a T80 Max. -/
def IsUnresolved (unicode : UnicodeLower) (name : String) : Prop :=
  ∃ text ∈ unresolvedPrefixes,
    text.toList <+: (toLowercase unicode name).toList

/-- Some prefix of the entry starts the name, ASCII letter case aside. -/
def BtNameToml.startsAscii (entry : BtNameToml) (name : String) : Bool :=
  entry.prefixes.any fun text =>
    (text.toList.map Char.toLower).isPrefixOf (name.toList.map Char.toLower)

theorem shippedBtNames_ascii :
    ∀ entry ∈ shippedBtNames, IsAscii entry.model ∧ ';' ∉ entry.model.toList ∧
      ∀ text ∈ entry.prefixes, IsAscii text := by
  decide +kernel

/-- The marketing name of a resolved model leads to entries of its family, or
to none where its family is the default. -/
theorem shippedBtNames_resolved :
    ∀ entry ∈ shippedBtNames, entry.model ∉ unresolvedModels →
      (∀ other ∈ shippedBtNames, other.startsAscii entry.model →
        other.family = entry.family) ∧
      ((∃ other ∈ shippedBtNames, other.startsAscii entry.model) ∨
        entry.family = "supvan_t50") := by
  decide +kernel

theorem shippedBtNames_unresolved :
    ∀ entry ∈ shippedBtNames, entry.model ∈ unresolvedModels →
      entry.family = "supvan_t80" ∧
      ∀ other ∈ shippedBtNames, other.startsAscii entry.model = false := by
  decide +kernel

/-- The prefixes of the unresolved models have no start in common with any
other prefix. -/
theorem shippedBtNames_separate :
    ∀ entry ∈ shippedBtNames, ∀ text ∈ entry.prefixes,
      (entry.model ∈ unresolvedModels →
        String.ofList (text.toList.map Char.toLower) ∈ unresolvedPrefixes) ∧
      ∀ lost ∈ unresolvedPrefixes,
        (lost.toList <+: text.toList.map Char.toLower ∨
          text.toList.map Char.toLower <+: lost.toList) →
        entry.model ∈ unresolvedModels := by
  decide +kernel

/-! ### Where the two ways meet -/

section Loaded

variable {unicode : UnicodeLower} {reg : Registry}
  (loaded : reg.LoadedFrom unicode embeddedModels)

theorem starts_iff_startsAscii (unicode : UnicodeLower) {entry : BtNameToml}
    (inTable : entry ∈ shippedBtNames) {name : String} (ascii : IsAscii name) :
    entry.Starts unicode name ↔ entry.startsAscii name = true := by
  have entryAscii := (shippedBtNames_ascii entry inTable).2.2
  simp only [BtNameToml.Starts, BtNameToml.startsAscii, List.any_eq_true,
    List.isPrefixOf_iff_prefix, toLowercase_ascii unicode ascii]
  constructor
  · rintro ⟨text, listed, starts⟩
    rw [toLowercase_ascii unicode (entryAscii text listed)] at starts
    exact ⟨text, listed, starts⟩
  · rintro ⟨text, listed, starts⟩
    refine ⟨text, listed, ?_⟩
    rwa [toLowercase_ascii unicode (entryAscii text listed)]

/-- An entry that starts a name is of an unresolved model exactly when the
name is one of an unresolved model. -/
theorem isUnresolved_iff_of_starts {entry : BtNameToml}
    (inTable : entry ∈ shippedBtNames) {name : String}
    (starts : entry.Starts unicode name) :
    IsUnresolved unicode name ↔ entry.model ∈ unresolvedModels := by
  obtain ⟨text, listed, starts⟩ := starts
  have textAscii := (shippedBtNames_ascii entry inTable).2.2 text listed
  rw [toLowercase_ascii unicode textAscii] at starts
  obtain ⟨own, apart⟩ := shippedBtNames_separate entry inTable text listed
  constructor
  · rintro ⟨lost, member, lostStarts⟩
    exact apart lost member (List.prefix_or_prefix_of_prefix lostStarts starts)
  · intro unresolved
    exact ⟨_, own unresolved, by simpa using starts⟩

theorem exists_starts_of_isUnresolved {name : String}
    (unresolved : IsUnresolved unicode name) :
    ∃ entry ∈ shippedBtNames, entry.Starts unicode name := by
  obtain ⟨text, member, starts⟩ := unresolved
  have listed : ∀ lost ∈ unresolvedPrefixes,
      ∃ entry ∈ shippedBtNames, lost ∈ entry.prefixes ∧ IsAscii lost ∧
        lost.toList.map Char.toLower = lost.toList := by
    decide +kernel
  obtain ⟨entry, inTable, isPrefix, ascii, lower⟩ := listed text member
  refine ⟨entry, inTable, text, isPrefix, ?_⟩
  rwa [toLowercase_ascii unicode ascii, lower]

include loaded

theorem familyForModelHint_resolved {entry : BtNameToml}
    (inTable : entry ∈ shippedBtNames)
    (resolved : entry.model ∉ unresolvedModels) :
    (familyForModelHint unicode reg entry.model).driverName =
      entry.family := by
  have ascii := (shippedBtNames_ascii entry inTable).1
  obtain ⟨agree, covered⟩ := shippedBtNames_resolved entry inTable resolved
  refine familyForModelHint_driverName loaded ?_ (covered.imp_left ?_)
  · intro other inTable' starts
    exact agree other inTable'
      ((starts_iff_startsAscii unicode inTable' ascii).mp starts)
  · rintro ⟨other, inTable', starts⟩
    exact ⟨other, inTable',
      (starts_iff_startsAscii unicode inTable' ascii).mpr starts⟩

theorem familyForModelHint_unmatched {name : String} (ascii : IsAscii name)
    (unmatched : ∀ other ∈ shippedBtNames, other.startsAscii name = false) :
    (familyForModelHint unicode reg name).driverName = "supvan_t50" := by
  refine familyForModelHint_driverName loaded ?_ (.inr rfl)
  intro other inTable starts
  have starts := (starts_iff_startsAscii unicode inTable ascii).mp starts
  rw [unmatched other inTable] at starts
  contradiction

/-- With the shipped table, the driver looked up through the announced model
is the family of the advertised name unless the name is one of a T80 Pro or a
T80 Max. -/
theorem announced_driver_iff (name : String) (bt : Option BtCandidate)
    (ble : Option BleCandidate) :
    let p : LogicalPrinter := ⟨name, none, bt, ble⟩
    driverForDevice unicode reg (p.discovered unicode reg).deviceId p.uri =
        some (familyForModelHint unicode reg name).driverName ↔
      ¬ IsUnresolved unicode name := by
  intro p
  have device : (p.discovered unicode reg).deviceId =
      LogicalPrinter.deviceIdOf
        ((btModelForName unicode reg name).getD "T50 Series") := rfl
  rw [device]
  cases found : matchBtPrefix unicode reg name with
  | none =>
      have hint : (familyForModelHint unicode reg name).driverName =
          "supvan_t50" := by
        simpa [familyForModelHint, found] using loaded.defaultFamily
      have series : (familyForModelHint unicode reg "T50 Series").driverName =
          "supvan_t50" :=
        familyForModelHint_unmatched loaded (by decide) (by decide +kernel)
      have resolved : ¬ IsUnresolved unicode name := fun unresolved => by
        obtain ⟨entry, inTable, starts⟩ :=
          exists_starts_of_isUnresolved unresolved
        exact matchBtPrefix_none loaded found entry inTable starts
      simp only [btModelForName, found, Option.map_none, Option.getD_none]
      rw [driverForDevice_deviceIdOf _ _ (by decide), series, hint]
      simp [resolved]
  | some q =>
      obtain ⟨entry, inTable, starts, comes⟩ :=
        matchBtPrefix_some loaded found
      have hint : (familyForModelHint unicode reg name).driverName =
          entry.family := by
        simpa [familyForModelHint, found] using comes.family
      have ⟨ascii, noSeparator, _⟩ := shippedBtNames_ascii entry inTable
      simp only [btModelForName, found, Option.map_some, Option.getD_some,
        comes.model]
      rw [driverForDevice_deviceIdOf _ _ noSeparator, hint,
        isUnresolved_iff_of_starts inTable starts]
      by_cases lost : entry.model ∈ unresolvedModels
      · obtain ⟨family, unmatched⟩ :=
          shippedBtNames_unresolved entry inTable lost
        rw [familyForModelHint_unmatched loaded ascii unmatched, family]
        simp [lost]
      · simp [familyForModelHint_resolved loaded inTable lost, lost]

end Loaded

/-- The shipped table loads, and then the two ways to a family agree on every
name that is not one of a T80 Pro or a T80 Max. -/
theorem driverForDevice_agrees_iff (unicode : UnicodeLower) :
    ∃ reg, buildRegistry unicode embeddedModels "<embedded>" = .ok reg ∧
      ∀ name bt ble,
        let p : LogicalPrinter := ⟨name, none, bt, ble⟩
        driverForDevice unicode reg (p.discovered unicode reg).deviceId p.uri =
            some (familyForModelHint unicode reg name).driverName ↔
          ¬ IsUnresolved unicode name := by
  obtain ⟨reg, built, loaded⟩ :=
    buildRegistry_ok unicode embeddedModels_closed "<embedded>"
  exact ⟨reg, built, announced_driver_iff loaded⟩

/-- A T80 Pro on Bluetooth gets the driver of the T50 series. -/
theorem driverForDevice_disagrees :
    let unicode : UnicodeLower := fun _ c _ => [c]
    ¬ ∃ reg, buildRegistry unicode embeddedModels "<embedded>" = .ok reg ∧
      ∀ name bt ble,
        let p : LogicalPrinter := ⟨name, none, bt, ble⟩
        driverForDevice unicode reg (p.discovered unicode reg).deviceId p.uri =
          some (familyForModelHint unicode reg name).driverName := by
  intro unicode
  rintro ⟨reg, built, agree⟩
  obtain ⟨reg', built', loaded⟩ :=
    buildRegistry_ok unicode embeddedModels_closed "<embedded>"
  obtain rfl : reg = reg' := Except.ok.inj (built.symm.trans built')
  have resolved := (announced_driver_iff loaded "T0171A2501010001"
    (some ⟨"A4:93:40:11:22:33", "T0171A2501010001"⟩) none).mp (agree _ _ _)
  exact resolved ⟨"t0171", by decide, by decide⟩

end SupvanCups
