import SupvanCups.PrefixTable
import Mathlib.Data.List.FinRange
import Mathlib.Data.String.Basic

/-!
# The model table

A table names the driver families and says, for each printer model, which
advertised names it starts.  Loading checks that every family a model refers
to exists and sorts the advertised-name prefixes, longest first.  A name is
then resolved to a model and a family through the first prefix that starts it.
-/

namespace SupvanCups

open PrefixTable

/-! ### Lower case -/

/-- What the standard library's tables make of a character outside ASCII: it
can depend on the text before it and on the text after it. -/
abbrev UnicodeLower := List Char → Char → List Char → List Char

/-- The lower case of `after`, which stands behind `before`. -/
def lowercaseAfter (unicode : UnicodeLower) (before : List Char) :
    List Char → List Char
  | [] => []
  | c :: after =>
      (if c.val < 128 then [c.toLower] else unicode before c after) ++
        lowercaseAfter unicode (before ++ [c]) after

/-- `str::to_lowercase`. -/
def toLowercase (unicode : UnicodeLower) (text : String) : String :=
  .ofList (lowercaseAfter unicode [] text.toList)

def IsAscii (text : String) : Prop :=
  ∀ c ∈ text.toList, c.val < 128

instance (text : String) : Decidable (IsAscii text) :=
  List.decidableBAll _ _

theorem lowercaseAfter_ascii (unicode : UnicodeLower) (text : List Char)
    (ascii : ∀ c ∈ text, c.val < 128) (before : List Char) :
    lowercaseAfter unicode before text = text.map Char.toLower := by
  induction text generalizing before with
  | nil => rfl
  | cons c text ih =>
      have ⟨head, tail⟩ := List.forall_mem_cons.mp ascii
      simp [lowercaseAfter, head, ih tail]

theorem toLowercase_ascii (unicode : UnicodeLower) {text : String}
    (ascii : IsAscii text) :
    (toLowercase unicode text).toList = text.toList.map Char.toLower := by
  simp [toLowercase, lowercaseAfter_ascii unicode _ ascii]

/-! ### The table as it is written -/

structure FamilyToml where
  name : String
  description : String

structure ModelToml where
  pid : String
  name : String
  family : String

structure BtNameToml where
  model : String
  family : String
  prefixes : List String

structure ModelsToml where
  families : List FamilyToml
  models : List ModelToml
  btNames : List BtNameToml

/-! ### The registry -/

/-- A driver family groups models sharing the same printhead. -/
structure DriverFamily where
  driverName : String
  makeAndModel : String

structure UsbModel where
  pid : String
  name : String

/-- One advertised-name prefix and the printer it identifies. -/
structure BtPrefix (familyCount : Nat) where
  prefixText : String
  model : String
  familyIdx : Fin familyCount

/-- Every prefix refers to a family of the registry, and so does the default. -/
structure Registry where
  families : List DriverFamily
  models : List UsbModel
  /-- Longest prefix first. -/
  btPrefixes : List (BtPrefix families.length)
  defaultFamilyIdx : Fin families.length

/-- The index of a family by its name: of two with one name, the later. -/
def familyIndex (families : List DriverFamily) (name : String) :
    Option (Fin families.length) :=
  (List.finRange families.length).reverse.find? fun i =>
    families[i].driverName = name

def driverFamilies (families : List FamilyToml) : List DriverFamily :=
  families.map fun f => ⟨f.name, f.description⟩

def entryPrefixes (unicode : UnicodeLower) (source : String)
    (families : List DriverFamily) (entry : BtNameToml) :
    Except String (List (BtPrefix families.length)) :=
  match familyIndex families entry.family with
  | none =>
      throw (source ++ ": bt_names entry '" ++ entry.model ++
        "' references unknown family '" ++ entry.family ++ "'")
  | some familyIdx =>
      pure (entry.prefixes.map fun p =>
        ⟨toLowercase unicode p, entry.model, familyIdx⟩)

/-- A USB model of the table, whose family must exist. -/
def usbModel (source : String) (families : List DriverFamily)
    (m : ModelToml) : Except String UsbModel :=
  match familyIndex families m.family with
  | none =>
      throw (source ++ ": model '" ++ m.name ++
        "' references unknown family '" ++ m.family ++ "'")
  | some _ => pure ⟨m.pid, m.name⟩

/-- Check a parsed table and turn it into a registry. -/
def buildRegistry (unicode : UnicodeLower) (toml : ModelsToml)
    (source : String) : Except String Registry := do
  let families := driverFamilies toml.families
  let defaultFamilyIdx ←
    match familyIndex families "supvan_t50" with
    | none => throw (source ++ ": no 'supvan_t50' family")
    | some i => pure i
  let models ← toml.models.mapM (usbModel source families)
  let btPrefixes ← toml.btNames.mapM (entryPrefixes unicode source families)
  pure
    { families
      models
      btPrefixes :=
        longestFirst (·.prefixText.utf8ByteSize) btPrefixes.flatten
      defaultFamilyIdx }

/-! ### Looking a name up -/

def Registry.defaultFamily (reg : Registry) : DriverFamily :=
  reg.families[reg.defaultFamilyIdx]

/-- Longest matching advertised-name prefix, if any. -/
def matchBtPrefix (unicode : UnicodeLower) (reg : Registry) (name : String) :
    Option (BtPrefix reg.families.length) :=
  firstMatch (·.prefixText.toList) reg.btPrefixes
    (toLowercase unicode name).toList

def familyForModelHint (unicode : UnicodeLower) (reg : Registry)
    (name : String) : DriverFamily :=
  (matchBtPrefix unicode reg name).elim reg.defaultFamily fun p =>
    reg.families[p.familyIdx]

/-- The marketing model name behind an advertised name. -/
def btModelForName (unicode : UnicodeLower) (reg : Registry)
    (name : String) : Option String :=
  (matchBtPrefix unicode reg name).map (·.model)

/-- Parse the MDL field from an IEEE 1284 device ID string. -/
def parseMdl (deviceId : String) : Option String :=
  ((deviceId.toList.splitOn ';').findSome? fun field =>
    "MDL:".toList.isPrefixOf? field).map String.ofList

/-! ### What a loaded registry knows -/

/-- A list of steps that all succeed: the results are those of the steps. -/
theorem mapM_ok_of_forall {f : α → Except ε β} {xs : List α}
    (each : ∀ x ∈ xs, ∃ y, f x = .ok y) :
    ∃ ys, xs.mapM f = .ok ys ∧ (∀ y ∈ ys, ∃ x ∈ xs, f x = .ok y) ∧
      ∀ x ∈ xs, ∃ y ∈ ys, f x = .ok y := by
  induction xs with
  | nil => exact ⟨[], rfl, by simp, by simp⟩
  | cons x xs ih =>
      obtain ⟨⟨y, first⟩, rest⟩ := List.forall_mem_cons.mp each
      obtain ⟨ys, done, back, forth⟩ := ih rest
      refine ⟨y :: ys, by simp [List.mapM_cons, first, done]; rfl,
        List.forall_mem_cons.mpr ⟨⟨x, by simp, first⟩, ?_⟩,
        List.forall_mem_cons.mpr ⟨⟨y, by simp, first⟩, ?_⟩⟩
      · intro z member
        obtain ⟨w, inList, result⟩ := back z member
        exact ⟨w, List.mem_cons_of_mem x inList, result⟩
      · intro w member
        obtain ⟨z, inList, result⟩ := forth w member
        exact ⟨z, List.mem_cons_of_mem y inList, result⟩

theorem familyIndex_driverName {families : List DriverFamily} {name : String}
    {i : Fin families.length} (found : familyIndex families name = some i) :
    families[i].driverName = name := by
  simpa using List.find?_some found

structure BtPrefix.ComesFrom {reg : Registry} (unicode : UnicodeLower)
    (p : BtPrefix reg.families.length) (entry : BtNameToml) : Prop where
  prefixText : ∃ text ∈ entry.prefixes, p.prefixText = toLowercase unicode text
  model : p.model = entry.model
  family : reg.families[p.familyIdx].driverName = entry.family

structure Registry.LoadedFrom (reg : Registry) (unicode : UnicodeLower)
    (toml : ModelsToml) : Prop where
  defaultFamily : reg.defaultFamily.driverName = "supvan_t50"
  sound : ∀ p ∈ reg.btPrefixes, ∃ entry ∈ toml.btNames,
    p.ComesFrom unicode entry
  complete : ∀ entry ∈ toml.btNames, ∀ text ∈ entry.prefixes,
    ∃ p ∈ reg.btPrefixes, p.prefixText = toLowercase unicode text

/-- Every family that the table refers to is one it defines. -/
structure ModelsToml.Closed (toml : ModelsToml) : Prop where
  defaultFamily :
    (familyIndex (driverFamilies toml.families) "supvan_t50").isSome
  models : ∀ m ∈ toml.models,
    (familyIndex (driverFamilies toml.families) m.family).isSome
  btNames : ∀ entry ∈ toml.btNames,
    (familyIndex (driverFamilies toml.families) entry.family).isSome

theorem entryPrefixes_ok {unicode : UnicodeLower} {source : String}
    {families : List DriverFamily} {entry : BtNameToml}
    {prefixes : List (BtPrefix families.length)}
    (done : entryPrefixes unicode source families entry = .ok prefixes) :
    ∃ i, familyIndex families entry.family = some i ∧
      prefixes = entry.prefixes.map fun p =>
        ⟨toLowercase unicode p, entry.model, i⟩ := by
  unfold entryPrefixes at done
  split at done
  · cases done
  · next i found =>
      cases done
      exact ⟨i, found, rfl⟩

/-- A table that defines what it refers to loads. -/
theorem buildRegistry_ok (unicode : UnicodeLower) {toml : ModelsToml}
    (closed : toml.Closed) (source : String) :
    ∃ reg, buildRegistry unicode toml source = .ok reg ∧
      reg.LoadedFrom unicode toml := by
  obtain ⟨i, defaultFound⟩ := Option.isSome_iff_exists.mp closed.defaultFamily
  obtain ⟨models, modelsDone, -⟩ := mapM_ok_of_forall
    (f := usbModel source (driverFamilies toml.families)) fun m member => by
      obtain ⟨j, found⟩ :=
        Option.isSome_iff_exists.mp (closed.models m member)
      exact ⟨⟨m.pid, m.name⟩, by simp [usbModel, found, pure, Except.pure]⟩
  obtain ⟨rows, rowsDone, back, forth⟩ := mapM_ok_of_forall
    (f := entryPrefixes unicode source (driverFamilies toml.families))
    fun entry member => by
      obtain ⟨j, found⟩ :=
        Option.isSome_iff_exists.mp (closed.btNames entry member)
      exact ⟨_, by simp [entryPrefixes, found, pure, Except.pure]; rfl⟩
  refine ⟨_, by
    simp only [buildRegistry, defaultFound, modelsDone, rowsDone]; rfl,
    familyIndex_driverName defaultFound, ?_, ?_⟩
  · intro p member
    obtain ⟨row, inRows, inRow⟩ :=
      List.mem_flatten.mp ((mem_longestFirst _ _ _).mp member)
    obtain ⟨entry, inTable, done⟩ := back row inRows
    obtain ⟨j, found, rfl⟩ := entryPrefixes_ok done
    obtain ⟨text, listed, rfl⟩ := List.mem_map.mp inRow
    exact ⟨entry, inTable, ⟨text, listed, rfl⟩, rfl,
      familyIndex_driverName found⟩
  · intro entry inTable text listed
    obtain ⟨row, inRows, done⟩ := forth entry inTable
    obtain ⟨j, found, rfl⟩ := entryPrefixes_ok done
    refine ⟨_, (mem_longestFirst _ _ _).mpr (List.mem_flatten.mpr
      ⟨_, inRows, List.mem_map_of_mem listed⟩), rfl⟩

/-! ### What a name resolves to -/

/-- Some prefix of the entry starts the name, letter case aside. -/
def BtNameToml.Starts (unicode : UnicodeLower) (entry : BtNameToml)
    (name : String) : Prop :=
  ∃ text ∈ entry.prefixes,
    (toLowercase unicode text).toList <+: (toLowercase unicode name).toList

section Loaded

variable {unicode : UnicodeLower} {reg : Registry} {toml : ModelsToml}
  (loaded : reg.LoadedFrom unicode toml)

include loaded

theorem matchBtPrefix_some {name : String}
    {p : BtPrefix reg.families.length}
    (found : matchBtPrefix unicode reg name = some p) :
    ∃ entry ∈ toml.btNames, entry.Starts unicode name ∧
      p.ComesFrom unicode entry := by
  have ⟨member, starts⟩ := firstMatch_some found
  obtain ⟨entry, inTable, comes⟩ := loaded.sound p member
  obtain ⟨text, listed, lowered⟩ := comes.prefixText
  exact ⟨entry, inTable, ⟨text, listed, lowered ▸ starts⟩, comes⟩

theorem matchBtPrefix_none {name : String}
    (missing : matchBtPrefix unicode reg name = none) :
    ∀ entry ∈ toml.btNames, ¬ entry.Starts unicode name := by
  rintro entry inTable ⟨text, listed, starts⟩
  obtain ⟨p, member, lowered⟩ := loaded.complete entry inTable text listed
  exact firstMatch_none_iff.mp missing p member (by rwa [lowered])

/-- Where the entries that start a name are of one family, the name is of that
family; where there are none, it is of the default family. -/
theorem familyForModelHint_driverName {name family : String}
    (agree : ∀ entry ∈ toml.btNames, entry.Starts unicode name →
      entry.family = family)
    (covered : (∃ entry ∈ toml.btNames, entry.Starts unicode name) ∨
      family = "supvan_t50") :
    (familyForModelHint unicode reg name).driverName = family := by
  unfold familyForModelHint
  cases found : matchBtPrefix unicode reg name with
  | none =>
      have unmatched := matchBtPrefix_none loaded found
      rcases covered with ⟨entry, inTable, starts⟩ | rfl
      · exact absurd starts (unmatched entry inTable)
      · exact loaded.defaultFamily
  | some p =>
      obtain ⟨entry, inTable, starts, comes⟩ := matchBtPrefix_some loaded found
      exact comes.family.trans (agree entry inTable starts)

end Loaded

end SupvanCups
