import SupvanCups.ModelTable
import Mathlib.Data.List.Forall2
import Mathlib.Data.List.Nodup

/-!
# The longest prefix wins

The rows of a table are its advertised-name prefixes with the model and the
family they stand for, in file order.  A name resolves to the first row among
those with the longest prefix of the name.  Where no prefix is listed twice
there is only one such row, and the order of the file does not matter.
-/

namespace SupvanCups

open PrefixTable

/-! ### The rows of a table -/

/-- A listed prefix, in lower case, with what its entry says. -/
structure PrefixRow where
  prefixText : String
  model : String
  family : String
  deriving DecidableEq

def BtNameToml.rows (unicode : UnicodeLower) (entry : BtNameToml) :
    List PrefixRow :=
  entry.prefixes.map fun p =>
    ⟨toLowercase unicode p, entry.model, entry.family⟩

def ModelsToml.rows (unicode : UnicodeLower) (toml : ModelsToml) :
    List PrefixRow :=
  toml.btNames.flatMap (·.rows unicode)

/-- The row of a registered prefix. -/
def Registry.row (reg : Registry) (p : BtPrefix reg.families.length) :
    PrefixRow :=
  ⟨p.prefixText, p.model, (reg.families.get p.familyIdx).driverName⟩

/-- The first of the rows with the longest prefix of a name. -/
def ModelsToml.longestRow (unicode : UnicodeLower) (toml : ModelsToml)
    (name : String) : Option PrefixRow :=
  (toml.rows unicode).find? fun row =>
    LongestMatch (·.prefixText.toList) (·.prefixText.utf8ByteSize)
      (toml.rows unicode) (toLowercase unicode name).toList row

/-! ### What loading a table makes of its rows -/

/-- Successful steps, one for each element. -/
theorem forall₂_of_mapM_ok {ε α β : Type} {f : α → Except ε β} {xs : List α}
    {ys : List β} (done : xs.mapM f = .ok ys) :
    List.Forall₂ (fun x y => f x = .ok y) xs ys := by
  induction xs generalizing ys with
  | nil =>
      cases done
      exact .nil
  | cons x xs ih =>
      rw [List.mapM_cons] at done
      cases first : f x with
      | error error => simp [first, bind, Except.bind] at done
      | ok y =>
          cases rest : xs.mapM f with
          | error error => simp [first, rest, bind, Except.bind] at done
          | ok zs =>
              simp only [first, rest, bind, Except.bind, pure, Except.pure,
                Except.ok.injEq] at done
              subst done
              exact .cons first (ih rest)

/-- What each step shows of its element, and its result of that element. -/
theorem forall₂_results {α β γ : Type} {step : α → β → Prop} {known : α → Prop}
    {shown : α → γ} {read : β → γ} {xs : List α} {ys : List β}
    (each : List.Forall₂ step xs ys)
    (result : ∀ x y, step x y → known x ∧ read y = shown x) :
    (∀ x ∈ xs, known x) ∧ ys.map read = xs.map shown := by
  induction each with
  | nil => simp
  | cons here _ ih =>
      obtain ⟨first, reads⟩ := result _ _ here
      exact ⟨List.forall_mem_cons.mpr ⟨first, ih.1⟩, congrArg₂ _ reads ih.2⟩

theorem familyIndex_isSome_iff {families : List DriverFamily}
    {name : String} :
    (familyIndex families name).isSome ↔
      ∃ f ∈ families, f.driverName = name := by
  simp only [familyIndex, List.find?_isSome, List.mem_reverse,
    List.mem_finRange, true_and, decide_eq_true_eq]
  constructor
  · rintro ⟨i, named⟩
    exact ⟨families[i], List.getElem_mem _, named⟩
  · rintro ⟨f, member, named⟩
    obtain ⟨i, bound, rfl⟩ := List.mem_iff_getElem.mp member
    exact ⟨⟨i, bound⟩, named⟩

/-- What a registry keeps of the table it was built from. -/
structure Registry.BuiltFrom (reg : Registry) (unicode : UnicodeLower)
    (toml : ModelsToml) : Prop where
  closed : toml.Closed
  families : reg.families = driverFamilies toml.families
  models : reg.models = toml.models.map fun m => ⟨m.pid, m.name⟩
  defaultFamily : reg.defaultFamily.driverName = "supvan_t50"
  prefixes : ∃ listed, listed.map reg.row = toml.rows unicode ∧
    reg.btPrefixes = longestFirst (·.prefixText.utf8ByteSize) listed

section Build

variable {unicode : UnicodeLower} {toml : ModelsToml} {source : String}

theorem usbModel_ok {families : List DriverFamily} {m : ModelToml}
    {model : UsbModel} (done : usbModel source families m = .ok model) :
    (familyIndex families m.family).isSome ∧ model = ⟨m.pid, m.name⟩ := by
  unfold usbModel at done
  split at done
  · cases done
  · next i found =>
      cases done
      exact ⟨by simp [found], rfl⟩

/-- The rows of an entry are those of the prefixes registered for it. -/
theorem rows_of_entryPrefixes {families : List DriverFamily}
    {entry : BtNameToml} {prefixes : List (BtPrefix families.length)}
    (done : entryPrefixes unicode source families entry = .ok prefixes) :
    (familyIndex families entry.family).isSome ∧
      prefixes.map (fun p => (⟨p.prefixText, p.model,
        families[p.familyIdx].driverName⟩ : PrefixRow)) =
        entry.rows unicode := by
  obtain ⟨i, found, rfl⟩ := entryPrefixes_ok done
  refine ⟨by simp [found], ?_⟩
  simp only [BtNameToml.rows, List.map_map, Function.comp_def,
    ← familyIndex_driverName found]

theorem builtFrom_of_buildRegistry {reg : Registry}
    (built : buildRegistry unicode toml source = .ok reg) :
    reg.BuiltFrom unicode toml := by
  unfold buildRegistry at built
  cases defaultFound :
      familyIndex (driverFamilies toml.families) "supvan_t50" with
  | none =>
      simp only [defaultFound] at built
      cases built
  | some defaultIdx =>
      simp only [defaultFound, pure_bind] at built
      cases modelsDone : toml.models.mapM
          (usbModel source (driverFamilies toml.families)) with
      | error error =>
          simp only [modelsDone] at built
          cases built
      | ok models =>
          cases rowsDone : toml.btNames.mapM (entryPrefixes unicode source
              (driverFamilies toml.families)) with
          | error error =>
              simp only [modelsDone, rowsDone] at built
              cases built
          | ok prefixes =>
              simp only [modelsDone, rowsDone] at built
              cases built
              obtain ⟨modelsKnown, models⟩ := forall₂_results
                (forall₂_of_mapM_ok modelsDone) fun m model => usbModel_ok
              obtain ⟨entriesKnown, rows⟩ := forall₂_results
                (forall₂_of_mapM_ok rowsDone)
                fun entry listed => rows_of_entryPrefixes
              exact
                { closed :=
                    { defaultFamily := by simp [defaultFound]
                      models := modelsKnown
                      btNames := entriesKnown }
                  families := rfl
                  models := by simpa using models
                  defaultFamily := familyIndex_driverName defaultFound
                  prefixes := ⟨prefixes.flatten, by
                    rw [List.map_flatten, ModelsToml.rows, List.flatMap_def,
                      ← rows]
                    rfl, rfl⟩ }

theorem loadedFrom_of_buildRegistry {reg : Registry}
    (built : buildRegistry unicode toml source = .ok reg) :
    reg.LoadedFrom unicode toml := by
  obtain ⟨other, otherBuilt, loaded⟩ := buildRegistry_ok unicode
    (builtFrom_of_buildRegistry built).closed source
  rwa [Except.ok.inj (built.symm.trans otherBuilt)]

end Build

/-! ### What a name resolves to -/

section Lookup

variable {unicode : UnicodeLower} {reg : Registry} {toml : ModelsToml}

/-- The prefix a name matches is that of the longest row. -/
theorem matchBtPrefix_row (built : reg.BuiltFrom unicode toml)
    (name : String) :
    (matchBtPrefix unicode reg name).map reg.row =
      toml.longestRow unicode name := by
  obtain ⟨listed, rows, sorted⟩ := built.prefixes
  have sameTest : ∀ p : BtPrefix reg.families.length,
      LongestMatch (·.prefixText.toList) (·.prefixText.utf8ByteSize) listed
          (toLowercase unicode name).toList p ↔
        LongestMatch (·.prefixText.toList) (·.prefixText.utf8ByteSize)
          (listed.map reg.row) (toLowercase unicode name).toList
          (reg.row p) := by
    simp [LongestMatch, Registry.row]
  rw [matchBtPrefix, sorted, firstMatch_longestFirst, ModelsToml.longestRow,
    ← rows, List.find?_map]
  congr 2
  ext p
  exact decide_eq_decide.mpr (sameTest p)

theorem btModelForName_eq (built : reg.BuiltFrom unicode toml)
    (name : String) :
    btModelForName unicode reg name =
      (toml.longestRow unicode name).map (·.model) := by
  rw [← matchBtPrefix_row built, btModelForName, Option.map_map]
  rfl

theorem familyForModelHint_eq (built : reg.BuiltFrom unicode toml)
    (name : String) :
    (familyForModelHint unicode reg name).driverName =
      (toml.longestRow unicode name).elim "supvan_t50" (·.family) := by
  rw [← matchBtPrefix_row built, familyForModelHint]
  cases matchBtPrefix unicode reg name with
  | none => exact built.defaultFamily
  | some p => rfl

/-! ### The table in another order -/

/-- The same entry with its prefixes in another order. -/
structure BtNameToml.Reordered (entry other : BtNameToml) : Prop where
  model : entry.model = other.model
  family : entry.family = other.family
  prefixes : entry.prefixes.Perm other.prefixes

/-- The same table with its entries and their prefixes in another order. -/
structure ModelsToml.Reordered (toml other : ModelsToml) : Prop where
  families : toml.families.Perm other.families
  models : toml.models.Perm other.models
  btNames : ∃ moved, toml.btNames.Perm moved ∧
    List.Forall₂ BtNameToml.Reordered moved other.btNames

/-- No prefix is listed twice, letter case aside, and no two families have one
name. -/
structure ModelsToml.Distinct (unicode : UnicodeLower) (toml : ModelsToml) :
    Prop where
  prefixes : ((toml.rows unicode).map (·.prefixText)).Nodup
  families : (toml.families.map (·.name)).Nodup

variable {other : ModelsToml}

theorem BtNameToml.Reordered.rows_perm {entry moved : BtNameToml}
    (reordered : entry.Reordered moved) :
    (entry.rows unicode).Perm (moved.rows unicode) := by
  unfold BtNameToml.rows
  rw [reordered.model, reordered.family]
  exact reordered.prefixes.map _

theorem rows_perm_of_forall₂ {entries moved : List BtNameToml}
    (each : List.Forall₂ BtNameToml.Reordered entries moved) :
    (entries.flatMap (·.rows unicode)).Perm
      (moved.flatMap (·.rows unicode)) := by
  induction each with
  | nil => exact .refl _
  | cons here _ ih =>
      rw [List.flatMap_cons, List.flatMap_cons]
      exact here.rows_perm.append ih

theorem ModelsToml.Reordered.rows_perm (reordered : toml.Reordered other) :
    (toml.rows unicode).Perm (other.rows unicode) := by
  obtain ⟨moved, permuted, each⟩ := reordered.btNames
  exact (permuted.flatMap_right _).trans (rows_perm_of_forall₂ each)

/-- An entry of the reordered table is one of the table, reordered. -/
theorem ModelsToml.Reordered.exists_entry (reordered : toml.Reordered other)
    {entry : BtNameToml} (member : entry ∈ other.btNames) :
    ∃ original ∈ toml.btNames, original.Reordered entry := by
  obtain ⟨moved, permuted, each⟩ := reordered.btNames
  obtain ⟨i, bound, rfl⟩ := List.mem_iff_getElem.mp member
  have inMoved : i < moved.length := each.length_eq ▸ bound
  exact ⟨moved[i], permuted.mem_iff.mpr (List.getElem_mem inMoved),
    each.get inMoved bound⟩

theorem ModelsToml.Reordered.families_perm (reordered : toml.Reordered other) :
    (driverFamilies toml.families).Perm (driverFamilies other.families) :=
  reordered.families.map _

theorem ModelsToml.Reordered.closed (reordered : toml.Reordered other)
    (closed : toml.Closed) : other.Closed := by
  have known : ∀ name,
      (familyIndex (driverFamilies toml.families) name).isSome →
      (familyIndex (driverFamilies other.families) name).isSome := by
    intro name found
    rw [familyIndex_isSome_iff] at found ⊢
    obtain ⟨f, member, named⟩ := found
    exact ⟨f, reordered.families_perm.mem_iff.mp member, named⟩
  refine ⟨known _ closed.defaultFamily, fun m member => ?_,
    fun entry member => ?_⟩
  · exact known _ (closed.models m (reordered.models.mem_iff.mpr member))
  · obtain ⟨original, inTable, same⟩ := reordered.exists_entry member
    rw [← same.family]
    exact known _ (closed.btNames original inTable)

/-- A start of a text that is as large as the text is the text. -/
theorem eq_of_prefix_of_size {start text : String}
    (starts : start.toList <+: text.toList)
    (size : start.utf8ByteSize = text.utf8ByteSize) : start = text := by
  obtain ⟨rest, split⟩ := starts
  have joined : text = start ++ String.ofList rest := by
    rw [← String.toList_inj, String.toList_append, String.toList_ofList, split]
  have empty : (String.ofList rest).utf8ByteSize = 0 := by
    rw [joined, String.utf8ByteSize_append] at size
    omega
  rw [joined, String.utf8ByteSize_eq_zero_iff.mp empty, String.append_empty]

/-- Rows of distinct prefixes resolve a name alike in every order. -/
theorem longestRow_reordered (distinct : toml.Distinct unicode)
    (reordered : toml.Reordered other) (name : String) :
    other.longestRow unicode name = toml.longestRow unicode name := by
  apply find?_longestMatch_perm _ reordered.rows_perm
  intro p pListed q qListed starts size
  exact List.inj_on_of_nodup_map distinct.prefixes pListed qListed
    (eq_of_prefix_of_size starts size)

theorem familyForModelHint_mem (reg : Registry) (name : String) :
    familyForModelHint unicode reg name ∈ reg.families := by
  unfold familyForModelHint
  cases matchBtPrefix unicode reg name with
  | none => exact List.getElem_mem _
  | some p => exact List.getElem_mem _

/-- Families of distinct names are found alike in every order. -/
theorem family_eq_of_driverName (distinct : toml.Distinct unicode)
    {f g : DriverFamily} (fListed : f ∈ driverFamilies toml.families)
    (gListed : g ∈ driverFamilies toml.families)
    (named : f.driverName = g.driverName) : f = g := by
  have names : ((driverFamilies toml.families).map (·.driverName)).Nodup := by
    simpa [driverFamilies, Function.comp_def] using distinct.families
  exact List.inj_on_of_nodup_map names fListed gListed named

/-- A name matches a prefix exactly when an entry lists one that starts it, and
then the longest of these, with the model and the family of its entry. -/
structure LongestWins (unicode : UnicodeLower) (reg : Registry)
    (toml : ModelsToml) (name : String) : Prop where
  found : (matchBtPrefix unicode reg name).isSome ↔
    ∃ entry ∈ toml.btNames, entry.Starts unicode name
  declared : ∀ p, matchBtPrefix unicode reg name = some p →
    ∃ entry ∈ toml.btNames, p.ComesFrom unicode entry
  starts : ∀ p, matchBtPrefix unicode reg name = some p →
    p.prefixText.toList <+: (toLowercase unicode name).toList
  longest : ∀ p, matchBtPrefix unicode reg name = some p →
    ∀ entry ∈ toml.btNames, ∀ text ∈ entry.prefixes,
      (toLowercase unicode text).toList <+:
        (toLowercase unicode name).toList →
      (toLowercase unicode text).utf8ByteSize ≤ p.prefixText.utf8ByteSize

theorem mem_rows {row : PrefixRow} :
    row ∈ toml.rows unicode ↔ ∃ entry ∈ toml.btNames,
      ∃ text ∈ entry.prefixes,
        ⟨toLowercase unicode text, entry.model, entry.family⟩ = row := by
  simp [ModelsToml.rows, BtNameToml.rows]

theorem longestRow_some {name : String} {row : PrefixRow}
    (found : toml.longestRow unicode name = some row) :
    LongestMatch (·.prefixText.toList) (·.prefixText.utf8ByteSize)
      (toml.rows unicode) (toLowercase unicode name).toList row := by
  have passes := List.find?_some found
  exact of_decide_eq_true passes

theorem longestWins (built : reg.BuiltFrom unicode toml)
    (loaded : reg.LoadedFrom unicode toml) (name : String) :
    LongestWins unicode reg toml name := by
  have longest : ∀ p, matchBtPrefix unicode reg name = some p →
      LongestMatch (·.prefixText.toList) (·.prefixText.utf8ByteSize)
        (toml.rows unicode) (toLowercase unicode name).toList
        (reg.row p) := by
    intro p found
    have resolved := matchBtPrefix_row built name
    rw [found, Option.map_some] at resolved
    exact longestRow_some resolved.symm
  refine ⟨?_, ?_, fun p found => (longest p found).1, ?_⟩
  · cases found : matchBtPrefix unicode reg name with
    | none => simpa using matchBtPrefix_none loaded found
    | some p =>
        obtain ⟨entry, inTable, starts, _⟩ := matchBtPrefix_some loaded found
        exact iff_of_true rfl ⟨entry, inTable, starts⟩
  · intro p found
    obtain ⟨entry, inTable, _, comes⟩ := matchBtPrefix_some loaded found
    exact ⟨entry, inTable, comes⟩
  · intro p found entry inTable text isListed starts
    exact (longest p found).2 _
      (mem_rows.mpr ⟨entry, inTable, text, isListed, rfl⟩) starts

end Lookup

/-- The table loads in any other order too, and the order changes neither the
model nor the family of any name. -/
def OrderFree (unicode : UnicodeLower) (reg : Registry) (toml : ModelsToml) :
    Prop :=
  ∀ other source, toml.Reordered other →
    ∃ otherReg, buildRegistry unicode other source = .ok otherReg ∧
      ∀ name,
        btModelForName unicode otherReg name =
          btModelForName unicode reg name ∧
        familyForModelHint unicode otherReg name =
          familyForModelHint unicode reg name

/-- In a table that loads the longest listed prefix of a name wins, and without
repeated prefixes or family names the order of the table does not matter. -/
theorem matchBtPrefix_longestWins {unicode : UnicodeLower} {toml : ModelsToml}
    {source : String} {reg : Registry}
    (built : buildRegistry unicode toml source = .ok reg) :
    (∀ name, LongestWins unicode reg toml name) ∧
      (toml.Distinct unicode → OrderFree unicode reg toml) := by
  have from_ := builtFrom_of_buildRegistry built
  refine ⟨longestWins from_ (loadedFrom_of_buildRegistry built), ?_⟩
  intro distinct other otherSource reordered
  obtain ⟨otherReg, otherBuilt, _⟩ := buildRegistry_ok unicode
    (reordered.closed from_.closed) otherSource
  have otherFrom := builtFrom_of_buildRegistry otherBuilt
  refine ⟨otherReg, otherBuilt, fun name => ⟨?_, ?_⟩⟩
  · rw [btModelForName_eq otherFrom, btModelForName_eq from_,
      longestRow_reordered distinct reordered]
  · apply family_eq_of_driverName distinct
    · rw [reordered.families_perm.mem_iff, ← otherFrom.families]
      exact familyForModelHint_mem otherReg name
    · rw [← from_.families]
      exact familyForModelHint_mem reg name
    · rw [familyForModelHint_eq otherFrom, familyForModelHint_eq from_,
        longestRow_reordered distinct reordered]

/-- A table in which one prefix is the start of another. -/
theorem matchBtPrefix_longestWins_overlapping :
    let unicode : UnicodeLower := fun _ c _ => [c]
    let toml : ModelsToml :=
      { families := [⟨"supvan_t50", "Supvan T50 Series"⟩,
          ⟨"supvan_t80", "Supvan T80 Series"⟩]
        models := []
        btNames := [⟨"T50M", "supvan_t50", ["t0021", "T50M"]⟩,
          ⟨"T80M", "supvan_t80", ["t0021b"]⟩] }
    ∃ reg, buildRegistry unicode toml "models.toml" = .ok reg ∧
      (∀ name, LongestWins unicode reg toml name) ∧
      OrderFree unicode reg toml := by
  intro unicode toml
  have closed : toml.Closed := ⟨by decide, by decide, by decide⟩
  obtain ⟨reg, built, _⟩ := buildRegistry_ok unicode closed "models.toml"
  have ⟨longest, orderFree⟩ := matchBtPrefix_longestWins built
  exact ⟨reg, built, longest, orderFree ⟨by decide, by decide⟩⟩

end SupvanCups
