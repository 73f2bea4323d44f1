import SupvanCups.BitPacking
import SupvanCups.LongestPrefix

/-!
# Loading a table from its text

The text of a table is parsed, its families are converted, and only then is
anything checked.  Converting a family turns its name into a C string and its
media sizes from millimetres into hundredths.  Both can panic: the name on a
NUL character, a size on overflow, if the program was built to check for
that.
-/

namespace SupvanCups

/-! ### The parsed text -/

/-- A family as the text has it. -/
structure FamilyEntry extends FamilyToml where
  dpi : I32
  printheadDots : U32
  /-- Width and height in millimetres. -/
  mediaMm : List (I32 × I32)

structure TableFile where
  families : List FamilyEntry
  models : List ModelToml
  btNames : List BtNameToml

/-- What is checked of a parsed text. -/
def TableFile.toml (file : TableFile) : ModelsToml where
  families := file.families.map (·.toFamilyToml)
  models := file.models
  btNames := file.btNames

/-! ### Converting a family

`none` stands for a panic. -/

/-- What an integer operation does when it overflows: it panics in a build with
overflow checks and wraps in one without. -/
inductive OnOverflow
  | panics
  | wraps
  deriving DecidableEq

def mulI32 (mode : OnOverflow) (a b : I32) : Option I32 :=
  if mode = .panics ∧ a.smulOverflow b then none else some (a * b)

def nul : Char := '\u0000'

/-- `CString::new(text).unwrap()`. -/
def cStringNew (text : String) : Option String :=
  if nul ∈ text.toList then none else some text

/-- A driver family with all that the table says of it. -/
structure LoadedFamily extends DriverFamily where
  dpi : I32
  printheadWidthDots : U32
  mediaNames : List String
  mediaSizes : List (I32 × I32)

/-- The self-describing name of a media size in millimetres. -/
def mediaName (size : I32 × I32) : String :=
  let w := toString size.1.toInt
  let h := toString size.2.toInt
  "om_" ++ w ++ "x" ++ h ++ "mm_" ++ w ++ "x" ++ h ++ "mm"

/-- A media size in hundredths of a millimetre. -/
def mediaSize (mode : OnOverflow) (size : I32 × I32) : Option (I32 × I32) := do
  let w ← mulI32 mode size.1 100#32
  let h ← mulI32 mode size.2 100#32
  pure (w, h)

def loadFamily (mode : OnOverflow) (f : FamilyEntry) :
    Option LoadedFamily := do
  let mediaNames ← f.mediaMm.mapM fun size => cStringNew (mediaName size)
  let mediaSizes ← f.mediaMm.mapM (mediaSize mode)
  let driverName ← cStringNew f.name
  pure
    { driverName
      makeAndModel := f.description
      dpi := f.dpi
      printheadWidthDots := f.printheadDots
      mediaNames
      mediaSizes }

structure LoadedTable where
  families : List LoadedFamily
  registry : Registry

/-- `build_registry` from the text on.  The parser is a parameter; it gives a
value of the schema or an error. -/
def buildRegistryFrom (mode : OnOverflow) (unicode : UnicodeLower)
    (fromStr : String → Except String TableFile) (contents source : String) :
    Option (Except String LoadedTable) :=
  match fromStr contents with
  | .error e => some (throw ("failed to parse " ++ source ++ ": " ++ e))
  | .ok file => do
      let families ← file.families.mapM (loadFamily mode)
      pure ((buildRegistry unicode file.toml source).map fun registry =>
        ⟨families, registry⟩)

/-! ### Where a conversion goes wrong -/

/-- The hundredfold of the number is an `i32`. -/
def FitsHundredfold (mm : I32) : Prop :=
  -21474836 ≤ mm.toInt ∧ mm.toInt ≤ 21474836

/-- The name has no NUL character and, where overflow is checked for, the media
sizes fit. -/
structure FamilyEntry.Convertible (mode : OnOverflow) (f : FamilyEntry) :
    Prop where
  name : nul ∉ f.name.toList
  sizes : mode = .panics → ∀ size ∈ f.mediaMm,
    FitsHundredfold size.1 ∧ FitsHundredfold size.2

theorem cStringNew_isSome_iff (text : String) :
    (cStringNew text).isSome ↔ nul ∉ text.toList := by
  unfold cStringNew
  split <;> simp [*]

theorem mulI32_hundred_isSome_iff (mode : OnOverflow) (mm : I32) :
    (mulI32 mode mm 100#32).isSome ↔
      (mode = .panics → FitsHundredfold mm) := by
  have hundred : (100#32).toInt = 100 := by decide
  have overflows : mm.smulOverflow 100#32 = true ↔ ¬ FitsHundredfold mm := by
    simp only [BitVec.smulOverflow, hundred, FitsHundredfold, Bool.or_eq_true,
      decide_eq_true_eq]
    omega
  unfold mulI32
  by_cases fits : FitsHundredfold mm
  · simp [overflows, fits]
  · by_cases checks : mode = .panics <;> simp [overflows, fits, checks]

theorem mediaSize_isSome_iff (mode : OnOverflow) (size : I32 × I32) :
    (mediaSize mode size).isSome ↔
      (mode = .panics → FitsHundredfold size.1 ∧ FitsHundredfold size.2) := by
  rw [imp_and, ← mulI32_hundred_isSome_iff, ← mulI32_hundred_isSome_iff]
  unfold mediaSize
  cases mulI32 mode size.1 100#32 with
  | none => simp
  | some w => cases mulI32 mode size.2 100#32 <;> simp

theorem mapM_isSome_iff {α β : Type} (f : α → Option β) (xs : List α) :
    (xs.mapM f).isSome ↔ ∀ x ∈ xs, (f x).isSome := by
  induction xs with
  | nil => simp
  | cons x xs ih =>
      rw [List.forall_mem_cons, ← ih, List.mapM_cons]
      cases f x with
      | none => simp
      | some y => cases xs.mapM f <;> simp

/-- A media name is made of digits, signs and letters. -/
theorem nul_notMem_mediaName (size : I32 × I32) :
    nul ∉ (mediaName size).toList := by
  have inNat : ∀ n : Nat, nul ∉ n.repr.toList := by
    intro n member
    rw [Nat.toList_repr] at member
    exact absurd (Nat.isDigit_of_mem_toDigits (by decide) (by decide) member)
      (by decide)
  have inInt : ∀ i : Int, nul ∉ (toString i).toList := by
    intro i
    rw [Int.toString_eq_repr, Int.repr_eq_if]
    split
    · exact inNat _
    · rw [String.toList_append, List.mem_append]
      rintro (sign | digits)
      · exact absurd sign (by decide)
      · exact inNat _ digits
  have label : ∀ text ∈ ["om_", "x", "mm_", "mm"], nul ∉ text.toList := by
    decide
  simp only [mediaName, String.toList_append, List.mem_append, inInt,
    label "om_" (by simp), label "x" (by simp), label "mm_" (by simp),
    label "mm" (by simp), or_self, not_false_eq_true]

/-- A family is converted exactly when it is convertible. -/
theorem loadFamily_isSome_iff (mode : OnOverflow) (f : FamilyEntry) :
    (loadFamily mode f).isSome ↔ f.Convertible mode := by
  have names : (f.mediaMm.mapM fun size =>
      cStringNew (mediaName size)).isSome := by
    rw [mapM_isSome_iff]
    intro size _
    exact (cStringNew_isSome_iff _).mpr (nul_notMem_mediaName size)
  obtain ⟨mediaNames, named⟩ := Option.isSome_iff_exists.mp names
  have sizes : (f.mediaMm.mapM (mediaSize mode)).isSome ↔
      (mode = .panics → ∀ size ∈ f.mediaMm,
        FitsHundredfold size.1 ∧ FitsHundredfold size.2) := by
    simp only [mapM_isSome_iff, mediaSize_isSome_iff]
    exact ⟨fun fit checks size member => fit size member checks,
      fun fit size member checks => fit checks size member⟩
  have converted : (loadFamily mode f).isSome ↔
      (f.mediaMm.mapM (mediaSize mode)).isSome ∧
        (cStringNew f.name).isSome := by
    unfold loadFamily
    rw [named]
    cases f.mediaMm.mapM (mediaSize mode) with
    | none => simp
    | some mediaSizes => cases cStringNew f.name <;> simp
  rw [converted, sizes, cStringNew_isSome_iff]
  exact ⟨fun ⟨fit, name⟩ => ⟨name, fit⟩, fun ⟨name, fit⟩ => ⟨fit, name⟩⟩

/-- Loading a text panics exactly when it parses to a table with a family that
cannot be converted. -/
theorem buildRegistryFrom_total_iff (mode : OnOverflow)
    (unicode : UnicodeLower) (fromStr : String → Except String TableFile)
    (contents source : String) :
    buildRegistryFrom mode unicode fromStr contents source ≠ none ↔
      ∀ file, fromStr contents = .ok file →
        ∀ f ∈ file.families, f.Convertible mode := by
  unfold buildRegistryFrom
  cases fromStr contents with
  | error e => simp
  | ok file =>
      have families := mapM_isSome_iff (loadFamily mode) file.families
      simp only [loadFamily_isSome_iff] at families
      simp only [Except.ok.injEq, forall_eq', ← families]
      cases file.families.mapM (loadFamily mode) <;> simp

/-- A table whose one family has a name that ends in an escaped NUL character
takes the program down, whichever way it was built. -/
theorem buildRegistryFrom_panics :
    let contents := "models = []\nbt_names = []\n[[families]]\n" ++
      "name = \"supvan_t50\\u0000\"\ndescription = \"T50\"\n" ++
      "dpi = 203\nprinthead_dots = 384\nmedia_mm = [[40, 30]]\n"
    let file : TableFile :=
      { families := [⟨⟨"supvan_t50\x00", "T50"⟩, 203#32, 384#32,
          [(40#32, 30#32)]⟩]
        models := []
        btNames := [] }
    ¬ ∀ mode, buildRegistryFrom mode (fun _ c _ => [c])
      (fun text => if text = contents then .ok file else .error "not read")
      contents "models.toml" ≠ none := by
  intro contents file total
  exact total .wraps rfl

end SupvanCups
