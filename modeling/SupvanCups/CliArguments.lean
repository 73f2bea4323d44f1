import SupvanCups.DecimalDigits
import SupvanCups.MaterialRecords
import SupvanCups.PrintBuffer

/-!
# Arguments of the command line

Densities, heat times and opcodes are read from text.  What the tools print for
a list of densities reads back as the same list.  A pair of heat times in the
form that is asked for is the same pair on the command line and in the
environment of the server.
-/

namespace SupvanCups

/-- A text, as its characters. -/
abbrev Text := List Char

/-- A text without its plus sign. -/
def withoutPlus (text : Text) : Text :=
  if text.head? = some '+' then text.tail else text

/-- `from_str_radix` of an unsigned integer below a bound: an optional plus sign
and at least one digit. -/
def parseUnsigned (radix bound : Nat) (text : Text) : Option Nat :=
  if (withoutPlus text).isEmpty then none
  else do
    let values ← (withoutPlus text).mapM fun digit =>
      (hexValue digit).filter (· < radix)
    let value := values.foldl (fun value digit => value * radix + digit) 0
    if value < bound then some value else none

def parseU8 (text : Text) : Option U8 :=
  (parseUnsigned 10 256 text).map (BitVec.ofNat 8)

def parseU16 (text : Text) : Option U16 :=
  (parseUnsigned 10 65536 text).map (BitVec.ofNat 16)

/-- The text before the first separator, and the text after it. -/
def splitOnce (sep : Char) (text : Text) : Option (Text × Text) :=
  if sep ∈ text then
    some (text.takeWhile (· ≠ sep), (text.dropWhile (· ≠ sep)).tail)
  else
    none

def okOr {α : Type} (message : String) : Option α → Except String α
  | some value => .ok value
  | none => .error message

def quoted (text : Text) : String :=
  "`" ++ .ofList text ++ "`"

/-! ### Densities -/

/-- `N` sets both trims, `BLACK:RED` sets them apart. -/
def parseDensity (text : Text) : Except String Density :=
  match splitOnce ':' text with
  | some (black, red) => do
      let black ← okOr ("bad black " ++ quoted black) (parseU8 black)
      let red ← okOr ("bad red " ++ quoted red) (parseU8 red)
      return ⟨black, red⟩
  | none => do
      let value ← okOr ("bad density " ++ quoted text) (parseU8 text)
      return .uniform value

/-- `--densities`, at each comma. -/
def parseDensities (text : Text) : Except String (List Density) :=
  (text.splitOn ',').mapM parseDensity

def displayU8 (value : U8) : Text :=
  Nat.toDigits 10 value.toNat

def Density.display (density : Density) : Text :=
  if density.black = density.red then displayU8 density.black
  else displayU8 density.black ++ ':' :: displayU8 density.red

/-- The densities of a strip, as the sweep logs them. -/
def displayDensities (densities : List Density) : Text :=
  [','].intercalate (densities.map Density.display)

/-! ### Heat times -/

/-- `heat5:heat40`. -/
def parseHeatPair (text : Text) : Except String (U16 × U16) := do
  let (h5, h40) ←
    okOr ("expected `heat5:heat40`, got " ++ quoted text) (splitOnce ':' text)
  let heat5 ← okOr ("bad heat5 " ++ quoted h5) (parseU16 h5)
  let heat40 ← okOr ("bad heat40 " ++ quoted h40) (parseU16 h40)
  return (heat5, heat40)

/-- The characters of the property `White_Space`. -/
def isWhiteSpace (c : Char) : Bool :=
  (0x09 ≤ c.toNat && c.toNat ≤ 0x0D) || c.toNat == 0x20 || c.toNat == 0x85 ||
    c.toNat == 0xA0 || c.toNat == 0x1680 ||
    (0x2000 ≤ c.toNat && c.toNat ≤ 0x200A) || c.toNat == 0x2028 ||
    c.toNat == 0x2029 || c.toNat == 0x202F || c.toNat == 0x205F ||
    c.toNat == 0x3000

def trim (text : Text) : Text :=
  (text.dropWhile isWhiteSpace).rdropWhile isWhiteSpace

/-- The heat times of `SUPVAN_HEAT`, or the standard profile. -/
def configuredHeat (env : Option Text) : U16 × U16 :=
  match env with
  | none => heatPresetStandard
  | some raw =>
      let parsed := (splitOnce ':' raw).bind fun (a, b) => do
        let heat5 ← parseU16 (trim a)
        let heat40 ← parseU16 (trim b)
        return (heat5, heat40)
      parsed.getD heatPresetStandard

/-- The text `heat5:heat40` that the help of the command line and the
documentation of `SUPVAN_HEAT` ask for.  An operator types it: no function of
the program writes it. -/
def displayHeatPair (heat : U16 × U16) : Text :=
  Nat.toDigits 10 heat.1.toNat ++ ':' :: Nat.toDigits 10 heat.2.toNat

/-! ### Numbers read back -/

open DecimalDigits

theorem hexValue_digitChar {d : Nat} (bound : d < 10) :
    hexValue (Nat.digitChar d) = some d := by
  have table : ∀ d < 10, hexValue (Nat.digitChar d) = some d := by decide
  exact table d bound

theorem mapM_hexValue {digits : Text} (each : ∀ c ∈ digits, IsDigit c) :
    ∃ values, (digits.mapM fun digit => (hexValue digit).filter (· < 10)) =
        some values ∧
      ∀ start, values.foldl (fun value digit => value * 10 + digit) start =
        Nat.ofDigitChars 10 digits start := by
  induction digits with
  | nil => exact ⟨[], rfl, fun start => by simp⟩
  | cons c digits ih =>
      obtain ⟨⟨d, bound, rfl⟩, rest⟩ := List.forall_mem_cons.mp each
      obtain ⟨values, found, folds⟩ := ih rest
      have here : (hexValue (Nat.digitChar d)).filter (· < 10) = some d := by
        rw [hexValue_digitChar bound]
        simp [Option.filter, bound]
      refine ⟨d :: values, ?_, fun start => ?_⟩
      · rw [List.mapM_cons, here, found]
        rfl
      · rw [List.foldl_cons, folds,
          Nat.ofDigitChars_cons_digitChar_of_lt_ten bound, Nat.mul_comm]

theorem parseUnsigned_toDigits {bound n : Nat} (small : n < bound) :
    parseUnsigned 10 bound (Nat.toDigits 10 n) = some n := by
  have each : ∀ c ∈ Nat.toDigits 10 n, IsDigit c :=
    fun c => isDigit_of_mem_toDigits
  have unsigned : (Nat.toDigits 10 n).head? ≠ some '+' := by
    intro plus
    obtain ⟨d, low, same⟩ := each '+' (List.mem_of_head? plus)
    have table : ∀ d < 10, '+' ≠ Nat.digitChar d := by decide
    exact table d low same
  obtain ⟨values, found, folds⟩ := mapM_hexValue each
  have nonempty : (Nat.toDigits 10 n).isEmpty = false :=
    List.isEmpty_eq_false_iff.mpr Nat.toDigits_ne_nil
  simp only [parseUnsigned, withoutPlus, if_neg unsigned, nonempty,
    Bool.false_eq_true, if_false, found, Option.bind_eq_bind,
    Option.bind_some, folds, Nat.ofDigitChars_ten_toDigits, if_pos small]

theorem parseU8_display (value : U8) :
    parseU8 (displayU8 value) = some value := by
  rw [parseU8, displayU8, parseUnsigned_toDigits value.isLt, Option.map_some,
    BitVec.ofNat_toNat, BitVec.setWidth_eq]

theorem parseU16_toDigits (value : U16) :
    parseU16 (Nat.toDigits 10 value.toNat) = some value := by
  rw [parseU16, parseUnsigned_toDigits value.isLt, Option.map_some,
    BitVec.ofNat_toNat, BitVec.setWidth_eq]

theorem notMem_toDigits {sep : Char} (noDigit : ∀ d < 10, sep ≠ Nat.digitChar d)
    (n : Nat) : sep ∉ Nat.toDigits 10 n := by
  intro member
  obtain ⟨d, bound, same⟩ := isDigit_of_mem_toDigits member
  exact noDigit d bound same

theorem splitOnce_append {sep : Char} {front : Text} (free : sep ∉ front)
    (rest : Text) :
    splitOnce sep (front ++ sep :: rest) = some (front, rest) := by
  have all : ∀ c ∈ front, decide (c ≠ sep) = true := fun c member =>
    decide_eq_true fun same : c = sep => free (same ▸ member)
  rw [splitOnce, if_pos (by simp), List.takeWhile_append_of_pos all,
    List.dropWhile_append_of_pos all]
  simp

theorem colon_notMem (n : Nat) : ':' ∉ Nat.toDigits 10 n :=
  notMem_toDigits (by decide) n

theorem parseDensity_display (density : Density) :
    parseDensity density.display = .ok density := by
  obtain ⟨black, red⟩ := density
  by_cases same : black = red
  · subst same
    have alone : splitOnce ':' (displayU8 black) = none :=
      if_neg (colon_notMem black.toNat)
    simp only [Density.display, if_true, parseDensity, alone, parseU8_display]
    rfl
  · have parts : splitOnce ':' (displayU8 black ++ ':' :: displayU8 red) =
        some (displayU8 black, displayU8 red) :=
      splitOnce_append (colon_notMem black.toNat) _
    simp only [Density.display, if_neg same, parseDensity, parts,
      parseU8_display]
    rfl

theorem comma_notMem_display (density : Density) : ',' ∉ density.display := by
  have free (value : U8) : ',' ∉ displayU8 value :=
    notMem_toDigits (by decide) value.toNat
  unfold Density.display
  split_ifs
  · exact free _
  · simp [free]

theorem mapM_map_of_inverse {α : Type} {parse : Text → Except String α}
    {display : α → Text} (inverse : ∀ value, parse (display value) = .ok value)
    (values : List α) : (values.map display).mapM parse = .ok values := by
  induction values with
  | nil => rfl
  | cons value values ih =>
      rw [List.map_cons, List.mapM_cons, inverse, ih]
      rfl

theorem parseDensities_display {densities : List Density}
    (nonempty : densities ≠ []) :
    parseDensities (displayDensities densities) = .ok densities := by
  have pieces : (displayDensities densities).splitOn ',' =
      densities.map Density.display := by
    apply List.splitOn_intercalate
    · intro word member
      obtain ⟨density, -, rfl⟩ := List.mem_map.mp member
      exact comma_notMem_display density
    · simpa using nonempty
  rw [parseDensities, pieces, mapM_map_of_inverse parseDensity_display]

theorem parseHeatPair_display (heat : U16 × U16) :
    parseHeatPair (displayHeatPair heat) = .ok heat := by
  simp only [parseHeatPair, displayHeatPair, splitOnce_append (colon_notMem _),
    okOr, bind, Except.bind, parseU16_toDigits]
  rfl

/-! ### Heat times on the command line and in the environment -/

theorem notWhiteSpace_of_hexValue {c : Char} {d : Nat}
    (found : hexValue c = some d) : isWhiteSpace c = false := by
  have between (low high : Char) (range : low ≤ c ∧ c ≤ high) :
      low.toNat ≤ c.toNat ∧ c.toNat ≤ high.toNat := range
  have bounds : 48 ≤ c.toNat ∧ c.toNat ≤ 102 := by
    unfold hexValue at found
    split_ifs at found with digit upper lower
    · have := between '0' '9' digit
      have : '0'.toNat = 48 ∧ '9'.toNat = 57 := by decide
      omega
    · have := between 'A' 'F' upper
      have : 'A'.toNat = 65 ∧ 'F'.toNat = 70 := by decide
      omega
    · have := between 'a' 'f' lower
      have : 'a'.toNat = 97 ∧ 'f'.toNat = 102 := by decide
      omega
  simp only [isWhiteSpace, Bool.or_eq_false_iff, Bool.and_eq_false_iff,
    decide_eq_false_iff_not, beq_eq_false_iff_ne]
  omega

theorem isSome_of_mapM {α β : Type} {f : α → Option β} {items : List α}
    {values : List β} (found : items.mapM f = some values) :
    ∀ item ∈ items, ∃ value, f item = some value := by
  induction items generalizing values with
  | nil => simp
  | cons item items ih =>
      rw [List.mapM_cons] at found
      obtain ⟨value, here, rest⟩ := Option.bind_eq_some_iff.mp found
      obtain ⟨others, later, -⟩ := Option.bind_eq_some_iff.mp rest
      exact List.forall_mem_cons.mpr ⟨⟨value, here⟩, ih later⟩

/-- A number that is accepted has no white space in it. -/
theorem trim_of_parseUnsigned {radix bound n : Nat} {text : Text}
    (accepted : parseUnsigned radix bound text = some n) :
    trim text = text := by
  obtain ⟨-, parsed⟩ := Option.ite_none_left_eq_some.mp accepted
  obtain ⟨values, found, -⟩ := Option.bind_eq_some_iff.mp parsed
  have digits : ∀ c ∈ withoutPlus text, isWhiteSpace c = false := by
    intro c member
    obtain ⟨d, isDigit⟩ := isSome_of_mapM found c member
    exact notWhiteSpace_of_hexValue (Option.filter_eq_some_iff.mp isDigit).1
  have plain : ∀ c ∈ text, isWhiteSpace c = false := by
    unfold withoutPlus at digits
    split at digits
    · rename_i plus
      obtain ⟨rest, rfl⟩ := List.head?_eq_some_iff.mp plus
      exact List.forall_mem_cons.mpr ⟨by decide, digits⟩
    · exact digits
  have start : text.dropWhile isWhiteSpace = text := by
    cases text with
    | nil => rfl
    | cons first rest =>
        rw [List.dropWhile_cons_of_neg (by simp [plain first (by simp)])]
  rw [trim, start, List.rdropWhile_eq_self_iff]
  intro nonempty white
  rw [plain _ (List.getLast_mem nonempty)] at white
  cases white

theorem trim_of_parseU16 {text : Text} {value : U16}
    (accepted : parseU16 text = some value) : trim text = text := by
  obtain ⟨n, parsed, -⟩ := Option.map_eq_some_iff.mp accepted
  exact trim_of_parseUnsigned parsed

/-- What the command line accepts as heat times, the environment means too. -/
theorem configuredHeat_of_parseHeatPair {text : Text} {heat : U16 × U16}
    (accepted : parseHeatPair text = .ok heat) :
    configuredHeat (some text) = heat := by
  unfold parseHeatPair at accepted
  cases parts : splitOnce ':' text with
  | none =>
      rw [parts] at accepted
      cases accepted
  | some pair =>
      obtain ⟨h5, h40⟩ := pair
      rw [parts] at accepted
      cases first : parseU16 h5 with
      | none =>
          simp [okOr, first, bind, Except.bind] at accepted
      | some heat5 =>
          cases second : parseU16 h40 with
          | none =>
              simp [okOr, first, second, bind, Except.bind] at accepted
          | some heat40 =>
              have same : (heat5, heat40) = heat := by
                simpa [okOr, first, second, bind, Except.bind, pure,
                  Except.pure] using accepted
              simp [configuredHeat, parts, trim_of_parseU16 first,
                trim_of_parseU16 second, first, second, same]

/-- Logged densities read back as what they were, and heat times that are typed
as documented, on the command line and in the environment. -/
theorem settings_roundTrip :
    (∀ densities, densities ≠ [] →
      parseDensities (displayDensities densities) = .ok densities) ∧
    ∀ heat text, parseHeatPair text = .ok heat →
      configuredHeat (some text) = heat ∧
      parseHeatPair (displayHeatPair heat) = .ok heat :=
  ⟨fun _ nonempty => parseDensities_display nonempty,
    fun heat _ accepted =>
      ⟨configuredHeat_of_parseHeatPair accepted, parseHeatPair_display heat⟩⟩

theorem settings_roundTrip_sweep :
    parseDensities (displayDensities [.uniform 8#8, ⟨10#8, 3#8⟩]) =
        .ok [.uniform 8#8, ⟨10#8, 3#8⟩] ∧
      configuredHeat (some "1700:1200".toList) = (1700#16, 1200#16) :=
  ⟨settings_roundTrip.1 _ (by simp),
    (settings_roundTrip.2 _ "1700:1200".toList (by decide)).1⟩

end SupvanCups
