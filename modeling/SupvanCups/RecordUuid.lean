import SupvanCups.DecimalDigits
import SupvanCups.MediaGate

/-!
# Which records pass for ours

The UUID of a written record is a decimal catalogue code, filled up with zeros
to fourteen hex digits.  The gate recognises such a UUID by its digits up to
the trailing zeros: five at most, and decimal.  It knows every record the
driver writes, and some that it could not have written.
-/

namespace SupvanCups

open DecimalDigits

/-! ### Hex digits -/

theorem isAsciiDigit_iff (c : Char) : isAsciiDigit c = true ↔ IsDigit c := by
  constructor
  · intro digit
    apply isDigit_of_isDigit
    simpa [isAsciiDigit, Char.isDigit, Char.le_def] using digit
  · rintro ⟨d, bound, rfl⟩
    have table : ∀ d < 10, isAsciiDigit (Nat.digitChar d) = true := by decide
    exact table d bound

theorem hexDigit_inj {m n : Nat} (mBound : m < 16) (nBound : n < 16)
    (same : hexDigit m = hexDigit n) : m = n := by
  have table : ∀ m < 16, ∀ n < 16, hexDigit m = hexDigit n → m = n := by
    decide
  exact table m mBound n nBound same

/-- The two digits of a byte. -/
def hexPair (byte : U8) : List Char :=
  [hexDigit (byte.toNat / 16), hexDigit (byte.toNat % 16)]

theorem toList_hexUpper (bytes : Bytes) :
    (hexUpper bytes).toList = bytes.flatMap hexPair := by
  rw [hexUpper, String.toList_ofList]
  rfl

theorem length_hexUpper (bytes : Bytes) :
    (hexUpper bytes).toList.length = 2 * bytes.length := by
  rw [toList_hexUpper]
  induction bytes with
  | nil => rfl
  | cons byte bytes ih =>
      rw [List.flatMap_cons, List.length_append, ih, List.length_cons, hexPair]
      simp only [List.length_cons, List.length_nil]
      omega

theorem hexPair_inj {byte other : U8} (same : hexPair byte = hexPair other) :
    byte = other := by
  have byteBound := byte.isLt
  have otherBound := other.isLt
  obtain ⟨high, low⟩ : _ ∧ _ := by simpa [hexPair] using same
  have highs := hexDigit_inj (by omega) (by omega) high
  have lows := hexDigit_inj (by omega) (by omega) low
  exact BitVec.eq_of_toNat_eq (by omega)

theorem hexUpper_inj {bytes others : Bytes}
    (same : hexUpper bytes = hexUpper others) : bytes = others := by
  have digits : bytes.flatMap hexPair = others.flatMap hexPair := by
    rw [← toList_hexUpper, same, toList_hexUpper]
  clear same
  induction bytes generalizing others with
  | nil =>
      cases others with
      | nil => rfl
      | cons other others => simp [hexPair] at digits
  | cons byte bytes ih =>
      cases others with
      | nil => simp [hexPair] at digits
      | cons other others =>
          rw [List.flatMap_cons, List.flatMap_cons] at digits
          obtain ⟨first, rest⟩ := List.append_inj digits rfl
          rw [hexPair_inj first, ih rest]

/-- The hex digits are zeros exactly when the bytes are. -/
theorem zeroed_hexUpper (bytes : Bytes) :
    zeroed (hexUpper bytes).toList = true ↔ ∀ byte ∈ bytes, byte = 0#8 := by
  have zeroPair : ∀ byte : U8,
      (∀ c ∈ hexPair byte, c = '0') ↔ byte = 0#8 := by
    intro byte
    constructor
    · intro zeros
      apply hexPair_inj
      have high : hexDigit (byte.toNat / 16) = '0' :=
        zeros _ (by simp [hexPair])
      have low : hexDigit (byte.toNat % 16) = '0' :=
        zeros _ (by simp [hexPair])
      rw [hexPair, high, low]
      rfl
    · rintro rfl c digit
      have zeros : hexPair 0#8 = ['0', '0'] := rfl
      rw [zeros] at digit
      simpa using digit
  rw [toList_hexUpper, zeroed, List.all_eq_true]
  simp only [List.mem_flatMap, decide_eq_true_eq, ← zeroPair]
  constructor
  · exact fun zeros byte member c digit => zeros c ⟨byte, member, digit⟩
  · rintro zeros c ⟨byte, member, digit⟩
    exact zeros byte member c digit

/-- Reading two decimal digits as hex and writing them again. -/
theorem hexPair_fromHexPair {a b : Char} (aDigit : IsDigit a)
    (bDigit : IsDigit b) : hexPair (fromHexPair a b) = [a, b] := by
  obtain ⟨m, mBound, rfl⟩ := aDigit
  obtain ⟨n, nBound, rfl⟩ := bDigit
  have table : ∀ m < 10, ∀ n < 10,
      hexPair (fromHexPair (Nat.digitChar m) (Nat.digitChar n)) =
        [Nat.digitChar m, Nat.digitChar n] := by
    decide
  exact table m mBound n nBound

/-! ### The UUID of a catalogue code -/

/-- The hex digits of a synthetic UUID. -/
def uuidDigits (code : U16) : List Char :=
  let digits := Nat.toDigits 10 code.toNat
  digits ++ List.replicate (14 - digits.length) '0'

theorem length_toDigits_code (code : U16) :
    (Nat.toDigits 10 code.toNat).length ≤ 5 := by
  rw [Nat.length_toDigits_le_iff (by decide) (by decide)]
  have := code.isLt
  omega

theorem uuidDigits_length (code : U16) : (uuidDigits code).length = 14 := by
  have := length_toDigits_code code
  simp only [uuidDigits, List.length_append, List.length_replicate]
  omega

theorem isDigit_of_mem_uuidDigits {code : U16} {c : Char}
    (member : c ∈ uuidDigits code) : IsDigit c := by
  rcases List.mem_append.mp member with digit | padding
  · exact isDigit_of_mem_toDigits digit
  · rw [List.eq_of_mem_replicate padding]
    exact ⟨0, by decide, rfl⟩

/-- A list of pairs, read at even and odd places. -/
theorem flatMap_pairs (pairs : Nat) (digits : List Char)
    (length : digits.length = 2 * pairs) :
    ((List.range pairs).flatMap fun i =>
      [digits.getD (2 * i) '0', digits.getD (2 * i + 1) '0']) = digits := by
  induction pairs generalizing digits with
  | zero => exact (List.length_eq_zero_iff.mp length).symm
  | succ pairs ih =>
      match digits, length with
      | a :: b :: rest, length =>
          have shorter : rest.length = 2 * pairs := by
            simp only [List.length_cons] at length
            omega
          rw [List.range_succ_eq_map, List.flatMap_cons, List.flatMap_map]
          simp only [Nat.mul_succ, Nat.mul_zero, List.getD_cons_zero,
            List.getD_cons_succ, Nat.zero_add, List.cons_append,
            List.nil_append, List.cons.injEq, true_and]
          exact ih rest shorter

theorem hexUpper_uuidBytes (mat : RfidMaterial) :
    (hexUpper mat.uuidBytes).toList = uuidDigits mat.code := by
  have short := length_toDigits_code mat.code
  have taken : (Nat.toDigits 10 mat.code.toNat).take 14 =
      Nat.toDigits 10 mat.code.toNat :=
    List.take_of_length_le (by omega)
  have digit : ∀ i < 14, IsDigit ((uuidDigits mat.code).getD i '0') := by
    intro i bound
    rw [List.getD_eq_getElem _ _ (by rwa [uuidDigits_length])]
    exact isDigit_of_mem_uuidDigits (List.getElem_mem _)
  rw [toList_hexUpper, RfidMaterial.uuidBytes, List.flatMap_map, taken,
    ← uuidDigits]
  refine Eq.trans ?_ (flatMap_pairs 7 _ (uuidDigits_length mat.code))
  refine List.flatMap_congr fun i member => ?_
  have bound := List.mem_range.mp member
  exact hexPair_fromHexPair (digit _ (by omega)) (digit _ (by omega))

theorem stem_uuidDigits (code : U16) :
    stem (uuidDigits code) = stem (Nat.toDigits 10 code.toNat) :=
  stem_append_zeros _ _

/-! ### Our records are recognised -/

theorem zeroed_iff_stem (digits : List Char) :
    zeroed digits = true ↔ stem digits = [] := by
  simp [zeroed, stem_eq_nil_iff]

/-- The gate accepts no signature and a UUID of at most five decimal digits
up to its trailing zeros. -/
theorem recordIsOurs_iff (uuid code : String) :
    recordIsOurs uuid code = true ↔
      zeroed code.toList = true ∧ (stem uuid.toList).length ≤ 5 ∧
        ∀ c ∈ stem uuid.toList, IsDigit c := by
  have blank := zeroed_iff_stem uuid.toList
  unfold recordIsOurs
  by_cases unsigned : zeroed code.toList = true
  · by_cases zeros : zeroed uuid.toList = true
    · simp [unsigned, zeros, blank.mp zeros]
    · rw [if_neg (by simp [unsigned]), if_neg zeros]
      simp only [unsigned, true_and, Bool.and_eq_true, decide_eq_true_eq,
        List.all_eq_true, isAsciiDigit_iff]
      rfl
  · simp [unsigned]

theorem matCode_encode (mat : RfidMaterial) :
    (mat.encode.val.drop 16).take 8 = List.replicate 8 0#8 := by
  simp [RfidMaterial.encode, RfidMaterial.uuidBytes, fieldBase, List.range,
    List.range.loop, toLeBytes]

theorem uuid_encode (mat : RfidMaterial) :
    mat.encode.val.take 7 = mat.uuidBytes := by
  simp [RfidMaterial.encode, RfidMaterial.uuidBytes]

theorem stem_hexUpper_uuidBytes (mat : RfidMaterial) :
    (stem (hexUpper mat.uuidBytes).toList).length ≤ 5 ∧
      ∀ c ∈ stem (hexUpper mat.uuidBytes).toList, IsDigit c := by
  have isPrefix : stem (hexUpper mat.uuidBytes).toList <+:
      Nat.toDigits 10 mat.code.toNat := by
    rw [hexUpper_uuidBytes, stem_uuidDigits]
    exact List.rdropWhile_prefix _ _
  exact ⟨isPrefix.length_le.trans (length_toDigits_code mat.code),
    fun c member => isDigit_of_mem_toDigits (isPrefix.subset member)⟩

/-- A report with the UUID and the signature of a record of ours parses to the
UUID that the write waits for, and the gate accepts it. -/
theorem parseMaterialPayload_recognisesOurs (mat : RfidMaterial)
    {payload : Bytes} (deviceSn : Option String)
    (long : 21 ≤ payload.length)
    (uuid : payload.take 7 = mat.encode.val.take 7)
    (signature : (payload.drop 7).take 8 = (mat.encode.val.drop 16).take 8) :
    ∃ info, parseMaterialPayload payload deviceSn = some info ∧
      info.uuid = hexUpper mat.uuidBytes ∧
      recordIsOurs info.uuid info.code = true := by
  have written : hexUpper (payload.take 7) = hexUpper mat.uuidBytes := by
    rw [uuid, uuid_encode]
  refine ⟨_, if_neg (Nat.not_lt.mpr long), written, ?_⟩
  simp only [written, signature, matCode_encode]
  refine (recordIsOurs_iff _ _).mpr ⟨?_, stem_hexUpper_uuidBytes mat⟩
  exact (zeroed_hexUpper _).mpr fun byte member =>
    List.eq_of_mem_replicate member

/-- The default record, read back. -/
theorem parseMaterialPayload_recognisesOurs_default :
    ∃ info, parseMaterialPayload
        ([0x30#8, 0#8, 0#8, 0#8, 0#8, 0#8, 0#8] ++ List.replicate 8 0#8 ++
          [0x30#8, 0x75#8, 1#8, 40#8, 30#8, 3#8]) none = some info ∧
      info.uuid = hexUpper ({} : RfidMaterial).uuidBytes ∧
      recordIsOurs info.uuid info.code = true :=
  parseMaterialPayload_recognisesOurs {} none (by decide) (by decide)
    (by decide)

/-! ### What else passes -/

/-- Five digits at most, but not those of a catalogue code: they start with a
zero, or their number is too large. -/
def IsStray (uuid : Bytes) : Prop :=
  let digits := stem (hexUpper uuid).toList
  digits ≠ [] ∧ digits.length ≤ 5 ∧ (∀ c ∈ digits, IsDigit c) ∧
    (digits.head? = some '0' ∨ 65535 < Nat.ofDigitChars 10 digits 0)

/-- The digits of a catalogue code are not stray. -/
theorem not_isStray_uuidBytes (mat : RfidMaterial) :
    ¬ IsStray mat.uuidBytes := by
  simp only [IsStray, hexUpper_uuidBytes, stem_uuidDigits]
  rintro ⟨nonempty, -, -, stray⟩
  obtain ⟨zeros, split⟩ :=
    exists_stem_append_zeros (Nat.toDigits 10 mat.code.toNat)
  rcases stray with leading | large
  · by_cases zero : mat.code.toNat = 0
    · rw [zero] at nonempty
      exact nonempty (by decide)
    · apply head?_toDigits_ne_zero (Nat.pos_of_ne_zero zero)
      rw [split, List.head?_append_of_ne_nil _ nonempty]
      exact leading
  · have value : mat.code.toNat = 10 ^ zeros *
        Nat.ofDigitChars 10 (stem (Nat.toDigits 10 mat.code.toNat)) 0 := by
      rw [← Nat.ofDigitChars_replicate_zero, ← Nat.ofDigitChars_append,
        ← split, Nat.ofDigitChars_ten_toDigits]
    have bound := mat.code.isLt
    have power : 0 < 10 ^ zeros := Nat.pow_pos (by decide)
    have grows := Nat.le_mul_of_pos_left
      (Nat.ofDigitChars 10 (stem (Nat.toDigits 10 mat.code.toNat)) 0) power
    omega

/-- Five decimal digits that are not stray are those of a catalogue code. -/
theorem exists_uuidBytes {uuid : Frame 7}
    (short : (stem (hexUpper uuid.val).toList).length ≤ 5)
    (decimal : ∀ c ∈ stem (hexUpper uuid.val).toList, IsDigit c)
    (nonempty : stem (hexUpper uuid.val).toList ≠ [])
    (notStray : ¬ IsStray uuid.val) :
    ∃ mat : RfidMaterial, mat.uuidBytes = uuid.val := by
  obtain ⟨zeros, split⟩ :=
    exists_stem_append_zeros (hexUpper uuid.val).toList
  have length : (hexUpper uuid.val).toList.length = 14 := by
    rw [length_hexUpper, uuid.property]
  simp only [IsStray, not_and, not_or, Nat.not_lt] at notStray
  obtain ⟨noZero, fits⟩ := notStray nonempty short decimal
  generalize stem (hexUpper uuid.val).toList = digits at *
  have code : (BitVec.ofNat 16 (Nat.ofDigitChars 10 digits 0)).toNat =
      Nat.ofDigitChars 10 digits 0 := by
    rw [BitVec.toNat_ofNat]
    exact Nat.mod_eq_of_lt (by omega)
  refine ⟨{ code := BitVec.ofNat 16 (Nat.ofDigitChars 10 digits 0) },
    hexUpper_inj (String.toList_inj.mp ?_)⟩
  rw [hexUpper_uuidBytes, uuidDigits, code,
    toDigits_ofDigitChars decimal nonempty noZero, split]
  rw [split, List.length_append, List.length_replicate] at length
  congr 2
  omega

/-- A record that passes has no signature, and its UUID is blank or that of a
catalogue code. -/
def PassesAsOurs (uuid code : Bytes) : Prop :=
  recordIsOurs (hexUpper uuid) (hexUpper code) = true →
    (∀ byte ∈ code, byte = 0#8) ∧
      ((∀ byte ∈ uuid, byte = 0#8) ∨
        ∃ mat : RfidMaterial, mat.uuidBytes = uuid)

/-- Only blank stock and records of ours pass, but for UUIDs of stray digits
without a signature. -/
theorem recordIsOurs_passes_iff (uuid : Frame 7) (code : Frame 8) :
    PassesAsOurs uuid.val code.val ↔
      ¬ ((∀ byte ∈ code.val, byte = 0#8) ∧ IsStray uuid.val) := by
  rw [PassesAsOurs, recordIsOurs_iff, zeroed_hexUpper,
    ← zeroed_hexUpper uuid.val, zeroed_iff_stem]
  constructor
  · rintro passes ⟨unsigned, stray⟩
    rcases (passes ⟨unsigned, stray.2.1, stray.2.2.1⟩).2 with
      blank | ⟨mat, ours⟩
    · exact stray.1 blank
    · exact not_isStray_uuidBytes mat (ours ▸ stray)
  · rintro notStray ⟨unsigned, short, decimal⟩
    refine ⟨unsigned, or_iff_not_imp_left.mpr fun nonempty => ?_⟩
    exact exists_uuidBytes short decimal nonempty
      fun stray => notStray ⟨unsigned, stray⟩

/-- The gate accepts a record with the UUID 99999, which no catalogue code
has. -/
theorem recordIsOurs_acceptsStray :
    ¬ PassesAsOurs [0x99#8, 0x99#8, 0x90#8, 0#8, 0#8, 0#8, 0#8]
      (List.replicate 8 0#8) := by
  intro passes
  rcases (passes (by decide)).2 with blank | ⟨mat, ours⟩
  · exact absurd (blank 0x99#8 (by simp)) (by decide)
  · have digits : stem (hexUpper [0x99#8, 0x99#8, 0x90#8, 0#8, 0#8, 0#8,
        0#8]).toList = ['9', '9', '9', '9', '9'] :=
      rfl
    have decimal : ∀ c ∈ stem (hexUpper [0x99#8, 0x99#8, 0x90#8, 0#8, 0#8,
        0#8, 0#8]).toList, isAsciiDigit c = true := by
      rw [digits]
      simp [isAsciiDigit]
    apply not_isStray_uuidBytes mat
    rw [ours]
    exact ⟨by decide, by decide,
      fun c member => (isAsciiDigit_iff c).mp (decimal c member), by decide⟩

end SupvanCups
