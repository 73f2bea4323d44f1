import SupvanCups.BandedBuffers

/-!
# More density never burns less

Both trims of a print buffer have four bits of range.  The red one is capped
where it is written, the black one is masked into its field, so a black request
above 15 wraps: 16 asks for the least energy there is.  A calibration sweep over
bands of different density keeps its order exactly when no band with columns
asks for such a value, or asks for one that wraps to 15.
-/

namespace SupvanCups

/-- The buffers of a page, divided into those of each band: every band has the
whole buffers that print its columns. -/
structure BandGroups (page : PageOptions) (bands : List DensityBand)
    (buffers : List PrintBuffer) (groups : List (List PrintBuffer)) :
    Prop where
  flatten_eq : groups.flatten = buffers
  columns : List.Forall₂ (fun band group =>
      (group.map fun buffer =>
        buffer.columnCount / page.colour.planes.toNat).sum = band.cols.toNat)
    bands groups

/-- Of two bands the one that asks for at least as much of a colour gets at
least as large a trim, and a request above the range gets its largest one. -/
structure DensityOrdered (bands : List DensityBand)
    (groups : List (List PrintBuffer)) : Prop where
  black : ∀ first ∈ bands.zip groups, ∀ second ∈ bands.zip groups,
    second.1.density.black ≤ first.1.density.black →
      ∀ more ∈ first.2, ∀ less ∈ second.2, less.trims.1 ≤ more.trims.1
  red : ∀ first ∈ bands.zip groups, ∀ second ∈ bands.zip groups,
    second.1.density.red ≤ first.1.density.red →
      ∀ more ∈ first.2, ∀ less ∈ second.2, less.trims.2 ≤ more.trims.2
  saturates : ∀ entry ∈ bands.zip groups, ∀ buffer ∈ entry.2,
    (maxDensity < entry.1.density.black → buffer.trims.1 = maxDensity) ∧
      (maxDensity < entry.1.density.red → buffer.trims.2 = maxDensity)

/-- The buffers divide into those of each band, in the order of density. -/
def KeepsDensityOrder (page : PageOptions) (bands : List DensityBand)
    (buffers : List PrintBuffer) : Prop :=
  ∃ groups, BandGroups page bands buffers groups ∧ DensityOrdered bands groups

/-! ### Dividing a list by weight -/

section Weights

variable {α β : Type} {weight : α → Nat}

/-- Two prefixes of a list of positive weights that weigh the same are the
same. -/
theorem append_inj_of_weight {first second rest other : List α}
    (same : first ++ rest = second ++ other)
    (weights : (first.map weight).sum = (second.map weight).sum)
    (positive : ∀ x ∈ first ++ rest, 0 < weight x) :
    first = second ∧ rest = other := by
  induction first generalizing second with
  | nil =>
      cases second with
      | nil => exact ⟨rfl, same⟩
      | cons x second =>
          have heavy := positive x (by rw [same]; simp)
          simp only [List.map_nil, List.sum_nil, List.map_cons,
            List.sum_cons] at weights
          omega
  | cons x first ih =>
      have heavy := positive x (by simp)
      cases second with
      | nil =>
          simp only [List.map_nil, List.sum_nil, List.map_cons,
            List.sum_cons] at weights
          omega
      | cons y second =>
          rw [List.cons_append, List.cons_append, List.cons.injEq] at same
          obtain ⟨rfl, same⟩ := same
          rw [List.map_cons, List.map_cons, List.sum_cons, List.sum_cons,
            Nat.add_left_cancel_iff] at weights
          have tails := ih same weights fun y member =>
            positive y (List.mem_cons_of_mem x member)
          exact ⟨congrArg (x :: ·) tails.1, tails.2⟩

/-- A list of positive weights divides in one way into groups of given
weights. -/
theorem groups_unique_of_weight {share : β → Nat} {shares : List β}
    {groups others : List (List α)}
    (same : groups.flatten = others.flatten)
    (first : List.Forall₂ (fun b group => (group.map weight).sum = share b)
      shares groups)
    (second : List.Forall₂ (fun b group => (group.map weight).sum = share b)
      shares others)
    (positive : ∀ x ∈ groups.flatten, 0 < weight x) : groups = others := by
  induction first generalizing others with
  | nil =>
      cases second
      rfl
  | @cons b group shares groups sum _ ih =>
      cases second with
      | @cons _ other _ others otherSum second =>
          rw [List.flatten_cons, List.flatten_cons] at same
          have split := append_inj_of_weight same (sum.trans otherSum.symm)
            (by simpa using positive)
          have tails := ih split.2 second fun x member =>
            positive x (by simp [List.mem_flatten.mp member])
          rw [split.1, tails]

end Weights

/-! ### The trims of each band -/

theorem toNat_encode_black (density : Density) :
    density.encode.1.toNat = density.black.toNat % 16 := by
  rw [Density.encode, BitVec.toNat_and]
  exact Nat.and_two_pow_sub_one_eq_mod density.black.toNat 4

theorem toNat_encode_red (density : Density) :
    density.encode.2.toNat = min density.red.toNat 15 := by
  simp only [Density.encode, maxDensity, BitVec.lt_def]
  split_ifs with less <;> simp at less ⊢ <;> omega

/-- A group of the buffers of a band: each has columns and the trims of the
band. -/
def TrimmedAs (page : PageOptions) (band : DensityBand)
    (group : List PrintBuffer) : Prop :=
  ∀ buffer ∈ group, 0 < buffer.columnCount / page.colour.planes.toNat ∧
    buffer.trims = band.density.encode

section Split

variable {imageData : Bytes} {perLineByte : U8} {bands : List DensityBand}
  {marginTop marginBottom : U16} {page : PageOptions}
  {buffers : List PrintBuffer}

theorem exists_bandGroups
    (run : splitIntoBandedBuffers imageData perLineByte bands marginTop
      marginBottom page = some buffers) :
    ∃ groups, BandGroups page bands buffers groups ∧
      List.Forall₂ (TrimmedAs page) bands groups := by
  obtain ⟨chunkGroups, cut, advertised⟩ := exists_advertised_of_split run
  obtain ⟨groups, flattened, grouped⟩ := forall₂_flatten_split advertised
  have split := bands_split_of_advertised cut grouped
  refine ⟨groups, ⟨flattened, split.imp fun _ _ band => band.1⟩, ?_⟩
  have positive := planeColumns_pos_of_split run
  rw [← flattened] at positive
  rw [List.forall₂_iff_zip] at split ⊢
  refine ⟨split.1, fun {band group} member buffer inGroup => ⟨?_, ?_⟩⟩
  · exact positive buffer (List.mem_flatten.mpr
      ⟨group, (List.of_mem_zip member).2, inGroup⟩)
  · exact ((split.2 member).2 buffer inGroup).2

/-- The trims of a split are ordered when they are capped. -/
theorem DensityOrdered.of_capped {groups : List (List PrintBuffer)}
    (trimmed : List.Forall₂ (TrimmedAs page) bands groups)
    (capped : ∀ entry ∈ bands.zip groups, entry.2 ≠ [] →
      entry.1.density.encode.1.toNat = min entry.1.density.black.toNat 15) :
    DensityOrdered bands groups := by
  have trims : ∀ entry ∈ bands.zip groups, ∀ buffer ∈ entry.2,
      buffer.trims.1.toNat = min entry.1.density.black.toNat 15 ∧
        buffer.trims.2.toNat = min entry.1.density.red.toNat 15 := by
    intro entry member buffer inGroup
    have trim := ((List.forall₂_iff_zip.mp trimmed).2 member buffer inGroup).2
    rw [trim, toNat_encode_red]
    exact ⟨capped entry member (List.ne_nil_of_mem inGroup), rfl⟩
  refine ⟨?_, ?_, ?_⟩
  · intro first firstMember second secondMember asks more inFirst less inSecond
    rw [BitVec.le_def] at asks ⊢
    rw [(trims first firstMember more inFirst).1,
      (trims second secondMember less inSecond).1]
    omega
  · intro first firstMember second secondMember asks more inFirst less inSecond
    rw [BitVec.le_def] at asks ⊢
    rw [(trims first firstMember more inFirst).2,
      (trims second secondMember less inSecond).2]
    omega
  · intro entry member buffer inGroup
    obtain ⟨black, red⟩ := trims entry member buffer inGroup
    constructor
    · intro above
      apply BitVec.eq_of_toNat_eq
      rw [black]
      simp only [maxDensity, BitVec.lt_def, BitVec.toNat_ofNat] at above ⊢
      omega
    · intro above
      apply BitVec.eq_of_toNat_eq
      rw [red]
      simp only [maxDensity, BitVec.lt_def, BitVec.toNat_ofNat] at above ⊢
      omega

/-- A band has buffers exactly when it has columns. -/
theorem BandGroups.nonempty_iff {groups : List (List PrintBuffer)}
    (divided : BandGroups page bands buffers groups)
    (trimmed : List.Forall₂ (TrimmedAs page) bands groups)
    {entry : DensityBand × List PrintBuffer}
    (member : entry ∈ bands.zip groups) :
    entry.2 ≠ [] ↔ 0 < entry.1.cols.toNat := by
  obtain ⟨band, group⟩ := entry
  have sum := (List.forall₂_iff_zip.mp divided.columns).2 member
  have trims := (List.forall₂_iff_zip.mp trimmed).2 member
  cases group with
  | nil => simp [← sum]
  | cons buffer group =>
      have columns := (trims buffer (by simp)).1
      rw [List.map_cons, List.sum_cons] at sum
      simp only [ne_eq, reduceCtorEq, not_false_eq_true, true_iff]
      omega

/-- Bands kept in the order of density ask for no black that wraps. -/
theorem KeepsDensityOrder.black_inRange
    (keeps : KeepsDensityOrder page bands buffers)
    (run : splitIntoBandedBuffers imageData perLineByte bands marginTop
      marginBottom page = some buffers) :
    ∀ band ∈ bands, 0 < band.cols.toNat →
      band.density.black.toNat ≤ 15 ∨
        band.density.black.toNat % 16 = 15 := by
  obtain ⟨groups, divided, trimmed⟩ := exists_bandGroups run
  obtain ⟨others, otherDivided, ordered⟩ := keeps
  have heavy : ∀ buffer ∈ groups.flatten,
      0 < buffer.columnCount / page.colour.planes.toNat := by
    intro buffer inGroups
    obtain ⟨group, inGroup, inBuffers⟩ := List.mem_flatten.mp inGroups
    obtain ⟨_, _, trims⟩ := exists_left_of_forall₂ trimmed group inGroup
    exact (trims buffer inBuffers).1
  obtain rfl : groups = others := groups_unique_of_weight
    (divided.flatten_eq.trans otherDivided.flatten_eq.symm)
    divided.columns otherDivided.columns heavy
  intro band member printed
  rw [← List.map_fst_zip trimmed.length_eq.le] at member
  obtain ⟨⟨_, group⟩, inZip, rfl⟩ := List.mem_map.mp member
  obtain ⟨buffer, inGroup⟩ := List.exists_mem_of_ne_nil group
    ((divided.nonempty_iff trimmed inZip).mpr printed)
  have trim := ((List.forall₂_iff_zip.mp trimmed).2 inZip buffer inGroup).2
  rw [or_iff_not_imp_left, ← toNat_encode_black, ← trim]
  intro above
  have capped := (ordered.saturates _ inZip buffer inGroup).1
    (by simpa [maxDensity, BitVec.lt_def] using above)
  rw [capped]
  rfl

/-- More density never burns less exactly when no band with columns asks for a
black that wraps. -/
theorem keepsDensityOrder_iff
    (run : splitIntoBandedBuffers imageData perLineByte bands marginTop
      marginBottom page = some buffers) :
    KeepsDensityOrder page bands buffers ↔
      ∀ band ∈ bands, 0 < band.cols.toNat →
        band.density.black.toNat ≤ 15 ∨
          band.density.black.toNat % 16 = 15 := by
  refine ⟨fun keeps => keeps.black_inRange run, fun inRange => ?_⟩
  obtain ⟨groups, divided, trimmed⟩ := exists_bandGroups run
  refine ⟨groups, divided, .of_capped trimmed ?_⟩
  intro entry member nonempty
  have printed := (divided.nonempty_iff trimmed member).mp nonempty
  have asked := inRange entry.1 (List.of_mem_zip member).1 printed
  rw [toNat_encode_black]
  omega

/-- Two bands of a calibration sweep, both within the range. -/
theorem keepsDensityOrder_sweep :
    ∃ buffers,
      splitIntoBandedBuffers [] 48#8
        [⟨100#16, ⟨4#8, 4#8⟩⟩, ⟨20#16, ⟨15#8, 200#8⟩⟩] 8#16 8#16 {} =
          some buffers ∧
      (KeepsDensityOrder {}
          [⟨100#16, ⟨4#8, 4#8⟩⟩, ⟨20#16, ⟨15#8, 200#8⟩⟩] buffers ↔
        ∀ band ∈ ([⟨100#16, ⟨4#8, 4#8⟩⟩, ⟨20#16, ⟨15#8, 200#8⟩⟩] :
            List DensityBand), 0 < band.cols.toNat →
          band.density.black.toNat ≤ 15 ∨
            band.density.black.toNat % 16 = 15) := by
  obtain ⟨_, _, run, _⟩ := splitIntoBandedBuffers_cut [] 48#8
    [⟨100#16, ⟨4#8, 4#8⟩⟩, ⟨20#16, ⟨15#8, 200#8⟩⟩] 8#16 8#16 {} (by decide)
  exact ⟨_, run, keepsDensityOrder_iff run⟩

/-- A band that asks for black 16 gets less than the one that asks for 4. -/
theorem keepsDensityOrder_wraps :
    ∃ buffers,
      splitIntoBandedBuffers [] 48#8
        [⟨20#16, ⟨4#8, 4#8⟩⟩, ⟨20#16, ⟨16#8, 4#8⟩⟩] 8#16 8#16 {} =
          some buffers ∧
      ¬ KeepsDensityOrder {} [⟨20#16, ⟨4#8, 4#8⟩⟩, ⟨20#16, ⟨16#8, 4#8⟩⟩]
        buffers := by
  obtain ⟨_, _, run, _⟩ := splitIntoBandedBuffers_cut [] 48#8
    [⟨20#16, ⟨4#8, 4#8⟩⟩, ⟨20#16, ⟨16#8, 4#8⟩⟩] 8#16 8#16 {} (by decide)
  refine ⟨_, run, fun keeps => ?_⟩
  have inRange := keeps.black_inRange run ⟨20#16, ⟨16#8, 4#8⟩⟩ (by simp)
  exact absurd (inRange (by decide)) (by decide)

end Split

end SupvanCups
