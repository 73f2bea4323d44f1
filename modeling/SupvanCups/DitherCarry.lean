import SupvanCups.CheckedLoops
import SupvanCups.Dithering
import Mathlib.Algebra.Group.Fin.Basic

/-!
# What a dithered line leaves behind

A line changes nothing of a ditherer but its error rows.  In the diffusion
modes one grey pixel leaves an error that turns the first dot of the next line
black, which a clean ditherer leaves white.
-/

namespace SupvanCups

open DitherFloat (asF32)

section Carry

variable {F : Type} [DitherFloat F] [DecidableLT F]

/-! ### Lines in general -/

namespace Ditherer

/-- The ditherer with other error rows. -/
def carrying (d : Ditherer F) (err : ErrorRing F d.width)
    (row : Fin errorRows) : Ditherer F :=
  { d with err := err, row := row }

omit [DitherFloat F] [DecidableLT F] in
theorem carrying_inj {d : Ditherer F} {err err' : ErrorRing F d.width}
    {row row' : Fin errorRows}
    (same : d.carrying err row = d.carrying err' row') :
    err = err' ∧ row = row' := by
  simpa [carrying] using same

end Ditherer

theorem orMask_length {bytes masked : Bytes} {index : Nat} {mask : U8}
    (run : orMask bytes index mask = some masked) :
    masked.length = bytes.length := by
  unfold orMask at run
  split at run
  · rw [← Option.some.inj run, List.length_modify]
  · cases run

theorem paint_length {Step : Type*} {steps : List Step}
    {brush : Step → Option (Nat × U8)} {bytes painted : Bytes}
    (run : paint steps brush bytes = some painted) :
    painted.length = bytes.length := by
  rw [paint] at run
  apply foldlM_keeps (fun reached : Bytes => reached.length = bytes.length) _
    run rfl
  intro step before next here length
  refine Eq.trans ?_ length
  cases stroke : brush step with
  | none =>
      simp only [stroke] at here
      rw [← Option.some.inj here]
  | some place =>
      simp only [stroke] at here
      exact orMask_length here

/-- The error rows after a pixel. -/
def ringStep {width : Nat} (kernel : Kernel F) (isVendor : Bool)
    (row : Fin errorRows) (line : Bytes) (ring : ErrorRing F width)
    (x : Fin width) : ErrorRing F width :=
  let value := asF32 (sourceValue isVendor (line.getD x 0#8)) + ring row x
  kernel.foldl (spread row x (value - (quantise isVendor value).1)) ring

/-- Whether the diffusion inks a pixel. -/
def inks {width : Nat} (isVendor : Bool) (row : Fin errorRows) (line : Bytes)
    (ring : ErrorRing F width) (x : Fin width) : Bool :=
  (quantise isVendor
    (asF32 (sourceValue isVendor (line.getD x 0#8)) + ring row x)).2

theorem diffusePixel_eq {width : Nat} (kernel : Kernel F) (isVendor : Bool)
    (row : Fin errorRows) (line : Bytes) (ring : ErrorRing F width)
    (mono : Bytes) (x : Fin width) :
    diffusePixel kernel isVendor row line (ring, mono) x =
      (if inks isVendor row line ring x then
        orMask mono (mirroredDot width x).1 (mirroredDot width x).2
      else some mono).map fun mono =>
        (ringStep kernel isVendor row line ring x, mono) := by
  unfold diffusePixel inks ringStep
  split <;> simp_all [Option.map_eq_bind]

/-- The bit of a mirrored dot. -/
theorem getLsbD_mirroredDot (width x : Nat) {bit : Nat} (bitBound : bit < 8) :
    (mirroredDot width x).2.getLsbD bit = true ↔
      (width - 1 - x) % 8 = 7 - bit :=
  getLsbD_msbMask (Nat.mod_lt _ (by decide)) bitBound

/-- The dot of a pixel in a packed line. -/
def dotAt (width x : Nat) (mono : Bytes) : Bool :=
  bitAt mono ((width - 1 - x) / 8) (7 - (width - 1 - x) % 8)

/-- Pixels whose dots lie in the line are diffused, and touch no dot but their
own. -/
theorem foldlM_diffusePixel_total {width : Nat} (kernel : Kernel F)
    (isVendor : Bool) (row : Fin errorRows) (line : Bytes)
    {pixels : List (Fin width)} {mono : Bytes}
    (inside : ∀ x ∈ pixels, (mirroredDot width x).1 < mono.length)
    (ring : ErrorRing F width) :
    ∃ mono',
      pixels.foldlM (diffusePixel kernel isVendor row line) (ring, mono) =
        some (pixels.foldl (ringStep kernel isVendor row line) ring, mono') ∧
      mono'.length = mono.length ∧
      ∀ x < width, (∀ other ∈ pixels, other.val ≠ x) →
        dotAt width x mono' = dotAt width x mono := by
  induction pixels generalizing mono ring with
  | nil => exact ⟨mono, rfl, rfl, fun _ _ _ => rfl⟩
  | cons pixel pixels ih =>
      obtain ⟨here, later⟩ := List.forall_mem_cons.mp inside
      rw [List.foldlM_cons, diffusePixel_eq, List.foldl_cons]
      by_cases inked : inks isVendor row line ring pixel = true
      · rw [if_pos inked, orMask_of_lt here, Option.map_some,
          Option.bind_eq_bind, Option.bind_some]
        have laterPainted : ∀ x ∈ pixels, (mirroredDot width x).1 <
            (mono.modify (mirroredDot width pixel).1
              (· ||| (mirroredDot width pixel).2)).length := by
          simpa using later
        obtain ⟨mono', run, length, kept⟩ := ih laterPainted
          (ringStep kernel isVendor row line ring pixel)
        refine ⟨mono', run, by simpa using length, fun x bound others => ?_⟩
        have apart : (pixel : Nat) ≠ x := others pixel List.mem_cons_self
        have pixelBound := pixel.isLt
        rw [kept x bound fun other member =>
          others other (List.mem_cons_of_mem _ member)]
        simp only [dotAt, bitAt_modify_or here, Bool.or_eq_left_iff_imp,
          Bool.and_eq_true, beq_iff_eq]
        rintro ⟨sameByte, sameBit⟩
        simp only [mirroredDot] at sameByte
        have sameShift := (getLsbD_mirroredDot width pixel (by omega)).mp
          sameBit
        omega
      · rw [if_neg inked, Option.map_some, Option.bind_eq_bind,
          Option.bind_some]
        obtain ⟨mono', run, length, kept⟩ := ih later
          (ringStep kernel isVendor row line ring pixel)
        exact ⟨mono', run, length, fun x bound others =>
          kept x bound fun other member =>
            others other (List.mem_cons_of_mem _ member)⟩

theorem foldlM_diffusePixel_length {width : Nat} {kernel : Kernel F}
    {isVendor : Bool} {row : Fin errorRows} {line : Bytes}
    {pixels : List (Fin width)} {state later : ErrorRing F width × Bytes}
    (run : pixels.foldlM (diffusePixel kernel isVendor row line) state =
      some later) :
    later.2.length = state.2.length := by
  apply foldlM_keeps (fun reached => reached.2.length = state.2.length) _ run
    rfl
  rintro pixel ⟨ring, mono⟩ next placed length
  rw [diffusePixel_eq] at placed
  obtain ⟨dotted, inked, rfl⟩ := Option.map_eq_some_iff.mp placed
  refine Eq.trans ?_ length
  split at inked
  · exact orMask_length inked
  · rw [Option.some.inj inked]

namespace Ditherer

/-- A line is dithered if its dots lie in the output. -/
theorem line_total (d : Ditherer F) (line : Bytes) (y : Nat) {mono : Bytes}
    (inside : ∀ x < min d.width line.length,
      (d.width - 1 - x) / 8 < mono.length) :
    ∃ next mono', d.line line y mono = some (next, mono') ∧
      mono'.length = mono.length := by
  have pixels : ∀ x ∈ (List.finRange d.width).take line.length,
      (mirroredDot d.width x).1 < mono.length := by
    intro x member
    apply inside
    obtain ⟨index, indexBound, rfl⟩ := List.mem_iff_getElem.mp member
    simpa [Nat.min_comm] using indexBound
  unfold Ditherer.line
  cases chosen : (d.mode.kernel : Option (Kernel F × Bool)) with
  | none =>
      obtain ⟨mono', run, length, -⟩ := paint_spec
        ((List.finRange d.width).take line.length)
        (fun x =>
          if srgbToLinear.getD (line.getD x 0#8).toNat 0 <
              (bayer4.getD (y % 4) []).getD ((d.width - 1 - x) % 4) 0 then
            some (mirroredDot d.width x)
          else none) mono (by
        intro x member index mask stroke
        obtain ⟨-, stroke⟩ := Option.ite_none_right_eq_some.mp stroke
        have place : (mirroredDot d.width x).1 = index :=
          congrArg Prod.fst (Option.some.inj stroke)
        exact place ▸ pixels x member)
      exact ⟨d, mono', by simp only [run]; rfl, length⟩
  | some choice =>
      obtain ⟨kernel, isVendor⟩ := choice
      obtain ⟨mono', run, length, -⟩ :=
        foldlM_diffusePixel_total kernel isVendor d.row line pixels d.err
      exact ⟨_, mono', by simp only [run]; rfl, length⟩

/-- A line changes the error rows only.  The ordered matrix changes nothing. -/
theorem line_some {d next : Ditherer F} {line mono mono' : Bytes} {y : Nat}
    (run : d.line line y mono = some (next, mono')) :
    mono'.length = mono.length ∧
      ∃ err row, next = d.carrying err row ∧
        (d.mode = .bayer → err = d.err ∧ row = d.row) := by
  unfold Ditherer.line at run
  cases chosen : (d.mode.kernel : Option (Kernel F × Bool)) with
  | none =>
      simp only [chosen] at run
      obtain ⟨painted, paints, same⟩ := Option.map_eq_some_iff.mp run
      obtain ⟨rfl, rfl⟩ := Prod.mk.inj same
      exact ⟨paint_length paints, d.err, d.row, rfl, fun _ => ⟨rfl, rfl⟩⟩
  | some choice =>
      simp only [chosen] at run
      obtain ⟨diffused, diffuses, same⟩ := Option.map_eq_some_iff.mp run
      obtain ⟨rfl, rfl⟩ := Prod.mk.inj same
      refine ⟨foldlM_diffusePixel_length diffuses, _, _, rfl,
        fun isBayer => ?_⟩
      rw [isBayer] at chosen
      cases chosen

end Ditherer

/-! ### The error below the first dot -/

/-- Whether a neighbour of a pixel is in this column, this many rows below. -/
def reaches (x : Nat) (n : Neighbour F) (below : Fin errorRows) (i : Nat) :
    Bool :=
  (BitVec.ofNat 32 x + BitVec.ofInt 32 n.dx).toInt = i ∧
    n.dy % errorRows = below

/-- What a pixel adds to one place of the error rows. -/
def shareAt (kernel : Kernel F) (x : Nat) (error : F) (below : Fin errorRows)
    (i : Nat) (start : F) : F :=
  kernel.foldl (fun sum n =>
    if reaches x n below i then sum + error * n.weight else sum) start

omit [DecidableLT F] in
theorem foldl_spread_apply {width : Nat} (kernel : Kernel F)
    (row : Fin errorRows) (x : Fin width) (error : F)
    (ring : ErrorRing F width) (below : Fin errorRows) (i : Fin width) :
    kernel.foldl (spread row x error) ring (row + below) i =
      shareAt kernel x error below i (ring (row + below) i) := by
  induction kernel generalizing ring with
  | nil => rfl
  | cons n kernel ih =>
      rw [List.foldl_cons, ih, shareAt, shareAt, List.foldl_cons]
      congr 1
      simp only [spread, reaches, decide_eq_true_eq]
      split
      · next negative =>
          rw [if_neg (by omega)]
      split
      · next positive inside =>
          simp only [ErrorRing.add]
          congr 1
          apply propext
          constructor
          · rintro ⟨sameRow, place⟩
            have column := congrArg Fin.val place
            simp only at column
            exact ⟨by omega, congrArg Fin.val (add_left_cancel sameRow).symm⟩
          · rintro ⟨place, sameRow⟩
            obtain rfl : Fin.ofNat errorRows n.dy = below := Fin.ext sameRow
            exact ⟨rfl, Fin.ext (by simp only; omega)⟩
      · next positive outside =>
          rw [if_neg (by omega)]

/-! ### Three kernels -/

theorem DitherMode.exists_kernel (F : Type) [DitherFloat F] {mode : DitherMode}
    (diffuses : mode ≠ .bayer) :
    ∃ kernel isVendor, mode.kernel = some ((kernel : Kernel F), isVendor) := by
  cases mode with
  | bayer => exact absurd rfl diffuses
  | floydSteinberg => exact ⟨_, _, rfl⟩
  | atkinson => exact ⟨_, _, rfl⟩
  | vendor16 => exact ⟨_, _, rfl⟩

/-- A pixel that comes out white in every mode, with an error. -/
def nearWhite : U8 := 247#8

/-- A pixel at the edge between a white dot and a black one. -/
def edgeGrey (isVendor : Bool) : U8 :=
  if isVendor then 128#8 else 50#8

def firstError (F : Type) [DitherFloat F] (isVendor : Bool) : F :=
  asF32 (sourceValue isVendor nearWhite) + asF32 0 - asF32 255

/-- The errors of a row that starts near white and goes on white turn an edge
grey below its start black.  These numbers are exact in `f32` or far from where
rounding would matter. -/
structure CarriesBy (F : Type) [DitherFloat F] [DecidableLT F]
    (isVendor : Bool) (right diagonal below : F) : Prop where
  startWhite : quantise isVendor
    (asF32 (sourceValue isVendor nearWhite) + asF32 0 : F) =
      (asF32 255, false)
  nextWhite : quantise isVendor
    (asF32 255 + (asF32 0 + firstError F isVendor * right)) =
      (asF32 255, false)
  clean : (quantise isVendor
    (asF32 (sourceValue isVendor (edgeGrey isVendor)) + asF32 0 : F)).2 = false
  narrow : (quantise isVendor
    (asF32 (sourceValue isVendor (edgeGrey isVendor)) +
      (asF32 0 + firstError F isVendor * below))).2 = true
  wide : (quantise isVendor
    (asF32 (sourceValue isVendor (edgeGrey isVendor)) +
      ((asF32 0 + firstError F isVendor * below) +
        (asF32 255 + (asF32 0 + firstError F isVendor * right) - asF32 255) *
          diagonal))).2 = true

class CarriesError (F : Type) [DitherFloat F] [DecidableLT F] : Prop extends
    ExactOnBilevel F where
  floydSteinberg : CarriesBy F false (asF32 7 / asF32 16)
    (asF32 3 / asF32 16) (asF32 5 / asF32 16)
  atkinson : CarriesBy F false 0.125 0.125 0.125
  vendor : CarriesBy F true 0.3125 0.1875 0.375

instance : CarriesError Rat where
  floydSteinberg := by constructor <;> decide +kernel
  atkinson := by constructor <;> decide +kernel
  vendor := by constructor <;> decide +kernel

/-- How a kernel shares errors around the start of the next row. -/
structure StartShares (kernel : Kernel F) (right diagonal below : F) :
    Prop where
  toRight : ∀ error start,
    shareAt kernel 0 error 0 1 start = start + error * right
  toBelow : ∀ error start,
    shareAt kernel 0 error 1 0 start = start + error * below
  fromRight : ∀ error start,
    shareAt kernel 1 error 1 0 start = start + error * diagonal
  fromFar : ∀ x, 2 ≤ x → x + 1 < 2 ^ 32 → ∀ error start,
    shareAt kernel x error 1 0 start = start

omit [DitherFloat F] [DecidableLT F] in
/-- A pixel away from the start reaches no further back than its
neighbour. -/
theorem reaches_start_of_far {x : Nat} (far : 2 ≤ x) (bound : x + 1 < 2 ^ 32)
    {n : Neighbour F} (near : n.dx = -1 ∨ n.dx = 0 ∨ n.dx = 1)
    (below : Fin errorRows) : reaches x n below 0 = false := by
  simp only [reaches, decide_eq_false_iff_not, not_and]
  intro column
  obtain ⟨step, stepEq, small⟩ : ∃ step,
      BitVec.ofInt 32 n.dx = BitVec.ofNat 32 step ∧
        (step = 2 ^ 32 - 1 ∨ step ≤ 1) := by
    rcases near with dx | dx | dx
    · exact ⟨2 ^ 32 - 1, by rw [dx]; decide, .inl rfl⟩
    · exact ⟨0, by rw [dx]; decide, .inr (by decide)⟩
    · exact ⟨1, by rw [dx]; decide, .inr (by decide)⟩
  have zero : BitVec.ofNat 32 x + BitVec.ofNat 32 step = 0#32 := by
    rw [← stepEq]
    exact BitVec.eq_of_toInt_eq (by simpa using column)
  have values := congrArg BitVec.toNat zero
  rw [BitVec.toNat_add, BitVec.toNat_ofNat, BitVec.toNat_ofNat,
    BitVec.toNat_ofNat] at values
  omega

omit [DitherFloat F] [DecidableLT F] in
theorem reaches_back (weight : F) :
    reaches 1 ⟨-1, 1, weight⟩ 1 0 = true := by
  simp only [reaches, decide_eq_true_eq]
  decide

omit [DecidableLT F] in
theorem floydSteinberg_startShares :
    StartShares (floydSteinberg : Kernel F) (asF32 7 / asF32 16)
      (asF32 3 / asF32 16) (asF32 5 / asF32 16) where
  toRight := fun _ _ => rfl
  toBelow := fun _ _ => rfl
  fromRight := by
    simp only [shareAt, floydSteinberg, List.foldl_cons, List.foldl_nil,
      reaches_back, if_true]
    simp [reaches]
  fromFar := by
    intro x far bound error start
    simp [shareAt, floydSteinberg, reaches_start_of_far far bound]

omit [DecidableLT F] in
theorem atkinson_startShares :
    StartShares (atkinson : Kernel F) 0.125 0.125 0.125 where
  toRight := fun _ _ => rfl
  toBelow := fun _ _ => rfl
  fromRight := by
    simp only [shareAt, atkinson, List.foldl_cons, List.foldl_nil,
      reaches_back, if_true]
    simp [reaches]
  fromFar := by
    intro x far bound error start
    have twoRight : reaches x (⟨2, 0, 0.125⟩ : Neighbour F) 1 0 = false := by
      simp [reaches]
    have twoBelow : reaches x (⟨0, 2, 0.125⟩ : Neighbour F) 1 0 = false := by
      simp [reaches]
    simp [shareAt, atkinson, reaches_start_of_far far bound, twoRight]

omit [DecidableLT F] in
theorem vendor_startShares :
    StartShares (vendor : Kernel F) 0.3125 0.1875 0.375 where
  toRight := fun _ _ => rfl
  toBelow := fun _ _ => rfl
  fromRight := by
    simp only [shareAt, vendor, List.foldl_cons, List.foldl_nil,
      reaches_back, if_true]
    simp [reaches]
  fromFar := by
    intro x far bound error start
    simp [shareAt, vendor, reaches_start_of_far far bound]

/-! ### A row that leaves an error -/

section Row

variable {kernel : Kernel F} {isVendor : Bool} {right diagonal below : F}

theorem ringStep_apply (kernel : Kernel F) (isVendor : Bool) {width : Nat}
    (row : Fin errorRows) (line : Bytes) (ring : ErrorRing F width)
    (x : Fin width) (under : Fin errorRows) (i : Fin width) :
    ringStep kernel isVendor row line ring x (row + under) i =
      shareAt kernel x
        (asF32 (sourceValue isVendor (line.getD x 0#8)) + ring row x -
          (quantise isVendor
            (asF32 (sourceValue isVendor (line.getD x 0#8)) + ring row x)).1)
        under i (ring (row + under) i) :=
  foldl_spread_apply kernel row x _ ring under i

/-- Pixels away from the start leave the place below it alone. -/
theorem foldl_ringStep_far (shares : StartShares kernel right diagonal below)
    {width : Nat} (widthBound : width < 2 ^ 32) (row : Fin errorRows)
    (line : Bytes) {pixels : List (Fin width)}
    (far : ∀ x ∈ pixels, 2 ≤ x.val) {start : Fin width}
    (atStart : start.val = 0) (ring : ErrorRing F width) :
    pixels.foldl (ringStep kernel isVendor row line) ring (row + 1) start =
      ring (row + 1) start := by
  induction pixels generalizing ring with
  | nil => rfl
  | cons x pixels ih =>
      obtain ⟨here, later⟩ := List.forall_mem_cons.mp far
      have xBound := x.isLt
      rw [List.foldl_cons, ih later, ringStep_apply, atStart]
      exact shares.fromFar x here (by omega) _ _

/-- A row that starts near white and goes on white turns an edge grey below its
start black. -/
theorem row_carries [ExactOnBilevel F]
    (shares : StartShares kernel right diagonal below)
    (carries : CarriesBy F isVendor right diagonal below) {width : Nat}
    (widthBound : width < 2 ^ 32) (row : Fin errorRows) {line : Bytes}
    (first : line.getD 0 0#8 = nearWhite)
    (rest : ∀ x, 0 < x → x < width → line.getD x 0#8 = 0xFF#8)
    {start : Fin width} (atStart : start.val = 0) :
    (quantise isVendor
      (asF32 (sourceValue isVendor (edgeGrey isVendor)) +
        (List.finRange width).foldl (ringStep kernel isVendor row line)
          (cleanRing width) (row + 1) start)).2 = true := by
  have white : sourceValue isVendor 0xFF#8 = 255 :=
    sourceValue_bilevel isVendor false
  rcases width with _ | _ | width
  · exact start.elim0
  · have narrow := carries.narrow
    have zero : List.finRange 1 = [0] := rfl
    rw [zero, List.foldl_cons, List.foldl_nil, ringStep_apply, atStart]
    simp only [Fin.val_zero, first, cleanRing, shares.toBelow,
      carries.startWhite]
    exact narrow
  · have toRight := ringStep_apply kernel isVendor row line
      (cleanRing (width + 2)) 0 0 (Fin.succ 0)
    have toBelow := ringStep_apply kernel isVendor row line
      (cleanRing (width + 2)) 0 1 start
    have second : line.getD 1 0#8 = 0xFF#8 := rest 1 (by omega) (by omega)
    have nextWhite := carries.nextWhite
    simp only [add_zero, Fin.val_zero, Fin.val_succ, zero_add, first,
      cleanRing, shares.toRight, carries.startWhite] at toRight
    simp only [atStart, Fin.val_zero, first, cleanRing, shares.toBelow,
      carries.startWhite] at toBelow
    rw [firstError] at nextWhite
    rw [List.finRange_succ, List.finRange_succ, List.map_cons, List.foldl_cons,
      List.foldl_cons, foldl_ringStep_far shares widthBound row line _ atStart,
      ringStep_apply, atStart]
    · simp only [Fin.val_succ, Fin.val_zero, zero_add, second, white, toRight,
        toBelow, shares.fromRight, nextWhite]
      exact carries.wide
    · intro x member
      simp only [List.mem_map] at member
      obtain ⟨_, ⟨y, _, rfl⟩, rfl⟩ := member
      simp only [Fin.val_succ]
      omega

end Row

/-! ### Lines of a ditherer -/

theorem paint_cons_outside {Step : Type*} {step : Step} (steps : List Step)
    {brush : Step → Option (Nat × U8)} {bytes : Bytes} {stroke : Nat × U8}
    (outside : orMask bytes stroke.1 stroke.2 = none)
    (here : brush step = some stroke) :
    paint (step :: steps) brush bytes = none := by
  simp only [paint, List.foldlM_cons, here, outside]
  rfl

theorem finRange_eq_cons {width : Nat} (start : Fin width)
    (atStart : start.val = 0) :
    ∃ tail, List.finRange width = start :: tail ∧
      ∀ x ∈ tail, x.val ≠ 0 := by
  cases width with
  | zero => exact start.elim0
  | succ width =>
      obtain rfl : start = 0 := Fin.ext atStart
      refine ⟨_, List.finRange_succ, fun x member => ?_⟩
      obtain ⟨y, _, rfl⟩ := List.mem_map.mp member
      exact Nat.succ_ne_zero y

namespace Ditherer

/-- What becomes of an edge grey at the start of the next line. -/
def EdgeIs (isVendor ink : Bool) (d : Ditherer F) : Prop :=
  ∀ start : Fin d.width, start.val = 0 →
    (quantise isVendor
      (asF32 (sourceValue isVendor (edgeGrey isVendor)) +
        d.err d.row start)).2 = ink

variable {d next : Ditherer F} {kernel : Kernel F} {isVendor : Bool}
  {line mono mono' : Bytes} {y : Nat}

theorem line_of_kernel (chosen : d.mode.kernel = some (kernel, isVendor))
    (full : d.width ≤ line.length)
    (inside : divCeil d.width 8 ≤ mono.length)
    (blank : dotAt d.width 0 mono = false) (start : Fin d.width)
    (atStart : start.val = 0) (y : Nat) :
    ∃ err mono', d.line line y mono =
        some (d.carrying err (d.row + 1), mono') ∧
      err (d.row + 1) start =
        (List.finRange d.width).foldl (ringStep kernel isVendor d.row line)
          d.err (d.row + 1) start ∧
      dotAt d.width 0 mono' = inks isVendor d.row line d.err start := by
  obtain ⟨tail, split, later⟩ := finRange_eq_cons start atStart
  have startBound := start.isLt
  have dots : ∀ x < d.width, ∀ bytes : Bytes, bytes.length = mono.length →
      (mirroredDot d.width x).1 < bytes.length := by
    intro x xBound bytes length
    simp only [mirroredDot, divCeil] at inside ⊢
    omega
  have marked : ∃ painted : Bytes, painted.length = mono.length ∧
      (if inks isVendor d.row line d.err start then
        orMask mono (mirroredDot d.width start).1
          (mirroredDot d.width start).2
      else some mono) = some painted ∧
      dotAt d.width 0 painted = inks isVendor d.row line d.err start := by
    cases inked : inks isVendor d.row line d.err start with
    | false => exact ⟨mono, rfl, rfl, blank⟩
    | true =>
        have here := dots start startBound mono rfl
        refine ⟨_, by simp, (if_pos rfl).trans (orMask_of_lt here _), ?_⟩
        simp only [dotAt, bitAt_modify_or here, Bool.or_eq_true,
          Bool.and_eq_true, beq_iff_eq]
        refine .inr ⟨by rw [mirroredDot, atStart], ?_⟩
        rw [getLsbD_mirroredDot _ _ (by omega), atStart]
        omega
  obtain ⟨painted, length, run, dot⟩ := marked
  obtain ⟨mono', runTail, _, kept⟩ :=
    foldlM_diffusePixel_total kernel isVendor d.row line
      (fun x _ => dots x x.isLt painted length)
      (ringStep kernel isVendor d.row line d.err start)
  let err : ErrorRing F d.width := fun r x =>
    if r = d.row then asF32 0
    else (List.finRange d.width).foldl (ringStep kernel isVendor d.row line)
      d.err r x
  refine ⟨err, mono', ?_, ?_, (kept 0 (by omega) later).trans dot⟩
  · unfold Ditherer.line
    rw [List.take_of_length_le (by simpa using full), chosen]
    simp only [split, List.foldlM_cons, diffusePixel_eq, run,
      Option.map_some, Option.bind_eq_bind, Option.bind_some, runTail, err,
      List.foldl_cons]
    rfl
  · have next : d.row + 1 ≠ d.row := by simp
    exact if_neg next

theorem exists_startShares [CarriesError F] {mode : DitherMode}
    (chosen : mode.kernel = some (kernel, isVendor)) :
    ∃ right diagonal below, StartShares kernel right diagonal below ∧
      CarriesBy F isVendor right diagonal below := by
  cases mode <;> cases chosen
  · exact ⟨_, _, _, floydSteinberg_startShares, CarriesError.floydSteinberg⟩
  · exact ⟨_, _, _, atkinson_startShares, CarriesError.atkinson⟩
  · exact ⟨_, _, _, vendor_startShares, CarriesError.vendor⟩

/-- A clean line that starts near white turns the next edge grey black. -/
theorem line_marks [CarriesError F]
    (chosen : d.mode.kernel = some (kernel, isVendor)) (clean : d.Clean)
    (widthBound : d.width < 2 ^ 32) (full : d.width ≤ line.length)
    (first : line.getD 0 0#8 = nearWhite)
    (rest : ∀ x, 0 < x → x < d.width → line.getD x 0#8 = 0xFF#8)
    (inside : divCeil d.width 8 ≤ mono.length)
    (blank : dotAt d.width 0 mono = false)
    (run : d.line line y mono = some (next, mono')) :
    next.EdgeIs isVendor true := by
  obtain ⟨right, diagonal, below, shares, carries⟩ := exists_startShares chosen
  obtain ⟨_, err, row, rfl, _⟩ := line_some run
  intro start atStart
  obtain ⟨_, _, same, left, _⟩ :=
    line_of_kernel chosen full inside blank start atStart y
  obtain ⟨kept, _⟩ := Prod.mk.inj (Option.some.inj (run.symm.trans same))
  obtain ⟨rfl, rfl⟩ := carrying_inj kept
  simp only [carrying, left]
  rw [clean]
  exact row_carries shares carries widthBound d.row first rest atStart

/-- The first dot of a line that starts with an edge grey. -/
theorem line_edge (chosen : d.mode.kernel = some (kernel, isVendor))
    (widthPos : 0 < d.width) (full : d.width ≤ line.length)
    (first : line.getD 0 0#8 = edgeGrey isVendor)
    (inside : divCeil d.width 8 ≤ mono.length)
    (blank : dotAt d.width 0 mono = false) {ink : Bool}
    (edge : d.EdgeIs isVendor ink)
    (run : d.line line y mono = some (next, mono')) :
    dotAt d.width 0 mono' = ink := by
  obtain ⟨_, _, same, _, dot⟩ :=
    line_of_kernel chosen full inside blank ⟨0, widthPos⟩ rfl y
  obtain ⟨_, rfl⟩ := Prod.mk.inj (Option.some.inj (run.symm.trans same))
  rw [dot, inks, first]
  exact edge ⟨0, widthPos⟩ rfl

/-- A clean ditherer leaves an edge grey white. -/
theorem Clean.edgeIs [CarriesError F] (clean : d.Clean)
    (chosen : d.mode.kernel = some (kernel, isVendor)) :
    d.EdgeIs isVendor false := by
  obtain ⟨right, diagonal, below, _, carries⟩ := exists_startShares chosen
  intro start _
  rw [clean]
  exact carries.clean

/-- A clean black-and-white line leaves the ditherer clean. -/
theorem line_keepsClean [ExactOnBilevel F] (clean : d.Clean)
    (full : d.width ≤ line.length) (ink : Nat → Bool)
    (bilevel : ∀ x < d.width, line.getD x 0#8 = bilevelPixel (ink x))
    (run : d.line line y mono = some (next, mono')) : next.Clean := by
  obtain ⟨other, otherClean, _, dithered⟩ :=
    line_bilevel clean line full ink bilevel y mono
  rw [run] at dithered
  obtain ⟨_, _, same⟩ := Option.map_eq_some_iff.mp dithered.symm
  rw [← (Prod.mk.inj same).1]
  exact otherClean

/-- A black dot outside the output is a panic. -/
theorem line_outside [ExactOnBilevel F] (clean : d.Clean)
    (nonempty : 0 < line.length) (black : line.getD 0 0#8 = 0x00#8) (y : Nat)
    (start : Fin d.width) (atStart : start.val = 0)
    (outside : mono.length ≤ (d.width - 1) / 8) :
    d.line line y mono = none := by
  obtain ⟨tail, split, _⟩ := finRange_eq_cons start atStart
  have pixels : (List.finRange d.width).take line.length =
      start :: tail.take (line.length - 1) := by
    rw [split, ← List.take_succ_cons, Nat.sub_add_cancel nonempty]
  have refused : orMask mono (mirroredDot d.width start).1
      (mirroredDot d.width start).2 = none := by
    simp only [mirroredDot, atStart, Nat.sub_zero]
    exact if_neg (Nat.not_lt.mpr outside)
  let ink : Nat → Bool := fun _ => true
  have blackPixel : line.getD start 0#8 = bilevelPixel (ink start) := by
    rw [atStart, black]
    rfl
  unfold Ditherer.line
  rw [pixels]
  cases chosen : (d.mode.kernel : Option (Kernel F × Bool)) with
  | none =>
      simp only
      rw [paint_cons_outside _ refused]
      · rfl
      · rw [blackPixel]
        exact if_pos ((bayer4_bilevel y _ (ink start)).mpr rfl)
  | some choice =>
      obtain ⟨kernel, isVendor⟩ := choice
      have cleanErr : d.err = cleanRing d.width := clean
      have placed := diffusePixel_bilevel (DitherMode.kernel_share chosen)
        isVendor d.row line mono start blackPixel
      have stroke : inkBrush d.width ink start =
          some (mirroredDot d.width start) := if_pos rfl
      rw [paint_cons_outside [] refused stroke] at placed
      simp only [List.foldlM_cons, cleanErr, placed]
      rfl

end Ditherer

end Carry

end SupvanCups
