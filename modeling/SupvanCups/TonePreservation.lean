import SupvanCups.CarriedError

/-!
# Floyd-Steinberg keeps the tone

A page dithered by Floyd-Steinberg is as dark as its source, up to what leaves
it at the edges, line by line, and what is still carried at its end.  This holds
as long as the columns of the page fit in an `i32`; past them every error is
lost.
-/

namespace SupvanCups

open DitherFloat (asF32)
open Finset (range)

/-- A fresh Floyd-Steinberg ditherer in exact arithmetic. -/
abbrev freshDitherer (width : Nat) : Ditherer Rat :=
  Ditherer.new .floydSteinberg width

/-- The error rows when a line has come to a pixel. -/
def Ditherer.Reaches (d : Ditherer Rat) (s : Scanline) (x : Fin d.width)
    (ring : ErrorRing Rat d.width) : Prop :=
  ∃ mono, ((List.finRange d.width).take x).foldlM
    (diffusePixel floydSteinberg false d.row s.line)
    (d.err, List.replicate s.room 0#8) = some (ring, mono)

/-- The linearised source of a line. -/
def lineSource (width : Nat) (line : Bytes) : Nat :=
  ∑ x ∈ range width, sourceValue false (line.getD x 0#8)

/-- The dots of an output line that are not inked. -/
def blankDots (width : Nat) (mono : Bytes) : Nat :=
  ((range width).filter fun c => msbDot mono 0 0 c = false).card

/-- A page that is dithered with every error and every cell within 128, and
with the tone of its source. -/
structure KeepsTone (width : Nat) (page : List Scanline) : Prop where
  /-- Every pixel of every line has a small error. -/
  errors : ∀ before s after d monos ring, page = before ++ s :: after →
    (freshDitherer width).feed before = some (d, monos) →
    ∀ x, d.Reaches s x ring → |pixelError ring d.row s.line x| ≤ 128
  /-- Every cell stays small, also while a pixel spreads its error. -/
  cells : ∀ before s after d monos ring, page = before ++ s :: after →
    (freshDitherer width).feed before = some (d, monos) →
    ∀ x, d.Reaches s x ring → ∀ given, given <+: floydSteinberg → ∀ r i,
      |given.foldl (spread d.row x (pixelError ring d.row s.line x)) ring r i| ≤
        128
  /-- Every cell is small between two lines and at the end. -/
  between : ∀ before after d monos, page = before ++ after →
    (freshDitherer width).feed before = some (d, monos) →
    ∀ r i, |d.err r i| ≤ 128
  tone : ∃ d monos, (freshDitherer width).feed page = some (d, monos) ∧
    |((page.map fun s => lineSource width s.line).sum : Int) -
      255 * (monos.map (blankDots width)).sum| ≤
        88 * page.length + 72 * width

/-! ### Tone, counted on the output -/

section Output

variable {width : Nat}

/-- An output line shows the tone of the dots it mirrors. -/
theorem Mirrors.lineShift_eq {dots : List Bool} {mono : Bytes}
    (mirrors : Mirrors width dots mono) (line : Bytes) :
    lineShift width line dots =
      (lineSource width line : Rat) - 255 * (blankDots width mono : Rat) := by
  have blank : (blankDots width mono : Rat) =
      ∑ x ∈ range width, if dots.getD x false then 0 else 1 := by
    rw [← Finset.sum_range_reflect, blankDots, Finset.card_filter,
      Nat.cast_sum]
    refine Finset.sum_congr rfl fun c member => ?_
    have inside := Finset.mem_range.mp member
    rw [mirrors c, decide_eq_true inside, Bool.true_and,
      Nat.sub_right_comm]
    cases dots.getD (width - c - 1) false <;> simp
  rw [blank, lineShift, lineSource, Nat.cast_sum, Finset.mul_sum,
    ← Finset.sum_sub_distrib]
  refine Finset.sum_congr rfl fun x _ => ?_
  rw [toneShift]
  cases dots.getD x false <;> simp

/-- How much darker a page is printed than its source. -/
def pageShift (width : Nat) (page : List Scanline)
    (dots : List (List Bool)) : Rat :=
  (List.zipWith (fun s => lineShift width s.line) page dots).sum

theorem pageShift_eq {page : List Scanline} {dots : List (List Bool)}
    (length : dots.length = page.length) {monos : List Bytes}
    (mirrors : List.Forall₂ (Mirrors width) dots monos) :
    pageShift width page dots =
      (((page.map fun s => lineSource width s.line).sum : Int) -
        255 * ((monos.map (blankDots width)).sum : Int) : Int) := by
  induction mirrors generalizing page with
  | nil =>
      obtain rfl := List.length_eq_zero_iff.mp length.symm
      simp [pageShift]
  | cons mirrors _ ih =>
      cases page with
      | nil => cases length
      | cons s page =>
          have later := ih (Nat.succ.inj length)
          rw [pageShift, List.zipWith_cons_cons, List.sum_cons, ← pageShift,
            later, mirrors.lineShift_eq s.line]
          simp only [List.map_cons, List.sum_cons]
          push_cast
          ring

end Output

/-! ### Pages that an `i32` can address -/

namespace Ditherer

variable {d : Ditherer Rat}

theorem scan_floydSteinberg (d : Ditherer Rat) (line : Bytes) :
    d.scan floydSteinberg false line =
      (d.carrying (spent (ringAt d.err d.row line d.width) d.row) (d.row + 1),
        lineDots d.err d.row line) := by
  rw [ringAt_width]
  rfl

theorem scans_width (d : Ditherer Rat) (page : List Scanline) :
    (d.scans floydSteinberg false page).1.width = d.width := by
  induction page generalizing d with
  | nil => rfl
  | cons s page ih => exact ih _

theorem scans_length (d : Ditherer Rat) (page : List Scanline) :
    (d.scans floydSteinberg false page).2.length = page.length := by
  induction page generalizing d with
  | nil => rfl
  | cons s page ih => exact congrArg (· + 1) (ih _)

/-- A run begins every line anew, and shifts the tone by what becomes of the
pending error, and by 88 a line at most beyond that. -/
theorem scans_begins (narrow : d.width ≤ 2 ^ 31) (begins : Begins d.err d.row)
    (page : List Scanline) :
    let last := d.scans floydSteinberg false page
    Begins last.1.err last.1.row ∧
      |pageShift d.width page last.2 -
        (pending last.1.err last.1.row 0 - pending d.err d.row 0)| ≤
          88 * page.length := by
  induction page generalizing d with
  | nil => exact ⟨begins, by simp [scans, pageShift]⟩
  | cons s page ih =>
      have here := begins.lineShift_le narrow s.line
      have finished := begins.carried.at narrow s.line le_rfl
      have next := @ih
        (d.carrying (spent (ringAt d.err d.row s.line d.width) d.row)
          (d.row + 1)) narrow finished.spend
      rw [scans, scan_floydSteinberg]
      obtain ⟨later, shift⟩ := next
      refine ⟨later, ?_⟩
      dsimp only [carrying] at shift ⊢
      rw [pageShift, List.zipWith_cons_cons, List.sum_cons, ← pageShift,
        List.length_cons, Nat.cast_succ, mul_add, mul_one]
      rw [abs_le] at here shift ⊢
      constructor <;> linarith

/-- The rows that a line reaches are those of its pixels. -/
theorem Reaches.eq_ringAt {s : Scanline} {x : Fin d.width}
    {ring : ErrorRing Rat d.width} (reaches : d.Reaches s x ring) :
    ring = ringAt d.err d.row s.line x := by
  obtain ⟨mono, run⟩ := reaches
  rw [foldlM_diffusePixel_scan] at run
  obtain ⟨painted, -, same⟩ := Option.map_eq_some_iff.mp run
  exact (Prod.mk.inj same).1.symm

end Ditherer

theorem freshDitherer_kernel (width : Nat) :
    (freshDitherer width).mode.kernel =
      some ((floydSteinberg : Kernel Rat), false) :=
  rfl

section Narrow

variable {width : Nat}

theorem freshDitherer_begins (width : Nat) :
    Begins (freshDitherer width).err (freshDitherer width).row where
  here := by
    intro i
    have blank : (freshDitherer width).err (freshDitherer width).row i = 0 :=
      rfl
    rw [blank]
    norm_num
  next := fun _ => rfl
  far := fun _ => rfl

theorem freshDitherer_pending (width : Nat) :
    pending (freshDitherer width).err (freshDitherer width).row 0 = 0 := by
  refine Finset.sum_eq_zero fun i _ => ?_
  have blank : ∀ r, (freshDitherer width).err r i = 0 := fun _ => rfl
  simp [blank]

/-- A ditherer that was fed the start of a page begins its next line. -/
theorem begins_of_feed (narrow : width ≤ 2 ^ 31) {before : List Scanline}
    (fits : ∀ s ∈ before, s.Fits width) {d : Ditherer Rat}
    {monos : List Bytes}
    (fed : (freshDitherer width).feed before = some (d, monos)) :
    d.width ≤ 2 ^ 31 ∧ Begins d.err d.row := by
  obtain ⟨shown, run, -⟩ :=
    (freshDitherer width).feed_scans (freshDitherer_kernel width) fits
  obtain ⟨rfl, -⟩ := Prod.mk.inj (Option.some.inj (fed.symm.trans run))
  refine ⟨?_, ((freshDitherer width).scans_begins narrow
    (freshDitherer_begins width) before).1⟩
  rw [Ditherer.scans_width]
  exact narrow

/-- While a pixel of a narrow page spreads its error, every cell is small. -/
theorem Carried.given_le_bound {ring : ErrorRing Rat width}
    {row : Fin errorRows} {x : Fin width}
    (narrow : width ≤ 2 ^ 31) (carried : Carried ring row x.val)
    (line : Bytes) {given : Kernel Rat} (isPrefix : given <+: floydSteinberg)
    (r : Fin errorRows) (i : Fin width) :
    |given.foldl (spread row x (pixelError ring row line x)) ring r i| ≤
      128 := by
  have cell := carried.given_le line isPrefix (r - row) i
  rw [add_sub_cancel] at cell
  have grown := weightBefore_succ narrow x.isLt i.isLt (r - row)
  have bound := weightBefore_le_one (x.val + 1) (r - row) i.val
  linarith

/-- The tone of a whole page. -/
theorem tone_of_narrow (narrow : width ≤ 2 ^ 31) {page : List Scanline}
    (fits : ∀ s ∈ page, s.Fits width) :
    ∃ d monos, (freshDitherer width).feed page = some (d, monos) ∧
      |((page.map fun s => lineSource width s.line).sum : Int) -
        255 * (monos.map (blankDots width)).sum| ≤
          88 * page.length + 72 * width := by
  obtain ⟨monos, run, mirrors⟩ :=
    (freshDitherer width).feed_scans (freshDitherer_kernel width) fits
  refine ⟨_, monos, run, ?_⟩
  obtain ⟨finished, shift⟩ := (freshDitherer width).scans_begins narrow
    (freshDitherer_begins width) page
  have sameWidth := (freshDitherer width).scans_width page
  have left := finished.pending_le.trans
    (le_of_eq (congrArg (fun w : Nat => 72 * (w : Rat)) sameWidth))
  have counted := pageShift_eq ((freshDitherer width).scans_length page) mirrors
  rw [freshDitherer_pending, sub_zero, counted] at shift
  have total := (abs_sub_abs_le_abs_sub _ _).trans shift
  have small := (sub_le_iff_le_add.mp total).trans (add_le_add_right left _)
  exact_mod_cast small

theorem keepsTone_of_narrow (narrow : width ≤ 2 ^ 31) {page : List Scanline}
    (fits : ∀ s ∈ page, s.Fits width) : KeepsTone width page where
  errors := by
    rintro before s after d monos ring rfl fed x reached
    obtain ⟨small, begins⟩ := begins_of_feed narrow
      (fun s member => fits s (List.mem_append_left _ member)) fed
    rw [reached.eq_ringAt]
    exact (begins.carried.at small s.line x.isLt.le).error_le s.line x
  cells := by
    rintro before s after d monos ring rfl fed x reached given isPrefix r i
    obtain ⟨small, begins⟩ := begins_of_feed narrow
      (fun s member => fits s (List.mem_append_left _ member)) fed
    rw [reached.eq_ringAt]
    exact (begins.carried.at small s.line x.isLt.le).given_le_bound small s.line
      isPrefix r i
  between := by
    rintro before after d monos rfl fed r i
    obtain ⟨-, begins⟩ := begins_of_feed narrow
      (fun s member => fits s (List.mem_append_left _ member)) fed
    exact begins.carried.cell_le r i
  tone := tone_of_narrow narrow fits

end Narrow

/-! ### Pages with columns past an `i32` -/

section Wide

variable {width : Nat}

/-- The lightest grey that is inked on its own, `127` off black. -/
def darkGrey : U8 := 49#8

/-- A white line but for a dark grey at the edge column. -/
def darkEdgeLine (width : Nat) : Bytes :=
  (List.range width).map fun x =>
    if x = edgeColumn then darkGrey else bilevelPixel false

theorem sourceValue_darkEdgeLine {x : Nat} (bound : x < width) :
    sourceValue false ((darkEdgeLine width).getD x 0#8) =
      if x = edgeColumn then 127 else 255 := by
  have pixel : (darkEdgeLine width).getD x 0#8 =
      if x = edgeColumn then darkGrey else bilevelPixel false := by
    simp [darkEdgeLine, bound]
  rw [pixel]
  split
  · decide
  · decide

/-- Error rows that make nothing darker, and that hold nothing from the edge
column on. -/
structure Lightened (ring : ErrorRing Rat width) : Prop where
  nonneg : ∀ r i, 0 ≤ ring r i
  beyond : ∀ r i, edgeColumn ≤ i.val → ring r i = 0

section Line

variable {ring : ErrorRing Rat width} {row : Fin errorRows}

/-- Only the pixel at the edge column is inked. -/
theorem Lightened.inks_eq (lightened : Lightened ring) (x : Fin width) :
    inks false row (darkEdgeLine width) ring x =
      decide (x.val = edgeColumn) := by
  have threshold : (asF32 128 : Rat) = 128 := rfl
  rw [inks, quantise, if_neg Bool.false_ne_true, threshold,
    sourceValue_darkEdgeLine x.isLt]
  split
  · next edge =>
      have dark : (asF32 127 : Rat) = 127 := rfl
      rw [lightened.beyond row x edge.ge, dark, if_pos (by norm_num),
        decide_eq_true edge]
  · next other =>
      have white : (asF32 255 : Rat) = 255 := rfl
      have cell := lightened.nonneg row x
      rw [white, if_neg (by linarith), decide_eq_false other]

theorem toneShift_darkEdgeLine {x : Nat} (bound : x < width) :
    toneShift (darkEdgeLine width) x (decide (x = edgeColumn)) =
      if x = edgeColumn then 127 else 0 := by
  rw [toneShift, sourceValue_darkEdgeLine bound]
  split <;> simp [*]

theorem Lightened.pixelError_nonneg (lightened : Lightened ring)
    (row : Fin errorRows) (x : Fin width) :
    0 ≤ pixelError ring row (darkEdgeLine width) x := by
  have shift := toneShift_inks ring row (darkEdgeLine width) x
  rw [lightened.inks_eq, toneShift_darkEdgeLine x.isLt] at shift
  have cell := lightened.nonneg row x
  split at shift <;> linarith

theorem Lightened.step (lightened : Lightened ring) (x : Fin width) :
    Lightened (ringStep floydSteinberg false row (darkEdgeLine width) ring x)
    where
  nonneg := by
    intro r i
    have stepped := foldl_spread_apply floydSteinberg row x
      (pixelError ring row (darkEdgeLine width) x) ring (r - row) i
    rw [add_sub_cancel, shareAt_eq] at stepped
    have weight := weightAt_nonneg floydSteinberg_positive x.val (r - row) i
    have given := mul_nonneg (lightened.pixelError_nonneg row x) weight
    exact (add_nonneg (lightened.nonneg r i) given).trans_eq stepped.symm
  beyond := by
    intro r i edge
    exact (foldl_spread_beyond _ row x _ ring r edge).trans
      (lightened.beyond r i edge)

theorem Lightened.at (lightened : Lightened ring) (row : Fin errorRows)
    {x : Nat} (reached : x ≤ width) :
    Lightened (ringAt ring row (darkEdgeLine width) x) := by
  induction x with
  | zero => exact lightened
  | succ x ih =>
      rw [ringAt_succ ring reached]
      exact (ih (Nat.le_of_succ_le reached)).step ⟨x, reached⟩

theorem Lightened.spent (lightened : Lightened ring) :
    Lightened (spent ring row) where
  nonneg := by
    intro r i
    rw [SupvanCups.spent]
    split
    · exact le_rfl
    · exact lightened.nonneg r i
  beyond := by
    intro r i edge
    rw [SupvanCups.spent]
    split
    · rfl
    · exact lightened.beyond r i edge

/-- Every such line is printed 127 darker than its source. -/
theorem Lightened.lineShift_eq (lightened : Lightened ring)
    (row : Fin errorRows) (wide : edgeColumn < width) :
    lineShift width (darkEdgeLine width)
      (lineDots ring row (darkEdgeLine width)) = 127 := by
  have pixels : ∀ x ∈ range width,
      toneShift (darkEdgeLine width) x
        ((lineDots ring row (darkEdgeLine width)).getD x false) =
          if x = edgeColumn then 127 else 0 := by
    intro x member
    have bound := Finset.mem_range.mp member
    have reached := lightened.at row bound.le
    rw [lineDots_getD ring bound, reached.inks_eq, toneShift_darkEdgeLine bound]
  rw [lineShift, Finset.sum_congr rfl pixels, Finset.sum_ite_eq',
    if_pos (Finset.mem_range.mpr wide)]

end Line

/-- Dark edges down the whole page, twice as many as the page is wide. -/
def darkEdgePage (width : Nat) : List Scanline :=
  List.replicate (2 * width) ⟨darkEdgeLine width, 0, divCeil width 8⟩

theorem darkEdgePage_fits (width : Nat) :
    ∀ s ∈ darkEdgePage width, s.Fits width := by
  intro s member
  obtain rfl := List.eq_of_mem_replicate member
  exact ⟨by simp [darkEdgeLine], le_rfl⟩

theorem Ditherer.pageShift_darkEdge {d : Ditherer Rat}
    (lightened : Lightened d.err) (wide : edgeColumn < d.width) (y room : Nat)
    (n : Nat) :
    let page := List.replicate n ⟨darkEdgeLine d.width, y, room⟩
    pageShift d.width page (d.scans floydSteinberg false page).2 = 127 * n := by
  induction n generalizing d with
  | zero => simp [scans, pageShift]
  | succ n ih =>
      have here := lightened.lineShift_eq d.row wide
      have reached := lightened.at d.row le_rfl
      have later := @ih
        (d.carrying (spent (ringAt d.err d.row (darkEdgeLine d.width) d.width)
          d.row) (d.row + 1)) reached.spent wide
      dsimp only [carrying] at later
      dsimp only
      rw [List.replicate_succ, scans, scan_floydSteinberg, pageShift,
        List.zipWith_cons_cons, List.sum_cons, ← pageShift, here]
      dsimp only [carrying]
      rw [later]
      push_cast
      ring

theorem freshDitherer_lightened (width : Nat) :
    Lightened (freshDitherer width).err :=
  ⟨fun _ _ => le_rfl, fun _ _ _ => rfl⟩

/-- The dark edges of a wide page are printed `254` darker for each column,
where `248` are allowed. -/
theorem not_keepsTone_of_wide (wide : edgeColumn < width) :
    ¬ KeepsTone width (darkEdgePage width) := by
  intro keeps
  obtain ⟨d, monos, fed, tone⟩ := keeps.tone
  obtain ⟨shown, run, mirrors⟩ := (freshDitherer width).feed_scans
    (freshDitherer_kernel width) (darkEdgePage_fits width)
  obtain ⟨-, rfl⟩ := Prod.mk.inj (Option.some.inj (fed.symm.trans run))
  have shift := (freshDitherer width).pageShift_darkEdge
    (freshDitherer_lightened width) wide 0 (divCeil width 8) (2 * width)
  have counted := pageShift_eq
    ((freshDitherer width).scans_length (darkEdgePage width)) mirrors
  have total := counted.symm.trans shift
  have lines : (darkEdgePage width).length = 2 * width :=
    List.length_replicate
  have columns : (0 : Rat) < width := by
    exact_mod_cast (Nat.zero_le edgeColumn).trans_lt wide
  have bound : |(127 * (2 * width : Nat) : Rat)| ≤
      88 * (2 * width : Nat) + 72 * width := by
    rw [← total, ← lines]
    exact_mod_cast tone
  have sign := le_of_abs_le bound
  push_cast at sign
  linarith

end Wide

/-- In exact arithmetic, Floyd-Steinberg keeps the tone of every page of a width
exactly when the width is at most `2 ^ 31`. -/
theorem floydSteinberg_keepsTone_iff (width : Nat) :
    (∀ page : List Scanline, (∀ s ∈ page, s.Fits width) →
        KeepsTone width page) ↔
      width ≤ 2 ^ 31 := by
  constructor
  · intro keeps
    by_contra wide
    exact not_keepsTone_of_wide (not_le.mp wide)
      (keeps _ (darkEdgePage_fits width))
  · intro narrow page fits
    exact keepsTone_of_narrow narrow fits

/-- One column past the edge, the error of the dark edge is lost in its line and
below. -/
theorem floydSteinberg_losesTone :
    (∀ s ∈ darkEdgePage (2 ^ 31 + 1), s.Fits (2 ^ 31 + 1)) ∧
      ¬ KeepsTone (2 ^ 31 + 1) (darkEdgePage (2 ^ 31 + 1)) :=
  ⟨darkEdgePage_fits _, not_keepsTone_of_wide (Nat.lt_succ_self _)⟩

end SupvanCups
