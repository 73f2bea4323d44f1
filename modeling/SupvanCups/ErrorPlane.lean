import SupvanCups.DitherRuns
import SupvanCups.SlidingRows

/-!
# Error diffusion on a plane

The textbook algorithm keeps the error of every pixel of the page on a plane,
scans the pixels in reading order, and drops an error only where it would leave
the columns of the page.  The ring of error rows shows a window of that plane,
as long as the columns stay within the `i32` that the ring computes them in.
-/

namespace SupvanCups

open DitherFloat (asF32)
open SlidingRows (Window)

/-! ### The textbook algorithm -/

/-- Carried errors by row and column. -/
abbrev ErrorPlane (F : Type) := Nat → Int → F

namespace ErrorPlane

variable {F : Type} [DitherFloat F]

/-- Give a neighbour of pixel `x` of line `y` its share of the error, unless it
lies beside the page. -/
def spread (width y x : Nat) (error : F) (plane : ErrorPlane F)
    (n : Neighbour F) : ErrorPlane F :=
  let column : Int := x + n.dx
  if 0 ≤ column ∧ column < width then
    SlidingRows.setCell plane (y + n.dy) column (· + error * n.weight)
  else
    plane

/-- Source and accumulated error of a pixel. -/
def value (isVendor : Bool) (y : Nat) (line : Bytes) (plane : ErrorPlane F)
    (x : Nat) : F :=
  asF32 (sourceValue isVendor (line.getD x 0#8)) + plane y x

variable [DecidableLT F]

/-- Quantise a pixel and spread its error. -/
def pixel (kernel : Kernel F) (isVendor : Bool) (width y : Nat) (line : Bytes)
    (plane : ErrorPlane F) (x : Nat) : ErrorPlane F :=
  let value := plane.value isVendor y line x
  kernel.foldl (spread width y x (value - (quantise isVendor value).1)) plane

/-- Whether a pixel is inked. -/
def inks (isVendor : Bool) (y : Nat) (line : Bytes) (plane : ErrorPlane F)
    (x : Nat) : Bool :=
  (quantise isVendor (plane.value isVendor y line x)).2

/-- The plane after some pixels of a line, and which of these were inked. -/
def scan (kernel : Kernel F) (isVendor : Bool) (width y : Nat) (line : Bytes) :
    List Nat → ErrorPlane F → ErrorPlane F × List Bool
  | [], plane => (plane, [])
  | x :: pixels, plane =>
      let later := scan kernel isVendor width y line pixels
        (plane.pixel kernel isVendor width y line x)
      (later.1, plane.inks isVendor y line x :: later.2)

/-- The inked pixels of the lines from `y` on. -/
def lines (kernel : Kernel F) (isVendor : Bool) (width : Nat) :
    Nat → ErrorPlane F → List Scanline → List (List Bool)
  | _, _, [] => []
  | y, plane, s :: rest =>
      let scanned := plane.scan kernel isVendor width y s.line
        (List.range width)
      scanned.2 :: scanned.1.lines kernel isVendor width (y + 1) rest

end ErrorPlane

section Textbook

variable {F : Type} [DitherFloat F] [DecidableLT F]

/-- The inked pixels of a page, by a diffusion mode. -/
def textbookDots (F : Type) [DitherFloat F] [DecidableLT F] (mode : DitherMode)
    (width : Nat) (page : List Scanline) : List (List Bool) :=
  match (mode.kernel : Option (Kernel F × Bool)) with
  | none => []
  | some (kernel, isVendor) =>
      ErrorPlane.lines kernel isVendor width 0 (fun _ _ => asF32 0) page

/-- A fresh ditherer fed with a page puts down the dots of the textbook, each
row mirrored. -/
def RingFaithful (F : Type) [DitherFloat F] [DecidableLT F] (mode : DitherMode)
    (width : Nat) (page : List Scanline) : Prop :=
  ∃ d monos, (Ditherer.new mode width : Ditherer F).feed page =
      some (d, monos) ∧
    List.Forall₂ (Mirrors width) (textbookDots F mode width page) monos

/-! ### Columns as `i32` -/

/-- The column that the ring computes for a neighbour. -/
theorem column_toInt (x : Nat) (dx : Int) :
    (BitVec.ofNat 32 x + BitVec.ofInt 32 dx).toInt =
      ((x : Int) + dx).bmod (2 ^ 32) := by
  rw [BitVec.toInt_add, BitVec.toInt_ofInt, ← BitVec.ofInt_natCast,
    BitVec.toInt_ofInt, Int.bmod_add_bmod, Int.add_bmod_bmod]

/-- The kernels reach one column back, two ahead, and two rows down. -/
def Neighbour.Near (n : Neighbour F) : Prop :=
  -1 ≤ n.dx ∧ n.dx ≤ 2 ∧ n.dy < errorRows

omit [DecidableLT F] in
theorem DitherMode.kernel_near {mode : DitherMode} {kernel : Kernel F}
    {isVendor : Bool} (chosen : mode.kernel = some (kernel, isVendor)) :
    ∀ n ∈ kernel, n.Near := by
  cases mode <;> cases chosen <;>
    simp [Neighbour.Near, SupvanCups.floydSteinberg, SupvanCups.atkinson,
      vendor]

omit [DitherFloat F] [DecidableLT F] in
/-- On a page of at most `2 ^ 31` columns, a neighbour beside the page never
gets a column of the page. -/
theorem column_of_narrow {width x : Nat} (narrow : width ≤ 2 ^ 31)
    (xBound : x < width) {n : Neighbour F} (near : n.Near) :
    let column := (BitVec.ofNat 32 x + BitVec.ofInt 32 n.dx).toInt
    if 0 ≤ (x : Int) + n.dx ∧ (x : Int) + n.dx < width then column = x + n.dx
    else column < 0 ∨ width ≤ column := by
  obtain ⟨back, ahead, -⟩ := near
  dsimp only
  rw [column_toInt, Int.bmod_def]
  split <;> split <;> omega

/-! ### The ring shows a window of the plane -/

/-- The columns of the ring lie at the columns of the page. -/
def placeOf {width : Nat} (x : Fin width) : Int :=
  x.val

theorem placeOf_injective (width : Nat) :
    Function.Injective (placeOf : Fin width → Int) := by
  intro first second same
  exact Fin.ext (Int.ofNat.inj same)

variable {width : Nat} {ring : ErrorRing F width} {row : Fin errorRows}
  {plane : ErrorPlane F} {y : Nat}

omit [DecidableLT F] in
theorem spread_window (narrow : width ≤ 2 ^ 31) {n : Neighbour F}
    (near : n.Near) (window : Window placeOf (asF32 0) ring row plane y)
    (x : Fin width) (error : F) :
    Window placeOf (asF32 0) (spread row x error ring n) row
      (plane.spread width y x error n) y := by
  have column := column_of_narrow narrow x.isLt near
  rw [spread, ErrorPlane.spread]
  split at column
  · next inside =>
      have rowOf : (Fin.ofNat errorRows n.dy).val = n.dy :=
        Nat.mod_eq_of_lt near.2.2
      simp only [column]
      rw [if_neg (by omega), dif_pos (by omega), if_pos inside]
      have changed := window.setCell (placeOf_injective width)
        (Fin.ofNat errorRows n.dy) ⟨(x.val + n.dx).toNat, by omega⟩
        (· + error * n.weight)
      have place : placeOf (⟨(x.val + n.dx).toNat, by omega⟩ : Fin width) =
          x.val + n.dx :=
        Int.toNat_of_nonneg inside.1
      rw [rowOf, place] at changed
      exact changed
  · next outside =>
      rw [if_neg outside]
      rcases column with before | after
      · rw [if_pos before]
        exact window
      · rw [if_neg (by omega), dif_neg (by omega)]
        exact window

variable {kernel : Kernel F} {isVendor : Bool} {line : Bytes}

omit [DecidableLT F] in
theorem foldl_spread_window (narrow : width ≤ 2 ^ 31)
    (near : ∀ n ∈ kernel, n.Near)
    (window : Window placeOf (asF32 0) ring row plane y) (x : Fin width)
    (error : F) :
    Window placeOf (asF32 0) (kernel.foldl (spread row x error) ring) row
      (kernel.foldl (ErrorPlane.spread width y x error) plane) y := by
  induction kernel generalizing ring plane with
  | nil => exact window
  | cons n kernel ih =>
      obtain ⟨here, later⟩ := List.forall_mem_cons.mp near
      exact ih later (spread_window narrow here window x error)

omit [DecidableLT F] in
/-- A pixel of the ring and of the plane under it. -/
theorem value_of_window
    (window : Window placeOf (asF32 0) ring row plane y) (x : Fin width) :
    asF32 (sourceValue isVendor (line.getD x 0#8)) + ring row x =
      plane.value isVendor y line x := by
  rw [window.shows_first]
  rfl

/-- Some pixels of a line ink the same dots, and leave a window again. -/
theorem scan_window (narrow : width ≤ 2 ^ 31) (near : ∀ n ∈ kernel, n.Near)
    (window : Window placeOf (asF32 0) ring row plane y) (isVendor : Bool)
    (line : Bytes) (pixels : List (Fin width)) :
    let shown := scanRing kernel isVendor row line pixels ring
    let planned := plane.scan kernel isVendor width y line
      (pixels.map Fin.val)
    Window placeOf (asF32 0) shown.1 row planned.1 y ∧
      shown.2 = planned.2 := by
  induction pixels generalizing ring plane with
  | nil => exact ⟨window, rfl⟩
  | cons x pixels ih =>
      have value : asF32 (sourceValue isVendor (line.getD x 0#8)) +
          ring row x = plane.value isVendor y line x :=
        value_of_window window x
      have stepped : Window placeOf (asF32 0)
          (ringStep kernel isVendor row line ring x) row
          (plane.pixel kernel isVendor width y line x) y := by
        rw [ringStep, ErrorPlane.pixel, value]
        exact foldl_spread_window narrow near window x _
      obtain ⟨later, same⟩ := ih stepped
      refine ⟨later, ?_⟩
      simp only [scanRing, List.map_cons, ErrorPlane.scan, same, inks,
        ErrorPlane.inks, value]

/-- A whole line of a ditherer, with its spent row blanked. -/
theorem Ditherer.scan_window {d : Ditherer F} (narrow : d.width ≤ 2 ^ 31)
    (near : ∀ n ∈ kernel, n.Near)
    (window : Window placeOf (asF32 0) d.err d.row plane y) (isVendor : Bool)
    (line : Bytes) :
    let next := d.scan kernel isVendor line
    let planned := plane.scan kernel isVendor d.width y line
      (List.range d.width)
    Window placeOf (asF32 0) next.1.err next.1.row planned.1 (y + 1) ∧
      next.2 = planned.2 := by
  obtain ⟨scanned, same⟩ := SupvanCups.scan_window narrow near window
    isVendor line (List.finRange d.width)
  rw [List.map_coe_finRange_eq_range] at scanned same
  exact ⟨scanned.slide, same⟩

/-- A whole run inks the dots of the textbook. -/
theorem Ditherer.scans_textbook {d : Ditherer F} (narrow : d.width ≤ 2 ^ 31)
    (near : ∀ n ∈ kernel, n.Near)
    (window : Window placeOf (asF32 0) d.err d.row plane y) (isVendor : Bool)
    (page : List Scanline) :
    (d.scans kernel isVendor page).2 =
      plane.lines kernel isVendor d.width y page := by
  induction page generalizing d plane y with
  | nil => rfl
  | cons s rest ih =>
      obtain ⟨scanned, same⟩ :=
        Ditherer.scan_window narrow near window isVendor s.line
      have continued := ih (d := (d.scan kernel isVendor s.line).1) narrow
        scanned
      rw [Ditherer.scans, ErrorPlane.lines, same]
      exact congrArg (_ :: ·) continued

/-- Within `2 ^ 31` columns the ring is faithful, whatever the arithmetic. -/
theorem ringFaithful_of_narrow {mode : DitherMode} (diffuses : mode ≠ .bayer)
    (narrow : width ≤ 2 ^ 31) {page : List Scanline}
    (fits : ∀ s ∈ page, s.Fits width) :
    RingFaithful F mode width page := by
  obtain ⟨kernel, isVendor, chosen⟩ := DitherMode.exists_kernel F diffuses
  let d : Ditherer F := Ditherer.new mode width
  obtain ⟨monos, fed, mirrors⟩ := d.feed_scans chosen fits
  refine ⟨_, monos, fed, ?_⟩
  have textbook := d.scans_textbook narrow (DitherMode.kernel_near chosen)
    (Window.of_blank placeOf (asF32 0) 0 0) isVendor page
  rw [textbook] at mirrors
  rw [textbookDots, chosen]
  exact mirrors

end Textbook

/-! ### Past the last column of an `i32` -/

/-- The first column that no `i32` holds. -/
abbrev edgeColumn : Nat := 2 ^ 31

section Edge

variable {F : Type} [DitherFloat F] {width : Nat}

/-- Nothing is ever carried to a column from the edge on. -/
theorem foldl_spread_beyond (kernel : Kernel F) (row : Fin errorRows)
    (x : Fin width) (error : F) (ring : ErrorRing F width) (r : Fin errorRows)
    {i : Fin width} (beyond : edgeColumn ≤ i.val) :
    kernel.foldl (spread row x error) ring r i = ring r i := by
  induction kernel generalizing ring with
  | nil => rfl
  | cons n kernel ih =>
      have column : (BitVec.ofNat 32 x + BitVec.ofInt 32 n.dx).toInt <
          edgeColumn :=
        BitVec.toInt_lt
      rw [List.foldl_cons, ih, spread]
      split
      · rfl
      split
      · rw [ErrorRing.add, if_neg]
        rintro ⟨-, rfl⟩
        simp only at beyond
        omega
      · rfl

variable [DecidableLT F] {kernel : Kernel F} {isVendor : Bool}
  {row : Fin errorRows} {line : Bytes}

theorem scanRing_beyond (pixels : List (Fin width)) (ring : ErrorRing F width)
    (r : Fin errorRows) {i : Fin width} (beyond : edgeColumn ≤ i.val) :
    (scanRing kernel isVendor row line pixels ring).1 r i = ring r i := by
  induction pixels generalizing ring with
  | nil => rfl
  | cons x pixels ih =>
      rw [scanRing]
      exact (ih _).trans (foldl_spread_beyond kernel row x _ ring r beyond)

/-- Each dot of a line is inked after the pixels before it. -/
theorem scanRing_getD {pixels : List (Fin width)} (ring : ErrorRing F width)
    {i : Nat} (inside : i < pixels.length) :
    (scanRing kernel isVendor row line pixels ring).2.getD i false =
      inks isVendor row line
        (scanRing kernel isVendor row line (pixels.take i) ring).1
        pixels[i] := by
  induction pixels generalizing i ring with
  | nil => cases inside
  | cons x pixels ih =>
      cases i with
      | zero => rfl
      | succ i => exact ih _ (Nat.lt_of_succ_lt_succ inside)

theorem ErrorPlane.scan_getD {y : Nat} {pixels : List Nat}
    (plane : ErrorPlane F) {i : Nat} (inside : i < pixels.length) :
    (plane.scan kernel isVendor width y line pixels).2.getD i false =
      (plane.scan kernel isVendor width y line (pixels.take i)).1.inks isVendor
        y line pixels[i] := by
  induction pixels generalizing i plane with
  | nil => cases inside
  | cons x pixels ih =>
      cases i with
      | zero => rfl
      | succ i => exact ih _ (Nat.lt_of_succ_lt_succ inside)

theorem ErrorPlane.scan_concat {y : Nat} (pixels : List Nat)
    (plane : ErrorPlane F) (x : Nat) :
    (plane.scan kernel isVendor width y line (pixels ++ [x])).1 =
      (plane.scan kernel isVendor width y line pixels).1.pixel kernel isVendor
        width y line x := by
  induction pixels generalizing plane with
  | nil => rfl
  | cons x pixels ih => exact ih _

end Edge

/-- Two rows of dots that look the same on an output line are the same. -/
theorem Mirrors.getD_eq {width : Nat} {dots others : List Bool} {mono : Bytes}
    (mirrors : Mirrors width dots mono) (mirrored : Mirrors width others mono)
    {x : Nat} (bound : x < width) :
    dots.getD x false = others.getD x false := by
  have inside : width - 1 - x < width := by omega
  have column : width - 1 - (width - 1 - x) = x := by omega
  have same := (mirrors (width - 1 - x)).symm.trans (mirrored _)
  simpa only [inside, decide_true, Bool.true_and, column] using same

/-- A white line but for a pixel near white and an edge grey to its right. -/
def edgeLine (width edge : Nat) (isVendor : Bool) : Bytes :=
  (List.range width).map fun x =>
    if x = edge then edgeGrey isVendor
    else if x + 1 = edge then nearWhite
    else bilevelPixel false

theorem getD_edgeLine {width edge : Nat} {isVendor : Bool} {x : Nat}
    (bound : x < width) :
    (edgeLine width edge isVendor).getD x 0#8 =
      if x = edge then edgeGrey isVendor
      else if x + 1 = edge then nearWhite
      else bilevelPixel false := by
  simp [edgeLine, bound]

/-- The error near white reaches the right neighbour alone in its row, and
turns an edge grey there black. -/
structure TurnsEdge (kernel : Kernel Rat) (isVendor : Bool) (right : Rat)
    (rest : Kernel Rat) : Prop where
  split : kernel = ⟨1, 0, right⟩ :: rest
  apart : ∀ n ∈ rest, ¬ (n.dx = 1 ∧ n.dy = 0)
  white : quantise isVendor
    (asF32 (sourceValue isVendor nearWhite) + asF32 0 : Rat) =
      (asF32 255, false)
  blank : (quantise isVendor
    (asF32 (sourceValue isVendor (edgeGrey isVendor)) + asF32 0 : Rat)).2 =
      false
  inked : (quantise isVendor
    (asF32 (sourceValue isVendor (edgeGrey isVendor)) +
      (asF32 0 + firstError Rat isVendor * right))).2 = true

theorem exists_turnsEdge {mode : DitherMode} {kernel : Kernel Rat}
    {isVendor : Bool} (chosen : mode.kernel = some (kernel, isVendor)) :
    ∃ right rest, TurnsEdge kernel isVendor right rest := by
  cases mode <;> cases chosen
  · exact ⟨_, _, rfl, by simp, by decide +kernel, by decide +kernel,
      by decide +kernel⟩
  · exact ⟨_, _, rfl, by simp, by decide +kernel, by decide +kernel,
      by decide +kernel⟩
  · exact ⟨_, _, rfl, by simp, by decide +kernel, by decide +kernel,
      by decide +kernel⟩

section Textbook

variable {kernel : Kernel Rat} {isVendor : Bool} {width y : Nat} {line : Bytes}

abbrev blankPlane : ErrorPlane Rat :=
  fun _ _ => asF32 0

theorem foldl_spread_none (x : Nat) :
    kernel.foldl (ErrorPlane.spread width y x (asF32 0 : Rat)) blankPlane =
      blankPlane := by
  induction kernel with
  | nil => rfl
  | cons n kernel ih =>
      have unchanged :
          ErrorPlane.spread width y x (asF32 0 : Rat) blankPlane n =
            blankPlane := by
        rw [ErrorPlane.spread]
        split
        · ext row column
          simp [SlidingRows.setCell, asF32]
        · rfl
      rw [List.foldl_cons, unchanged, ih]

/-- White pixels leave a blank plane blank. -/
theorem scan_white {pixels : List Nat}
    (white : ∀ x ∈ pixels, line.getD x 0#8 = bilevelPixel false) :
    (blankPlane.scan kernel isVendor width y line pixels).1 = blankPlane := by
  induction pixels with
  | nil => rfl
  | cons x pixels ih =>
      obtain ⟨here, later⟩ := List.forall_mem_cons.mp white
      have value : blankPlane.value isVendor y line x = asF32 255 := by
        rw [ErrorPlane.value, here, sourceValue_bilevel]
        exact ExactOnBilevel.white_add
      have stays : blankPlane.pixel kernel isVendor width y line x =
          blankPlane := by
        rw [ErrorPlane.pixel, value, quantise_white, ExactOnBilevel.white_sub]
        exact foldl_spread_none x
      rw [ErrorPlane.scan, stays]
      exact ih later

theorem foldl_spread_apart {rest : Kernel Rat}
    (apart : ∀ n ∈ rest, ¬ (n.dx = 1 ∧ n.dy = 0)) (x : Nat) (error : Rat)
    (plane : ErrorPlane Rat) :
    rest.foldl (ErrorPlane.spread width y x error) plane y (x + 1) =
      plane y (x + 1) := by
  induction rest generalizing plane with
  | nil => rfl
  | cons n rest ih =>
      obtain ⟨here, later⟩ := List.forall_mem_cons.mp apart
      rw [List.foldl_cons, ih later, ErrorPlane.spread]
      split
      · rw [SlidingRows.setCell, if_neg]
        rintro ⟨sameRow, sameColumn⟩
        exact here ⟨by omega, by omega⟩
      · rfl

/-- The textbook inks the edge grey. -/
theorem textbook_inksEdge {right : Rat} {rest : Kernel Rat}
    (turns : TurnsEdge kernel isVendor right rest) {before : Nat}
    (bound : before + 1 < width) :
    (blankPlane.scan kernel isVendor width y
      (edgeLine width (before + 1) isVendor)
      (List.range width)).2.getD (before + 1) false = true := by
  have white : ∀ x ∈ List.range before,
      (edgeLine width (before + 1) isVendor).getD x 0#8 =
        bilevelPixel false := by
    intro x member
    have xBound := List.mem_range.mp member
    rw [getD_edgeLine (by omega), if_neg (by omega), if_neg (by omega)]
  have near : blankPlane.value isVendor y
      (edgeLine width (before + 1) isVendor) before =
        asF32 (sourceValue isVendor nearWhite) + asF32 0 := by
    rw [ErrorPlane.value, getD_edgeLine (by omega), if_neg (by omega),
      if_pos rfl]
  have onPage : (0 : Int) ≤ before + 1 ∧ (before + 1 : Int) < width := by
    omega
  rw [ErrorPlane.scan_getD _ (by simpa using bound), List.take_range,
    Nat.min_eq_left bound.le, List.range_succ, ErrorPlane.scan_concat,
    scan_white white, List.getElem_range, ErrorPlane.inks, ErrorPlane.value,
    getD_edgeLine bound, if_pos rfl, ErrorPlane.pixel, near, turns.white,
    turns.split, List.foldl_cons, Int.natCast_succ,
    foldl_spread_apart turns.apart, ErrorPlane.spread, if_pos onPage,
    SlidingRows.setCell, if_pos ⟨rfl, rfl⟩]
  exact turns.inked

end Textbook

/-- A ring of zeros leaves the edge grey white from the edge column on. -/
theorem ring_leavesEdge {kernel : Kernel Rat} {isVendor : Bool} {right : Rat}
    {rest : Kernel Rat} (turns : TurnsEdge kernel isVendor right rest)
    {width : Nat} (wide : edgeColumn < width) (row : Fin errorRows) :
    (scanRing kernel isVendor row (edgeLine width edgeColumn isVendor)
      (List.finRange width) (fun _ _ => asF32 0)).2.getD edgeColumn false =
        false := by
  have inside : edgeColumn < (List.finRange width).length := by
    rwa [List.length_finRange]
  have pixel : (List.finRange width)[edgeColumn] = ⟨edgeColumn, wide⟩ := by
    rw [List.getElem_finRange]
    rfl
  rw [scanRing_getD _ inside, pixel, inks, getD_edgeLine wide, if_pos rfl,
    scanRing_beyond _ _ _ le_rfl]
  exact turns.blank

/-- The page of one line with an edge grey at the edge column. -/
def edgeGreyPage (width : Nat) (isVendor : Bool) : List Scanline :=
  [⟨edgeLine width edgeColumn isVendor, 0, divCeil width 8⟩]

theorem edgeGreyPage_fits (width : Nat) (isVendor : Bool) :
    ∀ s ∈ edgeGreyPage width isVendor, s.Fits width := by
  rintro s (_ | ⟨_, none⟩)
  · exact ⟨by simp [edgeLine], le_rfl⟩
  · cases none

theorem not_ringFaithful_of_wide {mode : DitherMode} {kernel : Kernel Rat}
    {isVendor : Bool} (chosen : mode.kernel = some (kernel, isVendor))
    {width : Nat} (wide : edgeColumn < width) :
    ¬ RingFaithful Rat mode width (edgeGreyPage width isVendor) := by
  rintro ⟨d, monos, fed, textbook⟩
  obtain ⟨right, rest, turns⟩ := exists_turnsEdge chosen
  obtain ⟨shown, fedAgain, mirrors⟩ :=
    (Ditherer.new mode width : Ditherer Rat).feed_scans chosen
      (edgeGreyPage_fits width isVendor)
  obtain ⟨-, rfl⟩ := Prod.mk.inj (Option.some.inj (fed.symm.trans fedAgain))
  rw [textbookDots, chosen] at textbook
  cases mirrors with
  | cons mirrors _ =>
      cases textbook with
      | cons mirrored _ =>
          have same := mirrors.getD_eq mirrored wide
          have inked := textbook_inksEdge turns (y := 0) wide
          have left := ring_leavesEdge turns wide 0
          exact Bool.false_ne_true (left.symm.trans (same.trans inked))

/-- In exact arithmetic, a fresh ditherer is faithful to the textbook on every
page of a width exactly when the width is at most `2 ^ 31`. -/
theorem ringFaithful_iff {mode : DitherMode} (diffuses : mode ≠ .bayer)
    (width : Nat) :
    (∀ page : List Scanline, (∀ s ∈ page, s.Fits width) →
        RingFaithful Rat mode width page) ↔
      width ≤ 2 ^ 31 := by
  constructor
  · intro faithful
    by_contra wide
    obtain ⟨kernel, isVendor, chosen⟩ := DitherMode.exists_kernel Rat diffuses
    exact not_ringFaithful_of_wide chosen (not_le.mp wide)
      (faithful _ (edgeGreyPage_fits width isVendor))
  · intro narrow page fits
    exact ringFaithful_of_narrow diffuses narrow fits

/-- The widest printhead in Floyd-Steinberg mode. -/
theorem ringFaithful_iff_widestHead :
    (∀ page : List Scanline, (∀ s ∈ page, s.Fits 1032) →
        RingFaithful Rat .floydSteinberg 1032 page) ↔
      1032 ≤ 2 ^ 31 :=
  ringFaithful_iff (by intro same; cases same) 1032

/-- One column past the edge, the share of the last `i32` column is lost. -/
theorem ringFaithful_losesShare :
    (∀ s ∈ edgeGreyPage (2 ^ 31 + 1) false, s.Fits (2 ^ 31 + 1)) ∧
      ¬ RingFaithful Rat .floydSteinberg (2 ^ 31 + 1)
        (edgeGreyPage (2 ^ 31 + 1) false) :=
  ⟨edgeGreyPage_fits _ _, not_ringFaithful_of_wide rfl (Nat.lt_succ_self _)⟩

end SupvanCups
