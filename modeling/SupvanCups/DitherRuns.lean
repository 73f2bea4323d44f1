import SupvanCups.DitherCarry
import Mathlib.Algebra.GroupWithZero.Nat
import Mathlib.Data.List.Zip

/-!
# Runs of a ditherer

A run feeds lines to a ditherer one by one, each with an output line of its
own.  In the diffusion modes the inked pixels of a line are read off the error
rows, pixel by pixel, and the output line shows exactly these, mirrored.
-/

namespace SupvanCups

open DitherFloat (asF32)

/-- There is an error row to consume. -/
instance : NeZero errorRows :=
  ⟨by decide⟩

/-- A line to dither, its number on the page, and the bytes its dots get. -/
structure Scanline where
  line : Bytes
  y : Nat
  room : Nat

/-- The line has a pixel for every dot, and its dots get enough bytes. -/
structure Scanline.Fits (width : Nat) (s : Scanline) : Prop where
  full : width ≤ s.line.length
  room : divCeil width 8 ≤ s.room

/-- An output line shows the inked pixels of a line, mirrored, and nothing
else. -/
def Mirrors (width : Nat) (dots : List Bool) (mono : Bytes) : Prop :=
  ∀ c, msbDot mono 0 0 c =
    (decide (c < width) && dots.getD (width - 1 - c) false)

section Runs

variable {F : Type} [DitherFloat F] [DecidableLT F]

/-- Feed lines, each with a zeroed output line. -/
def Ditherer.feed (d : Ditherer F) :
    List Scanline → Option (Ditherer F × List Bytes)
  | [] => some (d, [])
  | s :: rest => do
      let (d, mono) ← d.line s.line s.y (List.replicate s.room 0#8)
      let (d, monos) ← d.feed rest
      pure (d, mono :: monos)

/-- The error rows after some pixels of a line, and which of these were
inked. -/
def scanRing {width : Nat} (kernel : Kernel F) (isVendor : Bool)
    (row : Fin errorRows) (line : Bytes) :
    List (Fin width) → ErrorRing F width → ErrorRing F width × List Bool
  | [], ring => (ring, [])
  | x :: pixels, ring =>
      let later := scanRing kernel isVendor row line pixels
        (ringStep kernel isVendor row line ring x)
      (later.1, inks isVendor row line ring x :: later.2)

section Scan

variable {width : Nat} {kernel : Kernel F} {isVendor : Bool}
  {row : Fin errorRows} {line : Bytes}

theorem scanRing_append (first second : List (Fin width))
    (ring : ErrorRing F width) :
    scanRing kernel isVendor row line (first ++ second) ring =
      let middle := scanRing kernel isVendor row line first ring
      let last := scanRing kernel isVendor row line second middle.1
      (last.1, middle.2 ++ last.2) := by
  induction first generalizing ring with
  | nil => rfl
  | cons x first ih => simp only [List.cons_append, scanRing, ih]

@[simp]
theorem scanRing_length (pixels : List (Fin width))
    (ring : ErrorRing F width) :
    (scanRing kernel isVendor row line pixels ring).2.length =
      pixels.length := by
  induction pixels generalizing ring with
  | nil => rfl
  | cons x pixels ih => simp only [scanRing, List.length_cons, ih]

/-- Diffusing some pixels paints those that are inked. -/
theorem foldlM_diffusePixel_scan (pixels : List (Fin width))
    (ring : ErrorRing F width) (mono : Bytes) :
    pixels.foldlM (diffusePixel kernel isVendor row line) (ring, mono) =
      (paint (pixels.zip (scanRing kernel isVendor row line pixels ring).2)
        (fun dot => if dot.2 then some (mirroredDot width dot.1) else none)
        mono).map fun mono =>
          ((scanRing kernel isVendor row line pixels ring).1, mono) := by
  induction pixels generalizing ring mono with
  | nil => rfl
  | cons x pixels ih =>
      rw [List.foldlM_cons, diffusePixel_eq]
      simp only [scanRing, List.zip_cons_cons]
      rw [paint_cons]
      cases inks isVendor row line ring x with
      | false => simp [paint, ih]
      | true =>
          simp only [if_true, paint, List.foldlM_cons, List.foldlM_nil]
          cases orMask mono (mirroredDot width x).1 (mirroredDot width x).2 with
          | none => rfl
          | some mono => exact ih _ mono

/-- In a whole line, every pixel meets its own dot. -/
theorem mem_zip_finRange {dots : List Bool} (length : dots.length = width)
    (x : Fin width) (dot : Bool) :
    (x, dot) ∈ (List.finRange width).zip dots ↔ dots.getD x false = dot := by
  have bound : x.val < dots.length := by
    rw [length]
    exact x.isLt
  rw [List.getD_eq_getElem _ _ bound, List.mem_iff_getElem]
  constructor
  · rintro ⟨i, iBound, same⟩
    rw [List.getElem_zip, List.getElem_finRange] at same
    obtain ⟨rfl, rfl⟩ := Prod.mk.inj same
    rfl
  · rintro rfl
    have zipped : x.val < ((List.finRange width).zip dots).length := by
      simp [length]
    exact ⟨x, zipped, by simp⟩

/-- The dots of a whole line are painted as they were inked, mirrored. -/
theorem paint_mirrors (dots : List Bool) (length : dots.length = width)
    {room : Nat} (enough : divCeil width 8 ≤ room) :
    ∃ mono, paint ((List.finRange width).zip dots)
        (fun dot => if dot.2 then some (mirroredDot width dot.1) else none)
        (List.replicate room 0#8) = some mono ∧
      Mirrors width dots mono := by
  obtain ⟨mono, painted, -, bits⟩ := paint_spec
    ((List.finRange width).zip dots)
    (fun dot => if dot.2 then some (mirroredDot width dot.1) else none)
    (List.replicate room 0#8) (by
      rintro ⟨x, dot⟩ - index mask stroke
      obtain ⟨-, place⟩ := Option.ite_none_right_eq_some.mp stroke
      obtain ⟨rfl, -⟩ := Prod.mk.inj (Option.some.inj place)
      have bound := x.isLt
      rw [List.length_replicate]
      unfold divCeil at enough
      omega)
  refine ⟨mono, painted, fun c => ?_⟩
  have bitBound : 7 - c % 8 < 8 := by omega
  rw [Bool.eq_iff_iff, msbDot, bits, bitAt_replicate_zero]
  simp only [Bool.false_eq_true, false_or, Prod.exists, mem_zip_finRange length,
    Bool.and_eq_true, decide_eq_true_eq, Nat.zero_mul, Nat.zero_add]
  constructor
  · rintro ⟨x, dot, shown, mask, stroke, inMask⟩
    obtain ⟨rfl, place⟩ := Option.ite_none_right_eq_some.mp stroke
    have bound := x.isLt
    obtain ⟨sameByte, rfl⟩ := Prod.mk.inj (Option.some.inj place)
    have sameBit := (getLsbD_mirroredDot width x bitBound).mp inMask
    have column : width - 1 - c = x := by omega
    exact ⟨by omega, by rw [column, shown]⟩
  · rintro ⟨inside, shown⟩
    have bound : width - 1 - c < width := by omega
    refine ⟨⟨width - 1 - c, bound⟩, true, shown,
      (mirroredDot width (width - 1 - c)).2, ?_,
      (getLsbD_mirroredDot width _ bitBound).mpr (by omega)⟩
    simp only [mirroredDot, if_true]
    congr 2
    omega

end Scan

/-! ### A whole line, and a whole run -/

/-- The ditherer whose error rows follow a line, and the pixels it inked. -/
def Ditherer.scan (d : Ditherer F) (kernel : Kernel F) (isVendor : Bool)
    (line : Bytes) : Ditherer F × List Bool :=
  let scanned := scanRing kernel isVendor d.row line
    (List.finRange d.width) d.err
  (d.carrying
    (fun r x => if r = d.row then (asF32 0 : F) else scanned.1 r x)
    (d.row + 1), scanned.2)

/-- A line that fits is dithered to its inked pixels, mirrored. -/
theorem Ditherer.line_scan {d : Ditherer F} {kernel : Kernel F}
    {isVendor : Bool} (chosen : d.mode.kernel = some (kernel, isVendor))
    {s : Scanline} (fits : s.Fits d.width) :
    ∃ mono, d.line s.line s.y (List.replicate s.room 0#8) =
        some ((d.scan kernel isVendor s.line).1, mono) ∧
      Mirrors d.width (d.scan kernel isVendor s.line).2 mono := by
  have allPixels : (List.finRange d.width).take s.line.length =
      List.finRange d.width :=
    List.take_of_length_le (by simpa using fits.full)
  obtain ⟨mono, painted, mirrors⟩ := paint_mirrors
    (d.scan kernel isVendor s.line).2 (by simp [Ditherer.scan]) fits.room
  refine ⟨mono, ?_, mirrors⟩
  rw [Ditherer.line]
  simp only [allPixels, chosen, foldlM_diffusePixel_scan]
  rw [Ditherer.scan] at painted
  rw [painted]
  rfl

/-- The pixels that a run inks, line by line, and the ditherer after it. -/
def Ditherer.scans (d : Ditherer F) (kernel : Kernel F) (isVendor : Bool) :
    List Scanline → Ditherer F × List (List Bool)
  | [] => (d, [])
  | s :: rest =>
      let next := d.scan kernel isVendor s.line
      let later := next.1.scans kernel isVendor rest
      (later.1, next.2 :: later.2)

theorem Ditherer.feed_scans {d : Ditherer F} {kernel : Kernel F}
    {isVendor : Bool} (chosen : d.mode.kernel = some (kernel, isVendor))
    {lines : List Scanline} (fits : ∀ s ∈ lines, s.Fits d.width) :
    ∃ monos, d.feed lines = some ((d.scans kernel isVendor lines).1, monos) ∧
      List.Forall₂ (Mirrors d.width) (d.scans kernel isVendor lines).2
        monos := by
  induction lines generalizing d with
  | nil => exact ⟨[], rfl, .nil⟩
  | cons s rest ih =>
      obtain ⟨here, later⟩ := List.forall_mem_cons.mp fits
      obtain ⟨mono, run, mirrors⟩ := line_scan chosen here
      have continued := @ih (d.scan kernel isVendor s.line).1 chosen later
      obtain ⟨monos, fed, mirrored⟩ := continued
      refine ⟨mono :: monos, ?_, .cons mirrors mirrored⟩
      rw [feed, run, Option.bind_eq_bind, Option.bind_some]
      dsimp only
      rw [fed]
      rfl

end Runs

end SupvanCups
