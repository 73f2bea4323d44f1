import SupvanCups.CheckedLoops
import SupvanCups.PageBitmap

/-!
# The dump of the printhead canvas

A canvas can be dumped as a picture with one row for each dot of the head and
one pixel for each column of the page.  The picture has as many rows as the
head has dots, and the canvas only the whole bytes of them: the rows past the
last whole byte show the first dots of the next column.
-/

namespace SupvanCups

/-- The text before the pixels of a bilevel picture. -/
def pbmHeader (width height : Nat) : Bytes :=
  ("P4\n" ++ toString width ++ " " ++ toString height ++ "\n").toList.map
    fun c => BitVec.ofNat 8 c.toNat

/-- One row of the picture: dot `y` of every column.  `none` is a write outside
the row. -/
def printheadRow (canvas : Bytes) (outWidth canvasBpl y : Nat) :
    Option Bytes :=
  paint (List.range outWidth)
    (fun x => copyBit canvas (x * canvasBpl + y / 8) (y % 8)
      (x / 8, 0x80#8 >>> (x % 8)))
    (List.replicate (divCeil outWidth 8) 0#8)

/-- The files of one page, under a common name; there is none when nothing is
dumped. -/
structure JobDump where
  base : Option String

namespace JobDump

/-- The path and the bytes that are written for a canvas, if any.  `none` is a
write outside a row. -/
def printheadPbm (dump : JobDump) (canvas : Bytes)
    (numCols canvasBpl printheadDots : Nat) :
    Option (Option (String × Bytes)) :=
  match dump.base with
  | none => some none
  | some base =>
      let path := base ++ "_printhead.pbm"
      ((List.range printheadDots).foldlM
        (fun buf y => (printheadRow canvas numCols canvasBpl y).map (buf ++ ·))
        (pbmHeader numCols printheadDots)).map fun buf => some (path, buf)

end JobDump

/-! ### The pixels -/

/-- A row shows the dot that the byte index finds, in the column or past
it. -/
theorem printheadRow_spec (canvas : Bytes) (outWidth canvasBpl y : Nat) :
    ∃ row, printheadRow canvas outWidth canvasBpl y = some row ∧
      row.length = divCeil outWidth 8 ∧
      ∀ x < outWidth, bitAt row (x / 8) (7 - x % 8) = true ↔
        lsbDot canvas canvasBpl x y = true := by
  have inside : ∀ x < outWidth, x / 8 < divCeil outWidth 8 := by
    intro x bound
    have enough := le_divCeil_mul outWidth
    omega
  obtain ⟨row, run, lengthEq, bits⟩ := paint_spec (List.range outWidth)
    (fun x => copyBit canvas (x * canvasBpl + y / 8) (y % 8)
      (x / 8, 0x80#8 >>> (x % 8)))
    (List.replicate (divCeil outWidth 8) 0#8) (by
      intro x member index mask stroke
      rw [copyBit_eq] at stroke
      split_ifs at stroke
      obtain ⟨rfl, -⟩ := Prod.mk.inj (Option.some.inj stroke)
      rw [List.length_replicate]
      exact inside x (List.mem_range.mp member))
  refine ⟨row, run, by simpa using lengthEq, ?_⟩
  intro x bound
  rw [bits]
  simp only [bitAt_replicate_zero, Bool.false_eq_true, false_or, copyBit_eq]
  constructor
  · rintro ⟨other, member, mask, stroke, inMask⟩
    split_ifs at stroke with set
    obtain ⟨byteEq, rfl⟩ := Prod.mk.inj (Option.some.inj stroke)
    have bitEq := (getLsbD_msbMask (Nat.mod_lt _ (by decide))
      (by omega : 7 - x % 8 < 8)).mp inMask
    obtain rfl : other = x := by omega
    exact set
  · intro set
    refine ⟨x, List.mem_range.mpr bound, 0x80#8 >>> (x % 8), ?_, ?_⟩
    · exact if_pos set
    · exact (getLsbD_msbMask (Nat.mod_lt _ (by decide)) (by omega)).mpr
        (by omega)

theorem msbDot_append_row {done row : Bytes} {stride rows y x : Nat}
    (doneLength : done.length = rows * stride) (xBound : x / 8 < stride)
    (yBound : y < rows + 1) :
    msbDot (done ++ row) stride y x =
      if y < rows then msbDot done stride y x
      else bitAt row (x / 8) (7 - x % 8) := by
  rw [msbDot, msbDot, bitAt, bitAt]
  split_ifs with earlier
  · have rowEnd := rowEnd_le earlier stride
    rw [List.getD_append _ _ _ _ (by omega)]
  · obtain rfl : y = rows := by omega
    rw [List.getD_append_right _ _ _ _ (by omega), doneLength,
      Nat.add_sub_cancel_left, bitAt]

/-- The first rows of a picture are written after its header. -/
def RowsDumped (header canvas : Bytes) (numCols canvasBpl rows : Nat)
    (buf : Bytes) : Prop :=
  ∃ raster, buf = header ++ raster ∧
    raster.length = rows * divCeil numCols 8 ∧
    ∀ y < rows, ∀ x < numCols,
      msbDot raster (divCeil numCols 8) y x = true ↔
        lsbDot canvas canvasBpl x y = true

theorem RowsDumped.next {header canvas buf : Bytes}
    {numCols canvasBpl rows : Nat}
    (dumped : RowsDumped header canvas numCols canvasBpl rows buf) :
    ∃ next, (printheadRow canvas numCols canvasBpl rows).map (buf ++ ·) =
        some next ∧
      RowsDumped header canvas numCols canvasBpl (rows + 1) next := by
  obtain ⟨raster, rfl, lengthEq, pixels⟩ := dumped
  obtain ⟨row, run, rowLength, rowPixels⟩ :=
    printheadRow_spec canvas numCols canvasBpl rows
  refine ⟨_, congrArg (Option.map _) run, raster ++ row,
    List.append_assoc _ _ _, ?_, ?_⟩
  · rw [List.length_append, lengthEq, rowLength, Nat.succ_mul]
  · intro y yBound x xBound
    have enough := le_divCeil_mul numCols
    rw [msbDot_append_row lengthEq (by omega) yBound]
    split_ifs with earlier
    · exact pixels y earlier x xBound
    · obtain rfl : y = rows := by omega
      exact rowPixels x xBound

/-- The dump shows, at row `y` and column `x`, the dot that the byte index
finds. -/
theorem printheadPbm_spec (base : String) (canvas : Bytes)
    (numCols canvasBpl printheadDots : Nat) :
    ∃ raster,
      (JobDump.mk (some base)).printheadPbm canvas numCols canvasBpl
        printheadDots = some (some (base ++ "_printhead.pbm",
          pbmHeader numCols printheadDots ++ raster)) ∧
      raster.length = printheadDots * divCeil numCols 8 ∧
      ∀ y < printheadDots, ∀ x < numCols,
        msbDot raster (divCeil numCols 8) y x = true ↔
          lsbDot canvas canvasBpl x y = true := by
  have started : RowsDumped (pbmHeader numCols printheadDots) canvas numCols
      canvasBpl 0 (pbmHeader numCols printheadDots) :=
    ⟨[], (List.append_nil _).symm, by simp, by simp⟩
  obtain ⟨buf, run, raster, rfl, lengthEq, pixels⟩ := foldlM_range_of_keeps
    (fun _ _ _ dumped => RowsDumped.next dumped) started
  refine ⟨raster, ?_, lengthEq, pixels⟩
  simp only [JobDump.printheadPbm, run, Option.map_some]

/-! ### What is printed -/

/-- The dump of a page shows what its canvas prints, and nothing in the rows
past the usable dots of the head. -/
def DumpShowsPrinted (input : Bytes)
    (numCols inputWidthDots printheadDots : Nat) : Prop :=
  ∀ base, ∃ canvas canvasBpl raster,
    centerInPrinthead input numCols inputWidthDots printheadDots =
      some (canvas, canvasBpl) ∧
    (JobDump.mk (some base)).printheadPbm canvas numCols canvasBpl
      printheadDots = some (some (base ++ "_printhead.pbm",
        pbmHeader numCols printheadDots ++ raster)) ∧
    raster.length = printheadDots * divCeil numCols 8 ∧
    ∀ y < printheadDots, ∀ x < numCols,
      msbDot raster (divCeil numCols 8) y x = true ↔
        y < 8 * canvasBpl ∧ lsbDot canvas canvasBpl x y = true

/-- No column after the first has a dot that is printed at one of the first
`printheadDots % 8` dots of the head. -/
def LeadingDotsBlank (input : Bytes)
    (numCols inputWidthDots printheadDots : Nat) : Prop :=
  ∀ col < numCols, 0 < col → ∀ dot < printheadDots % 8,
    ∀ x < inputWidthDots,
      (x : Int) =
        pageColumn inputWidthDots (8 * (printheadDots / 8)) dot →
      lsbDot input (divCeil inputWidthDots 8) col x = false

/-- Past the last whole byte of the head, the byte index of a column is in the
next one. -/
theorem lsbDot_past (canvas : Bytes) (stride col dot : Nat) :
    lsbDot canvas stride col (8 * stride + dot) =
      lsbDot canvas stride (col + 1) dot := by
  have byteEq : col * stride + (8 * stride + dot) / 8 =
      (col + 1) * stride + dot / 8 := by
    rw [Nat.mul_add_div (by decide), Nat.succ_mul, Nat.add_assoc]
  rw [lsbDot, lsbDot, byteEq, Nat.mul_add_mod]

/-- The dump shows what is printed if its byte index finds nothing past the
usable dots. -/
theorem dumpShowsPrinted_iff_blank {input canvas : Bytes}
    {numCols inputWidthDots printheadDots canvasBpl : Nat}
    (centred : centerInPrinthead input numCols inputWidthDots printheadDots =
      some (canvas, canvasBpl)) :
    DumpShowsPrinted input numCols inputWidthDots printheadDots ↔
      ∀ y < printheadDots, ∀ x < numCols,
        lsbDot canvas canvasBpl x y = true → y < 8 * canvasBpl := by
  constructor
  · intro shows y yBound x xBound found
    obtain ⟨other, bpl, raster, otherCentred, run, -, pixels⟩ := shows ""
    obtain ⟨rfl, rfl⟩ : canvas = other ∧ canvasBpl = bpl := by
      rw [centred, Option.some.injEq, Prod.mk.injEq] at otherCentred
      exact otherCentred
    obtain ⟨dumped, dumpedRun, -, dumpedPixels⟩ :=
      printheadPbm_spec "" canvas numCols canvasBpl printheadDots
    obtain rfl : dumped = raster := by
      rw [run] at dumpedRun
      exact (List.append_cancel_left (Prod.mk.inj (Option.some.inj
        (Option.some.inj dumpedRun))).2).symm
    have set := (dumpedPixels y yBound x xBound).mpr found
    exact ((pixels y yBound x xBound).mp set).1
  · intro blank base
    obtain ⟨raster, run, lengthEq, pixels⟩ :=
      printheadPbm_spec base canvas numCols canvasBpl printheadDots
    refine ⟨canvas, canvasBpl, raster, centred, run, lengthEq, ?_⟩
    intro y yBound x xBound
    rw [pixels y yBound x xBound]
    exact ⟨fun found => ⟨blank y yBound x xBound found, found⟩, And.right⟩

/-- A page dot at one of the head's left over dots shows a second time, below
the column before its own. -/
theorem not_dumpShowsPrinted_of_dot {input : Bytes}
    {numCols inputWidthDots printheadDots col dot x : Nat}
    (someBytes : 8 ≤ printheadDots) (colBound : col < numCols)
    (later : 0 < col) (dotBound : dot < printheadDots % 8)
    (xBound : x < inputWidthDots)
    (place : (x : Int) =
      pageColumn inputWidthDots (8 * (printheadDots / 8)) dot)
    (set : lsbDot input (divCeil inputWidthDots 8) col x = true) :
    ¬ DumpShowsPrinted input numCols inputWidthDots printheadDots := by
  obtain ⟨canvas, centred, -, dots⟩ :=
    centerInPrinthead_spec input numCols inputWidthDots printheadDots
  rw [dumpShowsPrinted_iff_blank centred]
  intro blank
  have found : lsbDot canvas (printheadDots / 8) col dot = true :=
    (dots col colBound dot (by omega)).mpr ⟨x, xBound, place, set⟩
  have walked := lsbDot_past canvas (printheadDots / 8) (col - 1) dot
  rw [Nat.sub_add_cancel later, found] at walked
  have inside := blank _ (by omega) _ (by omega) walked
  omega

/-- The dump shows what is printed exactly when no column after the first has
a dot that is printed at the first few dots of the head, as many as the head
has more than its whole bytes. -/
theorem dumpShowsPrinted_iff (input : Bytes)
    (numCols inputWidthDots printheadDots : Nat)
    (someBytes : 8 ≤ printheadDots) :
    DumpShowsPrinted input numCols inputWidthDots printheadDots ↔
      LeadingDotsBlank input numCols inputWidthDots printheadDots := by
  constructor
  · intro shows col colBound later dot dotBound x xBound place
    by_contra set
    exact not_dumpShowsPrinted_of_dot someBytes colBound later dotBound xBound
      place (Bool.not_eq_false _ ▸ set) shows
  · intro leading
    obtain ⟨canvas, centred, canvasLength, dots⟩ :=
      centerInPrinthead_spec input numCols inputWidthDots printheadDots
    rw [dumpShowsPrinted_iff_blank centred]
    intro y yBound x xBound found
    by_contra past
    obtain ⟨dot, rfl⟩ : ∃ dot, y = 8 * (printheadDots / 8) + dot :=
      ⟨y - 8 * (printheadDots / 8), by omega⟩
    rw [lsbDot_past] at found
    have dotBound : dot < printheadDots % 8 := by omega
    by_cases last : x + 1 < numCols
    · obtain ⟨source, sourceBound, place, set⟩ :=
        (dots (x + 1) last dot (by omega)).mp found
      have blank := leading (x + 1) last (Nat.succ_pos x) dot dotBound source
        sourceBound place
      exact Bool.false_ne_true (blank.symm.trans set)
    · -- After the last column the canvas ends.
      have ended : canvas.length ≤ (x + 1) * (printheadDots / 8) + dot / 8 := by
        have sameEnd : x + 1 = numCols := by omega
        rw [canvasLength, sameEnd]
        exact Nat.le_add_right _ _
      rw [lsbDot, bitAt_of_length_le ended] at found
      cases found

/-- Two columns of 190 dots.  The second is blank where the first six dots of a
head of 190 are printed. -/
def clearedColumns : Bytes :=
  List.replicate 24 0xFF#8 ++ 0x07#8 :: 0xFE#8 :: List.replicate 22 0xFF#8

/-- On a head of 190 dots, of which 184 are usable, the dump of a page that is
blank at the first six of them in the second column shows what is printed. -/
theorem dumpShowsPrinted_cleared :
    DumpShowsPrinted clearedColumns 2 190 190 := by
  refine (dumpShowsPrinted_iff clearedColumns 2 190 190 (by decide)).mpr ?_
  intro col colBound later dot dotBound x xBound place
  obtain rfl : col = 1 := by omega
  have source : x = dot + 3 := by
    simp only [pageColumn] at place
    omega
  subst source
  have blank : ∀ dot < 6, lsbDot clearedColumns 24 1 (dot + 3) = false := by
    decide
  exact blank dot dotBound

/-- On a head of 190 dots, of which 184 are usable, the first printed dot of
the second column shows again below the first. -/
theorem dumpShowsPrinted_stray :
    ¬ DumpShowsPrinted
      (List.replicate 24 0#8 ++ 0x08#8 :: List.replicate 23 0#8)
      2 190 190 := by
  have dotBound : 0 < 190 % 8 := by decide
  have xBound : 3 < 190 := by decide
  exact not_dumpShowsPrinted_of_dot (by decide) (by decide) Nat.one_pos
    dotBound xBound (by decide) (by decide)

end SupvanCups
