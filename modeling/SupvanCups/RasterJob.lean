import SupvanCups.ByteWindows
import SupvanCups.Dithering
import Mathlib.Tactic.IntervalCases

/-!
# A job's page buffer

A job collects the lines of a page in one tightly packed 1bpp buffer.  Lines of
one bit per pixel are copied as they come, deeper lines are dithered first.
The ditherer mirrors its output and the copy does not, so a black-and-white
page comes out the same from both only where its rows are symmetric.
-/

namespace SupvanCups

section Job

variable {F : Type} [DitherFloat F] [DecidableLT F]

structure JobOptions where
  width : U32
  height : U32
  bitsPerPixel : Nat

/-- The lines that were received on a page are only logged.  The source counts
them in a `u32`, which the rows of a page cannot exceed; here the count is not
bounded. -/
structure KsJob (F : Type) where
  width : Nat
  height : Nat
  bytesPerLine : Nat
  rasterData : Bytes
  linesReceived : Nat
  density : U8
  printheadWidthDots : Nat
  ditherer : Ditherer F

/-- Copy a piece over part of a buffer; `none` is a slice outside it. -/
def copyInto (buffer : Bytes) (offset : Nat) (piece : Bytes) : Option Bytes :=
  if offset + piece.length ≤ buffer.length then
    some (buffer.take offset ++ piece ++ buffer.drop (offset + piece.length))
  else
    none

namespace KsJob

/-- Allocate the page buffer.  Its size is a `u32` product. -/
def start (options : JobOptions) (density : U8) (printheadWidthDots : Nat)
    (dither : DitherMode) : KsJob F :=
  let w := options.width.toNat
  let h := options.height.toNat
  let bpl := divCeil w 8
  { width := w
    height := h
    bytesPerLine := bpl
    rasterData := List.replicate (h * bpl % 2 ^ 32) 0#8
    linesReceived := 0
    density := density
    printheadWidthDots := printheadWidthDots
    ditherer := .new dither w }

/-- Copy a packed line into the page buffer.  The offset is a `u32` product;
`false` is a line below the page. -/
def appendLine (job : KsJob F) (y : Nat) (line : Bytes) :
    Option (Bool × KsJob F) :=
  if job.height ≤ y then
    some (false, job)
  else
    let copyLen := min line.length job.bytesPerLine
    let offset := y * job.bytesPerLine % 2 ^ 32
    (copyInto job.rasterData offset (line.take copyLen)).map fun rasterData =>
      (true, { job with
        rasterData := rasterData
        linesReceived := job.linesReceived + 1 })

def placed (y : Nat) : Bool → Except String Unit
  | true => .ok ()
  | false => .error ("write_line: y=" ++ toString y ++ " out of bounds")

/-- Take one line of the page.  `none` is a panic. -/
def writeLine (options : JobOptions) (job : KsJob F) (y : Nat)
    (line : Bytes) : Option (Except String Unit × KsJob F) :=
  match toGrayLine options.bitsPerPixel line options.width.toNat with
  | some input => do
      let mono := List.replicate (divCeil options.width.toNat 8) 0#8
      let (ditherer, mono) ← job.ditherer.line input y mono
      let (inside, job) ← { job with ditherer := ditherer }.appendLine y mono
      pure (placed y inside, job)
  | none =>
      if options.bitsPerPixel ≠ 1 then
        pure (.error ("write_line: unsupported raster depth " ++
          toString options.bitsPerPixel ++ " bpp"), job)
      else do
        let (inside, job) ← job.appendLine y line
        pure (placed y inside, job)

/-- Take the lines of a page from line `y` on, up to the first error. -/
def writeLines (options : JobOptions) :
    List Bytes → Nat → KsJob F → Option (Except String (KsJob F))
  | [], _, job => some (.ok job)
  | line :: lines, y, job =>
      match job.writeLine options y line with
      | none => none
      | some (.error message, _) => some (.error message)
      | some (.ok (), job) => writeLines options lines (y + 1) job

end KsJob

/-- What a page leaves in the buffer of a new job. -/
def submitPage (F : Type) [DitherFloat F] [DecidableLT F]
    (options : JobOptions) (density : U8) (printheadWidthDots : Nat)
    (dither : DitherMode) (lines : List Bytes) : Option (Except String Bytes) :=
  (KsJob.writeLines options lines 0
    (.start options density printheadWidthDots dither : KsJob F)).map
      fun result => result.map KsJob.rasterData

/-! ### Two ways to submit a black-and-white page -/

/-- Eight dots in one byte, most significant bit first. -/
def packedByte (dot : Nat → Bool) : U8 :=
  BitVec.ofBoolListBE
    [dot 0, dot 1, dot 2, dot 3, dot 4, dot 5, dot 6, dot 7]

/-- A line of one bit per pixel, set for ink, most significant bit first. -/
def packedLine (width : Nat) (ink : Nat → Bool) : Bytes :=
  (List.range (divCeil width 8)).map fun i =>
    packedByte fun j => decide (8 * i + j < width) && ink (8 * i + j)

/-- A line of eight bits per pixel, black for ink. -/
def greyLine (width : Nat) (ink : Nat → Bool) : Bytes :=
  (List.range width).map fun x => bilevelPixel (ink x)

def mirrored (width : Nat) (ink : Nat → Bool) (x : Nat) : Bool :=
  ink (width - 1 - x)

@[simp]
theorem packedLine_length (width : Nat) (ink : Nat → Bool) :
    (packedLine width ink).length = divCeil width 8 := by
  simp [packedLine]

@[simp]
theorem greyLine_length (width : Nat) (ink : Nat → Bool) :
    (greyLine width ink).length = width := by
  simp [greyLine]

theorem getLsbD_packedByte (dot : Nat → Bool) {bit : Nat}
    (bitBound : bit < 8) :
    (packedByte dot).getLsbD bit = dot (7 - bit) := by
  refine BitVec.getLsbD_ofBoolListBE.trans ?_
  interval_cases bit <;> simp

theorem bitAt_packedLine (width : Nat) (ink : Nat → Bool) {index bit : Nat}
    (indexBound : index < divCeil width 8) (bitBound : bit < 8) :
    bitAt (packedLine width ink) index bit =
      (decide (8 * index + (7 - bit) < width) &&
        ink (8 * index + (7 - bit))) := by
  simp only [bitAt, packedLine, List.getD_eq_getElem?_getD, List.getElem?_map,
    List.getElem?_range indexBound, Option.map_some, Option.getD_some,
    getLsbD_packedByte _ bitBound]

theorem packedLine_inj (width : Nat) (first second : Nat → Bool) :
    packedLine width first = packedLine width second ↔
      ∀ x < width, first x = second x := by
  constructor
  · intro same x xBound
    have indexBound : x / 8 < divCeil width 8 := by
      simp only [divCeil]
      omega
    have bitBound : 7 - x % 8 < 8 := by omega
    have place : 8 * (x / 8) + (7 - (7 - x % 8)) = x := by omega
    have bits := congrArg (bitAt · (x / 8) (7 - x % 8)) same
    simpa [bitAt_packedLine _ _ indexBound bitBound, place, xBound] using bits
  · intro same
    refine eq_of_bitAt_eq (by simp) fun index bit bitBound => ?_
    by_cases indexBound : index < divCeil width 8
    · rw [bitAt_packedLine _ _ indexBound bitBound,
        bitAt_packedLine _ _ indexBound bitBound]
      by_cases inside : 8 * index + (7 - bit) < width
      · simp [same _ inside]
      · simp [inside]
    · rw [bitAt_of_length_le (by simpa using indexBound),
        bitAt_of_length_le (by simpa using indexBound)]

/-- The mirrored dots of a row make up its packed mirror image. -/
theorem paint_inkBrush (width : Nat) (ink : Nat → Bool) :
    paint (List.finRange width) (inkBrush width ink)
        (List.replicate (divCeil width 8) 0#8) =
      some (packedLine width (mirrored width ink)) := by
  obtain ⟨painted, run, lengthEq, bits⟩ := paint_spec (List.finRange width)
    (inkBrush width ink) (List.replicate (divCeil width 8) 0#8) (by
      intro x _ index mask stroke
      obtain ⟨-, stroke⟩ := Option.ite_none_right_eq_some.mp stroke
      have place := congrArg Prod.fst (Option.some.inj stroke)
      have xBound := x.isLt
      simp only [mirroredDot] at place
      simp only [List.length_replicate, divCeil]
      omega)
  rw [run]
  congr 1
  refine eq_of_bitAt_eq (by simp [lengthEq]) fun index bit bitBound => ?_
  by_cases indexBound : index < divCeil width 8
  · rw [bitAt_packedLine _ _ indexBound bitBound, Bool.eq_iff_iff, bits,
      Bool.and_eq_true, decide_eq_true_eq]
    constructor
    · rintro (zero | ⟨x, -, mask, stroke, set⟩)
      · simp at zero
      · obtain ⟨inked, stroke⟩ := Option.ite_none_right_eq_some.mp stroke
        obtain ⟨rfl, rfl⟩ := Prod.mk.inj (Option.some.inj stroke)
        have shift := (getLsbD_msbMask (Nat.mod_lt _ (by decide))
          bitBound).mp set
        have xBound := x.isLt
        have place : 8 * ((width - 1 - x) / 8) + (7 - bit) = width - 1 - x := by
          omega
        have back : width - 1 - (width - 1 - x) = x.val := by omega
        rw [place, mirrored, back]
        exact ⟨by omega, inked⟩
    · rintro ⟨inside, inked⟩
      have back : width - 1 - (width - 1 - (8 * index + (7 - bit))) =
          8 * index + (7 - bit) := by
        omega
      refine .inr ⟨⟨width - 1 - (8 * index + (7 - bit)), by omega⟩,
        List.mem_finRange _, 0x80#8 >>> (7 - bit), ?_,
        (getLsbD_msbMask (by omega) bitBound).mpr rfl⟩
      have byte : (8 * index + (7 - bit)) / 8 = index := by omega
      have shift : (8 * index + (7 - bit)) % 8 = 7 - bit := by omega
      simp only [mirrored] at inked
      simp [inkBrush, inked, mirroredDot, back, byte, shift]
  · rw [bitAt_of_length_le (by simp [lengthEq]; omega),
      bitAt_of_length_le (by simpa using indexBound)]

/-! ### What the lines leave in the buffer -/

/-- Place packed lines one below the other, from line `y` on. -/
def placeLines (stride : Nat) : List Bytes → Nat → Bytes → Option Bytes
  | [], _, raster => some raster
  | line :: lines, y, raster =>
      (copyInto raster (y * stride % 2 ^ 32) line).bind
        (placeLines stride lines (y + 1))

/-- A copy that goes through has its place in the buffer, and replaces what is
there. -/
theorem copyInto_some {buffer piece copied : Bytes} {offset : Nat}
    (run : copyInto buffer offset piece = some copied) :
    offset + piece.length ≤ buffer.length ∧
      copied = buffer.take offset ++ piece ++
        buffer.drop (offset + piece.length) := by
  obtain ⟨fits, same⟩ := Option.ite_none_right_eq_some.mp run
  exact ⟨fits, (Option.some.inj same).symm⟩

theorem copyInto_length {buffer piece copied : Bytes} {offset : Nat}
    (run : copyInto buffer offset piece = some copied) :
    copied.length = buffer.length := by
  obtain ⟨fits, rfl⟩ := copyInto_some run
  simp only [List.length_append, List.length_take, List.length_drop]
  omega

theorem copyInto_of_fits {buffer piece : Bytes} {offset : Nat}
    (fits : offset + piece.length ≤ buffer.length) :
    ∃ copied, copyInto buffer offset piece = some copied ∧
      copied.length = buffer.length := by
  have copies : copyInto buffer offset piece = some _ := if_pos fits
  exact ⟨_, copies, copyInto_length copies⟩

/-- A copy leaves the bytes outside its place alone. -/
theorem copyInto_elsewhere {buffer piece copied : Bytes} {offset : Nat}
    (run : copyInto buffer offset piece = some copied) {index : Nat}
    (outside : index < offset ∨ offset + piece.length ≤ index) :
    copied[index]? = buffer[index]? := by
  obtain ⟨fits, rfl⟩ := copyInto_some run
  have start : (buffer.take offset).length = offset := by
    rw [List.length_take]
    omega
  rcases outside with before | after
  · rw [List.append_assoc, List.getElem?_append_left (by omega),
      List.getElem?_take_of_lt before]
  · have passed : (buffer.take offset ++ piece).length ≤ index := by
      rw [List.length_append]
      omega
    rw [List.getElem?_append_right passed, List.getElem?_drop,
      List.length_append, start, Nat.add_sub_cancel' after]

/-- A copy reads as the piece in its place. -/
theorem copyInto_inside {buffer piece copied : Bytes} {offset : Nat}
    (run : copyInto buffer offset piece = some copied) {index : Nat}
    (inside : index < piece.length) :
    copied[offset + index]? = piece[index]? := by
  obtain ⟨fits, rfl⟩ := copyInto_some run
  have start : (buffer.take offset).length = offset := by
    rw [List.length_take]
    omega
  rw [List.append_assoc, List.getElem?_append_right (by omega), start,
    Nat.add_sub_cancel_left, List.getElem?_append_left inside]

theorem copyInto_append (done rest piece : Bytes)
    (fits : piece.length ≤ rest.length) :
    copyInto (done ++ rest) done.length piece =
      some (done ++ piece ++ rest.drop piece.length) := by
  simp [copyInto, fits, List.drop_append]

/-- Where the page fits the buffer, its lines fill it in order. -/
theorem placeLines_fits {stride : Nat} (lines : List Bytes)
    (full : ∀ line ∈ lines, line.length = stride) (y : Nat)
    (done rest : Bytes) (start : done.length = y * stride)
    (fits : lines.length * stride ≤ rest.length)
    (small : done.length + rest.length < 2 ^ 32) :
    placeLines stride lines y (done ++ rest) =
      some (done ++ lines.flatten ++ rest.drop (lines.length * stride)) := by
  induction lines generalizing y done rest with
  | nil => simp [placeLines]
  | cons line lines ih =>
      obtain ⟨lineFull, full⟩ := List.forall_mem_cons.mp full
      rw [List.length_cons, Nat.succ_mul] at fits
      have offset : y * stride % 2 ^ 32 = done.length := by
        rw [← start]
        exact Nat.mod_eq_of_lt (by omega)
      rw [placeLines, offset, copyInto_append done rest line (by omega),
        Option.bind_some, ih full (y + 1) (done ++ line) (rest.drop line.length)]
      · rw [List.drop_drop, List.length_cons, Nat.succ_mul, lineFull,
          Nat.add_comm stride]
        simp
      · rw [List.length_append, start, lineFull, Nat.succ_mul]
      · rw [List.length_drop]
        omega
      · rw [List.length_append, List.length_drop]
        omega

/-- A page too large for the `u32` size of its buffer does not fit it. -/
theorem placeLines_overflows {stride height : Nat} {raster : Bytes}
    (size : raster.length = height * stride % 2 ^ 32)
    (large : 2 ^ 32 ≤ height * stride) (lines : List Bytes)
    (full : ∀ line ∈ lines, line.length = stride) (y : Nat)
    (page : y + lines.length = height) (reached : y * stride < 2 ^ 32) :
    placeLines stride lines y raster = none := by
  induction lines generalizing y raster with
  | nil =>
      simp only [List.length_nil, Nat.add_zero] at page
      subst page
      omega
  | cons line lines ih =>
      obtain ⟨lineFull, full⟩ := List.forall_mem_cons.mp full
      simp only [List.length_cons] at page
      have next : (y + 1) * stride = y * stride + stride := Nat.succ_mul y stride
      have bounded : raster.length < 2 ^ 32 := by
        rw [size]
        exact Nat.mod_lt _ (by decide)
      rw [placeLines, Nat.mod_eq_of_lt reached]
      cases run : copyInto raster (y * stride) line with
      | none => rfl
      | some copied =>
          have inside := (copyInto_some run).1
          exact ih ((copyInto_length run).trans size) full (y + 1) (by omega)
            (by omega)

omit [DitherFloat F] [DecidableLT F] in
theorem KsJob.appendLine_eq (job : KsJob F) {y : Nat} (line : Bytes)
    (onPage : y < job.height) (full : line.length = job.bytesPerLine) :
    job.appendLine y line =
      (copyInto job.rasterData (y * job.bytesPerLine % 2 ^ 32) line).map
        fun rasterData =>
          (true, { job with
            rasterData := rasterData
            linesReceived := job.linesReceived + 1 }) := by
  simp [KsJob.appendLine, Nat.not_le.mpr onPage, ← full]

/-- Lines of one bit per pixel go into the buffer as they are. -/
theorem writeLines_oneBit {options : JobOptions}
    (oneBit : options.bitsPerPixel = 1) (lines : List Bytes) (y : Nat)
    (job : KsJob F) (full : ∀ line ∈ lines, line.length = job.bytesPerLine)
    (page : y + lines.length = job.height) :
    (KsJob.writeLines options lines y job).map
        (fun result => result.map KsJob.rasterData) =
      (placeLines job.bytesPerLine lines y job.rasterData).map .ok := by
  induction lines generalizing y job with
  | nil => rfl
  | cons line lines ih =>
      obtain ⟨lineFull, full⟩ := List.forall_mem_cons.mp full
      rw [List.length_cons] at page
      have taken := job.appendLine_eq (y := y) line (by omega) lineFull
      simp only [KsJob.writeLines, KsJob.writeLine, oneBit, toGrayLine, taken,
        placeLines]
      cases copyInto job.rasterData (y * job.bytesPerLine % 2 ^ 32) line with
      | none => rfl
      | some rasterData =>
          exact ih (y + 1) _ full (by simpa using by omega)

/-- Lines of eight bits per pixel go into the buffer packed and mirrored. -/
theorem writeLines_eightBit [ExactOnBilevel F] {options : JobOptions}
    (eightBit : options.bitsPerPixel = 8) (rows : List (Nat → Bool)) (y : Nat)
    (job : KsJob F) (clean : job.ditherer.Clean)
    (width : job.ditherer.width = options.width.toNat)
    (stride : job.bytesPerLine = divCeil options.width.toNat 8)
    (page : y + rows.length = job.height) :
    (KsJob.writeLines options (rows.map (greyLine options.width.toNat)) y
        job).map (fun result => result.map KsJob.rasterData) =
      (placeLines job.bytesPerLine
        (rows.map fun ink =>
          packedLine options.width.toNat (mirrored options.width.toNat ink))
        y job.rasterData).map .ok := by
  induction rows generalizing y job with
  | nil => rfl
  | cons ink rows ih =>
      rw [List.length_cons] at page
      have grey : toGrayLine 8 (greyLine options.width.toNat ink)
          options.width.toNat = some (greyLine options.width.toNat ink) := by
        simp [toGrayLine, List.take_of_length_le]
      obtain ⟨next, nextClean, nextWidth, dithered⟩ :=
        Ditherer.line_bilevel clean (greyLine options.width.toNat ink)
          (by simp [width]) ink (by
            intro x xBound
            rw [width] at xBound
            simp [greyLine, xBound]) y
          (List.replicate (divCeil options.width.toNat 8) 0#8)
      rw [width, paint_inkBrush] at dithered
      have taken := { job with ditherer := next }.appendLine_eq (y := y)
        (packedLine options.width.toNat (mirrored options.width.toNat ink))
        (by simpa using by omega) (by simp [stride])
      simp only [List.map_cons, KsJob.writeLines, KsJob.writeLine, eightBit,
        grey, dithered, Option.map_some, placeLines, bind, Option.bind, taken]
      cases copyInto job.rasterData (y * job.bytesPerLine % 2 ^ 32)
          (packedLine options.width.toNat
            (mirrored options.width.toNat ink)) with
      | none => rfl
      | some rasterData =>
          exact ih (y + 1)
            { job with
              ditherer := next
              rasterData := rasterData
              linesReceived := job.linesReceived + 1 }
            nextClean (nextWidth.trans width) stride (by simpa using by omega)

/-! ### When the two ways agree -/

def imageRows (height : U32) (image : Nat → Nat → Bool) :
    List (Nat → Bool) :=
  (List.range height.toNat).map image

def submitOneBit (F : Type) [DitherFloat F] [DecidableLT F]
    (width height : U32) (density : U8) (printheadWidthDots : Nat)
    (dither : DitherMode) (image : Nat → Nat → Bool) :
    Option (Except String Bytes) :=
  submitPage F ⟨width, height, 1⟩ density printheadWidthDots dither
    ((imageRows height image).map (packedLine width.toNat))

def submitEightBit (F : Type) [DitherFloat F] [DecidableLT F]
    (width height : U32) (density : U8) (printheadWidthDots : Nat)
    (dither : DitherMode) (image : Nat → Nat → Bool) :
    Option (Except String Bytes) :=
  submitPage F ⟨width, height, 8⟩ density printheadWidthDots dither
    ((imageRows height image).map (greyLine width.toNat))

theorem submitOneBit_eq (width height : U32) (density : U8)
    (printheadWidthDots : Nat) (dither : DitherMode)
    (image : Nat → Nat → Bool) :
    submitOneBit F width height density printheadWidthDots dither image =
      (placeLines (divCeil width.toNat 8)
        ((imageRows height image).map (packedLine width.toNat)) 0
        (List.replicate (height.toNat * divCeil width.toNat 8 % 2 ^ 32)
          0#8)).map .ok :=
  writeLines_oneBit rfl _ 0
    (.start ⟨width, height, 1⟩ density printheadWidthDots dither : KsJob F)
    (by simp [KsJob.start]) (by simp [KsJob.start, imageRows])

theorem submitEightBit_eq [ExactOnBilevel F] (width height : U32)
    (density : U8) (printheadWidthDots : Nat) (dither : DitherMode)
    (image : Nat → Nat → Bool) :
    submitEightBit F width height density printheadWidthDots dither image =
      (placeLines (divCeil width.toNat 8)
        ((imageRows height image).map fun ink =>
          packedLine width.toNat (mirrored width.toNat ink)) 0
        (List.replicate (height.toNat * divCeil width.toNat 8 % 2 ^ 32)
          0#8)).map .ok :=
  writeLines_eightBit rfl (imageRows height image) 0
    (.start ⟨width, height, 8⟩ density printheadWidthDots dither : KsJob F)
    (Ditherer.new_clean _ _) rfl rfl (by simp [KsJob.start, imageRows])

/-- A page that fits its buffer is its lines; one that does not is a panic. -/
theorem placeLines_page (width height : U32) (lines : List Bytes)
    (count : lines.length = height.toNat)
    (full : ∀ line ∈ lines, line.length = divCeil width.toNat 8) :
    placeLines (divCeil width.toNat 8) lines 0
        (List.replicate (height.toNat * divCeil width.toNat 8 % 2 ^ 32) 0#8) =
      if height.toNat * divCeil width.toNat 8 < 2 ^ 32 then some lines.flatten
      else none := by
  split
  · next fits =>
      have filled := placeLines_fits lines full 0 []
        (List.replicate (height.toNat * divCeil width.toNat 8) 0#8)
        (by simp) (by simp [count]) (by simpa using fits)
      rw [Nat.mod_eq_of_lt fits]
      simpa [count] using filled
  · next large =>
      exact placeLines_overflows (by simp) (Nat.not_lt.mp large) lines full 0
        (by simpa using count) (by simp)

theorem flatten_map_eq_iff {stride : Nat} (rows : List (Nat → Bool))
    {first second : (Nat → Bool) → Bytes}
    (firstFull : ∀ row, (first row).length = stride)
    (secondFull : ∀ row, (second row).length = stride) :
    (rows.map first).flatten = (rows.map second).flatten ↔
      ∀ row ∈ rows, first row = second row := by
  induction rows with
  | nil => simp
  | cons row rows ih =>
      simp only [List.map_cons, List.flatten_cons, List.forall_mem_cons]
      rw [← ih]
      constructor
      · exact fun same => List.append_inj same
          ((firstFull row).trans (secondFull row).symm)
      · rintro ⟨sameRow, sameRest⟩
        rw [sameRow, sameRest]

/-- Both ways leave the same page in the buffer exactly when the page fits a
`u32` size and every row reads the same from both ends. -/
theorem submitOneBit_eq_submitEightBit_iff [ExactOnBilevel F]
    (width height : U32) (density : U8) (printheadWidthDots : Nat)
    (dither : DitherMode) (image : Nat → Nat → Bool) :
    (∃ raster,
      submitOneBit F width height density printheadWidthDots dither image =
        some (.ok raster) ∧
      submitEightBit F width height density printheadWidthDots dither image =
        some (.ok raster)) ↔
    height.toNat * divCeil width.toNat 8 < 2 ^ 32 ∧
      ∀ y < height.toNat, ∀ x < width.toNat,
        image y x = image y (width.toNat - 1 - x) := by
  rw [submitOneBit_eq, submitEightBit_eq,
    placeLines_page _ _ _ (by simp [imageRows]) (by simp),
    placeLines_page _ _ _ (by simp [imageRows]) (by simp)]
  by_cases fits : height.toNat * divCeil width.toNat 8 < 2 ^ 32
  · have rows := flatten_map_eq_iff (imageRows height image)
      (packedLine_length width.toNat)
      (fun row => packedLine_length width.toNat (mirrored width.toNat row))
    rw [if_pos fits, if_pos fits]
    simp only [Option.map_some, Option.some.injEq, Except.ok.injEq,
      exists_eq_left', fits, true_and]
    rw [eq_comm, rows]
    simp only [imageRows, List.forall_mem_map, List.mem_range, packedLine_inj,
      mirrored]
  · rw [if_neg fits]
    exact iff_of_false (by simp) fun agree => fits agree.1

end Job

/-- A page of two symmetric rows of three dots, diffused. -/
theorem submitOneBit_eq_submitEightBit_symmetric :
    ∃ raster,
      submitOneBit Rat 3#32 2#32 6#8 384 .atkinson (fun y x => x == 1 || y == 1) =
        some (.ok raster) ∧
      submitEightBit Rat 3#32 2#32 6#8 384 .atkinson (fun y x => x == 1 || y == 1) =
        some (.ok raster) :=
  (submitOneBit_eq_submitEightBit_iff (F := Rat) 3#32 2#32 6#8 384 .atkinson
    (fun y x => x == 1 || y == 1)).mpr ⟨by decide, by decide⟩

/-- One black dot at the left end of a line comes out at the left end from one
bit per pixel and at the right end from eight. -/
theorem submitOneBit_ne_submitEightBit :
    ¬ ∃ raster,
      submitOneBit Rat 8#32 1#32 6#8 384 .bayer (fun _ x => x == 0) =
        some (.ok raster) ∧
      submitEightBit Rat 8#32 1#32 6#8 384 .bayer (fun _ x => x == 0) =
        some (.ok raster) := by
  rintro ⟨raster, oneBit, eightBit⟩
  have left : raster = [0x80#8] :=
    Except.ok.inj (Option.some.inj (oneBit.symm.trans rfl))
  have right : raster = [0x01#8] :=
    Except.ok.inj (Option.some.inj (eightBit.symm.trans rfl))
  exact absurd (left.symm.trans right) (by decide)

end SupvanCups
