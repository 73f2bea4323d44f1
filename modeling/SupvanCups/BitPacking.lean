import Mathlib.Data.List.ProdSigma
import Mathlib.Data.List.GetD
import Mathlib.Tactic.Ring

/-!
# Bytes, bit planes and painting loops

Fixed-width integers are bit vectors.  A bitmap is a list of bytes read at a
byte stride, with the dots of each byte packed either most significant bit
first or least significant bit first.

The loops that draw such bitmaps all do the same thing: at each step they
either leave the bytes alone or OR a mask into one byte, failing when the byte
lies outside the buffer.  `paint` is that loop, and `paint_spec` says which
bits are set once it has ended.
-/

namespace SupvanCups

abbrev U8 := BitVec 8
abbrev U16 := BitVec 16
abbrev U32 := BitVec 32
abbrev I32 := BitVec 32

abbrev Bytes := List U8

def divCeil (count size : Nat) : Nat :=
  (count + size - 1) / size

def toLeBytes (word : U16) : Bytes :=
  [BitVec.ofNat 8 (word.toNat % 256), BitVec.ofNat 8 (word.toNat / 256)]

def toBeBytes (word : U16) : Bytes :=
  [BitVec.ofNat 8 (word.toNat / 256), BitVec.ofNat 8 (word.toNat % 256)]

def fromLeBytes (low high : U8) : Nat :=
  low.toNat + 256 * high.toNat

@[simp]
theorem toLeBytes_length (word : U16) : (toLeBytes word).length = 2 :=
  rfl

@[simp]
theorem toBeBytes_length (word : U16) : (toBeBytes word).length = 2 :=
  rfl

theorem fromLeBytes_toLeBytes (word : U16) :
    fromLeBytes (BitVec.ofNat 8 (word.toNat % 256))
      (BitVec.ofNat 8 (word.toNat / 256)) = word.toNat := by
  have bounded := word.isLt
  simp only [fromLeBytes, BitVec.toNat_ofNat]
  omega

/-- Bit `bit` of byte `index`, where bytes outside the buffer read as zero. -/
def bitAt (bytes : Bytes) (index bit : Nat) : Bool :=
  (bytes.getD index 0#8).getLsbD bit

/-- Dot `dot` of line `line` when bytes are packed least significant bit
first. -/
def lsbDot (bytes : Bytes) (stride line dot : Nat) : Bool :=
  bitAt bytes (line * stride + dot / 8) (dot % 8)

/-- Dot `dot` of line `line` when bytes are packed most significant bit
first. -/
def msbDot (bytes : Bytes) (stride line dot : Nat) : Bool :=
  bitAt bytes (line * stride + dot / 8) (7 - dot % 8)

theorem and_one_ne_zero_iff (byte : U8) (shift : Nat) :
    (byte >>> shift) &&& 1#8 ≠ 0#8 ↔ byte.getLsbD shift = true := by
  rw [BitVec.and_one_eq_setWidth_ofBool_getLsbD]
  cases shifted : (byte >>> shift).getLsbD 0 <;>
    simp at shifted <;> simp [shifted]

@[simp]
theorem bitAt_replicate_zero (count index bit : Nat) :
    bitAt (List.replicate count 0#8) index bit = false := by
  simp only [bitAt, List.getD_eq_getElem?_getD, List.getElem?_replicate]
  split <;> simp

theorem bitAt_of_length_le {bytes : Bytes} {index : Nat}
    (outside : bytes.length ≤ index) (bit : Nat) :
    bitAt bytes index bit = false := by
  simp [bitAt, List.getElem?_eq_none outside]

/-- Byte strings of equal length with the same bits are equal. -/
theorem eq_of_bitAt_eq {first second : Bytes}
    (lengthEq : first.length = second.length)
    (bitsEq : ∀ index bit, bit < 8 →
      bitAt first index bit = bitAt second index bit) :
    first = second := by
  apply List.ext_getElem lengthEq
  intro index firstBound secondBound
  apply BitVec.eq_of_getLsbD_eq
  intro bit bitBound
  simpa [bitAt, List.getD_eq_getElem, firstBound, secondBound] using
    bitsEq index bit bitBound

/-- OR a mask into one byte; `none` is an index outside the buffer. -/
def orMask (bytes : Bytes) (index : Nat) (mask : U8) : Option Bytes :=
  if index < bytes.length then
    some (bytes.modify index (· ||| mask))
  else
    none

theorem orMask_of_lt {bytes : Bytes} {index : Nat}
    (inside : index < bytes.length) (mask : U8) :
    orMask bytes index mask = some (bytes.modify index (· ||| mask)) :=
  if_pos inside

theorem bitAt_modify_or {bytes : Bytes} {index : Nat}
    (inside : index < bytes.length) (mask : U8) (other bit : Nat) :
    bitAt (bytes.modify index (· ||| mask)) other bit =
      (bitAt bytes other bit || (other == index && mask.getLsbD bit)) := by
  simp only [bitAt, List.getD_eq_getElem?_getD, List.getElem?_modify]
  by_cases same : index = other
  · subst other
    simp [inside]
  · have different : (other == index) = false := by
      simpa using Ne.symm same
    simp [same, different]

/-- In rows of one stride, a row ends within the rows. -/
theorem rowEnd_le {y rows : Nat} (yBound : y < rows) (stride : Nat) :
    y * stride + stride ≤ rows * stride := by
  rw [← Nat.succ_mul]
  exact Nat.mul_le_mul_right stride yBound

/-- Run a drawing loop: each step may OR a mask into one byte. -/
def paint {Step : Type*} (steps : List Step)
    (brush : Step → Option (Nat × U8)) (bytes : Bytes) : Option Bytes :=
  steps.foldlM (fun painted step =>
    match brush step with
    | none => some painted
    | some (index, mask) => orMask painted index mask) bytes

@[simp]
theorem paint_nil {Step : Type*} (brush : Step → Option (Nat × U8))
    (bytes : Bytes) :
    paint [] brush bytes = some bytes :=
  rfl

theorem paint_cons_of_none {Step : Type*} {step : Step}
    {brush : Step → Option (Nat × U8)} (idle : brush step = none)
    (steps : List Step) (bytes : Bytes) :
    paint (step :: steps) brush bytes = paint steps brush bytes := by
  simp only [paint, List.foldlM_cons, idle, Option.bind_eq_bind,
    Option.bind_some]

theorem paint_cons_of_some {Step : Type*} {step : Step}
    {brush : Step → Option (Nat × U8)} {index : Nat} {mask : U8}
    (stroke : brush step = some (index, mask)) {bytes : Bytes}
    (inside : index < bytes.length) (steps : List Step) :
    paint (step :: steps) brush bytes =
      paint steps brush (bytes.modify index (· ||| mask)) := by
  simp only [paint, List.foldlM_cons, stroke, orMask_of_lt inside,
    Option.bind_eq_bind, Option.bind_some]

theorem paint_congr {Step : Type*} {steps : List Step}
    {first second : Step → Option (Nat × U8)}
    (agree : ∀ step ∈ steps, first step = second step) (bytes : Bytes) :
    paint steps first bytes = paint steps second bytes := by
  induction steps generalizing bytes with
  | nil => rfl
  | cons step steps ih =>
      simp only [paint, List.foldlM_cons, agree step List.mem_cons_self]
      congr 1
      funext painted
      exact ih (fun later member =>
        agree later (List.mem_cons_of_mem _ member)) painted

theorem paint_cons {Step : Type*} (step : Step) (steps : List Step)
    (brush : Step → Option (Nat × U8)) (bytes : Bytes) :
    paint (step :: steps) brush bytes =
      (paint [step] brush bytes).bind (paint steps brush) := by
  simp [paint]
  rfl

/-- A painting loop whose brush stays inside the buffer succeeds, keeps the
length, and sets exactly the bits of the masks it used. -/
theorem paint_spec {Step : Type*} (steps : List Step)
    (brush : Step → Option (Nat × U8)) (bytes : Bytes)
    (inside : ∀ step ∈ steps, ∀ index mask,
      brush step = some (index, mask) → index < bytes.length) :
    ∃ painted, paint steps brush bytes = some painted ∧
      painted.length = bytes.length ∧
      ∀ index bit, bitAt painted index bit = true ↔
        bitAt bytes index bit = true ∨
          ∃ step ∈ steps, ∃ mask,
            brush step = some (index, mask) ∧ mask.getLsbD bit = true := by
  induction steps generalizing bytes with
  | nil => exact ⟨bytes, rfl, rfl, by simp⟩
  | cons step steps ih =>
      cases stroke : brush step with
      | none =>
          obtain ⟨painted, run, lengthEq, bits⟩ := ih bytes
            (fun later member => inside later (List.mem_cons_of_mem _ member))
          refine ⟨painted, ?_, lengthEq, ?_⟩
          · rw [paint_cons_of_none stroke]
            exact run
          · intro index bit
            simp [bits, stroke]
      | some stroked =>
          obtain ⟨index, mask⟩ := stroked
          have indexBound : index < bytes.length :=
            inside step List.mem_cons_self index mask stroke
          obtain ⟨painted, run, lengthEq, bits⟩ :=
            ih (bytes.modify index (· ||| mask)) (by
              intro later member laterIndex laterMask laterStroke
              rw [List.length_modify]
              exact inside later (List.mem_cons_of_mem _ member) laterIndex
                laterMask laterStroke)
          refine ⟨painted, ?_, by simpa using lengthEq, ?_⟩
          · rw [paint_cons_of_some stroke indexBound]
            exact run
          · intro other bit
            rw [bits, bitAt_modify_or indexBound]
            simp only [Bool.or_eq_true, Bool.and_eq_true, beq_iff_eq,
              List.mem_cons, exists_eq_or_imp, stroke, Option.some.injEq,
              Prod.mk.injEq]
            constructor
            · rintro ((before | ⟨rfl, inMask⟩) | later)
              · exact Or.inl before
              · exact Or.inr (Or.inl ⟨mask, ⟨rfl, rfl⟩, inMask⟩)
              · exact Or.inr (Or.inr later)
            · rintro (before | ⟨_, ⟨rfl, rfl⟩, inMask⟩ | later)
              · exact Or.inl (Or.inl before)
              · exact Or.inl (Or.inr ⟨rfl, inMask⟩)
              · exact Or.inr later

theorem getLsbD_one_shiftLeft (shift bit : Nat) :
    (1#8 <<< shift).getLsbD bit = true ↔ bit = shift ∧ bit < 8 := by
  rw [BitVec.getLsbD_shiftLeft, BitVec.getLsbD_one]
  simp only [Bool.and_eq_true, Bool.not_eq_true', decide_eq_true_eq,
    decide_eq_false_iff_not]
  omega

theorem getLsbD_msbMask {shift bit : Nat} (shiftBound : shift < 8)
    (bitBound : bit < 8) :
    (0x80#8 >>> shift).getLsbD bit = true ↔ shift = 7 - bit := by
  have checked : ∀ s < 8, ∀ b < 8,
      (0x80#8 >>> s).getLsbD b = true ↔ s = 7 - b := by
    decide
  exact checked shift shiftBound bit bitBound

end SupvanCups
