import SupvanCups.ByteWindows
import Mathlib.Tactic.IntervalCases

/-!
# Print buffers

A page goes to the printer as 4096-byte print buffers: a 14-byte header, image
data and zero padding.  This file builds one buffer, reads its header fields
back, and cuts a column-major bitmap into buffers band by band.

Arithmetic on the source's `u16` values wraps, as in a release build; `usize`
values are natural numbers.
-/

namespace SupvanCups

/-- Most image data a print buffer carries. -/
def maxBufData : Nat := 4074

def printBufSize : Nat := 4096

def printBufHeader : Nat := 14

def marginMaxDots : U16 := 900#16

def maxDensity : U8 := 15#8

def checksumStride : Nat := 256

structure PageRegBits where
  pageSt : Bool := false
  pageEnd : Bool := false
  prtEnd : Bool := false
  cut : U8 := 0#8
  savepaper : Bool := false
  firstCut : U8 := 0#8
  nodu : U8 := 0#8
  mat : U8 := 0#8

/-- The two PAGE_REG_BITS bytes of a buffer header. -/
def buildPageRegBits (p : PageRegBits) : U8 × U8 :=
  let b0 : U8 := 0#8
  let b0 := if p.pageSt then b0 ||| 0x02#8 else b0
  let b0 := if p.pageEnd then b0 ||| 0x04#8 else b0
  let b0 := if p.prtEnd then b0 ||| 0x08#8 else b0
  let b0 := b0 &&& 0x0F#8
  let b0 := b0 ||| ((p.cut &&& 0x07#8) <<< 4)
  let b0 := if p.savepaper then b0 ||| 0x80#8 else b0
  let b1 : U8 := 0#8
  let b1 := b1 ||| (p.firstCut &&& 0x03#8)
  let b1 := b1 ||| ((p.nodu &&& 0x0F#8) <<< 2)
  let b1 := b1 ||| ((p.mat &&& 0x03#8) <<< 6)
  (b0, b1)

/-- The two burn-energy trims of a print buffer. -/
structure Density where
  black : U8
  red : U8
  deriving DecidableEq

def Density.uniform (value : U8) : Density :=
  ⟨value, value⟩

inductive ColourMode
  | mono
  | twoColour
  deriving DecidableEq

/-- The `first_cut` value that selects a colour mode. -/
def ColourMode.firstCut : ColourMode → U8
  | .mono => 0#8
  | .twoColour => 2#8

/-- Bitplanes per printed column. -/
def ColourMode.planes : ColourMode → U16
  | .mono => 1#16
  | .twoColour => 2#16

structure PageOptions where
  colour : ColourMode := .mono
  savePaper : Bool := false
  deriving DecidableEq

structure PrintBufferParams where
  imageData : Bytes
  perLineByte : U8
  colsInBuf : U16
  pageSt : Bool
  pageEnd : Bool
  prtEnd : Bool
  marginTop : U16
  marginBottom : U16
  density : Density
  page : PageOptions

/-- A print buffer is a byte array of fixed size. -/
structure PrintBuffer where
  bytes : Bytes
  length_eq : bytes.length = printBufSize

/-- `margin.clamp(1, MARGIN_MAX_DOTS)`. -/
def clampMargin (margin : U16) : U16 :=
  if margin < 1#16 then 1#16
  else if marginMaxDots < margin then marginMaxDots
  else margin

/-- Header bytes 2 to 13: everything but the checksum. -/
def headerFields (p : PrintBufferParams) : Bytes :=
  let pageBits := buildPageRegBits
    { pageSt := p.pageSt
      pageEnd := p.pageEnd
      prtEnd := p.prtEnd
      nodu := p.density.black
      mat := 1#8
      firstCut := p.page.colour.firstCut
      savepaper := p.page.savePaper }
  [pageBits.1, pageBits.2] ++ toLeBytes p.colsInBuf ++
    [p.perLineByte, 0#8] ++ toLeBytes (clampMargin p.marginTop) ++
    toLeBytes (clampMargin p.marginBottom) ++
    [if p.density.red < maxDensity then p.density.red else maxDensity, 0#8]

/-- Image data from offset 14 on, filled up with zeros. -/
def imageField (image : Bytes) : Bytes :=
  let room := printBufSize - printBufHeader
  let data := image.take room
  data ++ List.replicate (room - data.length) 0#8

/-- Sum of the header bytes and of the byte before each 256-byte boundary
of the data, as a `u32`; `fields` starts at buffer offset 2. -/
def bufferChecksum (fields : Bytes) (dataEnd : Nat) : Nat :=
  ((fields.take 12).map BitVec.toNat).sum +
    ((List.range' 1 (dataEnd / checksumStride)).map fun stride =>
      let index := stride * checksumStride - 1
      if index < printBufSize then (fields.getD (index - 2) 0#8).toNat
      else 0).sum

@[simp]
theorem headerFields_length (p : PrintBufferParams) :
    (headerFields p).length = 12 :=
  rfl

@[simp]
theorem imageField_length (image : Bytes) :
    (imageField image).length = printBufSize - printBufHeader := by
  simp only [imageField, List.length_append, List.length_take,
    List.length_replicate]
  omega

/-- Build a 4096-byte print buffer. -/
def buildPrintBuffer (p : PrintBufferParams) : PrintBuffer where
  bytes :=
    let fields := headerFields p ++ imageField p.imageData
    let dataEnd := p.colsInBuf.toNat * p.perLineByte.toNat + printBufHeader
    toLeBytes (BitVec.ofNat 16 (bufferChecksum fields dataEnd)) ++ fields
  length_eq := by
    simp [printBufSize, printBufHeader]

/-! ### Reading a buffer back -/

namespace PrintBuffer

def byteAt (buffer : PrintBuffer) (index : Nat) : U8 :=
  buffer.bytes.getD index 0#8

/-- Bytes 0 and 1. -/
def checksum (buffer : PrintBuffer) : Nat :=
  fromLeBytes (buffer.byteAt 0) (buffer.byteAt 1)

/-- Bytes 4 and 5: the advertised number of lines. -/
def columnCount (buffer : PrintBuffer) : Nat :=
  fromLeBytes (buffer.byteAt 4) (buffer.byteAt 5)

/-- Byte 6. -/
def bytesPerLine (buffer : PrintBuffer) : Nat :=
  (buffer.byteAt 6).toNat

def pageSt (buffer : PrintBuffer) : Bool :=
  (buffer.byteAt 2).getLsbD 1

def pageEnd (buffer : PrintBuffer) : Bool :=
  (buffer.byteAt 2).getLsbD 2

def prtEnd (buffer : PrintBuffer) : Bool :=
  (buffer.byteAt 2).getLsbD 3

/-- The trims of the header: the `nodu` field and byte 12. -/
def trims (buffer : PrintBuffer) : U8 × U8 :=
  ((buffer.byteAt 3 >>> 2) &&& 0x0F#8, buffer.byteAt 12)

/-- The `first_cut` field, which selects the colour mode. -/
def firstCut (buffer : PrintBuffer) : U8 :=
  buffer.byteAt 3 &&& 0x03#8

/-- Everything after the header. -/
def payload (buffer : PrintBuffer) : Bytes :=
  buffer.bytes.drop printBufHeader

def imageBytes (buffer : PrintBuffer) : Bytes :=
  buffer.payload.take (buffer.columnCount * buffer.bytesPerLine)

end PrintBuffer

/-- The header encoding of a density: black is masked to the `nodu` field,
red is capped. -/
def Density.encode (density : Density) : U8 × U8 :=
  (density.black &&& 0x0F#8,
    if density.red < maxDensity then density.red else maxDensity)

section Fields

variable (p : PrintBufferParams)

@[simp]
theorem columnCount_buildPrintBuffer :
    (buildPrintBuffer p).columnCount = p.colsInBuf.toNat :=
  fromLeBytes_toLeBytes p.colsInBuf

@[simp]
theorem bytesPerLine_buildPrintBuffer :
    (buildPrintBuffer p).bytesPerLine = p.perLineByte.toNat :=
  rfl

@[simp]
theorem payload_buildPrintBuffer :
    (buildPrintBuffer p).payload = imageField p.imageData :=
  rfl

private theorem pageFlags_buildPageRegBits (bits : PageRegBits) :
    (buildPageRegBits bits).1.getLsbD 1 = bits.pageSt ∧
      (buildPageRegBits bits).1.getLsbD 2 = bits.pageEnd ∧
      (buildPageRegBits bits).1.getLsbD 3 = bits.prtEnd := by
  obtain ⟨pageSt, pageEnd, prtEnd, cut, savepaper, firstCut, nodu, mat⟩ := bits
  cases pageSt <;> cases pageEnd <;> cases prtEnd <;> cases savepaper <;>
    simp [buildPageRegBits]

@[simp]
theorem pageSt_buildPrintBuffer :
    (buildPrintBuffer p).pageSt = p.pageSt :=
  (pageFlags_buildPageRegBits _).1

@[simp]
theorem pageEnd_buildPrintBuffer :
    (buildPrintBuffer p).pageEnd = p.pageEnd :=
  (pageFlags_buildPageRegBits _).2.1

@[simp]
theorem prtEnd_buildPrintBuffer :
    (buildPrintBuffer p).prtEnd = p.prtEnd :=
  (pageFlags_buildPageRegBits _).2.2

private theorem nodu_buildPageRegBits (bits : PageRegBits) :
    ((buildPageRegBits bits).2 >>> 2) &&& 0x0F#8 = bits.nodu &&& 0x0F#8 := by
  apply BitVec.eq_of_getLsbD_eq
  intro index bound
  interval_cases index <;> simp [buildPageRegBits]

@[simp]
theorem trims_buildPrintBuffer :
    (buildPrintBuffer p).trims = p.density.encode :=
  Prod.ext (nodu_buildPageRegBits _) rfl

private theorem firstCut_buildPageRegBits (bits : PageRegBits) :
    (buildPageRegBits bits).2 &&& 0x03#8 = bits.firstCut &&& 0x03#8 := by
  apply BitVec.eq_of_getLsbD_eq
  intro bit bound
  interval_cases bit <;> simp [buildPageRegBits]

@[simp]
theorem firstCut_buildPrintBuffer :
    (buildPrintBuffer p).firstCut = p.page.colour.firstCut := by
  have kept := firstCut_buildPageRegBits
    { pageSt := p.pageSt
      pageEnd := p.pageEnd
      prtEnd := p.prtEnd
      nodu := p.density.black
      mat := 1#8
      firstCut := p.page.colour.firstCut
      savepaper := p.page.savePaper }
  have masked : p.page.colour.firstCut &&& 0x03#8 =
      p.page.colour.firstCut := by
    cases p.page.colour <;> rfl
  exact kept.trans masked

end Fields

end SupvanCups
