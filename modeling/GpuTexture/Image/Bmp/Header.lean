import GpuTexture.Bytes.Cursor
import GpuTexture.Image.Bmp.Colour

/-!
# Bitmap headers

A bitmap opens with a file header, which says where the pixels start, and a picture header, behind
which masks or a palette may follow. All is read from left to right and each field is judged once it
has been read, so that of several faults the first in the file is reported.
-/

namespace GpuTexture.Bmp

abbrev Scan := StateT Cursor (Except Fault)

namespace Scan

def ofReading {α : Type} (reading : Reading α) : Scan α := fun cursor =>
  (reading.answer cursor).mapError fun _ => .truncated

def bytes (count : Nat) : Scan Bytes :=
  ofReading (Reading.bytes count)

def skip (count : Nat) : Scan Unit := do
  discard (bytes count)

/-- Goes to a position, which may lie behind the end. -/
def seek (position : Nat) : Scan Unit :=
  modify fun cursor => ⟨cursor.buffer, position⟩

def byte : Scan UInt8 := do
  return Bytes.byteAt (← bytes 1) 0

def word16 : Scan UInt16 :=
  ofReading Reading.word16

def word32 : Scan UInt32 :=
  ofReading Reading.word32

def signed32 : Scan Int := do
  return (← word32).toInt32.toInt

end Scan

structure Frame where
  width : UInt32
  height : UInt32
  topDown : Bool
deriving DecidableEq, Repr

namespace Frame

/-- The frame that two stored sides describe. A negative height puts the top row first; the lowest
one has no opposite and is no height. -/
def ofStored (width height : Int) : Except Fault Frame :=
  if width < 0 then .error (.malformed (.negativeWidth width))
  else if sideLimit < width ∨ sideLimit < height then .error (.malformed (.tooLarge width height))
  else if height = Int32.minValue.toInt then .error (.malformed .invalidHeight)
  else
    let frame : Frame := ⟨.ofNat width.toNat, .ofNat height.natAbs, height < 0⟩
    if frame.width = 0 ∨ frame.height = 0 then
      .error (.unsupported (.dimensions frame.width frame.height))
    else .ok frame

def pixelCount (frame : Frame) : Nat :=
  frame.width.toNat * frame.height.toNat

end Frame

/-- How the pixels of a bitmap are stored, each in some number of bits: as bit fields, as indices
into a palette, or as runs of such indices. -/
inductive Storage where
  | direct (bits : Nat) (masks : Masks)
  | indexed (bits : Nat) (palette : Palette)
  | runs (bits : Nat) (palette : Palette)
deriving DecidableEq

namespace Storage

def bits : Storage → Nat
  | .direct bits _ | .indexed bits _ | .runs bits _ => bits

def hasAlpha : Storage → Bool
  | .direct _ masks => masks.hasAlpha
  | _ => false

def samples (storage : Storage) : Nat :=
  if storage.hasAlpha then 4 else 3

end Storage

structure Info where
  dataOffset : Nat
  frame : Frame
  storage : Storage
deriving DecidableEq

def fileHeaderSize : Nat := 14

/-- The size of the smallest picture header, whose sides are 16-bit words. -/
def coreHeaderSize : UInt32 := 12

/-- The sizes of the picture headers that open with the same forty bytes. -/
def infoHeaderSizes : List UInt32 := [40, 52, 56, 108, 124]

/-- The size from which on a picture header has a mask for alpha. -/
def alphaHeaderSize : UInt32 := 56

/-- The most bytes that a decoded picture may take. -/
def memoryLimit : Nat := 536870912

def scanFileHeader : Scan Nat := do
  if (← Scan.bytes 2) ≠ ⟨#[0x42, 0x4D]⟩ then throw (.malformed .noSignature)
  Scan.skip 8
  return (← Scan.word32).toNat

def scanHeaderSize : Scan UInt32 := do
  let size ← Scan.word32
  if size < coreHeaderSize then throw (.malformed (.headerTooSmall size))
  if size ≠ coreHeaderSize ∧ size ∉ infoHeaderSizes then throw (.unsupported (.headerSize size))
  return size

def scanBitCount : Scan UInt16 := do
  if (← Scan.word16) ≠ 1 then throw (.malformed .severalPlanes)
  Scan.word16

def Compression.ofWord (code : UInt32) : Except Fault Compression :=
  match code with
  | 0 => .ok .plain
  | 1 => .ok .runLength8
  | 2 => .ok .runLength4
  | 3 => .ok .bitfields
  | 4 => .error (.unsupported .jpeg)
  | 5 => .error (.unsupported .png)
  | 11 | 12 | 13 => .error (.unsupported .cmyk)
  | _ => .error (.malformed (.unknownCompression code))

/-- Reads the packing of the pixels and the bits of each. Packed rows cannot start at the top. -/
def scanPacking (topDown : Bool) : Scan (Compression × UInt16) := do
  let bitCount ← scanBitCount
  let code ← Scan.word32
  if topDown ∧ code ≠ 0 ∧ code ≠ 3 then throw (.malformed (.packedTopDown code))
  let compression ← Compression.ofWord code
  if bitCount ∉ compression.bitCounts then throw (.malformed (.bitCount compression bitCount))
  return (compression, bitCount)

/-- Reads a palette of so many colours, or of as many as the bits of a pixel can name. -/
def scanPalette (entrySize bits : Nat) (colours : UInt32) : Scan Palette := do
  let most := 1 <<< bits
  if most < colours.toNat then throw (.malformed (.paletteTooLong colours bits))
  let count := if colours = 0 then most else colours.toNat
  return ⟨← Scan.bytes (count * entrySize), entrySize⟩

/-- Reads the masks behind the forty bytes that all larger headers share. -/
def scanMasks (headerSize : UInt32) (bits : Nat) : Scan Masks := do
  let red ← Scan.word32
  let green ← Scan.word32
  let blue ← Scan.word32
  let alpha ← if alphaHeaderSize ≤ headerSize then Scan.word32 else pure 0
  Masks.ofWords bits red green blue alpha

def scanCore : Scan (Frame × Storage) := do
  let width ← Scan.word16
  let height ← Scan.word16
  let frame ← Frame.ofStored width.toNat height.toNat
  let bitCount ← scanBitCount
  match bitCount with
  | 24 => return (frame, .direct 24 .eight)
  | 1 | 4 | 8 => return (frame, .indexed bitCount.toNat (← scanPalette 3 bitCount.toNat 0))
  | _ => throw (.malformed (.bitCount .plain bitCount))

def scanPicture (headerSize : UInt32) : Scan (Frame × Storage) := do
  let width ← Scan.signed32
  let height ← Scan.signed32
  let frame ← Frame.ofStored width height
  let (compression, bitCount) ← scanPacking frame.topDown
  Scan.skip 12
  let colours ← Scan.word32
  Scan.skip 4
  let bits := bitCount.toNat
  let palette : Scan Palette := do
    Scan.seek (fileHeaderSize + headerSize.toNat)
    scanPalette 4 bits colours
  match compression with
  | .bitfields => return (frame, .direct bits (← scanMasks headerSize bits))
  | .runLength8 | .runLength4 => return (frame, .runs bits (← palette))
  | .plain =>
    if 24 ≤ bits then return (frame, .direct bits .eight)
    else if bits = 16 then return (frame, .direct bits .five)
    else return (frame, .indexed bits (← palette))

def scanInfo : Scan Info := do
  let dataOffset ← scanFileHeader
  let headerSize ← scanHeaderSize
  let (frame, storage) ←
    if headerSize = coreHeaderSize then scanCore else scanPicture headerSize
  if memoryLimit < frame.pixelCount * storage.samples then throw .memoryLimit
  return ⟨dataOffset, frame, storage⟩

/-- The bytes of a stored row, which is padded to whole words. -/
def Info.stride (info : Info) : Nat :=
  (info.storage.bits * info.frame.width.toNat + 31) / 32 * 4

/-- Where a row starts, the top one being the first. -/
def Info.rowStart (info : Info) (row : Nat) : Nat :=
  let stored := if info.frame.topDown then row else info.frame.height.toNat - 1 - row
  info.dataOffset + info.stride * stored

end GpuTexture.Bmp
