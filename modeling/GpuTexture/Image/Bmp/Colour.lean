import GpuTexture.Bytes.Basic
import GpuTexture.Image.Bmp.Fault

/-!
# Colours of stored pixels

A stored pixel holds its samples in bit fields, or the index of a palette entry. Samples of fewer
than eight bits are brought to eight, the smallest to 0 and the largest to 255.
-/

namespace GpuTexture.Bmp

/-- The bit field of one sample: `bits` bits, `shift` bits above the lowest. -/
structure Channel where
  shift : Nat
  bits : Nat
deriving DecidableEq, Repr

namespace Channel

def absent : Channel :=
  ⟨0, 0⟩

/-- The sample of eight bits nearest to one of `bits` bits; one that has eight stays as it is. -/
def widen (bits sample : Nat) : UInt8 :=
  let largest := (1 <<< bits) - 1
  if bits = 8 then UInt8.ofNat sample
  else UInt8.ofNat ((510 * sample + largest) / (2 * largest))

def read (channel : Channel) (pixel : Nat) : UInt8 :=
  widen channel.bits ((pixel >>> channel.shift) % (1 <<< channel.bits))

/-- The channel that a mask marks in pixels of `pixelBits` bits. The marked bits stand side by side;
of more than eight the upper ones count. -/
def ofMask (pixelBits : Nat) (mask : UInt32) : Except Fault Channel :=
  let marks := (List.range 32).map mask.toNat.testBit
  let shift := (marks.takeWhile (!·)).length
  let run := ((marks.drop shift).takeWhile id).length
  if mask = 0 then .ok absent
  else if (marks.drop (shift + run)).any id then .error (.malformed .maskGaps)
  else if pixelBits < shift + run then .error (.malformed .maskRange)
  else .ok ⟨shift + (run - 8), min run 8⟩

end Channel

structure Masks where
  red : Channel
  green : Channel
  blue : Channel
  alpha : Channel
deriving DecidableEq, Repr

namespace Masks

def five : Masks :=
  ⟨⟨10, 5⟩, ⟨5, 5⟩, ⟨0, 5⟩, .absent⟩

def eight : Masks :=
  ⟨⟨16, 8⟩, ⟨8, 8⟩, ⟨0, 8⟩, .absent⟩

def ofWords (pixelBits : Nat) (red green blue alpha : UInt32) : Except Fault Masks := do
  let red ← Channel.ofMask pixelBits red
  let green ← Channel.ofMask pixelBits green
  let blue ← Channel.ofMask pixelBits blue
  let alpha ← Channel.ofMask pixelBits alpha
  if red.bits = 0 ∨ green.bits = 0 ∨ blue.bits = 0 then
    throw (.malformed (.maskMissing pixelBits))
  return ⟨red, green, blue, alpha⟩

def hasAlpha (masks : Masks) : Bool :=
  masks.alpha.bits ≠ 0

def append (masks : Masks) (pixel : Nat) (made : Bytes) : Bytes :=
  let colour :=
    ((made.push (masks.red.read pixel)).push (masks.green.read pixel)).push (masks.blue.read pixel)
  if masks.hasAlpha then colour.push (masks.alpha.read pixel) else colour

end Masks

/-- A table of colours, each blue first and perhaps followed by a byte of no meaning. -/
structure Palette where
  entries : Bytes
  entrySize : Nat
deriving DecidableEq

/-- Appends the colour at an index, red first; behind the last entry all is black. -/
def Palette.append (palette : Palette) (index : Nat) (made : Bytes) : Bytes :=
  let blue := palette.entrySize * index
  ((made.push (Bytes.byteAt palette.entries (blue + 2))).push
    (Bytes.byteAt palette.entries (blue + 1))).push (Bytes.byteAt palette.entries blue)

end GpuTexture.Bmp
