import GpuTexture.Bytes.LittleEndian

/-!
# Pixel types

A decoded picture may hold grey or coloured pixels, with or without alpha, in samples of 8 or 16
bits or 32-bit floats. Each is brought to eight bits per sample and then to four samples per pixel:
grey is repeated for the three colours, and a missing alpha is opaque.
-/

namespace GpuTexture

inductive SampleType where
  | uint8
  | uint16
  | float32
deriving DecidableEq, Repr

inductive Channels where
  | grey
  | greyAlpha
  | rgb
  | rgba
deriving DecidableEq, Repr

structure PixelType where
  sample : SampleType
  channels : Channels
deriving DecidableEq, Repr

namespace SampleType

def narrow16 (sample : UInt16) : UInt8 :=
  UInt8.ofNat ((sample.toNat + 128) / 257)

/-- A float sample to an 8-bit one: from one on it is full, below zero it is empty, and a half is
rounded up. What is not a number is full. -/
def narrowFloat (sample : Float32) : UInt8 :=
  if sample < 1.0 then
    let positive : Float32 := if sample > 0.0 then sample else 0.0
    (positive * 255.0).round.toUInt8
  else 255

def toUInt8 (type : SampleType) (samples : Bytes) : Bytes :=
  match type with
  | .uint8 => samples
  | .uint16 =>
    Bytes.tabulate (samples.size / 2) fun i => narrow16 (Bytes.word16At (2 * i) samples)
  | .float32 =>
    Bytes.tabulate (samples.size / 4) fun i =>
      narrowFloat (Float32.ofBits (Bytes.word32At (4 * i) samples))

end SampleType

namespace Channels

def toRgba (channels : Channels) (samples : Bytes) : Bytes :=
  match channels with
  | .grey =>
    Bytes.tabulate (4 * samples.size) fun i =>
      if i % 4 = 3 then 255 else Bytes.byteAt samples (i / 4)
  | .greyAlpha =>
    Bytes.tabulate (4 * (samples.size / 2)) fun i =>
      Bytes.byteAt samples (2 * (i / 4) + if i % 4 = 3 then 1 else 0)
  | .rgb =>
    Bytes.tabulate (4 * (samples.size / 3)) fun i =>
      if i % 4 = 3 then 255 else Bytes.byteAt samples (3 * (i / 4) + i % 4)
  | .rgba => samples

end Channels

def PixelType.toRgba8 (type : PixelType) (pixels : Bytes) : Bytes :=
  type.channels.toRgba (type.sample.toUInt8 pixels)

structure Picture where
  width : UInt32
  height : UInt32
  type : PixelType
  pixels : Bytes
deriving DecidableEq

end GpuTexture
