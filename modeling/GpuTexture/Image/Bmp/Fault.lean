/-!
# Bitmap faults

What keeps a bitmap from being decoded: headers that break the rules of the format, sound headers
that ask for what is not decoded, a picture above the memory limit, and a file that ends too early.
-/

namespace GpuTexture.Bmp

inductive Compression where
  | plain
  | runLength8
  | runLength4
  | bitfields
deriving DecidableEq, Repr

namespace Compression

def name : Compression → String
  | .plain => "RGB"
  | .runLength8 => "RLE8"
  | .runLength4 => "RLE4"
  | .bitfields => "bitfields"

def bitCounts : Compression → List UInt16
  | .plain => [1, 2, 4, 8, 16, 24, 32]
  | .runLength8 => [8]
  | .runLength4 => [4]
  | .bitfields => [16, 32]

end Compression

/-- The longest side of a bitmap, in pixels. -/
def sideLimit : Int := 65535

inductive Defect where
  | noSignature
  | headerTooSmall (size : UInt32)
  | negativeWidth (width : Int)
  | tooLarge (width height : Int)
  | invalidHeight
  | severalPlanes
  | packedTopDown (code : UInt32)
  | unknownCompression (code : UInt32)
  | bitCount (compression : Compression) (count : UInt16)
  | maskGaps
  | maskRange
  | maskMissing (pixelBits : Nat)
  | paletteTooLong (colours : UInt32) (bits : Nat)
  | corruptRuns
deriving DecidableEq, Repr

def Defect.message : Defect → String
  | .noSignature => "BMP signature not found"
  | .headerTooSmall size => s!"Bitmap header too small ({size} bytes)"
  | .negativeWidth width => s!"Negative width ({width})"
  | .tooLarge width height =>
    s!"Image too large (one of ({width}, {height}) > soft limit of {sideLimit})"
  | .invalidHeight => "Invalid height"
  | .severalPlanes => "More than one plane"
  | .packedTopDown code => s!"Invalid image type {code} for top-down image."
  | .unknownCompression code => s!"Unknown image compression type {code}"
  | .bitCount compression count =>
    s!"Invalid channel bit count for {compression.name}: {count}"
  | .maskGaps => "Non-contiguous bitfield mask"
  | .maskRange => "Invalid bitfield mask"
  | .maskMissing pixelBits => s!"Missing {pixelBits}-bit bitfield mask"
  | .paletteTooLong colours bits =>
    s!"Palette size {colours} exceeds maximum size for BMP with bit count of {bits}"
  | .corruptRuns => "Corrupt RLE data"

/-- What a sound header may ask for and is not decoded. -/
inductive Feature where
  | headerSize (size : UInt32)
  | dimensions (width height : UInt32)
  | jpeg
  | png
  | cmyk
deriving DecidableEq, Repr

def Feature.message : Feature → String
  | .headerSize size => s!"Unknown bitmap header type (size={size})"
  | .dimensions width height =>
    s!"Image dimensions ({width}x{height} w/3 channels) are too large"
  | .jpeg => "JPEG compression"
  | .png => "PNG compression"
  | .cmyk => "CMYK format"

inductive Fault where
  | truncated
  | memoryLimit
  | malformed (defect : Defect)
  | unsupported (feature : Feature)
deriving DecidableEq, Repr

namespace Fault

def message : Fault → String
  | .truncated => "failed to fill whole buffer"
  | .memoryLimit => "Memory limit exceeded"
  | .malformed defect => s!"Format error decoding Bmp: {defect.message}"
  | .unsupported feature =>
    s!"The decoder for Bmp does not support the format features {feature.message}"

def causes (fault : Fault) : List String :=
  fault.message ::
    match fault with
    | .malformed defect => [defect.message]
    | _ => []

end Fault

end GpuTexture.Bmp
