import GpuTexture.File
import GpuTexture.Image.Bmp
import GpuTexture.Image.Signature
import GpuTexture.Source

/-!
# Plain pictures

A picture of red, green, blue and alpha bytes is a texture of one level. Encoded pictures are
recognised by their signature; bitmaps are decoded, the other encodings are refused by name.
-/

namespace GpuTexture

inductive DecodeFault where
  | undetermined
  | unsupported (format : ImageFormat)
  | bitmap (fault : Bmp.Fault)
deriving DecidableEq, Repr

namespace DecodeFault

def message : DecodeFault → String
  | .undetermined => "The image format could not be determined"
  | .unsupported format => s!"The image format {format.name} is not supported"
  | .bitmap fault => fault.message

def causes : DecodeFault → List String
  | .bitmap fault => fault.causes
  | fault => [fault.message]

end DecodeFault

inductive ImageError where
  | file (error : FileError)
  | decode (fault : DecodeFault)
  | empty (width height : UInt32)
  | sizeMismatch (expected actual : Nat)
deriving DecidableEq, Repr

def ImageError.message : ImageError → String
  | .file error => s!"I/O error: {error.message}"
  | .decode fault => s!"image error: {fault.message}"
  | .empty width height => s!"image has zero size: {width}x{height}"
  | .sizeMismatch expected actual =>
    s!"pixel buffer size mismatch: expected {expected}, got {actual}"

structure RgbaImage where
  width : UInt32
  height : UInt32
  data : Bytes
deriving DecidableEq

namespace RgbaImage

/-- Wraps tightly packed pixels; an empty picture is refused before a wrong length. The length is
counted in a 64-bit word. -/
def ofRgba8 (width height : UInt32) (data : Bytes) : Except ImageError RgbaImage :=
  if width = 0 ∨ height = 0 then .error (.empty width height)
  else
    let expected := width.toUInt64 * height.toUInt64 * 4
    if data.size ≠ expected.toNat then .error (.sizeMismatch expected.toNat data.size)
    else .ok ⟨width, height, data⟩

def ofPicture (picture : Picture) : Except ImageError RgbaImage :=
  ofRgba8 picture.width picture.height (picture.type.toRgba8 picture.pixels)

def decodeAs (format : ImageFormat) (bytes : Bytes) : Except ImageError RgbaImage :=
  match format with
  | .bmp =>
    match Bmp.decode bytes with
    | .ok picture => ofPicture picture
    | .error fault => .error (.decode (.bitmap fault))
  | _ => .error (.decode (.unsupported format))

def decode (bytes : Bytes) : Except ImageError RgbaImage :=
  match ImageFormat.ofBytes? bytes with
  | some format => decodeAs format bytes
  | none => .error (.decode .undetermined)

def format : TextureFormat := .rgba8Unorm

def levelLayout (image : RgbaImage) (mip : UInt32) : Except TextureError LevelLayout := do
  checkMip mip 1
  match format.blockLayout? with
  | some block => LevelLayout.compute block (.image2d image.width image.height) 0
  | none => throw (.formatNotCopyable format)

def levelData (image : RgbaImage) (mip : UInt32) : Except TextureError Bytes := do
  checkMip mip 1
  return image.data

def toSource (image : RgbaImage) : TextureSource where
  format := format
  dimension := .d2
  levelCount := 1
  extent := ⟨image.width, image.height, 1⟩
  levelLayout := image.levelLayout
  levelData := image.levelData

end RgbaImage

end GpuTexture
