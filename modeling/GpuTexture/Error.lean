import GpuTexture.Format.Basic
import GpuTexture.Shape.Basic

/-!
# What can be wrong with a texture

The causes for which a shape, a layout or a level is refused, and their wording.
-/

namespace GpuTexture

/-- Why a texture, or one of its levels, is refused. -/
inductive TextureError where
  | formatNotCopyable (format : TextureFormat)
  | invalidShape (shape : Shape)
  | indexOutOfRange (mip levelCount : UInt32)
  | unsupportedCompression (scheme : UInt32)
  | layoutOverflow (mip : UInt32)
  | unalignedExtent (width height blockWidth blockHeight : UInt32)
deriving DecidableEq, Repr

def TextureError.message : TextureError → String
  | .formatNotCopyable format =>
    s!"texture format {format.name} cannot be copied to or from a buffer"
  | .invalidShape shape =>
    s!"not a valid texture shape: {shape.width}x{shape.height}x{shape.depth}, " ++
      s!"{shape.layers} layers, {shape.faces} faces"
  | .indexOutOfRange mip levelCount =>
    s!"mip level {mip} out of range (level count: {levelCount})"
  | .unsupportedCompression scheme => s!"unsupported supercompression scheme {scheme}"
  | .layoutOverflow mip => s!"layout of mip level {mip} overflows"
  | .unalignedExtent width height blockWidth blockHeight =>
    s!"extent {width}x{height} is not a multiple of the {blockWidth}x{blockHeight} block size"

def checkMip (mip levelCount : UInt32) : Except TextureError Unit :=
  if mip < levelCount then .ok () else .error (.indexOutOfRange mip levelCount)

theorem checkMip_eq_ok_iff {mip levelCount : UInt32} :
    checkMip mip levelCount = .ok () ↔ mip < levelCount := by
  simp [checkMip]

end GpuTexture
