import GpuTexture.Format.Basic

/-!
# Texel blocks

A format is stored in blocks: single texels for plain formats, fixed rectangles of texels for
compressed ones. A block is described by its bytes and its sides. Formats whose depth aspect has
no linear layout have no block description, and no buffer can be copied to them.
-/

namespace GpuTexture

/-- One texel block: the bytes it takes and its sides in texels. -/
structure BlockLayout where
  footprint : UInt32
  width : UInt32
  height : UInt32
deriving DecidableEq, Repr

def BlockLayout.isCompressed (block : BlockLayout) : Bool :=
  block.width > 1 || block.height > 1

namespace TextureFormat

/-- The bytes of one block, for formats that a buffer can be copied to. -/
def blockFootprint? : TextureFormat → Option UInt32
  | .depth24Plus | .depth24PlusStencil8 | .depth32FloatStencil8 => none
  | .r8Unorm | .r8Snorm | .r8Uint | .r8Sint | .stencil8 => some 1
  | .r16Uint | .r16Sint | .r16Float | .rg8Unorm | .rg8Snorm | .rg8Uint | .rg8Sint
  | .depth16Unorm => some 2
  | .r32Float | .r32Uint | .r32Sint | .rg16Uint | .rg16Sint | .rg16Float | .rgba8Unorm
  | .rgba8UnormSrgb | .rgba8Snorm | .rgba8Uint | .rgba8Sint | .bgra8Unorm | .bgra8UnormSrgb
  | .rgb10a2Uint | .rgb10a2Unorm | .rg11b10Ufloat | .rgb9e5Ufloat | .depth32Float => some 4
  | .rg32Float | .rg32Uint | .rg32Sint | .rgba16Uint | .rgba16Sint | .rgba16Float => some 8
  | .bc1RgbaUnorm | .bc1RgbaUnormSrgb | .bc4RUnorm | .bc4RSnorm => some 8
  | .etc2Rgb8Unorm | .etc2Rgb8UnormSrgb | .etc2Rgb8A1Unorm | .etc2Rgb8A1UnormSrgb
  | .eacR11Unorm | .eacR11Snorm => some 8
  | _ => some 16

/-- The sides of one block in texels, width first. -/
def blockSides : TextureFormat → UInt32 × UInt32
  | .bc1RgbaUnorm | .bc1RgbaUnormSrgb | .bc2RgbaUnorm | .bc2RgbaUnormSrgb | .bc3RgbaUnorm
  | .bc3RgbaUnormSrgb | .bc4RUnorm | .bc4RSnorm | .bc5RgUnorm | .bc5RgSnorm | .bc6hRgbUfloat
  | .bc6hRgbFloat | .bc7RgbaUnorm | .bc7RgbaUnormSrgb => (4, 4)
  | .etc2Rgb8Unorm | .etc2Rgb8UnormSrgb | .etc2Rgb8A1Unorm | .etc2Rgb8A1UnormSrgb
  | .etc2Rgba8Unorm | .etc2Rgba8UnormSrgb | .eacR11Unorm | .eacR11Snorm | .eacRg11Unorm
  | .eacRg11Snorm => (4, 4)
  | .astc4x4Unorm | .astc4x4UnormSrgb => (4, 4)
  | .astc5x4Unorm | .astc5x4UnormSrgb => (5, 4)
  | .astc5x5Unorm | .astc5x5UnormSrgb => (5, 5)
  | .astc6x5Unorm | .astc6x5UnormSrgb => (6, 5)
  | .astc6x6Unorm | .astc6x6UnormSrgb => (6, 6)
  | .astc8x5Unorm | .astc8x5UnormSrgb => (8, 5)
  | .astc8x6Unorm | .astc8x6UnormSrgb => (8, 6)
  | .astc8x8Unorm | .astc8x8UnormSrgb => (8, 8)
  | .astc10x5Unorm | .astc10x5UnormSrgb => (10, 5)
  | .astc10x6Unorm | .astc10x6UnormSrgb => (10, 6)
  | .astc10x8Unorm | .astc10x8UnormSrgb => (10, 8)
  | .astc10x10Unorm | .astc10x10UnormSrgb => (10, 10)
  | .astc12x10Unorm | .astc12x10UnormSrgb => (12, 10)
  | .astc12x12Unorm | .astc12x12UnormSrgb => (12, 12)
  | _ => (1, 1)

def blockLayout? (format : TextureFormat) : Option BlockLayout :=
  format.blockFootprint?.map fun footprint =>
    ⟨footprint, format.blockSides.1, format.blockSides.2⟩

def isCopyable (format : TextureFormat) : Bool :=
  format.blockFootprint?.isSome

end TextureFormat

end GpuTexture
