/-!
# Texture formats

The formats a texture may have, their names, and the list of all of them in declaration order.
The list misses none: `mem_all`.
-/

namespace GpuTexture

inductive TextureFormat where
  | r8Unorm | r8Snorm | r8Uint | r8Sint | r16Uint | r16Sint | r16Float | rg8Unorm | rg8Snorm
  | rg8Uint | rg8Sint | r32Float | r32Uint | r32Sint | rg16Uint | rg16Sint | rg16Float
  | rgba8Unorm | rgba8UnormSrgb | rgba8Snorm | rgba8Uint | rgba8Sint | bgra8Unorm
  | bgra8UnormSrgb | rgb10a2Uint | rgb10a2Unorm | rg11b10Ufloat | rgb9e5Ufloat | rg32Float
  | rg32Uint | rg32Sint | rgba16Uint | rgba16Sint | rgba16Float | rgba32Float | rgba32Uint
  | rgba32Sint | stencil8 | depth16Unorm | depth24Plus | depth24PlusStencil8 | depth32Float
  | depth32FloatStencil8 | bc1RgbaUnorm | bc1RgbaUnormSrgb | bc2RgbaUnorm | bc2RgbaUnormSrgb
  | bc3RgbaUnorm | bc3RgbaUnormSrgb | bc4RUnorm | bc4RSnorm | bc5RgUnorm | bc5RgSnorm
  | bc6hRgbUfloat | bc6hRgbFloat | bc7RgbaUnorm | bc7RgbaUnormSrgb | etc2Rgb8Unorm
  | etc2Rgb8UnormSrgb | etc2Rgb8A1Unorm | etc2Rgb8A1UnormSrgb | etc2Rgba8Unorm
  | etc2Rgba8UnormSrgb | eacR11Unorm | eacR11Snorm | eacRg11Unorm | eacRg11Snorm | astc4x4Unorm
  | astc4x4UnormSrgb | astc5x4Unorm | astc5x4UnormSrgb | astc5x5Unorm | astc5x5UnormSrgb
  | astc6x5Unorm | astc6x5UnormSrgb | astc6x6Unorm | astc6x6UnormSrgb | astc8x5Unorm
  | astc8x5UnormSrgb | astc8x6Unorm | astc8x6UnormSrgb | astc8x8Unorm | astc8x8UnormSrgb
  | astc10x5Unorm | astc10x5UnormSrgb | astc10x6Unorm | astc10x6UnormSrgb | astc10x8Unorm
  | astc10x8UnormSrgb | astc10x10Unorm | astc10x10UnormSrgb | astc12x10Unorm | astc12x10UnormSrgb
  | astc12x12Unorm | astc12x12UnormSrgb
deriving DecidableEq, Repr, Inhabited

namespace TextureFormat

def name : TextureFormat → String
  | .r8Unorm => "R8Unorm"
  | .r8Snorm => "R8Snorm"
  | .r8Uint => "R8Uint"
  | .r8Sint => "R8Sint"
  | .r16Uint => "R16Uint"
  | .r16Sint => "R16Sint"
  | .r16Float => "R16Float"
  | .rg8Unorm => "Rg8Unorm"
  | .rg8Snorm => "Rg8Snorm"
  | .rg8Uint => "Rg8Uint"
  | .rg8Sint => "Rg8Sint"
  | .r32Float => "R32Float"
  | .r32Uint => "R32Uint"
  | .r32Sint => "R32Sint"
  | .rg16Uint => "Rg16Uint"
  | .rg16Sint => "Rg16Sint"
  | .rg16Float => "Rg16Float"
  | .rgba8Unorm => "Rgba8Unorm"
  | .rgba8UnormSrgb => "Rgba8UnormSrgb"
  | .rgba8Snorm => "Rgba8Snorm"
  | .rgba8Uint => "Rgba8Uint"
  | .rgba8Sint => "Rgba8Sint"
  | .bgra8Unorm => "Bgra8Unorm"
  | .bgra8UnormSrgb => "Bgra8UnormSrgb"
  | .rgb10a2Uint => "Rgb10a2Uint"
  | .rgb10a2Unorm => "Rgb10a2Unorm"
  | .rg11b10Ufloat => "Rg11b10Ufloat"
  | .rgb9e5Ufloat => "Rgb9e5Ufloat"
  | .rg32Float => "Rg32Float"
  | .rg32Uint => "Rg32Uint"
  | .rg32Sint => "Rg32Sint"
  | .rgba16Uint => "Rgba16Uint"
  | .rgba16Sint => "Rgba16Sint"
  | .rgba16Float => "Rgba16Float"
  | .rgba32Float => "Rgba32Float"
  | .rgba32Uint => "Rgba32Uint"
  | .rgba32Sint => "Rgba32Sint"
  | .stencil8 => "Stencil8"
  | .depth16Unorm => "Depth16Unorm"
  | .depth24Plus => "Depth24Plus"
  | .depth24PlusStencil8 => "Depth24PlusStencil8"
  | .depth32Float => "Depth32Float"
  | .depth32FloatStencil8 => "Depth32FloatStencil8"
  | .bc1RgbaUnorm => "Bc1RgbaUnorm"
  | .bc1RgbaUnormSrgb => "Bc1RgbaUnormSrgb"
  | .bc2RgbaUnorm => "Bc2RgbaUnorm"
  | .bc2RgbaUnormSrgb => "Bc2RgbaUnormSrgb"
  | .bc3RgbaUnorm => "Bc3RgbaUnorm"
  | .bc3RgbaUnormSrgb => "Bc3RgbaUnormSrgb"
  | .bc4RUnorm => "Bc4RUnorm"
  | .bc4RSnorm => "Bc4RSnorm"
  | .bc5RgUnorm => "Bc5RgUnorm"
  | .bc5RgSnorm => "Bc5RgSnorm"
  | .bc6hRgbUfloat => "Bc6hRgbUfloat"
  | .bc6hRgbFloat => "Bc6hRgbFloat"
  | .bc7RgbaUnorm => "Bc7RgbaUnorm"
  | .bc7RgbaUnormSrgb => "Bc7RgbaUnormSrgb"
  | .etc2Rgb8Unorm => "Etc2Rgb8Unorm"
  | .etc2Rgb8UnormSrgb => "Etc2Rgb8UnormSrgb"
  | .etc2Rgb8A1Unorm => "Etc2Rgb8A1Unorm"
  | .etc2Rgb8A1UnormSrgb => "Etc2Rgb8A1UnormSrgb"
  | .etc2Rgba8Unorm => "Etc2Rgba8Unorm"
  | .etc2Rgba8UnormSrgb => "Etc2Rgba8UnormSrgb"
  | .eacR11Unorm => "EacR11Unorm"
  | .eacR11Snorm => "EacR11Snorm"
  | .eacRg11Unorm => "EacRg11Unorm"
  | .eacRg11Snorm => "EacRg11Snorm"
  | .astc4x4Unorm => "Astc4x4Unorm"
  | .astc4x4UnormSrgb => "Astc4x4UnormSrgb"
  | .astc5x4Unorm => "Astc5x4Unorm"
  | .astc5x4UnormSrgb => "Astc5x4UnormSrgb"
  | .astc5x5Unorm => "Astc5x5Unorm"
  | .astc5x5UnormSrgb => "Astc5x5UnormSrgb"
  | .astc6x5Unorm => "Astc6x5Unorm"
  | .astc6x5UnormSrgb => "Astc6x5UnormSrgb"
  | .astc6x6Unorm => "Astc6x6Unorm"
  | .astc6x6UnormSrgb => "Astc6x6UnormSrgb"
  | .astc8x5Unorm => "Astc8x5Unorm"
  | .astc8x5UnormSrgb => "Astc8x5UnormSrgb"
  | .astc8x6Unorm => "Astc8x6Unorm"
  | .astc8x6UnormSrgb => "Astc8x6UnormSrgb"
  | .astc8x8Unorm => "Astc8x8Unorm"
  | .astc8x8UnormSrgb => "Astc8x8UnormSrgb"
  | .astc10x5Unorm => "Astc10x5Unorm"
  | .astc10x5UnormSrgb => "Astc10x5UnormSrgb"
  | .astc10x6Unorm => "Astc10x6Unorm"
  | .astc10x6UnormSrgb => "Astc10x6UnormSrgb"
  | .astc10x8Unorm => "Astc10x8Unorm"
  | .astc10x8UnormSrgb => "Astc10x8UnormSrgb"
  | .astc10x10Unorm => "Astc10x10Unorm"
  | .astc10x10UnormSrgb => "Astc10x10UnormSrgb"
  | .astc12x10Unorm => "Astc12x10Unorm"
  | .astc12x10UnormSrgb => "Astc12x10UnormSrgb"
  | .astc12x12Unorm => "Astc12x12Unorm"
  | .astc12x12UnormSrgb => "Astc12x12UnormSrgb"

def all : List TextureFormat := [
  .r8Unorm, .r8Snorm, .r8Uint, .r8Sint, .r16Uint, .r16Sint, .r16Float, .rg8Unorm, .rg8Snorm,
  .rg8Uint, .rg8Sint, .r32Float, .r32Uint, .r32Sint, .rg16Uint, .rg16Sint, .rg16Float,
  .rgba8Unorm, .rgba8UnormSrgb, .rgba8Snorm, .rgba8Uint, .rgba8Sint, .bgra8Unorm,
  .bgra8UnormSrgb, .rgb10a2Uint, .rgb10a2Unorm, .rg11b10Ufloat, .rgb9e5Ufloat, .rg32Float,
  .rg32Uint, .rg32Sint, .rgba16Uint, .rgba16Sint, .rgba16Float, .rgba32Float, .rgba32Uint,
  .rgba32Sint, .stencil8, .depth16Unorm, .depth24Plus, .depth24PlusStencil8, .depth32Float,
  .depth32FloatStencil8, .bc1RgbaUnorm, .bc1RgbaUnormSrgb, .bc2RgbaUnorm, .bc2RgbaUnormSrgb,
  .bc3RgbaUnorm, .bc3RgbaUnormSrgb, .bc4RUnorm, .bc4RSnorm, .bc5RgUnorm, .bc5RgSnorm,
  .bc6hRgbUfloat, .bc6hRgbFloat, .bc7RgbaUnorm, .bc7RgbaUnormSrgb, .etc2Rgb8Unorm,
  .etc2Rgb8UnormSrgb, .etc2Rgb8A1Unorm, .etc2Rgb8A1UnormSrgb, .etc2Rgba8Unorm,
  .etc2Rgba8UnormSrgb, .eacR11Unorm, .eacR11Snorm, .eacRg11Unorm, .eacRg11Snorm, .astc4x4Unorm,
  .astc4x4UnormSrgb, .astc5x4Unorm, .astc5x4UnormSrgb, .astc5x5Unorm, .astc5x5UnormSrgb,
  .astc6x5Unorm, .astc6x5UnormSrgb, .astc6x6Unorm, .astc6x6UnormSrgb, .astc8x5Unorm,
  .astc8x5UnormSrgb, .astc8x6Unorm, .astc8x6UnormSrgb, .astc8x8Unorm, .astc8x8UnormSrgb,
  .astc10x5Unorm, .astc10x5UnormSrgb, .astc10x6Unorm, .astc10x6UnormSrgb, .astc10x8Unorm,
  .astc10x8UnormSrgb, .astc10x10Unorm, .astc10x10UnormSrgb, .astc12x10Unorm, .astc12x10UnormSrgb,
  .astc12x12Unorm, .astc12x12UnormSrgb]

def ofName? (text : String) : Option TextureFormat :=
  all.find? fun format => format.name == text

theorem mem_all (format : TextureFormat) : format ∈ all := by
  cases format <;> decide

end TextureFormat

end GpuTexture
