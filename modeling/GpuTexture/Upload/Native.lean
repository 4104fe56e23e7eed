import GpuTexture.Upload.Device

/-!
# The native graphics interface

A native device takes the same calls in its own vocabulary. Formats have names of their own, the
adaptive ones by block and channel; row strides are optional; and of a texture's usages only the bits
that the interface defines are kept. Which bits these are is left open: a device comes with them.
-/

namespace GpuTexture

inductive NativeAstcBlock where
  | b4x4 | b5x4 | b5x5 | b6x5 | b6x6 | b8x5 | b8x6 | b8x8 | b10x5 | b10x6 | b10x8 | b10x10
  | b12x10 | b12x12
deriving DecidableEq, Repr

inductive NativeAstcChannel where
  | unorm | unormSrgb
deriving DecidableEq, Repr

/-- The names that the native interface has for formats. -/
inductive NativeFormat where
  | r8Unorm | r8Snorm | r8Uint | r8Sint | r16Uint | r16Sint | r16Float | rg8Unorm | rg8Snorm
  | rg8Uint | rg8Sint | r32Float | r32Uint | r32Sint | rg16Uint | rg16Sint | rg16Float
  | rgba8Unorm | rgba8UnormSrgb | rgba8Snorm | rgba8Uint | rgba8Sint | bgra8Unorm | bgra8UnormSrgb
  | rgb10a2Uint | rgb10a2Unorm | rg11b10Ufloat | rgb9e5Ufloat | rg32Float | rg32Uint | rg32Sint
  | rgba16Uint | rgba16Sint | rgba16Float | rgba32Float | rgba32Uint | rgba32Sint | stencil8
  | depth16Unorm | depth24Plus | depth24PlusStencil8 | depth32Float | depth32FloatStencil8
  | bc1RgbaUnorm | bc1RgbaUnormSrgb | bc2RgbaUnorm | bc2RgbaUnormSrgb | bc3RgbaUnorm
  | bc3RgbaUnormSrgb | bc4RUnorm | bc4RSnorm | bc5RgUnorm | bc5RgSnorm | bc6hRgbUfloat
  | bc6hRgbFloat | bc7RgbaUnorm | bc7RgbaUnormSrgb | etc2Rgb8Unorm | etc2Rgb8UnormSrgb
  | etc2Rgb8A1Unorm | etc2Rgb8A1UnormSrgb | etc2Rgba8Unorm | etc2Rgba8UnormSrgb | eacR11Unorm
  | eacR11Snorm | eacRg11Unorm | eacRg11Snorm
  | astc (block : NativeAstcBlock) (channel : NativeAstcChannel)
deriving DecidableEq, Repr

def NativeAstcBlock.text : NativeAstcBlock → String
  | .b4x4 => "B4x4"
  | .b5x4 => "B5x4"
  | .b5x5 => "B5x5"
  | .b6x5 => "B6x5"
  | .b6x6 => "B6x6"
  | .b8x5 => "B8x5"
  | .b8x6 => "B8x6"
  | .b8x8 => "B8x8"
  | .b10x5 => "B10x5"
  | .b10x6 => "B10x6"
  | .b10x8 => "B10x8"
  | .b10x10 => "B10x10"
  | .b12x10 => "B12x10"
  | .b12x12 => "B12x12"

def NativeAstcChannel.text : NativeAstcChannel → String
  | .unorm => "Unorm"
  | .unormSrgb => "UnormSrgb"

namespace NativeFormat

def ofFormat : TextureFormat → NativeFormat
  | .r8Unorm => .r8Unorm
  | .r8Snorm => .r8Snorm
  | .r8Uint => .r8Uint
  | .r8Sint => .r8Sint
  | .r16Uint => .r16Uint
  | .r16Sint => .r16Sint
  | .r16Float => .r16Float
  | .rg8Unorm => .rg8Unorm
  | .rg8Snorm => .rg8Snorm
  | .rg8Uint => .rg8Uint
  | .rg8Sint => .rg8Sint
  | .r32Float => .r32Float
  | .r32Uint => .r32Uint
  | .r32Sint => .r32Sint
  | .rg16Uint => .rg16Uint
  | .rg16Sint => .rg16Sint
  | .rg16Float => .rg16Float
  | .rgba8Unorm => .rgba8Unorm
  | .rgba8UnormSrgb => .rgba8UnormSrgb
  | .rgba8Snorm => .rgba8Snorm
  | .rgba8Uint => .rgba8Uint
  | .rgba8Sint => .rgba8Sint
  | .bgra8Unorm => .bgra8Unorm
  | .bgra8UnormSrgb => .bgra8UnormSrgb
  | .rgb10a2Uint => .rgb10a2Uint
  | .rgb10a2Unorm => .rgb10a2Unorm
  | .rg11b10Ufloat => .rg11b10Ufloat
  | .rgb9e5Ufloat => .rgb9e5Ufloat
  | .rg32Float => .rg32Float
  | .rg32Uint => .rg32Uint
  | .rg32Sint => .rg32Sint
  | .rgba16Uint => .rgba16Uint
  | .rgba16Sint => .rgba16Sint
  | .rgba16Float => .rgba16Float
  | .rgba32Float => .rgba32Float
  | .rgba32Uint => .rgba32Uint
  | .rgba32Sint => .rgba32Sint
  | .stencil8 => .stencil8
  | .depth16Unorm => .depth16Unorm
  | .depth24Plus => .depth24Plus
  | .depth24PlusStencil8 => .depth24PlusStencil8
  | .depth32Float => .depth32Float
  | .depth32FloatStencil8 => .depth32FloatStencil8
  | .bc1RgbaUnorm => .bc1RgbaUnorm
  | .bc1RgbaUnormSrgb => .bc1RgbaUnormSrgb
  | .bc2RgbaUnorm => .bc2RgbaUnorm
  | .bc2RgbaUnormSrgb => .bc2RgbaUnormSrgb
  | .bc3RgbaUnorm => .bc3RgbaUnorm
  | .bc3RgbaUnormSrgb => .bc3RgbaUnormSrgb
  | .bc4RUnorm => .bc4RUnorm
  | .bc4RSnorm => .bc4RSnorm
  | .bc5RgUnorm => .bc5RgUnorm
  | .bc5RgSnorm => .bc5RgSnorm
  | .bc6hRgbUfloat => .bc6hRgbUfloat
  | .bc6hRgbFloat => .bc6hRgbFloat
  | .bc7RgbaUnorm => .bc7RgbaUnorm
  | .bc7RgbaUnormSrgb => .bc7RgbaUnormSrgb
  | .etc2Rgb8Unorm => .etc2Rgb8Unorm
  | .etc2Rgb8UnormSrgb => .etc2Rgb8UnormSrgb
  | .etc2Rgb8A1Unorm => .etc2Rgb8A1Unorm
  | .etc2Rgb8A1UnormSrgb => .etc2Rgb8A1UnormSrgb
  | .etc2Rgba8Unorm => .etc2Rgba8Unorm
  | .etc2Rgba8UnormSrgb => .etc2Rgba8UnormSrgb
  | .eacR11Unorm => .eacR11Unorm
  | .eacR11Snorm => .eacR11Snorm
  | .eacRg11Unorm => .eacRg11Unorm
  | .eacRg11Snorm => .eacRg11Snorm
  | .astc4x4Unorm => .astc .b4x4 .unorm
  | .astc4x4UnormSrgb => .astc .b4x4 .unormSrgb
  | .astc5x4Unorm => .astc .b5x4 .unorm
  | .astc5x4UnormSrgb => .astc .b5x4 .unormSrgb
  | .astc5x5Unorm => .astc .b5x5 .unorm
  | .astc5x5UnormSrgb => .astc .b5x5 .unormSrgb
  | .astc6x5Unorm => .astc .b6x5 .unorm
  | .astc6x5UnormSrgb => .astc .b6x5 .unormSrgb
  | .astc6x6Unorm => .astc .b6x6 .unorm
  | .astc6x6UnormSrgb => .astc .b6x6 .unormSrgb
  | .astc8x5Unorm => .astc .b8x5 .unorm
  | .astc8x5UnormSrgb => .astc .b8x5 .unormSrgb
  | .astc8x6Unorm => .astc .b8x6 .unorm
  | .astc8x6UnormSrgb => .astc .b8x6 .unormSrgb
  | .astc8x8Unorm => .astc .b8x8 .unorm
  | .astc8x8UnormSrgb => .astc .b8x8 .unormSrgb
  | .astc10x5Unorm => .astc .b10x5 .unorm
  | .astc10x5UnormSrgb => .astc .b10x5 .unormSrgb
  | .astc10x6Unorm => .astc .b10x6 .unorm
  | .astc10x6UnormSrgb => .astc .b10x6 .unormSrgb
  | .astc10x8Unorm => .astc .b10x8 .unorm
  | .astc10x8UnormSrgb => .astc .b10x8 .unormSrgb
  | .astc10x10Unorm => .astc .b10x10 .unorm
  | .astc10x10UnormSrgb => .astc .b10x10 .unormSrgb
  | .astc12x10Unorm => .astc .b12x10 .unorm
  | .astc12x10UnormSrgb => .astc .b12x10 .unormSrgb
  | .astc12x12Unorm => .astc .b12x12 .unorm
  | .astc12x12UnormSrgb => .astc .b12x12 .unormSrgb

def text : NativeFormat → String
  | .r8Unorm => "R8Unorm"
  | .r8Snorm => "R8Snorm"
  | .r8Uint => "R8Uint"
  | .r8Sint => "R8Sint"
  | .r16Uint => "R16Uint"
  | .r16Sint => "R16Sint"
  | .r16Float => "R16Float"
  | .rg8Unorm => "Rg8Unorm"
  | .rg8Snorm => "Rg8Snorm"
  | .rg8Uint => "Rg8Uint"
  | .rg8Sint => "Rg8Sint"
  | .r32Float => "R32Float"
  | .r32Uint => "R32Uint"
  | .r32Sint => "R32Sint"
  | .rg16Uint => "Rg16Uint"
  | .rg16Sint => "Rg16Sint"
  | .rg16Float => "Rg16Float"
  | .rgba8Unorm => "Rgba8Unorm"
  | .rgba8UnormSrgb => "Rgba8UnormSrgb"
  | .rgba8Snorm => "Rgba8Snorm"
  | .rgba8Uint => "Rgba8Uint"
  | .rgba8Sint => "Rgba8Sint"
  | .bgra8Unorm => "Bgra8Unorm"
  | .bgra8UnormSrgb => "Bgra8UnormSrgb"
  | .rgb10a2Uint => "Rgb10a2Uint"
  | .rgb10a2Unorm => "Rgb10a2Unorm"
  | .rg11b10Ufloat => "Rg11b10Ufloat"
  | .rgb9e5Ufloat => "Rgb9e5Ufloat"
  | .rg32Float => "Rg32Float"
  | .rg32Uint => "Rg32Uint"
  | .rg32Sint => "Rg32Sint"
  | .rgba16Uint => "Rgba16Uint"
  | .rgba16Sint => "Rgba16Sint"
  | .rgba16Float => "Rgba16Float"
  | .rgba32Float => "Rgba32Float"
  | .rgba32Uint => "Rgba32Uint"
  | .rgba32Sint => "Rgba32Sint"
  | .stencil8 => "Stencil8"
  | .depth16Unorm => "Depth16Unorm"
  | .depth24Plus => "Depth24Plus"
  | .depth24PlusStencil8 => "Depth24PlusStencil8"
  | .depth32Float => "Depth32Float"
  | .depth32FloatStencil8 => "Depth32FloatStencil8"
  | .bc1RgbaUnorm => "Bc1RgbaUnorm"
  | .bc1RgbaUnormSrgb => "Bc1RgbaUnormSrgb"
  | .bc2RgbaUnorm => "Bc2RgbaUnorm"
  | .bc2RgbaUnormSrgb => "Bc2RgbaUnormSrgb"
  | .bc3RgbaUnorm => "Bc3RgbaUnorm"
  | .bc3RgbaUnormSrgb => "Bc3RgbaUnormSrgb"
  | .bc4RUnorm => "Bc4RUnorm"
  | .bc4RSnorm => "Bc4RSnorm"
  | .bc5RgUnorm => "Bc5RgUnorm"
  | .bc5RgSnorm => "Bc5RgSnorm"
  | .bc6hRgbUfloat => "Bc6hRgbUfloat"
  | .bc6hRgbFloat => "Bc6hRgbFloat"
  | .bc7RgbaUnorm => "Bc7RgbaUnorm"
  | .bc7RgbaUnormSrgb => "Bc7RgbaUnormSrgb"
  | .etc2Rgb8Unorm => "Etc2Rgb8Unorm"
  | .etc2Rgb8UnormSrgb => "Etc2Rgb8UnormSrgb"
  | .etc2Rgb8A1Unorm => "Etc2Rgb8A1Unorm"
  | .etc2Rgb8A1UnormSrgb => "Etc2Rgb8A1UnormSrgb"
  | .etc2Rgba8Unorm => "Etc2Rgba8Unorm"
  | .etc2Rgba8UnormSrgb => "Etc2Rgba8UnormSrgb"
  | .eacR11Unorm => "EacR11Unorm"
  | .eacR11Snorm => "EacR11Snorm"
  | .eacRg11Unorm => "EacRg11Unorm"
  | .eacRg11Snorm => "EacRg11Snorm"
  | .astc block channel => s!"Astc \x7b block: {block.text}, channel: {channel.text} \x7d"

end NativeFormat

inductive NativeDimension where
  | d1 | d2 | d3
deriving DecidableEq, Repr

namespace NativeDimension

def ofDimension : TextureDimension → NativeDimension
  | .d1 => .d1
  | .d2 => .d2
  | .d3 => .d3

def text : NativeDimension → String
  | .d1 => "D1"
  | .d2 => "D2"
  | .d3 => "D3"

end NativeDimension

inductive NativeAspect where
  | all | stencilOnly | depthOnly
deriving DecidableEq, Repr

namespace NativeAspect

def ofAspect : TextureAspect → NativeAspect
  | .all => .all
  | .stencilOnly => .stencilOnly
  | .depthOnly => .depthOnly

def text : NativeAspect → String
  | .all => "All"
  | .stencilOnly => "StencilOnly"
  | .depthOnly => "DepthOnly"

end NativeAspect

structure NativeExtent where
  width : UInt32
  height : UInt32
  depthOrArrayLayers : UInt32
deriving DecidableEq, Repr

structure NativeOrigin where
  x : UInt32
  y : UInt32
  z : UInt32
deriving DecidableEq, Repr

def NativeExtent.ofExtent (extent : Extent) : NativeExtent :=
  ⟨extent.width, extent.height, extent.depthOrArrayLayers⟩

def NativeOrigin.ofOrigin (origin : Origin) : NativeOrigin :=
  ⟨origin.x, origin.y, origin.z⟩

structure NativeDescriptor where
  label : Option String
  size : NativeExtent
  mipLevelCount : UInt32
  sampleCount : UInt32
  dimension : NativeDimension
  format : NativeFormat
  usage : UInt32
  viewFormats : List NativeFormat
deriving DecidableEq, Repr

/-- A descriptor in the vocabulary of an interface that defines the given usage bits. -/
def TextureDescriptor.toNative (definedBits : UInt32) (descriptor : TextureDescriptor) :
    NativeDescriptor where
  label := descriptor.label
  size := .ofExtent descriptor.size
  mipLevelCount := descriptor.mipLevelCount
  sampleCount := descriptor.sampleCount
  dimension := .ofDimension descriptor.dimension
  format := .ofFormat descriptor.format
  usage := descriptor.usage.bits &&& definedBits
  viewFormats := descriptor.viewFormats.map NativeFormat.ofFormat

/-- Where the rows of an image lie, with strides that may be left out. -/
structure NativeLayout where
  offset : UInt64
  bytesPerRow : Option UInt32
  rowsPerImage : Option UInt32
deriving DecidableEq, Repr

def BufferLayout.toNative (layout : BufferLayout) : NativeLayout :=
  ⟨layout.offset, some layout.bytesPerRow, some layout.rowsPerImage⟩

inductive NativeCall where
  | createTexture (id : UInt32) (descriptor : NativeDescriptor)
  | writeTexture (texture mipLevel : UInt32) (origin : NativeOrigin) (aspect : NativeAspect)
      (data : Bytes) (layout : NativeLayout) (size : NativeExtent)
deriving DecidableEq

/-- A native device and queue: the usage bits that they define, and the calls they have received, the
newest first. -/
structure NativeDevice where
  definedBits : UInt32
  log : List NativeCall
  nextId : UInt32
deriving DecidableEq

namespace NativeDevice

def fresh (definedBits : UInt32) : NativeDevice :=
  ⟨definedBits, [], 0⟩

def calls (device : NativeDevice) : List NativeCall :=
  device.log.reverse

def callOfWrite (write : TextureWrite UInt32) : NativeCall :=
  .writeTexture write.texture write.mipLevel (.ofOrigin write.origin) (.ofAspect write.aspect)
    write.data write.layout.toNative (.ofExtent write.size)

instance : GpuDevice NativeDevice UInt32 where
  createTexture descriptor device :=
    (device.nextId, ⟨device.definedBits,
      .createTexture device.nextId (descriptor.toNative device.definedBits) :: device.log,
      device.nextId + 1⟩)
  writeTexture write device :=
    ⟨device.definedBits, callOfWrite write :: device.log, device.nextId⟩

@[simp] theorem calls_fresh (definedBits : UInt32) : (fresh definedBits).calls = [] := rfl

theorem calls_createTexture (descriptor : TextureDescriptor) (device : NativeDevice) :
    (GpuDevice.createTexture descriptor device).2.calls =
      device.calls ++ [.createTexture device.nextId (descriptor.toNative device.definedBits)] :=
  List.reverse_cons

theorem calls_writeTexture (write : TextureWrite UInt32) (device : NativeDevice) :
    (GpuDevice.writeTexture write device).calls = device.calls ++ [callOfWrite write] :=
  List.reverse_cons

end NativeDevice

end GpuTexture
