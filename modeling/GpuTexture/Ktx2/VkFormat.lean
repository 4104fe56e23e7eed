import GpuTexture.Format.Basic

/-!
# Vulkan format codes

The codes by which a container names its texture format. The two BC1 codes without alpha share the
format of those with alpha, which decodes them as opaque. A code outside the table has no
counterpart: packed 24-bit colours, scaled integers, 64-bit channels.
-/

namespace GpuTexture.VkFormat

/-- Every code with a counterpart, in ascending order. -/
def table : List (UInt32 × TextureFormat) :=
  [(9, .r8Unorm), (10, .r8Snorm), (13, .r8Uint), (14, .r8Sint), (16, .rg8Unorm), (17, .rg8Snorm),
   (20, .rg8Uint), (21, .rg8Sint), (37, .rgba8Unorm), (38, .rgba8Snorm), (41, .rgba8Uint),
   (42, .rgba8Sint), (43, .rgba8UnormSrgb), (44, .bgra8Unorm), (50, .bgra8UnormSrgb),
   (64, .rgb10a2Unorm), (68, .rgb10a2Uint), (74, .r16Uint), (75, .r16Sint), (76, .r16Float),
   (81, .rg16Uint), (82, .rg16Sint), (83, .rg16Float), (95, .rgba16Uint), (96, .rgba16Sint),
   (97, .rgba16Float), (98, .r32Uint), (99, .r32Sint), (100, .r32Float), (101, .rg32Uint),
   (102, .rg32Sint), (103, .rg32Float), (107, .rgba32Uint), (108, .rgba32Sint),
   (109, .rgba32Float), (122, .rg11b10Ufloat), (123, .rgb9e5Ufloat), (124, .depth16Unorm),
   (125, .depth24Plus), (126, .depth32Float), (127, .stencil8), (129, .depth24PlusStencil8),
   (130, .depth32FloatStencil8), (131, .bc1RgbaUnorm), (132, .bc1RgbaUnormSrgb),
   (133, .bc1RgbaUnorm), (134, .bc1RgbaUnormSrgb), (135, .bc2RgbaUnorm), (136, .bc2RgbaUnormSrgb),
   (137, .bc3RgbaUnorm), (138, .bc3RgbaUnormSrgb), (139, .bc4RUnorm), (140, .bc4RSnorm),
   (141, .bc5RgUnorm), (142, .bc5RgSnorm), (143, .bc6hRgbUfloat), (144, .bc6hRgbFloat),
   (145, .bc7RgbaUnorm), (146, .bc7RgbaUnormSrgb), (147, .etc2Rgb8Unorm),
   (148, .etc2Rgb8UnormSrgb), (149, .etc2Rgb8A1Unorm), (150, .etc2Rgb8A1UnormSrgb),
   (151, .etc2Rgba8Unorm), (152, .etc2Rgba8UnormSrgb), (153, .eacR11Unorm), (154, .eacR11Snorm),
   (155, .eacRg11Unorm), (156, .eacRg11Snorm), (157, .astc4x4Unorm), (158, .astc4x4UnormSrgb),
   (159, .astc5x4Unorm), (160, .astc5x4UnormSrgb), (161, .astc5x5Unorm), (162, .astc5x5UnormSrgb),
   (163, .astc6x5Unorm), (164, .astc6x5UnormSrgb), (165, .astc6x6Unorm), (166, .astc6x6UnormSrgb),
   (167, .astc8x5Unorm), (168, .astc8x5UnormSrgb), (169, .astc8x6Unorm), (170, .astc8x6UnormSrgb),
   (171, .astc8x8Unorm), (172, .astc8x8UnormSrgb), (173, .astc10x5Unorm),
   (174, .astc10x5UnormSrgb), (175, .astc10x6Unorm), (176, .astc10x6UnormSrgb),
   (177, .astc10x8Unorm), (178, .astc10x8UnormSrgb), (179, .astc10x10Unorm),
   (180, .astc10x10UnormSrgb), (181, .astc12x10Unorm), (182, .astc12x10UnormSrgb),
   (183, .astc12x12Unorm), (184, .astc12x12UnormSrgb)]

def toFormat? (code : UInt32) : Option TextureFormat :=
  table.lookup code

end GpuTexture.VkFormat
