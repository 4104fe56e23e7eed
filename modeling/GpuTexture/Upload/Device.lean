import GpuTexture.Level.Layout
import GpuTexture.Bytes.Basic
import GpuTexture.Upload.Usages

/-!
# Devices

All that an upload needs of a device: creating a texture, and writing a region of one. A device is
a state; each operation yields the next state.
-/

namespace GpuTexture

structure TextureDescriptor where
  label : Option String
  usage : TextureUsages
  dimension : TextureDimension
  size : Extent
  format : TextureFormat
  mipLevelCount : UInt32
  sampleCount : UInt32
  viewFormats : List TextureFormat
deriving DecidableEq, Repr

structure TextureWrite (handle : Type) where
  texture : handle
  mipLevel : UInt32
  origin : Origin
  aspect : TextureAspect
  data : Bytes
  layout : BufferLayout
  size : Extent
deriving DecidableEq

/-- A device that hands out a handle for every texture it creates. -/
class GpuDevice (device : Type) (handle : outParam Type) where
  createTexture : TextureDescriptor → device → handle × device
  writeTexture : TextureWrite handle → device → device

end GpuTexture
