import GpuTexture.Geometry

/-!
# Shapes

A container describes a texture by five counts, where zero means that an axis is absent. This
module holds the counts, the storage dimension they imply and the extent of each mip level.
-/

namespace GpuTexture

/-- The five counts of a texture; zero marks an absent axis. -/
structure Shape where
  width : UInt32
  height : UInt32
  depth : UInt32
  layers : UInt32
  faces : UInt32
deriving DecidableEq, Repr

namespace Shape

def image2d (width height : UInt32) : Shape :=
  ⟨width, height, 0, 0, 1⟩

/-- Anything with several faces, layers or depth is stored in three dimensions. -/
def dimension (shape : Shape) : TextureDimension :=
  if shape.faces > 1 ∨ shape.layers > 0 ∨ shape.depth > 0 then .d3
  else if shape.height > 0 then .d2
  else .d1

def mipExtent (shape : Shape) (mip : UInt32) : Extent :=
  ⟨mipSize shape.width mip, mipSize shape.height mip, mipSize shape.depth mip⟩

end Shape

end GpuTexture
