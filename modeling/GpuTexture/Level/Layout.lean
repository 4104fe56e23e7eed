import GpuTexture.Format.Block
import GpuTexture.Shape.View

/-!
# Level layouts

How the blocks of one mip level lie in a buffer: bytes per row of blocks, rows per slice, and the
copied extent rounded up to whole blocks. Every product is multiplied word by word and refused as
soon as it leaves its word.
-/

namespace GpuTexture

structure BufferLayout where
  offset : UInt64
  bytesPerRow : UInt32
  rowsPerImage : UInt32
deriving DecidableEq, Repr

structure LevelLayout where
  mip : UInt32
  layout : BufferLayout
  extent : Extent
deriving DecidableEq, Repr

namespace LevelLayout

def packedSize (level : LevelLayout) : Nat :=
  level.layout.bytesPerRow.toNat * level.layout.rowsPerImage.toNat *
    level.extent.depthOrArrayLayers.toNat

/-- The bytes of a tightly packed level, as a product that has to stay a 64-bit word at every
step. -/
def byteSize? (level : LevelLayout) : Option Nat :=
  ((checkedMul64? level.layout.bytesPerRow.toUInt64 level.layout.rowsPerImage.toUInt64).bind
    fun image => checkedMul64? image level.extent.depthOrArrayLayers.toUInt64).map UInt64.toNat

/-- The layout of a mip level. An invalid shape is refused before a row, a padded side or a byte
size that does not fit. -/
def compute (block : BlockLayout) (shape : Shape) (mip : UInt32) :
    Except TextureError LevelLayout := do
  let slices ← shape.sliceCount mip
  let texels := shape.mipExtent mip
  let columns := blockCount texels.width block.width
  let rows := blockCount texels.height block.height
  let level? : Option LevelLayout := do
    let bytesPerRow ← checkedMul32? columns block.footprint
    let width ← checkedMul32? columns block.width
    let height ← checkedMul32? rows block.height
    return ⟨mip, ⟨0, bytesPerRow, rows⟩, ⟨width, height, slices⟩⟩
  match level? with
  | some level =>
    if level.byteSize?.isSome then .ok level else .error (.layoutOverflow mip)
  | none => .error (.layoutOverflow mip)

theorem byteSize?_eq (level : LevelLayout) : level.byteSize? =
    if level.packedSize < UInt64.size then some level.packedSize else none := by
  -- A row times the rows of an image is a 64-bit word, so only the last product can leave it.
  have hword : level.layout.bytesPerRow.toNat * level.layout.rowsPerImage.toNat < UInt64.size :=
    Nat.lt_of_le_of_lt (Nat.mul_le_mul_right _ (Nat.le_of_lt level.layout.bytesPerRow.toNat_lt))
      (Nat.mul_lt_mul_of_pos_left level.layout.rowsPerImage.toNat_lt (by decide))
  have himage : checkedMul64? level.layout.bytesPerRow.toUInt64 level.layout.rowsPerImage.toUInt64 =
      some (.ofNat (level.layout.bytesPerRow.toNat * level.layout.rowsPerImage.toNat)) := by
    rw [checkedMul64?_eq_some_iff, UInt64.toNat_ofNat_of_lt' hword, UInt32.toNat_toUInt64,
      UInt32.toNat_toUInt64]
  rw [byteSize?, himage, Option.bind_some]
  split
  · next hsmall =>
    have htotal : checkedMul64?
        (.ofNat (level.layout.bytesPerRow.toNat * level.layout.rowsPerImage.toNat))
        level.extent.depthOrArrayLayers.toUInt64 = some (.ofNat level.packedSize) := by
      rw [checkedMul64?_eq_some_iff, UInt64.toNat_ofNat_of_lt' hword, UInt32.toNat_toUInt64,
        UInt64.toNat_ofNat_of_lt' hsmall, packedSize]
    rw [htotal, Option.map_some, UInt64.toNat_ofNat_of_lt' hsmall]
  · next hlarge =>
    rw [Option.map_eq_none_iff, checkedMul64?_eq_none_iff, UInt64.toNat_ofNat_of_lt' hword,
      UInt32.toNat_toUInt64]
    exact Nat.le_of_not_lt hlarge

end LevelLayout

/-- The layout of a block-aligned region. Nothing is rounded: a region that is not a whole number
of blocks is refused. -/
def inferLayout (format : TextureFormat) (extent : Extent) : Except TextureError BufferLayout :=
  match format.blockLayout? with
  | none => .error (.formatNotCopyable format)
  | some block =>
    if extent.width % block.width ≠ 0 ∨ extent.height % block.height ≠ 0 then
      .error (.unalignedExtent extent.width extent.height block.width block.height)
    else
      .ok ⟨0, extent.width / block.width * block.footprint, extent.height / block.height⟩

end GpuTexture
