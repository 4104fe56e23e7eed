import GpuTexture.Bytes.Cursor
import GpuTexture.Level.Layout

/-!
# Texture sources

A source answers for a texture's format, size and levels. An upload knows nothing else about it,
so the answers may be those of a container, of a picture, or of a bare table.
-/

namespace GpuTexture

/-- What an upload asks of a texture: five facts, and the layout and bytes of each mip level. -/
structure TextureSource where
  format : TextureFormat
  dimension : TextureDimension
  levelCount : UInt32
  extent : Extent
  levelLayout : UInt32 → Except TextureError LevelLayout
  levelData : UInt32 → Except TextureError Bytes

structure LevelAnswer where
  layout : Except TextureError LevelLayout
  data : Except TextureError Bytes

/-- A texture given by its answers, which need not agree with one another. -/
structure LevelTable where
  format : TextureFormat
  dimension : TextureDimension
  levelCount : UInt32
  extent : Extent
  levels : List LevelAnswer

namespace LevelTable

/-- The answers for one mip level; a table has no others than those it lists. -/
def answer (table : LevelTable) (mip : UInt32) : Except TextureError LevelAnswer :=
  match table.levels[mip.toNat]? with
  | some answer => .ok answer
  | none => .error (.indexOutOfRange mip (UInt32.ofNat table.levels.length))

def toSource (table : LevelTable) : TextureSource where
  format := table.format
  dimension := table.dimension
  levelCount := table.levelCount
  extent := table.extent
  levelLayout mip := table.answer mip >>= LevelAnswer.layout
  levelData mip := table.answer mip >>= LevelAnswer.data

end LevelTable

end GpuTexture
