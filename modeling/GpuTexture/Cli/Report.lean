import GpuTexture.Json.Values
import GpuTexture.Ktx2.Container
import GpuTexture.Upload.Plan

/-!
# Reports

What the commands print: the header and level index of a container, the size of a picture, and an
upload plan as a table or as JSON. Columns are aligned to the right.
-/

namespace GpuTexture.Cli

def alignRight (width : Nat) (text : String) : String :=
  String.ofList (List.replicate (width - text.length) ' ') ++ text

def tableRow (cells : List (Nat × String)) : String :=
  " ".intercalate (cells.map fun (width, text) => alignRight width text)

def unlines (lines : List String) : String :=
  String.join (lines.map fun line => line ++ "\n")

def extentText (extent : Extent) : String :=
  s!"{extent.width}x{extent.height}x{extent.depthOrArrayLayers}"

def entryRow (mip : Nat) (entry : LevelEntry) : String :=
  tableRow [(4, toString mip), (12, toString entry.byteOffset), (12, toString entry.byteLength)]

def containerReport (path : String) (container : Container) : String :=
  let header := container.header
  let block := container.block
  unlines <|
    [ s!"KTX2:       {path}",
      s!"vkFormat:   {header.vkFormat} ({container.format.name})",
      s!"Pixels:     {header.width}x{header.height}x{header.depth}",
      s!"Layers:     {header.layers}, faces: {header.faces}",
      s!"Dimension:  {container.shape.dimension.name} (view {container.view.name})",
      s!"Block:      {block.width}x{block.height}, {block.footprint} bytes",
      s!"Levels:     {container.levelCount} (header: {header.levelCount})",
      "",
      tableRow [(4, "mip"), (12, "offset"), (12, "length")]] ++
    container.levels.toList.mapIdx entryRow

def pictureReport (path : String) (source : TextureSource) : String :=
  unlines
    [ s!"Image:      {path}",
      s!"Format:     {source.format.name}",
      s!"Size:       {source.extent.width}x{source.extent.height}",
      s!"Levels:     {source.levelCount}"]

def levelRow (level : PlannedLevel) : String :=
  tableRow
    [(4, toString level.mip), (16, extentText level.extent),
      (10, toString level.layout.bytesPerRow), (8, toString level.layout.rowsPerImage),
      (12, toString level.data.size)]

/-- A plan as a table, under the number of levels that its source has. -/
def planTable (plan : UploadPlan) (levelCount : UInt32) : String :=
  let texture := plan.descriptor
  unlines <|
    [ s!"{texture.format.name} {texture.dimension.name} {extentText texture.size}, " ++
        s!"{texture.mipLevelCount} of {levelCount} levels",
      "",
      tableRow [(4, "mip"), (16, "extent"), (10, "row bytes"), (8, "rows"), (12, "bytes")]] ++
    plan.levels.map levelRow

def plannedLayout (level : PlannedLevel) : LevelLayout :=
  ⟨level.mip, level.layout, level.extent⟩

def levelJson (level : PlannedLevel) : Json :=
  .object
    [("level", toJson (plannedLayout level)), ("bytes", toJson (UInt64.ofNat level.data.size))]

def planJson (plan : UploadPlan) : Json :=
  .object
    [("format", toJson plan.descriptor.format),
      ("dimension", toJson plan.descriptor.dimension),
      ("size", toJson plan.descriptor.size),
      ("mip_level_count", toJson plan.descriptor.mipLevelCount),
      ("total_bytes", toJson plan.totalBytes),
      ("levels", .array (plan.levels.map levelJson))]

end GpuTexture.Cli
