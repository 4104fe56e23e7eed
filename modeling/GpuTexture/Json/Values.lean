import GpuTexture.Json.Basic
import GpuTexture.Level.Layout

/-!
# JSON forms of the texture vocabulary

Enumerations are written by name and records as objects. Reading accepts what writing produces and
a little more: a variant as the only member of an object, and a record as the list of its parts.
-/

namespace GpuTexture

/-- Values with a JSON form. -/
class JsonForm (α : Type) where
  toJson : α → Json
  ofJson? : Json → Option α

export JsonForm (toJson ofJson?)

instance : JsonForm UInt32 where
  toJson word := .integer word.toNat
  ofJson? json := (json.natBelow? UInt32.size).map UInt32.ofNat

instance : JsonForm UInt64 where
  toJson word := .integer word.toNat
  ofJson? json := (json.natBelow? UInt64.size).map UInt64.ofNat

instance : JsonForm TextureFormat where
  toJson format := .string format.name
  ofJson? json := json.variant? >>= TextureFormat.ofName?

instance : JsonForm TextureDimension where
  toJson dimension := .string dimension.name
  ofJson? json := json.variant? >>= TextureDimension.ofName?

instance : JsonForm ViewDimension where
  toJson dimension := .string dimension.name
  ofJson? json := json.variant? >>= ViewDimension.ofName?

instance : JsonForm Extent where
  toJson extent := .object
    [("width", toJson extent.width), ("height", toJson extent.height),
      ("depth_or_array_layers", toJson extent.depthOrArrayLayers)]
  ofJson? json :=
    match json.parts? ["width", "height", "depth_or_array_layers"] with
    | some [width, height, depthOrArrayLayers] =>
      return ⟨← ofJson? width, ← ofJson? height, ← ofJson? depthOrArrayLayers⟩
    | _ => none

instance : JsonForm BufferLayout where
  toJson layout := .object
    [("offset", toJson layout.offset), ("bytes_per_row", toJson layout.bytesPerRow),
      ("rows_per_image", toJson layout.rowsPerImage)]
  ofJson? json :=
    match json.parts? ["offset", "bytes_per_row", "rows_per_image"] with
    | some [offset, bytesPerRow, rowsPerImage] =>
      return ⟨← ofJson? offset, ← ofJson? bytesPerRow, ← ofJson? rowsPerImage⟩
    | _ => none

instance : JsonForm LevelLayout where
  toJson level := .object
    [("mip", toJson level.mip), ("layout", toJson level.layout), ("extent", toJson level.extent)]
  ofJson? json :=
    match json.parts? ["mip", "layout", "extent"] with
    | some [mip, layout, extent] =>
      return ⟨← ofJson? mip, ← ofJson? layout, ← ofJson? extent⟩
    | _ => none

instance : JsonForm Shape where
  toJson shape := .object
    [("width", toJson shape.width), ("height", toJson shape.height),
      ("depth", toJson shape.depth), ("layer_count", toJson shape.layers),
      ("face_count", toJson shape.faces)]
  ofJson? json :=
    match json.parts? ["width", "height", "depth", "layer_count", "face_count"] with
    | some [width, height, depth, layers, faces] =>
      return ⟨← ofJson? width, ← ofJson? height, ← ofJson? depth, ← ofJson? layers,
        ← ofJson? faces⟩
    | _ => none

end GpuTexture
