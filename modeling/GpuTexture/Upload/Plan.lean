import GpuTexture.Source
import GpuTexture.Upload.Device

/-!
# Upload plans

A plan gathers the bytes and the layout of every level before any device is touched, so a source
that fails leaves no trace. Submitting a plan creates one texture and writes its levels in order.
-/

namespace GpuTexture

structure UploadOptions where
  label : Option String
  mipCount : Option UInt32
  usage : TextureUsages
deriving DecidableEq, Repr

def UploadOptions.ofUsage (usage : TextureUsages) : UploadOptions :=
  ⟨none, none, usage⟩

inductive UploadError where
  | source (error : TextureError)
  | levelTooShort (mip : UInt32) (expected actual : Nat)
deriving DecidableEq, Repr

def UploadError.message : UploadError → String
  | .source error => error.message
  | .levelTooShort mip expected actual =>
    s!"mip level {mip} holds {actual} bytes, layout needs {expected}"

structure PlannedLevel where
  mip : UInt32
  data : Bytes
  layout : BufferLayout
  extent : Extent
deriving DecidableEq

structure UploadPlan where
  descriptor : TextureDescriptor
  levels : List PlannedLevel
deriving DecidableEq

/-- How many levels to upload: all, or those asked for, and never less than one. -/
def clampedMipCount (levelCount : UInt32) (requested : Option UInt32) : UInt32 :=
  let available := max levelCount 1
  match requested with
  | some count => min (max count 1) available
  | none => available

/-- One level of a source: its layout is asked for first, then its bytes, which must fill it. -/
def PlannedLevel.ofSource (source : TextureSource) (mip : UInt32) :
    Except UploadError PlannedLevel := do
  let level ← (source.levelLayout mip).mapError .source
  let data ← (source.levelData mip).mapError .source
  match level.byteSize? with
  | none => throw (.source (.layoutOverflow mip))
  | some expected =>
    if data.size < expected then
      throw (.levelTooShort mip expected data.size)
    return ⟨mip, data, level.layout, level.extent⟩

/-- The next `count` levels of a source; the first that fails decides. -/
def gatherLevels (source : TextureSource) : Nat → Nat → Except UploadError (List PlannedLevel)
  | 0, _ => .ok []
  | count + 1, mip => do
    let level ← PlannedLevel.ofSource source (UInt32.ofNat mip)
    let rest ← gatherLevels source count (mip + 1)
    return level :: rest

/-- The texture that is created for a source. Being a copy destination is always added to its
usages. -/
def TextureSource.descriptor (source : TextureSource) (options : UploadOptions) :
    TextureDescriptor where
  label := options.label
  usage := options.usage.union .copyDst
  dimension := source.dimension
  size := source.extent
  format := source.format
  mipLevelCount := clampedMipCount source.levelCount options.mipCount
  sampleCount := 1
  viewFormats := [source.format]

namespace UploadPlan

def build (source : TextureSource) (options : UploadOptions) : Except UploadError UploadPlan := do
  let mipCount := clampedMipCount source.levelCount options.mipCount
  let levels ← gatherLevels source mipCount.toNat 0
  return ⟨source.descriptor options, levels⟩

/-- The bytes of all levels, added up in a 64-bit word. -/
def totalBytes (plan : UploadPlan) : UInt64 :=
  plan.levels.foldl (fun total level => total + UInt64.ofNat level.data.size) 0

def levelWrite {handle : Type} (texture : handle) (level : PlannedLevel) : TextureWrite handle :=
  ⟨texture, level.mip, .zero, .all, level.data, level.layout, level.extent⟩

def submit {device handle : Type} [GpuDevice device handle] (plan : UploadPlan)
    (state : device) : handle × device :=
  let (texture, created) := GpuDevice.createTexture plan.descriptor state
  let written := plan.levels.foldl
    (fun state level => GpuDevice.writeTexture (levelWrite texture level) state) created
  (texture, written)

end UploadPlan

/-- Plans and submits in one step. A source that cannot be planned leaves the device as it is. -/
def uploadWithOptions {device handle : Type} [GpuDevice device handle] (source : TextureSource)
    (options : UploadOptions) (state : device) : Except UploadError handle × device :=
  match UploadPlan.build source options with
  | .ok plan =>
    let (texture, next) := plan.submit state
    (.ok texture, next)
  | .error error => (.error error, state)

def uploadAllLevels {device handle : Type} [GpuDevice device handle] (source : TextureSource)
    (usage : TextureUsages) (state : device) : Except UploadError handle × device :=
  uploadWithOptions source (.ofUsage usage) state

end GpuTexture
