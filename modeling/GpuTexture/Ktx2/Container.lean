import GpuTexture.Format.Block
import GpuTexture.Ktx2.Error
import GpuTexture.Ktx2.Header
import GpuTexture.Ktx2.LevelOrder
import GpuTexture.Ktx2.VkFormat
import GpuTexture.Outcome
import GpuTexture.Source

/-!
# Containers

A container owns its bytes; every level is a slice of them. Decoding checks, in this order, the
identifier, the fixed header, the format code, the copy layout, the compression, the shape, the
level index and the range of every level. The first check that fails decides.
-/

namespace GpuTexture

/-- A decoded container, its level index with the base level first. Every entry has a range, and
every range lies inside the bytes, so no access to a level can miss. -/
structure Container where
  bytes : Bytes
  header : Header
  format : TextureFormat
  block : BlockLayout
  view : ViewDimension
  extent : Extent
  levels : Array LevelEntry
  ranges : Array (Nat × Nat)
  size_ranges : ranges.size = levels.size
  ranges_inside : ∀ range ∈ ranges, range.1 ≤ range.2 ∧ range.2 ≤ bytes.size

structure HeaderFacts where
  format : TextureFormat
  block : BlockLayout
  view : ViewDimension
  extent : Extent

def Header.facts (header : Header) : Except ContainerError HeaderFacts := do
  let format ← match VkFormat.toFormat? header.vkFormat with
    | some format => pure format
    | none => throw (.unsupportedFormat header.vkFormat)
  let block ← match format.blockLayout? with
    | some block => pure block
    | none => throw (.texture (.formatNotCopyable format))
  if header.scheme ≠ .none then
    throw (.texture (.unsupportedCompression header.scheme.toWord))
  let view ← header.shape.viewDimension.mapError .texture
  let extent ← header.shape.baseExtent.mapError .texture
  return ⟨format, block, view, extent⟩

/-- The payload ranges of entries in a buffer of `length` bytes. The first entry that reaches
beyond the buffer is refused. -/
def payloadRanges (length : Nat) : List LevelEntry → Except ContainerError (List (Nat × Nat))
  | [] => .ok []
  | entry :: rest =>
    match entry.rangeIn? length with
    | some range => (payloadRanges length rest).map (range :: ·)
    | none => .error (.truncated entry.byteOffset.toNat entry.byteLength.toNat length)

theorem payloadRanges_eq_ok_iff {length : Nat} {entries : List LevelEntry}
    {ranges : List (Nat × Nat)} :
    payloadRanges length entries = .ok ranges ↔
      (∀ entry ∈ entries, entry.byteEnd ≤ length) ∧
        ranges = entries.map fun entry => (entry.byteOffset.toNat, entry.byteEnd) := by
  induction entries generalizing ranges with
  | nil => simp [payloadRanges, eq_comm]
  | cons entry rest ih =>
    by_cases hinside : entry.byteEnd ≤ length
    · have hhead : payloadRanges length (entry :: rest) =
          (payloadRanges length rest).map ((entry.byteOffset.toNat, entry.byteEnd) :: ·) := by
        simp [payloadRanges, LevelEntry.rangeIn?, hinside]
      rw [hhead, Outcome.map_eq_ok_iff, List.forall_mem_cons]
      simp only [ih, hinside, List.map_cons, true_and, and_assoc, exists_and_left, exists_eq_left]
      exact and_congr_right fun _ => eq_comm
    · simp [payloadRanges, LevelEntry.rangeIn?, hinside]

namespace Container

def readHeader (bytes : Bytes) : Except ContainerError (Header × Cursor) := do
  unless isKtx2 bytes do
    throw (.invalidIdentifier (bytes.extract 0 12))
  let (record, cursor) ← (HeaderRecord.read.answer (.ofBytes bytes)).mapError .ofReadError
  let header ← (Header.ofRecord record).mapError fun scheme =>
    .texture (.unsupportedCompression scheme)
  return (header, cursor)

def assemble (bytes : Bytes) (header : Header) (facts : HeaderFacts) (levels : List LevelEntry) :
    Except ContainerError Container :=
  match hranges : payloadRanges bytes.size levels with
  | .error error => .error error
  | .ok ranges => .ok
    { bytes
      header
      format := facts.format
      block := facts.block
      view := facts.view
      extent := facts.extent
      levels := levels.toArray
      ranges := ranges.toArray
      size_ranges := by simp [(payloadRanges_eq_ok_iff.mp hranges).2]
      ranges_inside := by
        obtain ⟨hinside, rfl⟩ := payloadRanges_eq_ok_iff.mp hranges
        intro range hrange
        obtain ⟨entry, hentry, rfl⟩ := List.mem_map.mp (List.mem_toArray.mp hrange)
        exact ⟨Nat.le_add_right _ _, hinside entry hentry⟩ }

def decode (bytes : Bytes) : Except ContainerError Container := do
  let (header, cursor) ← readHeader bytes
  let facts ← header.facts
  let entries := LevelEntry.readMany header.storedLevelCount.toNat
  let (entries, _) ← (entries.answer cursor).mapError .ofReadError
  let levels ← (baseFirst facts.block header.shape entries).mapError .texture
  assemble bytes header facts levels

def shape (container : Container) : Shape :=
  container.header.shape

def levelCount (container : Container) : UInt32 :=
  UInt32.ofNat container.levels.size

/-- The word that counts the levels never counts more than there are. -/
theorem lt_size_levels {container : Container} {mip : UInt32}
    (hchecked : checkMip mip container.levelCount = .ok ()) :
    mip.toNat < container.levels.size := by
  have hmip := UInt32.lt_iff_toNat_lt.mp (checkMip_eq_ok_iff.mp hchecked)
  rw [levelCount, UInt32.toNat_ofNat'] at hmip
  exact Nat.lt_of_lt_of_le hmip (Nat.mod_le _ _)

def level (container : Container) (mip : UInt32) : Except TextureError LevelEntry :=
  match hchecked : checkMip mip container.levelCount with
  | .error error => .error error
  | .ok () =>
    have hinside := lt_size_levels hchecked
    .ok container.levels[mip.toNat]

/-- The payload of a mip level; compressed payloads are not handed out. -/
def levelData (container : Container) (mip : UInt32) : Except TextureError Bytes :=
  match hchecked : checkMip mip container.levelCount with
  | .error error => .error error
  | .ok () =>
    if container.header.scheme ≠ .none then
      .error (.unsupportedCompression container.header.scheme.toWord)
    else
      have hinside := container.size_ranges ▸ lt_size_levels hchecked
      let range := container.ranges[mip.toNat]
      .ok (container.bytes.extract range.1 range.2)

def levelLayout (container : Container) (mip : UInt32) : Except TextureError LevelLayout := do
  checkMip mip container.levelCount
  LevelLayout.compute container.block container.shape mip

def toSource (container : Container) : TextureSource where
  format := container.format
  dimension := container.shape.dimension
  levelCount := container.levelCount
  extent := container.extent
  levelLayout := container.levelLayout
  levelData := container.levelData

end Container

end GpuTexture
