import GpuTexture.Image.Bmp.Runs
import GpuTexture.Image.Pixels

/-!
# Bitmaps

Pixels stored as bit fields, as palette indices, or as runs of indices. Rows are padded to four
bytes; the bottom row comes first unless the stored height is negative.
-/

namespace GpuTexture.Bmp

/-- The index in `bits` bits at a column of a row, the upper bits of a byte first. -/
def indexAt (bytes : Bytes) (bits rowStart column : Nat) : Nat :=
  let offset := bits * column
  ((Bytes.byteAt bytes (rowStart + offset / 8)).toNat >>> (8 - bits - offset % 8)) % (1 <<< bits)

@[inline] def collect (info : Info) (bytes : Bytes) (pixel : Nat → Nat → Bytes → Bytes) :
    Except Fault Bytes :=
  if bytes.size < info.dataOffset + info.stride * info.frame.height.toNat then .error .truncated
  else
    let row (row : Nat) (made : Bytes) : Bytes :=
      Bytes.appendEach (pixel (info.rowStart row)) info.frame.width.toNat 0 made
    .ok (Bytes.appendEach row info.frame.height.toNat 0 .empty)

def decodePixels (info : Info) (bytes : Bytes) : Except Fault Bytes :=
  match info.storage with
  | .direct bits masks =>
    let size := bits / 8
    collect info bytes fun rowStart column made =>
      masks.append (Bytes.natAt size (rowStart + size * column) bytes) made
  | .indexed bits palette =>
    collect info bytes fun rowStart column made =>
      palette.append (indexAt bytes bits rowStart column) made
  | .runs _ palette => decodeRuns info palette bytes

def decode (bytes : Bytes) : Except Fault Picture := do
  let info ← scanInfo.run' (.ofBytes bytes)
  let pixels ← decodePixels info bytes
  let channels : Channels := if info.storage.hasAlpha then .rgba else .rgb
  return ⟨info.frame.width, info.frame.height, ⟨.uint8, channels⟩, pixels⟩

end GpuTexture.Bmp
