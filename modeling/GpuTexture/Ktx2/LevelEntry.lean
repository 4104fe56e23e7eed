import GpuTexture.Bytes.Cursor

/-!
# Entries of the level index

Behind the fixed header stands one entry for each stored level: three 64-bit words that say where
its payload lies, how long it is and how long it is once decompressed.
-/

namespace GpuTexture

/-- Where the payload of one mip level lies. -/
structure LevelEntry where
  byteOffset : UInt64
  byteLength : UInt64
  uncompressedLength : UInt64
deriving DecidableEq, Repr

namespace LevelEntry

def size : Nat := 24

def ofBlock (block : Bytes) : LevelEntry :=
  ⟨Bytes.word64At 0 block, Bytes.word64At 8 block, Bytes.word64At 16 block⟩

def words (entry : LevelEntry) : List UInt64 :=
  [entry.byteOffset, entry.byteLength, entry.uncompressedLength]

def toBlock (entry : LevelEntry) : Bytes :=
  Bytes.concat (entry.words.map Bytes.ofWord64)

/-- Reads a whole entry, or nothing when fewer than twenty-four bytes are left. -/
def read : Reading LevelEntry :=
  ofBlock <$> Reading.bytes size

def readFields : Reading LevelEntry := do
  let byteOffset ← Reading.word64
  let byteLength ← Reading.word64
  let uncompressedLength ← Reading.word64
  return ⟨byteOffset, byteLength, uncompressedLength⟩

def readMany : Nat → Reading (List LevelEntry)
  | 0 => pure []
  | count + 1 => do
    let entry ← read
    let rest ← readMany count
    return entry :: rest

/-- The first position behind the payload. -/
def byteEnd (entry : LevelEntry) : Nat :=
  entry.byteOffset.toNat + entry.byteLength.toNat

/-- The start and end of the payload in a buffer of `length` bytes, if it lies inside. -/
def rangeIn? (entry : LevelEntry) (length : Nat) : Option (Nat × Nat) :=
  if entry.byteEnd ≤ length then some (entry.byteOffset.toNat, entry.byteEnd) else none

end LevelEntry

end GpuTexture
