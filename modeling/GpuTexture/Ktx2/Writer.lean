import GpuTexture.Ktx2.Header
import GpuTexture.Ktx2.LevelEntry

/-!
# Writing containers

A draft is a header, the payload of every level with the base level first, and the order in which
the index lists them. Payloads are stored behind the index, smallest level first.
-/

namespace GpuTexture

inductive IndexOrder where
  | smallestFirst
  | baseFirst
deriving DecidableEq, Repr

/-- A container to be written, its payloads with the base level first. -/
structure Draft where
  header : Header
  payloads : List Bytes
  order : IndexOrder

namespace Draft

def dataStart (draft : Draft) : Nat :=
  HeaderRecord.size + LevelEntry.size * draft.payloads.length

def entryAt (offset : Nat) (payload : Bytes) : LevelEntry :=
  ⟨UInt64.ofNat offset, UInt64.ofNat payload.size, UInt64.ofNat payload.size⟩

/-- The entries of payloads stored one after the other from `offset` on. -/
def entriesFrom : Nat → List Bytes → List LevelEntry
  | _, [] => []
  | offset, payload :: rest => entryAt offset payload :: entriesFrom (offset + payload.size) rest

def entries (draft : Draft) : List LevelEntry :=
  entriesFrom draft.dataStart draft.payloads.reverse

def index (draft : Draft) : List LevelEntry :=
  match draft.order with
  | .smallestFirst => draft.entries
  | .baseFirst => draft.entries.reverse

def write (draft : Draft) : Bytes :=
  (draft.header.toRecord ktx2Identifier).toBlock ++
    Bytes.concat (draft.index.map LevelEntry.toBlock) ++
    Bytes.concat draft.payloads.reverse

end Draft

end GpuTexture
