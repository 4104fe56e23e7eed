import GpuTexture.Ktx2.Header
import GpuTexture.Ktx2.LevelEntry

/-!
# Walks over container bytes

A walk is a list of requests served by one cursor. A request that cannot be served is answered by
the refusal, and the walk goes on from the cursor after it.
-/

namespace GpuTexture.Walk

inductive Request where
  | peek (count : UInt64)
  | read (count : UInt64)
  | word32
  | word64
  | header
  | levelEntry
deriving DecidableEq, Repr

inductive Value where
  | bytes (bytes : Bytes)
  | word32 (word : UInt32)
  | word64 (word : UInt64)
  | header (record : HeaderRecord)
  | levelEntry (entry : LevelEntry)
deriving DecidableEq

def serve : Request → Reading Value
  | .peek count => .bytes <$> Reading.peek count.toNat
  | .read count => .bytes <$> Reading.bytes count.toNat
  | .word32 => .word32 <$> Reading.word32
  | .word64 => .word64 <$> Reading.word64
  | .header => .header <$> HeaderRecord.read
  | .levelEntry => .levelEntry <$> LevelEntry.read

/-- What one step of a walk shows: the answer, and the cursor after it. -/
structure Stop where
  answer : Except ReadError Value
  cursor : Cursor

def step (cursor : Cursor) (request : Request) : Stop :=
  match (serve request).run cursor with
  | .ok value after => ⟨.ok value, after⟩
  | .error error after => ⟨.error error, after⟩

def run : Cursor → List Request → List Stop
  | _, [] => []
  | cursor, request :: rest =>
    let stop := step cursor request
    stop :: run stop.cursor rest

end GpuTexture.Walk
