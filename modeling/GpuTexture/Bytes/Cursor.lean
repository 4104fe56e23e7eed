import GpuTexture.Bytes.LittleEndian

/-!
# Reading from a position

A cursor stands between the bytes already read and those still to come. A request for `count`
bytes succeeds exactly when that many are left; a refused request names the position, the request
and the length of the whole buffer, and leaves the cursor where it is. Readings are chained: the
first that is refused ends the chain, at the cursor that it has reached.
-/

namespace GpuTexture

/-- Why a read was refused: `needed` bytes were asked for at `offset` of a buffer of `length`. -/
structure ReadError where
  offset : Nat
  needed : Nat
  length : Nat
deriving DecidableEq, Repr

def ReadError.message (error : ReadError) : String :=
  s!"unexpected end of buffer: {error.needed} bytes at offset {error.offset}, " ++
    s!"buffer holds {error.length}"

structure Cursor where
  buffer : Bytes
  position : Nat
deriving DecidableEq

namespace Cursor

def ofBytes (bytes : Bytes) : Cursor :=
  ⟨bytes, 0⟩

def length (cursor : Cursor) : Nat :=
  cursor.buffer.size

def remaining (cursor : Cursor) : Nat :=
  cursor.length - cursor.position

def isEmpty (cursor : Cursor) : Bool :=
  cursor.remaining == 0

def advance (cursor : Cursor) (count : Nat) : Cursor :=
  ⟨cursor.buffer, cursor.position + count⟩

end Cursor

/-- What moves a cursor: a value or a refusal, each with the cursor after it. -/
abbrev Reading :=
  EStateM ReadError Cursor

namespace Reading

def peek (count : Nat) : Reading Bytes := fun cursor =>
  if count ≤ cursor.remaining then
    .ok (cursor.buffer.extract cursor.position (cursor.position + count)) cursor
  else .error ⟨cursor.position, count, cursor.length⟩ cursor

/-- The next `count` bytes. The cursor is moved once they are known to be there. -/
def bytes (count : Nat) : Reading Bytes := do
  let bytes ← peek count
  modify fun cursor => cursor.advance count
  return bytes

def word16 : Reading UInt16 :=
  Bytes.word16At 0 <$> bytes 2

def word32 : Reading UInt32 :=
  Bytes.word32At 0 <$> bytes 4

def word64 : Reading UInt64 :=
  Bytes.word64At 0 <$> bytes 8

def answer {α : Type} (reading : Reading α) (cursor : Cursor) : Except ReadError (α × Cursor) :=
  match reading.run cursor with
  | .ok value after => .ok (value, after)
  | .error error _ => .error error

variable {cursor : Cursor} {count : Nat}

theorem peek_of_le (henough : count ≤ cursor.remaining) : (peek count).run cursor =
    .ok (cursor.buffer.extract cursor.position (cursor.position + count)) cursor :=
  if_pos henough

theorem peek_of_lt (hshort : cursor.remaining < count) :
    (peek count).run cursor = .error ⟨cursor.position, count, cursor.length⟩ cursor :=
  if_neg (Nat.not_le.mpr hshort)

theorem bytes_of_le (henough : count ≤ cursor.remaining) : (bytes count).run cursor =
    .ok (cursor.buffer.extract cursor.position (cursor.position + count)) (cursor.advance count) := by
  rw [bytes, EStateM.run_bind, peek_of_le henough]
  rfl

theorem bytes_of_lt (hshort : cursor.remaining < count) :
    (bytes count).run cursor = .error ⟨cursor.position, count, cursor.length⟩ cursor := by
  rw [bytes, EStateM.run_bind, peek_of_lt hshort]

theorem answer_of_ok {α : Type} {reading : Reading α} {value : α} {after : Cursor}
    (h : reading.run cursor = .ok value after) : reading.answer cursor = .ok (value, after) := by
  rw [answer, h]

end Reading

end GpuTexture
