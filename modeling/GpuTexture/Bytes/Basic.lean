/-!
# Bytes

Runs of bytes are packed arrays. Their own operations come from the standard library: `size`,
`extract` for a slice, `++`. This module adds a look-up that is total, two ways to build a run step
by step, and the join of several runs.
-/

namespace GpuTexture

abbrev Bytes := ByteArray

namespace Bytes

/-- Equality of runs is decided as the standard library decides it, ahead of any other instance. -/
instance (priority := 1100) decidableEq : DecidableEq Bytes :=
  ByteArray.instDecidableEq

/-- The byte at a position, and zero behind the end. -/
def byteAt (bytes : Bytes) (position : Nat) : UInt8 :=
  if hinside : position < bytes.size then bytes[position] else 0

/-- Runs through the numbers from `first` on, `count` of them, and appends for each. -/
@[specialize] def appendEach (append : Nat → Bytes → Bytes) : Nat → Nat → Bytes → Bytes
  | 0, _, made => made
  | count + 1, first, made => appendEach append count (first + 1) (append first made)

@[inline] def tabulate (count : Nat) (value : Nat → UInt8) : Bytes :=
  appendEach (fun i made => made.push (value i)) count 0 .empty

def concat (runs : List Bytes) : Bytes :=
  runs.foldr (· ++ ·) .empty

theorem byteAt_of_lt {bytes : Bytes} {position : Nat} (hinside : position < bytes.size) :
    byteAt bytes position = bytes[position] := by
  simp [byteAt, hinside]

theorem byteAt_extract {bytes : Bytes} {first last position : Nat} (hlast : last ≤ bytes.size)
    (hinside : first + position < last) :
    byteAt (bytes.extract first last) position = byteAt bytes (first + position) := by
  have hslice : position < (bytes.extract first last).size := by
    rw [ByteArray.size_extract]
    omega
  have hwhole : first + position < bytes.size := by omega
  rw [byteAt_of_lt hslice, byteAt_of_lt hwhole, ByteArray.getElem_extract]

@[simp] theorem concat_nil : concat [] = .empty := rfl

@[simp] theorem concat_cons (run : Bytes) (runs : List Bytes) :
    concat (run :: runs) = run ++ concat runs := rfl

end Bytes

end GpuTexture
