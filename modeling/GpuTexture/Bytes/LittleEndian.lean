import GpuTexture.Bytes.Basic

/-!
# Little-endian words

Numbers as runs of bytes, least significant byte first, and the words of 16, 32 and 64 bits that
headers are made of.
-/

namespace GpuTexture.Bytes

/-- The number that the `count` bytes from `offset` on spell, least significant byte first. -/
def natAt : Nat → Nat → Bytes → Nat
  | 0, _, _ => 0
  | count + 1, offset, bytes => (byteAt bytes offset).toNat + 256 * natAt count (offset + 1) bytes

/-- The `count` low digits of a number to the base 256, least significant digit first. -/
def digits : Nat → Nat → List UInt8
  | 0, _ => []
  | count + 1, value => UInt8.ofNat value :: digits count (value / 256)

def ofNat (count value : Nat) : Bytes :=
  (digits count value).toByteArray

@[simp] theorem length_digits (count value : Nat) : (digits count value).length = count := by
  induction count generalizing value with
  | zero => rfl
  | succ count ih => simp [digits, ih]

@[simp] theorem size_ofNat (count value : Nat) : (ofNat count value).size = count := by
  simp [ofNat]

def word16At (offset : Nat) (bytes : Bytes) : UInt16 :=
  UInt16.ofNat (natAt 2 offset bytes)

def word32At (offset : Nat) (bytes : Bytes) : UInt32 :=
  UInt32.ofNat (natAt 4 offset bytes)

def word64At (offset : Nat) (bytes : Bytes) : UInt64 :=
  UInt64.ofNat (natAt 8 offset bytes)

def ofWord32 (word : UInt32) : Bytes :=
  ofNat 4 word.toNat

def ofWord64 (word : UInt64) : Bytes :=
  ofNat 8 word.toNat

@[simp] theorem size_ofWord32 (word : UInt32) : (ofWord32 word).size = 4 :=
  size_ofNat 4 _

@[simp] theorem size_ofWord64 (word : UInt64) : (ofWord64 word).size = 8 :=
  size_ofNat 8 _

theorem natAt_extract {bytes : Bytes} {first last : Nat} (hlast : last ≤ bytes.size)
    {count offset : Nat} (hinside : first + offset + count ≤ last) :
    natAt count offset (bytes.extract first last) = natAt count (first + offset) bytes := by
  induction count generalizing offset with
  | zero => rfl
  | succ count ih =>
    rw [natAt, natAt, byteAt_extract hlast (by omega), ih (by omega), Nat.add_assoc]

end GpuTexture.Bytes
