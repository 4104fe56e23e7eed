import Mathlib
import GpuTexture.Bytes.LittleEndian

/-!
# The little-endian code

A run of `n` bytes and a number below `256 ^ n` determine each other. A number is read from a run
wherever the run stands among others.
-/

namespace GpuTexture.Bytes

theorem natAt_lt (count offset : Nat) (bytes : Bytes) : natAt count offset bytes < 256 ^ count := by
  induction count generalizing offset with
  | zero => simp [natAt]
  | succ count ih =>
    have hsmall := (byteAt bytes offset).toNat_lt
    have hrest := ih (offset + 1)
    rw [natAt, Nat.pow_succ]
    omega

private theorem byteAt_ofNat {count value position : Nat} (hinside : position < count) :
    (byteAt (ofNat count value) position).toNat = value / 256 ^ position % 256 := by
  have hshort : position < (ofNat count value).size := by simpa using hinside
  rw [byteAt_of_lt hshort]
  simp only [ofNat, List.getElem_toByteArray]
  induction count generalizing value position with
  | zero => omega
  | succ count ih =>
    cases position with
    | zero => simp [digits, UInt8.toNat_ofNat']
    | succ position =>
      have hinside : position < count := by omega
      have hstep := @ih (value / 256) position hinside (by simpa using hinside)
      simp only [digits, List.getElem_cons_succ]
      rw [hstep, Nat.div_div_eq_div_mul, Nat.pow_succ, Nat.mul_comm 256]

private theorem natAt_ofNat_from {total value : Nat} {count offset : Nat}
    (hfits : offset + count = total) :
    natAt count offset (ofNat total value) = value / 256 ^ offset % 256 ^ count := by
  induction count generalizing offset with
  | zero => simp [natAt, Nat.mod_one]
  | succ count ih =>
    rw [natAt, byteAt_ofNat (by omega), ih (by omega), Nat.pow_succ 256 offset,
      ← Nat.div_div_eq_div_mul, Nat.pow_succ, Nat.mul_comm (256 ^ count), Nat.mod_mul]

theorem natAt_ofNat {count value : Nat} (hfits : value < 256 ^ count) :
    natAt count 0 (ofNat count value) = value := by
  rw [natAt_ofNat_from (by omega)]
  simpa using Nat.mod_eq_of_lt hfits

/-- The digits of the number that a slice spells are the bytes of the slice. -/
theorem ofNat_natAt {bytes : Bytes} {count offset : Nat} (hfits : offset + count ≤ bytes.size) :
    ofNat count (natAt count offset bytes) = bytes.extract offset (offset + count) := by
  induction count generalizing offset with
  | zero =>
    rw [Nat.add_zero, ByteArray.extract_same]
    rfl
  | succ count ih =>
    have hsmall := (byteAt bytes offset).toNat_lt
    have hhigh : ((byteAt bytes offset).toNat + 256 * natAt count (offset + 1) bytes) / 256 =
        natAt count (offset + 1) bytes := by omega
    have hlow : UInt8.ofNat ((byteAt bytes offset).toNat + 256 * natAt count (offset + 1) bytes) =
        byteAt bytes offset := by
      apply UInt8.toNat_inj.mp
      simp only [UInt8.toNat_ofNat']
      omega
    have hinside : offset + 1 + count ≤ bytes.size := by omega
    have htail := ih hinside
    rw [natAt, ofNat, digits, hhigh, hlow]
    rw [ByteArray.extract_eq_extract_append_extract (offset + 1) (by omega) (by omega),
      ByteArray.extract_add_one (by omega), byteAt_of_lt (by omega)]
    rw [show offset + (count + 1) = offset + 1 + count by omega, ← htail, ofNat,
      ← List.toByteArray_append]
    rfl

/-! ## Numbers among other runs -/

private theorem byteAt_append_left {front back : Bytes} {position : Nat}
    (hinside : position < front.size) :
    byteAt (front ++ back) position = byteAt front position := by
  have hwhole : position < (front ++ back).size := by
    rw [ByteArray.size_append]
    omega
  rw [byteAt_of_lt hwhole, byteAt_of_lt hinside, ByteArray.getElem_append_left hinside]

private theorem byteAt_append_right (front back : Bytes) (position : Nat) :
    byteAt (front ++ back) (front.size + position) = byteAt back position := by
  by_cases hinside : position < back.size
  · have hwhole : front.size + position < (front ++ back).size := by
      rw [ByteArray.size_append]
      omega
    rw [byteAt_of_lt hwhole, byteAt_of_lt hinside, ByteArray.getElem_append_right (by omega)]
    simp only [Nat.add_sub_cancel_left]
  · simp [byteAt, ByteArray.size_append, hinside]

theorem natAt_append_left {front back : Bytes} {count offset : Nat}
    (hfits : offset + count ≤ front.size) :
    natAt count offset (front ++ back) = natAt count offset front := by
  induction count generalizing offset with
  | zero => rfl
  | succ count ih =>
    rw [natAt, natAt, byteAt_append_left (by omega), ih (by omega)]

theorem natAt_append_right (front back : Bytes) (count offset : Nat) :
    natAt count (front.size + offset) (front ++ back) = natAt count offset back := by
  induction count generalizing offset with
  | zero => rfl
  | succ count ih =>
    rw [natAt, natAt, byteAt_append_right, Nat.add_assoc, ih]

/-- Among runs of one width, each is found at a multiple of the width. -/
theorem natAt_concat {runs : List Bytes} {width : Nat} (heven : ∀ run ∈ runs, run.size = width)
    {index : Nat} (hindex : index < runs.length) {count offset : Nat}
    (hfits : offset + count ≤ width) :
    natAt count (width * index + offset) (concat runs) = natAt count offset runs[index] := by
  induction runs generalizing index with
  | nil => simp at hindex
  | cons run rest ih =>
    have hhead : run.size = width := heven run List.mem_cons_self
    rw [concat_cons]
    cases index with
    | zero =>
      rw [Nat.mul_zero, Nat.zero_add, natAt_append_left (by omega)]
      rfl
    | succ index =>
      have hshift : width * (index + 1) + offset = run.size + (width * index + offset) := by
        rw [hhead, Nat.mul_succ]
        omega
      have htail := ih (fun other hother => heven other (List.mem_cons_of_mem _ hother))
        (Nat.lt_of_succ_lt_succ hindex)
      rw [hshift, natAt_append_right, htail]
      rfl

theorem size_concat_of_even {runs : List Bytes} {width : Nat}
    (heven : ∀ run ∈ runs, run.size = width) : (concat runs).size = width * runs.length := by
  induction runs with
  | nil => rfl
  | cons run rest ih =>
    have hhead : run.size = width := heven run List.mem_cons_self
    have htail := ih fun other hother => heven other (List.mem_cons_of_mem _ hother)
    rw [concat_cons, ByteArray.size_append, hhead, htail, List.length_cons, Nat.mul_succ, Nat.add_comm]

theorem word32At_ofWord32 (word : UInt32) : word32At 0 (ofWord32 word) = word := by
  have hsmall : word.toNat < 256 ^ 4 := word.toNat_lt
  rw [word32At, ofWord32, natAt_ofNat hsmall, UInt32.ofNat_toNat]

theorem word64At_ofWord64 (word : UInt64) : word64At 0 (ofWord64 word) = word := by
  have hsmall : word.toNat < 256 ^ 8 := word.toNat_lt
  rw [word64At, ofWord64, natAt_ofNat hsmall, UInt64.ofNat_toNat]

theorem word32At_concat {words : List UInt32} {index : Nat} (hindex : index < words.length) :
    word32At (4 * index) (concat (words.map ofWord32)) = words[index] := by
  have heven : ∀ run ∈ words.map ofWord32, run.size = 4 := by simp
  have hfound : natAt 4 (4 * index + 0) _ = _ := natAt_concat heven (by simpa using hindex) le_rfl
  rw [List.getElem_map] at hfound
  rw [word32At, ← Nat.add_zero (4 * index), hfound]
  exact word32At_ofWord32 _

theorem word64At_concat {words : List UInt64} {index : Nat} (hindex : index < words.length) :
    word64At (8 * index) (concat (words.map ofWord64)) = words[index] := by
  have heven : ∀ run ∈ words.map ofWord64, run.size = 8 := by simp
  have hfound : natAt 8 (8 * index + 0) _ = _ := natAt_concat heven (by simpa using hindex) le_rfl
  rw [List.getElem_map] at hfound
  rw [word64At, ← Nat.add_zero (8 * index), hfound]
  exact word64At_ofWord64 _

end GpuTexture.Bytes
