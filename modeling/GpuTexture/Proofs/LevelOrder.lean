import Mathlib
import GpuTexture.Ktx2.LevelOrder
import GpuTexture.Proofs.MipChain

/-!
# Deciding the order of a level index

The sizes of a mip chain never grow, so they read the same in both directions only when they are
all equal, that is, when the first equals the last. An index is kept as read exactly when its
lengths are those of the chain and the chain is not constant; otherwise it is reversed.
-/

namespace GpuTexture

/-- A sequence that never grows is its own mirror image only if its ends are equal. -/
private theorem reverse_eq_self_iff_of_antitone {size : Nat → Nat} {count : Nat} (hpos : 0 < count)
    (hanti : ∀ i j, i ≤ j → j < count → size j ≤ size i) :
    ((List.range count).map size).reverse = (List.range count).map size ↔
      size 0 = size (count - 1) := by
  constructor
  · intro hmirror
    have hfirst := congrArg (fun sizes => sizes[0]?) hmirror
    simpa [List.getElem?_reverse, hpos, eq_comm] using hfirst
  · intro hends
    have hconstant : ∀ i < count, size i = size 0 := by
      intro i hi
      have hlow := hanti 0 i (Nat.zero_le _) hi
      have hhigh := hanti i (count - 1) (by omega) (by omega)
      omega
    have hmap : (List.range count).map size = List.replicate count (size 0) := by
      rw [← List.length_range (n := count), ← List.map_const', List.length_range]
      exact List.map_congr_left fun i hi => hconstant i (List.mem_range.mp hi)
    rw [hmap, List.reverse_replicate]

namespace BlockLayout

def chainBytes (block : BlockLayout) (shape : Shape) (count : Nat) : List Nat :=
  (List.range count).map fun mip => block.packedBytes shape (.ofNat mip)

/-- The entries of a level index as they are used, base level first. They are kept as read when
their lengths are those of the mip chain and its ends differ. -/
def orderedEntries (block : BlockLayout) (shape : Shape) (entries : List LevelEntry) :
    List LevelEntry :=
  if entries.map (fun entry => entry.byteLength.toNat) = block.chainBytes shape entries.length ∧
      block.packedBytes shape 0 ≠ block.packedBytes shape (.ofNat (entries.length - 1)) then
    entries
  else entries.reverse

variable {block : BlockLayout} {shape : Shape} {mip : UInt32}

@[simp] theorem length_chainBytes (count : Nat) : (block.chainBytes shape count).length = count := by
  simp [chainBytes]

theorem getElem_chainBytes {count index : Nat} (hindex : index < (block.chainBytes shape count).length) :
    (block.chainBytes shape count)[index] = block.packedBytes shape (.ofNat index) := by
  simp [chainBytes]

theorem length_orderedEntries (entries : List LevelEntry) :
    (block.orderedEntries shape entries).length = entries.length := by
  unfold orderedEntries
  split
  · rfl
  · exact List.length_reverse

theorem chainBytes_reverse_eq_self_iff (block : BlockLayout) (shape : Shape) {count : Nat}
    (hpos : 0 < count) (hcount : count ≤ 2 ^ 32) :
    (block.chainBytes shape count).reverse = block.chainBytes shape count ↔
      block.packedBytes shape 0 = block.packedBytes shape (.ofNat (count - 1)) := by
  apply reverse_eq_self_iff_of_antitone hpos
  intro i j hij hj
  apply packedBytes_antitone
  rw [UInt32.le_iff_toNat_le, UInt32.toNat_ofNat_of_lt' (by omega : i < 2 ^ 32),
    UInt32.toNat_ofNat_of_lt' (by omega : j < 2 ^ 32)]
  exact hij

theorem levelSize_eq_ok (hsides : block.HasSides) (hslices : shape.slices mip < 2 ^ 32)
    (hfits : block.Fits shape mip) : levelSize block shape mip = .ok (block.packedBytes shape mip) := by
  have hlayout := (compute_eq_ok_iff hsides).mpr ⟨hslices, hfits, rfl⟩
  rw [levelSize, hlayout, Outcome.ok_bind, byteSize?_of_compute hsides hlayout]
  rfl

theorem levelSizes_eq_ok (hsides : block.HasSides) (hslices : shape.slices 0 < 2 ^ 32)
    (hfits : block.Fits shape 0) (count : Nat) :
    levelSizes block shape count = .ok (block.chainBytes shape count) := by
  apply Outcome.mapM_eq_ok
  intro mip _
  have hbase : (0 : UInt32) ≤ .ofNat mip := UInt32.zero_le
  exact levelSize_eq_ok hsides (Nat.lt_of_le_of_lt (shape.slices_antitone hbase) hslices)
    (hfits.of_le hbase)

/-- Only the base level can overflow. -/
private theorem levelSizes_eq_error (hsides : block.HasSides) (hslices : shape.slices 0 < 2 ^ 32)
    (hfits : ¬ block.Fits shape 0) {count : Nat} (hpos : 0 < count) :
    levelSizes block shape count = .error (.layoutOverflow 0) := by
  obtain ⟨rest, rfl⟩ := Nat.exists_eq_add_one.mpr hpos
  have hbase : levelSize block shape 0 = .error (.layoutOverflow 0) := by
    rw [levelSize, compute_eq hsides, if_neg (Nat.not_le.mpr hslices), if_neg hfits,
      Outcome.error_bind]
  rw [levelSizes, List.range_succ_eq_map, List.mapM_cons]
  change (levelSize block shape 0 >>= _) = _
  rw [hbase, Outcome.error_bind]

theorem baseFirst_eq (hsides : block.HasSides) (hslices : shape.slices 0 < 2 ^ 32)
    {entries : List LevelEntry} (hpos : 0 < entries.length) (hcount : entries.length ≤ 2 ^ 32) :
    baseFirst block shape entries =
      if block.Fits shape 0 then .ok (block.orderedEntries shape entries)
      else .error (.layoutOverflow 0) := by
  by_cases hfits : block.Fits shape 0
  · rw [if_pos hfits, baseFirst, levelSizes_eq_ok hsides hslices hfits, Outcome.ok_bind]
    have hmirror := chainBytes_reverse_eq_self_iff block shape hpos hcount
    have hkeep : (lengthsMatch entries (block.chainBytes shape entries.length) &&
        !lengthsMatch entries.reverse (block.chainBytes shape entries.length)) = true ↔
        entries.map (fun entry => entry.byteLength.toNat) = block.chainBytes shape entries.length ∧
          block.packedBytes shape 0 ≠ block.packedBytes shape (.ofNat (entries.length - 1)) := by
      simp only [lengthsMatch, List.map_reverse, Bool.and_eq_true, beq_iff_eq, Bool.not_eq_true']
      constructor
      · intro hkept
        obtain ⟨hread, hother⟩ := hkept
        refine ⟨hread, fun hends => ?_⟩
        rw [hread, hmirror.mpr hends] at hother
        simp at hother
      · intro hkept
        obtain ⟨hread, hends⟩ := hkept
        refine ⟨hread, ?_⟩
        rw [hread, beq_eq_false_iff_ne]
        exact mt hmirror.mp hends
    simp only [hkeep, orderedEntries]
    split <;> rfl
  · rw [if_neg hfits, baseFirst, levelSizes_eq_error hsides hslices hfits hpos, Outcome.error_bind]

theorem orderedEntries_perm (entries : List LevelEntry) :
    (block.orderedEntries shape entries).Perm entries := by
  unfold orderedEntries
  split
  · exact List.Perm.refl entries
  · exact List.reverse_perm entries

private theorem byteSize?_of_compute_zero (hsides : block.HasSides) {base : LevelLayout}
    (hbase : LevelLayout.compute block shape 0 = .ok base) (mip : UInt32) :
    ∃ level, LevelLayout.compute block shape mip = .ok level ∧
      level.byteSize? = some (block.packedBytes shape mip) := by
  have hlevel := compute_of_le hsides (UInt32.zero_le : 0 ≤ mip) hbase
  exact ⟨_, hlevel, byteSize?_of_compute hsides hlevel⟩

/-- The first and the last size of a chain are equal only if all of its sizes are. -/
private theorem packedBytes_ends_eq_iff (block : BlockLayout) (shape : Shape) {count : Nat}
    (hpos : 0 < count) (hcount : count ≤ 2 ^ 32) :
    block.packedBytes shape 0 = block.packedBytes shape (.ofNat (count - 1)) ↔
      ∀ mip < count, block.packedBytes shape (.ofNat mip) = block.packedBytes shape 0 := by
  constructor
  · intro hends mip hmip
    have hlow : (0 : UInt32) ≤ .ofNat mip := UInt32.zero_le
    have hhigh : UInt32.ofNat mip ≤ .ofNat (count - 1) := by
      rw [UInt32.le_iff_toNat_le, UInt32.toNat_ofNat_of_lt' (by omega : mip < 2 ^ 32),
        UInt32.toNat_ofNat_of_lt' (by omega : count - 1 < 2 ^ 32)]
      omega
    apply Nat.le_antisymm (packedBytes_antitone hlow)
    rw [hends]
    exact packedBytes_antitone hhigh
  · intro hall
    exact (hall (count - 1) (by omega)).symm

end BlockLayout

/-- How the order of an index is decided, for every index of a texture whose base level has a layout.
With the sizes of the mip levels, the entries are kept as read exactly when their lengths are these
sizes in order and the first size is not the last; they are reversed in every other case, which
leaves an index that is its own mirror image as it is. No entry is lost, added or changed. The
lengths fit in both directions exactly when they fit as read and all sizes are equal. -/
theorem baseFirst_of_compute {format : TextureFormat} {block : BlockLayout} {shape : Shape}
    {base : LevelLayout} (hblock : format.blockLayout? = some block)
    (hbase : LevelLayout.compute block shape 0 = .ok base) (entries : List LevelEntry)
    (hpos : 1 ≤ entries.length) (hcount : entries.length < 2 ^ 32) :
    ∃ size : UInt32 → Nat,
      (∀ mip, ∃ level, LevelLayout.compute block shape mip = .ok level ∧
        level.byteSize? = some (size mip)) ∧
      let lengths := entries.map fun entry => entry.byteLength.toNat
      let sizes := (List.range entries.length).map fun mip => size (.ofNat mip)
      let kept := lengths = sizes ∧ size 0 ≠ size (.ofNat (entries.length - 1))
      (kept → baseFirst block shape entries = .ok entries) ∧
        (¬ kept → baseFirst block shape entries = .ok entries.reverse) ∧
        (baseFirst block shape entries = .ok entries ↔ kept ∨ entries.reverse = entries) ∧
        (∃ levels, baseFirst block shape entries = .ok levels ∧ levels.Perm entries) ∧
        (lengths = sizes ∧ lengths.reverse = sizes ↔
          lengths = sizes ∧ ∀ mip < entries.length, size (.ofNat mip) = size 0) := by
  have hsides := TextureFormat.hasSides_of_blockLayout? hblock
  obtain ⟨hslices, hfits, _⟩ := (BlockLayout.compute_eq_ok_iff hsides).mp hbase
  have hordered := BlockLayout.baseFirst_eq hsides hslices hpos (Nat.le_of_lt hcount)
  rw [if_pos hfits] at hordered
  have hends := block.packedBytes_ends_eq_iff shape hpos (Nat.le_of_lt hcount)
  have hmirror := block.chainBytes_reverse_eq_self_iff shape hpos (Nat.le_of_lt hcount)
  refine ⟨block.packedBytes shape, BlockLayout.byteSize?_of_compute_zero hsides hbase, ?_⟩
  intro lengths sizes kept
  have hkept : kept → baseFirst block shape entries = .ok entries := by
    intro h
    exact hordered.trans (congrArg Except.ok (if_pos h))
  have hturned : ¬ kept → baseFirst block shape entries = .ok entries.reverse := by
    intro h
    exact hordered.trans (congrArg Except.ok (if_neg h))
  refine ⟨hkept, hturned, ?_, ⟨_, hordered, BlockLayout.orderedEntries_perm entries⟩, ?_⟩
  · by_cases h : kept
    · simp only [hkept h, h, true_or]
    · simp only [hturned h, h, false_or, Except.ok.injEq]
  · apply and_congr_right
    intro hread
    rw [← hends, ← hmirror, hread]
    rfl

/-- Entries of two texels and of one are kept in this order and turned in the other. -/
theorem baseFirst_of_compute_gray :
    let pair : LevelEntry := ⟨104, 2, 2⟩
    let single : LevelEntry := ⟨106, 1, 1⟩
    baseFirst ⟨1, 1, 1⟩ (.image2d 2 1) [pair, single] = .ok [pair, single] ∧
      baseFirst ⟨1, 1, 1⟩ (.image2d 2 1) [single, pair] = .ok [pair, single] := by
  intro pair single
  have hblock : TextureFormat.r8Unorm.blockLayout? = some ⟨1, 1, 1⟩ := rfl
  have hbase : LevelLayout.compute ⟨1, 1, 1⟩ (.image2d 2 1) 0 = .ok ⟨0, ⟨0, 2, 1⟩, ⟨2, 1, 1⟩⟩ := rfl
  have hnext : LevelLayout.compute ⟨1, 1, 1⟩ (.image2d 2 1) 1 = .ok ⟨1, ⟨0, 1, 1⟩, ⟨1, 1, 1⟩⟩ := rfl
  have hsizes : ∀ size : UInt32 → Nat, (∀ mip, ∃ level,
      LevelLayout.compute ⟨1, 1, 1⟩ (.image2d 2 1) mip = .ok level ∧
        level.byteSize? = some (size mip)) → size 0 = 2 ∧ size 1 = 1 := by
    intro size hsize
    obtain ⟨first, hfirst, hfirstSize⟩ := hsize 0
    obtain ⟨second, hsecond, hsecondSize⟩ := hsize 1
    rw [hbase, Except.ok.injEq] at hfirst
    rw [hnext, Except.ok.injEq] at hsecond
    subst hfirst hsecond
    exact ⟨(Option.some.inj hfirstSize).symm, (Option.some.inj hsecondSize).symm⟩
  constructor
  · obtain ⟨size, hsize, hkept, _⟩ :=
      baseFirst_of_compute hblock hbase [pair, single] (by decide) (by decide)
    obtain ⟨hzero, hone⟩ := hsizes size hsize
    apply hkept
    simp [List.range_succ, hzero, hone, pair, single]
  · obtain ⟨size, hsize, _, hturned, _⟩ :=
      baseFirst_of_compute hblock hbase [single, pair] (by decide) (by decide)
    obtain ⟨hzero, hone⟩ := hsizes size hsize
    apply hturned
    simp [List.range_succ, hzero, hone, pair, single]

end GpuTexture
