import Mathlib
import GpuTexture.Proofs.MipChain

/-!
# Exact layouts and their limits

Which of three answers a layout is, in terms of exact products: an invalid shape when the slices
exceed 32 bits, an overflow when a row, a padded side or the bytes of the level exceed their words,
and otherwise these products themselves. Blocks cover the level tightly: the copied extent is less
than one block larger than the level in either direction.
-/

namespace GpuTexture

/-- Whole blocks reach as far as what they cover, and by less than one block further. -/
theorem ceilDiv_mul_bounds (texels : Nat) {side : Nat} (hpos : 0 < side) :
    texels ≤ (texels ⌈/⌉ side) * side ∧ (texels ⌈/⌉ side) * side < texels + side := by
  have hdiv := Nat.div_add_mod (texels + side - 1) side
  have hmod := Nat.mod_lt (texels + side - 1) hpos
  rw [Nat.ceilDiv_eq_add_pred_div, Nat.mul_comm]
  omega

namespace BlockLayout

variable {block : BlockLayout} {shape : Shape} {mip : UInt32}

private theorem fits_iff_not_overflows : block.Fits shape mip ↔
    ¬ (2 ^ 32 ≤ block.rowBytes shape mip ∨
      2 ^ 32 ≤ block.columns shape mip * block.width.toNat ∨
      2 ^ 32 ≤ block.rows shape mip * block.height.toNat ∨
      2 ^ 64 ≤ block.packedBytes shape mip) := by
  simp only [Fits, not_or, Nat.not_le]

theorem compute_eq_invalidShape_iff (hsides : block.HasSides) :
    LevelLayout.compute block shape mip = .error (.invalidShape shape) ↔
      2 ^ 32 ≤ shape.slices mip := by
  rw [compute_eq hsides]
  split_ifs <;> simp_all

theorem compute_eq_layoutOverflow_iff (hsides : block.HasSides) :
    LevelLayout.compute block shape mip = .error (.layoutOverflow mip) ↔
      shape.slices mip < 2 ^ 32 ∧ ¬ block.Fits shape mip := by
  rw [compute_eq hsides]
  split_ifs <;> simp_all

theorem exists_compute_iff (hsides : block.HasSides) :
    (∃ level, LevelLayout.compute block shape mip = .ok level) ↔
      shape.slices mip < 2 ^ 32 ∧ block.Fits shape mip := by
  rw [compute_eq hsides]
  split_ifs <;> simp_all

theorem toNat_exactLayout (hsides : block.HasSides) (hslices : shape.slices mip < 2 ^ 32)
    (hfits : block.Fits shape mip) :
    (block.exactLayout shape mip).layout.bytesPerRow.toNat = block.rowBytes shape mip ∧
      (block.exactLayout shape mip).layout.rowsPerImage.toNat = block.rows shape mip ∧
      (block.exactLayout shape mip).extent.width.toNat =
        block.columns shape mip * block.width.toNat ∧
      (block.exactLayout shape mip).extent.height.toNat =
        block.rows shape mip * block.height.toNat ∧
      (block.exactLayout shape mip).extent.depthOrArrayLayers.toNat = shape.slices mip := by
  obtain ⟨hrow, hwidth, hheight, _⟩ := hfits
  refine ⟨?_, ?_, ?_, ?_, ?_⟩
  · exact UInt32.toNat_ofNat_of_lt' hrow
  · exact UInt32.toNat_ofNat_of_lt' (rows_lt hsides)
  · exact UInt32.toNat_ofNat_of_lt' hwidth
  · exact UInt32.toNat_ofNat_of_lt' hheight
  · exact UInt32.toNat_ofNat_of_lt' hslices

theorem measures_of_compute (hsides : block.HasSides) {level : LevelLayout}
    (hlevel : LevelLayout.compute block shape mip = .ok level) :
    level.layout.offset = 0 ∧ level.layout.bytesPerRow.toNat = block.rowBytes shape mip ∧
      level.layout.rowsPerImage.toNat = block.rows shape mip ∧
      level.extent.width.toNat = block.columns shape mip * block.width.toNat ∧
      level.extent.height.toNat = block.rows shape mip * block.height.toNat ∧
      level.extent.depthOrArrayLayers.toNat = shape.slices mip := by
  obtain ⟨hslices, hfits, rfl⟩ := (compute_eq_ok_iff hsides).mp hlevel
  exact ⟨rfl, toNat_exactLayout hsides hslices hfits⟩

end BlockLayout

namespace LevelLayout

/-- A layout is exact or an error, for every block with sides, every shape and every mip level. With
the sides of the level halved once per level, never below one, and covered with whole blocks, it is
an invalid shape exactly when the slices exceed 32 bits; otherwise an overflow exactly when the row
bytes or a padded side exceed 32 bits or the bytes of the level exceed 64; and otherwise it holds
all these numbers as they are, and pads the level by less than one block. -/
theorem compute_exact (block : BlockLayout) (hwidth : 1 ≤ block.width.toNat)
    (hheight : 1 ≤ block.height.toNat) (shape : Shape) (mip : UInt32) :
    let axis := fun side : UInt32 => max 1 (if mip.toNat < 32 then side.toNat >>> mip.toNat else 0)
    let columns := axis shape.width ⌈/⌉ block.width.toNat
    let rows := axis shape.height ⌈/⌉ block.height.toNat
    let slices := max 1 shape.faces.toNat * max 1 shape.layers.toNat * axis shape.depth
    let rowBytes := columns * block.footprint.toNat
    let overflows := 2 ^ 32 ≤ rowBytes ∨ 2 ^ 32 ≤ columns * block.width.toNat ∨
      2 ^ 32 ≤ rows * block.height.toNat ∨ 2 ^ 64 ≤ rowBytes * rows * slices
    (compute block shape mip = .error (.invalidShape shape) ↔ 2 ^ 32 ≤ slices) ∧
      (compute block shape mip = .error (.layoutOverflow mip) ↔ slices < 2 ^ 32 ∧ overflows) ∧
      ((∃ level, compute block shape mip = .ok level) ↔ slices < 2 ^ 32 ∧ ¬ overflows) ∧
      ∀ level, compute block shape mip = .ok level →
        level.mip = mip ∧ level.layout.offset = 0 ∧
        level.layout.bytesPerRow.toNat = rowBytes ∧ level.layout.rowsPerImage.toNat = rows ∧
        level.extent.width.toNat = columns * block.width.toNat ∧
        level.extent.height.toNat = rows * block.height.toNat ∧
        level.extent.depthOrArrayLayers.toNat = slices ∧
        level.byteSize? = some (rowBytes * rows * slices) ∧
        axis shape.width ≤ level.extent.width.toNat ∧
        level.extent.width.toNat < axis shape.width + block.width.toNat ∧
        axis shape.height ≤ level.extent.height.toNat ∧
        level.extent.height.toNat < axis shape.height + block.height.toNat := by
  intro axis columns rows slices rowBytes overflows
  have hsides : block.HasSides := ⟨hwidth, hheight⟩
  have hcolumns : block.columns shape mip = columns := by
    rw [BlockLayout.columns, shiftRight_eq_ite]
    rfl
  have hrows : block.rows shape mip = rows := by
    rw [BlockLayout.rows, shiftRight_eq_ite]
    rfl
  have hslices : shape.slices mip = slices := by
    rw [Shape.slices, toNat_mipSize, shiftRight_eq_ite]
  have hrowBytes : block.rowBytes shape mip = rowBytes := by
    rw [BlockLayout.rowBytes, hcolumns]
  have hbytes : block.packedBytes shape mip = rowBytes * rows * slices := by
    rw [BlockLayout.packedBytes, hrowBytes, hrows, hslices]
  have hfits : block.Fits shape mip ↔ ¬ overflows := by
    rw [BlockLayout.fits_iff_not_overflows, hrowBytes, hcolumns, hrows, hbytes]
  refine ⟨?_, ?_, ?_, ?_⟩
  · rw [BlockLayout.compute_eq_invalidShape_iff hsides, hslices]
  · rw [BlockLayout.compute_eq_layoutOverflow_iff hsides, hslices, hfits, not_not]
  · rw [BlockLayout.exists_compute_iff hsides, hslices, hfits]
  · intro level hlevel
    obtain ⟨hsmall, hfit, rfl⟩ := (BlockLayout.compute_eq_ok_iff hsides).mp hlevel
    obtain ⟨hrow, himage, hpaddedWidth, hpaddedHeight, hlayers⟩ :=
      BlockLayout.toNat_exactLayout hsides hsmall hfit
    rw [hrowBytes] at hrow
    rw [hrows] at himage hpaddedHeight
    rw [hcolumns] at hpaddedWidth
    rw [hslices] at hlayers
    have hsize := BlockLayout.byteSize?_exactLayout hsides hsmall hfit.1
    rw [if_pos hfit.2.2.2, hbytes] at hsize
    obtain ⟨hcoverWidth, htightWidth⟩ := ceilDiv_mul_bounds (axis shape.width) hwidth
    obtain ⟨hcoverHeight, htightHeight⟩ := ceilDiv_mul_bounds (axis shape.height) hheight
    refine ⟨rfl, rfl, hrow, himage, hpaddedWidth, hpaddedHeight, hlayers, hsize, ?_, ?_, ?_, ?_⟩
    · rwa [hpaddedWidth]
    · rwa [hpaddedWidth]
    · rwa [hpaddedHeight]
    · rwa [hpaddedHeight]

/-- Blocks of six by five texels cover thirty by eighteen; padding the tallest level overflows; and
the faces of too many layers are no shape, however small each of them is. -/
theorem compute_exact_astc :
    (∃ level, compute ⟨16, 6, 5⟩ (.image2d 30 18) 0 = .ok level ∧
      level.layout.bytesPerRow.toNat = 80 ∧ level.extent.height.toNat = 20) ∧
    compute ⟨8, 4, 4⟩ (.image2d 4 0xFFFFFFFF) 0 = .error (.layoutOverflow 0) ∧
    compute ⟨16, 6, 5⟩ ⟨0, 0, 0, 0xFFFFFFFF, 6⟩ 40 =
      .error (.invalidShape ⟨0, 0, 0, 0xFFFFFFFF, 6⟩) := by
  obtain ⟨_, _, hexists, hexact⟩ := compute_exact ⟨16, 6, 5⟩ (by decide) (by decide) (.image2d 30 18) 0
  obtain ⟨level, hlevel⟩ := hexists.mpr (by decide +kernel)
  obtain ⟨_, _, hrow, _, _, hheight, _⟩ := hexact level hlevel
  obtain ⟨_, hoverflow, _, _⟩ :=
    compute_exact ⟨8, 4, 4⟩ (by decide) (by decide) (.image2d 4 0xFFFFFFFF) 0
  obtain ⟨hinvalid, _, _, _⟩ :=
    compute_exact ⟨16, 6, 5⟩ (by decide) (by decide) ⟨0, 0, 0, 0xFFFFFFFF, 6⟩ 40
  exact ⟨⟨level, hlevel, hrow, hheight⟩, hoverflow.mpr (by decide +kernel),
    hinvalid.mpr (by decide +kernel)⟩

end LevelLayout

end GpuTexture
