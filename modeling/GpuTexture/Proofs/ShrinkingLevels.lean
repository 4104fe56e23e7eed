import Mathlib
import GpuTexture.Proofs.ExactLayout

/-!
# Levels only shrink

A layout depends on its mip level only through the sides that are left of the texture there. These
are halved from level to level, so no measure of a later level is larger, and a later level has a
layout wherever an earlier one has. From the thirty-second level on every side is down to one texel,
and only the number of the level tells the layouts apart.
-/

namespace GpuTexture

/-- After thirty-two halvings nothing is left of a word, and one texel remains. -/
private theorem mipSize_of_large (base : UInt32) {mip : UInt32} (hlarge : 32 ≤ mip.toNat) :
    mipSize base mip = 1 := by
  rw [← UInt32.toNat_inj, toNat_mipSize, shiftRight_eq_ite, if_neg (Nat.not_lt.mpr hlarge)]
  rfl

namespace Shape

variable {mip later : UInt32}

private theorem mipExtent_of_large (shape : Shape) (hlarge : 32 ≤ mip.toNat) :
    shape.mipExtent mip = ⟨1, 1, 1⟩ := by
  simp [mipExtent, mipSize_of_large, hlarge]

private theorem slices_congr (shape : Shape)
    (hextent : shape.mipExtent mip = shape.mipExtent later) :
    shape.slices mip = shape.slices later := by
  have hdepth := congrArg (fun extent => extent.depthOrArrayLayers.toNat) hextent
  exact congrArg (max 1 shape.faces.toNat * max 1 shape.layers.toNat * ·) hdepth

end Shape

namespace LevelLayout

/-- No measure of a level exceeds that of another. -/
structure IsWithin (level other : LevelLayout) : Prop where
  bytesPerRow_le : level.layout.bytesPerRow ≤ other.layout.bytesPerRow
  rowsPerImage_le : level.layout.rowsPerImage ≤ other.layout.rowsPerImage
  width_le : level.extent.width ≤ other.extent.width
  height_le : level.extent.height ≤ other.extent.height
  depthOrArrayLayers_le : level.extent.depthOrArrayLayers ≤ other.extent.depthOrArrayLayers

end LevelLayout

namespace BlockLayout

variable {block : BlockLayout} {shape other : Shape} {mip later : UInt32} {level : LevelLayout}

/-! ## The level alone -/

private theorem columns_congr (hextent : shape.mipExtent mip = other.mipExtent later) :
    block.columns shape mip = block.columns other later := by
  have hwidth := congrArg (fun extent => extent.width.toNat) hextent
  simp only [Shape.mipExtent, toNat_mipSize] at hwidth
  rw [columns, columns, hwidth]

private theorem rows_congr (hextent : shape.mipExtent mip = other.mipExtent later) :
    block.rows shape mip = block.rows other later := by
  have hheight := congrArg (fun extent => extent.height.toNat) hextent
  simp only [Shape.mipExtent, toNat_mipSize] at hheight
  rw [rows, rows, hheight]

theorem fits_congr (hextent : shape.mipExtent mip = other.mipExtent later)
    (hslices : shape.slices mip = other.slices later) :
    block.Fits shape mip ↔ block.Fits other later := by
  have hcolumns : block.columns shape mip = block.columns other later := columns_congr hextent
  have hrows : block.rows shape mip = block.rows other later := rows_congr hextent
  simp only [Fits, packedBytes, rowBytes, hcolumns, hrows, hslices]

private theorem exactLayout_congr (hextent : shape.mipExtent mip = other.mipExtent later)
    (hslices : shape.slices mip = other.slices later) :
    block.exactLayout other later = { block.exactLayout shape mip with mip := later } := by
  have hcolumns : block.columns shape mip = block.columns other later := columns_congr hextent
  have hrows : block.rows shape mip = block.rows other later := rows_congr hextent
  simp only [exactLayout, rowBytes, hcolumns, hrows, hslices]

theorem compute_congr (hsides : block.HasSides)
    (hextent : shape.mipExtent mip = other.mipExtent later)
    (hslices : shape.slices mip = other.slices later)
    (hlevel : LevelLayout.compute block shape mip = .ok level) :
    LevelLayout.compute block other later = .ok { level with mip := later } := by
  obtain ⟨hsmall, hfits, rfl⟩ := (compute_eq_ok_iff hsides).mp hlevel
  apply (compute_eq_ok_iff hsides).mpr
  refine ⟨?_, ?_, ?_⟩
  · rwa [← hslices]
  · exact (fits_congr hextent hslices).mp hfits
  · exact (exactLayout_congr hextent hslices).symm

/-! ## Later levels -/

theorem isWithin_of_compute (hsides : block.HasSides) (hle : mip ≤ later) {next : LevelLayout}
    (hlevel : LevelLayout.compute block shape mip = .ok level)
    (hnext : LevelLayout.compute block shape later = .ok next) : next.IsWithin level := by
  obtain ⟨_, hrow, himage, hwidth, hheight, hdepth⟩ := measures_of_compute hsides hlevel
  obtain ⟨_, hnextRow, hnextImage, hnextWidth, hnextHeight, hnextDepth⟩ :=
    measures_of_compute hsides hnext
  constructor <;> rw [UInt32.le_iff_toNat_le]
  · rw [hrow, hnextRow]
    exact rowBytes_antitone hle
  · rw [himage, hnextImage]
    exact rows_antitone hle
  · rw [hwidth, hnextWidth]
    exact Nat.mul_le_mul_right _ (columns_antitone hle)
  · rw [hheight, hnextHeight]
    exact Nat.mul_le_mul_right _ (rows_antitone hle)
  · rw [hdepth, hnextDepth]
    exact shape.slices_antitone hle

end BlockLayout

namespace LevelLayout

/-- Levels only shrink, for every block with sides and every shape. Where a level has a layout, every
later level has one, and none of its measures is larger, nor are its bytes. From the thirty-second
level on, layouts differ in nothing but the number of their level. A texture whose base level has a
layout therefore has one at every level that a word can number. -/
theorem compute_shrinks (block : BlockLayout) (hwidth : 1 ≤ block.width.toNat)
    (hheight : 1 ≤ block.height.toNat) (shape : Shape) :
    (∀ mip later level, mip ≤ later → compute block shape mip = .ok level →
        ∃ next, compute block shape later = .ok next ∧ next.IsWithin level ∧
          ∃ size total, next.byteSize? = some size ∧ level.byteSize? = some total ∧ size ≤ total) ∧
      (∀ mip later : UInt32, 32 ≤ mip.toNat → 32 ≤ later.toNat →
        ∀ level, compute block shape mip = .ok level →
          compute block shape later = .ok { level with mip := later }) ∧
      ∀ base, compute block shape 0 = .ok base →
        ∀ mip, ∃ level, compute block shape mip = .ok level := by
  have hsides : block.HasSides := ⟨hwidth, hheight⟩
  refine ⟨?_, ?_, ?_⟩
  · intro mip later level hle hlevel
    have hnext := BlockLayout.compute_of_le hsides hle hlevel
    exact ⟨_, hnext, BlockLayout.isWithin_of_compute hsides hle hlevel hnext, _, _,
      BlockLayout.byteSize?_of_compute hsides hnext, BlockLayout.byteSize?_of_compute hsides hlevel,
      BlockLayout.packedBytes_antitone hle⟩
  · intro mip later hmip hlater level hlevel
    have hextent : shape.mipExtent mip = shape.mipExtent later := by
      rw [shape.mipExtent_of_large hmip, shape.mipExtent_of_large hlater]
    exact BlockLayout.compute_congr hsides hextent (shape.slices_congr hextent) hlevel
  · intro base hbase mip
    exact ⟨_, BlockLayout.compute_of_le hsides UInt32.zero_le hbase⟩

/-- A volume in blocks of four by four texels: its second level is within the nine blocks of a row
that the first one has, and far down the chain one block is left, whatever the level's number. -/
theorem compute_shrinks_volume :
    (∃ next size, compute ⟨8, 4, 4⟩ ⟨36, 20, 5, 0, 1⟩ 1 = .ok next ∧
      next.layout.bytesPerRow ≤ 72 ∧ next.byteSize? = some size ∧ size ≤ 1800) ∧
    compute ⟨8, 4, 4⟩ ⟨36, 20, 5, 0, 1⟩ 4000000000 = .ok ⟨4000000000, ⟨0, 8, 1⟩, ⟨4, 4, 1⟩⟩ := by
  have hbase : compute ⟨8, 4, 4⟩ ⟨36, 20, 5, 0, 1⟩ 0 = .ok ⟨0, ⟨0, 72, 5⟩, ⟨36, 20, 5⟩⟩ := rfl
  have hsmall : compute ⟨8, 4, 4⟩ ⟨36, 20, 5, 0, 1⟩ 32 = .ok ⟨32, ⟨0, 8, 1⟩, ⟨4, 4, 1⟩⟩ := rfl
  obtain ⟨hlater, hlarge, _⟩ :=
    compute_shrinks ⟨8, 4, 4⟩ (by decide) (by decide) ⟨36, 20, 5, 0, 1⟩
  obtain ⟨next, hnext, hwithin, size, total, hsize, htotal, hle⟩ := hlater 0 1 _ (by decide) hbase
  have hbytes : total = 1800 := (Option.some.inj htotal).symm
  rw [hbytes] at hle
  exact ⟨⟨next, size, hnext, hwithin.bytesPerRow_le, hsize, hle⟩,
    hlarge 32 4000000000 (by decide) (by decide) _ hsmall⟩

end LevelLayout

end GpuTexture
