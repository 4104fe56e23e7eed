import Mathlib
import GpuTexture.Proofs.ExactLayout

/-!
# Layouts of whole blocks

The layout of an extent that is a whole number of blocks can be inferred without rounding anything,
and the layout of a mip level rounds its texels up to such an extent. The two agree: the padded
extent of a level has the layout of the level, and a picture of whole blocks is padded by nothing.
-/

namespace GpuTexture

def Extent.IsAligned (extent : Extent) (block : BlockLayout) : Prop :=
  block.width.toNat ∣ extent.width.toNat ∧ block.height.toNat ∣ extent.height.toNat

instance (extent : Extent) (block : BlockLayout) : Decidable (extent.IsAligned block) :=
  inferInstanceAs (Decidable (_ ∧ _))

/-- The bytes of a row of whole blocks, before they have to fit a word. -/
def Extent.pitch (extent : Extent) (block : BlockLayout) : Nat :=
  extent.width.toNat / block.width.toNat * block.footprint.toNat

variable {format : TextureFormat} {block : BlockLayout} {extent other : Extent} {shape : Shape}
  {mip : UInt32} {level : LevelLayout}

private theorem Extent.isAligned_congr (hwidth : extent.width = other.width)
    (hheight : extent.height = other.height) : extent.IsAligned block ↔ other.IsAligned block := by
  rw [IsAligned, IsAligned, hwidth, hheight]

theorem inferLayout_eq (hblock : format.blockLayout? = some block) (extent : Extent) :
    inferLayout format extent =
      if extent.IsAligned block then
        .ok ⟨0, extent.width / block.width * block.footprint, extent.height / block.height⟩
      else
        .error (.unalignedExtent extent.width extent.height block.width block.height) := by
  have hrest : (extent.width % block.width ≠ 0 ∨ extent.height % block.height ≠ 0) ↔
      ¬ extent.IsAligned block := by
    simp only [Extent.IsAligned, Nat.dvd_iff_mod_eq_zero, ← UInt32.toNat_inj, UInt32.toNat_mod,
      UInt32.toNat_zero, not_and_or, ne_eq]
  simp only [inferLayout, hblock, hrest, ite_not]

theorem inferLayout_of_aligned (hblock : format.blockLayout? = some block)
    (haligned : extent.IsAligned block) (hpitch : extent.pitch block < 2 ^ 32) :
    inferLayout format extent =
      .ok ⟨0, .ofNat (extent.pitch block),
        .ofNat (extent.height.toNat / block.height.toNat)⟩ := by
  have hrow : extent.width / block.width * block.footprint = .ofNat (extent.pitch block) := by
    rw [← UInt32.toNat_inj, UInt32.toNat_mul, UInt32.toNat_div, UInt32.toNat_ofNat_of_lt' hpitch]
    exact Nat.mod_eq_of_lt hpitch
  have hrows : extent.height / block.height =
      .ofNat (extent.height.toNat / block.height.toNat) := by
    rw [← UInt32.toNat_div, UInt32.ofNat_toNat]
  rw [inferLayout_eq hblock, if_pos haligned, hrow, hrows]

namespace BlockLayout

/-! ## The padded extent of a level -/

private theorem isAligned_of_compute (hsides : block.HasSides)
    (hlevel : LevelLayout.compute block shape mip = .ok level) : level.extent.IsAligned block := by
  obtain ⟨_, _, _, hwidth, hheight, _⟩ := measures_of_compute hsides hlevel
  rw [Extent.IsAligned, hwidth, hheight]
  exact ⟨Nat.dvd_mul_left _ _, Nat.dvd_mul_left _ _⟩

private theorem pitch_of_compute (hsides : block.HasSides)
    (hlevel : LevelLayout.compute block shape mip = .ok level) :
    level.extent.pitch block = level.layout.bytesPerRow.toNat := by
  obtain ⟨_, hrow, _, hwidth, _⟩ := measures_of_compute hsides hlevel
  rw [Extent.pitch, hwidth, Nat.mul_div_cancel _ hsides.1, hrow, rowBytes]

private theorem pitch_lt_of_compute (hsides : block.HasSides)
    (hlevel : LevelLayout.compute block shape mip = .ok level) :
    level.extent.pitch block < 2 ^ 32 := by
  rw [pitch_of_compute hsides hlevel]
  exact UInt32.toNat_lt _

private theorem one_le_extent_of_compute (hsides : block.HasSides)
    (hlevel : LevelLayout.compute block shape mip = .ok level) :
    1 ≤ level.extent.width.toNat ∧ 1 ≤ level.extent.height.toNat := by
  obtain ⟨_, _, _, hwidth, hheight, _⟩ := measures_of_compute hsides hlevel
  have hcolumns := (ceilDiv_mul_bounds (max 1 (shape.width.toNat >>> mip.toNat)) hsides.1).1
  have hrows := (ceilDiv_mul_bounds (max 1 (shape.height.toNat >>> mip.toNat)) hsides.2).1
  rw [Nat.ceilDiv_eq_add_pred_div] at hcolumns hrows
  rw [hwidth, hheight, columns, rows]
  omega

private theorem inferLayout_of_compute (hblock : format.blockLayout? = some block)
    (hlevel : LevelLayout.compute block shape mip = .ok level) :
    inferLayout format level.extent = .ok level.layout := by
  have hsides := TextureFormat.hasSides_of_blockLayout? hblock
  obtain ⟨hoffset, _, himage, _, hheight, _⟩ := measures_of_compute hsides hlevel
  have hrows : level.extent.height.toNat / block.height.toNat =
      level.layout.rowsPerImage.toNat := by
    rw [hheight, Nat.mul_div_cancel _ hsides.2, himage]
  rw [inferLayout_of_aligned hblock (isAligned_of_compute hsides hlevel)
    (pitch_lt_of_compute hsides hlevel), pitch_of_compute hsides hlevel, hrows, UInt32.ofNat_toNat,
    UInt32.ofNat_toNat, ← hoffset]

end BlockLayout

/-! ## Pictures of whole blocks -/

theorem Shape.slices_image2d {width height mip : UInt32} :
    (Shape.image2d width height).slices mip = 1 := by
  simp [slices, image2d, toNat_mipSize]

private theorem roundUp_of_dvd {texels side : Nat} (hpos : 0 < side) (hdvd : side ∣ texels) :
    (texels + side - 1) / side = texels / side := by
  obtain ⟨blocks, rfl⟩ := hdvd
  rw [← Nat.ceilDiv_eq_add_pred_div, Nat.mul_div_cancel_left _ hpos]
  exact smul_ceilDiv hpos blocks

namespace BlockLayout

private theorem columns_image2d (hsides : block.HasSides) (haligned : extent.IsAligned block)
    (hwidth : 1 ≤ extent.width.toNat) :
    block.columns (.image2d extent.width extent.height) 0 =
      extent.width.toNat / block.width.toNat := by
  change (max 1 (extent.width.toNat >>> 0) + block.width.toNat - 1) / block.width.toNat = _
  rw [Nat.shiftRight_zero, Nat.max_eq_right hwidth, roundUp_of_dvd hsides.1 haligned.1]

private theorem rows_image2d (hsides : block.HasSides) (haligned : extent.IsAligned block)
    (hheight : 1 ≤ extent.height.toNat) :
    block.rows (.image2d extent.width extent.height) 0 =
      extent.height.toNat / block.height.toNat := by
  change (max 1 (extent.height.toNat >>> 0) + block.height.toNat - 1) / block.height.toNat = _
  rw [Nat.shiftRight_zero, Nat.max_eq_right hheight, roundUp_of_dvd hsides.2 haligned.2]

private theorem rowBytes_image2d (hsides : block.HasSides) (haligned : extent.IsAligned block)
    (hwidth : 1 ≤ extent.width.toNat) :
    block.rowBytes (.image2d extent.width extent.height) 0 = extent.pitch block := by
  rw [rowBytes, columns_image2d hsides haligned hwidth, Extent.pitch]

/-- The row of a picture of whole blocks decides whether it has a layout. -/
theorem fits_image2d_iff (hsides : block.HasSides) (haligned : extent.IsAligned block)
    (hwidth : 1 ≤ extent.width.toNat) (hheight : 1 ≤ extent.height.toNat) :
    block.Fits (.image2d extent.width extent.height) 0 ↔ extent.pitch block < 2 ^ 32 := by
  have hrow := rowBytes_image2d hsides haligned hwidth
  constructor
  · intro hfits
    rw [← hrow]
    exact hfits.1
  · intro hpitch
    refine ⟨?_, ?_, ?_, ?_⟩
    · rwa [hrow]
    · rw [columns_image2d hsides haligned hwidth, Nat.div_mul_cancel haligned.1]
      exact UInt32.toNat_lt _
    · rw [rows_image2d hsides haligned hheight, Nat.div_mul_cancel haligned.2]
      exact UInt32.toNat_lt _
    · rw [packedBytes, Shape.slices_image2d, Nat.mul_one, hrow]
      calc extent.pitch block * block.rows (.image2d extent.width extent.height) 0
        _ < 2 ^ 32 * 2 ^ 32 := Nat.mul_lt_mul'' hpitch (rows_lt hsides)

/-- A picture of whole blocks is padded by nothing. -/
theorem exactLayout_image2d (hsides : block.HasSides) (haligned : extent.IsAligned block)
    (hwidth : 1 ≤ extent.width.toNat) (hheight : 1 ≤ extent.height.toNat) :
    block.exactLayout (.image2d extent.width extent.height) 0 =
      ⟨0, ⟨0, .ofNat (extent.pitch block), .ofNat (extent.height.toNat / block.height.toNat)⟩,
        ⟨extent.width, extent.height, 1⟩⟩ := by
  rw [exactLayout, rowBytes_image2d hsides haligned hwidth, Shape.slices_image2d,
    columns_image2d hsides haligned hwidth, rows_image2d hsides haligned hheight,
    Nat.div_mul_cancel haligned.1, Nat.div_mul_cancel haligned.2, UInt32.ofNat_toNat,
    UInt32.ofNat_toNat]
  rfl

private theorem compute_image2d (hsides : block.HasSides) (haligned : extent.IsAligned block)
    (hwidth : 1 ≤ extent.width.toNat) (hheight : 1 ≤ extent.height.toNat)
    (hpitch : extent.pitch block < 2 ^ 32) :
    LevelLayout.compute block (.image2d extent.width extent.height) 0 =
      .ok ⟨0, ⟨0, .ofNat (extent.pitch block), .ofNat (extent.height.toNat / block.height.toNat)⟩,
        ⟨extent.width, extent.height, 1⟩⟩ := by
  have hslices : (Shape.image2d extent.width extent.height).slices 0 < 2 ^ 32 := by
    simp [Shape.slices_image2d]
  rw [← exactLayout_image2d hsides haligned hwidth hheight]
  exact (compute_eq_ok_iff hsides).mpr
    ⟨hslices, (fits_image2d_iff hsides haligned hwidth hheight).mpr hpitch, rfl⟩

end BlockLayout

/-- Inferred and computed layouts agree, for every format with blocks. The layout of a mip level is
inferred from its padded extent, with a row that fits its word. An extent with sides whose layout is
inferred, and whose row fits, is that of a picture with the same layout that is not padded. So
padding what is padded changes nothing; among the extents with sides and a fitting row, those have
an inferred layout that are not padded; and an extent that cuts a block is always refused. -/
theorem inferLayout_agrees {format : TextureFormat} {block : BlockLayout}
    (hblock : format.blockLayout? = some block) :
    (∀ shape mip level, LevelLayout.compute block shape mip = .ok level →
        inferLayout format level.extent = .ok level.layout ∧
        level.extent.width.toNat / block.width.toNat * block.footprint.toNat < 2 ^ 32 ∧
        LevelLayout.compute block (.image2d level.extent.width level.extent.height) 0 =
          .ok ⟨0, level.layout, ⟨level.extent.width, level.extent.height, 1⟩⟩) ∧
      (∀ extent : Extent, 1 ≤ extent.width.toNat → 1 ≤ extent.height.toNat →
        extent.width.toNat / block.width.toNat * block.footprint.toNat < 2 ^ 32 →
        (∀ layout, inferLayout format extent = .ok layout →
          LevelLayout.compute block (.image2d extent.width extent.height) 0 =
            .ok ⟨0, layout, ⟨extent.width, extent.height, 1⟩⟩) ∧
        ((∃ layout, inferLayout format extent = .ok layout) ↔
          ∃ level, LevelLayout.compute block (.image2d extent.width extent.height) 0 = .ok level ∧
            level.extent.width = extent.width ∧ level.extent.height = extent.height)) ∧
      ∀ extent : Extent,
        ¬ (block.width.toNat ∣ extent.width.toNat ∧ block.height.toNat ∣ extent.height.toNat) →
        inferLayout format extent =
          .error (.unalignedExtent extent.width extent.height block.width block.height) := by
  have hsides := TextureFormat.hasSides_of_blockLayout? hblock
  have hunpadded : ∀ extent : Extent, 1 ≤ extent.width.toNat → 1 ≤ extent.height.toNat →
      extent.pitch block < 2 ^ 32 → ∀ layout, inferLayout format extent = .ok layout →
        LevelLayout.compute block (.image2d extent.width extent.height) 0 =
          .ok ⟨0, layout, ⟨extent.width, extent.height, 1⟩⟩ := by
    intro extent hwidth hheight hpitch layout hlayout
    have haligned : extent.IsAligned block := by
      by_contra hcut
      rw [inferLayout_eq hblock, if_neg hcut] at hlayout
      cases hlayout
    rw [inferLayout_of_aligned hblock haligned hpitch, Except.ok.injEq] at hlayout
    rw [BlockLayout.compute_image2d hsides haligned hwidth hheight hpitch, hlayout]
  refine ⟨?_, ?_, ?_⟩
  · intro shape mip level hlevel
    have hlayout := BlockLayout.inferLayout_of_compute hblock hlevel
    have hpitch := BlockLayout.pitch_lt_of_compute hsides hlevel
    obtain ⟨hwidth, hheight⟩ := BlockLayout.one_le_extent_of_compute hsides hlevel
    exact ⟨hlayout, hpitch, hunpadded level.extent hwidth hheight hpitch _ hlayout⟩
  · intro extent hwidth hheight hpitch
    refine ⟨hunpadded extent hwidth hheight hpitch, ?_, ?_⟩
    · rintro ⟨layout, hlayout⟩
      exact ⟨_, hunpadded extent hwidth hheight hpitch layout hlayout, rfl, rfl⟩
    · rintro ⟨level, hlevel, hsameWidth, hsameHeight⟩
      have haligned := (Extent.isAligned_congr hsameWidth hsameHeight).mp
        (BlockLayout.isAligned_of_compute hsides hlevel)
      exact ⟨_, inferLayout_of_aligned hblock haligned hpitch⟩
  · intro extent hcut
    rw [inferLayout_eq hblock]
    exact if_neg hcut

/-- Thirty by eighteen texels in blocks of six by five: the padded extent has the layout of the level;
an extent of whole blocks is a picture without padding; one texel more cuts a block. -/
theorem inferLayout_agrees_astc :
    inferLayout .astc6x5Unorm ⟨30, 20, 1⟩ = .ok ⟨0, 80, 4⟩ ∧
    LevelLayout.compute ⟨16, 6, 5⟩ (.image2d 12 10) 0 = .ok ⟨0, ⟨0, 32, 2⟩, ⟨12, 10, 1⟩⟩ ∧
    inferLayout .astc6x5Unorm ⟨31, 20, 7⟩ = .error (.unalignedExtent 31 20 6 5) := by
  have hblock : TextureFormat.astc6x5Unorm.blockLayout? = some ⟨16, 6, 5⟩ := rfl
  have hlevel : LevelLayout.compute ⟨16, 6, 5⟩ (.image2d 30 18) 0 =
      .ok ⟨0, ⟨0, 80, 4⟩, ⟨30, 20, 1⟩⟩ := rfl
  have hlayout : inferLayout .astc6x5Unorm ⟨12, 10, 3⟩ = .ok ⟨0, 32, 2⟩ := rfl
  obtain ⟨hpadded, hpicture, hcut⟩ := inferLayout_agrees hblock
  obtain ⟨hunpadded, _⟩ := hpicture ⟨12, 10, 3⟩ (by decide) (by decide) (by decide)
  exact ⟨(hpadded _ _ _ hlevel).1, hunpadded _ hlayout, hcut ⟨31, 20, 7⟩ (by decide)⟩

end GpuTexture
