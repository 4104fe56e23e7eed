import Mathlib
import GpuTexture.Level.Layout
import GpuTexture.Outcome

/-!
# Exact layouts along a mip chain

The measures of a mip level as natural numbers, before any of them has to fit a word. A layout is
computed exactly when they all fit, and then holds them unchanged. No measure grows from one level
to the next, so a chain whose base level has a layout has one at every level.
-/

namespace GpuTexture

def BlockLayout.HasSides (block : BlockLayout) : Prop :=
  0 < block.width.toNat ∧ 0 < block.height.toNat

private theorem blockSides_pos :
    ∀ format ∈ TextureFormat.all, 0 < format.blockSides.1.toNat ∧ 0 < format.blockSides.2.toNat := by
  decide +kernel

theorem TextureFormat.hasSides_of_blockLayout? {format : TextureFormat} {block : BlockLayout}
    (h : format.blockLayout? = some block) : block.HasSides := by
  obtain ⟨footprint, _, rfl⟩ := Option.map_eq_some_iff.mp h
  exact blockSides_pos format (TextureFormat.mem_all format)

theorem ofNat_lt_word {index : Nat} {count : UInt32} (hindex : index < count.toNat) :
    UInt32.ofNat index < count ∧ (UInt32.ofNat index).toNat = index := by
  have hsmall : index < UInt32.size := Nat.lt_trans hindex count.toNat_lt
  exact ⟨(UInt32.ofNat_lt_iff hsmall).mpr hindex, UInt32.toNat_ofNat_of_lt' hsmall⟩

private theorem roundUp_eq {texels side : Nat} (hpos : 0 < side) :
    (texels + side - 1) / side = texels / side + if texels % side = 0 then 0 else 1 := by
  have hdiv := Nat.div_add_mod texels side
  have hmod := Nat.mod_lt texels hpos
  have hsplit : texels + side - 1 = side * (texels / side) + (texels % side + side - 1) := by omega
  rw [hsplit, Nat.mul_add_div hpos]
  congr 1
  by_cases hrest : texels % side = 0
  · rw [if_pos hrest, hrest, Nat.zero_add]
    exact Nat.div_eq_of_lt (by omega)
  · rw [if_neg hrest]
    exact Nat.div_eq_of_lt_le (by omega) (by omega)

private theorem roundUp_le (texels : Nat) {side : Nat} (hpos : 0 < side) :
    (texels + side - 1) / side ≤ texels := by
  cases texels with
  | zero => exact Nat.le_of_eq (Nat.div_eq_of_lt (by omega))
  | succ rest =>
    apply Nat.div_le_of_le_mul
    have hgrow : rest ≤ side * rest := Nat.le_mul_of_pos_left rest hpos
    rw [Nat.mul_add]
    omega

theorem toNat_blockCount {texels side : UInt32} (hpos : 0 < side.toNat) :
    (blockCount texels side).toNat = (texels.toNat + side.toNat - 1) / side.toNat := by
  have hsmall := Nat.lt_of_le_of_lt (roundUp_le texels.toNat hpos) texels.toNat_lt
  have hrest : texels % side = 0 ↔ texels.toNat % side.toNat = 0 := by
    rw [← UInt32.toNat_inj, UInt32.toNat_mod, UInt32.toNat_zero]
  rw [roundUp_eq hpos] at hsmall ⊢
  rw [blockCount, UInt32.toNat_add, UInt32.toNat_div, apply_ite UInt32.toNat]
  simp only [hrest, UInt32.toNat_zero, UInt32.toNat_one]
  exact Nat.mod_eq_of_lt hsmall

/-- An axis that is kept at one texel before it is halved has no more texels afterwards. -/
theorem max_one_shiftRight (side mip : Nat) : max 1 (max 1 side >>> mip) = max 1 (side >>> mip) := by
  cases side with
  | zero =>
    have hone : 1 >>> mip ≤ 1 := by
      rw [Nat.shiftRight_eq_div_pow]
      exact Nat.div_le_self _ _
    simpa using hone
  | succ rest => rw [Nat.max_eq_right (Nat.le_add_left 1 rest)]

theorem mipSize_antitone (base : UInt32) {mip later : UInt32} (hle : mip ≤ later) :
    (mipSize base later).toNat ≤ (mipSize base mip).toNat := by
  have hshift : base.toNat >>> later.toNat ≤ base.toNat >>> mip.toNat := by
    rw [Nat.shiftRight_eq_div_pow, Nat.shiftRight_eq_div_pow]
    exact Nat.div_le_div_left (Nat.pow_le_pow_right (by decide) hle) (Nat.two_pow_pos _)
  rw [toNat_mipSize, toNat_mipSize]
  exact max_le_max le_rfl hshift

theorem Shape.slices_antitone (shape : Shape) {mip later : UInt32} (hle : mip ≤ later) :
    shape.slices later ≤ shape.slices mip :=
  Nat.mul_le_mul_left _ (mipSize_antitone shape.depth hle)

namespace BlockLayout

/-- How many blocks cover the width of a mip level. -/
def columns (block : BlockLayout) (shape : Shape) (mip : UInt32) : Nat :=
  (max 1 (shape.width.toNat >>> mip.toNat) + block.width.toNat - 1) / block.width.toNat

def rows (block : BlockLayout) (shape : Shape) (mip : UInt32) : Nat :=
  (max 1 (shape.height.toNat >>> mip.toNat) + block.height.toNat - 1) / block.height.toNat

def rowBytes (block : BlockLayout) (shape : Shape) (mip : UInt32) : Nat :=
  block.columns shape mip * block.footprint.toNat

/-- The bytes of all blocks of a mip level. -/
def packedBytes (block : BlockLayout) (shape : Shape) (mip : UInt32) : Nat :=
  block.rowBytes shape mip * block.rows shape mip * shape.slices mip

/-- The row and the padded sides of a mip level fit 32 bits, its bytes 64. -/
def Fits (block : BlockLayout) (shape : Shape) (mip : UInt32) : Prop :=
  block.rowBytes shape mip < 2 ^ 32 ∧
    block.columns shape mip * block.width.toNat < 2 ^ 32 ∧
    block.rows shape mip * block.height.toNat < 2 ^ 32 ∧
    block.packedBytes shape mip < 2 ^ 64

instance (block : BlockLayout) (shape : Shape) (mip : UInt32) : Decidable (block.Fits shape mip) :=
  inferInstanceAs (Decidable (_ ∧ _ ∧ _ ∧ _))

/-- The measures of a mip level, cut down to their words. -/
def exactLayout (block : BlockLayout) (shape : Shape) (mip : UInt32) : LevelLayout :=
  ⟨mip, ⟨0, .ofNat (block.rowBytes shape mip), .ofNat (block.rows shape mip)⟩,
    ⟨.ofNat (block.columns shape mip * block.width.toNat),
      .ofNat (block.rows shape mip * block.height.toNat), .ofNat (shape.slices mip)⟩⟩

variable {block : BlockLayout} {shape : Shape} {mip later : UInt32}

private theorem toNat_columns (hsides : block.HasSides) :
    (blockCount (mipSize shape.width mip) block.width).toNat = block.columns shape mip := by
  rw [toNat_blockCount hsides.1, toNat_mipSize, columns]

private theorem toNat_rows (hsides : block.HasSides) :
    (blockCount (mipSize shape.height mip) block.height).toNat = block.rows shape mip := by
  rw [toNat_blockCount hsides.2, toNat_mipSize, rows]

theorem rows_lt (hsides : block.HasSides) : block.rows shape mip < 2 ^ 32 := by
  rw [← toNat_rows hsides]
  exact UInt32.toNat_lt _

theorem packedSize_exactLayout (hsides : block.HasSides) (hslices : shape.slices mip < 2 ^ 32)
    (hrow : block.rowBytes shape mip < 2 ^ 32) :
    (block.exactLayout shape mip).packedSize = block.packedBytes shape mip := by
  have hrows : block.rows shape mip < 2 ^ 32 := rows_lt hsides
  simp only [exactLayout, LevelLayout.packedSize, packedBytes]
  rw [UInt32.toNat_ofNat_of_lt' hrow, UInt32.toNat_ofNat_of_lt' hrows,
    UInt32.toNat_ofNat_of_lt' hslices]

theorem byteSize?_exactLayout (hsides : block.HasSides) (hslices : shape.slices mip < 2 ^ 32)
    (hrow : block.rowBytes shape mip < 2 ^ 32) :
    (block.exactLayout shape mip).byteSize? =
      if block.packedBytes shape mip < 2 ^ 64 then some (block.packedBytes shape mip) else none := by
  rw [LevelLayout.byteSize?_eq, packedSize_exactLayout hsides hslices hrow]
  rfl

private theorem checkedMul32?_eq_ite {count word : UInt32} {number : Nat}
    (hcount : count.toNat = number) : checkedMul32? count word =
      if number * word.toNat < 2 ^ 32 then some (.ofNat (number * word.toNat)) else none := by
  subst hcount
  split
  · next hsmall =>
    exact checkedMul32?_eq_some_iff.mpr (UInt32.toNat_ofNat_of_lt' hsmall).symm
  · next hlarge => exact checkedMul32?_eq_none_iff.mpr (Nat.le_of_not_lt hlarge)

/-- A layout is exact, or it is refused: first for its slices, then for a measure that does not
fit. -/
theorem compute_eq (hsides : block.HasSides) :
    LevelLayout.compute block shape mip =
      if 2 ^ 32 ≤ shape.slices mip then .error (.invalidShape shape)
      else if block.Fits shape mip then .ok (block.exactLayout shape mip)
      else .error (.layoutOverflow mip) := by
  by_cases hslices : 2 ^ 32 ≤ shape.slices mip
  · -- Slices are counted before any block is.
    have hinvalid := Shape.sliceCount_eq_error_iff.mpr ⟨hslices, rfl⟩
    rw [if_pos hslices, LevelLayout.compute, hinvalid, Outcome.error_bind]
  rw [if_neg hslices]
  have hslices := Nat.lt_of_not_le hslices
  have hcount : shape.sliceCount mip = .ok (.ofNat (shape.slices mip)) :=
    Shape.sliceCount_eq_ok_iff.mpr (UInt32.toNat_ofNat_of_lt' hslices).symm
  have hrows : blockCount (mipSize shape.height mip) block.height = .ofNat (block.rows shape mip) := by
    rw [← toNat_rows hsides, UInt32.ofNat_toNat]
  simp only [LevelLayout.compute, hcount, Shape.mipExtent, Outcome.ok_bind,
    checkedMul32?_eq_ite (toNat_columns hsides), checkedMul32?_eq_ite (toNat_rows hsides)]
  by_cases hrow : block.columns shape mip * block.footprint.toNat < 2 ^ 32
  · by_cases hwidth : block.columns shape mip * block.width.toNat < 2 ^ 32
    · by_cases hheight : block.rows shape mip * block.height.toNat < 2 ^ 32
      · have hfits : block.Fits shape mip ↔ block.packedBytes shape mip < 2 ^ 64 := by
          simp only [Fits, rowBytes, hrow, hwidth, hheight, true_and]
        rw [if_pos hrow, if_pos hwidth, if_pos hheight, hrows]
        change (if (block.exactLayout shape mip).byteSize?.isSome = true then
          Except.ok (block.exactLayout shape mip) else _) = _
        rw [byteSize?_exactLayout hsides hslices hrow]
        by_cases hbytes : block.packedBytes shape mip < 2 ^ 64
        · rw [if_pos hbytes, if_pos (hfits.mpr hbytes), Option.isSome_some, if_pos rfl]
        · rw [if_neg hbytes, if_neg (mt hfits.mp hbytes), Option.isSome_none]
          rfl
      · have hexceeds : ¬ block.Fits shape mip := fun hfits => hheight hfits.2.2.1
        rw [if_pos hrow, if_pos hwidth, if_neg hheight, if_neg hexceeds]
        rfl
    · have hexceeds : ¬ block.Fits shape mip := fun hfits => hwidth hfits.2.1
      rw [if_pos hrow, if_neg hwidth, if_neg hexceeds]
      rfl
  · have hexceeds : ¬ block.Fits shape mip := fun hfits => hrow hfits.1
    rw [if_neg hrow, if_neg hexceeds]
    rfl

theorem compute_eq_ok_iff (hsides : block.HasSides) {level : LevelLayout} :
    LevelLayout.compute block shape mip = .ok level ↔
      shape.slices mip < 2 ^ 32 ∧ block.Fits shape mip ∧ level = block.exactLayout shape mip := by
  rw [compute_eq hsides]
  by_cases hslices : 2 ^ 32 ≤ shape.slices mip
  · rw [if_pos hslices]
    constructor
    · nofun
    · intro hlayout
      obtain ⟨hsmall, _, _⟩ := hlayout
      omega
  rw [if_neg hslices]
  by_cases hfits : block.Fits shape mip
  · rw [if_pos hfits]
    constructor
    · intro hlayout
      cases hlayout
      exact ⟨Nat.lt_of_not_le hslices, hfits, rfl⟩
    · intro hlayout
      obtain ⟨_, _, rfl⟩ := hlayout
      rfl
  · rw [if_neg hfits]
    constructor
    · nofun
    · intro hlayout
      obtain ⟨_, h, _⟩ := hlayout
      exact absurd h hfits

theorem byteSize?_of_compute (hsides : block.HasSides) {level : LevelLayout}
    (hlevel : LevelLayout.compute block shape mip = .ok level) :
    level.byteSize? = some (block.packedBytes shape mip) := by
  obtain ⟨hslices, hfits, rfl⟩ := (compute_eq_ok_iff hsides).mp hlevel
  rw [byteSize?_exactLayout hsides hslices hfits.1, if_pos hfits.2.2.2]

/-! ## Later levels are never larger -/

theorem columns_antitone (hle : mip ≤ later) :
    block.columns shape later ≤ block.columns shape mip := by
  have haxis := mipSize_antitone shape.width hle
  rw [toNat_mipSize, toNat_mipSize] at haxis
  exact Nat.div_le_div_right (by omega)

theorem rows_antitone (hle : mip ≤ later) : block.rows shape later ≤ block.rows shape mip := by
  have haxis := mipSize_antitone shape.height hle
  rw [toNat_mipSize, toNat_mipSize] at haxis
  exact Nat.div_le_div_right (by omega)

theorem rowBytes_antitone (hle : mip ≤ later) :
    block.rowBytes shape later ≤ block.rowBytes shape mip :=
  Nat.mul_le_mul_right _ (columns_antitone hle)

theorem packedBytes_antitone (hle : mip ≤ later) :
    block.packedBytes shape later ≤ block.packedBytes shape mip :=
  Nat.mul_le_mul (Nat.mul_le_mul (rowBytes_antitone hle) (rows_antitone hle))
    (shape.slices_antitone hle)

theorem Fits.of_le (hfits : block.Fits shape mip) (hle : mip ≤ later) : block.Fits shape later := by
  obtain ⟨hrow, hwidth, hheight, hbytes⟩ := hfits
  refine ⟨?_, ?_, ?_, ?_⟩
  · exact Nat.lt_of_le_of_lt (rowBytes_antitone hle) hrow
  · exact Nat.lt_of_le_of_lt (Nat.mul_le_mul_right _ (columns_antitone hle)) hwidth
  · exact Nat.lt_of_le_of_lt (Nat.mul_le_mul_right _ (rows_antitone hle)) hheight
  · exact Nat.lt_of_le_of_lt (packedBytes_antitone hle) hbytes

/-- A later level has a layout where an earlier one has. -/
theorem compute_of_le (hsides : block.HasSides) (hle : mip ≤ later) {level : LevelLayout}
    (hlevel : LevelLayout.compute block shape mip = .ok level) :
    LevelLayout.compute block shape later = .ok (block.exactLayout shape later) := by
  obtain ⟨hslices, hfits, _⟩ := (compute_eq_ok_iff hsides).mp hlevel
  exact (compute_eq_ok_iff hsides).mpr
    ⟨Nat.lt_of_le_of_lt (shape.slices_antitone hle) hslices, hfits.of_le hle, rfl⟩

end BlockLayout

end GpuTexture
