import Mathlib
import GpuTexture.Proofs.ShrinkingLevels

/-!
# Levels of levels

A mip level can be taken for a texture of its own, with the sides that are left there and with all
faces and layers. The levels of that texture are those that the whole one has further down: an axis
halved some times, kept at one texel, and then halved some more times is as long as one halved so many
times at once. Hence such levels have the same slices and the same layout, or none of them for the
same reason.
-/

namespace GpuTexture

variable {first next : UInt32}

theorem mipSize_mipSize (base : UInt32) (hsum : first.toNat + next.toNat < 2 ^ 32) :
    mipSize (mipSize base first) next = mipSize base (first + next) := by
  have hnumber : (first + next).toNat = first.toNat + next.toNat := by
    rw [UInt32.toNat_add, Nat.mod_eq_of_lt hsum]
  rw [← UInt32.toNat_inj]
  calc (mipSize (mipSize base first) next).toNat
      = max 1 (max 1 (base.toNat >>> first.toNat) >>> next.toNat) := by
        rw [toNat_mipSize, toNat_mipSize]
    _ = max 1 (base.toNat >>> first.toNat >>> next.toNat) := max_one_shiftRight _ _
    _ = max 1 (base.toNat >>> (first + next).toNat) := by
        rw [← Nat.shiftRight_add, hnumber]
    _ = (mipSize base (first + next)).toNat := (toNat_mipSize _ _).symm

namespace Shape

/-- The texture that a mip level is, taken for itself: its sides are those of the level, and faces
and layers are kept. -/
def atLevel (shape : Shape) (mip : UInt32) : Shape :=
  { shape with
    width := (shape.mipExtent mip).width
    height := (shape.mipExtent mip).height
    depth := (shape.mipExtent mip).depthOrArrayLayers }

private theorem mipExtent_atLevel (shape : Shape) (hsum : first.toNat + next.toNat < 2 ^ 32) :
    (shape.atLevel first).mipExtent next = shape.mipExtent (first + next) := by
  simp only [mipExtent, atLevel, mipSize_mipSize _ hsum]

theorem slices_atLevel (shape : Shape) (hsum : first.toNat + next.toNat < 2 ^ 32) :
    (shape.atLevel first).slices next = shape.slices (first + next) := by
  simp only [slices, atLevel, mipExtent, mipSize_mipSize _ hsum]

end Shape

namespace BlockLayout

variable {block : BlockLayout} {shape other : Shape} {mip later : UInt32}

/-- Levels of the same texels and slices have the same layout, up to the number of the level, or the
same reason for having none. -/
theorem compute_alike (hsides : block.HasSides)
    (hextent : shape.mipExtent mip = other.mipExtent later)
    (hslices : shape.slices mip = other.slices later) :
    (∃ level, LevelLayout.compute block shape mip = .ok level ∧
        LevelLayout.compute block other later = .ok { level with mip := later }) ∨
      (LevelLayout.compute block shape mip = .error (.invalidShape shape) ∧
        LevelLayout.compute block other later = .error (.invalidShape other)) ∨
      LevelLayout.compute block shape mip = .error (.layoutOverflow mip) ∧
        LevelLayout.compute block other later = .error (.layoutOverflow later) := by
  rcases Nat.lt_or_ge (shape.slices mip) (2 ^ 32) with hsmall | hlarge
  · by_cases hfits : block.Fits shape mip
    · obtain ⟨level, hlevel⟩ := (exists_compute_iff hsides).mpr ⟨hsmall, hfits⟩
      exact .inl ⟨level, hlevel, compute_congr hsides hextent hslices hlevel⟩
    · have hother : ¬ block.Fits other later := mt (fits_congr hextent hslices).mpr hfits
      exact .inr (.inr ⟨(compute_eq_layoutOverflow_iff hsides).mpr ⟨hsmall, hfits⟩,
        (compute_eq_layoutOverflow_iff hsides).mpr ⟨hslices ▸ hsmall, hother⟩⟩)
  · exact .inr (.inl ⟨(compute_eq_invalidShape_iff hsides).mpr hlarge,
      (compute_eq_invalidShape_iff hsides).mpr (hslices ▸ hlarge)⟩)

end BlockLayout

theorem Shape.sliceCount_alike {shape other : Shape} {mip later : UInt32}
    (hslices : shape.slices mip = other.slices later) :
    (∃ count, shape.sliceCount mip = .ok count ∧ other.sliceCount later = .ok count) ∨
      shape.sliceCount mip = .error (.invalidShape shape) ∧
        other.sliceCount later = .error (.invalidShape other) := by
  cases hcount : shape.sliceCount mip with
  | ok count =>
    have hsame := sliceCount_eq_ok_iff.mp hcount
    exact .inl ⟨count, rfl, sliceCount_eq_ok_iff.mpr (hslices ▸ hsame)⟩
  | error error =>
    obtain ⟨hlarge, rfl⟩ := sliceCount_eq_error_iff.mp hcount
    exact .inr ⟨rfl, sliceCount_eq_error_iff.mpr ⟨hslices ▸ hlarge, rfl⟩⟩

namespace LevelLayout

/-- Levels compose. Halving an axis, kept at one texel, as often as one level says and then as often
as another is halving it as often as both together. So for every block with sides and every shape, a
level of the texture that a first level is has as many slices as the level that far down in the whole
texture, or both shapes are invalid; and the two have the same layout, extent and bytes, so that only
the numbers of the levels differ, or both are refused, as invalid shapes or as overflows. -/
theorem compute_atLevel (first next : UInt32) (hsum : first.toNat + next.toNat < 2 ^ 32) :
    (∀ base, mipSize (mipSize base first) next = mipSize base (first + next)) ∧
      ∀ shape : Shape,
        let nested := shape.atLevel first
        ((∃ count, nested.sliceCount next = .ok count ∧
            shape.sliceCount (first + next) = .ok count) ∨
          nested.sliceCount next = .error (.invalidShape nested) ∧
            shape.sliceCount (first + next) = .error (.invalidShape shape)) ∧
        ∀ block : BlockLayout, 1 ≤ block.width.toNat → 1 ≤ block.height.toNat →
          (∃ level total size, compute block nested next = .ok level ∧
              compute block shape (first + next) = .ok total ∧
              level.mip = next ∧ total.mip = first + next ∧ level.layout = total.layout ∧
              level.extent = total.extent ∧
              level.byteSize? = some size ∧ total.byteSize? = some size) ∨
            (compute block nested next = .error (.invalidShape nested) ∧
              compute block shape (first + next) = .error (.invalidShape shape)) ∨
            compute block nested next = .error (.layoutOverflow next) ∧
              compute block shape (first + next) = .error (.layoutOverflow (first + next)) := by
  refine ⟨fun base => mipSize_mipSize base hsum, ?_⟩
  intro shape nested
  have hextent : nested.mipExtent next = shape.mipExtent (first + next) :=
    shape.mipExtent_atLevel hsum
  have hslices : nested.slices next = shape.slices (first + next) := shape.slices_atLevel hsum
  refine ⟨Shape.sliceCount_alike hslices, ?_⟩
  intro block hwidth hheight
  have hsides : block.HasSides := ⟨hwidth, hheight⟩
  rcases BlockLayout.compute_alike hsides hextent hslices with
    ⟨level, hlevel, htotal⟩ | hinvalid | hoverflow
  · have hsize := BlockLayout.byteSize?_of_compute hsides hlevel
    obtain ⟨_, _, hexact⟩ := (BlockLayout.compute_eq_ok_iff hsides).mp hlevel
    have hnumber : level.mip = next := congrArg LevelLayout.mip hexact
    exact .inl ⟨level, _, _, hlevel, htotal, hnumber, rfl, rfl, rfl, hsize, hsize⟩
  · exact .inr (.inl hinvalid)
  · exact .inr (.inr hoverflow)

/-- Halving a volume twice, and halving it once as the texture that its second level is, leave the same
blocks; a row that overflows at the third level of the whole overflows at the second of the rest. -/
theorem compute_atLevel_volume :
    (1 : UInt32).toNat + (1 : UInt32).toNat < 2 ^ 32 ∧ mipSize (mipSize 5 1) 1 = mipSize 5 2 ∧
      (∃ total, compute ⟨8, 4, 4⟩ ⟨36, 20, 9, 0, 1⟩ 2 = .ok total ∧ total.mip = 2 ∧
        total.layout = ⟨0, 24, 2⟩ ∧ total.extent = ⟨12, 8, 2⟩) ∧
      compute ⟨16, 4, 4⟩ (.image2d 0xFFFFFFFF 1) 2 = .error (.layoutOverflow 2) := by
  obtain ⟨haxis, hlevels⟩ := compute_atLevel 1 1 (by decide)
  refine ⟨by decide, haxis 5, ?_, ?_⟩
  · have hnested : compute ⟨8, 4, 4⟩ (Shape.atLevel ⟨36, 20, 9, 0, 1⟩ 1) 1 =
        .ok ⟨1, ⟨0, 24, 2⟩, ⟨12, 8, 2⟩⟩ := rfl
    rcases (hlevels ⟨36, 20, 9, 0, 1⟩).2 ⟨8, 4, 4⟩ (by decide) (by decide) with
      ⟨level, total, _, hlevel, htotal, _, hnumber, hlayout, hextent, _⟩ | ⟨hinvalid, _⟩ | ⟨hoverflow, _⟩
    · cases hnested.symm.trans hlevel
      exact ⟨total, htotal, hnumber, hlayout.symm, hextent.symm⟩
    · cases hnested.symm.trans hinvalid
    · cases hnested.symm.trans hoverflow
  · have hnested : compute ⟨16, 4, 4⟩ (Shape.atLevel (.image2d 0xFFFFFFFF 1) 1) 1 =
        .error (.layoutOverflow 1) := rfl
    rcases (hlevels (.image2d 0xFFFFFFFF 1)).2 ⟨16, 4, 4⟩ (by decide) (by decide) with
      ⟨level, _, _, hlevel, _⟩ | ⟨hinvalid, _⟩ | ⟨_, htotal⟩
    · cases hnested.symm.trans hlevel
    · cases hnested.symm.trans hinvalid
    · exact htotal

end LevelLayout

end GpuTexture
