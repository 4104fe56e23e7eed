import Mathlib
import GpuTexture.Proofs.MipChain

/-!
# Classes of shapes

The five counts of a shape decide how it is sampled, how it is stored and how many slices its levels
have. A view stands for a condition on the counts that no other view shares, so the order in which
they are tried does not matter. Views with layers, faces of a cube or depth are stored in three
dimensions, and the flat ones, too, as soon as there are several faces. Only depth is halved: in a
shape without depth every level has the slices of the first.
-/

namespace GpuTexture

/-- How a shape of this view and so many faces is stored. -/
def ViewDimension.storage (faces : UInt32) : ViewDimension → TextureDimension
  | .d1 => if faces ≤ 1 then .d1 else .d3
  | .d2 => if faces ≤ 1 then .d2 else .d3
  | .d2Array | .cube | .cubeArray | .d3 => .d3

namespace Shape

/-- No axis is present, and the six faces of a cube are not either. -/
def HasNoAxis (shape : Shape) : Prop :=
  shape.width = 0 ∧ shape.height = 0 ∧ shape.depth = 0 ∧ shape.layers = 0 ∧ shape.faces ≠ 6

instance (shape : Shape) : Decidable shape.HasNoAxis :=
  inferInstanceAs (Decidable (_ ∧ _ ∧ _ ∧ _ ∧ _))

/-- The counts that a view stands for: depth makes a volume; without it, six faces make cubes, and
layers make an array; what remains is a picture or, without height, a line. -/
def IsViewedAs (shape : Shape) : ViewDimension → Prop
  | .d3 => 0 < shape.depth
  | .cube => shape.depth = 0 ∧ shape.layers = 0 ∧ shape.faces = 6
  | .cubeArray => shape.depth = 0 ∧ 0 < shape.layers ∧ shape.faces = 6
  | .d2Array => shape.depth = 0 ∧ 0 < shape.layers ∧ shape.faces ≠ 6
  | .d2 => shape.depth = 0 ∧ shape.layers = 0 ∧ shape.faces ≠ 6 ∧ 0 < shape.height
  | .d1 => shape.depth = 0 ∧ shape.layers = 0 ∧ shape.height = 0 ∧ shape.faces ≠ 6 ∧ 0 < shape.width

/-- At most one face, no layers and no depth. -/
def IsSingle (shape : Shape) : Prop :=
  shape.faces ≤ 1 ∧ shape.layers = 0 ∧ shape.depth = 0

variable {shape : Shape} {view : ViewDimension}

/-! ## Views -/

theorem viewDimension_of_hasNoAxis (h : shape.HasNoAxis) :
    shape.viewDimension = .error (.invalidShape shape) := by
  obtain ⟨hwidth, hheight, hdepth, hlayers, hfaces⟩ := h
  rw [viewDimension_of_flat hfaces (by simp [hlayers]) (by simp [hdepth]) (by simp [hheight])]
  simp [hwidth]

theorem viewDimension_of_isViewedAs (hview : shape.IsViewedAs view) :
    shape.viewDimension = .ok view := by
  cases view with
  | d3 =>
    have hdepth : shape.depth ≠ 0 := UInt32.pos_iff_ne_zero.mp hview
    have hpos : shape.depth > 0 := hview
    simp [viewDimension, hdepth, hpos]
  | cube =>
    obtain ⟨hdepth, hlayers, hfaces⟩ := hview
    simp [viewDimension, hdepth, hlayers, hfaces]
  | cubeArray =>
    obtain ⟨hdepth, hlayers, hfaces⟩ := hview
    have hsome : shape.layers ≠ 0 := UInt32.pos_iff_ne_zero.mp hlayers
    simp [viewDimension, hdepth, hlayers, hfaces, hsome]
  | d2Array =>
    obtain ⟨hdepth, hlayers, hfaces⟩ := hview
    simp [viewDimension, hdepth, hlayers, hfaces]
  | d2 =>
    obtain ⟨hdepth, hlayers, hfaces, hheight⟩ := hview
    simp [viewDimension, hdepth, hlayers, hfaces, hheight]
  | d1 =>
    obtain ⟨hdepth, hlayers, hheight, hfaces, hwidth⟩ := hview
    rw [viewDimension_of_flat hfaces (by simp [hlayers]) (by simp [hdepth]) (by simp [hheight])]
    exact if_pos hwidth

theorem exists_isViewedAs (haxis : ¬ shape.HasNoAxis) : ∃ view, shape.IsViewedAs view := by
  simp only [HasNoAxis, not_and_or] at haxis
  by_cases hdepth : shape.depth = 0
  · by_cases hlayers : shape.layers = 0
    · by_cases hfaces : shape.faces = 6
      · exact ⟨.cube, hdepth, hlayers, hfaces⟩
      · by_cases hheight : shape.height = 0
        · have hwidth : shape.width ≠ 0 := by tauto
          exact ⟨.d1, hdepth, hlayers, hheight, hfaces, UInt32.pos_iff_ne_zero.mpr hwidth⟩
        · exact ⟨.d2, hdepth, hlayers, hfaces, UInt32.pos_iff_ne_zero.mpr hheight⟩
    · have hsome : 0 < shape.layers := UInt32.pos_iff_ne_zero.mpr hlayers
      by_cases hfaces : shape.faces = 6
      · exact ⟨.cubeArray, hdepth, hsome, hfaces⟩
      · exact ⟨.d2Array, hdepth, hsome, hfaces⟩
  · exact ⟨.d3, UInt32.pos_iff_ne_zero.mpr hdepth⟩

theorem exists_viewDimension (haxis : ¬ shape.HasNoAxis) :
    ∃ view, shape.viewDimension = .ok view := by
  obtain ⟨view, hview⟩ := exists_isViewedAs haxis
  exact ⟨view, viewDimension_of_isViewedAs hview⟩

theorem viewDimension_eq_ok_iff : shape.viewDimension = .ok view ↔ shape.IsViewedAs view := by
  constructor
  · intro hview
    by_cases haxis : shape.HasNoAxis
    · rw [viewDimension_of_hasNoAxis haxis] at hview
      cases hview
    · -- A condition that holds is answered with its view, so it is that of the answer.
      obtain ⟨other, hother⟩ := exists_isViewedAs haxis
      cases hview.symm.trans (viewDimension_of_isViewedAs hother)
      exact hother
  · exact viewDimension_of_isViewedAs

theorem viewDimension_eq_error_iff {error : TextureError} :
    shape.viewDimension = .error error ↔ shape.HasNoAxis ∧ error = .invalidShape shape := by
  by_cases haxis : shape.HasNoAxis
  · rw [viewDimension_of_hasNoAxis haxis]
    simp [haxis, eq_comm]
  · obtain ⟨view, hview⟩ := exists_viewDimension haxis
    simp [hview, haxis]

/-! ## Storage -/

private theorem IsSingle.faces_ne (hsingle : shape.IsSingle) : shape.faces ≠ 6 := by
  intro hfaces
  have hone := hsingle.1
  rw [hfaces] at hone
  exact absurd hone (by decide)

private theorem dimension_of_isSingle (hsingle : shape.IsSingle) :
    shape.dimension = if 0 < shape.height then .d2 else .d1 := by
  obtain ⟨hfaces, hlayers, hdepth⟩ := hsingle
  have hone : ¬ shape.faces > 1 := UInt32.not_lt.mpr hfaces
  simp [dimension, hone, hlayers, hdepth]

private theorem dimension_of_not_isSingle (hseveral : ¬ shape.IsSingle) :
    shape.dimension = .d3 := by
  apply if_pos
  simpa only [IsSingle, not_and_or, UInt32.not_le, ← UInt32.pos_iff_ne_zero] using hseveral

private theorem isSingle_of_dimension_ne (hstored : shape.dimension ≠ .d3) : shape.IsSingle := by
  by_contra hseveral
  exact hstored (dimension_of_not_isSingle hseveral)

private theorem dimension_of_faces (hdepth : shape.depth = 0) (hlayers : shape.layers = 0) :
    shape.dimension =
      if shape.faces ≤ 1 then if 0 < shape.height then .d2 else .d1 else .d3 := by
  split
  · next hfaces => exact dimension_of_isSingle ⟨hfaces, hlayers, hdepth⟩
  · next hfaces => exact dimension_of_not_isSingle fun hsingle => hfaces hsingle.1

private theorem dimension_of_isViewedAs (hview : shape.IsViewedAs view) :
    shape.dimension = view.storage shape.faces := by
  cases view with
  | d3 =>
    apply dimension_of_not_isSingle
    rintro ⟨_, _, hdepth⟩
    exact UInt32.pos_iff_ne_zero.mp hview hdepth
  | cube =>
    obtain ⟨_, _, hfaces⟩ := hview
    exact dimension_of_not_isSingle fun hsingle => hsingle.faces_ne hfaces
  | cubeArray | d2Array =>
    obtain ⟨_, hsome, _⟩ := hview
    apply dimension_of_not_isSingle
    rintro ⟨_, hlayers, _⟩
    exact UInt32.pos_iff_ne_zero.mp hsome hlayers
  | d2 =>
    obtain ⟨hdepth, hlayers, _, hheight⟩ := hview
    rw [dimension_of_faces hdepth hlayers, if_pos hheight]
    rfl
  | d1 =>
    obtain ⟨hdepth, hlayers, hheight, _, _⟩ := hview
    have hnone : ¬ 0 < shape.height := by simp [hheight]
    rw [dimension_of_faces hdepth hlayers, if_neg hnone]
    rfl

private theorem isViewedAs_of_dimension_d2 (hstored : shape.dimension = .d2) :
    shape.IsViewedAs .d2 := by
  have hsingle : shape.IsSingle := isSingle_of_dimension_ne (by simp [hstored])
  rw [dimension_of_isSingle hsingle] at hstored
  have hheight : 0 < shape.height := by
    by_contra hnone
    rw [if_neg hnone] at hstored
    cases hstored
  exact ⟨hsingle.2.2, hsingle.2.1, hsingle.faces_ne, hheight⟩

private theorem isViewedAs_of_dimension_d1 (hstored : shape.dimension = .d1) :
    shape.IsViewedAs .d1 ∨ shape.HasNoAxis := by
  have hsingle : shape.IsSingle := isSingle_of_dimension_ne (by simp [hstored])
  rw [dimension_of_isSingle hsingle] at hstored
  have hheight : shape.height = 0 := by
    by_contra hsome
    rw [if_pos (UInt32.pos_iff_ne_zero.mpr hsome)] at hstored
    cases hstored
  have hfaces := hsingle.faces_ne
  obtain ⟨_, hlayers, hdepth⟩ := hsingle
  by_cases hwidth : shape.width = 0
  · exact .inr ⟨hwidth, hheight, hdepth, hlayers, hfaces⟩
  · exact .inl ⟨hdepth, hlayers, hheight, hfaces, UInt32.pos_iff_ne_zero.mpr hwidth⟩

/-! ## Slices -/

/-- Faces times layers, each counted at least once: the slices that no level halves. -/
def arrayCount (shape : Shape) : Nat :=
  max 1 shape.faces.toNat * max 1 shape.layers.toNat

theorem arrayCount_pos (shape : Shape) : 0 < shape.arrayCount :=
  Nat.mul_pos (Nat.le_max_left 1 _) (Nat.le_max_left 1 _)

private theorem IsSingle.arrayCount_eq (hsingle : shape.IsSingle) : shape.arrayCount = 1 := by
  obtain ⟨hfaces, hlayers, _⟩ := hsingle
  have hone : shape.faces.toNat ≤ 1 := UInt32.le_iff_toNat_le.mp hfaces
  rw [arrayCount, hlayers, Nat.max_eq_left hone]
  rfl

theorem dimension_of_arrayCount (hseveral : 2 ≤ shape.arrayCount) : shape.dimension = .d3 := by
  apply dimension_of_not_isSingle
  intro hsingle
  have hone := hsingle.arrayCount_eq
  omega

theorem slices_eq (shape : Shape) (mip : UInt32) :
    shape.slices mip = shape.arrayCount * max 1 (max 1 shape.depth.toNat >>> mip.toNat) := by
  rw [slices, toNat_mipSize, max_one_shiftRight, arrayCount]

theorem slices_zero (shape : Shape) : shape.slices 0 =
    max 1 shape.faces.toNat * max 1 shape.layers.toNat * max 1 shape.depth.toNat := by
  rw [slices, toNat_mipSize, UInt32.toNat_zero, Nat.shiftRight_zero]

private theorem slices_of_depth_eq_zero (hdepth : shape.depth = 0) (mip : UInt32) :
    shape.slices mip = shape.arrayCount := by
  rw [slices, toNat_mipSize, hdepth, UInt32.toNat_zero, Nat.zero_shiftRight]
  exact Nat.mul_one _

private theorem slices_of_isSingle (hsingle : shape.IsSingle) (mip : UInt32) :
    shape.slices mip = 1 := by
  rw [slices_of_depth_eq_zero hsingle.2.2, hsingle.arrayCount_eq]

theorem baseExtent_eq (hsmall : shape.slices 0 < 2 ^ 32) :
    shape.baseExtent = .ok ⟨max shape.width 1, max shape.height 1, .ofNat (shape.slices 0)⟩ := by
  rw [baseExtent, sliceCount_eq_ok_iff.mpr (UInt32.toNat_ofNat_of_lt' hsmall).symm]
  rfl

theorem baseExtent_of_large (hlarge : 2 ^ 32 ≤ shape.slices 0) :
    shape.baseExtent = .error (.invalidShape shape) := by
  rw [baseExtent, sliceCount_eq_error_iff.mpr ⟨hlarge, rfl⟩]
  rfl

/-- A level has no more slices than the first, so it has a count of them where the first has. -/
theorem exists_sliceCount {base : UInt32} (hbase : shape.sliceCount 0 = .ok base) (mip : UInt32) :
    ∃ count, shape.sliceCount mip = .ok count ∧ shape.slices mip = count.toNat ∧ count ≤ base := by
  have hfirst := sliceCount_eq_ok_iff.mp hbase
  have hle : shape.slices mip ≤ base.toNat := hfirst ▸ shape.slices_antitone UInt32.zero_le
  have hword : (UInt32.ofNat (shape.slices mip)).toNat = shape.slices mip :=
    UInt32.toNat_ofNat_of_lt' (Nat.lt_of_le_of_lt hle base.toNat_lt)
  refine ⟨.ofNat (shape.slices mip), sliceCount_eq_ok_iff.mpr hword.symm, hword.symm, ?_⟩
  rwa [UInt32.le_iff_toNat_le, hword]

/-- The classes of shapes, for all counts. A shape is invalid exactly when it has no axis and no cube
faces; otherwise it has the one view whose condition its counts meet. Its view and its faces say how
it is stored, and back: what is stored flat is viewed as a picture or a line, or has no width either.
Where the slices of the first level can be counted, so can those of every other: one where storage is
flat, six for a cube, the faces of all layers for arrays, and no more than at first, in whole sets of
faces and layers, for volumes. -/
theorem classes_exact (shape : Shape) :
    (∀ error, shape.viewDimension = .error error ↔
        (shape.width = 0 ∧ shape.height = 0 ∧ shape.depth = 0 ∧ shape.layers = 0 ∧
          shape.faces ≠ 6) ∧ error = .invalidShape shape) ∧
      (∀ view, shape.viewDimension = .ok view ↔ shape.IsViewedAs view) ∧
      (∀ view, shape.viewDimension = .ok view → shape.dimension = view.storage shape.faces) ∧
      (shape.dimension = .d2 → shape.viewDimension = .ok .d2) ∧
      (shape.dimension = .d1 → shape.viewDimension = .ok .d1 ∨
        shape.viewDimension = .error (.invalidShape shape)) ∧
      ∀ base, shape.sliceCount 0 = .ok base → ∀ mip, ∃ count, shape.sliceCount mip = .ok count ∧
        (shape.dimension ≠ .d3 → count = 1) ∧
        (shape.viewDimension = .ok .cube → count = 6) ∧
        (shape.viewDimension = .ok .cubeArray → count.toNat = 6 * shape.layers.toNat) ∧
        (shape.viewDimension = .ok .d2Array →
          count.toNat = max 1 shape.faces.toNat * shape.layers.toNat) ∧
        (shape.viewDimension = .ok .d3 → count ≤ base ∧
          max 1 shape.faces.toNat * max 1 shape.layers.toNat ∣ count.toNat) := by
  refine ⟨fun _ => viewDimension_eq_error_iff, fun _ => viewDimension_eq_ok_iff, ?_, ?_, ?_, ?_⟩
  · intro view hview
    exact dimension_of_isViewedAs (viewDimension_eq_ok_iff.mp hview)
  · intro hstored
    exact viewDimension_of_isViewedAs (isViewedAs_of_dimension_d2 hstored)
  · intro hstored
    exact (isViewedAs_of_dimension_d1 hstored).imp viewDimension_of_isViewedAs
      viewDimension_of_hasNoAxis
  · intro base hbase mip
    obtain ⟨count, hcount, hslices, hle⟩ := exists_sliceCount hbase mip
    simp only [viewDimension_eq_ok_iff]
    refine ⟨count, hcount, ?_, ?_, ?_, ?_, ?_⟩
    · intro hflat
      rw [← UInt32.toNat_inj, ← hslices, slices_of_isSingle (isSingle_of_dimension_ne hflat)]
      rfl
    · rintro ⟨hdepth, hlayers, hfaces⟩
      rw [← UInt32.toNat_inj, ← hslices, slices_of_depth_eq_zero hdepth, arrayCount, hlayers,
        hfaces]
      rfl
    · rintro ⟨hdepth, hlayers, hfaces⟩
      have hsome : 1 ≤ shape.layers.toNat := UInt32.lt_iff_toNat_lt.mp hlayers
      rw [← hslices, slices_of_depth_eq_zero hdepth, arrayCount, hfaces, Nat.max_eq_right hsome]
      rfl
    · rintro ⟨hdepth, hlayers, _⟩
      have hsome : 1 ≤ shape.layers.toNat := UInt32.lt_iff_toNat_lt.mp hlayers
      rw [← hslices, slices_of_depth_eq_zero hdepth, arrayCount, Nat.max_eq_right hsome]
    · intro _
      refine ⟨hle, ?_⟩
      rw [← hslices, slices]
      exact Nat.dvd_mul_right _ _

/-- Three faces of a line are stored in three dimensions, a single one without a side is no shape. Six
faces make cubes of three layers, but not of a volume, whose depth is halved. -/
theorem classes_exact_faces :
    (viewDimension ⟨8, 0, 0, 0, 3⟩ = .ok .d1 ∧ dimension ⟨8, 0, 0, 0, 3⟩ = .d3) ∧
      viewDimension ⟨0, 0, 0, 0, 1⟩ = .error (.invalidShape ⟨0, 0, 0, 0, 1⟩) ∧
      (∃ count, sliceCount ⟨4, 4, 0, 3, 6⟩ 7 = .ok count ∧ count.toNat = 18) ∧
      ∃ count, sliceCount ⟨16, 16, 4, 0, 6⟩ 1 = .ok count ∧ count ≤ 24 ∧ 6 ∣ count.toNat := by
  obtain ⟨_, hviews, hstorage, _⟩ := classes_exact ⟨8, 0, 0, 0, 3⟩
  obtain ⟨hinvalid, _⟩ := classes_exact ⟨0, 0, 0, 0, 1⟩
  obtain ⟨_, hcubes, _, _, _, hcubeSlices⟩ := classes_exact ⟨4, 4, 0, 3, 6⟩
  obtain ⟨_, hvolume, _, _, _, hvolumeSlices⟩ := classes_exact ⟨16, 16, 4, 0, 6⟩
  have hline := (hviews .d1).mpr ⟨rfl, rfl, rfl, by decide, by decide⟩
  obtain ⟨count, hcount, _, _, hcubeArray, _⟩ := hcubeSlices 18 rfl 7
  obtain ⟨halved, hhalved, _, _, _, _, hdepth⟩ := hvolumeSlices 24 rfl 1
  refine ⟨⟨hline, hstorage _ hline⟩, ?_, ?_, ?_⟩
  · exact (hinvalid _).mpr ⟨⟨rfl, rfl, rfl, rfl, by decide⟩, rfl⟩
  · exact ⟨count, hcount, hcubeArray ((hcubes .cubeArray).mpr ⟨rfl, by decide, rfl⟩)⟩
  · exact ⟨halved, hhalved, hdepth ((hvolume .d3).mpr (by decide +kernel : (0 : UInt32) < 4))⟩

end Shape

end GpuTexture
