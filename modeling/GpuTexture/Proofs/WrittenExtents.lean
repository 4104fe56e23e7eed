import Mathlib
import GpuTexture.Proofs.ExactLayout
import GpuTexture.Proofs.LevelAccess
import GpuTexture.Proofs.PlannedLevels

/-!
# Written levels and the texture they go into

A texture is created with the size of its base level, and every level is written with an extent of
its own. In width and height the two agree up to whole blocks. In the third component they are
different things: a texture stored in three dimensions halves it from level to level, while a write
counts slices, and faces and layers are never halved. A write stays within its level as long as there
is a single face and layer, or depth left to halve; an array without depth exceeds every level but
the first.
-/

namespace GpuTexture

/-! ## Halving a product -/

private theorem mul_shiftRight_le (array depth mip : Nat) :
    array * (depth >>> mip) ≤ (array * depth) >>> mip := by
  rw [Nat.shiftRight_eq_div_pow, Nat.shiftRight_eq_div_pow]
  exact Nat.mul_div_le_mul_div_assoc _ _ _

private theorem mul_shiftRight_lt {array depth mip : Nat} (hpos : 0 < array)
    (hgone : depth >>> mip = 0) :
    (array * depth) >>> mip < array := by
  rw [Nat.shiftRight_eq_div_pow, Nat.div_eq_zero_iff_lt (Nat.two_pow_pos mip)] at hgone
  rw [Nat.shiftRight_eq_div_pow, Nat.div_lt_iff_lt_mul (Nat.two_pow_pos mip)]
  exact Nat.mul_lt_mul_of_pos_left hgone hpos

/-- The slices of a level stay within the halved whole exactly when there is nothing but depth, or
depth left. -/
private theorem mul_max_shiftRight_le_iff {array depth mip : Nat} (hpos : 0 < array) :
    array * max 1 (depth >>> mip) ≤ max 1 ((array * depth) >>> mip) ↔
      array = 1 ∨ 1 ≤ depth >>> mip := by
  have hle := mul_shiftRight_le array depth mip
  rcases Nat.eq_zero_or_pos (depth >>> mip) with hgone | hleft
  · have hlt := mul_shiftRight_lt hpos hgone
    rw [hgone, Nat.max_eq_left (Nat.zero_le 1), Nat.mul_one]
    omega
  · rw [Nat.max_eq_right hleft]
    omega

private theorem halved_lt_of_flat {array mip : Nat} (hseveral : 2 ≤ array) (hlater : 1 ≤ mip) :
    max 1 ((array * 1) >>> mip) < array * max 1 (1 >>> mip) := by
  have hgone : 1 >>> mip = 0 := by
    rw [Nat.shiftRight_eq_div_pow]
    exact Nat.div_eq_of_lt (Nat.one_lt_two_pow (by omega))
  apply Nat.lt_of_not_le
  rw [mul_max_shiftRight_le_iff (by omega), hgone]
  omega

theorem BlockLayout.toNat_extent_of_compute {block : BlockLayout} {shape : Shape} {mip : UInt32}
    {level : LevelLayout} (hsides : block.HasSides)
    (hlevel : LevelLayout.compute block shape mip = .ok level) :
    level.extent.width.toNat =
        (max 1 (max 1 shape.width.toNat >>> mip.toNat) ⌈/⌉ block.width.toNat) *
          block.width.toNat ∧
      level.extent.height.toNat =
        (max 1 (max 1 shape.height.toNat >>> mip.toNat) ⌈/⌉ block.height.toNat) *
          block.height.toNat ∧
      level.extent.depthOrArrayLayers.toNat =
        shape.arrayCount * max 1 (max 1 shape.depth.toNat >>> mip.toNat) := by
  obtain ⟨_, _, _, hwidth, hheight, hslices⟩ := measures_of_compute hsides hlevel
  refine ⟨?_, ?_, ?_⟩
  · rw [hwidth, columns, max_one_shiftRight, Nat.ceilDiv_eq_add_pred_div]
  · rw [hheight, rows, max_one_shiftRight, Nat.ceilDiv_eq_add_pred_div]
  · rw [hslices, Shape.slices_eq]

namespace Container

variable {container : Container} {bytes : Bytes} {options : UploadOptions} {plan : UploadPlan}

theorem DecodedFrom.toNat_extent (hdecoded : container.DecodedFrom bytes) :
    container.extent.width.toNat = max 1 container.shape.width.toNat ∧
      container.extent.height.toNat = max 1 container.shape.height.toNat ∧
      container.extent.depthOrArrayLayers.toNat =
        container.shape.arrayCount * max 1 container.shape.depth.toNat := by
  have hbase := hdecoded.extent_eq
  rw [Shape.baseExtent_eq hdecoded.slices_lt, Except.ok.injEq] at hbase
  rw [← hbase]
  refine ⟨?_, ?_, ?_⟩
  · exact toNat_max_one container.shape.width
  · exact toNat_max_one container.shape.height
  · rw [UInt32.toNat_ofNat_of_lt' hdecoded.slices_lt, Shape.slices_zero, Shape.arrayCount]

private theorem exists_compute_of_build
    (hplan : UploadPlan.build container.toSource options = .ok plan)
    {mip : Nat} (hmip : mip < plan.levels.length) :
    ∃ level, LevelLayout.compute container.block container.shape (.ofNat mip) = .ok level ∧
      (UInt32.ofNat mip).toNat = mip ∧ plan.levels[mip].mip = .ofNat mip ∧
      plan.levels[mip].extent = level.extent := by
  obtain ⟨_, hlength, hlevels⟩ := UploadPlan.build_eq_ok_iff.mp hplan
  obtain ⟨level, data, _, hlevel, _, _, _, hplanned⟩ :=
    PlannedLevel.ofSource_eq_ok_iff.mp (hlevels mip hmip)
  obtain ⟨_, _, hcompute⟩ := Outcome.bind_eq_ok_iff.mp hlevel
  rw [hplanned]
  exact ⟨level, hcompute, (ofNat_lt_word (hlength ▸ hmip)).2, rfl, rfl⟩

/-- What a plan of a decoded container writes, beside the texture it creates. In width and height a
level is written in the whole blocks that cover this level of the texture. The texture has the slices
of its base level in its third component; a write has all faces and layers, times the depth that is
left. It stays within the halved component exactly when there is one face and layer at most, and is
then equal to it, or when depth is left; so an array without depth, stored in three dimensions,
exceeds every level but the first. A word has no bits beyond the thirty-second, so any further shift
leaves nothing. -/
theorem writes_of_decode (haccepted : decode bytes = .ok container)
    (hplan : UploadPlan.build container.toSource options = .ok plan) :
    let size := plan.descriptor.size
    let block := container.block
    let array := max 1 container.shape.faces.toNat * max 1 container.shape.layers.toNat
    let depth := max 1 container.shape.depth.toNat
    plan.descriptor.format.blockLayout? = some block ∧
      size.depthOrArrayLayers.toNat = array * depth ∧
      ∀ mip (hmip : mip < plan.levels.length),
        let write := plan.levels[mip]
        let slices := write.extent.depthOrArrayLayers.toNat
        let levelDepth := max 1 (size.depthOrArrayLayers.toNat >>> mip)
        write.mip.toNat = mip ∧
        write.extent.width.toNat =
          (max 1 (size.width.toNat >>> mip) ⌈/⌉ block.width.toNat) * block.width.toNat ∧
        write.extent.height.toNat =
          (max 1 (size.height.toNat >>> mip) ⌈/⌉ block.height.toNat) * block.height.toNat ∧
        slices = array * max 1 (depth >>> mip) ∧
        (slices ≤ levelDepth ↔ array = 1 ∨ 1 ≤ depth >>> mip) ∧
        (array = 1 → slices = levelDepth) ∧
        (container.shape.depth = 0 → 2 ≤ array →
          plan.descriptor.dimension = .d3 ∧ (1 ≤ mip → levelDepth < slices)) := by
  intro size block array depth
  have hdecoded := DecodedFrom.of_decode haccepted
  obtain ⟨hdescriptor, _, _⟩ := UploadPlan.build_eq_ok_iff.mp hplan
  have hsize : size = container.extent := congrArg TextureDescriptor.size hdescriptor
  have hdimension : plan.descriptor.dimension = container.shape.dimension :=
    congrArg TextureDescriptor.dimension hdescriptor
  obtain ⟨hwidth, hheight, hdepth⟩ := hdecoded.toNat_extent
  rw [← hsize] at hwidth hheight hdepth
  change _ = array * depth at hdepth
  refine ⟨?_, hdepth, ?_⟩
  · rw [hdescriptor]
    exact hdecoded.block_eq
  intro mip hmip write slices levelDepth
  obtain ⟨level, hlevel, hword, hnumber, hextent⟩ := exists_compute_of_build hplan hmip
  obtain ⟨hcolumns, hrows, hslices⟩ :=
    BlockLayout.toNat_extent_of_compute hdecoded.hasSides hlevel
  rw [← hextent, hword] at hcolumns hrows hslices
  rw [← hwidth] at hcolumns
  rw [← hheight] at hrows
  have hslices : slices = array * max 1 (depth >>> mip) := hslices
  have hlevelDepth : levelDepth = max 1 ((array * depth) >>> mip) :=
    congrArg (fun whole => max 1 (whole >>> mip)) hdepth
  refine ⟨?_, hcolumns, hrows, hslices, ?_, ?_, ?_⟩
  · change plan.levels[mip].mip.toNat = mip
    rw [hnumber, hword]
  · rw [hslices, hlevelDepth]
    exact mul_max_shiftRight_le_iff container.shape.arrayCount_pos
  · intro hone
    rw [hslices, hlevelDepth, hone, Nat.one_mul, Nat.one_mul]
  · intro hflat hseveral
    have hone : depth = 1 := by simp [depth, hflat]
    refine ⟨hdimension.trans (Shape.dimension_of_arrayCount hseveral), fun hlater => ?_⟩
    rw [hslices, hlevelDepth, hone]
    exact halved_lt_of_flat hseveral hlater

end Container

def Draft.twoLayers : Draft where
  header := ⟨9, 1, 2, 1, 0, 2, 1, 2, .none, ⟨0, 0⟩, ⟨0, 0⟩, ⟨0, 0⟩⟩
  payloads := [⟨#[10, 20, 30, 40]⟩, ⟨#[15, 35]⟩]
  order := .smallestFirst

/-- Both layers of the second level are written, into a texture that has one slice left there. -/
theorem Container.writes_of_twoLayers :
    ∃ container plan, decode Draft.twoLayers.write = .ok container ∧
      UploadPlan.build container.toSource (.ofUsage .textureBinding) = .ok plan ∧
      plan.descriptor.dimension = .d3 ∧ plan.descriptor.size.depthOrArrayLayers.toNat = 2 ∧
      ∃ hmip : 1 < plan.levels.length,
        plan.levels[1].extent.depthOrArrayLayers.toNat = 2 ∧
        max 1 (plan.descriptor.size.depthOrArrayLayers.toNat >>> 1) <
          plan.levels[1].extent.depthOrArrayLayers.toNat := by
  have hbuilt : (decode Draft.twoLayers.write).toOption.map (fun container =>
      (container.shape, (UploadPlan.build container.toSource (.ofUsage .textureBinding)).toOption.map
        fun plan => plan.levels.length)) = some (⟨2, 1, 0, 2, 1⟩, some 2) := by
    decide +kernel
  obtain ⟨container, haccepted, hshown⟩ := Outcome.exists_ok_of_toOption_map hbuilt
  rw [Prod.mk.injEq] at hshown
  obtain ⟨hshape, hplanned⟩ := hshown
  obtain ⟨plan, hplan, hlength⟩ := Outcome.exists_ok_of_toOption_map hplanned
  have hmip : 1 < plan.levels.length := by simp [hlength]
  obtain ⟨_, hsize, hwrites⟩ := writes_of_decode haccepted hplan
  obtain ⟨_, _, _, hslices, _, _, hexceeds⟩ := hwrites 1 hmip
  rw [hshape] at hsize hslices hexceeds
  obtain ⟨hdimension, hless⟩ := hexceeds rfl (by decide)
  exact ⟨container, plan, haccepted, hplan, hdimension, hsize, hmip, hslices, hless (by decide)⟩

end GpuTexture
