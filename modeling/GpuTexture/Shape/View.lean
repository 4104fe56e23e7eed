import GpuTexture.Error

/-!
# Views and slices of a shape

How a texture of given counts is sampled, and how many two-dimensional slices each of its mip
levels holds. Depth halves from level to level; faces and layers never do. The slices are multiplied
word by word, and this fails exactly when their number as a whole is more than a word.
-/

namespace GpuTexture.Shape

variable {shape : Shape} {mip : UInt32}

/-- Cubes win over plain arrays, arrays over volumes, volumes over flat pictures. -/
def viewDimension (shape : Shape) : Except TextureError ViewDimension :=
  if shape.faces = 6 ∧ shape.depth = 0 ∧ shape.layers = 0 then .ok .cube
  else if shape.faces = 6 ∧ shape.depth = 0 ∧ shape.layers > 0 then .ok .cubeArray
  else if shape.layers > 0 ∧ shape.depth = 0 then .ok .d2Array
  else if shape.depth > 0 then .ok .d3
  else if shape.height > 0 then .ok .d2
  else if shape.width > 0 ∧ shape.height = 0 ∧ shape.depth = 0 ∧ shape.layers = 0 then .ok .d1
  else .error (.invalidShape shape)

/-- Faces times layers times the depth of a mip level, each counted at least once. -/
def slices (shape : Shape) (mip : UInt32) : Nat :=
  max 1 shape.faces.toNat * max 1 shape.layers.toNat * (mipSize shape.depth mip).toNat

/-- The slices of a mip level, as a product that has to stay a word at every step. -/
def sliceCount? (shape : Shape) (mip : UInt32) : Option UInt32 :=
  (checkedMul32? (max shape.faces 1) (max shape.layers 1)).bind fun array =>
    checkedMul32? array (mipSize shape.depth mip)

def sliceCount (shape : Shape) (mip : UInt32) : Except TextureError UInt32 :=
  match shape.sliceCount? mip with
  | some count => .ok count
  | none => .error (.invalidShape shape)

def baseExtent (shape : Shape) : Except TextureError Extent := do
  let depthOrArrayLayers ← shape.sliceCount 0
  return ⟨max shape.width 1, max shape.height 1, depthOrArrayLayers⟩

/-- Where the earlier tests fail, those on height, depth and layers are met in the last one. -/
theorem viewDimension_of_flat (hfaces : shape.faces ≠ 6)
    (harray : ¬ (shape.layers > 0 ∧ shape.depth = 0)) (hvolume : ¬ shape.depth > 0)
    (hheight : ¬ shape.height > 0) :
    shape.viewDimension = if shape.width > 0 then .ok .d1 else .error (.invalidShape shape) := by
  have hnone : shape.height = 0 ∧ shape.depth = 0 ∧ shape.layers = 0 := by grind
  simp [viewDimension, hfaces, hnone]

theorem sliceCount?_eq_some_iff {count : UInt32} :
    shape.sliceCount? mip = some count ↔ shape.slices mip = count.toNat := by
  simp only [sliceCount?, Option.bind_eq_some_iff, checkedMul32?_eq_some_iff, toNat_max_one]
  constructor
  · rintro ⟨array, harray, hcount⟩
    rw [slices, harray, hcount]
  · intro hcount
    -- The depth counts at least once, so the whole product is no less than its first part.
    have hdepth : 1 ≤ (mipSize shape.depth mip).toNat := toNat_mipSize _ _ ▸ Nat.le_max_left 1 _
    have hsmall : shape.slices mip < UInt32.size := hcount ▸ count.toNat_lt_size
    have harray : max 1 shape.faces.toNat * max 1 shape.layers.toNat < UInt32.size :=
      Nat.lt_of_le_of_lt (Nat.le_mul_of_pos_right _ hdepth) hsmall
    refine ⟨.ofNat (max 1 shape.faces.toNat * max 1 shape.layers.toNat), ?_, ?_⟩
    · rw [UInt32.toNat_ofNat_of_lt' harray]
    · rw [UInt32.toNat_ofNat_of_lt' harray]
      exact hcount

theorem sliceCount?_eq_none_iff :
    shape.sliceCount? mip = none ↔ UInt32.size ≤ shape.slices mip := by
  constructor
  · intro hnone
    apply Nat.le_of_not_lt
    intro hsmall
    have hcount : shape.sliceCount? mip = some (.ofNat (shape.slices mip)) :=
      sliceCount?_eq_some_iff.mpr (UInt32.toNat_ofNat_of_lt' hsmall).symm
    rw [hnone] at hcount
    cases hcount
  · intro hlarge
    cases hcount : shape.sliceCount? mip with
    | none => rfl
    | some count =>
      have hsmall := count.toNat_lt_size
      rw [← sliceCount?_eq_some_iff.mp hcount] at hsmall
      omega

theorem sliceCount_eq_ok_iff {count : UInt32} :
    shape.sliceCount mip = .ok count ↔ shape.slices mip = count.toNat := by
  rw [← sliceCount?_eq_some_iff, sliceCount]
  cases shape.sliceCount? mip <;> simp

theorem sliceCount_eq_error_iff {error : TextureError} :
    shape.sliceCount mip = .error error ↔
      UInt32.size ≤ shape.slices mip ∧ error = .invalidShape shape := by
  rw [← sliceCount?_eq_none_iff, sliceCount]
  cases shape.sliceCount? mip <;> simp [eq_comm]

end GpuTexture.Shape
