/-!
# Extents and dimensions

The vocabulary of texture geometry: extents, origins, storage and view dimensions, aspects, and
the two roundings that every layout is made of: halving an axis per mip level, and covering texels
with whole blocks.
-/

namespace GpuTexture

/-- A size in texels, with depth or layer count as the third component. -/
structure Extent where
  width : UInt32
  height : UInt32
  depthOrArrayLayers : UInt32
deriving DecidableEq, Repr

structure Origin where
  x : UInt32
  y : UInt32
  z : UInt32
deriving DecidableEq, Repr

def Origin.zero : Origin :=
  ⟨0, 0, 0⟩

/-- How a texture is stored. -/
inductive TextureDimension where
  | d1 | d2 | d3
deriving DecidableEq, Repr

/-- How a texture is sampled. -/
inductive ViewDimension where
  | d1 | d2 | d2Array | cube | cubeArray | d3
deriving DecidableEq, Repr

inductive TextureAspect where
  | all | stencilOnly | depthOnly
deriving DecidableEq, Repr

namespace TextureDimension

def name : TextureDimension → String
  | .d1 => "D1"
  | .d2 => "D2"
  | .d3 => "D3"

def all : List TextureDimension :=
  [.d1, .d2, .d3]

def ofName? (text : String) : Option TextureDimension :=
  all.find? fun dimension => dimension.name == text

end TextureDimension

namespace ViewDimension

def name : ViewDimension → String
  | .d1 => "D1"
  | .d2 => "D2"
  | .d2Array => "D2Array"
  | .cube => "Cube"
  | .cubeArray => "CubeArray"
  | .d3 => "D3"

def all : List ViewDimension :=
  [.d1, .d2, .d2Array, .cube, .cubeArray, .d3]

def ofName? (text : String) : Option ViewDimension :=
  all.find? fun dimension => dimension.name == text

end ViewDimension

namespace TextureAspect

def name : TextureAspect → String
  | .all => "All"
  | .stencilOnly => "StencilOnly"
  | .depthOnly => "DepthOnly"

def ofName? (text : String) : Option TextureAspect :=
  [TextureAspect.all, .stencilOnly, .depthOnly].find? fun aspect => aspect.name == text

end TextureAspect

/-- A product of two words, unless it is longer than a word. -/
def checkedMul32? (first second : UInt32) : Option UInt32 :=
  if first.toNat * second.toNat < UInt32.size then some (first * second) else none

def checkedMul64? (first second : UInt64) : Option UInt64 :=
  if first.toNat * second.toNat < UInt64.size then some (first * second) else none

/-- One axis at a mip level: halved once per level, rounded down, never below one texel. No bit is
left after 32 levels. -/
def mipSize (base mip : UInt32) : UInt32 :=
  max (if mip < 32 then base >>> mip else 0) 1

/-- How many blocks cover `texels`, the last one perhaps in part. -/
def blockCount (texels block : UInt32) : UInt32 :=
  texels / block + if texels % block = 0 then 0 else 1

theorem checkedMul32?_eq_some_iff {first second product : UInt32} :
    checkedMul32? first second = some product ↔ first.toNat * second.toNat = product.toNat := by
  unfold checkedMul32?
  split
  · next hsmall =>
    rw [Option.some.injEq, ← UInt32.toNat_inj, UInt32.toNat_mul, Nat.mod_eq_of_lt hsmall]
  · next hlarge =>
    have hproduct := product.toNat_lt_size
    constructor
    · nofun
    · omega

theorem checkedMul32?_eq_none_iff {first second : UInt32} :
    checkedMul32? first second = none ↔ UInt32.size ≤ first.toNat * second.toNat := by
  simp [checkedMul32?]

theorem checkedMul64?_eq_some_iff {first second product : UInt64} :
    checkedMul64? first second = some product ↔ first.toNat * second.toNat = product.toNat := by
  unfold checkedMul64?
  split
  · next hsmall =>
    rw [Option.some.injEq, ← UInt64.toNat_inj, UInt64.toNat_mul, Nat.mod_eq_of_lt hsmall]
  · next hlarge =>
    have hproduct := product.toNat_lt_size
    constructor
    · nofun
    · omega

theorem checkedMul64?_eq_none_iff {first second : UInt64} :
    checkedMul64? first second = none ↔ UInt64.size ≤ first.toNat * second.toNat := by
  simp [checkedMul64?]

theorem shiftRight_eq_ite (word mip : UInt32) :
    word.toNat >>> mip.toNat = if mip.toNat < 32 then word.toNat >>> mip.toNat else 0 := by
  split
  · rfl
  · next hbeyond =>
    have hpowers := Nat.pow_le_pow_right Nat.zero_lt_two (Nat.not_lt.mp hbeyond)
    exact Nat.shiftRight_eq_zero _ _ (Nat.lt_of_lt_of_le word.toNat_lt hpowers)

theorem toNat_max_one (side : UInt32) : (max side 1).toNat = max 1 side.toNat := by
  change (if side ≤ 1 then 1 else side).toNat = _
  split
  · next hsmall =>
    rw [UInt32.le_iff_toNat_le, UInt32.toNat_one] at hsmall
    exact (Nat.max_eq_left hsmall).symm
  · next hlarge =>
    rw [UInt32.le_iff_toNat_le, UInt32.toNat_one] at hlarge
    exact (Nat.max_eq_right (Nat.le_of_not_le hlarge)).symm

theorem toNat_mipSize (base mip : UInt32) :
    (mipSize base mip).toNat = max 1 (base.toNat >>> mip.toNat) := by
  have hcut : mip < 32 ↔ mip.toNat < 32 := UInt32.lt_iff_toNat_lt
  rw [mipSize, toNat_max_one, shiftRight_eq_ite]
  simp only [hcut]
  split
  · next hsmall => rw [UInt32.toNat_shiftRight, Nat.mod_eq_of_lt hsmall]
  · rfl

end GpuTexture
