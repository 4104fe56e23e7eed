import GpuTexture.Ktx2.LevelEntry
import GpuTexture.Level.Layout

/-!
# The order of the level index

Containers store the smallest level first, but some writers start with the base level. The index is
reversed into base-first order unless its lengths, as read, are those of a base-first index and the
reversed lengths are not.
-/

namespace GpuTexture

/-- The bytes that a mip level takes when tightly packed. -/
def levelSize (block : BlockLayout) (shape : Shape) (mip : UInt32) :
    Except TextureError Nat := do
  let level ← LevelLayout.compute block shape mip
  match level.byteSize? with
  | some size => return size
  | none => throw (.layoutOverflow mip)

def levelSizes (block : BlockLayout) (shape : Shape) (count : Nat) :
    Except TextureError (List Nat) :=
  (List.range count).mapM fun mip => levelSize block shape (UInt32.ofNat mip)

def lengthsMatch (entries : List LevelEntry) (sizes : List Nat) : Bool :=
  entries.map (fun entry => entry.byteLength.toNat) == sizes

/-- The entries of a level index with the base level first. -/
def baseFirst (block : BlockLayout) (shape : Shape) (entries : List LevelEntry) :
    Except TextureError (List LevelEntry) := do
  let sizes ← levelSizes block shape entries.length
  if lengthsMatch entries sizes && !lengthsMatch entries.reverse sizes then
    return entries
  else
    return entries.reverse

end GpuTexture
