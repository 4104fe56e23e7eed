/-!
# Texture usages

A set of ways in which a texture may be used, kept as a bit mask. The bits are those of the native
interface, so a mask passes through unchanged; bits without a name are kept as well.
-/

namespace GpuTexture

structure TextureUsages where
  bits : UInt32
deriving DecidableEq, Repr

namespace TextureUsages

def empty : TextureUsages := ⟨0⟩
def copySrc : TextureUsages := ⟨0x01⟩
def copyDst : TextureUsages := ⟨0x02⟩
def textureBinding : TextureUsages := ⟨0x04⟩
def storageBinding : TextureUsages := ⟨0x08⟩
def renderAttachment : TextureUsages := ⟨0x10⟩

/-- The named usages, lowest bit first. -/
def named : List (String × TextureUsages) :=
  [("COPY_SRC", copySrc), ("COPY_DST", copyDst), ("TEXTURE_BINDING", textureBinding),
    ("STORAGE_BINDING", storageBinding), ("RENDER_ATTACHMENT", renderAttachment)]

def knownBits : UInt32 := 0x1F

/-- The usages of a mask, unless it has a bit without a name. -/
def ofBits? (bits : UInt32) : Option TextureUsages :=
  if bits &&& ~~~knownBits = 0 then some ⟨bits⟩ else none

def truncate (bits : UInt32) : TextureUsages :=
  ⟨bits &&& knownBits⟩

def union (a b : TextureUsages) : TextureUsages :=
  ⟨a.bits ||| b.bits⟩

def intersection (a b : TextureUsages) : TextureUsages :=
  ⟨a.bits &&& b.bits⟩

def difference (a b : TextureUsages) : TextureUsages :=
  ⟨a.bits &&& ~~~b.bits⟩

def symmetricDifference (a b : TextureUsages) : TextureUsages :=
  ⟨a.bits ^^^ b.bits⟩

def complement (a : TextureUsages) : TextureUsages :=
  truncate (~~~a.bits)

def contains (a b : TextureUsages) : Bool :=
  a.bits &&& b.bits == b.bits

def intersects (a b : TextureUsages) : Bool :=
  a.bits &&& b.bits != 0

def isEmpty (a : TextureUsages) : Bool :=
  a.bits == 0

def isAll (a : TextureUsages) : Bool :=
  a.contains ⟨knownBits⟩

def names (a : TextureUsages) : List String :=
  (named.filter fun (_, usage) => a.contains usage).map (·.1)

/-- The names, then the bits without a name as one hexadecimal number; an empty set is `0x0`. -/
def text (a : TextureUsages) : String :=
  let hex (bits : UInt32) := "0x" ++ String.ofList (Nat.toDigits 16 bits.toNat)
  let rest := a.bits &&& ~~~knownBits
  let parts := a.names ++ if rest = 0 then [] else [hex rest]
  let inner := if parts.isEmpty then hex 0 else " | ".intercalate parts
  "TextureUsages(" ++ inner ++ ")"

end TextureUsages

end GpuTexture
