import GpuTexture.Bytes.Cursor
import GpuTexture.Error
import GpuTexture.File

/-!
# What can be wrong with a container

The causes for which bytes are not a container this library reads, and their wording.
-/

namespace GpuTexture

inductive ContainerError where
  | file (error : FileError)
  | invalidIdentifier (actual : Bytes)
  | unsupportedFormat (code : UInt32)
  | truncated (offset length available : Nat)
  | texture (error : TextureError)
deriving DecidableEq

namespace ContainerError

/-- A refused read means that a declared part reaches beyond the bytes at hand. -/
def ofReadError (error : ReadError) : ContainerError :=
  .truncated error.offset error.needed error.length

def hexPair (byte : UInt8) : String :=
  let digit (n : Nat) : Char := Char.ofNat (if n < 10 then 48 + n else 55 + n)
  String.ofList [digit (byte.toNat / 16), digit (byte.toNat % 16)]

def message : ContainerError → String
  | .file error => s!"I/O error: {error.message}"
  | .invalidIdentifier actual =>
    "invalid KTX2 identifier: got [" ++ ", ".intercalate (actual.data.toList.map hexPair) ++ "]"
  | .unsupportedFormat code => s!"unsupported vkFormat: {code}"
  | .truncated offset length available =>
    s!"truncated data: {length} bytes at offset {offset} exceed the {available}-byte input"
  | .texture error => error.message

end ContainerError

end GpuTexture
