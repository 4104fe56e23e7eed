import GpuTexture.Image.Basic
import GpuTexture.Ktx2.Container

/-!
# Loading textures

The leading bytes choose the reader: what opens with the container identifier is a container, all
else is a picture. The decoder of pictures is a parameter, so that what is said of loading holds
for any of them.
-/

namespace GpuTexture

/-- A decoder of encoded pictures. -/
abbrev PictureDecoder := Bytes → Except ImageError RgbaImage

inductive LoadError where
  | file (error : FileError)
  | container (error : ContainerError)
  | image (error : ImageError)
deriving DecidableEq

def LoadError.message : LoadError → String
  | .file error => s!"I/O error: {error.message}"
  | .container error => s!"KTX2: {error.message}"
  | .image error => s!"image: {error.message}"

def loadWith (decodePicture : PictureDecoder) (bytes : Bytes) : Except LoadError TextureSource :=
  if isKtx2 bytes then
    ((Container.decode bytes).map Container.toSource).mapError .container
  else
    ((decodePicture bytes).map RgbaImage.toSource).mapError .image

def load (bytes : Bytes) : Except LoadError TextureSource :=
  loadWith RgbaImage.decode bytes

def openWith (decodePicture : PictureDecoder) (file : Except FileError Bytes) :
    Except LoadError TextureSource := do
  let bytes ← file.mapError .file
  loadWith decodePicture bytes

end GpuTexture
