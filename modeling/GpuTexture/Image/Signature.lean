import GpuTexture.Bytes.Basic

/-!
# Picture signatures

Encoded pictures are told apart by their leading bytes. A signature is a list of expected bytes, in
which a hole stands for any byte; the first signature that fits decides.
-/

namespace GpuTexture

inductive ImageFormat where
  | png | jpeg | gif | webP | tiff | dds | bmp | ico | hdr | avif | openExr | qoi | pnm | farbfeld
deriving DecidableEq, Repr

namespace ImageFormat

def name : ImageFormat → String
  | .png => "Png"
  | .jpeg => "Jpeg"
  | .gif => "Gif"
  | .webP => "WebP"
  | .tiff => "Tiff"
  | .dds => "Dds"
  | .bmp => "Bmp"
  | .ico => "Ico"
  | .hdr => "Hdr"
  | .avif => "Avif"
  | .openExr => "OpenExr"
  | .qoi => "Qoi"
  | .pnm => "Pnm"
  | .farbfeld => "Farbfeld"

/-- Expected bytes, with a hole for any byte. -/
abbrev Signature := List (Option UInt8)

def spelt (text : String) : Signature :=
  text.toList.map fun c => some (UInt8.ofNat c.toNat)

def exactly (bytes : List UInt8) : Signature :=
  bytes.map some

def anyBytes (count : Nat) : Signature :=
  List.replicate count none

/-- The signatures, in the order in which they are tried. -/
def signatures : List (Signature × ImageFormat) :=
  [(exactly [0x89, 0x50, 0x4E, 0x47, 0x0D, 0x0A, 0x1A, 0x0A], .png),
   (exactly [0xFF, 0xD8, 0xFF], .jpeg),
   (spelt "GIF89a", .gif),
   (spelt "GIF87a", .gif),
   (spelt "RIFF" ++ anyBytes 4 ++ spelt "WEBP", .webP),
   (exactly [0x4D, 0x4D, 0x00, 0x2A], .tiff),
   (exactly [0x49, 0x49, 0x2A, 0x00], .tiff),
   (spelt "DDS ", .dds),
   (spelt "BM", .bmp),
   (exactly [0x00, 0x00, 0x01, 0x00], .ico),
   (spelt "#?RADIANCE", .hdr),
   (exactly [0x00, 0x00] ++ anyBytes 2 ++ spelt "ftypavif", .avif),
   (exactly [0x76, 0x2F, 0x31, 0x01], .openExr),
   (spelt "qoif", .qoi),
   (spelt "P1", .pnm), (spelt "P2", .pnm), (spelt "P3", .pnm), (spelt "P4", .pnm),
   (spelt "P5", .pnm), (spelt "P6", .pnm), (spelt "P7", .pnm),
   (spelt "farbfeld", .farbfeld)]

def fits : Signature → List UInt8 → Bool
  | [], _ => true
  | _ :: _, [] => false
  | none :: expected, _ :: found => fits expected found
  | some byte :: expected, first :: found => byte == first && fits expected found

def opens (signature : Signature) (bytes : Bytes) : Bool :=
  fits signature (bytes.extract 0 signature.length).data.toList

def ofBytes? (bytes : Bytes) : Option ImageFormat :=
  (signatures.find? fun (signature, _) => opens signature bytes).map (·.2)

end ImageFormat

end GpuTexture
