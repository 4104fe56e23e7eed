import GpuTexture.Bytes.Cursor
import GpuTexture.Shape.Basic

/-!
# The fixed header of a container

Eighty bytes: an identifier of twelve, thirteen 32-bit words and two 64-bit words. A record holds
them as stored; `HeaderRecord.ofBlock` takes them from their offsets and `HeaderRecord.readFields`
reads them one after the other. A header is a record whose compression scheme is known.
-/

namespace GpuTexture

def ktx2Identifier : Bytes :=
  ⟨#[0xAB, 0x4B, 0x54, 0x58, 0x20, 0x32, 0x30, 0xBB, 0x0D, 0x0A, 0x1A, 0x0A]⟩

def isKtx2 (bytes : Bytes) : Bool :=
  bytes.extract 0 12 = ktx2Identifier

/-- Compression applied over the payload of every level. -/
inductive Supercompression where
  | none | basisLZ | zStandard | zLib
deriving DecidableEq, Repr

namespace Supercompression

def ofWord? : UInt32 → Option Supercompression
  | 0 => some .none
  | 1 => some .basisLZ
  | 2 => some .zStandard
  | 3 => some .zLib
  | _ => Option.none

def toWord : Supercompression → UInt32
  | .none => 0
  | .basisLZ => 1
  | .zStandard => 2
  | .zLib => 3

def name : Supercompression → String
  | .none => "None"
  | .basisLZ => "BasisLZ"
  | .zStandard => "ZStandard"
  | .zLib => "ZLib"

end Supercompression

/-- A byte range named by a header: where it starts and how long it is. -/
structure Span (word : Type) where
  offset : word
  length : word
deriving DecidableEq, Repr

structure HeaderRecord where
  identifier : Bytes
  vkFormat : UInt32
  typeSize : UInt32
  width : UInt32
  height : UInt32
  depth : UInt32
  layers : UInt32
  faces : UInt32
  levelCount : UInt32
  scheme : UInt32
  descriptorSpan : Span UInt32
  keyValueSpan : Span UInt32
  globalSpan : Span UInt64
deriving DecidableEq

namespace HeaderRecord

def size : Nat := 80

def ofBlock (block : Bytes) : HeaderRecord where
  identifier := block.extract 0 12
  vkFormat := Bytes.word32At 12 block
  typeSize := Bytes.word32At 16 block
  width := Bytes.word32At 20 block
  height := Bytes.word32At 24 block
  depth := Bytes.word32At 28 block
  layers := Bytes.word32At 32 block
  faces := Bytes.word32At 36 block
  levelCount := Bytes.word32At 40 block
  scheme := Bytes.word32At 44 block
  descriptorSpan := ⟨Bytes.word32At 48 block, Bytes.word32At 52 block⟩
  keyValueSpan := ⟨Bytes.word32At 56 block, Bytes.word32At 60 block⟩
  globalSpan := ⟨Bytes.word64At 64 block, Bytes.word64At 72 block⟩

def words (record : HeaderRecord) : List UInt32 :=
  [record.vkFormat, record.typeSize, record.width, record.height, record.depth, record.layers,
    record.faces, record.levelCount, record.scheme, record.descriptorSpan.offset,
    record.descriptorSpan.length, record.keyValueSpan.offset, record.keyValueSpan.length]

def longWords (record : HeaderRecord) : List UInt64 :=
  [record.globalSpan.offset, record.globalSpan.length]

def toBlock (record : HeaderRecord) : Bytes :=
  record.identifier ++ Bytes.concat (record.words.map Bytes.ofWord32) ++
    Bytes.concat (record.longWords.map Bytes.ofWord64)

/-- Reads a whole record, or nothing when fewer than eighty bytes are left. -/
def read : Reading HeaderRecord :=
  ofBlock <$> Reading.bytes size

def readFields : Reading HeaderRecord := do
  let identifier ← Reading.bytes 12
  let vkFormat ← Reading.word32
  let typeSize ← Reading.word32
  let width ← Reading.word32
  let height ← Reading.word32
  let depth ← Reading.word32
  let layers ← Reading.word32
  let faces ← Reading.word32
  let levelCount ← Reading.word32
  let scheme ← Reading.word32
  let descriptorOffset ← Reading.word32
  let descriptorLength ← Reading.word32
  let keyValueOffset ← Reading.word32
  let keyValueLength ← Reading.word32
  let globalOffset ← Reading.word64
  let globalLength ← Reading.word64
  return ⟨identifier, vkFormat, typeSize, width, height, depth, layers, faces, levelCount, scheme,
    ⟨descriptorOffset, descriptorLength⟩, ⟨keyValueOffset, keyValueLength⟩,
    ⟨globalOffset, globalLength⟩⟩

end HeaderRecord

/-- The fixed header of a container whose compression scheme is known. -/
structure Header where
  vkFormat : UInt32
  typeSize : UInt32
  width : UInt32
  height : UInt32
  depth : UInt32
  layers : UInt32
  faces : UInt32
  levelCount : UInt32
  scheme : Supercompression
  descriptorSpan : Span UInt32
  keyValueSpan : Span UInt32
  globalSpan : Span UInt64
deriving DecidableEq, Repr

namespace Header

/-- The header of a record, or the word of a scheme that is not known. -/
def ofRecord (record : HeaderRecord) : Except UInt32 Header :=
  match Supercompression.ofWord? record.scheme with
  | some scheme =>
    .ok ⟨record.vkFormat, record.typeSize, record.width, record.height, record.depth,
      record.layers, record.faces, record.levelCount, scheme, record.descriptorSpan,
      record.keyValueSpan, record.globalSpan⟩
  | none => .error record.scheme

def toRecord (identifier : Bytes) (header : Header) : HeaderRecord :=
  ⟨identifier, header.vkFormat, header.typeSize, header.width, header.height, header.depth,
    header.layers, header.faces, header.levelCount, header.scheme.toWord, header.descriptorSpan,
    header.keyValueSpan, header.globalSpan⟩

/-- How many levels are stored: a count of zero asks for generated levels below a stored one. -/
def storedLevelCount (header : Header) : UInt32 :=
  max header.levelCount 1

def shape (header : Header) : Shape :=
  ⟨header.width, header.height, header.depth, header.layers, header.faces⟩

theorem ofRecord_toRecord (identifier : Bytes) (header : Header) :
    ofRecord (header.toRecord identifier) = .ok header := by
  obtain ⟨_, _, _, _, _, _, _, _, scheme, _, _, _⟩ := header
  cases scheme <;> rfl

end Header

end GpuTexture
