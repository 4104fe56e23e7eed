import GpuTexture.Image.Bmp.Header

/-!
# Runs of pixels

Rows of palette indices may be stored as commands of two bytes: a repeated index, indices spelt out,
a jump to the right and up, the end of a row, the end of the picture. Rows come bottom first. What a
command passes over is black, and a command that leaves its row or the picture is corrupt.
-/

namespace GpuTexture.Bmp

def black (count : Nat) : Bytes :=
  Bytes.tabulate (3 * count) fun _ => 0

def rowLength (row : Bytes) : Nat :=
  row.size / 3

def fillRow (width : Nat) (row : Bytes) : Bytes :=
  row ++ black (width - rowLength row)

def extendRow (width : Nat) (row pixels : Bytes) : Except Fault Bytes :=
  if width < rowLength row + rowLength pixels then .error (.malformed .corruptRuns)
  else .ok (row ++ pixels)

/-- The pixels of `count` indices of eight or four bits, the upper half of a byte first. -/
def indexedPixels (palette : Palette) (bits count : Nat) (stored : Nat → UInt8) : Bytes :=
  let index (place : Nat) : Nat :=
    if bits = 8 then (stored place).toNat
    else if place % 2 = 0 then (stored (place / 2)).toNat / 16
    else (stored (place / 2)).toNat % 16
  Bytes.appendEach (fun place => palette.append (index place)) count 0 .empty

/-- The bytes that spell out `count` indices, padded to an even number. -/
def speltSize (bits count : Nat) : Nat :=
  let size := if bits = 8 then count else (count + 1) / 2
  size + size % 2

/-- Follows commands: `left` is the number of rows above the current one, and `made` holds the rows
below it, the highest first. Every command takes two bytes at least, which bounds their number. -/
def scanRows (palette : Palette) (bits width : Nat) :
    Nat → Nat → Bytes → List Bytes → Scan (List Bytes)
  | 0, _, _, _ => throw .truncated
  | commands + 1, left, row, made => do
    let first ← Scan.byte
    let second ← Scan.byte
    match first.toNat, second.toNat with
    | 0, 0 =>
      let made := fillRow width row :: made
      match left with
      | 0 => return made
      | left + 1 => scanRows palette bits width commands left .empty made
    | 0, 1 => return List.replicate left (black width) ++ fillRow width row :: made
    | 0, 2 =>
      let right ← Scan.byte
      let up ← Scan.byte
      if left < up.toNat then throw (.malformed .corruptRuns)
      let made :=
        if up = 0 then made
        else List.replicate (up.toNat - 1) (black width) ++ fillRow width row :: made
      let row := if up = 0 then row else black (rowLength row)
      let row ← extendRow width row (black right.toNat)
      scanRows palette bits width commands (left - up.toNat) row made
    | 0, count =>
      let spelt ← Scan.bytes (speltSize bits count)
      let row ← extendRow width row (indexedPixels palette bits count (Bytes.byteAt spelt))
      scanRows palette bits width commands left row made
    | count, _ =>
      let row ← extendRow width row (indexedPixels palette bits count fun _ => second)
      scanRows palette bits width commands left row made

def decodeRuns (info : Info) (palette : Palette) (bytes : Bytes) : Except Fault Bytes := do
  let rows ← (scanRows palette info.storage.bits info.frame.width.toNat (bytes.size + 1)
    (info.frame.height.toNat - 1) .empty []).run' ⟨bytes, info.dataOffset⟩
  return Bytes.concat rows

end GpuTexture.Bmp
