import Mathlib
import GpuTexture.Proofs.LevelAccess

/-!
# Cutting and extending container bytes

A container uses its bytes up to the end of its header, its index and its last payload. Bytes that
agree so far are decoded alike, whatever stands behind: more of them change nothing, and fewer do not
either until the first used byte is missing.
-/

namespace GpuTexture

structure Bytes.SharePrefix (length : Nat) (bytes other : Bytes) : Prop where
  left_le : length ≤ bytes.size
  right_le : length ≤ other.size
  extract_eq : other.extract 0 length = bytes.extract 0 length

namespace Bytes.SharePrefix

variable {length : Nat} {bytes other : Bytes}

theorem extract (hshare : SharePrefix length bytes other) {first last : Nat}
    (hlast : last ≤ length) : other.extract first last = bytes.extract first last := by
  have hcut : ∀ run : Bytes,
      (run.extract 0 length).extract first last = run.extract first last := by
    intro run
    rw [ByteArray.extract_extract, Nat.zero_add, Nat.zero_add, Nat.min_eq_left hlast]
  rw [← hcut other, hshare.extract_eq, hcut bytes]

private theorem mono (hshare : SharePrefix length bytes other) {shorter : Nat}
    (hle : shorter ≤ length) :
    SharePrefix shorter bytes other :=
  ⟨hle.trans hshare.left_le, hle.trans hshare.right_le, hshare.extract hle⟩

private theorem of_extract {size : Nat} (hlength : length ≤ size) (hsize : size ≤ bytes.size) :
    SharePrefix length bytes (bytes.extract 0 size) where
  left_le := hlength.trans hsize
  right_le := by simpa [hsize] using hlength
  extract_eq := by
    rw [ByteArray.extract_extract, Nat.zero_add, Nat.zero_add, Nat.min_eq_left hlength]

private theorem of_append (hlength : length ≤ bytes.size) (tail : Bytes) :
    SharePrefix length bytes (bytes ++ tail) where
  left_le := hlength
  right_le := by
    rw [ByteArray.size_append]
    omega
  extract_eq := by
    have hcut : (bytes ++ tail).extract 0 bytes.size = bytes := ByteArray.extract_append_eq_left rfl
    have hinner := ByteArray.extract_extract (a := bytes ++ tail) (i := 0) (j := bytes.size)
      (k := 0) (l := length)
    rw [hcut, Nat.zero_add, Nat.zero_add, Nat.min_eq_left hlength] at hinner
    exact hinner.symm

theorem record_eq (hshare : SharePrefix length bytes other) (hlong : 80 ≤ length) :
    HeaderRecord.ofBlock other = HeaderRecord.ofBlock bytes := by
  rw [← HeaderRecord.ofBlock_extract (hlong.trans hshare.right_le), hshare.extract hlong,
    HeaderRecord.ofBlock_extract (hlong.trans hshare.left_le)]

private theorem indexAt_eq (hshare : SharePrefix length bytes other) {count position : Nat}
    (hindex : position + 24 * count ≤ length) :
    LevelEntry.indexAt count position other = LevelEntry.indexAt count position bytes := by
  apply List.map_congr_left
  intro i hi
  have hlast : position + 24 * i + 24 ≤ length := by
    have hbelow := List.mem_range.mp hi
    omega
  rw [← LevelEntry.ofBlock_extract (hlast.trans hshare.right_le), hshare.extract hlast,
    LevelEntry.ofBlock_extract (hlast.trans hshare.left_le)]

end Bytes.SharePrefix

private theorem Header.ReadFrom.of_sharePrefix {header : Header} {bytes other : Bytes}
    (hread : header.ReadFrom bytes) (hshare : Bytes.SharePrefix 80 bytes other) :
    header.ReadFrom other := by
  have hrecord := hshare.record_eq le_rfl
  refine ⟨?_, hshare.right_le, ?_, ?_⟩
  · rw [hshare.extract (by decide), hread.identifier_eq]
  · rw [hrecord, hread.ofRecord_eq]
  · rw [hrecord, hread.record_eq]

namespace Container

/-- How many bytes a container uses: its header and index, and all its payloads. -/
def usedSize (container : Container) : Nat :=
  (container.levels.toList.map LevelEntry.byteEnd).foldr max (80 + 24 * container.levelCount.toNat)

/-- Two containers that may differ in their bytes, but in nothing that they tell about a texture. -/
structure SameTexture (container other : Container) : Prop where
  header_eq : other.header = container.header
  format_eq : other.format = container.format
  block_eq : other.block = container.block
  view_eq : other.view = container.view
  extent_eq : other.extent = container.extent
  levels_eq : other.levels = container.levels
  level_eq : ∀ mip, other.level mip = container.level mip
  levelLayout_eq : ∀ mip, other.levelLayout mip = container.levelLayout mip
  levelData_eq : ∀ mip, other.levelData mip = container.levelData mip

variable {container other : Container} {bytes run : Bytes} {size : Nat}

theorem decode_of_short_identifier (hshort : run.size < 12) :
    decode run = .error (.invalidIdentifier run) := by
  have hother : run.extract 0 12 ≠ ktx2Identifier := by
    intro hsame
    have hlength := congrArg ByteArray.size hsame
    have htwelve : ktx2Identifier.size = 12 := rfl
    rw [ByteArray.size_extract, htwelve] at hlength
    omega
  rw [decode, readHeader_eq, if_pos hother, Nat.min_eq_right hshort.le, ByteArray.extract_zero_size]
  rfl

theorem decode_of_short_header (hopens : run.extract 0 12 = ktx2Identifier)
    (hshort : run.size < 80) : decode run = .error (.truncated 0 80 run.size) := by
  rw [decode, readHeader_eq, if_neg (not_not.mpr hopens), if_pos hshort]
  rfl

private theorem usedSize_le_iff : container.usedSize ≤ size ↔
    80 + 24 * container.levelCount.toNat ≤ size ∧
      ∀ entry ∈ container.levels.toList, entry.byteEnd ≤ size := by
  rw [usedSize]
  induction container.levels.toList with
  | nil => simp
  | cons entry rest ih =>
    rw [List.map_cons, List.foldr_cons, max_le_iff, ih, List.forall_mem_cons]
    tauto

namespace DecodedFrom

theorem usedSize_le (hdecoded : container.DecodedFrom bytes) :
    container.usedSize ≤ bytes.size := by
  rw [usedSize_le_iff, hdecoded.toNat_levelCount_eq_stored]
  exact ⟨hdecoded.index_le, hdecoded.inside⟩

theorem sameTexture (hdecoded : container.DecodedFrom bytes) (hother : other.DecodedFrom run)
    (hshare : Bytes.SharePrefix container.usedSize bytes run) : container.SameTexture other := by
  obtain ⟨hindex, hends⟩ := usedSize_le_iff.mp (le_refl container.usedSize)
  have hheader : other.header = container.header := by
    apply Header.toRecord_injective ktx2Identifier
    rw [hother.record_eq, hdecoded.record_eq, hshare.record_eq (by omega)]
  have hshape : other.shape = container.shape := congrArg Header.shape hheader
  have hfacts := hdecoded.hasFacts.unique hother.hasFacts (by rw [hheader]) hshape
  obtain ⟨hformat, hblock, hview, hextent⟩ := HeaderFacts.mk.inj hfacts
  have hlevels : other.levels = container.levels := by
    rw [← Array.toList_inj, hother.levels_eq, hdecoded.levels_eq, hblock, hshape, hheader,
      ← hdecoded.toNat_levelCount_eq_stored, hshare.indexAt_eq hindex]
  have hcount : other.levelCount = container.levelCount := by rw [levelCount, hlevels, levelCount]
  refine ⟨hheader, hformat, hblock, hview, hextent, hlevels, ?_, ?_, ?_⟩
  · intro mip
    by_cases hmip : mip < container.levelCount
    · obtain ⟨entry, hentry, _⟩ := hdecoded.exists_entry hmip
      rw [level_eq_ok hmip hentry, level_eq_ok (hcount ▸ hmip) (hlevels ▸ hentry)]
    · have hbeyond := UInt32.not_lt.mp hmip
      rw [(access_eq_error hbeyond).1, (access_eq_error (hcount ▸ hbeyond)).1, hcount]
  · intro mip
    rw [levelLayout, levelLayout, hcount, hblock, hshape]
  · intro mip
    by_cases hmip : mip < container.levelCount
    · obtain ⟨entry, hentry, _, _, _, hdata, _⟩ := hdecoded.access_eq_ok hmip
      obtain ⟨copy, hcopy, _, _, _, hsame, _⟩ := hother.access_eq_ok (hcount ▸ hmip)
      rw [hlevels, hentry, Option.some.injEq] at hcopy
      subst hcopy
      have hlisted : entry ∈ container.levels.toList := by
        rw [← Array.getElem?_toList] at hentry
        exact List.mem_of_getElem? hentry
      rw [hdata, hsame, hshare.extract (hends entry hlisted)]
    · have hbeyond := UInt32.not_lt.mp hmip
      rw [(access_eq_error hbeyond).2.1, (access_eq_error (hcount ▸ hbeyond)).2.1, hcount]

private theorem decode_eq (hdecoded : container.DecodedFrom bytes)
    (hshare : Bytes.SharePrefix 80 bytes run) : decode run =
      if run.size < 80 + 24 * container.levelCount.toNat then
        .error (.truncated (80 + 24 * ((run.size - 80) / 24)) 24 run.size)
      else assemble run container.header
        ⟨container.format, container.block, container.view, container.extent⟩
        (container.block.orderedEntries container.shape
          (LevelEntry.indexAt container.levelCount.toNat 80 run)) := by
  have hread := hdecoded.readFrom.of_sharePrefix hshare
  have hfits : container.block.Fits container.header.shape 0 := hdecoded.fits
  rw [decode_of_hasFacts hread hdecoded.hasFacts, hdecoded.toNat_levelCount_eq_stored]
  dsimp only
  rw [if_neg (not_not.mpr hfits)]
  rfl

private theorem decode_eq_assemble (hdecoded : container.DecodedFrom bytes)
    (hshare : Bytes.SharePrefix (80 + 24 * container.levelCount.toNat) bytes run) :
    decode run = assemble run container.header
      ⟨container.format, container.block, container.view, container.extent⟩
      container.levels.toList := by
  have hlevels := hdecoded.levels_eq
  rw [← hdecoded.toNat_levelCount_eq_stored] at hlevels
  rw [hdecoded.decode_eq (hshare.mono (Nat.le_add_right _ _)), if_neg hshare.right_le.not_gt,
    hshare.indexAt_eq le_rfl, hlevels]

/-- No byte behind the used ones takes part in decoding. -/
private theorem exists_decode (hdecoded : container.DecodedFrom bytes)
    (hshare : Bytes.SharePrefix container.usedSize bytes run) :
    ∃ other, decode run = .ok other ∧ container.SameTexture other := by
  obtain ⟨hindex, _⟩ := usedSize_le_iff.mp (le_refl container.usedSize)
  obtain ⟨_, hinside⟩ := usedSize_le_iff.mp hshare.right_le
  have hdecode := hdecoded.decode_eq_assemble (hshare.mono hindex)
  obtain ⟨other, haccepted, _⟩ := exists_assemble container.header
    ⟨container.format, container.block, container.view, container.extent⟩ hinside
  rw [haccepted] at hdecode
  exact ⟨other, hdecode, hdecoded.sameTexture (.of_decode hdecode) hshare⟩

private theorem decode_eq_truncated (hdecoded : container.DecodedFrom bytes)
    (hshare : Bytes.SharePrefix (80 + 24 * container.levelCount.toNat) bytes run)
    (hbeyond : ∃ entry ∈ container.levels.toList, run.size < entry.byteEnd) :
    ∃ entry ∈ container.levels.toList, run.size < entry.byteEnd ∧
      decode run = .error (.truncated entry.byteOffset.toNat entry.byteLength.toNat run.size) := by
  rw [hdecoded.decode_eq_assemble hshare]
  cases hfirst : container.levels.toList.find? (fun entry =>
      decide (run.size < entry.byteOffset.toNat + entry.byteLength.toNat)) with
  | none =>
    obtain ⟨entry, hentry, hend⟩ := hbeyond
    exact absurd (decide_eq_true hend) (List.find?_eq_none.mp hfirst entry hentry)
  | some entry =>
    have hend := List.find?_some hfirst
    simp only [decide_eq_true_eq] at hend
    exact ⟨entry, List.mem_of_find?_eq_some hfirst, hend, assemble_eq_error hfirst⟩

/-- Bytes that end before the last used one are cut off in the header, the index or a payload. -/
private theorem decode_extract_eq_truncated (hdecoded : container.DecodedFrom bytes)
    (hsize : size ≤ bytes.size) (hshort : size < container.usedSize) (hidentifier : 12 ≤ size) :
    ∃ offset length, decode (bytes.extract 0 size) = .error (.truncated offset length size) := by
  have hcut : (bytes.extract 0 size).size = size := by simpa using hsize
  by_cases hheader : size < 80
  · have hshare : Bytes.SharePrefix 12 bytes (bytes.extract 0 size) := .of_extract hidentifier hsize
    have hopens : (bytes.extract 0 size).extract 0 12 = ktx2Identifier := by
      rw [hshare.extract le_rfl, hdecoded.readFrom.identifier_eq]
    rw [decode_of_short_header hopens (by omega), hcut]
    exact ⟨_, _, rfl⟩
  by_cases hindex : size < 80 + 24 * container.levelCount.toNat
  · rw [hdecoded.decode_eq (.of_extract (Nat.le_of_not_lt hheader) hsize), hcut, if_pos hindex]
    exact ⟨_, _, rfl⟩
  have hindex := Nat.le_of_not_lt hindex
  have hbeyond : ∃ entry ∈ container.levels.toList, (bytes.extract 0 size).size < entry.byteEnd := by
    by_contra hnone
    refine hshort.not_ge (usedSize_le_iff.mpr ⟨hindex, fun entry hentry => ?_⟩)
    by_contra hend
    exact hnone ⟨entry, hentry, by omega⟩
  obtain ⟨entry, _, _, hrefused⟩ := hdecoded.decode_eq_truncated (.of_extract hindex hsize) hbeyond
  rw [hrefused, hcut]
  exact ⟨_, _, rfl⟩

end DecodedFrom

/-- Cutting off and extending the bytes of a container. Its first bytes are decoded exactly when they
reach the end of what it uses, and otherwise refused: within the identifier for that, and behind it
for being cut off. Whatever is decoded, from fewer bytes or from more, is the same texture. -/
theorem decode_extract_of_decode (haccepted : decode bytes = .ok container) :
    (∀ size, size ≤ bytes.size →
      ((∃ other, decode (bytes.extract 0 size) = .ok other) ↔ container.usedSize ≤ size) ∧
      (∀ other, decode (bytes.extract 0 size) = .ok other → container.SameTexture other) ∧
      (size < container.usedSize → size < 12 →
        decode (bytes.extract 0 size) = .error (.invalidIdentifier (bytes.extract 0 size))) ∧
      (size < container.usedSize → 12 ≤ size → ∃ offset length,
        decode (bytes.extract 0 size) = .error (.truncated offset length size))) ∧
    ∀ tail, ∃ other, decode (bytes ++ tail) = .ok other ∧ container.SameTexture other := by
  have hdecoded := DecodedFrom.of_decode haccepted
  refine ⟨fun size hsize => ?_, fun tail => ?_⟩
  · have hshorter : size < 12 →
        decode (bytes.extract 0 size) = .error (.invalidIdentifier (bytes.extract 0 size)) := by
      intro hidentifier
      apply decode_of_short_identifier
      rw [ByteArray.size_extract]
      omega
    have hlong : ∀ other, decode (bytes.extract 0 size) = .ok other →
        container.usedSize ≤ size := by
      intro other hother
      by_contra hshort
      rcases Nat.lt_or_ge size 12 with hidentifier | hidentifier
      · rw [hshorter hidentifier] at hother
        cases hother
      · obtain ⟨offset, length, herror⟩ :=
          hdecoded.decode_extract_eq_truncated hsize (Nat.lt_of_not_le hshort) hidentifier
        rw [herror] at hother
        cases hother
    refine ⟨⟨?_, ?_⟩, ?_, fun _ => hshorter, hdecoded.decode_extract_eq_truncated hsize⟩
    · intro hother
      obtain ⟨other, hother⟩ := hother
      exact hlong other hother
    · intro hused
      obtain ⟨other, hother, _⟩ := hdecoded.exists_decode (.of_extract hused hsize)
      exact ⟨other, hother⟩
    · intro other hother
      exact hdecoded.sameTexture (.of_decode hother) (.of_extract (hlong other hother) hsize)
  · exact hdecoded.exists_decode (.of_append hdecoded.usedSize_le tail)

/-- Three bytes behind the last used one may be cut off, and no more. -/
theorem decode_extract_of_twoTexels :
    let bytes := (Draft.twoTexels .smallestFirst).write ++ ⟨#[1, 2, 3]⟩
    ∃ container, decode bytes = .ok container ∧ container.usedSize = 131 ∧
      (∃ other, decode (bytes.extract 0 131) = .ok other ∧ container.SameTexture other) ∧
      (∃ offset length, decode (bytes.extract 0 130) = .error (.truncated offset length 130)) ∧
      decode (bytes.extract 0 11) = .error (.invalidIdentifier (bytes.extract 0 11)) ∧
      ∃ other, decode (bytes ++ ⟨#[4]⟩) = .ok other ∧ container.SameTexture other := by
  intro bytes
  have hsize : bytes.size = 134 := by decide +kernel
  have hanswer : (decode bytes).toOption.map usedSize = some 131 := by decide +kernel
  obtain ⟨container, haccepted, hused⟩ := Outcome.exists_ok_of_toOption_map hanswer
  obtain ⟨hcut, hextended⟩ := decode_extract_of_decode haccepted
  rw [hsize, hused] at hcut
  obtain ⟨hdecoded, hsame, _, _⟩ := hcut 131 (by decide)
  obtain ⟨_, _, _, htruncated⟩ := hcut 130 (by decide)
  obtain ⟨_, _, hidentifier, _⟩ := hcut 11 (by decide)
  obtain ⟨other, hother⟩ := hdecoded.mpr le_rfl
  exact ⟨container, haccepted, hused, ⟨other, hother, hsame other hother⟩,
    htruncated (by decide) (by decide), hidentifier (by decide) (by decide), hextended _⟩

end Container

end GpuTexture
