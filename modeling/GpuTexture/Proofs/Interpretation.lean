import Mathlib
import GpuTexture.Proofs.Truncation

/-!
# What decoding looks at

Decoding looks at few of the bytes of a container: the identifier, eight words of the header, and
the place of each payload in the index. Two runs of bytes of one length that agree there are decoded
alike, or refused alike, whatever else they hold; and a level whose own bytes agree has one payload.
-/

namespace GpuTexture

/-- Where a payload lies, without what it is decompressed to. -/
def LevelEntry.span (entry : LevelEntry) : Span UInt64 :=
  ⟨entry.byteOffset, entry.byteLength⟩

/-- Two runs of bytes of one length that open with the identifier and agree in all that decoding
looks at, as far as the bytes reach. -/
structure Bytes.SameOutline (bytes other : Bytes) : Prop where
  size_eq : other.size = bytes.size
  identifier_eq : bytes.extract 0 12 = ktx2Identifier
  other_identifier_eq : other.extract 0 12 = ktx2Identifier
  vkFormat_eq : 80 ≤ bytes.size →
    (HeaderRecord.ofBlock other).vkFormat = (HeaderRecord.ofBlock bytes).vkFormat
  shape_eq : 80 ≤ bytes.size →
    (HeaderRecord.ofBlock other).shape = (HeaderRecord.ofBlock bytes).shape
  levelCount_eq : 80 ≤ bytes.size →
    (HeaderRecord.ofBlock other).levelCount = (HeaderRecord.ofBlock bytes).levelCount
  scheme_eq : 80 ≤ bytes.size →
    (HeaderRecord.ofBlock other).scheme = (HeaderRecord.ofBlock bytes).scheme
  span_eq : ∀ i, i < (HeaderRecord.ofBlock bytes).entryCount → 80 + 24 * (i + 1) ≤ bytes.size →
    (LevelEntry.spelledAt (80 + 24 * i) other).span =
      (LevelEntry.spelledAt (80 + 24 * i) bytes).span

private theorem BlockLayout.map_span_orderedEntries (block : BlockLayout) (shape : Shape)
    {entries others : List LevelEntry}
    (hspans : others.map LevelEntry.span = entries.map LevelEntry.span) :
    (block.orderedEntries shape others).map LevelEntry.span =
      (block.orderedEntries shape entries).map LevelEntry.span := by
  have hcount : others.length = entries.length := by
    simpa using congrArg List.length hspans
  have hlengths : others.map (fun entry => entry.byteLength.toNat) =
      entries.map (fun entry => entry.byteLength.toNat) := by
    have hmapped := congrArg (List.map fun span : Span UInt64 => span.length.toNat) hspans
    rw [List.map_map, List.map_map] at hmapped
    exact hmapped
  unfold orderedEntries
  rw [hcount, hlengths]
  split
  · exact hspans
  · rw [List.map_reverse, List.map_reverse, hspans]

private theorem find?_beyond_congr {entries others : List LevelEntry} (size : Nat)
    (hspans : others.map LevelEntry.span = entries.map LevelEntry.span) :
    (others.find? fun entry =>
        decide (size < entry.byteOffset.toNat + entry.byteLength.toNat)).map LevelEntry.span =
      (entries.find? fun entry =>
        decide (size < entry.byteOffset.toNat + entry.byteLength.toNat)).map LevelEntry.span := by
  have hfind : ∀ list : List LevelEntry, (list.find? fun entry =>
        decide (size < entry.byteOffset.toNat + entry.byteLength.toNat)).map LevelEntry.span =
      (list.map LevelEntry.span).find? fun span =>
        decide (size < span.offset.toNat + span.length.toNat) := by
    intro list
    rw [List.find?_map]
    rfl
  rw [hfind, hfind, hspans]

namespace Bytes.SameOutline

variable {bytes other : Bytes}

private theorem entryCount_eq (hsame : SameOutline bytes other) (hlong : 80 ≤ bytes.size) :
    (HeaderRecord.ofBlock other).entryCount = (HeaderRecord.ofBlock bytes).entryCount := by
  rw [HeaderRecord.entryCount, hsame.levelCount_eq hlong, HeaderRecord.entryCount]

private theorem map_span_indexAt (hsame : SameOutline bytes other)
    (hindex : 80 + 24 * (HeaderRecord.ofBlock bytes).entryCount ≤ bytes.size) :
    (LevelEntry.indexAt (HeaderRecord.ofBlock bytes).entryCount 80 other).map LevelEntry.span =
      (LevelEntry.indexAt (HeaderRecord.ofBlock bytes).entryCount 80 bytes).map LevelEntry.span := by
  rw [LevelEntry.indexAt, LevelEntry.indexAt, List.map_map, List.map_map]
  apply List.map_congr_left
  intro i hi
  have hbelow := List.mem_range.mp hi
  exact hsame.span_eq i hbelow (by omega)

private theorem indexRefusal?_eq (hsame : SameOutline bytes other) (block : BlockLayout)
    (shape : Shape) :
    indexRefusal? block shape (HeaderRecord.ofBlock bytes).entryCount other =
      indexRefusal? block shape (HeaderRecord.ofBlock bytes).entryCount bytes := by
  unfold indexRefusal?
  rw [hsame.size_eq]
  by_cases hindex : bytes.size < 80 + 24 * (HeaderRecord.ofBlock bytes).entryCount
  · rw [if_pos hindex, if_pos hindex]
  · rw [if_neg hindex, if_neg hindex]
    have hspans := find?_beyond_congr bytes.size (block.map_span_orderedEntries shape
      (hsame.map_span_indexAt (Nat.not_lt.mp hindex)))
    have hrefusal := congrArg (Option.map fun span : Span UInt64 =>
      ContainerError.truncated span.offset.toNat span.length.toNat bytes.size) hspans
    rw [Option.map_map, Option.map_map] at hrefusal
    split
    · rfl
    · exact hrefusal

theorem refusal?_eq (hsame : SameOutline bytes other) : refusal? other = refusal? bytes := by
  unfold refusal?
  dsimp only
  rw [if_neg (not_not.mpr hsame.other_identifier_eq), if_neg (not_not.mpr hsame.identifier_eq),
    hsame.size_eq]
  by_cases hshort : bytes.size < 80
  · rw [if_pos hshort, if_pos hshort]
  · have hlong := Nat.not_lt.mp hshort
    rw [if_neg hshort, if_neg hshort, hsame.vkFormat_eq hlong, hsame.shape_eq hlong,
      hsame.scheme_eq hlong, hsame.entryCount_eq hlong]
    simp only [hsame.indexRefusal?_eq]

end Bytes.SameOutline

namespace Container

/-- Two containers that may hold different bytes, but describe the same texture with its payloads in
the same places. -/
structure SameDescription (container other : Container) : Prop where
  format_eq : other.format = container.format
  dimension_eq : other.shape.dimension = container.shape.dimension
  view_eq : other.view = container.view
  extent_eq : other.extent = container.extent
  block_eq : other.block = container.block
  levelCount_eq : other.levelCount = container.levelCount
  levelLayout_eq : ∀ mip, other.levelLayout mip = container.levelLayout mip
  span_eq : ∀ mip,
    (other.level mip).map LevelEntry.span = (container.level mip).map LevelEntry.span

namespace DecodedFrom

variable {container other : Container} {bytes run : Bytes}

theorem storedLevelCount_eq (hdecoded : container.DecodedFrom bytes) :
    container.header.storedLevelCount.toNat = (HeaderRecord.ofBlock bytes).entryCount := by
  rw [Header.toNat_storedLevelCount]
  exact congrArg HeaderRecord.entryCount hdecoded.record_eq

theorem shape_eq (hdecoded : container.DecodedFrom bytes) :
    container.shape = (HeaderRecord.ofBlock bytes).shape :=
  congrArg HeaderRecord.shape hdecoded.record_eq

private theorem vkFormat_eq (hdecoded : container.DecodedFrom bytes) :
    container.header.vkFormat = (HeaderRecord.ofBlock bytes).vkFormat :=
  congrArg HeaderRecord.vkFormat hdecoded.record_eq

private theorem map_span_levels (hdecoded : container.DecodedFrom bytes)
    (hother : other.DecodedFrom run) (hsame : bytes.SameOutline run)
    (hblock : other.block = container.block) :
    other.levels.toList.map LevelEntry.span = container.levels.toList.map LevelEntry.span := by
  have hlong := hdecoded.readFrom.long
  have hindex := hdecoded.index_le
  rw [hdecoded.storedLevelCount_eq] at hindex
  rw [hother.levels_eq, hdecoded.levels_eq, hblock, hother.shape_eq, hdecoded.shape_eq,
    hsame.shape_eq hlong, hother.storedLevelCount_eq, hdecoded.storedLevelCount_eq,
    hsame.entryCount_eq hlong]
  exact container.block.map_span_orderedEntries _ (hsame.map_span_indexAt hindex)

private theorem levelCount_eq_of_map_span (hspans : other.levels.toList.map LevelEntry.span =
    container.levels.toList.map LevelEntry.span) : other.levelCount = container.levelCount := by
  have hsize : other.levels.size = container.levels.size := by
    simpa using congrArg List.length hspans
  rw [levelCount, hsize, levelCount]

private theorem map_span_level (hdecoded : container.DecodedFrom bytes)
    (hother : other.DecodedFrom run)
    (hspans : other.levels.toList.map LevelEntry.span = container.levels.toList.map LevelEntry.span)
    (mip : UInt32) :
    (other.level mip).map LevelEntry.span = (container.level mip).map LevelEntry.span := by
  have hcount := levelCount_eq_of_map_span hspans
  by_cases hmip : mip < container.levelCount
  · obtain ⟨entry, hentry, _⟩ := hdecoded.exists_entry hmip
    obtain ⟨copy, hcopy, _⟩ := hother.exists_entry (hcount ▸ hmip)
    rw [level_eq_ok hmip hentry, level_eq_ok (hcount ▸ hmip) hcopy, Outcome.map_ok, Outcome.map_ok]
    have hlisted := congrArg (fun spans : List (Span UInt64) => spans[mip.toNat]?) hspans
    rw [← Array.getElem?_toList] at hentry hcopy
    simpa [hentry, hcopy] using hlisted
  · have hbeyond := UInt32.not_lt.mp hmip
    rw [(access_eq_error hbeyond).1, (access_eq_error (hcount ▸ hbeyond)).1, hcount]

theorem sameDescription (hdecoded : container.DecodedFrom bytes) (hother : other.DecodedFrom run)
    (hsame : bytes.SameOutline run) : container.SameDescription other := by
  have hlong := hdecoded.readFrom.long
  have hcode : other.header.vkFormat = container.header.vkFormat := by
    rw [hother.vkFormat_eq, hdecoded.vkFormat_eq, hsame.vkFormat_eq hlong]
  have hshape : other.shape = container.shape := by
    rw [hother.shape_eq, hdecoded.shape_eq, hsame.shape_eq hlong]
  have hfacts := hdecoded.hasFacts.unique hother.hasFacts hcode hshape
  obtain ⟨hformat, hblock, hview, hextent⟩ := HeaderFacts.mk.inj hfacts
  have hspans := hdecoded.map_span_levels hother hsame hblock
  have hcount := levelCount_eq_of_map_span hspans
  refine ⟨hformat, by rw [hshape], hview, hextent, hblock, hcount, ?_, ?_⟩
  · intro mip
    rw [levelLayout, levelLayout, hcount, hblock, hshape]
  · exact hdecoded.map_span_level hother hspans

private theorem levelData_eq_of_extract (hdecoded : container.DecodedFrom bytes)
    (hother : other.DecodedFrom run) (hsame : container.SameDescription other) {mip : UInt32}
    (hbytes : ∀ entry, container.level mip = .ok entry →
      run.extract entry.byteOffset.toNat (entry.byteOffset.toNat + entry.byteLength.toNat) =
        bytes.extract entry.byteOffset.toNat (entry.byteOffset.toNat + entry.byteLength.toNat)) :
    other.levelData mip = container.levelData mip := by
  have hcount := hsame.levelCount_eq
  by_cases hmip : mip < container.levelCount
  · obtain ⟨entry, _, _, _, hlevel, hdata, _⟩ := hdecoded.access_eq_ok hmip
    obtain ⟨copy, _, _, _, hcopy, hother, _⟩ := hother.access_eq_ok (hcount ▸ hmip)
    have hspan := hsame.span_eq mip
    rw [hlevel, hcopy, Outcome.map_ok, Outcome.map_ok, Except.ok.injEq] at hspan
    obtain ⟨hoffset, hlength⟩ := Span.mk.inj hspan
    rw [hother, hdata, LevelEntry.byteEnd, LevelEntry.byteEnd, hoffset, hlength, hbytes entry hlevel]
  · have hbeyond := UInt32.not_lt.mp hmip
    rw [(access_eq_error hbeyond).2.1, (access_eq_error (hcount ▸ hbeyond)).2.1, hcount]

end DecodedFrom

/-- Decoding looks at the outline of its bytes alone. Two runs of one outline are refused with the
same error, or both are decoded to the same description of a texture; and a level has the same payload
in both wherever they agree on the bytes at its place. Runs that end within the header are refused
alike whatever they hold. -/
theorem decode_of_sameOutline {bytes other : Bytes} (hsame : bytes.SameOutline other) :
    ((∃ error, decode bytes = .error error ∧ decode other = .error error) ∨
      ∃ container copy, decode bytes = .ok container ∧ decode other = .ok copy ∧
        container.SameDescription copy ∧
        ∀ mip, (∀ entry, container.level mip = .ok entry →
          other.extract entry.byteOffset.toNat (entry.byteOffset.toNat + entry.byteLength.toNat) =
            bytes.extract entry.byteOffset.toNat
              (entry.byteOffset.toNat + entry.byteLength.toNat)) →
          copy.levelData mip = container.levelData mip) ∧
    (bytes.size < 80 → decode bytes = .error (.truncated 0 80 bytes.size) ∧
      decode other = .error (.truncated 0 80 bytes.size)) := by
  have hrefusal := hsame.refusal?_eq
  constructor
  · rcases decode_cases bytes with ⟨error, hrefused, herror⟩ | ⟨hnone, container, haccepted, hdecoded⟩
    · left
      exact ⟨error, herror, decode_eq_error_iff.mpr (hrefusal.trans hrefused)⟩
    · right
      rcases decode_cases other with ⟨error, hrefused, _⟩ | ⟨_, copy, hcopy, hother⟩
      · rw [hrefusal, hnone] at hrefused
        cases hrefused
      · have hdescription := hdecoded.sameDescription hother hsame
        refine ⟨container, copy, haccepted, hcopy, hdescription, fun mip hbytes => ?_⟩
        exact hdecoded.levelData_eq_of_extract hother hdescription hbytes
  · intro hshort
    have hother : other.size < 80 := by
      rw [hsame.size_eq]
      exact hshort
    have hrefused := decode_of_short_header hsame.other_identifier_eq hother
    rw [hsame.size_eq] at hrefused
    exact ⟨decode_of_short_header hsame.identifier_eq hshort, hrefused⟩

end Container

def Draft.twoTexelsRedrawn : Draft where
  header := ⟨9, 7, 2, 1, 0, 0, 1, 2, .none, ⟨1, 2⟩, ⟨3, 4⟩, ⟨5, 6⟩⟩
  payloads := [⟨#[10, 20]⟩, ⟨#[99]⟩]
  order := .smallestFirst

theorem Draft.sameOutline_twoTexelsRedrawn :
    (Draft.twoTexels .smallestFirst).write.SameOutline Draft.twoTexelsRedrawn.write := by
  refine ⟨by decide +kernel, by decide +kernel, by decide +kernel, fun _ => by decide +kernel,
    fun _ => by decide +kernel, fun _ => by decide +kernel, fun _ => by decide +kernel, ?_⟩
  have hspans : ∀ i, i < 2 →
      (LevelEntry.spelledAt (80 + 24 * i) Draft.twoTexelsRedrawn.write).span =
        (LevelEntry.spelledAt (80 + 24 * i) (Draft.twoTexels .smallestFirst).write).span := by
    decide +kernel
  have hcount : (HeaderRecord.ofBlock (Draft.twoTexels .smallestFirst).write).entryCount = 2 := by
    decide +kernel
  rw [hcount]
  exact fun i hi _ => hspans i hi

theorem Container.decode_of_sameOutline_twoTexels :
    let bytes := (Draft.twoTexels .smallestFirst).write
    let other := Draft.twoTexelsRedrawn.write
    bytes.SameOutline other ∧ ∃ container copy, decode bytes = .ok container ∧
      decode other = .ok copy ∧ container.SameDescription copy ∧
      copy.levelData 0 = container.levelData 0 ∧ copy.levelData 1 ≠ container.levelData 1 := by
  intro bytes other
  have hsame : bytes.SameOutline other := Draft.sameOutline_twoTexelsRedrawn
  have hshown : (decode bytes).toOption.map (fun container => ((container.level 0).toOption.map
      LevelEntry.span, (container.levelData 1).toOption)) =
        some (some ⟨129, 2⟩, some ⟨#[15]⟩) := by decide +kernel
  have hotherShown : (decode other).toOption.map
      (fun container => (container.levelData 1).toOption) = some (some ⟨#[99]⟩) := by
    decide +kernel
  obtain ⟨container, haccepted, hlevels⟩ := Outcome.exists_ok_of_toOption_map hshown
  obtain ⟨copy, hcopy, hredrawn⟩ := Outcome.exists_ok_of_toOption_map hotherShown
  obtain ⟨hbase, htop⟩ := Prod.mk.inj hlevels
  obtain ⟨⟨error, hrefused, _⟩ | ⟨first, second, hfirst, hsecond, hdescription, hdata⟩, _⟩ :=
    decode_of_sameOutline hsame
  · rw [haccepted] at hrefused
    cases hrefused
  rw [haccepted, Except.ok.injEq] at hfirst
  rw [hcopy, Except.ok.injEq] at hsecond
  subst hfirst hsecond
  refine ⟨hsame, container, copy, haccepted, hcopy, hdescription, hdata 0 ?_, ?_⟩
  · intro entry hentry
    rw [hentry] at hbase
    obtain ⟨hoffset, hlength⟩ := Span.mk.inj (Option.some.inj hbase)
    rw [hoffset, hlength]
    decide +kernel
  · intro hequal
    rw [hequal, htop] at hredrawn
    revert hredrawn
    decide

end GpuTexture
