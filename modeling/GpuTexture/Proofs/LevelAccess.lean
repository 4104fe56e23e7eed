import Mathlib
import GpuTexture.Ktx2.Writer
import GpuTexture.Proofs.Decoding

/-!
# Access to the levels of a container

A decoded container holds an entry and a range for every level it counts, and the range of each
entry inside its bytes. So every access to a counted level answers, and every access to another
level is refused for its index.
-/

namespace GpuTexture

namespace Container

variable {container : Container} {mip : UInt32}

theorem level_eq_ok (hmip : mip < container.levelCount) {entry : LevelEntry}
    (hentry : container.levels[mip.toNat]? = some entry) : container.level mip = .ok entry := by
  unfold level
  split
  · next error hchecked =>
    rw [checkMip_eq_ok_iff.mpr hmip] at hchecked
    cases hchecked
  · next hchecked =>
    have hinside := lt_size_levels hchecked
    rw [Array.getElem?_eq_getElem hinside, Option.some.injEq] at hentry
    exact congrArg Except.ok hentry

private theorem levelData_eq_ok (hmip : mip < container.levelCount)
    (hplain : container.header.scheme = .none) {range : Nat × Nat}
    (hrange : container.ranges[mip.toNat]? = some range) :
    container.levelData mip = .ok (container.bytes.extract range.1 range.2) := by
  unfold levelData
  split
  · next error hchecked =>
    rw [checkMip_eq_ok_iff.mpr hmip] at hchecked
    cases hchecked
  · next hchecked =>
    have hinside : mip.toNat < container.ranges.size :=
      container.size_ranges ▸ lt_size_levels hchecked
    rw [Array.getElem?_eq_getElem hinside, Option.some.injEq] at hrange
    rw [if_neg (not_not.mpr hplain)]
    dsimp only
    rw [hrange]

private theorem checkMip_eq_error (hmip : container.levelCount ≤ mip) :
    checkMip mip container.levelCount = .error (.indexOutOfRange mip container.levelCount) :=
  if_neg (UInt32.not_lt.mpr hmip)

/-- A level that is not counted has no entry, no payload and no layout. -/
theorem access_eq_error (hmip : container.levelCount ≤ mip) :
    container.level mip = .error (.indexOutOfRange mip container.levelCount) ∧
      container.levelData mip = .error (.indexOutOfRange mip container.levelCount) ∧
      container.levelLayout mip = .error (.indexOutOfRange mip container.levelCount) := by
  have hrefused := checkMip_eq_error hmip
  refine ⟨?_, ?_, ?_⟩
  · unfold level
    split
    · next error hchecked =>
      rw [hrefused] at hchecked
      cases hchecked
      rfl
    · next hchecked =>
      rw [hrefused] at hchecked
      cases hchecked
  · unfold levelData
    split
    · next error hchecked =>
      rw [hrefused] at hchecked
      cases hchecked
      rfl
    · next hchecked =>
      rw [hrefused] at hchecked
      cases hchecked
  · rw [levelLayout, hrefused, Outcome.error_bind]

namespace DecodedFrom

variable {bytes : Bytes}

theorem hasSides (hdecoded : container.DecodedFrom bytes) : container.block.HasSides :=
  TextureFormat.hasSides_of_blockLayout? hdecoded.block_eq

theorem size_levels (hdecoded : container.DecodedFrom bytes) :
    container.levels.size = max 1 container.header.levelCount.toNat := by
  rw [← Array.length_toList, hdecoded.levels_eq, BlockLayout.length_orderedEntries,
    LevelEntry.length_indexAt, Header.toNat_storedLevelCount]

theorem toNat_levelCount (hdecoded : container.DecodedFrom bytes) :
    container.levelCount.toNat = container.levels.size := by
  have hsmall := container.header.levelCount.toNat_lt
  have hsize := hdecoded.size_levels
  have hword : container.levels.size < 2 ^ 32 := by omega
  exact UInt32.toNat_ofNat_of_lt' hword

theorem toNat_levelCount_eq_stored (hdecoded : container.DecodedFrom bytes) :
    container.levelCount.toNat = container.header.storedLevelCount.toNat := by
  rw [hdecoded.toNat_levelCount, hdecoded.size_levels, Header.toNat_storedLevelCount]

theorem exists_entry (hdecoded : container.DecodedFrom bytes) (hmip : mip < container.levelCount) :
    ∃ entry, container.levels[mip.toNat]? = some entry ∧
      container.ranges[mip.toNat]? = some (entry.byteOffset.toNat, entry.byteEnd) ∧
      entry.byteEnd ≤ bytes.size := by
  have hinside := lt_size_levels (checkMip_eq_ok_iff.mpr hmip)
  have hentry := Array.getElem?_eq_getElem hinside
  refine ⟨_, hentry, ?_, ?_⟩
  · rw [← Array.getElem?_toList, hdecoded.ranges_eq, List.getElem?_map, Array.getElem?_toList,
      hentry]
    rfl
  · exact hdecoded.inside _ (Array.getElem_mem_toList hinside)

/-- Every level has a layout once the base level has one. -/
theorem compute_eq (hdecoded : container.DecodedFrom bytes) (mip : UInt32) :
    LevelLayout.compute container.block container.shape mip =
      .ok (container.block.exactLayout container.shape mip) := by
  have hbase : (0 : UInt32) ≤ mip := UInt32.zero_le
  have hslices := Nat.lt_of_le_of_lt (container.shape.slices_antitone hbase) hdecoded.slices_lt
  exact (BlockLayout.compute_eq_ok_iff hdecoded.hasSides).mpr
    ⟨hslices, hdecoded.fits.of_le hbase, rfl⟩

theorem byteSize?_eq (hdecoded : container.DecodedFrom bytes) (mip : UInt32) :
    (container.block.exactLayout container.shape mip).byteSize? =
      some (container.block.packedBytes container.shape mip) :=
  BlockLayout.byteSize?_of_compute hdecoded.hasSides (hdecoded.compute_eq mip)

theorem levelLayout_eq (hdecoded : container.DecodedFrom bytes)
    (hmip : mip < container.levelCount) :
    container.levelLayout mip = .ok (container.block.exactLayout container.shape mip) := by
  rw [levelLayout, checkMip_eq_ok_iff.mpr hmip, Outcome.ok_bind, hdecoded.compute_eq]

/-- A counted level answers with its entry, the bytes its entry names, and its exact layout. -/
theorem access_eq_ok (hdecoded : container.DecodedFrom bytes) (hmip : mip < container.levelCount) :
    ∃ entry, container.levels[mip.toNat]? = some entry ∧
      container.ranges[mip.toNat]? = some (entry.byteOffset.toNat, entry.byteEnd) ∧
      entry.byteEnd ≤ bytes.size ∧ container.level mip = .ok entry ∧
      container.levelData mip = .ok (bytes.extract entry.byteOffset.toNat entry.byteEnd) ∧
      container.levelLayout mip = .ok (container.block.exactLayout container.shape mip) := by
  obtain ⟨entry, hentry, hrange, hend⟩ := hdecoded.exists_entry hmip
  have hdata := levelData_eq_ok hmip hdecoded.scheme_eq hrange
  rw [hdecoded.bytes_eq] at hdata
  exact ⟨entry, hentry, hrange, hend, level_eq_ok hmip hentry, hdata, hdecoded.levelLayout_eq hmip⟩

theorem levelData_ne_unsupported (hdecoded : container.DecodedFrom bytes) (mip scheme : UInt32) :
    container.levelData mip ≠ .error (.unsupportedCompression scheme) := by
  intro hrefused
  by_cases hmip : mip < container.levelCount
  · obtain ⟨entry, _, _, _, _, hdata, _⟩ := hdecoded.access_eq_ok hmip
    rw [hdata] at hrefused
    cases hrefused
  · rw [(access_eq_error (UInt32.not_lt.mp hmip)).2.1] at hrefused
    cases hrefused

end DecodedFrom

/-- What a decoded container answers. It owns the decoded bytes and counts the levels of its header,
at least one. A counted level has an entry and a range inside the bytes, and its payload is the
slice that its entry names; any other level is refused for its index. -/
theorem levels_of_decode {bytes : Bytes} (haccepted : decode bytes = .ok container) :
    container.bytes = bytes ∧
      container.levelCount.toNat = max 1 container.header.levelCount.toNat ∧
      container.levels.size = container.levelCount.toNat ∧
      container.ranges.size = container.levelCount.toNat ∧
      (∀ mip, mip < container.levelCount → ∃ entry layout,
        container.levels[mip.toNat]? = some entry ∧
        container.ranges[mip.toNat]? = some (entry.byteOffset.toNat,
          entry.byteOffset.toNat + entry.byteLength.toNat) ∧
        entry.byteOffset.toNat + entry.byteLength.toNat ≤ bytes.size ∧
        container.level mip = .ok entry ∧
        container.levelData mip = .ok (bytes.extract entry.byteOffset.toNat
          (entry.byteOffset.toNat + entry.byteLength.toNat)) ∧
        container.levelLayout mip = .ok layout) ∧
      (∀ mip, container.levelCount ≤ mip →
        container.level mip = .error (.indexOutOfRange mip container.levelCount) ∧
        container.levelData mip = .error (.indexOutOfRange mip container.levelCount) ∧
        container.levelLayout mip = .error (.indexOutOfRange mip container.levelCount)) ∧
      ∀ mip scheme, container.levelData mip ≠ .error (.unsupportedCompression scheme) := by
  have hdecoded := DecodedFrom.of_decode haccepted
  have hcount := hdecoded.toNat_levelCount
  refine ⟨hdecoded.bytes_eq, ?_, hcount.symm, ?_, ?_, ?_, hdecoded.levelData_ne_unsupported⟩
  · rw [hcount, hdecoded.size_levels]
  · rw [container.size_ranges, hcount]
  · intro mip hmip
    obtain ⟨entry, hentry, hrange, hend, hlevel, hdata, hlayout⟩ := hdecoded.access_eq_ok hmip
    exact ⟨entry, _, hentry, hrange, hend, hlevel, hdata, hlayout⟩
  · intro mip hmip
    exact access_eq_error hmip

end Container

def Draft.grayPair (width : UInt32) (base top : Bytes) (order : IndexOrder) : Draft where
  header := ⟨9, 1, width, 1, 0, 0, 1, 2, .none, ⟨0, 0⟩, ⟨0, 0⟩, ⟨0, 0⟩⟩
  payloads := [base, top]
  order := order

def Draft.twoTexels : IndexOrder → Draft :=
  grayPair 2 ⟨#[10, 20]⟩ ⟨#[15]⟩

theorem Container.exists_decode_twoTexels :
    ∃ container, decode (Draft.twoTexels .smallestFirst).write = .ok container ∧
      container.levelCount = 2 := by
  apply Outcome.exists_ok_of_toOption_map
  decide +kernel

theorem Container.levels_of_twoTexels :
    ∃ container, decode (Draft.twoTexels .smallestFirst).write = .ok container ∧
      container.levels.size = 2 ∧
      (∃ entry layout, container.level 1 = .ok entry ∧ container.levelLayout 1 = .ok layout ∧
        container.levelData 1 = .ok ((Draft.twoTexels .smallestFirst).write.extract
          entry.byteOffset.toNat (entry.byteOffset.toNat + entry.byteLength.toNat))) ∧
      container.levelData 2 = .error (.indexOutOfRange 2 2) := by
  obtain ⟨container, haccepted, hcount⟩ := exists_decode_twoTexels
  obtain ⟨_, _, hsize, _, hinside, houtside, _⟩ := levels_of_decode haccepted
  rw [hcount] at hsize hinside houtside
  obtain ⟨entry, layout, _, _, _, hlevel, hdata, hlayout⟩ := hinside 1 (by decide)
  exact ⟨container, haccepted, hsize, ⟨entry, layout, hlevel, hlayout, hdata⟩,
    (houtside 2 (by decide)).2.1⟩

end GpuTexture
