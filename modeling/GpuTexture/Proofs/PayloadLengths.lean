import Mathlib
import GpuTexture.Proofs.LevelAccess

/-!
# Payloads that fill their levels

A texture source is meant to hand out, for every level, exactly the bytes that the layout of the
level spans. Decoding compares the lengths in the index with the sizes of the mip chain to find the
order of the index, and refuses nothing for them. So a container fills its levels exactly when its
index, read forwards or backwards, has the sizes of the chain; other containers are accepted too.
-/

namespace GpuTexture

namespace BlockLayout

/-- Putting an index in order keeps lengths that fit the chain in either direction. -/
private theorem byteLength_orderedEntries_iff (block : BlockLayout) (shape : Shape)
    {entries : List LevelEntry} (hpos : 0 < entries.length) (hcount : entries.length ≤ 2 ^ 32) :
    (block.orderedEntries shape entries).map (fun entry => entry.byteLength.toNat) =
        block.chainBytes shape entries.length ↔
      lengthsMatch entries (block.chainBytes shape entries.length) = true ∨
        lengthsMatch entries.reverse (block.chainBytes shape entries.length) = true := by
  have hmirror := chainBytes_reverse_eq_self_iff block shape hpos hcount
  simp only [lengthsMatch, beq_iff_eq, orderedEntries]
  split
  · next hkept => simp [hkept.1]
  · next hturned =>
    constructor
    · exact Or.inr
    · intro hmatch
      rcases hmatch with hread | hreversed
      · -- The chain was read forwards and still turned, so it is its own mirror image.
        have hends : block.packedBytes shape 0 =
            block.packedBytes shape (.ofNat (entries.length - 1)) := by
          by_contra hdiffer
          exact hturned ⟨hread, hdiffer⟩
        rw [List.map_reverse, hread]
        exact hmirror.mpr hends
      · exact hreversed

end BlockLayout

namespace Container

/-- The payload of a level holds exactly the bytes that its layout spans. -/
def IsFilled (container : Container) (mip : UInt32) : Prop :=
  ∃ level data, container.levelLayout mip = .ok level ∧ container.levelData mip = .ok data ∧
    data.size = level.layout.bytesPerRow.toNat * level.layout.rowsPerImage.toNat *
      level.extent.depthOrArrayLayers.toNat

variable {container : Container} {bytes : Bytes} {mip : UInt32}

namespace DecodedFrom

private theorem packedSize_eq (hdecoded : container.DecodedFrom bytes) (mip : UInt32) :
    (container.block.exactLayout container.shape mip).packedSize =
      container.block.packedBytes container.shape mip := by
  have hsize := hdecoded.byteSize?_eq mip
  rw [LevelLayout.byteSize?_eq] at hsize
  split at hsize
  · exact Option.some.inj hsize
  · cases hsize

theorem isFilled_iff (hdecoded : container.DecodedFrom bytes) (hmip : mip < container.levelCount)
    {entry : LevelEntry} (hentry : container.levels[mip.toNat]? = some entry) :
    container.IsFilled mip ↔
      entry.byteLength.toNat = container.block.packedBytes container.shape mip := by
  obtain ⟨other, hother, _, hend, _, hdata, hlayout⟩ := hdecoded.access_eq_ok hmip
  have hsame : other = entry := by simpa [hentry] using hother.symm
  subst hsame
  have hsize : (bytes.extract other.byteOffset.toNat other.byteEnd).size =
      other.byteLength.toNat := by
    rw [ByteArray.size_extract, Nat.min_eq_left hend, LevelEntry.byteEnd, Nat.add_sub_cancel_left]
  have hpacked := hdecoded.packedSize_eq mip
  rw [LevelLayout.packedSize] at hpacked
  simp only [IsFilled, hlayout, hdata, Except.ok.injEq, exists_and_left, exists_eq_left', hsize,
    hpacked]

private theorem forall_isFilled_iff (hdecoded : container.DecodedFrom bytes) :
    (∀ mip, mip < container.levelCount → container.IsFilled mip) ↔
      container.levels.toList.map (fun entry => entry.byteLength.toNat) =
        container.block.chainBytes container.shape container.levels.size := by
  have hcount := hdecoded.toNat_levelCount
  have hentry : ∀ i (hi : i < container.levels.size), container.levels[i]? =
      some container.levels.toList[i] := by
    intro i hi
    simp [hi]
  constructor
  · intro hfilled
    apply List.ext_getElem
    · simp
    · intro i hi _
      have hi : i < container.levels.size := by simpa using hi
      obtain ⟨hmip, hword⟩ := ofNat_lt_word (hcount.symm ▸ hi)
      have hfound : container.levels[(UInt32.ofNat i).toNat]? = some container.levels.toList[i] := by
        rw [hword]
        exact hentry i hi
      rw [List.getElem_map, BlockLayout.getElem_chainBytes]
      exact (hdecoded.isFilled_iff hmip hfound).mp (hfilled _ hmip)
  · intro hlengths mip hmip
    have hi : mip.toNat < container.levels.size := hcount ▸ UInt32.lt_iff_toNat_lt.mp hmip
    rw [hdecoded.isFilled_iff hmip (hentry _ hi)]
    have hlevel := congrArg (fun sizes => sizes[mip.toNat]?) hlengths
    simpa [hi, BlockLayout.chainBytes] using hlevel

end DecodedFrom

/-- Which decoded containers fill their levels. The index is read as `entries`, and the levels are
these entries or their mirror image, whichever the sizes of the chain suggest. A level is filled
exactly when its entry has the size of its layout, and all levels are exactly when the index has the
sizes of the chain in one of the two directions. -/
theorem isFilled_of_decode (haccepted : decode bytes = .ok container) :
    ∃ entries next sizes,
      (LevelEntry.readMany container.levelCount.toNat).run ⟨bytes, 80⟩ = .ok entries next ∧
      levelSizes container.block container.shape container.levelCount.toNat = .ok sizes ∧
      (container.levels.toList = entries ∨ container.levels.toList = entries.reverse) ∧
      (∀ mip, mip < container.levelCount → ∃ entry, container.level mip = .ok entry ∧
        (container.IsFilled mip ↔ sizes[mip.toNat]? = some entry.byteLength.toNat)) ∧
      ((∀ mip, mip < container.levelCount → container.IsFilled mip) ↔
        lengthsMatch entries sizes = true ∨ lengthsMatch entries.reverse sizes = true) := by
  have hdecoded := DecodedFrom.of_decode haccepted
  have hcount := hdecoded.toNat_levelCount_eq_stored
  have hread := LevelEntry.readMany_eq hdecoded.readFrom.long container.levelCount.toNat
  rw [if_pos (hcount ▸ hdecoded.index_le)] at hread
  have hsizes := BlockLayout.levelSizes_eq_ok hdecoded.hasSides hdecoded.slices_lt hdecoded.fits
    container.levelCount.toNat
  have hlevels := hdecoded.levels_eq
  rw [← hcount] at hlevels
  refine ⟨_, _, _, hread, hsizes, ?_, ?_, ?_⟩
  · rw [hlevels, BlockLayout.orderedEntries]
    split
    · exact .inl rfl
    · exact .inr rfl
  · intro mip hmip
    obtain ⟨entry, hentry, _, _, hlevel, _, _⟩ := hdecoded.access_eq_ok hmip
    have hbelow := UInt32.lt_iff_toNat_lt.mp hmip
    refine ⟨entry, hlevel, ?_⟩
    rw [hdecoded.isFilled_iff hmip hentry]
    simp [BlockLayout.chainBytes, hbelow, eq_comm]
  · have hlength := LevelEntry.length_indexAt container.levelCount.toNat 80 bytes
    have hpos : 0 < container.levelCount.toNat := by
      rw [hcount, Header.toNat_storedLevelCount]
      omega
    have hsmall : container.levelCount.toNat ≤ 2 ^ 32 := Nat.le_of_lt (UInt32.toNat_lt _)
    have horder := container.block.byteLength_orderedEntries_iff container.shape
      (hlength.symm ▸ hpos) (hlength.symm ▸ hsmall)
    rw [hlength] at horder
    rw [hdecoded.forall_isFilled_iff, hlevels, ← hdecoded.toNat_levelCount]
    exact horder

theorem isFilled_of_twoTexels :
    ∃ container, decode (Draft.twoTexels .baseFirst).write = .ok container ∧
      container.IsFilled 0 ∧ container.IsFilled 1 := by
  have hanswers : (decode (Draft.twoTexels .baseFirst).write).toOption.map (fun container =>
      (container.levelCount, (levelSizes container.block container.shape 2).toOption)) =
        some (2, some [2, 1]) := by
    decide +kernel
  have hindex : ((LevelEntry.readMany 2).answer
      ⟨(Draft.twoTexels .baseFirst).write, 80⟩).toOption.map
        (fun answer => answer.1.map fun entry => entry.byteLength.toNat) = some [2, 1] := by
    decide +kernel
  obtain ⟨container, haccepted, hshown⟩ := Outcome.exists_ok_of_toOption_map hanswers
  obtain ⟨hcount, hchain⟩ := Prod.mk.inj hshown
  obtain ⟨entries, next, sizes, hread, hsizes, _, _, hfilled⟩ := isFilled_of_decode haccepted
  rw [hcount] at hread hsizes hfilled
  change (LevelEntry.readMany 2).run _ = _ at hread
  change levelSizes _ _ 2 = _ at hsizes
  rw [Reading.answer_of_ok hread] at hindex
  rw [hsizes] at hchain
  have hlengths : entries.map (fun entry => entry.byteLength.toNat) = [2, 1] :=
    Option.some.inj hindex
  have hmatch : lengthsMatch entries sizes = true := by
    rw [lengthsMatch, hlengths, Option.some.inj hchain]
    rfl
  have hall := hfilled.mpr (.inl hmatch)
  exact ⟨container, haccepted, hall 0 (by decide), hall 1 (by decide)⟩

end Container

def Draft.grayTexel (payload : Bytes) : Draft where
  header := ⟨9, 1, 1, 1, 0, 0, 1, 1, .none, ⟨0, 0⟩, ⟨0, 0⟩, ⟨0, 0⟩⟩
  payloads := [payload]
  order := .smallestFirst

/-- A payload that is longer than its level is handed out whole, and one that is shorter as it is. -/
theorem Container.exists_unfilled_grayTexel :
    (∃ container level data, decode (Draft.grayTexel ⟨#[7, 9]⟩).write = .ok container ∧
      0 < container.levelCount ∧ container.levelLayout 0 = .ok level ∧
      container.levelData 0 = .ok data ∧
      level.layout.bytesPerRow.toNat * level.layout.rowsPerImage.toNat *
        level.extent.depthOrArrayLayers.toNat < data.size) ∧
    ∃ container level data, decode (Draft.grayTexel .empty).write = .ok container ∧
      0 < container.levelCount ∧ container.levelLayout 0 = .ok level ∧
      container.levelData 0 = .ok data ∧
      data.size < level.layout.bytesPerRow.toNat * level.layout.rowsPerImage.toNat *
        level.extent.depthOrArrayLayers.toNat := by
  have hanswers : ∀ payload ∈ [⟨#[7, 9]⟩, ByteArray.empty],
      ∃ container, decode (Draft.grayTexel payload).write = .ok container ∧
        0 < container.levelCount ∧
        container.levelLayout 0 = .ok ⟨0, ⟨0, 1, 1⟩, ⟨1, 1, 1⟩⟩ ∧
        container.levelData 0 = .ok payload := by
    intro payload hpayload
    have hevaluated : (decode (Draft.grayTexel payload).write).toOption.map (fun container =>
        (container.levelCount, container.levelLayout 0, container.levelData 0)) =
          some (1, .ok ⟨0, ⟨0, 1, 1⟩, ⟨1, 1, 1⟩⟩, .ok payload) := by
      simp only [List.mem_cons, List.not_mem_nil, or_false] at hpayload
      rcases hpayload with rfl | rfl <;> decide +kernel
    obtain ⟨container, haccepted, hshown⟩ := Outcome.exists_ok_of_toOption_map hevaluated
    obtain ⟨hcount, hlayout, hdata⟩ := by simpa only [Prod.mk.injEq] using hshown
    exact ⟨container, haccepted, by rw [hcount]; decide, hlayout, hdata⟩
  obtain ⟨long, haccepted, hlevel, hlayout, hdata⟩ := hanswers ⟨#[7, 9]⟩ (by simp)
  obtain ⟨short, haccepted', hlevel', hlayout', hdata'⟩ := hanswers .empty (by simp)
  exact ⟨⟨long, _, _, haccepted, hlevel, hlayout, hdata, by decide⟩,
    ⟨short, _, _, haccepted', hlevel', hlayout', hdata', by decide⟩⟩

end GpuTexture
